import Dispatchers.Proofs.Text.SnakeCase

namespace Dispatchers.Text

/-- The name ends in `test`, behind an underscore or set off by capitals from what stands before. -/
inductive EndsInTest : List Char → Prop where
  | behind (front : List Char) {word : List Char}
      (spelled : word = ['t', 'e', 's', 't'] ∨ word = ['T', 'e', 's', 't'] ∨
        word = ['T', 'E', 'S', 'T']) : EndsInTest (front ++ '_' :: word)
  | capital (front : List Char) {p : Char}
      (cased : isLowercase p = true ∨ p.isDigit = true ∨ isUppercase p = true) :
      EndsInTest (front ++ p :: ['T', 'e', 's', 't'])
  | capitals (front : List Char) {p : Char} (cased : isLowercase p = true ∨ p.isDigit = true) :
      EndsInTest (front ++ p :: ['T', 'E', 'S', 'T'])

section Ends

variable {previous : Option Char} {c d : Char} {s t u front : List Char}

theorem getLast?_or (front : List Char) (c : Char) (previous : Option Char) :
    (c :: front).getLast?.or previous = front.getLast?.or (some c) := by
  cases front with
  | nil => rfl
  | cons d front => simp [List.getLast?_cons]

/-- What a text becomes does not depend on what stands before its last character. -/
theorem snakeAfter_suffix (front s : List Char) (previous : Option Char) :
    snakeAfter (front.getLast?.or previous) s <:+ snakeAfter previous (front ++ s) := by
  induction front generalizing previous with
  | nil => exact List.suffix_refl _
  | cons c front ih =>
    rw [getLast?_or, List.cons_append, snakeAfter_cons, ← List.append_assoc]
    exact (ih (some c)).trans (List.suffix_append _ _)

theorem exists_piece (ends : u <:+ snakeAfter previous s) (full : u ≠ []) :
    ∃ front c rest piece, s = front ++ c :: rest ∧ piece ≠ [] ∧
      piece <:+ separator (front.getLast?.or previous) c rest.head? ++ lowered c ∧
      u = piece ++ snakeAfter (some c) rest := by
  induction s generalizing previous with
  | nil => exact absurd (List.suffix_nil.mp ends) full
  | cons c s ih =>
    rw [snakeAfter_cons, ← List.append_assoc] at ends
    obtain ⟨start, whole⟩ := ends
    rcases List.append_eq_append_iff.mp whole with ⟨piece, own, rest⟩ | ⟨skipped, -, rest⟩
    · by_cases empty : piece = []
      · rw [empty, List.nil_append] at rest
        obtain ⟨front, c', rest', piece', rfl, some, within, same⟩ := ih ⟨[], rest⟩
        exact ⟨c :: front, c', rest', piece', rfl, some, by rwa [getLast?_or], same⟩
      · exact ⟨[], c, s, piece, rfl, empty, ⟨start, own.symm⟩, rest⟩
    · obtain ⟨front, c', rest', piece', rfl, some, within, same⟩ := ih ⟨skipped, rest.symm⟩
      exact ⟨c :: front, c', rest', piece', rfl, some, by rwa [getLast?_or], same⟩

theorem eq_or_eq_toUpper (ascii : c.toNat < 128) : c = c.toLower ∨ c = c.toLower.toUpper :=
  forall_ascii (p := fun c => c = c.toLower ∨ c = c.toLower.toUpper) (by decide) ascii

/-- Only the two spellings of an ASCII letter become that letter, `i` and `k` apart. -/
theorem lowered_append_eq (small : 0 < d.toNat ∧ d.toNat < 128) (other : d ≠ 'i' ∧ d ≠ 'k')
    (same : lowered c ++ s = d :: t) : (c = d ∨ c = d.toUpper) ∧ s = t := by
  by_cases upper : isUppercase c = true
  · have converted : lowered c = toLowercase c := if_pos upper
    rw [converted] at same
    have member : d ∈ toLowercase c := by
      have full : toLowercase c ≠ [] := converted ▸ lowered_ne_nil c
      obtain ⟨first, others, spelled⟩ := List.exists_cons_of_ne_nil full
      rw [spelled] at same ⊢
      rw [(List.cons.inj same).1]
      exact List.mem_cons_self
    obtain ⟨ascii, rfl⟩ := toLower_of_mem_toLowercase small other member
    rw [toLowercase_ascii ascii] at same
    exact ⟨eq_or_eq_toUpper ascii, (List.cons.inj same).2⟩
  · rw [lowered, if_neg upper] at same
    exact ⟨.inl (List.cons.inj same).1, (List.cons.inj same).2⟩

theorem exists_spelling (small : 0 < d.toNat ∧ d.toNat < 128)
    (other : d ≠ '_' ∧ d ≠ 'i' ∧ d ≠ 'k') (same : snakeAfter previous s = d :: t) :
    ∃ c r, s = c :: r ∧ (c = d ∨ c = d.toUpper) ∧ separator previous c r.head? = [] ∧
      snakeAfter (some c) r = t := by
  cases s with
  | nil => cases same
  | cons c r =>
    rw [snakeAfter_cons] at same
    rcases separator_cases previous c r.head? with none | ⟨one, -⟩
    · rw [none] at same
      obtain ⟨spelled, rest⟩ := lowered_append_eq small other.2 same
      exact ⟨c, r, rfl, spelled, none, rest⟩
    · rw [one] at same
      exact absurd (List.cons.inj same).1.symm other.1

theorem eq_nil_of_snakeAfter (same : snakeAfter previous s = []) : s = [] := by
  cases s with
  | nil => rfl
  | cons c s =>
    rw [snakeAfter_cons, List.append_eq_nil_iff, List.append_eq_nil_iff] at same
    exact absurd same.2.1 (lowered_ne_nil c)

theorem tail_of_test (first : c = 't' ∨ c = 'T') (same : snakeAfter (some c) s = ['e', 's', 't']) :
    s = ['e', 's', 't'] ∨ c = 'T' ∧ s = ['E', 'S', 'T'] := by
  obtain ⟨c₂, r₂, rfl, spelled₂, close₂, same⟩ := exists_spelling (by decide) (by decide) same
  obtain ⟨c₃, r₃, rfl, spelled₃, close₃, same⟩ := exists_spelling (by decide) (by decide) same
  obtain ⟨c₄, r₄, rfl, spelled₄, close₄, same⟩ := exists_spelling (by decide) (by decide) same
  obtain rfl := eq_nil_of_snakeAfter same
  rcases first with rfl | rfl
  -- capitals behind a small letter, or in front of one, would be separated
  all_goals
    rcases spelled₂ with rfl | rfl <;> rcases spelled₃ with rfl | rfl <;>
      rcases spelled₄ with rfl | rfl
  all_goals first
    | exact .inl rfl
    | exact .inr ⟨rfl, rfl⟩
    | exact absurd close₂ (by decide)
    | exact absurd close₃ (by decide)
    | exact absurd close₄ (by decide)

theorem startsWord_some {p : Char} {next : Option Char} :
    startsWord (some p) next = true ↔ p ≠ '_' ∧ (isLowercase p = true ∨ p.isDigit = true ∨
      isUppercase p = true ∧ next.any isLowercase = true) := by
  simp [startsWord, or_assoc]

theorem ne_underscore {p : Char}
    (cased : isLowercase p = true ∨ p.isDigit = true ∨ isUppercase p = true) : p ≠ '_' := by
  rintro rfl
  exact absurd cased (by decide)

theorem endsInTest_of_starts (upper : isUppercase c = true)
    (starts : startsWord (front.getLast?.or none) s.head? = true)
    (first : c = 't' ∨ c = 'T') (rest : snakeAfter (some c) s = ['e', 's', 't']) :
    EndsInTest (front ++ c :: s) := by
  have capital : c = 'T' := by
    rcases first with rfl | rfl
    · exact absurd upper (by decide)
    · rfl
  subst capital
  rw [Option.or_none] at starts
  obtain ⟨p, last, -⟩ := ne_of_startsWord starts
  obtain ⟨front', rfl⟩ := List.getLast?_eq_some_iff.mp last
  rw [last, startsWord_some] at starts
  rw [List.append_assoc, List.singleton_append]
  rcases tail_of_test (.inr rfl) rest with rfl | ⟨-, rfl⟩
  · refine .capital front' ?_
    rcases starts.2 with small | digit | ⟨large, -⟩
    · exact .inl small
    · exact .inr (.inl digit)
    · exact .inr (.inr large)
  · refine .capitals front' ?_
    rcases starts.2 with small | digit | ⟨-, next⟩
    · exact .inl small
    · exact .inr digit
    · exact absurd next (by decide)

theorem endsInTest_of_behind (rest : snakeAfter (some '_') s = ['t', 'e', 's', 't'])
    (front : List Char) : EndsInTest (front ++ '_' :: s) := by
  obtain ⟨c, r, rfl, first, -, rest⟩ := exists_spelling (by decide) (by decide) rest
  refine .behind front ?_
  rcases tail_of_test (by simpa using first) rest with rfl | ⟨rfl, rfl⟩
  · rcases first with rfl | rfl
    · exact .inl rfl
    · exact .inr (.inl rfl)
  · exact .inr (.inr rfl)

theorem endsInTest_of_suffix (ends : ['_', 't', 'e', 's', 't'] <:+ snakeAfter none s) :
    EndsInTest s := by
  obtain ⟨front, c, rest, piece, rfl, full, within, same⟩ := exists_piece ends (by decide)
  obtain ⟨first, others, rfl⟩ := List.exists_cons_of_ne_nil full
  obtain ⟨lead, tested⟩ := List.cons.inj same
  subst lead
  obtain ⟨skipped, whole⟩ := within
  -- the underscore was in the text, or it separates what stands behind it
  by_cases underscore : c = '_'
  · subst underscore
    have alone : separator (front.getLast?.or none) '_' rest.head? ++ lowered '_' = ['_'] := rfl
    rw [alone] at whole
    have nothing : others = [] := by
      have length := congrArg List.length whole
      simp only [List.length_append, List.length_cons, List.length_nil] at length
      exact List.length_eq_zero_iff.mp (by omega)
    rw [nothing] at tested
    exact endsInTest_of_behind tested.symm front
  · have free : '_' ∉ lowered c := fun member => underscore (eq_underscore_of_mem_lowered member)
    rcases separator_cases (front.getLast?.or none) c rest.head? with none | ⟨one, upper, starts⟩
    · rw [none, List.nil_append] at whole
      exact absurd (whole ▸ List.mem_append_right _ List.mem_cons_self) free
    · rw [one, List.singleton_append] at whole
      rcases List.append_eq_cons_iff.mp whole with ⟨-, here⟩ | ⟨more, -, later⟩
      · rw [(List.cons.inj here).2] at tested
        obtain ⟨first, rest⟩ := lowered_append_eq (d := 't') (by decide) (by decide) tested.symm
        exact endsInTest_of_starts upper starts (by simpa using first) rest
      · exact absurd (later ▸ List.mem_append_right _ List.mem_cons_self) free

theorem suffix_of_starts {p : Char} (starts : startsWord (some p) s.head? = true)
    (rest : snakeAfter (some 'T') s = ['e', 's', 't']) (front : List Char) :
    ['_', 't', 'e', 's', 't'] <:+ snakeAfter none (front ++ p :: 'T' :: s) := by
  have word : snakeAfter (some p) ('T' :: s) = ['_', 't', 'e', 's', 't'] := by
    rw [snakeAfter_cons, separator, starts, rest]
    rfl
  have along := snakeAfter_suffix (front ++ [p]) ('T' :: s) none
  rw [List.getLast?_concat, Option.some_or, word, List.append_assoc] at along
  exact along

theorem suffix_of_endsInTest (test : EndsInTest s) :
    ['_', 't', 'e', 's', 't'] <:+ snakeAfter none s := by
  cases test with
  | behind front spelled =>
    rename_i word
    have converted : snakeAfter (front.getLast?.or none) ('_' :: word) =
        ['_', 't', 'e', 's', 't'] := by
      rcases spelled with rfl | rfl | rfl <;> rfl
    exact converted ▸ snakeAfter_suffix front ('_' :: word) none
  | capital front cased =>
    refine suffix_of_starts (startsWord_some.mpr ⟨ne_underscore cased, ?_⟩) rfl front
    rcases cased with small | digit | large
    · exact .inl small
    · exact .inr (.inl digit)
    · exact .inr (.inr ⟨large, rfl⟩)
  | capitals front cased =>
    refine suffix_of_starts (startsWord_some.mpr ⟨ne_underscore (cased.imp_right .inl), ?_⟩) rfl front
    exact cased.imp_right .inl

theorem suffix_snakeAfter_iff :
    ['_', 't', 'e', 's', 't'] <:+ snakeAfter none s ↔ EndsInTest s :=
  ⟨endsInTest_of_suffix, suffix_of_endsInTest⟩

end Ends

end Dispatchers.Text
