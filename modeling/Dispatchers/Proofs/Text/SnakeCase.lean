import Dispatchers.Text.Identifier
import Mathlib.Data.List.Infix

namespace Dispatchers.Text

section Characters

variable {c d : Char}

theorem forall_ascii {p : Char → Prop} (each : ∀ n < 128, p (Char.ofNat n)) (ascii : c.toNat < 128) :
    p c := by
  have known := each c.toNat ascii
  rwa [Char.ofNat_toNat] at known

theorem isUppercase_ascii (ascii : c.toNat < 128) : isUppercase c = c.isUpper :=
  if_pos ascii

theorem toLowercase_ascii (ascii : c.toNat < 128) : toLowercase c = [c.toLower] :=
  if_pos ascii

theorem eq_of_ofNat {n : Nat} (visible : c ≠ Char.ofNat 0) (same : Char.ofNat n = c) :
    c.toNat = n := by
  by_cases valid : n.isValidChar
  · rw [← same, Char.ofNat, dif_pos valid]
    rfl
  · have none : Char.ofNat n = Char.ofNat 0 := by
      rw [Char.ofNat, dif_neg valid]
      rfl
    exact absurd (same.symm.trans none) visible

/-- Of the letters beyond ASCII, the dotted capital I and the Kelvin sign have ASCII letters in lower
case. -/
theorem lowerExpansions_codes : ∀ entry ∈ lowerExpansions, ∀ m ∈ entry.2, m = 105 ∨ 128 ≤ m := by
  decide

theorem lowerShifts_targets : ∀ shift ∈ lowerShifts,
    shift.target = 107 ∧ shift.last = shift.first ∨ 128 ≤ shift.target := by
  decide +kernel

theorem mapped_codes {n m : Nat} (beyond : 128 ≤ n)
    (member : m ∈ mapped lowerExpansions lowerShifts n) : m = 105 ∨ m = 107 ∨ 128 ≤ m := by
  unfold mapped at member
  split at member
  next ns expanded =>
    obtain ⟨front, back, whole, -⟩ := List.lookup_eq_some_iff.mp expanded
    rcases lowerExpansions_codes (n, ns) (by simp [whole]) m member with small | large
    · exact .inl small
    · exact .inr (.inr large)
  next =>
    rw [List.mem_singleton] at member
    subst member
    cases shifted : lowerShifts.findSome? (·.image? n) with
    | none => exact .inr (.inr beyond)
    | some image =>
      obtain ⟨shift, listed, made⟩ := List.exists_of_findSome?_eq_some shifted
      unfold Shift.image? at made
      split at made
      · rename_i inside
        cases made
        simp only [Run.contains, Bool.and_eq_true, decide_eq_true_eq] at inside
        rw [Option.getD_some]
        rcases lowerShifts_targets shift listed with ⟨kelvin, single⟩ | large
        · exact .inr (.inl (by omega))
        · exact .inr (.inr (by omega))
      · cases made

theorem toLower_of_mem_toLowercase (small : 0 < d.toNat ∧ d.toNat < 128) (other : d ≠ 'i' ∧ d ≠ 'k')
    (member : d ∈ toLowercase c) : c.toNat < 128 ∧ c.toLower = d := by
  by_cases ascii : c.toNat < 128
  · rw [toLowercase_ascii ascii, List.mem_singleton] at member
    exact ⟨ascii, member.symm⟩
  · rw [toLowercase, if_neg ascii] at member
    obtain ⟨n, listed, made⟩ := List.mem_map.mp member
    have visible : d ≠ Char.ofNat 0 := by
      rintro rfl
      exact absurd small.1 (by decide)
    have code := eq_of_ofNat visible made
    rcases mapped_codes (by omega) listed with rfl | rfl | large
    · exact absurd (made.symm.trans rfl) other.1
    · exact absurd (made.symm.trans rfl) other.2
    · omega

theorem eq_of_mem_toLowercase (small : 0 < d.toNat ∧ d.toNat < 128) (letterless : d.isAlpha = false)
    (member : d ∈ toLowercase c) : c = d := by
  have other : d ≠ 'i' ∧ d ≠ 'k' := by
    constructor
    all_goals
      rintro rfl
      exact absurd letterless (by decide)
  obtain ⟨ascii, rfl⟩ := toLower_of_mem_toLowercase small other member
  have kept : c.toLower.isAlpha = false → c = c.toLower :=
    forall_ascii (p := fun c => c.toLower.isAlpha = false → c = c.toLower) (by decide) ascii
  exact kept letterless

end Characters

def lowered (c : Char) : List Char :=
  if isUppercase c then toLowercase c else [c]

def separator (previous : Option Char) (c : Char) (next : Option Char) : List Char :=
  if isUppercase c && startsWord previous next then ['_'] else []

section Steps

variable {previous : Option Char} {c d : Char} {s : List Char}

theorem snakeAfter_cons (previous : Option Char) (c : Char) (s : List Char) :
    snakeAfter previous (c :: s) =
      separator previous c s.head? ++ (lowered c ++ snakeAfter (some c) s) := by
  unfold separator lowered
  cases upper : isUppercase c <;> cases starts : startsWord previous s.head? <;>
    simp [snakeAfter, upper, starts]

theorem separator_cases (previous : Option Char) (c : Char) (next : Option Char) :
    separator previous c next = [] ∨ separator previous c next = ['_'] ∧ isUppercase c = true ∧
      startsWord previous next = true := by
  unfold separator
  split
  · rename_i starts
    exact .inr ⟨rfl, Bool.and_eq_true_iff.mp starts⟩
  · exact .inl rfl

theorem ne_of_startsWord {next : Option Char} (starts : startsWord previous next = true) :
    ∃ p, previous = some p ∧ p ≠ '_' := by
  cases previous with
  | none => cases starts
  | some p =>
    simp only [startsWord, Bool.and_eq_true, bne_iff_ne] at starts
    exact ⟨p, rfl, starts.1⟩

theorem eq_of_mem_lowered (small : 0 < d.toNat ∧ d.toNat < 128) (letterless : d.isAlpha = false)
    (member : d ∈ lowered c) : c = d := by
  unfold lowered at member
  split at member
  · exact eq_of_mem_toLowercase small letterless member
  · exact (List.mem_singleton.mp member).symm

theorem mapped_ne_nil (n : Nat) : mapped lowerExpansions lowerShifts n ≠ [] := by
  have full : ∀ entry ∈ lowerExpansions, entry.2 ≠ [] := by decide
  unfold mapped
  split
  next ns expanded =>
    obtain ⟨front, back, whole, -⟩ := List.lookup_eq_some_iff.mp expanded
    exact full (n, ns) (by simp [whole])
  next => exact List.cons_ne_nil _ _

theorem lowered_ne_nil (c : Char) : lowered c ≠ [] := by
  unfold lowered toLowercase
  split
  · split
    · exact List.cons_ne_nil _ _
    · simpa using mapped_ne_nil c.toNat
  · exact List.cons_ne_nil _ _

theorem mem_of_mem_snakeAfter (small : 0 < d.toNat ∧ d.toNat < 128) (letterless : d.isAlpha = false)
    (other : d ≠ '_') (member : d ∈ snakeAfter previous s) : d ∈ s := by
  induction s generalizing previous with
  | nil => exact member
  | cons c s ih =>
    rw [snakeAfter_cons, List.mem_append, List.mem_append] at member
    rcases member with separates | here | later
    · rcases separator_cases previous c s.head? with none | ⟨one, -⟩
      · rw [none] at separates
        cases separates
      · rw [one, List.mem_singleton] at separates
        exact absurd separates other
    · exact eq_of_mem_lowered small letterless here ▸ List.mem_cons_self
    · exact List.mem_cons_of_mem _ (ih later)

theorem snakeAfter_of_not_upper (plain : ∀ c ∈ s, isUppercase c = false) :
    snakeAfter previous s = s := by
  induction s generalizing previous with
  | nil => rfl
  | cons c s ih =>
    obtain ⟨first, others⟩ := List.forall_mem_cons.mp plain
    rw [snakeAfter_cons, ih others]
    simp [separator, lowered, first]

end Steps

section Underscores

variable {previous : Option Char} {c : Char} {s : List Char}

theorem eq_underscore_of_mem_lowered (member : '_' ∈ lowered c) : c = '_' :=
  eq_of_mem_lowered (by decide) (by decide) member

theorem head?_snakeAfter (leads : (snakeAfter previous s).head? = some '_') :
    s.head? = some '_' ∨ ∃ p, previous = some p ∧ p ≠ '_' := by
  cases s with
  | nil => cases leads
  | cons c s =>
    rw [snakeAfter_cons] at leads
    rcases separator_cases previous c s.head? with none | ⟨-, -, starts⟩
    · rw [none, List.nil_append, List.head?_append_of_ne_nil _ (lowered_ne_nil c)] at leads
      rw [eq_underscore_of_mem_lowered (List.mem_of_head? leads)]
      exact .inl rfl
    · exact .inr (ne_of_startsWord starts)

theorem infix_of_free {front rest : List Char} (free : '_' ∉ front)
    (twice : ['_', '_'] <:+: front ++ rest) : ['_', '_'] <:+: rest := by
  induction front with
  | nil => exact twice
  | cons c front ih =>
    rw [List.mem_cons, not_or] at free
    rcases List.infix_cons_iff.mp twice with ⟨_, same⟩ | later
    · exact absurd (List.cons.inj same).1 free.1
    · exact ih free.2 later

theorem infix_of_snakeAfter (twice : ['_', '_'] <:+: snakeAfter previous s) : ['_', '_'] <:+: s := by
  induction s generalizing previous with
  | nil => exact twice
  | cons c s ih =>
    rw [snakeAfter_cons] at twice
    by_cases underscore : c = '_'
    · subst underscore
      have here : separator previous '_' s.head? ++ (lowered '_' ++ snakeAfter (some '_') s) =
          '_' :: snakeAfter (some '_') s := rfl
      rw [here] at twice
      rcases List.infix_cons_iff.mp twice with ⟨rest, same⟩ | later
      · have leads : (snakeAfter (some '_') s).head? = some '_' := by
          rw [← (List.cons.inj same).2]
          rfl
        rcases head?_snakeAfter leads with next | ⟨p, same, other⟩
        · obtain ⟨t, rfl⟩ := List.head?_eq_some_iff.mp next
          exact ⟨[], t, rfl⟩
        · cases same
          exact absurd rfl other
      · exact (ih later).trans (List.infix_cons (List.infix_refl s))
    · have free : '_' ∉ lowered c := fun member => underscore (eq_underscore_of_mem_lowered member)
      have rest : ['_', '_'] <:+: lowered c ++ snakeAfter (some c) s := by
        rcases separator_cases previous c s.head? with none | ⟨one, -⟩
        · rwa [none] at twice
        · rw [one, List.singleton_append] at twice
          rcases List.infix_cons_iff.mp twice with ⟨_, same⟩ | later
          · obtain ⟨first, others, spelled⟩ := List.exists_cons_of_ne_nil (lowered_ne_nil c)
            rw [spelled] at same free
            have second := (List.cons.inj (List.cons.inj same).2).1
            exact absurd (second ▸ List.mem_cons_self) free
          · exact later
      exact (ih (infix_of_free free rest)).trans (List.infix_cons (List.infix_refl s))

end Underscores

/-- `t` is `s` in lower case with underscores in front of some of the upper-case letters of `s`. -/
inductive Spaced : List Char → List Char → Prop where
  | nil : Spaced [] []
  | close (c : Char) {s t : List Char} (rest : Spaced s t) : Spaced (c :: s) (c.toLower :: t)
  | apart {c : Char} {s t : List Char} (upper : c.isUpper = true) (rest : Spaced s t) :
      Spaced (c :: s) ('_' :: c.toLower :: t)

namespace Spaced

variable {s t : List Char}

theorem filter_eq (spaced : Spaced s t) :
    t.filter (· ≠ '_') = (s.map Char.toLower).filter (· ≠ '_') := by
  induction spaced with
  | nil => rfl
  | close c _ ih => rw [List.map_cons, List.filter_cons, List.filter_cons, ih]
  | apart _ _ ih =>
    rw [List.map_cons, List.filter_cons_of_neg (by simp), List.filter_cons, List.filter_cons, ih]

theorem lower (spaced : Spaced s t) (ascii : ∀ c ∈ s, c.toNat < 128) :
    ∀ c ∈ t, c.toNat < 128 ∧ c.isUpper = false := by
  have each {c : Char} (small : c.toNat < 128) :
      c.toLower.toNat < 128 ∧ c.toLower.isUpper = false :=
    forall_ascii (p := fun c => c.toLower.toNat < 128 ∧ c.toLower.isUpper = false) (by decide) small
  induction spaced with
  | nil => exact List.forall_mem_nil _
  | close c _ ih =>
    obtain ⟨first, others⟩ := List.forall_mem_cons.mp ascii
    exact List.forall_mem_cons.mpr ⟨each first, ih others⟩
  | apart _ _ ih =>
    obtain ⟨first, others⟩ := List.forall_mem_cons.mp ascii
    refine List.forall_mem_cons.mpr ⟨by decide, ?_⟩
    exact List.forall_mem_cons.mpr ⟨each first, ih others⟩

end Spaced

theorem lowered_ascii {c : Char} (ascii : c.toNat < 128) : lowered c = [c.toLower] := by
  have kept : c.isUpper = false → c.toLower = c :=
    forall_ascii (p := fun c => c.isUpper = false → c.toLower = c) (by decide) ascii
  unfold lowered
  rw [isUppercase_ascii ascii, toLowercase_ascii ascii]
  split
  · rfl
  · rename_i plain
    rw [kept (by simpa using plain)]

theorem spaced_snakeAfter {s : List Char} (ascii : ∀ c ∈ s, c.toNat < 128)
    (previous : Option Char) : Spaced s (snakeAfter previous s) := by
  induction s generalizing previous with
  | nil => exact .nil
  | cons c s ih =>
    obtain ⟨first, others⟩ := List.forall_mem_cons.mp ascii
    rw [snakeAfter_cons, lowered_ascii first]
    rcases separator_cases previous c s.head? with none | ⟨one, upper, -⟩
    · rw [none]
      exact .close c (ih others _)
    · rw [one]
      exact .apart (isUppercase_ascii first ▸ upper) (ih others _)

/-- An ASCII text in snake case has no upper-case letters. Without underscores it is the text in lower
case; its underscores stand neither in front nor next to each other unless the text has them there,
and all that are new stand in front of upper-case letters. A second conversion changes nothing. -/
theorem snakeCase_ascii (s : String) (ascii : ∀ c ∈ s.toList, c.toNat < 128) :
    (∀ c ∈ (snakeCase s).toList, c.isUpper = false) ∧
      (snakeCase s).toList.filter (· ≠ '_') = (s.toList.map Char.toLower).filter (· ≠ '_') ∧
      ((snakeCase s).toList.head? = some '_' → s.toList.head? = some '_') ∧
      (['_', '_'] <:+: (snakeCase s).toList → ['_', '_'] <:+: s.toList) ∧
      Spaced s.toList (snakeCase s).toList ∧
      snakeCase (snakeCase s) = snakeCase s := by
  have spaced := spaced_snakeAfter ascii none
  have lower := spaced.lower ascii
  have again : snakeAfter none (snakeAfter none s.toList) = snakeAfter none s.toList := by
    refine snakeAfter_of_not_upper fun c member => ?_
    rw [isUppercase_ascii (lower c member).1]
    exact (lower c member).2
  unfold snakeCase
  simp only [String.toList_ofList]
  refine ⟨fun c member => (lower c member).2, spaced.filter_eq, fun leads => ?_,
    infix_of_snakeAfter, spaced, by rw [again]⟩
  rcases head?_snakeAfter leads with there | ⟨p, absurdly, -⟩
  · exact there
  · cases absurdly

theorem snakeCase_ascii_words :
    (∀ c ∈ "HTTPServer_v2".toList, c.toNat < 128) ∧
      Spaced "HTTPServer_v2".toList "http_server_v2".toList ∧
      snakeCase (snakeCase "HTTPServer_v2") = snakeCase "HTTPServer_v2" := by
  have ascii : ∀ c ∈ "HTTPServer_v2".toList, c.toNat < 128 := by
    have all : ("HTTPServer_v2".toList.all fun c => decide (c.toNat < 128)) = true := by decide
    simpa only [List.all_eq_true, decide_eq_true_eq] using all
  obtain ⟨-, -, -, -, spaced, again⟩ := snakeCase_ascii "HTTPServer_v2" ascii
  exact ⟨ascii, spaced, again⟩

theorem exists_of_isExported {name : String} (exported : isExported name = true) :
    ∃ first rest, name.toList = first :: rest ∧ isUppercase first = true := by
  unfold isExported at exported
  cases spelled : name.toList with
  | nil => simp [spelled] at exported
  | cons first rest => exact ⟨first, rest, rfl, by simpa [spelled] using exported⟩

/-- A letter or an underscore, and behind it letters, digits and underscores. -/
def IsIdentifier (name : String) : Prop :=
  ∃ first rest, name.toList = first :: rest ∧ (isLetter first = true ∨ first = '_') ∧
    ∀ c ∈ rest, isLetter c = true ∨ isDecimalDigit c = true ∨ c = '_'

theorem IsIdentifier.ne_empty {name : String} (identifier : IsIdentifier name) : name ≠ "" := by
  rintro rfl
  obtain ⟨first, rest, spelled, -⟩ := identifier
  cases spelled

theorem IsIdentifier.not_mem_slash {name : String} (identifier : IsIdentifier name) :
    '/' ∉ name.toList := by
  obtain ⟨first, rest, spelled, leads, follow⟩ := identifier
  rw [spelled]
  intro member
  rcases List.mem_cons.mp member with rfl | later
  · exact absurd leads (by decide)
  · exact absurd (follow '/' later) (by decide)

theorem IsIdentifier.not_mem_slash_snakeCase {name : String} (identifier : IsIdentifier name) :
    '/' ∉ (snakeCase name).toList := by
  rw [snakeCase, String.toList_ofList]
  intro member
  exact identifier.not_mem_slash
    (mem_of_mem_snakeAfter (by decide) (by decide) (by decide) member)

end Dispatchers.Text
