import Dispatchers.Proofs.Text.Split
import Dispatchers.Text.Blank
import Dispatchers.Text.Letter

namespace Dispatchers.Text

/-- `run` is all that belongs to the class in front of `back`. -/
structure IsRun (p : Char → Bool) (run back : List Char) : Prop where
  all : ∀ c ∈ run, p c = true
  stops : ∀ c ∈ back.head?, p c = false

def isSolid (c : Char) : Bool :=
  !isBlank c

section Runs

variable {p : Char → Bool} {run back : List Char}

theorem isRun_takeWhile (p : Char → Bool) (s : List Char) :
    IsRun p (s.takeWhile p) (s.dropWhile p) := by
  constructor
  · intro c member
    exact List.all_eq_true.mp List.all_takeWhile c member
  · intro c first
    have stopped := List.head?_dropWhile_not p s
    rw [first] at stopped
    simpa using stopped

theorem isRun_of_end (all : ∀ c ∈ run, p c = true) : IsRun p run [] := by
  refine ⟨all, ?_⟩
  intro c none
  cases none

theorem IsRun.takeWhile_eq (isRun : IsRun p run back) : (run ++ back).takeWhile p = run := by
  rw [List.takeWhile_append_of_pos isRun.all]
  cases back with
  | nil => rw [List.takeWhile_nil, List.append_nil]
  | cons c back =>
    have outside : p c = false := isRun.stops c rfl
    rw [List.takeWhile_cons_of_neg (by simp [outside]), List.append_nil]

theorem IsRun.dropWhile_eq (isRun : IsRun p run back) : (run ++ back).dropWhile p = back := by
  rw [List.dropWhile_append_of_pos isRun.all]
  cases back with
  | nil => rfl
  | cons c back =>
    have outside : p c = false := isRun.stops c rfl
    exact List.dropWhile_cons_of_neg (by simp [outside])

end Runs

/-- Stretches beyond ASCII that hold all blank characters there and no word character. -/
def blankGaps : List (Nat × Nat) :=
  [(0x80, 0xA0), (0x1680, 0x1680), (0x2000, 0x200A), (0x2028, 0x202F), (0x205F, 0x205F),
    (0x3000, 0x3000)]

theorem blankGaps_apart : (letterRuns ++ wordRuns).all (fun run =>
    blankGaps.all fun gap => run.last < gap.1 || gap.2 < run.first) = true := by
  decide +kernel

theorem not_contains_of_gap {run : Run} {gap : Nat × Nat} {n : Nat}
    (listed : run ∈ letterRuns ++ wordRuns) (member : gap ∈ blankGaps) (above : gap.1 ≤ n)
    (below : n ≤ gap.2) : run.contains n = false := by
  have apart := List.all_eq_true.mp (List.all_eq_true.mp blankGaps_apart run listed) gap member
  simp only [Bool.or_eq_true, decide_eq_true_eq] at apart
  have outside : ¬(run.first ≤ n ∧ n ≤ run.last) := by omega
  simp only [Run.contains, ← Bool.decide_and, decide_eq_false outside, Bool.false_and]

theorem any_contains_of_gap {runs : List Run} (listed : runs ⊆ letterRuns ++ wordRuns)
    {gap : Nat × Nat} {n : Nat} (member : gap ∈ blankGaps) (above : gap.1 ≤ n) (below : n ≤ gap.2) :
    runs.any (·.contains n) = false := by
  apply List.any_eq_false.mpr
  intro run inside
  rw [not_contains_of_gap (listed inside) member above below]
  exact Bool.false_ne_true

theorem isWord_of_isBlank {c : Char} (blank : isBlank c = true) : isWord c = false := by
  simp only [isBlank, Bool.or_eq_true, Bool.and_eq_true, decide_eq_true_eq, beq_iff_eq] at blank
  by_cases narrow : c.toNat < 128
  · have known : c.toNat ∈ [9, 10, 11, 12, 13, 0x20] := by
      simp only [List.mem_cons, List.not_mem_nil, or_false]
      omega
    have other : ∀ n ∈ [9, 10, 11, 12, 13, 0x20], isWord (Char.ofNat n) = false := by decide
    rw [← Char.ofNat_toNat c]
    exact other _ known
  · have known : ∃ gap ∈ blankGaps, gap.1 ≤ c.toNat ∧ c.toNat ≤ gap.2 := by
      simp only [blankGaps, List.mem_cons, List.not_mem_nil, or_false, exists_eq_or_imp,
        exists_eq_left]
      omega
    obtain ⟨gap, member, above, below⟩ := known
    rw [isWord, if_neg narrow,
      any_contains_of_gap (List.subset_append_left _ _) member above below,
      any_contains_of_gap (List.subset_append_right _ _) member above below]
    rfl

section Words

variable {c : Char} {s gap word back : List Char}

theorem words_eq (s : List Char) : words s = (s.splitOnP isBlank).filter (· ≠ []) := by
  rw [words, splitWhere_eq_splitOnP]

theorem words_blank (blank : isBlank c = true) (s : List Char) : words (c :: s) = words s := by
  rw [words_eq, words_eq, List.splitOnP_cons_eq_if_modifyHead, if_pos blank]
  exact List.filter_cons_of_neg (by simp)

theorem words_gap (blank : ∀ c ∈ gap, isBlank c = true) (s : List Char) :
    words (gap ++ s) = words s := by
  induction gap with
  | nil => rfl
  | cons c gap ih =>
    obtain ⟨first, rest⟩ := List.forall_mem_cons.mp blank
    rw [List.cons_append, words_blank first, ih rest]

theorem words_run (full : word ≠ []) (isRun : IsRun isSolid word back) :
    words (word ++ back) = word :: words back := by
  have solid : ∀ c ∈ word, isBlank c = false := by
    intro c member
    simpa [isSolid] using isRun.all c member
  have kept (pieces : List (List Char)) :
      (word :: pieces).filter (· ≠ []) = word :: pieces.filter (· ≠ []) :=
    List.filter_cons_of_pos (decide_eq_true full)
  cases back with
  | nil =>
    have none : words [] = [] := rfl
    rw [List.append_nil, words_eq, List.splitOnP_eq_singleton solid, none, kept,
      List.filter_nil]
  | cons c back =>
    have blank : isBlank c = true := by simpa [isSolid] using isRun.stops c rfl
    rw [words_blank blank, words_eq, List.splitOnP_append_cons_of_forall_mem solid c blank, kept,
      words_eq]

end Words

theorem trimEnd_append {word : List Char} (front : List Char) (full : word ≠ [])
    (solid : ∀ c ∈ word, isSolid c = true) : trimEnd (front ++ word) = front ++ word := by
  have last : ¬isBlank (word.getLast full) = true := by
    simpa [isSolid] using solid _ (List.getLast_mem full)
  rw [← List.dropLast_concat_getLast full, trimEnd, ← List.append_assoc, List.reverse_concat,
    List.dropWhile_cons_of_neg last, List.reverse_cons, List.reverse_reverse]

end Dispatchers.Text
