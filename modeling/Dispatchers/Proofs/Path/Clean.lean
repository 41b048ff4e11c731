import Dispatchers.Path.Clean
import Dispatchers.Proofs.Text.Split

namespace Dispatchers.Path

open Text

def IsKept (segment : Segment) : Prop :=
  segment ≠ [] ∧ segment ≠ ['.'] ∧ '/' ∉ segment

/-- A stack that cleaning can leave, last segment first: `..` stands only at the bottom, and not in
a rooted path. -/
inductive Canonical (rooted : Bool) : List Segment → Prop
  | nil : Canonical rooted []
  | cons {segment : Segment} {below : List Segment} (kept : IsKept segment)
      (parent : segment = ['.', '.'] → rooted = false ∧ ∀ s ∈ below, s = ['.', '.'])
      (rest : Canonical rooted below) : Canonical rooted (segment :: below)

theorem keep_canonical {rooted : Bool} {kept : List Segment} {segment : Segment}
    (canonical : Canonical rooted kept) (free : '/' ∉ segment) :
    Canonical rooted (keep rooted kept segment) := by
  unfold keep
  by_cases skipped : segment = [] ∨ segment = ['.']
  · rw [if_pos skipped]
    exact canonical
  rw [if_neg skipped]
  rw [not_or] at skipped
  have plain : IsKept segment := ⟨skipped.1, skipped.2, free⟩
  by_cases parent : segment = ['.', '.']
  · rw [if_pos parent]
    cases canonical with
    | nil =>
      cases rooted with
      | true => exact .nil
      | false => exact .cons plain (fun _ => ⟨rfl, by simp⟩) .nil
    | @cons top below kept bottom rest =>
      by_cases same : top = ['.', '.']
      · obtain ⟨relative, all⟩ := bottom same
        subst relative
        simp only [same, if_true, Bool.false_eq_true, if_false]
        refine .cons plain (fun _ => ⟨rfl, ?_⟩) (same ▸ .cons kept bottom rest)
        intro s member
        rcases List.mem_cons.mp member with rfl | member
        · rfl
        · exact all s member
      · simp only [same, if_false]
        exact rest
  · rw [if_neg parent]
    exact .cons plain (fun same => absurd same parent) canonical

theorem foldl_keep_canonical {rooted : Bool} {segments : List Segment} {kept : List Segment}
    (canonical : Canonical rooted kept) (free : ∀ s ∈ segments, '/' ∉ s) :
    Canonical rooted (segments.foldl (keep rooted) kept) := by
  induction segments generalizing kept with
  | nil => exact canonical
  | cons segment segments ih =>
    exact ih (keep_canonical canonical (free _ (by simp)))
      (fun s member => free s (List.mem_cons_of_mem _ member))

theorem Canonical.keep_eq {rooted : Bool} {segment : Segment} {below : List Segment}
    (canonical : Canonical rooted (segment :: below)) :
    keep rooted below segment = segment :: below := by
  cases canonical with
  | cons kept parent rest =>
    have plain : ¬(segment = [] ∨ segment = ['.']) := by
      rw [not_or]
      exact ⟨kept.1, kept.2.1⟩
    unfold keep
    rw [if_neg plain]
    by_cases same : segment = ['.', '.']
    · obtain ⟨relative, all⟩ := parent same
      subst relative
      rw [if_pos same]
      cases below with
      | nil => rfl
      | cons top below => simp [all top (by simp)]
    · rw [if_neg same]

theorem Canonical.foldl_reverse {rooted : Bool} {kept : List Segment}
    (canonical : Canonical rooted kept) : kept.reverse.foldl (keep rooted) [] = kept := by
  induction canonical with
  | nil => rfl
  | cons kept parent rest ih =>
    rw [List.reverse_cons, List.foldl_append, ih]
    exact (Canonical.cons kept parent rest).keep_eq

theorem Canonical.isKept {rooted : Bool} {kept : List Segment} (canonical : Canonical rooted kept) :
    ∀ s ∈ kept, IsKept s := by
  induction canonical with
  | nil => simp
  | cons kept _ _ ih =>
    intro s member
    rcases List.mem_cons.mp member with rfl | member
    · exact kept
    · exact ih s member

def isRooted (path : List Char) : Bool :=
  path.head? = some '/'

def stackOf (path : List Char) : List Segment :=
  (splitOn '/' path).foldl (keep (isRooted path)) []

theorem stackOf_canonical (path : List Char) : Canonical (isRooted path) (stackOf path) :=
  foldl_keep_canonical .nil fun _ member => not_mem_splitOn member

def render (rooted : Bool) (kept : List Segment) : List Char :=
  let body := joinWith '/' kept.reverse
  if rooted then '/' :: body
  else if body = [] then ['.']
  else body

theorem cleanChars_eq_render (path : List Char) :
    cleanChars path = render (isRooted path) (stackOf path) := by
  unfold cleanChars render cleanSegments stackOf isRooted
  simp

theorem cleanChars_ne_nil (path : List Char) : cleanChars path ≠ [] := by
  rw [cleanChars_eq_render, render]
  split
  · simp
  · split
    · simp
    · assumption

theorem isRooted_render {rooted : Bool} {kept : List Segment} (canonical : Canonical rooted kept) :
    isRooted (render rooted kept) = rooted := by
  unfold render isRooted
  cases rooted with
  | true => simp
  | false =>
    simp only [Bool.false_eq_true, if_false]
    split
    · rfl
    · rename_i full
      cases segments : kept.reverse with
      | nil => simp [segments, joinWith] at full
      | cons first rest =>
        obtain ⟨nonempty, -, free⟩ := canonical.isKept first (by
          rw [← List.mem_reverse, segments]
          simp)
        cases first with
        | nil => exact absurd rfl nonempty
        | cons c r =>
          have distinct : c ≠ '/' := fun same => free (by simp [same])
          cases rest with
          | nil => simp [joinWith, distinct]
          | cons next rest =>
            rw [joinWith_cons _ (by simp)]
            simp [distinct]

/-- The segments of a rooted path stand behind an empty one. -/
theorem splitOn_render {kept : List Segment} (canonical : Canonical true kept) (full : kept ≠ []) :
    splitOn '/' (render true kept) = [] :: kept.reverse := by
  have free : ∀ s ∈ kept.reverse, '/' ∉ s := fun s member =>
    (canonical.isKept s (List.mem_reverse.mp member)).2.2
  have apart := splitOn_append '/' [] (joinWith '/' kept.reverse)
  rw [splitOn_joinWith free (mt List.reverse_eq_nil_iff.mp full)] at apart
  exact apart

theorem stackOf_render {rooted : Bool} {kept : List Segment} (canonical : Canonical rooted kept) :
    stackOf (render rooted kept) = kept := by
  rw [stackOf, isRooted_render canonical]
  by_cases bare : kept = []
  · subst bare
    cases rooted <;> rfl
  · cases rooted with
    | true =>
      rw [splitOn_render canonical bare, List.foldl_cons]
      exact canonical.foldl_reverse
    | false =>
      have free : ∀ s ∈ kept.reverse, '/' ∉ s := fun s member =>
        (canonical.isKept s (List.mem_reverse.mp member)).2.2
      have body := splitOn_joinWith free (mt List.reverse_eq_nil_iff.mp bare)
      have full : joinWith '/' kept.reverse ≠ [] := fun empty =>
        bare (List.reverse_eq_nil_iff.mp (joinWith_eq_nil
          (fun s member => (canonical.isKept s (List.mem_reverse.mp member)).1) empty))
      simp only [render, Bool.false_eq_true, if_false, full, body]
      exact canonical.foldl_reverse

theorem isRooted_cleanChars (path : List Char) : isRooted (cleanChars path) = isRooted path := by
  rw [cleanChars_eq_render]
  exact isRooted_render (stackOf_canonical path)

theorem stackOf_cleanChars (path : List Char) : stackOf (cleanChars path) = stackOf path := by
  rw [cleanChars_eq_render]
  exact stackOf_render (stackOf_canonical path)

theorem cleanChars_congr {p q : List Char} (rooted : isRooted p = isRooted q)
    (stack : stackOf p = stackOf q) : cleanChars p = cleanChars q := by
  rw [cleanChars_eq_render, cleanChars_eq_render, rooted, stack]

theorem cleanChars_cleanChars (path : List Char) : cleanChars (cleanChars path) = cleanChars path :=
  cleanChars_congr (isRooted_cleanChars path) (stackOf_cleanChars path)

theorem isRooted_append {p : List Char} (full : p ≠ []) (rest : List Char) :
    isRooted (p ++ rest) = isRooted p := by
  cases p with
  | nil => exact absurd rfl full
  | cons c r => rfl

theorem stackOf_append {p : List Char} (full : p ≠ []) (rest : List Char) :
    stackOf (p ++ '/' :: rest) = (splitOn '/' rest).foldl (keep (isRooted p)) (stackOf p) := by
  rw [stackOf, isRooted_append full, splitOn_append, List.foldl_append, stackOf]

/-- A path may be cleaned before more segments are put behind it. -/
theorem cleanChars_cleanChars_append {p : List Char} (full : p ≠ []) (rest : List Char) :
    cleanChars (cleanChars p ++ '/' :: rest) = cleanChars (p ++ '/' :: rest) := by
  have cleaned := cleanChars_ne_nil p
  apply cleanChars_congr
  · rw [isRooted_append cleaned, isRooted_append full, isRooted_cleanChars]
  · rw [stackOf_append cleaned, stackOf_append full, isRooted_cleanChars, stackOf_cleanChars]

def present (parts : List String) : List (List Char) :=
  (parts.map String.toList).filter (· ≠ [])

theorem join_of_present {parts : List String} (full : present parts ≠ []) :
    join parts = String.ofList (cleanChars (joinWith '/' (present parts))) := by
  unfold join
  exact if_neg full

theorem join_of_absent {parts : List String} (bare : present parts = []) : join parts = "" := by
  unfold join
  exact if_pos bare

theorem present_append (left right : List String) :
    present (left ++ right) = present left ++ present right := by
  simp [present]

theorem present_ne_nil {parts : List String} : ∀ part ∈ present parts, part ≠ [] := by
  intro part member
  simpa using (List.mem_filter.mp member).2

/-- A joined path may stand for its parts at the front of a longer join. -/
theorem join_join_append (front rest : List String) :
    join (join front :: rest) = join (front ++ rest) := by
  by_cases bare : present front = []
  · rw [join_of_absent bare]
    have same : present ("" :: rest) = present (front ++ rest) := by
      rw [present_append, bare]
      rfl
    unfold present at same
    simp only [join, same]
  · have full : joinWith '/' (present front) ≠ [] := fun empty =>
      bare (joinWith_eq_nil present_ne_nil empty)
    have cleaned := cleanChars_ne_nil (joinWith '/' (present front))
    have split : present (join front :: rest) =
        cleanChars (joinWith '/' (present front)) :: present rest := by
      rw [join_of_present bare]
      simp only [present, List.map_cons, String.toList_ofList]
      exact List.filter_cons_of_pos (decide_eq_true cleaned)
    have all : present (front ++ rest) ≠ [] := by simp [present_append, bare]
    rw [join_of_present (by simp [split]), join_of_present all, split, present_append]
    by_cases last : present rest = []
    · rw [last, List.append_nil]
      simp only [joinWith, List.intercalate_singleton]
      rw [cleanChars_cleanChars]
    · rw [joinWith_cons _ last, joinWith_append bare last, cleanChars_cleanChars_append full]

end Dispatchers.Path
