import Dispatchers.Proofs.Path.Clean
import Mathlib.Logic.Relation

namespace Dispatchers.Path

open Text Relation

def IsOrdinary (segment : Segment) : Prop :=
  IsKept segment ∧ segment ≠ ['.', '.']

inductive Shortens (rooted : Bool) : List Segment → List Segment → Prop
  | empty (front back : List Segment) : Shortens rooted (front ++ [] :: back) (front ++ back)
  | here (front back : List Segment) : Shortens rooted (front ++ ['.'] :: back) (front ++ back)
  | parent (front back : List Segment) {segment : Segment} (ordinary : IsOrdinary segment) :
      Shortens rooted (front ++ segment :: ['.', '.'] :: back) (front ++ back)
  | top (back : List Segment) (isRoot : rooted = true) : Shortens rooted (['.', '.'] :: back) back

def SamePlace (rooted : Bool) : List Segment → List Segment → Prop :=
  EqvGen (Shortens rooted)

section Keep

variable {rooted : Bool} {kept : List Segment}

theorem keep_empty : keep rooted kept [] = kept := by
  simp [keep]

theorem keep_here : keep rooted kept ['.'] = kept := by
  simp [keep]

theorem keep_ordinary {segment : Segment} (ordinary : IsOrdinary segment) :
    keep rooted kept segment = segment :: kept := by
  obtain ⟨⟨full, other, -⟩, name⟩ := ordinary
  simp [keep, full, other, name]

theorem keep_parent {segment : Segment} (ordinary : IsOrdinary segment) :
    keep rooted (segment :: kept) ['.', '.'] = kept := by
  simp [keep, ordinary.2]

theorem keep_top : keep true [] ['.', '.'] = [] := by
  simp [keep]

end Keep

section Behind

variable {rooted within : Bool} {kept left right : List Segment}

/-- What the rules leave out does not count behind other segments either, except for the rule of the
top: it needs a rooted path with nothing in front. -/
theorem Shortens.foldl_keep (shortens : Shortens rooted left right)
    (top : rooted = true → within = true ∧ kept = []) :
    left.foldl (keep within) kept = right.foldl (keep within) kept := by
  cases shortens with
  | empty front back => rw [List.foldl_append, List.foldl_append, List.foldl_cons, keep_empty]
  | here front back => rw [List.foldl_append, List.foldl_append, List.foldl_cons, keep_here]
  | parent front back ordinary =>
    rw [List.foldl_append, List.foldl_append, List.foldl_cons, List.foldl_cons,
      keep_ordinary ordinary, keep_parent ordinary]
  | top back isRoot =>
    obtain ⟨rfl, rfl⟩ := top isRoot
    rw [List.foldl_cons, keep_top]

theorem SamePlace.foldl_keep (same : SamePlace rooted left right)
    (top : rooted = true → within = true ∧ kept = []) :
    left.foldl (keep within) kept = right.foldl (keep within) kept := by
  induction same with
  | rel _ _ shortens => exact shortens.foldl_keep top
  | refl => rfl
  | symm _ _ _ ih => exact ih.symm
  | trans _ _ _ _ _ first second => exact first.trans second

end Behind

/-- One step of the stack machine follows a rule, or moves a segment to the stack. -/
theorem samePlace_keep {rooted : Bool} {kept : List Segment} (canonical : Canonical rooted kept)
    (segment : Segment) (rest : List Segment) :
    SamePlace rooted (kept.reverse ++ segment :: rest) ((keep rooted kept segment).reverse ++ rest) := by
  have moved : SamePlace rooted (kept.reverse ++ segment :: rest)
      ((segment :: kept).reverse ++ rest) := by
    rw [List.reverse_cons, List.append_assoc, List.singleton_append]
    exact .refl _
  by_cases empty : segment = []
  · rw [empty, keep_empty]
    exact .rel _ _ (.empty _ _)
  by_cases here : segment = ['.']
  · rw [here, keep_here]
    exact .rel _ _ (.here _ _)
  by_cases parent : segment = ['.', '.']
  · subst parent
    cases canonical with
    | nil =>
      cases rooted with
      | true => exact .rel _ _ (.top _ rfl)
      | false => exact moved
    | @cons top below kept bottom canonical =>
      by_cases above : top = ['.', '.']
      · obtain ⟨relative, -⟩ := bottom above
        have stays : keep rooted (top :: below) ['.', '.'] = ['.', '.'] :: top :: below := by
          simp [keep, above, relative]
        rw [stays]
        exact moved
      · rw [keep_parent ⟨kept, above⟩, List.reverse_cons, List.append_assoc]
        exact .rel _ _ (.parent _ _ ⟨kept, above⟩)
  · have stays : keep rooted kept segment = segment :: kept := by
      simp [keep, empty, here, parent]
    rw [stays]
    exact moved

theorem samePlace_foldl_keep {rooted : Bool} {segments kept : List Segment}
    (canonical : Canonical rooted kept) (free : ∀ s ∈ segments, '/' ∉ s) :
    SamePlace rooted (kept.reverse ++ segments) (segments.foldl (keep rooted) kept).reverse := by
  induction segments generalizing kept with
  | nil =>
    rw [List.append_nil]
    exact .refl _
  | cons segment segments ih =>
    have next := keep_canonical canonical (free segment (List.mem_cons_self ..))
    have rest := ih next fun s member => free s (List.mem_cons_of_mem _ member)
    exact .trans _ _ _ (samePlace_keep canonical segment segments) rest

theorem samePlace_stackOf (path : List Char) :
    SamePlace (isRooted path) (splitOn '/' path) (stackOf path).reverse :=
  samePlace_foldl_keep .nil fun _ member => not_mem_splitOn member

theorem cleanChars_eq_iff {p q : List Char} :
    cleanChars p = cleanChars q ↔ isRooted p = isRooted q ∧
      SamePlace (isRooted p) (splitOn '/' p) (splitOn '/' q) := by
  constructor
  · intro same
    have rooted : isRooted p = isRooted q := by
      rw [← isRooted_cleanChars p, ← isRooted_cleanChars q, same]
    have stack : stackOf p = stackOf q := by
      rw [← stackOf_cleanChars p, ← stackOf_cleanChars q, same]
    refine ⟨rooted, .trans _ _ _ (samePlace_stackOf p) (.symm _ _ ?_)⟩
    rw [rooted, stack]
    exact samePlace_stackOf q
  · rintro ⟨rooted, same⟩
    refine cleanChars_congr rooted ?_
    rw [stackOf, stackOf, ← rooted]
    exact same.foldl_keep fun root => ⟨root, rfl⟩

/-- A path that no rule shortens: `..` leads a relative path only, and slashes stand alone. -/
inductive IsCanonical : String → Prop
  | here : IsCanonical "."
  | root : IsCanonical "/"
  | relative {ups : Nat} {names : List Segment} (some : ups ≠ 0 ∨ names ≠ [])
      (ordinary : ∀ name ∈ names, IsOrdinary name) :
      IsCanonical (String.ofList (joinWith '/' (List.replicate ups ['.', '.'] ++ names)))
  | rooted {names : List Segment} (some : names ≠ []) (ordinary : ∀ name ∈ names, IsOrdinary name) :
      IsCanonical (String.ofList ('/' :: joinWith '/' names))

theorem canonical_iff {rooted : Bool} {kept : List Segment} :
    Canonical rooted kept ↔ ∃ names ups, kept = names ++ List.replicate ups ['.', '.'] ∧
      (∀ name ∈ names, IsOrdinary name) ∧ (rooted = true → ups = 0) := by
  constructor
  · intro canonical
    induction canonical with
    | nil => exact ⟨[], 0, rfl, nofun, fun _ => rfl⟩
    | @cons segment below kept bottom _ ih =>
      obtain ⟨names, ups, shape, ordinary, relative⟩ := ih
      by_cases parent : segment = ['.', '.']
      · obtain ⟨unrooted, all⟩ := bottom parent
        have alike : below = List.replicate below.length ['.', '.'] :=
          List.eq_replicate_of_mem all
        refine ⟨[], below.length + 1, ?_, nofun, ?_⟩
        · rw [List.nil_append, List.replicate_succ, ← alike, parent]
        · intro root
          rw [unrooted] at root
          cases root
      · refine ⟨segment :: names, ups, by rw [shape, List.cons_append], ?_, relative⟩
        exact List.forall_mem_cons.mpr ⟨⟨kept, parent⟩, ordinary⟩
  · rintro ⟨names, ups, rfl, ordinary, relative⟩
    induction names with
    | nil =>
      rw [List.nil_append]
      induction ups with
      | zero => exact .nil
      | succ ups ih =>
        have unrooted : rooted = false := by
          cases rooted with
          | false => rfl
          | true => cases relative rfl
        have kept : IsKept ['.', '.'] := by
          unfold IsKept
          decide
        refine .cons kept (fun _ => ⟨unrooted, fun s => List.eq_of_mem_replicate⟩) (ih ?_)
        intro root
        rw [unrooted] at root
        cases root
    | cons name names ih =>
      obtain ⟨first, ordinary⟩ := List.forall_mem_cons.mp ordinary
      exact .cons first.1 (fun parent => absurd parent first.2) (ih ordinary)

theorem Canonical.ordinary {kept : List Segment} (canonical : Canonical true kept) :
    ∀ segment ∈ kept, IsOrdinary segment := by
  obtain ⟨names, ups, rfl, ordinary, level⟩ := canonical_iff.mp canonical
  obtain rfl := level rfl
  rw [List.replicate_zero, List.append_nil]
  exact ordinary

theorem render_of_ne_nil {kept : List Segment} (canonical : Canonical false kept)
    (some : kept ≠ []) : render false kept = joinWith '/' kept.reverse := by
  have body : joinWith '/' kept.reverse ≠ [] := by
    intro empty
    have full : ∀ s ∈ kept.reverse, s ≠ [] := fun s member =>
      (canonical.isKept s (List.mem_reverse.mp member)).1
    exact some (List.reverse_eq_nil_iff.mp (joinWith_eq_nil full empty))
  unfold render
  simp only [Bool.false_eq_true, if_false, if_neg body]

theorem isCanonical_of_render {rooted : Bool} {kept : List Segment}
    (canonical : Canonical rooted kept) : IsCanonical (String.ofList (render rooted kept)) := by
  by_cases bare : kept = []
  · subst bare
    cases rooted with
    | true => exact .root
    | false => exact .here
  obtain ⟨names, ups, rfl, ordinary, relative⟩ := canonical_iff.mp canonical
  have ordinary : ∀ name ∈ names.reverse, IsOrdinary name := fun name member =>
    ordinary name (List.mem_reverse.mp member)
  have order : (names ++ List.replicate ups ['.', '.']).reverse =
      List.replicate ups ['.', '.'] ++ names.reverse := by
    rw [List.reverse_append, List.reverse_replicate]
  cases rooted with
  | true =>
    obtain rfl := relative rfl
    have some : names.reverse ≠ [] := by simpa using bare
    have text : render true (names ++ List.replicate 0 ['.', '.']) =
        '/' :: joinWith '/' names.reverse := by
      rw [render, order]
      rfl
    rw [text]
    exact .rooted some ordinary
  | false =>
    have some : ups ≠ 0 ∨ names.reverse ≠ [] := by
      by_cases absent : ups = 0
      · exact .inr (by simpa [absent] using bare)
      · exact .inl absent
    rw [render_of_ne_nil canonical bare, order]
    exact .relative some ordinary

theorem exists_render_of_isCanonical {path : String} (canonical : IsCanonical path) :
    ∃ rooted kept, Canonical rooted kept ∧ path.toList = render rooted kept := by
  cases canonical with
  | here => exact ⟨false, [], .nil, rfl⟩
  | root => exact ⟨true, [], .nil, rfl⟩
  | @relative ups names some ordinary =>
    have canonical : Canonical false (names.reverse ++ List.replicate ups ['.', '.']) :=
      canonical_iff.mpr ⟨_, ups, rfl, by simpa using ordinary, nofun⟩
    have full : names.reverse ++ List.replicate ups ['.', '.'] ≠ [] := by
      rcases some with up | down
      · simp [up]
      · simp [down]
    refine ⟨false, _, canonical, ?_⟩
    rw [render_of_ne_nil canonical full, String.toList_ofList, List.reverse_append,
      List.reverse_replicate, List.reverse_reverse]
  | @rooted names some ordinary =>
    have shape : names.reverse = names.reverse ++ List.replicate 0 ['.', '.'] :=
      (List.append_nil _).symm
    have canonical : Canonical true names.reverse :=
      canonical_iff.mpr ⟨_, 0, shape, by simpa using ordinary, fun _ => rfl⟩
    refine ⟨true, _, canonical, ?_⟩
    rw [render, List.reverse_reverse, String.toList_ofList]
    rfl

theorem isCanonical_clean (path : String) : IsCanonical (clean path) := by
  rw [clean, cleanChars_eq_render]
  exact isCanonical_of_render (stackOf_canonical _)

theorem IsCanonical.clean_eq {path : String} (canonical : IsCanonical path) : clean path = path := by
  obtain ⟨rooted, kept, canonical, text⟩ := exists_render_of_isCanonical canonical
  have same : cleanChars path.toList = path.toList := by
    rw [text, cleanChars_eq_render, isRooted_render canonical, stackOf_render canonical]
  rw [clean, same, String.ofList_toList]

/-- Cleaning chooses one canonical path for all that lead to the same place by their text. -/
theorem clean_represents (p q : String) :
    (clean p = clean q ↔ isRooted p.toList = isRooted q.toList ∧
      SamePlace (isRooted p.toList) (splitOn '/' p.toList) (splitOn '/' q.toList)) ∧
    IsCanonical (clean p) ∧ (IsCanonical p ↔ clean p = p) ∧ clean (clean p) = clean p := by
  refine ⟨?_, isCanonical_clean p, ⟨IsCanonical.clean_eq, ?_⟩, (isCanonical_clean p).clean_eq⟩
  · rw [← cleanChars_eq_iff, clean, clean, String.ofList_inj]
  · intro same
    exact same ▸ isCanonical_clean p

end Dispatchers.Path
