import Dispatchers.Proofs.Disk.Joining

namespace Dispatchers.Path

open Text

/-- The segments that lead somewhere; the path `.` has none. -/
def segments (path : String) : List Segment :=
  (splitOn '/' path.toList).filter Disk.isPlain

def HasParent (path : String) : Prop :=
  ['.', '.'] ∈ splitOn '/' path.toList

def StartsRelative (parts : List String) : Prop :=
  ∀ first ∈ (present parts).head?, isRooted first = false

theorem foldl_keep_descending {rooted : Bool} {names : List Segment}
    (descending : ['.', '.'] ∉ names) (kept : List Segment) :
    names.foldl (keep rooted) kept = (names.filter Disk.isPlain).reverse ++ kept := by
  induction names generalizing kept with
  | nil => rfl
  | cons name names ih =>
    have other : name ≠ ['.', '.'] := fun same => descending (same ▸ List.mem_cons_self ..)
    have rest : ['.', '.'] ∉ names := fun member => descending (List.mem_cons_of_mem _ member)
    rw [List.foldl_cons, ih rest]
    by_cases plain : Disk.isPlain name = true
    · have grown : keep rooted kept name = name :: kept := by
        simp only [Disk.isPlain, Bool.and_eq_true, bne_iff_ne] at plain
        simp [keep, plain, other]
      rw [grown, List.filter_cons_of_pos plain, List.reverse_cons, List.append_assoc]
      rfl
    · rw [keep_skipped plain, List.filter_cons_of_neg plain]

theorem stackOf_descending {path : List Char} (descending : ['.', '.'] ∉ splitOn '/' path) :
    (stackOf path).reverse = (splitOn '/' path).filter Disk.isPlain := by
  rw [stackOf, foldl_keep_descending descending, List.append_nil, List.reverse_reverse]

/-- A path that is cleaned first has the same effect behind other segments. Only a rooted path with
`..` is excepted: cleaned alone it drops what would climb above its root. -/
theorem foldl_keep_cleanChars {path : List Char}
    (tame : isRooted path = false ∨ ['.', '.'] ∉ splitOn '/' path) (rooted : Bool)
    (kept : List Segment) :
    (splitOn '/' (cleanChars path)).foldl (keep rooted) kept =
      (splitOn '/' path).foldl (keep rooted) kept := by
  rcases tame with relative | descending
  · have cleaned := (cleanChars_eq_iff.mp (cleanChars_cleanChars path)).2
    rw [isRooted_cleanChars, relative] at cleaned
    apply cleaned.foldl_keep
    intro root
    cases root
  · rw [← foldl_keep_plain, plain_splitOn_cleanChars, stackOf_descending descending,
      foldl_keep_plain]

theorem cleanChars_append_cleanChars {front path : List Char} (full : front ≠ [])
    (tame : isRooted path = false ∨ ['.', '.'] ∉ splitOn '/' path) :
    cleanChars (front ++ '/' :: cleanChars path) = cleanChars (front ++ '/' :: path) := by
  apply cleanChars_congr
  · rw [isRooted_append full, isRooted_append full]
  · rw [stackOf_append full, stackOf_append full, foldl_keep_cleanChars tame]

theorem splitOn_joinWith_eq_flatMap {sep : Char} {pieces : List (List Char)} (full : pieces ≠ []) :
    splitOn sep (joinWith sep pieces) = pieces.flatMap (splitOn sep) := by
  induction pieces with
  | nil => exact absurd rfl full
  | cons piece pieces ih =>
    by_cases last : pieces = []
    · subst last
      simp [joinWith]
    · rw [joinWith_cons piece last, splitOn_append, ih last, List.flatMap_cons]

section Present

variable {parts : List String}

theorem isRooted_joinWith_present (relative : StartsRelative parts) :
    isRooted (joinWith '/' (present parts)) = false := by
  unfold StartsRelative at relative
  cases listed : present parts with
  | nil => rfl
  | cons first rest =>
    have below : isRooted first = false := relative first (by rw [listed]; rfl)
    have full : first ≠ [] := present_ne_nil first (by rw [listed]; exact List.mem_cons_self ..)
    by_cases last : rest = []
    · subst last
      simpa [joinWith] using below
    · rw [joinWith_cons first last, isRooted_append full, below]

theorem parent_notMem_joinWith_present (descending : ∀ part ∈ parts, ¬HasParent part) :
    ['.', '.'] ∉ splitOn '/' (joinWith '/' (present parts)) := by
  by_cases bare : present parts = []
  · rw [bare]
    decide
  rw [splitOn_joinWith_eq_flatMap bare]
  intro member
  obtain ⟨chars, listed, found⟩ := List.mem_flatMap.mp member
  obtain ⟨part, member, rfl⟩ := List.mem_map.mp (List.mem_filter.mp listed).1
  exact descending part member found

theorem join_congr {left right : List String} (same : present left = present right) :
    join left = join right := by
  unfold present at same
  simp only [join, same]

theorem present_concat_join (bare : present parts ≠ []) (front : List String) :
    present (front ++ [join parts]) =
      present front ++ [cleanChars (joinWith '/' (present parts))] := by
  rw [present_append, join_of_present bare]
  congr 1
  simp [present, cleanChars_ne_nil]

end Present

theorem join_concat_join {rest : List String} (front : List String)
    (tame : StartsRelative rest ∨ ∀ part ∈ rest, ¬HasParent part) :
    join (front ++ [join rest]) = join (front ++ rest) := by
  -- Joined alone, parts that are all empty give no `.` but nothing.
  by_cases bare : present rest = []
  · apply join_congr
    rw [join_of_absent bare, present_append, present_append, bare]
    rfl
  have tame := tame.imp isRooted_joinWith_present parent_notMem_joinWith_present
  have split := present_concat_join bare front
  have all : present (front ++ rest) ≠ [] := by simp [present_append, bare]
  rw [join_of_present (by simp [split]), join_of_present all, split, present_append]
  by_cases first : present front = []
  · rw [first, List.nil_append, List.nil_append, joinWith, List.intercalate_singleton,
      cleanChars_cleanChars]
  · have full : joinWith '/' (present front) ≠ [] := fun empty =>
      first (joinWith_eq_nil present_ne_nil empty)
    have alone : joinWith '/' [cleanChars (joinWith '/' (present rest))] =
        cleanChars (joinWith '/' (present rest)) := List.intercalate_singleton
    rw [joinWith_append first (List.cons_ne_nil _ _), joinWith_append first bare, alone,
      cleanChars_append_cleanChars full tame]

section Below

variable {p q : String}

theorem join_pair_empty (full : p ≠ "") : join [p, ""] = clean p := by
  have listed : present [p, ""] = [p.toList] := by simp [present, full]
  rw [join_of_present (by simp [listed]), listed, joinWith, List.intercalate_singleton, clean]

theorem join_pair (full : p ≠ "") (some : q ≠ "") :
    join [p, q] = String.ofList (cleanChars (p.toList ++ '/' :: q.toList)) := by
  have listed : present [p, q] = [p.toList, q.toList] := by simp [present, full, some]
  rw [join_of_present (by simp [listed]), listed, joinWith_cons _ (List.cons_ne_nil _ _), joinWith,
    List.intercalate_singleton]

theorem segments_clean (path : String) : segments (clean path) = (stackOf path.toList).reverse := by
  rw [segments, clean, String.toList_ofList, plain_splitOn_cleanChars]

theorem isRooted_join_pair (full : p ≠ "") :
    isRooted (join [p, q]).toList = isRooted p.toList := by
  by_cases bare : q = ""
  · rw [bare, join_pair_empty full, clean, String.toList_ofList, isRooted_cleanChars]
  · rw [join_pair full bare, String.toList_ofList, isRooted_cleanChars,
      isRooted_append (mt String.toList_eq_nil_iff.mp full)]

theorem segments_join_pair (full : p ≠ "") (descending : ¬HasParent q) :
    segments (join [p, q]) = segments (clean p) ++ segments q := by
  by_cases bare : q = ""
  · have none : segments "" = [] := rfl
    rw [bare, join_pair_empty full, none, List.append_nil]
  · rw [join_pair full bare, segments, String.toList_ofList, plain_splitOn_cleanChars,
      stackOf_append (mt String.toList_eq_nil_iff.mp full), foldl_keep_descending descending,
      List.reverse_append, List.reverse_reverse, segments_clean, segments]

end Below

/-- Joins nest: in front always, and behind unless the inner one is rooted and climbs. A part that
never climbs stays below the one in front of it. -/
theorem join_nested (xs ys : List String) :
    join ([join xs] ++ ys) = join (xs ++ ys) ∧
    (StartsRelative ys ∨ (∀ part ∈ ys, ¬HasParent part) →
      join (xs ++ [join ys]) = join (xs ++ ys)) ∧
    ∀ p q, p ≠ "" → ¬HasParent q →
      isRooted (join [p, q]).toList = isRooted p.toList ∧
      segments (join [p, q]) = segments (clean p) ++ segments q := by
  refine ⟨join_join_append xs ys, join_concat_join xs, ?_⟩
  intro p q full descending
  exact ⟨isRooted_join_pair full, segments_join_pair full descending⟩

theorem join_nested_climbing :
    (StartsRelative ["", "b", "../../:id"] ∧
      join ["/api", "v1/", join ["", "b", "../../:id"]] = "/api/:id") ∧
    (("../a/.." ≠ "" ∧ ¬HasParent "/./b//c") ∧
      segments (join ["../a/..", "/./b//c"]) = [['.', '.'], ['b'], ['c']]) := by
  have relative : StartsRelative ["", "b", "../../:id"] := by
    intro first member
    cases member
    rfl
  have full : "../a/.." ≠ "" := by decide
  have descending : ¬HasParent "/./b//c" := by
    unfold HasParent
    decide
  obtain ⟨-, behind, below⟩ := join_nested ["/api", "v1/"] ["", "b", "../../:id"]
  exact ⟨⟨relative, (behind (.inl relative)).trans rfl⟩, ⟨full, descending⟩,
    (below _ _ full descending).2.trans rfl⟩

/-- A rooted part that climbs forgets what it climbs over once it is joined alone. -/
example : join ["/a", join ["/../b"]] = "/a/b" ∧ join ["/a", "/../b"] = "/b" := by decide

end Dispatchers.Path
