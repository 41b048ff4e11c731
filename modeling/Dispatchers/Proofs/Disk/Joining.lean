import Dispatchers.Proofs.Disk.Components
import Dispatchers.Proofs.Path.Canonical

namespace Dispatchers.Disk

open Text

theorem eq_nil_of_splitOn {s : List Char} (nothing : splitOn '/' s = [[]]) : s = [] := by
  obtain ⟨first, rest, split, ⟨-, ⟨empty, -⟩ | ⟨-, some⟩⟩ | ⟨some, -⟩⟩ := splitOn_head s
  · exact empty
  · rw [nothing] at split
    exact absurd (List.cons.inj split).2.symm some
  · rw [nothing] at split
    exact absurd (List.cons.inj split).1.symm some

theorem splitOn_of_free {s : List Char} (free : '/' ∉ s) : splitOn '/' s = [s] := by
  rw [splitOn_eq, List.splitOn_eq_singleton free]

theorem ne_empty_of_isAbsolute {path : String} (rooted : isAbsolute path = true) : path ≠ "" := by
  rintro rfl
  cases rooted

theorem isAbsolute_of_free {path : String} (free : '/' ∉ path.toList) : isAbsolute path = false := by
  rw [isAbsolute_eq (splitOn_of_free free)]
  simp

theorem leadOf_congr {pieces behind other : List (List Char)} (full : pieces ≠ [])
    (some : behind ≠ []) (more : other ≠ []) :
    leadOf (pieces ++ behind) = leadOf (pieces ++ other) := by
  by_cases alone : pieces = [[]]
  · obtain ⟨_, _, rfl⟩ := List.exists_cons_of_ne_nil some
    obtain ⟨_, _, rfl⟩ := List.exists_cons_of_ne_nil more
    rw [alone]
    rfl
  · rw [leadOf_append full alone, leadOf_append full alone]

theorem components_join {base path : String} (full : base ≠ "") (relative : isAbsolute path = false) :
    components (join base path) = components base ++ namesOf (splitOn '/' path.toList) := by
  have nonempty : base.isEmpty = false := by simpa using full
  by_cases slash : base.toList.getLast? = some '/'
  · have joined : join base path = base ++ path := by simp [join, relative, slash]
    obtain ⟨front, ends⟩ := List.getLast?_eq_some_iff.mp slash
    have whole : splitOn '/' (base ++ path).toList =
        splitOn '/' front ++ splitOn '/' path.toList := by
      rw [String.toList_append, ends, List.append_assoc, List.singleton_append, splitOn_append]
    have alone : splitOn '/' base.toList = splitOn '/' front ++ [[]] := by
      rw [ends, splitOn_append]
      rfl
    have start := leadOf_congr (splitOn_ne_nil '/' front) (splitOn_ne_nil '/' path.toList)
      (List.cons_ne_nil [] [])
    have last : namesOf [[]] = [] := rfl
    rw [joined, components_eq, components_eq, whole, alone, namesOf_append, namesOf_append, start,
      last, List.append_nil, List.append_assoc]
  · have joined : join base path = base ++ "/" ++ path := by simp [join, relative, nonempty, slash]
    have whole : splitOn '/' (base ++ "/" ++ path).toList =
        splitOn '/' base.toList ++ splitOn '/' path.toList := by
      rw [String.toList_append, String.toList_append, List.append_assoc]
      exact splitOn_append '/' base.toList path.toList
    have other : splitOn '/' base.toList ≠ [[]] := fun same =>
      full (String.toList_eq_nil_iff.mp (eq_nil_of_splitOn same))
    rw [joined, components_eq, components_eq, whole, namesOf_append,
      leadOf_append (splitOn_ne_nil _ _) other, List.append_assoc]

theorem join_empty {path : String} (relative : isAbsolute path = false) : join "" path = path := by
  simp [join, relative]

theorem filter_components {path : String} (relative : isAbsolute path = false) :
    (components path).filter (· ≠ ".") = namesOf (splitOn '/' path.toList) := by
  obtain ⟨first, rest, split, -⟩ := splitOn_head path.toList
  rw [isAbsolute_eq split] at relative
  have lead : (leadOf (first :: rest)).filter (· ≠ ".") = [] := by
    unfold leadOf
    split
    next same =>
      cases same
      exact absurd relative (by simp)
    next => rfl
    next => rfl
  rw [components_eq, split, List.filter_append, lead, List.nil_append, List.filter_eq_self]
  intro step member
  obtain ⟨piece, listed, rfl⟩ := List.mem_map.mp member
  have plain := (List.mem_filter.mp listed).2
  simp only [isPlain, Bool.and_eq_true, bne_iff_ne] at plain
  rw [decide_eq_true_iff]
  exact fun same => plain.2 (String.ofList_inj.mp same)

theorem components_join_file {dir file : String} (plain : isPlain file.toList = true)
    (free : '/' ∉ file.toList) : components (join dir file) = components dir ++ [file] := by
  have split := splitOn_of_free free
  have name : namesOf (splitOn '/' file.toList) = [file] := by
    rw [split, namesOf_singleton plain, String.ofList_toList]
  have relative := isAbsolute_of_free free
  by_cases here : dir = ""
  · rw [here, join_empty relative, components_eq, name, split, leadOf_of_plain plain]
    rfl
  · rw [components_join here relative, name]

section Names

variable {names : List Component}

theorem splitOn_intercalate (some : names ≠ []) (counts : ∀ name ∈ names, IsStep name) :
    splitOn '/' ("/".intercalate names).toList = names.map String.toList := by
  have free : ∀ piece ∈ names.map String.toList, '/' ∉ piece :=
    List.forall_mem_map.mpr fun name member => (counts name member).2
  rw [String.toList_intercalate]
  exact splitOn_joinWith free (by simpa using some)

theorem components_join_intercalate {base : String} (full : base ≠ "")
    (counts : ∀ name ∈ names, IsStep name) :
    components (join base ("/".intercalate names)) = components base ++ names := by
  cases names with
  | nil => exact components_join full rfl
  | cons name rest =>
    have split := splitOn_intercalate (List.cons_ne_nil _ _) counts
    have plain : ((name :: rest).map String.toList).filter isPlain =
        (name :: rest).map String.toList :=
      List.filter_eq_self.mpr (List.forall_mem_map.mpr fun step member => (counts step member).1)
    have relative : isAbsolute ("/".intercalate (name :: rest)) = false := by
      rw [isAbsolute_eq split]
      have first := (counts name (List.mem_cons_self ..)).1
      simp only [isPlain, Bool.and_eq_true, bne_iff_ne] at first
      simp [first.1]
    rw [components_join full relative, split, namesOf, plain, List.map_map]
    simp

end Names

theorem join_ne_empty {file : String} (counts : IsStep file) (dir : String) : join dir file ≠ "" := by
  rw [ne_eq, ← components_eq_nil_iff, components_join_file counts.1 counts.2]
  exact List.append_ne_nil_of_right_ne_nil _ (List.cons_ne_nil _ _)

end Dispatchers.Disk

namespace Dispatchers.Path

open Text

theorem keep_skipped {rooted : Bool} {kept : List Segment} {segment : Segment}
    (skipped : ¬Disk.isPlain segment = true) : keep rooted kept segment = kept := by
  by_cases empty : segment = []
  · rw [empty, keep_empty]
  · have here : segment = ['.'] := by simpa [Disk.isPlain, empty] using skipped
    rw [here, keep_here]

theorem foldl_keep_plain (rooted : Bool) (segments kept : List Segment) :
    (segments.filter Disk.isPlain).foldl (keep rooted) kept = segments.foldl (keep rooted) kept := by
  induction segments generalizing kept with
  | nil => rfl
  | cons segment segments ih =>
    rw [List.foldl_cons, ← ih]
    by_cases plain : Disk.isPlain segment = true
    · rw [List.filter_cons_of_pos plain, List.foldl_cons]
    · rw [List.filter_cons_of_neg plain, keep_skipped plain]

theorem isPlain_of_isKept {segment : Segment} (kept : IsKept segment) :
    Disk.isPlain segment = true := by
  simp [Disk.isPlain, kept.1, kept.2.1]

theorem plain_splitOn_render {rooted : Bool} {kept : List Segment}
    (canonical : Canonical rooted kept) :
    (splitOn '/' (render rooted kept)).filter Disk.isPlain = kept.reverse := by
  have plain : kept.reverse.filter Disk.isPlain = kept.reverse := by
    apply List.filter_eq_self.mpr
    intro segment member
    exact isPlain_of_isKept (canonical.isKept segment (List.mem_reverse.mp member))
  by_cases bare : kept = []
  · subst bare
    cases rooted <;> rfl
  cases rooted with
  | true =>
    rw [splitOn_render canonical bare]
    exact plain
  | false =>
    have free : ∀ segment ∈ kept.reverse, '/' ∉ segment := fun segment member =>
      (canonical.isKept segment (List.mem_reverse.mp member)).2.2
    have body := splitOn_joinWith free (mt List.reverse_eq_nil_iff.mp bare)
    rw [render_of_ne_nil canonical bare, body, plain]

theorem plain_splitOn_cleanChars (path : List Char) :
    (splitOn '/' (cleanChars path)).filter Disk.isPlain = (stackOf path).reverse := by
  rw [cleanChars_eq_render]
  exact plain_splitOn_render (stackOf_canonical path)

theorem isRooted_eq (path : String) : isRooted path.toList = Disk.isAbsolute path := by
  rw [isRooted, Disk.isAbsolute, Bool.beq_eq_decide_eq]

theorem isAbsolute_clean (path : String) : Disk.isAbsolute (clean path) = Disk.isAbsolute path := by
  rw [← isRooted_eq, ← isRooted_eq, clean, String.toList_ofList, isRooted_cleanChars]

theorem ordinary_clean {path : String} (rooted : Disk.isAbsolute path = true) :
    ∀ piece ∈ splitOn '/' (clean path).toList, piece = [] ∨ IsOrdinary piece := by
  have canonical := stackOf_canonical path.toList
  rw [isRooted_eq, rooted] at canonical
  rw [clean, String.toList_ofList, cleanChars_eq_render, isRooted_eq, rooted]
  intro piece member
  by_cases bare : stackOf path.toList = []
  · rw [bare] at member
    have empty : ∀ piece ∈ splitOn '/' (render true []), piece = [] := by decide
    exact .inl (empty piece member)
  · rw [splitOn_render canonical bare] at member
    rcases List.mem_cons.mp member with first | member
    · exact .inl first
    · exact .inr (canonical.ordinary piece (List.mem_reverse.mp member))

structure IsCleanRelative (path : String) : Prop where
  relative : Disk.isAbsolute path = false
  clean : clean path = path

theorem isCleanRelative_here : IsCleanRelative "." :=
  ⟨by decide, by decide⟩

section Clean

variable {base p q : String}

theorem IsCleanRelative.eq_of_namesOf (left : IsCleanRelative p) (right : IsCleanRelative q)
    (same : Disk.namesOf (splitOn '/' p.toList) = Disk.namesOf (splitOn '/' q.toList)) : p = q := by
  have plain : (splitOn '/' p.toList).filter Disk.isPlain =
      (splitOn '/' q.toList).filter Disk.isPlain :=
    (List.map_inj_right fun _ _ => String.ofList_inj.mp).mp same
  have rooted : isRooted p.toList = isRooted q.toList := by
    rw [isRooted_eq, isRooted_eq, left.relative, right.relative]
  have stack : stackOf p.toList = stackOf q.toList := by
    rw [stackOf, stackOf, rooted, ← foldl_keep_plain, plain, foldl_keep_plain]
  rw [← left.clean, ← right.clean, Path.clean, Path.clean, cleanChars_congr rooted stack]

/-- The only clean relative path that leads from a directory to itself is the dot. -/
theorem IsCleanRelative.components_join_self_iff (path : IsCleanRelative p) :
    Disk.components (Disk.join base p) = Disk.components base ↔ base ≠ "" ∧ p = "." := by
  by_cases here : base = ""
  · rw [here, Disk.join_empty path.relative]
    constructor
    · intro none
      have names := Disk.filter_components path.relative
      rw [none] at names
      obtain rfl := path.eq_of_namesOf isCleanRelative_here names.symm
      cases none
    · rintro ⟨full, -⟩
      exact absurd rfl full
  · rw [Disk.components_join here path.relative, List.append_right_eq_self]
    constructor
    · exact fun none => ⟨here, path.eq_of_namesOf isCleanRelative_here none⟩
    · rintro ⟨-, rfl⟩
      rfl

theorem IsCleanRelative.eq_of_components_join (left : IsCleanRelative p)
    (right : IsCleanRelative q)
    (same : Disk.components (Disk.join base p) = Disk.components (Disk.join base q)) : p = q := by
  by_cases here : base = ""
  · rw [here, Disk.join_empty left.relative, Disk.join_empty right.relative] at same
    refine left.eq_of_namesOf right ?_
    rw [← Disk.filter_components left.relative, same, Disk.filter_components right.relative]
  · rw [Disk.components_join here left.relative, Disk.components_join here right.relative,
      List.append_right_inj] at same
    exact left.eq_of_namesOf right same

end Clean

structure IsCleanAbsolute (path : String) : Prop where
  absolute : Disk.isAbsolute path = true
  clean : clean path = path

theorem IsCleanAbsolute.ne_empty {path : String} (rooted : IsCleanAbsolute path) : path ≠ "" :=
  Disk.ne_empty_of_isAbsolute rooted.absolute

theorem IsCleanAbsolute.descends {path : String} (rooted : IsCleanAbsolute path) :
    ".." ∉ Disk.namesOf (splitOn '/' path.toList) := by
  intro member
  obtain ⟨piece, listed, up⟩ := List.mem_map.mp member
  obtain ⟨listed, plain⟩ := List.mem_filter.mp listed
  rw [← rooted.clean] at listed
  rcases ordinary_clean rooted.absolute piece listed with rfl | ordinary
  · cases plain
  · exact ordinary.2 (String.ofList_inj.mp up)

end Dispatchers.Path
