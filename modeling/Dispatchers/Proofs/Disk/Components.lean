import Dispatchers.Disk.Path
import Dispatchers.Proofs.Text.Split

namespace Dispatchers.Disk

open Text

def namesOf (pieces : List (List Char)) : List Component :=
  (pieces.filter isPlain).map String.ofList

/-- What stands before the names: the root of an absolute path, or a leading `.`. -/
def leadOf : List (List Char) → List Component
  | [] :: _ :: _ => [root]
  | ['.'] :: _ => ["."]
  | _ => []

theorem namesOf_append (left right : List (List Char)) :
    namesOf (left ++ right) = namesOf left ++ namesOf right := by
  rw [namesOf, List.filter_append, List.map_append]
  rfl

theorem namesOf_eq_nil {pieces : List (List Char)} (none : ∀ piece ∈ pieces, isPlain piece = false) :
    namesOf pieces = [] := by
  rw [namesOf, List.map_eq_nil_iff, List.filter_eq_nil_iff]
  intro piece member
  rw [none piece member]
  exact Bool.false_ne_true

theorem namesOf_singleton {piece : List Char} (plain : isPlain piece = true) :
    namesOf [piece] = [String.ofList piece] := by
  simp [namesOf, plain]

theorem splitOn_head (s : List Char) :
    ∃ first rest, splitOn '/' s = first :: rest ∧
      (first = [] ∧ (s = [] ∧ rest = [] ∨ s.head? = some '/' ∧ rest ≠ []) ∨
        first ≠ [] ∧ s ≠ [] ∧ s.head? ≠ some '/') := by
  cases s with
  | nil => exact ⟨[], [], rfl, .inl ⟨rfl, .inl ⟨rfl, rfl⟩⟩⟩
  | cons c r =>
    have some : splitOn '/' r ≠ [] := by
      rw [splitOn_eq, List.splitOn_eq_splitOnP]
      exact List.splitOnP_ne_nil _ r
    obtain ⟨next, more, split⟩ := List.exists_cons_of_ne_nil some
    unfold splitOn at split
    by_cases slash : c = '/'
    · refine ⟨[], next :: more, ?_, .inl ⟨rfl, .inr ⟨by rw [slash]; rfl, List.cons_ne_nil _ _⟩⟩⟩
      simp [splitOn, splitWhere, slash, split]
    · refine ⟨c :: next, more, ?_, .inr ⟨List.cons_ne_nil _ _, List.cons_ne_nil _ _, ?_⟩⟩
      · simp [splitOn, splitWhere, slash, split]
      · simpa using slash

theorem isAbsolute_eq {path : String} {first : List Char} {rest : List (List Char)}
    (split : splitOn '/' path.toList = first :: rest) :
    isAbsolute path = (first.isEmpty && !rest.isEmpty) := by
  obtain ⟨_, _, same, found⟩ := splitOn_head path.toList
  rw [split] at same
  cases same
  unfold isAbsolute
  rcases found with ⟨rfl, ⟨empty, rfl⟩ | ⟨slash, some⟩⟩ | ⟨some, -, other⟩
  · rw [empty]
    rfl
  · rw [slash]
    simp [some]
  · simp only [List.isEmpty_eq_false_iff.mpr some, Bool.false_and]
    simpa using other

theorem leadOf_of_plain {first : List Char} (plain : isPlain first = true)
    (rest : List (List Char)) : leadOf (first :: rest) = [] := by
  unfold leadOf
  split
  · rename_i same
    cases same
    cases plain
  · rename_i same
    cases same
    cases plain
  · rfl

theorem components_eq (path : String) :
    components path =
      leadOf (splitOn '/' path.toList) ++ namesOf (splitOn '/' path.toList) := by
  obtain ⟨first, rest, split, found⟩ := splitOn_head path.toList
  unfold components isAbsolute
  simp only [split]
  rcases found with ⟨rfl, ⟨empty, rfl⟩ | ⟨slash, some⟩⟩ | ⟨some, -, other⟩
  · rw [empty]
    rfl
  · obtain ⟨next, more, rfl⟩ := List.exists_cons_of_ne_nil some
    rw [slash]
    rfl
  · have relative : (path.toList.head? == Option.some '/') = false := by simpa using other
    rw [relative]
    by_cases dot : first = ['.']
    · rw [dot]
      rfl
    · rw [leadOf_of_plain (by simp [isPlain, some, dot])]
      simp [dot, namesOf]

def IsStep (step : Component) : Prop :=
  isPlain step.toList = true ∧ '/' ∉ step.toList

theorem isStep_of_mem_namesOf {s : List Char} {step : Component}
    (member : step ∈ namesOf (splitOn '/' s)) : IsStep step := by
  obtain ⟨piece, listed, rfl⟩ := List.mem_map.mp member
  obtain ⟨listed, plain⟩ := List.mem_filter.mp listed
  rw [IsStep, String.toList_ofList]
  exact ⟨plain, not_mem_splitOn listed⟩

theorem IsStep.ne_root {step : Component} (counts : IsStep step) : step ≠ root := by
  rintro rfl
  exact counts.2 (List.mem_singleton_self _)

theorem IsStep.ne_here {step : Component} (counts : IsStep step) : step ≠ "." := by
  rintro rfl
  cases counts.1

theorem isStep_of_components {path : String} {first : Component} {rest : List Component}
    (steps : components path = first :: rest) : ∀ step ∈ rest, IsStep step := by
  rw [components_eq] at steps
  intro step member
  apply isStep_of_mem_namesOf (s := path.toList)
  cases lead : leadOf (splitOn '/' path.toList) with
  | nil =>
    rw [lead, List.nil_append] at steps
    exact steps ▸ List.mem_cons_of_mem _ member
  | cons leading others =>
    have alone : others = [] := by
      unfold leadOf at lead
      split at lead <;> cases lead <;> rfl
    rw [lead, alone, List.singleton_append] at steps
    exact (List.cons.inj steps).2 ▸ member

theorem foldl_move_names {start : List String} {steps : List Component}
    (counts : ∀ step ∈ steps, IsStep step) (down : ".." ∉ steps) :
    steps.foldl move start = start ++ steps := by
  induction steps generalizing start with
  | nil => rw [List.append_nil, List.foldl_nil]
  | cons step steps ih =>
    obtain ⟨first, rest⟩ := List.forall_mem_cons.mp counts
    have up : step ≠ ".." := fun same => down (same ▸ List.mem_cons_self ..)
    rw [List.foldl_cons, ih rest fun member => down (List.mem_cons_of_mem _ member), move,
      if_neg first.ne_root, if_neg first.ne_here, if_neg up, List.append_assoc]
    rfl

theorem components_of_isAbsolute {path : String} (absolute : isAbsolute path = true) :
    components path = root :: namesOf (splitOn '/' path.toList) := by
  rw [components, absolute]
  rfl

theorem isAbsolute_iff {path : String} :
    isAbsolute path = true ↔ (components path).head? = some root := by
  constructor
  · intro absolute
    rw [components_of_isAbsolute absolute]
    rfl
  · intro first
    cases relative : isAbsolute path with
    | true => rfl
    | false =>
      simp only [components, relative, Bool.false_eq_true, if_false] at first
      split at first
      · exact absurd (Option.some.inj first) (by decide)
      · exact absurd rfl (isStep_of_mem_namesOf (List.mem_of_head? first)).ne_root

theorem components_eq_nil_iff {path : String} : components path = [] ↔ path = "" := by
  constructor
  · intro none
    rw [components_eq] at none
    obtain ⟨lead, names⟩ := List.append_eq_nil_iff.mp none
    obtain ⟨first, rest, split, found⟩ := splitOn_head path.toList
    rw [split] at lead names
    rcases found with ⟨rfl, ⟨empty, -⟩ | ⟨-, some⟩⟩ | ⟨some, -, -⟩
    · exact String.toList_eq_nil_iff.mp empty
    · obtain ⟨next, more, rfl⟩ := List.exists_cons_of_ne_nil some
      cases lead
    · by_cases dot : first = ['.']
      · rw [dot] at lead
        cases lead
      · simp [namesOf, isPlain, some, dot] at names
  · rintro rfl
    rfl

theorem leadOf_append {pieces : List (List Char)} (full : pieces ≠ []) (more : pieces ≠ [[]])
    (behind : List (List Char)) : leadOf (pieces ++ behind) = leadOf pieces := by
  match pieces with
  | [] => exact absurd rfl full
  | [[]] => exact absurd rfl more
  | [] :: _ :: _ => rfl
  | (c :: first) :: rest =>
    by_cases dot : c :: first = ['.']
    · rw [dot]
      rfl
    · have plain : isPlain (c :: first) = true := by simp [isPlain, dot]
      rw [List.cons_append, leadOf_of_plain plain, leadOf_of_plain plain]

theorem trimPieces_spec (pieces : List (List Char)) (full : pieces ≠ []) :
    ∃ skipped, pieces = skipped ++ trimPieces pieces ∧
      (∀ piece ∈ skipped, isPlain piece = false) ∧ trimPieces pieces ≠ [] ∧
      ∀ last next rest, trimPieces pieces = last :: next :: rest → isPlain last = true := by
  induction pieces using trimPieces.induct with
  | case1 piece next rest plain =>
    refine ⟨[], ?_, nofun, ?_, ?_⟩ <;> simp [trimPieces, plain]
  | case2 piece next rest other ih =>
    obtain ⟨skipped, whole, junk, some, last⟩ := ih (List.cons_ne_nil _ _)
    have step : trimPieces (piece :: next :: rest) = trimPieces (next :: rest) := by
      simp [trimPieces, other]
    rw [step]
    refine ⟨piece :: skipped, by rw [List.cons_append, ← whole], ?_, some, last⟩
    intro dropped member
    rcases List.mem_cons.mp member with rfl | member
    · simpa using other
    · exact junk dropped member
  | case3 pieces short =>
    have same : trimPieces pieces = pieces := by
      unfold trimPieces
      split
      · exact absurd rfl (short _ _ _)
      · rfl
    rw [same]
    exact ⟨[], rfl, nofun, full, fun last next rest long => absurd long (short last next rest)⟩

def ofLeft (left : List (List Char)) : String :=
  if left = [[]] then "/" else String.ofList (joinWith '/' left.reverse)

theorem splitOn_ofLeft {left : List (List Char)} (some : left ≠ []) (other : left ≠ [[]])
    (free : ∀ piece ∈ left, '/' ∉ piece) : splitOn '/' (ofLeft left).toList = left.reverse := by
  rw [ofLeft, if_neg other, String.toList_ofList]
  exact splitOn_joinWith (fun piece member => free piece (List.mem_reverse.mp member)) (by simpa)

theorem ofLeft_spec {left behind : List (List Char)} {path : String} (some : left ≠ [])
    (free : ∀ piece ∈ left, '/' ∉ piece) (more : behind ≠ [])
    (pieces : splitOn '/' path.toList = left.reverse ++ behind) :
    isAbsolute path = isAbsolute (ofLeft left) ∧
      components path = components (ofLeft left) ++ namesOf behind := by
  by_cases rooted : left = [[]]
  · subst rooted
    obtain ⟨next, rest, rfl⟩ := List.exists_cons_of_ne_nil more
    refine ⟨by rw [isAbsolute_eq pieces]; rfl, ?_⟩
    rw [components_eq, pieces]
    rfl
  · have split := splitOn_ofLeft some rooted free
    have other : left.reverse ≠ [[]] := by simpa using rooted
    obtain ⟨first, rest, whole⟩ := List.exists_cons_of_ne_nil (List.reverse_ne_nil_iff.mpr some)
    rw [whole] at pieces split other
    constructor
    · rw [isAbsolute_eq split, isAbsolute_eq (pieces.trans (List.cons_append ..))]
      cases first with
      | cons c first => rfl
      | nil =>
        cases rest with
        | nil => exact absurd rfl other
        | cons next rest => rfl
    · rw [components_eq, components_eq, pieces, split, namesOf_append, ← List.append_assoc,
        leadOf_append (List.cons_ne_nil _ _) other]

section Parent

variable {path : String} {last : List Char}

theorem parent?_of_short (full : path ≠ "")
    (trimmed : trimPieces (splitOn '/' path.toList).reverse = [last]) :
    parent? path = if isAbsolute path then none else some "" := by
  simp [parent?, full, trimmed]

theorem parent?_of_long {next : List Char} {more : List (List Char)} (full : path ≠ "")
    (trimmed : trimPieces (splitOn '/' path.toList).reverse = last :: next :: more) :
    parent? path = some (ofLeft (trimPieces (next :: more))) := by
  rw [parent?, if_neg (by simpa using full), trimmed, ofLeft]
  simp only
  split <;> rfl

theorem components_of_short (full : path ≠ "") {skipped : List (List Char)}
    (pieces : splitOn '/' path.toList = last :: skipped) (junk : namesOf skipped = []) :
    if isAbsolute path then components path = [root]
    else ∃ step, components path = [step] := by
  obtain ⟨first, rest, split, found⟩ := splitOn_head path.toList
  rw [pieces] at split
  cases split
  have names : namesOf (last :: skipped) = namesOf [last] := by
    rw [← List.singleton_append, namesOf_append, junk, List.append_nil]
  rw [components_eq, isAbsolute_eq pieces, pieces, names]
  rcases found with ⟨rfl, ⟨empty, -⟩ | ⟨-, some⟩⟩ | ⟨some, -, -⟩
  · exact absurd (String.toList_eq_nil_iff.mp empty) full
  · obtain ⟨next, more, rfl⟩ := List.exists_cons_of_ne_nil some
    rfl
  · by_cases dot : last = ['.']
    · rw [dot]
      exact ⟨".", rfl⟩
    · have plain : isPlain last = true := by simp [isPlain, some, dot]
      rw [leadOf_of_plain plain, namesOf_singleton plain]
      simp [some]

end Parent

/-- The steps to a path are those to its parent and one more; a path without parent is empty or leads
to the root. -/
theorem components_parent (path : String) :
    match parent? path with
    | none => path = "" ∨ components path = [root]
    | some dir => isAbsolute path = isAbsolute dir ∧
      ∃ last, components path = components dir ++ [last] := by
  by_cases full : path = ""
  · rw [full]
    exact .inl rfl
  have some : splitOn '/' path.toList ≠ [] := by
    obtain ⟨first, rest, split, -⟩ := splitOn_head path.toList
    rw [split]
    exact List.cons_ne_nil _ _
  obtain ⟨skipped, whole, junk, trim, name⟩ :=
    trimPieces_spec (splitOn '/' path.toList).reverse (by simpa using some)
  have behind : namesOf skipped.reverse = [] :=
    namesOf_eq_nil fun piece member => junk piece (List.mem_reverse.mp member)
  obtain ⟨last, others, trimmed⟩ := List.exists_cons_of_ne_nil trim
  rw [trimmed] at whole name
  cases others with
  | nil =>
    have pieces : splitOn '/' path.toList = last :: skipped.reverse := by
      rw [← List.reverse_inj, whole]
      simp
    have steps := components_of_short full pieces behind
    rw [parent?_of_short full trimmed]
    cases absolute : isAbsolute path with
    | true => exact .inr (by simpa [absolute] using steps)
    | false =>
      rw [absolute, if_neg Bool.false_ne_true] at steps
      exact ⟨rfl, steps⟩
  | cons next more =>
    have plain := name last next more rfl
    obtain ⟨dropped, inner, hidden, left, -⟩ :=
      trimPieces_spec (next :: more) (List.cons_ne_nil _ _)
    have between : namesOf dropped.reverse = [] :=
      namesOf_eq_nil fun piece member => hidden piece (List.mem_reverse.mp member)
    rw [parent?_of_long full trimmed]
    generalize trimPieces (next :: more) = kept at inner left
    have pieces : splitOn '/' path.toList =
        kept.reverse ++ (dropped.reverse ++ ([last] ++ skipped.reverse)) := by
      rw [← List.reverse_inj, whole, inner]
      simp
    have names : namesOf (dropped.reverse ++ ([last] ++ skipped.reverse)) =
        [String.ofList last] := by
      rw [namesOf_append, namesOf_append, between, behind, namesOf_singleton plain]
      rfl
    have free : ∀ piece ∈ kept, '/' ∉ piece := by
      intro piece member
      refine not_mem_splitOn (s := path.toList) ?_
      rw [pieces]
      exact List.mem_append_left _ (List.mem_reverse.mpr member)
    obtain ⟨absolute, steps⟩ := ofLeft_spec left free (by simp) pieces
    exact ⟨absolute, String.ofList last, names ▸ steps⟩

end Dispatchers.Disk
