import Dispatchers.Disk.Basic
import Dispatchers.Proofs.Disk.Joining
import Mathlib.Data.List.Basic

namespace Dispatchers.Disk

open Text

/-- Exactly two slashes at the start of a path are kept as they are. -/
def hasTwoSlashes (path : String) : Bool :=
  match path.toList with
  | '/' :: '/' :: rest => rest.head? != some '/'
  | _ => false

/-- The path from the root: a relative path without its leading `.` behind the working directory. A
slash at the end stays, and so does `..`. -/
def anchored (cwd path : String) : Except IoFault String :=
  if path.isEmpty then .error .invalidInput
  else
    let whole :=
      if hasTwoSlashes path then ((components path).drop 1).foldl join "//"
      else if isAbsolute path then (components path).foldl join ""
      else ((components path).filter (· ≠ ".")).foldl join cwd
    .ok (if path.toList.getLast? = some '/' then join whole "" else whole)

def walk (path : String) (step : Component) : String :=
  if step = "." then path
  else if step = ".." then (parent? path).getD path
  else join path step

def lexicalAbsolute (cwd path : String) : Except IoFault String := do
  let whole ← anchored cwd path
  return (components whole).foldl walk ""

/-- The path behind the working directory, unless it starts at the root itself. -/
def placeFrom (cwd path : String) : String :=
  if isAbsolute path then path else cwd ++ "/" ++ path

theorem components_foldl_join {steps : List Component} (counts : ∀ step ∈ steps, IsStep step)
    (base : String) : components (steps.foldl join base) = components base ++ steps := by
  induction steps generalizing base with
  | nil => rw [List.foldl_nil, List.append_nil]
  | cons step steps ih =>
    obtain ⟨first, rest⟩ := List.forall_mem_cons.mp counts
    rw [List.foldl_cons, ih rest, components_join_file first.1 first.2, List.append_assoc]
    rfl

theorem components_join_nothing {path : String} (full : path ≠ "") :
    components (join path "") = components path := by
  rw [components_join full rfl]
  exact List.append_nil _

theorem isAbsolute_of_hasTwoSlashes {path : String} (two : hasTwoSlashes path = true) :
    isAbsolute path = true := by
  unfold hasTwoSlashes at two
  split at two
  next chars =>
    rw [isAbsolute, chars]
    rfl
  next => cases two

theorem isAbsolute_append {path : String} (rooted : isAbsolute path = true) (rest : String) :
    isAbsolute (path ++ rest) = true := by
  rw [isAbsolute, beq_iff_eq] at rooted ⊢
  rw [String.toList_append, List.head?_append, rooted]
  rfl

section Anchored

variable {cwd path : String}

theorem isAbsolute_placeFrom (rooted : isAbsolute path = true ∨ isAbsolute cwd = true) :
    isAbsolute (placeFrom cwd path) = true := by
  unfold placeFrom
  split
  next absolute => exact absolute
  next relative =>
    have base := rooted.resolve_left relative
    exact isAbsolute_append (isAbsolute_append base "/") path

theorem components_placeFrom (rooted : isAbsolute path = true ∨ isAbsolute cwd = true) :
    components (placeFrom cwd path) =
      (if isAbsolute path then [root] else components cwd) ++
        namesOf (splitOn '/' path.toList) := by
  have place := isAbsolute_placeFrom rooted
  unfold placeFrom at place ⊢
  split at place
  next absolute =>
    rw [if_pos absolute, if_pos absolute]
    exact components_of_isAbsolute absolute
  next relative =>
    have whole : splitOn '/' (cwd ++ "/" ++ path).toList =
        splitOn '/' cwd.toList ++ splitOn '/' path.toList := by
      rw [String.toList_append, String.toList_append, List.append_assoc]
      exact splitOn_append '/' cwd.toList path.toList
    rw [if_neg relative, if_neg relative, components_of_isAbsolute place, whole, namesOf_append,
      components_of_isAbsolute (rooted.resolve_left relative)]
    rfl

theorem anchored_ok (rooted : isAbsolute path = true ∨ isAbsolute cwd = true) (full : path ≠ "") :
    ∃ whole, anchored cwd path = .ok whole ∧
      components whole = components (placeFrom cwd path) := by
  rw [anchored, if_neg (by simpa using full)]
  generalize start : (if hasTwoSlashes path then _ else _ : String) = whole
  have steps : components whole = components (placeFrom cwd path) := by
    have names : ∀ step ∈ namesOf (splitOn '/' path.toList), IsStep step :=
      fun _ => isStep_of_mem_namesOf
    rw [components_placeFrom rooted, ← start]
    cases absolute : isAbsolute path with
    | true =>
      rw [components_of_isAbsolute absolute, if_pos rfl, if_pos rfl]
      split
      · exact components_foldl_join names "//"
      · exact components_foldl_join names "/"
    | false =>
      have two : ¬hasTwoSlashes path = true := by
        intro two
        rw [isAbsolute_of_hasTwoSlashes two] at absolute
        cases absolute
      rw [if_neg two, if_neg Bool.false_ne_true, if_neg Bool.false_ne_true,
        filter_components absolute]
      exact components_foldl_join names cwd
  have some : whole ≠ "" := by
    have first := isAbsolute_iff.mp (isAbsolute_placeFrom rooted)
    rw [← steps] at first
    exact ne_empty_of_isAbsolute (isAbsolute_iff.mpr first)
  refine ⟨_, rfl, ?_⟩
  split
  · rw [components_join_nothing some, steps]
  · exact steps

theorem absoluteNames_placeFrom (rooted : isAbsolute path = true ∨ isAbsolute cwd = true) :
    absoluteNames (absoluteNames [] cwd) path = absoluteNames [] (placeFrom cwd path) := by
  rw [absoluteNames, absoluteNames, absoluteNames, components_placeFrom rooted, List.foldl_append]
  cases absolute : isAbsolute path with
  | true =>
    rw [components_of_isAbsolute absolute]
    rfl
  | false =>
    have stays : (fun names step => if decide (step ≠ ".") = true then move names step else names) =
        move := by
      funext names step
      by_cases here : step = "."
      · rw [here]
        rfl
      · simp [here]
    rw [← filter_components absolute, List.foldl_filter, stays]
    rfl

end Anchored

section Names

variable {names : List String} {name : String}

theorem toList_absolutePath (names : List String) :
    (absolutePath names).toList = '/' :: joinWith '/' (names.map String.toList) := by
  rw [absolutePath, String.toList_append, String.toList_intercalate]
  rfl

theorem isAbsolute_absolutePath (names : List String) : isAbsolute (absolutePath names) = true := by
  rw [isAbsolute, toList_absolutePath]
  rfl

theorem splitOn_absolutePath (full : names ≠ []) (counts : ∀ name ∈ names, IsStep name) :
    splitOn '/' (absolutePath names).toList = [] :: names.map String.toList := by
  have pieces := splitOn_append '/' [] ("/".intercalate names).toList
  rw [splitOn_intercalate full counts] at pieces
  rw [absolutePath, String.toList_append]
  exact pieces

theorem last_absolutePath (full : names ≠ []) (counts : ∀ name ∈ names, IsStep name) :
    (absolutePath names).toList.getLast? ≠ some '/' := by
  intro slash
  obtain ⟨front, ends⟩ := List.getLast?_eq_some_iff.mp slash
  have pieces := splitOn_absolutePath full counts
  rw [ends, splitOn_append] at pieces
  obtain ⟨names, name, rfl⟩ := (List.eq_nil_or_concat' names).resolve_left full
  rw [List.map_append, ← List.cons_append] at pieces
  have empty : name.toList = [] := (List.cons.inj (List.append_inj' pieces rfl).2).1.symm
  have plain := (counts name List.mem_concat_self).1
  rw [empty] at plain
  cases plain

theorem join_absolutePath (counts : ∀ other ∈ names, IsStep other) (isStep : IsStep name) :
    join (absolutePath names) name = absolutePath (names ++ [name]) := by
  have relative := isAbsolute_of_free isStep.2
  apply String.ext
  rw [toList_absolutePath, List.map_append, List.map_singleton]
  by_cases bare : names = []
  · have slash : join "/" name = "/" ++ name := by simp [join, relative]
    rw [bare, show absolutePath [] = "/" from rfl, slash, String.toList_append, List.map_nil,
      List.nil_append, joinWith, List.intercalate_singleton]
    rfl
  · have last := last_absolutePath bare counts
    have full : absolutePath names ≠ "" := ne_empty_of_isAbsolute (isAbsolute_absolutePath names)
    have apart : join (absolutePath names) name = absolutePath names ++ "/" ++ name := by
      simp [join, relative, full, last]
    rw [apart, String.toList_append, String.toList_append, toList_absolutePath,
      joinWith_append (by simpa using bare) (List.cons_ne_nil _ _), joinWith, joinWith,
      List.intercalate_singleton, List.append_assoc]
    rfl

theorem trimPieces_of_plain {piece : List Char} (plain : isPlain piece = true)
    (rest : List (List Char)) : trimPieces (piece :: rest) = piece :: rest := by
  cases rest <;> simp [trimPieces, plain]

theorem ofLeft_absolutePath (names : List String) :
    ofLeft ((names.map String.toList).reverse ++ [[]]) = absolutePath names := by
  by_cases bare : names = []
  · rw [bare]
    rfl
  · have full : names.map String.toList ≠ [] := by simpa using bare
    apply String.ext
    rw [ofLeft, if_neg (by simpa using bare), String.toList_ofList, List.reverse_append,
      List.reverse_reverse, List.reverse_singleton, List.singleton_append, joinWith_cons [] full,
      toList_absolutePath]
    rfl

theorem parent?_absolutePath (counts : ∀ other ∈ names ++ [name], IsStep other) :
    parent? (absolutePath (names ++ [name])) = some (absolutePath names) := by
  have pieces := splitOn_absolutePath (by simp) counts
  have full := ne_empty_of_isAbsolute (isAbsolute_absolutePath (names ++ [name]))
  have plain (other : String) (member : other ∈ names ++ [name]) : isPlain other.toList = true :=
    (counts other member).1
  obtain ⟨next, more, left⟩ := List.exists_cons_of_ne_nil
    (show (names.map String.toList).reverse ++ [[]] ≠ [] by simp)
  have trimmed : trimPieces (splitOn '/' (absolutePath (names ++ [name])).toList).reverse =
      name.toList :: next :: more := by
    rw [pieces, List.reverse_cons, List.map_append, List.reverse_append, List.map_singleton,
      List.reverse_singleton, List.append_assoc, left]
    exact trimPieces_of_plain (plain name List.mem_concat_self) _
  have kept : trimPieces (next :: more) = next :: more := by
    rcases List.eq_nil_or_concat' names with rfl | ⟨above, last, rfl⟩
    · cases left
      rfl
    · rw [List.map_append, List.reverse_append] at left
      obtain ⟨rfl, -⟩ := List.cons.inj left
      exact trimPieces_of_plain (plain last (by simp)) more
  rw [parent?_of_long full trimmed, kept, ← left, ofLeft_absolutePath]

theorem walk_absolutePath {step : Component} (counts : ∀ other ∈ names, IsStep other)
    (isStep : IsStep step) : walk (absolutePath names) step = absolutePath (move names step) := by
  rw [walk, move, if_neg isStep.ne_here, if_neg isStep.ne_root, if_neg isStep.ne_here]
  by_cases up : step = ".."
  · rw [if_pos up, if_pos up]
    rcases List.eq_nil_or_concat' names with rfl | ⟨names, last, rfl⟩
    · rfl
    · rw [parent?_absolutePath counts, List.dropLast_concat]
      rfl
  · rw [if_neg up, if_neg up]
    exact join_absolutePath counts isStep

theorem isStep_of_mem_move {step : Component} (counts : ∀ other ∈ names, IsStep other)
    (isStep : IsStep step) : ∀ other ∈ move names step, IsStep other := by
  rw [move, if_neg isStep.ne_root, if_neg isStep.ne_here]
  intro other member
  split at member
  · exact counts other (List.dropLast_subset _ member)
  · rcases List.mem_append.mp member with member | member
    · exact counts other member
    · exact List.mem_singleton.mp member ▸ isStep

theorem foldl_walk {steps : List Component} (counts : ∀ other ∈ names, IsStep other)
    (isSteps : ∀ step ∈ steps, IsStep step) :
    steps.foldl walk (absolutePath names) = absolutePath (steps.foldl move names) := by
  induction steps generalizing names with
  | nil => rfl
  | cons step steps ih =>
    obtain ⟨first, rest⟩ := List.forall_mem_cons.mp isSteps
    rw [List.foldl_cons, walk_absolutePath counts first, ih (isStep_of_mem_move counts first) rest,
      List.foldl_cons]

end Names

def namesOfStack (kept : List Path.Segment) : List String :=
  kept.reverse.map String.ofList

section Stack

variable {kept : List Path.Segment}

/-- Going one step changes the names as it changes the stack. -/
theorem move_namesOfStack {step : Component} (canonical : Path.Canonical true kept)
    (isStep : IsStep step) :
    move (namesOfStack kept) step = namesOfStack (Path.keep true kept step.toList) := by
  have plain := isStep.1
  simp only [isPlain, Bool.and_eq_true, bne_iff_ne] at plain
  rw [move, if_neg isStep.ne_root, if_neg isStep.ne_here]
  by_cases up : step = ".."
  · rw [if_pos up, up, show (".." : String).toList = ['.', '.'] from rfl]
    cases canonical with
    | nil => rfl
    | @cons top below kept parent _ =>
      have name : top ≠ ['.', '.'] := by
        intro same
        cases (parent same).1
      rw [Path.keep_parent ⟨kept, name⟩, namesOfStack, List.reverse_cons, List.map_append,
        List.map_singleton, List.dropLast_concat]
      rfl
  · have ordinary : Path.IsOrdinary step.toList :=
      ⟨⟨plain.1, plain.2, isStep.2⟩, fun same => up (String.ext same)⟩
    rw [if_neg up, Path.keep_ordinary ordinary, namesOfStack, namesOfStack, List.reverse_cons,
      List.map_append, List.map_singleton, String.ofList_toList]

theorem foldl_move_namesOfStack {steps : List Component} (canonical : Path.Canonical true kept)
    (isSteps : ∀ step ∈ steps, IsStep step) :
    steps.foldl move (namesOfStack kept) =
      namesOfStack ((steps.map String.toList).foldl (Path.keep true) kept) := by
  induction steps generalizing kept with
  | nil => rfl
  | cons step steps ih =>
    obtain ⟨first, rest⟩ := List.forall_mem_cons.mp isSteps
    rw [List.foldl_cons, move_namesOfStack canonical first,
      ih (Path.keep_canonical canonical first.2) rest]
    rfl

end Stack

section Rooted

variable {path : String}

theorem absoluteNames_eq (rooted : isAbsolute path = true) (start : List String) :
    absoluteNames start path = namesOfStack (Path.stackOf path.toList) := by
  have pieces : (namesOf (splitOn '/' path.toList)).map String.toList =
      (splitOn '/' path.toList).filter isPlain := by
    simp [namesOf, Function.comp_def]
  have top : move start root = namesOfStack [] := rfl
  rw [absoluteNames, components_of_isAbsolute rooted, List.foldl_cons, top,
    foldl_move_namesOfStack .nil fun _ => isStep_of_mem_namesOf, pieces, Path.foldl_keep_plain,
    Path.stackOf, Path.isRooted_eq, rooted]

theorem absolutePath_absoluteNames (rooted : isAbsolute path = true) (start : List String) :
    absolutePath (absoluteNames start path) = Path.clean path := by
  apply String.ext
  rw [absoluteNames_eq rooted, toList_absolutePath, namesOfStack, List.map_map, Path.clean,
    String.toList_ofList, Path.cleanChars_eq_render, Path.isRooted_eq, rooted, Path.render]
  simp [Function.comp_def]

theorem foldl_walk_components (rooted : isAbsolute path = true) :
    (components path).foldl walk "" = Path.clean path := by
  have top : walk "" root = absolutePath [] := rfl
  rw [← absolutePath_absoluteNames rooted [], absoluteNames, components_of_isAbsolute rooted,
    List.foldl_cons, List.foldl_cons, top, foldl_walk (List.forall_mem_nil _) fun _ => isStep_of_mem_namesOf]
  rfl

end Rooted

theorem lexicalAbsolute_ok {cwd path : String}
    (rooted : isAbsolute path = true ∨ isAbsolute cwd = true) (full : path ≠ "") :
    lexicalAbsolute cwd path = .ok (Path.clean (placeFrom cwd path)) := by
  obtain ⟨whole, anchor, steps⟩ := anchored_ok rooted full
  rw [lexicalAbsolute, anchor, ← foldl_walk_components (isAbsolute_placeFrom rooted), ← steps]
  rfl

theorem absolute_ok {disk : Disk} {cwd path : String}
    (rooted : isAbsolute path = true ∨ isAbsolute cwd = true) (full : path ≠ "")
    (here : disk.cwd = absoluteNames [] cwd) :
    (disk.absolute path).map absolutePath = .ok (Path.clean (placeFrom cwd path)) := by
  have place := isAbsolute_placeFrom rooted
  rw [absolute, if_neg (by simpa using full), here, absoluteNames_placeFrom rooted, Except.map,
    absolutePath_absoluteNames place]

/-- The path from the root is the clean one, and is not changed any more. -/
theorem lexicalAbsolute_clean {cwd path : String} (rooted : isAbsolute cwd = true)
    (full : path ≠ "") :
    lexicalAbsolute cwd path = .ok (Path.clean (placeFrom cwd path)) ∧
    (∀ disk : Disk, disk.cwd = absoluteNames [] cwd →
      (disk.absolute path).map absolutePath = .ok (Path.clean (placeFrom cwd path))) ∧
    isAbsolute (Path.clean (placeFrom cwd path)) = true ∧
    (∀ piece ∈ splitOn '/' (Path.clean (placeFrom cwd path)).toList,
      piece ≠ ['.'] ∧ piece ≠ ['.', '.']) ∧
    ∀ other, lexicalAbsolute other (Path.clean (placeFrom cwd path)) =
      .ok (Path.clean (placeFrom cwd path)) := by
  have place : isAbsolute (placeFrom cwd path) = true := isAbsolute_placeFrom (.inr rooted)
  have cleaned : isAbsolute (Path.clean (placeFrom cwd path)) = true := by
    rw [Path.isAbsolute_clean, place]
  refine ⟨lexicalAbsolute_ok (.inr rooted) full, fun disk => absolute_ok (.inr rooted) full, cleaned,
    fun piece member => ?_, fun other => ?_⟩
  · rcases Path.ordinary_clean place piece member with rfl | ordinary
    · decide
    · exact ⟨ordinary.1.2.1, ordinary.2⟩
  · have again : placeFrom other (Path.clean (placeFrom cwd path)) =
        Path.clean (placeFrom cwd path) := if_pos cleaned
    rw [lexicalAbsolute_ok (.inl cleaned) (ne_empty_of_isAbsolute cleaned), again, (Path.isCanonical_clean _).clean_eq]

def standingIn (cwd : String) : Disk :=
  ⟨[], absoluteNames [] cwd⟩

theorem lexicalAbsolute_clean_climbing :
    (isAbsolute "//srv/../home/./me/" = true ∧ "./..//a/../../b/" ≠ "") ∧
    lexicalAbsolute "//srv/../home/./me/" "./..//a/../../b/" = .ok "/b" ∧
    ((standingIn "//srv/../home/./me/").absolute "./..//a/../../b/").map absolutePath = .ok "/b" := by
  have rooted : isAbsolute "//srv/../home/./me/" = true := by decide
  have full : "./..//a/../../b/" ≠ "" := by decide
  have cleaned : Path.clean (placeFrom "//srv/../home/./me/" "./..//a/../../b/") = "/b" := by decide
  obtain ⟨lexical, running, -⟩ := lexicalAbsolute_clean rooted full
  rw [cleaned] at lexical running
  exact ⟨⟨rooted, full⟩, lexical, running (standingIn "//srv/../home/./me/") rfl⟩

end Dispatchers.Disk
