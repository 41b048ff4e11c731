import Dispatchers.Proofs.Controller.Classifying
import Dispatchers.Resolve.Basic

namespace Dispatchers.Resolve

open Controller Go

def isController (p : Package) (markers : Markers) (name : String) : Bool :=
  Text.isExported name && (p.findStruct? name).isSome && !(actionsOf p markers name).isEmpty

def declOf? (p : Package) (markers : Markers) (active : List Route.Prefix) (s : Struct) :
    Option ControllerDecl :=
  let found := (classified p markers s.name).1
  if found.actions.isEmpty || !Text.isExported s.name then none
  else
    some ⟨s.name, s.file, s.comments, found.actions, found.before, found.after, [],
      (bindFields p markers s).1, (routesOf s active found.actions).1⟩

theorem declOf?_name {p : Package} {markers : Markers} {active : List Route.Prefix} {s : Struct}
    {decl : ControllerDecl} (described : declOf? p markers active s = some decl) :
    decl.name = s.name := by
  simp only [declOf?] at described
  split at described
  · cases described
  · cases described
    rfl

theorem declOf?_eq_some_iff {p : Package} {markers : Markers} {active : List Route.Prefix}
    {s : Struct} {decl : ControllerDecl} :
    declOf? p markers active s = some decl ↔
      Text.isExported s.name = true ∧ actionsOf p markers s.name ≠ [] ∧
        decl = ⟨s.name, s.file, s.comments, actionsOf p markers s.name,
          (classified p markers s.name).1.before, (classified p markers s.name).1.after, [],
          (bindFields p markers s).1, (routesOf s active (actionsOf p markers s.name)).1⟩ := by
  unfold declOf?
  simp only [classified_actions]
  split
  · rename_i skipped
    constructor
    · nofun
    · rintro ⟨exported, some, -⟩
      simp [exported, some] at skipped
  · rename_i kept
    simp only [Bool.or_eq_true, List.isEmpty_iff, Bool.not_eq_true', not_or, Bool.not_eq_false] at kept
    rw [Option.some.injEq]
    exact ⟨fun same => ⟨kept.2, kept.1, same.symm⟩, fun ⟨_, _, same⟩ => same.symm⟩

theorem declOf?_isSome (p : Package) (markers : Markers) (active : List Route.Prefix) (s : Struct) :
    (declOf? p markers active s).isSome =
      (Text.isExported s.name && !(actionsOf p markers s.name).isEmpty) := by
  unfold declOf?
  simp only [classified_actions]
  cases (actionsOf p markers s.name).isEmpty <;> cases Text.isExported s.name <;> rfl

/-- The classifier still answers for the package, and the controllers are those of the structs read
so far, the last struct of a name first. -/
structure Collected (p : Package) (markers : Markers) (active : List Route.Prefix)
    (read : List Struct) (c : Collecting) : Prop where
  package : c.classifier.package = p
  marked : c.classifier.markers = markers
  coherent : c.classifier.Coherent
  found : ∀ name, c.controllers.get? name =
    (read.find? (·.name = name)).bind (declOf? p markers active)

variable {p : Package} {markers : Markers} {active : List Route.Prefix}

theorem Collected.step {read : List Struct} {c : Collecting}
    (collected : Collected p markers active read c) (s : Struct) :
    Collected p markers active (s :: read) (collectStep active c s) := by
  obtain ⟨package, marked, coherent, found⟩ := collected
  have answers : Answers p markers (classify s.name) (classified p markers s.name) :=
    classify_answers s.name
  obtain ⟨after, ran, same, kept, still⟩ := answers c.classifier package marked coherent
  -- Structs of one name are controllers all or none, so a later one always replaces an earlier one.
  have others (name : String) (apart : ¬name = s.name) :
      ((s :: read).find? (·.name = name)) = read.find? (·.name = name) := by
    have different : ¬s.name = name := fun h => apart h.symm
    rw [List.find?_cons_of_neg (by simpa using different)]
  have skipped (bare : declOf? p markers active s = none) (name : String) :
      c.controllers.get? name =
        ((s :: read).find? (·.name = name)).bind (declOf? p markers active) := by
    rw [found]
    by_cases equal : name = s.name
    · subst equal
      rw [List.find?_cons_of_pos (by simp), Option.bind_some, bare]
      cases earlier : read.find? (·.name = s.name) with
      | none => rfl
      | some t =>
        have named : t.name = s.name := by simpa using List.find?_some earlier
        have none : (declOf? p markers active t).isSome = false := by
          rw [declOf?_isSome, named, ← declOf?_isSome p markers active s, bare]
          rfl
        simpa using none
    · rw [others name equal]
  unfold collectStep
  simp only [ran]
  by_cases bare : (classified p markers s.name).1.actions.isEmpty = true
  · simp only [bare, if_true]
    exact ⟨same, kept, still, skipped (by simp only [declOf?, bare, Bool.true_or, if_true])⟩
  · by_cases exported : Text.isExported s.name
    · simp only [bare, exported, Bool.not_true, Bool.false_eq_true, if_false, same, kept]
      refine ⟨same, kept, still, fun name => ?_⟩
      rw [Dictionary.get?_insert]
      by_cases equal : name = s.name
      · subst equal
        rw [if_pos rfl, List.find?_cons_of_pos (by simp), Option.bind_some]
        simp only [declOf?, bare, exported, Bool.not_true, Bool.or_false, Bool.false_eq_true, if_false]
      · rw [if_neg equal, others name equal, found]
    · simp only [bare, exported, Bool.not_false, Bool.false_eq_true, if_true, if_false]
      exact ⟨same, kept, still, skipped (by simp [declOf?, exported])⟩

theorem Collected.foldl {read : List Struct} {c : Collecting}
    (collected : Collected p markers active read c) (structs : List Struct) :
    Collected p markers active (structs.reverse ++ read) (structs.foldl (collectStep active) c) := by
  induction structs generalizing read c with
  | nil => exact collected
  | cons s structs ih =>
    rw [List.reverse_cons, List.append_assoc]
    exact ih (collected.step s)

theorem collected (p : Package) (markers : Markers) (active : List Route.Prefix) :
    Collected p markers active p.structs.reverse
      (p.structs.foldl (collectStep active) ⟨.of p markers, .empty, []⟩) := by
  have start : Collected p markers active [] ⟨.of p markers, .empty, []⟩ :=
    ⟨rfl, rfl, coherent_of p markers, fun _ => rfl⟩
  simpa using start.foldl p.structs

/-- Of several structs with one name, the last describes the controller. -/
theorem get?_collect (p : Package) (markers : Markers) (active : List Route.Prefix) (name : String) :
    (collect p markers active).1.get? name =
      (p.structs.reverse.find? (·.name = name)).bind (declOf? p markers active) :=
  (collected p markers active).found name

theorem get?_collect_isSome (p : Package) (markers : Markers) (active : List Route.Prefix)
    (name : String) :
    ((collect p markers active).1.get? name).isSome = isController p markers name := by
  rw [get?_collect, isController, Package.findStruct?]
  cases last : p.structs.reverse.find? (·.name = name) with
  | none =>
    have absent : p.structs.find? (·.name = name) = none := by
      rw [List.find?_eq_none] at last ⊢
      exact fun s member => last s (List.mem_reverse.mpr member)
    simp [absent]
  | some s =>
    have named : s.name = name := by simpa using List.find?_some last
    have declared : (p.structs.find? (·.name = name)).isSome := by
      rw [List.find?_isSome]
      exact ⟨s, List.mem_reverse.mp (List.mem_of_find?_eq_some last), by simp [named]⟩
    rw [Option.bind_some, declOf?_isSome, named, declared, Bool.and_true]

theorem mem_keys_collect (p : Package) (markers : Markers) (active : List Route.Prefix)
    (name : String) :
    name ∈ (collect p markers active).1.keys ↔ isController p markers name = true := by
  rw [Dictionary.mem_keys_iff, ← Option.isSome_iff_exists, get?_collect_isSome]

theorem collect_name {name : String} {decl : ControllerDecl}
    (member : (name, decl) ∈ (collect p markers active).1.entries) : decl.name = name := by
  have found := Dictionary.get?_of_mem member
  rw [get?_collect] at found
  obtain ⟨s, last, described⟩ := Option.bind_eq_some_iff.mp found
  have named : s.name = name := by simpa using List.find?_some last
  rw [declOf?_name described, named]

end Dispatchers.Resolve
