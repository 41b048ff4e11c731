import Dispatchers.Proofs.Controller.Classifying

namespace Dispatchers.Controller

open Go

def Marker.Names (m : Marker) (path : String) : Prop :=
  path = m.importPath ∨ ∃ head, path = head ++ "/" ++ m.importPath

theorem Marker.matchesImport_iff {m : Marker} {path : String} :
    m.matchesImport path = true ↔ m.Names path := by
  unfold matchesImport Names
  rw [Bool.or_eq_true, beq_iff_eq, List.isSuffixOf_iff_suffix]
  refine or_congr_right ⟨?_, ?_⟩
  · rintro ⟨front, split⟩
    refine ⟨String.ofList front, String.toList_injective ?_⟩
    simp [← split]
  · rintro ⟨head, rfl⟩
    exact ⟨head.toList, by simp⟩

def Marker.typeIn (m : Marker) (qualifier : String) : TypeExpr :=
  if m.pointer then .pointer (.named (some qualifier) m.name) else .named (some qualifier) m.name

theorem isQualified_iff {type : TypeExpr} {qualifier name : String} :
    type.isQualified qualifier name = true ↔ type = .named (some qualifier) name := by
  cases type with
  | named package text => cases package <;> simp [TypeExpr.isQualified]
  | _ => simp [TypeExpr.isQualified]

theorem Marker.matchesType_iff {m : Marker} {type : TypeExpr} {qualifier : String} :
    m.matchesType type qualifier = true ↔ type = m.typeIn qualifier := by
  rw [matchesType, typeIn, Bool.and_eq_true, beq_iff_eq, isQualified_iff]
  cases type <;> cases m.pointer <;> simp [TypeExpr.isPointer, TypeExpr.deref]

/-- `qualifier` is the first name, in order of the names, by which `file` imports the marker's
package. -/
def Marker.KnownAs (m : Marker) (imports : Dictionary ImportTable) (file qualifier : String) :
    Prop :=
  ∃ table, imports.get? file = some table ∧
    (∃ path, table.get? qualifier = some path ∧ m.Names path) ∧
    ∀ other path, table.get? other = some path → m.Names path → qualifier ≤ other

section Signatures

variable {p : Package} {markers : Markers}

theorem Marker.qualifier?_eq_some_iff {m : Marker}
    {file qualifier : String} :
    m.qualifier? p file = some qualifier ↔ m.KnownAs p.imports file qualifier := by
  unfold qualifier? KnownAs
  cases found : p.imports.get? file with
  | none => simp
  | some table =>
    have first := Dictionary.find?_entries_iff table m.matchesImport qualifier
    simp only [matchesImport_iff] at first
    simp only [Option.bind_some, Option.some.injEq, existsAndEq, true_and]
    exact first

def Bindable (type : TypeExpr) : Prop :=
  ∃ name ∈ primitives, type = .named none name ∨ type = .slice (.named none name)

theorem isSome_bindableName?_iff {type : TypeExpr} :
    (bindableName? type).isSome = true ↔ Bindable type := by
  unfold bindableName? Bindable
  split
  · simp
  · simp
  · rename_i notNamed notSlice
    constructor
    · intro absent
      cases absent
    · rintro ⟨name, -, rfl | rfl⟩
      · exact absurd rfl (notNamed name)
      · exact absurd rfl (notSlice name)

/-- An action but for its parameters: exported, of no hook's name, and the first result is the
action marker under the name that the file of the method knows it by. -/
structure ReturnsAction (imports : Dictionary ImportTable) (markers : Markers) (f : Func) :
    Prop where
  exported : f.isExported = true
  unreserved : f.name ≠ "Before" ∧ f.name ≠ "After"
  marked : ∃ qualifier first rest, markers.action.KnownAs imports f.file qualifier ∧
    f.results = first :: rest ∧ first.type = markers.action.typeIn qualifier

structure IsAction (imports : Dictionary ImportTable) (markers : Markers) (f : Func) : Prop
    extends ReturnsAction imports markers f where
  bindable : ∀ param ∈ f.params, Bindable param.type

def FirstUnbindable (params : List Arg) (param : Arg) : Prop :=
  ∃ front rest, params = front ++ param :: rest ∧ (∀ a ∈ front, Bindable a.type) ∧
    ¬ Bindable param.type

theorem FirstUnbindable.mem {params : List Arg} {param : Arg} (first : FirstUnbindable params param) :
    param ∈ params := by
  obtain ⟨front, rest, rfl, -, -⟩ := first
  exact List.mem_append_right _ (List.mem_cons_self ..)

theorem FirstUnbindable.unbindable {params : List Arg} {param : Arg}
    (first : FirstUnbindable params param) : ¬ Bindable param.type := by
  obtain ⟨front, rest, -, -, bad⟩ := first
  exact bad

theorem isNone_bindableName?_iff {type : TypeExpr} :
    (bindableName? type).isNone = true ↔ ¬ Bindable type := by
  rw [← isSome_bindableName?_iff]
  cases bindableName? type <;> simp

theorem find?_unbindable_eq_some_iff {params : List Arg} {param : Arg} :
    (params.find? fun a => (bindableName? a.type).isNone) = some param ↔
      FirstUnbindable params param := by
  rw [List.find?_eq_some_iff_append, FirstUnbindable, isNone_bindableName?_iff]
  constructor
  · rintro ⟨bad, front, rest, split, good⟩
    refine ⟨front, rest, split, fun a member => ?_, bad⟩
    have passed := good a member
    rwa [Bool.not_eq_true', ← Bool.not_eq_true, isNone_bindableName?_iff, not_not] at passed
  · rintro ⟨front, rest, split, good, bad⟩
    refine ⟨bad, front, rest, split, fun a member => ?_⟩
    rw [Bool.not_eq_true', ← Bool.not_eq_true, isNone_bindableName?_iff, not_not]
    exact good a member

theorem find?_unbindable_eq_none_iff {params : List Arg} :
    (params.find? fun a => (bindableName? a.type).isNone) = none ↔
      ∀ param ∈ params, Bindable param.type := by
  simp only [List.find?_eq_none, isNone_bindableName?_iff, not_not]

theorem Hook.ofName?_eq_some_iff {name : String} {hook : Hook} :
    Hook.ofName? name = some hook ↔ name = hook.name := by
  constructor
  · intro found
    have same := List.find?_some found
    exact (of_decide_eq_true same).symm
  · rintro rfl
    cases hook <;> decide

theorem Hook.isReserved_iff {f : Func} :
    Hook.isReserved f = true ↔ f.name = "Before" ∨ f.name = "After" := by
  rw [Hook.isReserved, Option.isSome_iff_exists]
  simp only [Hook.ofName?_eq_some_iff]
  constructor
  · rintro ⟨hook, same⟩
    cases hook with
    | before => exact .inl same
    | after => exact .inr same
  · rintro (same | same)
    · exact ⟨.before, same⟩
    · exact ⟨.after, same⟩

theorem verdict_cases (p : Package) (markers : Markers) (f : Func) :
    (¬ ReturnsAction p.imports markers f ∧ verdict p markers f = .other) ∨
      ReturnsAction p.imports markers f ∧
        ((∃ param, FirstUnbindable f.params param ∧ verdict p markers f = .unbindable param) ∨
          (∀ param ∈ f.params, Bindable param.type) ∧ verdict p markers f = .action) := by
  unfold verdict
  by_cases skipped : (Hook.isReserved f || !f.isExported) = true
  · refine .inl ⟨fun returns => ?_, if_pos skipped⟩
    rw [Bool.or_eq_true, Hook.isReserved_iff, returns.exported] at skipped
    rcases skipped with (before | after) | hidden
    · exact returns.unreserved.1 before
    · exact returns.unreserved.2 after
    · cases hidden
  have visible : f.isExported = true ∧ f.name ≠ "Before" ∧ f.name ≠ "After" := by
    rw [Bool.or_eq_true, Hook.isReserved_iff, not_or, not_or] at skipped
    simpa [and_comm] using skipped
  rw [if_neg skipped]
  by_cases marked : ∃ qualifier first rest, markers.action.KnownAs p.imports f.file qualifier ∧
      f.results = first :: rest ∧ first.type = markers.action.typeIn qualifier
  · refine .inr ⟨⟨visible.1, visible.2, marked⟩, ?_⟩
    obtain ⟨qualifier, first, rest, known, results, type⟩ := marked
    rw [Marker.qualifier?_eq_some_iff.mpr known, results]
    simp only [Marker.matchesType_iff.mpr type, if_true]
    cases search : f.params.find? fun a => (bindableName? a.type).isNone with
    | none => exact .inr ⟨find?_unbindable_eq_none_iff.mp search, rfl⟩
    | some param => exact .inl ⟨param, find?_unbindable_eq_some_iff.mp search, rfl⟩
  · refine .inl ⟨fun returns => marked returns.marked, ?_⟩
    cases known : markers.action.qualifier? p f.file with
    | none => rfl
    | some qualifier =>
      cases results : f.results with
      | nil => rfl
      | cons first rest =>
        refine if_neg fun type => marked ⟨qualifier, first, rest, ?_, results, ?_⟩
        · exact Marker.qualifier?_eq_some_iff.mp known
        · exact Marker.matchesType_iff.mp type

/-- A hook takes the response writer, the request and perhaps the values of the route, and returns a
truth value or what an action returns. -/
structure HookSignature (imports : Dictionary ImportTable) (markers : Markers) (f : Func)
    (shape : HookShape) : Prop where
  params : ∃ writer request first second,
    markers.responseWriter.KnownAs imports f.file writer ∧
    first.type = markers.responseWriter.typeIn writer ∧
    markers.request.KnownAs imports f.file request ∧
    second.type = markers.request.typeIn request ∧
    (f.params = [first, second] ∧ shape.forwardsArgs = false ∨
      ∃ args, f.params = [first, second, args] ∧ args.type = .slice (.named none "string") ∧
        shape.forwardsArgs = true)
  results : ∃ result, f.results = [result] ∧
    (result.type = .named none "bool" ∧ shape.returnsHandler = false ∨
      (∃ qualifier, markers.action.KnownAs imports f.file qualifier ∧
        result.type = markers.action.typeIn qualifier) ∧ shape.returnsHandler = true)

theorem hookParams?_eq_some_iff {writer request : String} {params : List Arg} {forwards : Bool} :
    hookParams? markers writer request params = some forwards ↔
      ∃ first second, first.type = markers.responseWriter.typeIn writer ∧
        second.type = markers.request.typeIn request ∧
        (params = [first, second] ∧ forwards = false ∨
          ∃ args, params = [first, second, args] ∧ args.type = .slice (.named none "string") ∧
            forwards = true) := by
  unfold hookParams?
  rcases params with _ | ⟨one, _ | ⟨two, _ | ⟨three, _ | ⟨more, rest⟩⟩⟩⟩
  · simp
  · simp
  · simp only [Option.ite_none_right_eq_some, Bool.and_eq_true, Marker.matchesType_iff,
      Option.some.injEq]
    constructor
    · rintro ⟨⟨writes, asks⟩, rfl⟩
      exact ⟨one, two, writes, asks, .inl ⟨rfl, rfl⟩⟩
    · rintro ⟨first, second, writes, asks, ⟨same, rfl⟩ | ⟨args, absent, -⟩⟩
      · cases same
        exact ⟨⟨writes, asks⟩, rfl⟩
      · cases absent
  · simp only [Option.ite_none_right_eq_some, Bool.and_eq_true, Marker.matchesType_iff,
      beq_iff_eq, Option.some.injEq]
    constructor
    · rintro ⟨⟨⟨writes, asks⟩, texts⟩, rfl⟩
      exact ⟨one, two, writes, asks, .inr ⟨three, rfl, texts, rfl⟩⟩
    · rintro ⟨first, second, writes, asks, ⟨absent, -⟩ | ⟨args, same, texts, rfl⟩⟩
      · cases absent
      · cases same
        exact ⟨⟨⟨writes, asks⟩, texts⟩, rfl⟩
  · simp

theorem forwards?_eq_some_iff {f : Func} {forwards : Bool} :
    forwards? p markers f = some forwards ↔
      ∃ writer request first second,
        markers.responseWriter.KnownAs p.imports f.file writer ∧
        first.type = markers.responseWriter.typeIn writer ∧
        markers.request.KnownAs p.imports f.file request ∧
        second.type = markers.request.typeIn request ∧
        (f.params = [first, second] ∧ forwards = false ∨
          ∃ args, f.params = [first, second, args] ∧ args.type = .slice (.named none "string") ∧
            forwards = true) := by
  constructor
  · intro found
    obtain ⟨writer, writes, found⟩ := Option.bind_eq_some_iff.mp found
    obtain ⟨request, asks, found⟩ := Option.bind_eq_some_iff.mp found
    obtain ⟨first, second, one, two, all⟩ := hookParams?_eq_some_iff.mp found
    exact ⟨writer, request, first, second, Marker.qualifier?_eq_some_iff.mp writes, one,
      Marker.qualifier?_eq_some_iff.mp asks, two, all⟩
  · rintro ⟨writer, request, first, second, writes, one, asks, two, all⟩
    refine Option.bind_eq_some_iff.mpr ⟨writer, ?_, Option.bind_eq_some_iff.mpr ⟨request, ?_, ?_⟩⟩
    · exact Marker.qualifier?_eq_some_iff.mpr writes
    · exact Marker.qualifier?_eq_some_iff.mpr asks
    · exact hookParams?_eq_some_iff.mpr ⟨first, second, one, two, all⟩

theorem any_qualifier?_iff {m : Marker} {file : String}
    {type : TypeExpr} :
    (m.qualifier? p file).any (m.matchesType type ·) = true ↔
      ∃ qualifier, m.KnownAs p.imports file qualifier ∧ type = m.typeIn qualifier := by
  simp only [Option.any_eq_true, Marker.qualifier?_eq_some_iff, Marker.matchesType_iff]

theorem shape?_eq_some_iff {f : Func} {shape : HookShape} :
    shape? p markers f = some shape ↔ HookSignature p.imports markers f shape := by
  have parts : HookSignature p.imports markers f shape ↔
      forwards? p markers f = some shape.forwardsArgs ∧ ∃ result, f.results = [result] ∧
        (result.type = .named none "bool" ∧ shape.returnsHandler = false ∨
          (markers.action.qualifier? p f.file).any (markers.action.matchesType result.type ·) =
            true ∧ shape.returnsHandler = true) := by
    simp only [forwards?_eq_some_iff, any_qualifier?_iff]
    exact ⟨fun signature => ⟨signature.params, signature.results⟩,
      fun parts => ⟨parts.1, parts.2⟩⟩
  rw [parts, shape?]
  obtain ⟨returnsHandler, forwardsArgs⟩ := shape
  cases forwards? p markers f with
  | none => simp
  | some forwards =>
    rcases f.results with _ | ⟨result, _ | ⟨more, rest⟩⟩
    · simp
    · simp only [List.cons.injEq, and_true, existsAndEq, Option.some.injEq]
      by_cases truth : result.type = .named none "bool"
      · -- no marker is an unqualified name, so such a result is never that of an action
        have unmarked : ¬ (markers.action.qualifier? p f.file).any
            (markers.action.matchesType (.named none "bool") ·) = true := by
          rw [any_qualifier?_iff]
          rintro ⟨qualifier, -, same⟩
          unfold Marker.typeIn at same
          split at same <;> cases same
        rw [if_pos truth, Option.some.injEq, HookShape.mk.injEq]
        simp only [truth, true_and, unmarked, Bool.false_eq_true, false_and, or_false, eq_comm,
          and_comm]
      · rw [if_neg truth]
        by_cases marks : (markers.action.qualifier? p f.file).any
            (markers.action.matchesType result.type ·) = true
        · rw [if_pos marks, Option.some.injEq, HookShape.mk.injEq]
          simp only [truth, false_and, marks, true_and, false_or, eq_comm, and_comm]
        · rw [if_neg marks]
          simp only [truth, false_and, marks, or_false, and_false, reduceCtorEq]
    · simp

end Signatures

end Dispatchers.Controller
