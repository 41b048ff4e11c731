import Dispatchers.Proofs.Controller.BoundFields
import Dispatchers.Proofs.Controller.Locality

namespace Dispatchers.Go

def Package.withImport (p : Package) (file qualifier path : String) : Package :=
  ⟨p.name, p.funcs, p.methods, p.structs,
    p.imports.alter file fun table => (table.getD .empty).insert qualifier path⟩

/-- A type refers to the package that `qualifier` stands for. Types that are kept as they are written
refer to none. -/
def TypeExpr.Mentions (qualifier : String) : TypeExpr → Prop
  | .named package _ => package = some qualifier
  | .pointer inner => inner.Mentions qualifier
  | .slice element => element.Mentions qualifier
  | .array _ element => element.Mentions qualifier
  | .map key value => key.Mentions qualifier ∨ value.Mentions qualifier
  | .variadic element => element.Mentions qualifier
  | .other _ => False

/-- `file` neither imports anything as `qualifier` nor has a method or a field with a type that
mentions it. -/
structure Package.Unused (p : Package) (file qualifier : String) : Prop where
  unbound : p.importOf? file qualifier = none
  methods : ∀ typeName, ∀ f ∈ p.methodsOf typeName, f.file = file →
    ∀ arg ∈ f.params ++ f.results, ¬arg.type.Mentions qualifier
  fields : ∀ s ∈ p.structs, s.file = file → ∀ field ∈ s.fields, ¬field.type.Mentions qualifier

end Dispatchers.Go

namespace Dispatchers.Controller

open Go

/-- In a file `other` the marker is hidden by the import of `path` as `qualifier` in `file`: the new
name stands in front of the one that the marker is known by. -/
structure Marker.Hidden (m : Marker) (imports : Dictionary ImportTable)
    (file qualifier path other : String) : Prop where
  here : other = file
  names : m.Names path
  behind : ∃ known, m.KnownAs imports file known ∧ qualifier < known

theorem Marker.mentions_typeIn (m : Marker) (qualifier : String) :
    (m.typeIn qualifier).Mentions qualifier := by
  unfold typeIn
  split <;> rfl

theorem Marker.KnownAs.unique {m : Marker} {imports : Dictionary ImportTable} {file one other : String}
    (first : m.KnownAs imports file one) (second : m.KnownAs imports file other) : one = other := by
  obtain ⟨table, found, ⟨path, bound, names⟩, least⟩ := first
  obtain ⟨_, again, ⟨path', bound', names'⟩, least'⟩ := second
  rw [found] at again
  cases again
  exact le_antisymm (least other path' bound' names') (least' one path bound names)

section AddedImport

variable {p : Package} {markers : Markers} {file qualifier path : String}

theorem get?_withImport (p : Package) (file qualifier path other : String) :
    (p.withImport file qualifier path).imports.get? other =
      if other = file then some (((p.imports.get? file).getD .empty).insert qualifier path)
      else p.imports.get? other := by
  rw [Package.withImport, Dictionary.alter, Dictionary.get?_insert]

theorem importOf?_withImport (p : Package) (path : String) {known : String}
    (other : known ≠ qualifier) :
    (((p.imports.get? file).getD .empty).insert qualifier path).get? known =
      p.importOf? file known := by
  rw [Dictionary.get?_insert, if_neg other, Package.importOf?]
  cases p.imports.get? file <;> rfl

theorem knownAs_withImport_iff (unbound : p.importOf? file qualifier = none) {m : Marker}
    {other known : String} (apart : other = file → known ≠ qualifier) :
    m.KnownAs (p.withImport file qualifier path).imports other known ↔
      m.KnownAs p.imports other known ∧ ¬m.Hidden p.imports file qualifier path other := by
  by_cases here : other = file
  case neg =>
    have plain : ¬m.Hidden p.imports file qualifier path other := fun hidden => here hidden.here
    simp only [Marker.KnownAs, get?_withImport, here, if_false, plain, not_false_eq_true, and_true]
  subst here
  have apart := apart rfl
  constructor
  · rintro ⟨table, found, ⟨target, bound, names⟩, least⟩
    rw [get?_withImport, if_pos rfl, Option.some.injEq] at found
    subst found
    rw [importOf?_withImport p path apart] at bound
    obtain ⟨table, found, bound⟩ := Option.bind_eq_some_iff.mp bound
    have before : m.KnownAs p.imports other known := by
      refine ⟨table, found, ⟨target, bound, names⟩, fun key value listed named => ?_⟩
      have inside : p.importOf? other key = some value := by
        rw [Package.importOf?, found]
        exact listed
      have different : key ≠ qualifier := by
        rintro rfl
        rw [unbound] at inside
        cases inside
      exact least key value ((importOf?_withImport p path different).trans inside) named
    refine ⟨before, ?_⟩
    rintro ⟨-, named, first, knownFirst, behind⟩
    rw [knownFirst.unique before] at behind
    have added : (((p.imports.get? other).getD .empty).insert qualifier path).get? qualifier =
        some path := by
      rw [Dictionary.get?_insert, if_pos rfl]
    exact absurd behind (not_lt_of_ge (least qualifier path added named))
  · rintro ⟨before, plain⟩
    obtain ⟨table, found, ⟨target, bound, names⟩, least⟩ := before
    have inside : p.importOf? other known = some target := by
      rw [Package.importOf?, found]
      exact bound
    refine ⟨_, by rw [get?_withImport, if_pos rfl], ⟨target, ?_, names⟩, ?_⟩
    · rw [importOf?_withImport p path apart, inside]
    · intro key value listed named
      by_cases new : key = qualifier
      · rw [new, Dictionary.get?_insert, if_pos rfl, Option.some.injEq] at listed
        rw [new]
        -- the name in use stands first, or else the new one would shadow it
        refine le_of_not_gt fun behind => plain ⟨rfl, listed ▸ named, known, ?_, behind⟩
        exact ⟨table, found, ⟨target, bound, names⟩, least⟩
      · rw [importOf?_withImport p path new, Package.importOf?, found] at listed
        exact least key value listed named

/-- A type that does not mention the new name is the marker as before, unless the name hides it. -/
theorem recognizes_withImport_iff (unbound : p.importOf? file qualifier = none) {m : Marker}
    {other : String} {type : TypeExpr} (free : other = file → ¬type.Mentions qualifier) :
    m.Recognizes (p.withImport file qualifier path).imports other type ↔
      m.Recognizes p.imports other type ∧ ¬m.Hidden p.imports file qualifier path other := by
  have apart {known : String} (spelled : type = m.typeIn known) (here : other = file) :
      known ≠ qualifier := by
    rintro rfl
    exact free here (spelled ▸ m.mentions_typeIn _)
  constructor
  · rintro ⟨known, knows, spelled⟩
    obtain ⟨before, plain⟩ := (knownAs_withImport_iff unbound (apart spelled)).mp knows
    exact ⟨⟨known, before, spelled⟩, plain⟩
  · rintro ⟨⟨known, before, spelled⟩, plain⟩
    exact ⟨known, (knownAs_withImport_iff unbound (apart spelled)).mpr ⟨before, plain⟩, spelled⟩

end AddedImport

theorem returnsAction_iff {imports : Dictionary ImportTable} {markers : Markers} {f : Func} :
    ReturnsAction imports markers f ↔ f.isExported = true ∧ (f.name ≠ "Before" ∧ f.name ≠ "After") ∧
      ∃ first rest, f.results = first :: rest ∧
        markers.action.Recognizes imports f.file first.type := by
  constructor
  · rintro ⟨exported, unreserved, known, first, rest, knows, results, spelled⟩
    exact ⟨exported, unreserved, first, rest, results, known, knows, spelled⟩
  · rintro ⟨exported, unreserved, first, rest, results, known, knows, spelled⟩
    exact ⟨exported, unreserved, known, first, rest, knows, results, spelled⟩

def HookParams (imports : Dictionary ImportTable) (markers : Markers) (f : Func) (forwards : Bool) :
    Prop :=
  ∃ first second, markers.responseWriter.Recognizes imports f.file first.type ∧
    markers.request.Recognizes imports f.file second.type ∧
    (f.params = [first, second] ∧ forwards = false ∨
      ∃ args, f.params = [first, second, args] ∧ args.type = .slice (.named none "string") ∧
        forwards = true)

def HookResult (imports : Dictionary ImportTable) (markers : Markers) (f : Func) (handler : Bool) :
    Prop :=
  ∃ result, f.results = [result] ∧ (result.type = .named none "bool" ∧ handler = false ∨
    markers.action.Recognizes imports f.file result.type ∧ handler = true)

theorem hookSignature_iff {imports : Dictionary ImportTable} {markers : Markers} {f : Func}
    {shape : HookShape} : HookSignature imports markers f shape ↔
      HookParams imports markers f shape.forwardsArgs ∧
        HookResult imports markers f shape.returnsHandler := by
  constructor
  · rintro ⟨⟨writer, request, first, second, writes, one, asks, two, all⟩, results⟩
    exact ⟨⟨first, second, ⟨writer, writes, one⟩, ⟨request, asks, two⟩, all⟩, results⟩
  · rintro ⟨⟨first, second, ⟨writer, writes, one⟩, ⟨request, asks, two⟩, all⟩, results⟩
    exact ⟨⟨writer, request, first, second, writes, one, asks, two, all⟩, results⟩

section Methods

variable {p : Package} {markers : Markers} {file qualifier path : String} {f : Func}
  (unbound : p.importOf? file qualifier = none)
  (free : f.file = file → ∀ arg ∈ f.params ++ f.results, ¬arg.type.Mentions qualifier)

include unbound free

theorem returnsAction_withImport_iff :
    ReturnsAction (p.withImport file qualifier path).imports markers f ↔
      ReturnsAction p.imports markers f ∧
        ¬markers.action.Hidden p.imports file qualifier path f.file := by
  rw [returnsAction_iff, returnsAction_iff]
  have recognizes {first : Arg} {rest : List Arg} (results : f.results = first :: rest) :
      markers.action.Recognizes (p.withImport file qualifier path).imports f.file first.type ↔ _ :=
    recognizes_withImport_iff unbound fun here =>
      free here first (by simp [results])
  constructor
  · rintro ⟨exported, unreserved, first, rest, results, marked⟩
    obtain ⟨marked, plain⟩ := (recognizes results).mp marked
    exact ⟨⟨exported, unreserved, first, rest, results, marked⟩, plain⟩
  · rintro ⟨⟨exported, unreserved, first, rest, results, marked⟩, plain⟩
    exact ⟨exported, unreserved, first, rest, results, (recognizes results).mpr ⟨marked, plain⟩⟩

theorem isAction_withImport_iff :
    IsAction (p.withImport file qualifier path).imports markers f ↔
      IsAction p.imports markers f ∧
        ¬markers.action.Hidden p.imports file qualifier path f.file := by
  have returns : ReturnsAction (p.withImport file qualifier path).imports markers f ↔ _ :=
    returnsAction_withImport_iff unbound free
  constructor
  · intro action
    obtain ⟨before, plain⟩ := returns.mp action.toReturnsAction
    exact ⟨⟨before, action.bindable⟩, plain⟩
  · rintro ⟨action, plain⟩
    exact ⟨returns.mpr ⟨action.toReturnsAction, plain⟩, action.bindable⟩

theorem hookParams_withImport_iff {forwards : Bool} :
    HookParams (p.withImport file qualifier path).imports markers f forwards ↔
      HookParams p.imports markers f forwards ∧
        ¬markers.responseWriter.Hidden p.imports file qualifier path f.file ∧
        ¬markers.request.Hidden p.imports file qualifier path f.file := by
  have recognizes {m : Marker} {arg : Arg} (listed : arg ∈ f.params) :
      m.Recognizes (p.withImport file qualifier path).imports f.file arg.type ↔ _ :=
    recognizes_withImport_iff unbound fun here => free here arg (List.mem_append_left _ listed)
  have listed {first second : Arg} (all : f.params = [first, second] ∧ forwards = false ∨
      ∃ args, f.params = [first, second, args] ∧ args.type = .slice (.named none "string") ∧
        forwards = true) : first ∈ f.params ∧ second ∈ f.params := by
    rcases all with ⟨params, -⟩ | ⟨args, params, -⟩ <;> simp [params]
  constructor
  · rintro ⟨first, second, writes, asks, all⟩
    obtain ⟨one, two⟩ := listed all
    obtain ⟨writes, plain⟩ := (recognizes one).mp writes
    obtain ⟨asks, other⟩ := (recognizes two).mp asks
    exact ⟨⟨first, second, writes, asks, all⟩, plain, other⟩
  · rintro ⟨⟨first, second, writes, asks, all⟩, plain, other⟩
    obtain ⟨one, two⟩ := listed all
    exact ⟨first, second, (recognizes one).mpr ⟨writes, plain⟩, (recognizes two).mpr ⟨asks, other⟩, all⟩

theorem hookResult_withImport_iff {handler : Bool} :
    HookResult (p.withImport file qualifier path).imports markers f handler ↔
      HookResult p.imports markers f handler ∧ (handler = true →
        ¬markers.action.Hidden p.imports file qualifier path f.file) := by
  have recognizes {result : Arg} (results : f.results = [result]) :
      markers.action.Recognizes (p.withImport file qualifier path).imports f.file result.type ↔ _ :=
    recognizes_withImport_iff unbound fun here => free here result (by simp [results])
  constructor
  · rintro ⟨result, results, truth | ⟨marked, rfl⟩⟩
    · refine ⟨⟨result, results, .inl truth⟩, fun handles => ?_⟩
      rw [truth.2] at handles
      cases handles
    · obtain ⟨marked, plain⟩ := (recognizes results).mp marked
      exact ⟨⟨result, results, .inr ⟨marked, rfl⟩⟩, fun _ => plain⟩
  · rintro ⟨⟨result, results, truth | ⟨marked, rfl⟩⟩, plain⟩
    · exact ⟨result, results, .inl truth⟩
    · exact ⟨result, results, .inr ⟨(recognizes results).mpr ⟨marked, plain rfl⟩, rfl⟩⟩

theorem hookSignature_withImport_iff {shape : HookShape} :
    HookSignature (p.withImport file qualifier path).imports markers f shape ↔
      HookSignature p.imports markers f shape ∧
        ¬markers.responseWriter.Hidden p.imports file qualifier path f.file ∧
        ¬markers.request.Hidden p.imports file qualifier path f.file ∧
        (shape.returnsHandler = true →
          ¬markers.action.Hidden p.imports file qualifier path f.file) := by
  rw [hookSignature_iff, hookSignature_iff, hookParams_withImport_iff unbound free,
    hookResult_withImport_iff unbound free]
  constructor
  · rintro ⟨⟨params, writes, asks⟩, result, handles⟩
    exact ⟨⟨params, result⟩, writes, asks, handles⟩
  · rintro ⟨⟨params, result⟩, writes, asks, handles⟩
    exact ⟨⟨params, writes, asks⟩, result, handles⟩

end Methods

theorem verdict_congr {p q : Package} {markers : Markers} {f : Func}
    (same : ReturnsAction q.imports markers f ↔ ReturnsAction p.imports markers f) :
    verdict q markers f = verdict p markers f := by
  by_cases returns : ReturnsAction p.imports markers f
  · unfold verdict
    obtain ⟨exported, unreserved, known, first, rest, knows, results, type⟩ := returns
    obtain ⟨-, -, other, first', rest', knows', results', type'⟩ :=
      same.mpr ⟨exported, unreserved, known, first, rest, knows, results, type⟩
    rw [results] at results'
    cases results'
    rw [Marker.qualifier?_eq_some_iff.mpr knows, Marker.qualifier?_eq_some_iff.mpr knows', results]
    simp only [Marker.matchesType_iff.mpr type, Marker.matchesType_iff.mpr type', if_true]
  · rcases verdict_cases p markers f with ⟨-, other⟩ | ⟨absurdly, -⟩
    · rcases verdict_cases q markers f with ⟨-, also⟩ | ⟨absurdly, -⟩
      · rw [other, also]
      · exact absurd (same.mp absurdly) returns
    · exact absurd absurdly returns

theorem foldl_congr_mem {α β : Type} {step step' : α → β → α} {items : List β} (found : α)
    (same : ∀ found, ∀ item ∈ items, step found item = step' found item) :
    items.foldl step found = items.foldl step' found := by
  induction items generalizing found with
  | nil => rfl
  | cons item items ih =>
    rw [List.foldl_cons, List.foldl_cons, same found item (List.mem_cons_self ..)]
    exact ih _ fun found other member => same found other (List.mem_cons_of_mem _ member)

theorem classified_congr {p q : Package} {markers : Markers} {typeName : String}
    (methods : q.methodsOf typeName = p.methodsOf typeName)
    (same : ∀ f ∈ p.methodsOf typeName, verdict q markers f = verdict p markers f ∧
      shape? q markers f = shape? p markers f) :
    classified q markers typeName = classified p markers typeName := by
  have actions (found : List Func × Report) :
      (p.methodsOf typeName).foldl (foundAction q markers) found =
        (p.methodsOf typeName).foldl (foundAction p markers) found := by
    refine foldl_congr_mem found fun found f member => ?_
    rw [foundAction, foundAction, (same f member).1]
  have hooks (found : Classified × Report) :
      (p.methodsOf typeName).foldl (foundHook q markers) found =
        (p.methodsOf typeName).foldl (foundHook p markers) found := by
    refine foldl_congr_mem found fun found f member => ?_
    rw [foundHook, foundHook, (same f member).2]
  unfold classified
  rw [methods]
  simp only [actions, hooks]

section Packages

variable {p : Package} {file qualifier path : String} {s : Struct} {field : Arg}

theorem accepts_withImport_iff (markers : Markers)
    (unbound : p.importOf? file qualifier = none)
    (free : s.file = file → ¬field.type.Mentions qualifier) (kind : BindKind) :
    kind.accepts field.type (p.withImport file qualifier path) s.file markers = true ↔
      kind.accepts field.type p s.file markers = true ∧ ∀ m, kind.marker? markers = some m →
        ¬m.Hidden p.imports file qualifier path s.file := by
  rw [accepts_iff, accepts_iff]
  simp only [recognizes_withImport_iff unbound free]
  constructor
  · rintro ⟨marked, text⟩
    exact ⟨⟨fun m is => (marked m is).1, text⟩, fun m is => (marked m is).2⟩
  · rintro ⟨⟨marked, text⟩, plain⟩
    exact ⟨fun m is => ⟨marked m is, plain m is⟩, text⟩

theorem BindKind.marker?_mem {kind : BindKind} {markers : Markers} {m : Marker}
    (is : kind.marker? markers = some m) :
    m ∈ [markers.action, markers.responseWriter, markers.request] := by
  cases kind <;> cases is <;> simp

section Plain

variable {markers : Markers} (unused : p.Unused file qualifier)
  (plain : ∀ m ∈ [markers.action, markers.responseWriter, markers.request],
    ¬m.Hidden p.imports file qualifier path file)

include unused plain

theorem classified_withImport (typeName : String) :
    classified (p.withImport file qualifier path) markers typeName =
      classified p markers typeName := by
  refine classified_congr rfl fun f member => ?_
  have free := unused.methods typeName f member
  have never : ∀ m ∈ [markers.action, markers.responseWriter, markers.request],
      ¬m.Hidden p.imports file qualifier path f.file := fun m among hidden =>
    plain m among ⟨rfl, hidden.names, hidden.behind⟩
  have action := never markers.action (by simp)
  constructor
  · refine verdict_congr ?_
    rw [returnsAction_withImport_iff unused.unbound free]
    exact and_iff_left action
  · refine Option.ext fun shape => ?_
    rw [shape?_eq_some_iff, shape?_eq_some_iff,
      hookSignature_withImport_iff unused.unbound free]
    exact and_iff_left ⟨never _ (by simp), never _ (by simp), fun _ => action⟩

theorem bindFields_withImport (declared : s ∈ p.structs) :
    bindFields (p.withImport file qualifier path) markers s = bindFields p markers s := by
  have each : ∀ field ∈ s.fields, bindField (p.withImport file qualifier path) markers s field =
      bindField p markers s field := by
    intro field listed
    refine bindField_congr fun kind _ => ?_
    have free := fun here => unused.fields s declared here field listed
    rw [Bool.eq_iff_iff, accepts_withImport_iff markers unused.unbound free]
    refine and_iff_left fun m is hidden => ?_
    exact plain m (BindKind.marker?_mem is) ⟨rfl, hidden.names, hidden.behind⟩
  have mapped : (s.fields.filter fun field => !field.isEmbedded && !field.tag.isEmpty).map
      (bindField (p.withImport file qualifier path) markers s) =
      (s.fields.filter fun field => !field.isEmbedded && !field.tag.isEmpty).map
        (bindField p markers s) :=
    List.map_congr_left fun field member => each field (List.mem_of_mem_filter member)
  rw [bindFields, bindFields, mapped]

end Plain

/-- An import under a name that its file does not use changes what the methods and the fields of the
file are exactly where it hides a marker: then no method or field has that marker. -/
theorem classifies_withImport (unused : p.Unused file qualifier) (path : String)
    (markers : Markers) :
    (∀ typeName, ∀ f ∈ p.methodsOf typeName,
      ((judge f (Classifier.of (p.withImport file qualifier path) markers)).1 = .action ↔
        (judge f (Classifier.of p markers)).1 = .action ∧
          ¬markers.action.Hidden p.imports file qualifier path f.file) ∧
      ∀ shape, (hookShape? f (Classifier.of (p.withImport file qualifier path) markers)).1 =
          some shape ↔
        (hookShape? f (Classifier.of p markers)).1 = some shape ∧
          ¬markers.responseWriter.Hidden p.imports file qualifier path f.file ∧
          ¬markers.request.Hidden p.imports file qualifier path f.file ∧
          (shape.returnsHandler = true →
            ¬markers.action.Hidden p.imports file qualifier path f.file)) ∧
    (∀ s ∈ p.structs, ∀ field ∈ s.fields, ∀ found,
      (bindField (p.withImport file qualifier path) markers s field).1 = some found ↔
        (bindField p markers s field).1 = some found ∧ ∀ m, found.kind.marker? markers = some m →
          ¬m.Hidden p.imports file qualifier path s.file) ∧
    ((∀ m ∈ [markers.action, markers.responseWriter, markers.request],
        ¬m.Hidden p.imports file qualifier path file) →
      (∀ typeName, (classify typeName (Classifier.of (p.withImport file qualifier path) markers)).1 =
        (classify typeName (Classifier.of p markers)).1) ∧
      ∀ s ∈ p.structs, bindFields (p.withImport file qualifier path) markers s =
        bindFields p markers s) := by
  refine ⟨?_, ?_, fun plain => ⟨fun typeName => ?_, fun s declared => ?_⟩⟩
  · intro typeName f member
    have free := unused.methods typeName f member
    simp only [(judge_answers f).fresh, (hookShape?_answers f).fresh, verdict_eq_action_iff,
      verdict_eq_action_iff, shape?_eq_some_iff, shape?_eq_some_iff]
    exact ⟨isAction_withImport_iff unused.unbound free,
      fun shape => hookSignature_withImport_iff unused.unbound free⟩
  · intro s declared field listed found
    have free := fun here => unused.fields s declared here field listed
    rw [bindField_eq_some_iff, bindField_eq_some_iff,
      accepts_withImport_iff markers unused.unbound free]
    constructor
    · rintro ⟨named, bound, accepted, plain⟩
      exact ⟨⟨named, bound, accepted⟩, plain⟩
    · rintro ⟨⟨named, bound, accepted⟩, plain⟩
      exact ⟨named, bound, accepted, plain⟩
  · simp only [(classify_answers typeName).fresh]
    exact classified_withImport unused plain typeName
  · exact bindFields_withImport unused plain declared

end Packages

section Sample

theorem methodsOf_shop {typeName : String} {f : Func} (member : f ∈ shop.methodsOf typeName) :
    f ∈ [opensShop, showsIndex, findsQuery] := by
  rw [Package.methodsOf, shop, Dictionary.get?, Dictionary.lookup_cons] at member
  split at member
  · exact member
  · cases member

theorem unused_shop {qualifier : String} (apart : qualifier ≠ "h" ∧ qualifier ≠ "old") :
    shop.Unused "shop.go" qualifier := by
  constructor
  case unbound =>
    have table : shop.imports.get? "shop.go" =
        some ⟨[("h", "net/http"), ("old", "kept/net/http")], by decide⟩ := rfl
    rw [Package.importOf?, table, Option.bind_some, Dictionary.get?, Dictionary.lookup_cons,
      if_neg apart.1, Dictionary.lookup_cons, if_neg apart.2]
    rfl
  case methods =>
    intro typeName f member _ arg listed
    have other : "h" ≠ qualifier := apart.1.symm
    have known := methodsOf_shop member
    simp only [List.mem_cons, List.not_mem_nil, or_false] at known
    rcases known with rfl | rfl | rfl
    all_goals
      simp [opensShop, showsIndex, findsQuery, shopMethod] at listed
      rcases listed with rfl | rfl | rfl <;> simp [TypeExpr.Mentions, other]
  case fields =>
    intro s declared
    cases declared

/-- A further import under a name behind those of the markers changes nothing. -/
theorem shop_withImport_behind :
    shop.Unused "shop.go" "z" ∧
      (classify "Shop" (Classifier.of (shop.withImport "shop.go" "z" "log/net/http") .standard)).1 =
        (classify "Shop" (Classifier.of shop .standard)).1 := by
  have unused : shop.Unused "shop.go" "z" := unused_shop (by decide)
  obtain ⟨-, -, plain⟩ := classifies_withImport unused "log/net/http" .standard
  refine ⟨unused, (plain fun m among hidden => ?_).1 "Shop"⟩
  obtain ⟨known, knows, behind⟩ := hidden.behind
  have first : m.KnownAs shop.imports "shop.go" "h" := by
    rw [← Marker.qualifier?_eq_some_iff]
    simp only [List.mem_cons, List.not_mem_nil, or_false] at among
    rcases among with rfl | rfl | rfl <;> rfl
  rw [knows.unique first] at behind
  exact absurd behind (by decide)

/-- An import that nothing uses, as the blank name is, can hide the marker that all actions of its
file return. -/
theorem shop_withImport_hides :
    shop.Unused "shop.go" "_" ∧ showsIndex ∈ shop.methodsOf "Shop" ∧
      (judge showsIndex (Classifier.of shop .standard)).1 = .action ∧
      (judge showsIndex (Classifier.of (shop.withImport "shop.go" "_" "log/net/http") .standard)).1 =
        .other :=
  ⟨unused_shop (by decide), by decide, rfl, rfl⟩

end Sample

end Dispatchers.Controller
