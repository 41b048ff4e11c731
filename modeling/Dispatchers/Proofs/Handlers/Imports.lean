import Dispatchers.Proofs.Handlers.Planning
import Dispatchers.Proofs.Handlers.Rendering
import Mathlib.Data.List.ReduceOption

namespace Dispatchers.Handlers

open Controller Go Resolve Template

section Qualifiers

variable {id : Nat} {name : String}

theorem qualifier_injective : Function.Injective qualifier := by
  intro i j same
  have digits : toString i = toString j := by
    rw [qualifier, qualifier, String.append_right_inj] at same
    exact same
  rw [Nat.toString_eq_ofList_toDigits, Nat.toString_eq_ofList_toDigits, String.ofList_inj] at digits
  rw [← Nat.ofDigitChars_ten_toDigits (n := i), digits, Nat.ofDigitChars_ten_toDigits]

theorem mem_toList_qualifier {ch : Char} (member : ch ∈ (qualifier id).toList) :
    ch = 'c' ∨ ch.isDigit = true := by
  rw [qualifier, String.toList_append, List.mem_append, Nat.toString_eq_repr, Nat.toList_repr] at member
  rcases member with letter | digit
  · exact .inl (by simpa using letter)
  · exact .inr (Nat.isDigit_of_mem_toDigits (by decide) (by decide) digit)

theorem qualifier_ne (ch : Char) (member : ch ∈ name.toList) (apart : ch ≠ 'c')
    (letter : ch.isDigit = false) : qualifier id ≠ name := by
  rintro rfl
  rcases mem_toList_qualifier member with same | digit
  · exact apart same
  · rw [letter] at digit
    cases digit

end Qualifiers

namespace Sheet

def importTable (s : Sheet) : Dictionary String :=
  .ofList (("http", "net/http") :: s.imports.entries)

variable {s : Sheet} {entries : List (String × String)} {name path : String}

theorem mem_keys_importTable (imports : s.imports = .ofList entries) :
    name ∈ s.importTable.keys ↔ name = "http" ∨ name ∈ entries.map Prod.fst := by
  have own : name ∈ s.imports.entries.map Prod.fst ↔ name ∈ entries.map Prod.fst := by
    rw [imports]
    exact Dictionary.mem_keys_ofList
  rw [importTable, Dictionary.mem_keys_ofList, List.map_cons, List.mem_cons, own]

theorem get?_importTable (imports : s.imports = .ofList entries)
    (known : name ∈ s.importTable.keys) (apart : name ≠ "http")
    (agree : ∀ other, (name, other) ∈ entries → other = path) :
    s.importTable.get? name = some path := by
  refine Dictionary.get?_ofList (Dictionary.mem_keys_ofList.mp known) fun other member => ?_
  rcases List.mem_cons.mp member with base | own
  · cases base
    exact absurd rfl apart
  · rw [imports] at own
    exact agree other (Dictionary.mem_of_mem_ofList own)

/-- The import declaration of a file goes through this in its template. -/
def importLoop : Expression :=
  .filter (.call "merge" [.reference "base_imports", .reference "imports"]) "items" []

theorem scopesOf_context (s : Sheet) :
    scopesOf s.context = [Dictionary.ofList (s.commonEntries ++ s.entries)] := by
  rw [context_eq, scopesOf_record]

theorem lookup_context {s : Sheet} {name : String} {v : Value}
    (member : (name, v) ∈ s.commonEntries) : Scopes.lookup (scopesOf s.context) name = v := by
  have found : (Dictionary.ofList (s.commonEntries ++ s.entries)).get? name = some v :=
    Dictionary.get?_ofList_of_nodup s.distinct_keys (List.mem_append_left _ member)
  rw [scopesOf_context, Scopes.lookup, List.findSome?_cons, found]
  rfl

theorem lookup_context_absent {s : Sheet} {name : String}
    (absent : name ∉ (s.commonEntries ++ s.entries).map Prod.fst) :
    Scopes.lookup (scopesOf s.context) name = .undefined := by
  rw [scopesOf_context, Scopes.lookup, List.findSome?_cons, Dictionary.get?_ofList_of_absent absent]
  rfl

theorem merge_imports (s : Sheet) : merge baseImports s.importsValue =
    .ok (.map (s.importTable.entries.map fun (name, path) => (name, .text path))) := by
  have table := Dictionary.ofList_map Value.text (("http", "net/http") :: s.imports.entries)
  rw [List.map_cons] at table
  show Except.ok (Value.record (("http", .text "net/http") ::
    s.imports.entries.map fun (name, path) => (name, .text path))) = _
  rw [Value.record, Value.ofDictionary, table]
  rfl

theorem merge_unbound (s : Sheet) : "merge" ∉ (s.commonEntries ++ s.entries).map Prod.fst := by
  unfold commonEntries entries
  cases s.content <;> simp

theorem importLoop_eval (s : Sheet) :
    importLoop.eval (scopesOf s.context) =
      .ok (.list (s.importTable.entries.map fun (name, path) => .list [.text name, .text path])) := by
  have base : Scopes.lookup (scopesOf s.context) "base_imports" = baseImports :=
    lookup_context (by simp [commonEntries])
  have own : Scopes.lookup (scopesOf s.context) "imports" = s.importsValue :=
    lookup_context (by simp [commonEntries])
  have function : Scopes.lookup (scopesOf s.context) "merge" = .undefined :=
    lookup_context_absent s.merge_unbound
  simp only [importLoop, Expression.eval, Expression.evalAll, base, own, function]
  show (merge baseImports s.importsValue >>= fun v => applyFilter "items" [v]) = _
  rw [merge_imports]
  show Value.pairs (.map (s.importTable.entries.map fun (name, path) => (name, .text path))) = _
  simp [Value.pairs]

end Sheet

def numberOf? (P : Scanned) (importPath : String) : Option Nat :=
  P.parentImports.findIdx? (· = importPath)

/-- The numbers of a package count the import paths that its controllers have parents in. -/
structure Numbered (P : Scanned) : Prop where
  all : ∀ id, (∃ importPath, numberOf? P importPath = some id) ↔ id < P.parentImports.length
  once : ∀ id one other, numberOf? P one = some id → numberOf? P other = some id → one = other
  parents : ∀ decl ∈ P.controllers.values, ∀ parent ∈ decl.parents, match parent.id with
    | none => parent.importPath = P.importPath
    | some id => numberOf? P parent.importPath = some id

/-- A dispatcher makes that of a parent by its name, through an import if it is in another package. -/
def MakesParent (table : Dictionary String) (parent : Parent) (view : ParentView) : Prop :=
  view.name = parent.name ∧ match parent.qualifier? with
    | none => view.call = parent.name
    | some qualifier => view.call = qualifier ++ "." ++ parent.name ∧ qualifier ∈ table.keys

/-- A dispatcher reads a parameter by the function for its type, through an import if it has one. -/
def Converts (o : Options) (table : Dictionary String) (param : ParamView) : Prop :=
  ∃ function, conversions.get? param.type = some function ∧
    if o.conversionImport.isSome then
      param.conversion = "conv." ++ function ∧ "conv" ∈ table.keys
    else param.conversion = "param" ++ function

structure Dispatches (p : Plan) (d : Destination) (decl : ControllerDecl) (sheet : Sheet) :
    Prop where
  path : sheet.path = Disk.join d.dir (Plan.controllerFile decl.name)
  imports : ∀ name, name ∈ sheet.importTable.keys ↔
    name = "http" ∨ name = "contr" ∨ (∃ parent ∈ decl.parents, parent.qualifier? = some name) ∨
      name = "conv" ∧ p.options.conversionImport.isSome = true ∧
        ∃ action ∈ decl.actions, action.params ≠ []
  calls : ∃ view, sheet.content = .controller view ∧
    List.Forall₂ (MakesParent sheet.importTable) decl.parents view.parents ∧
    ∀ action ∈ view.actions, ∀ param ∈ action.params, Converts p.options sheet.importTable param

structure Shares (p : Plan) (P : Scanned) (d : Destination) (helpers : List ConversionHelper)
    (sheet : Sheet) : Prop where
  path : sheet.path = Disk.join d.dir Plan.packageFile
  imports : ∀ name, name ∈ sheet.importTable.keys ↔
    name = "http" ∨ (∃ id < P.parentImports.length, name = qualifier id) ∨
      (name = "contr" ∧ ∃ f, P.package.findFunc? "Init" = some f ∧ f.params = [] ∧ f.results = []) ∨
      (name = "strconv" ∨ name = "url") ∧ helpers ≠ []
  content : sheet.content = .package P.controllers.keys (List.range P.parentImports.length)
    (Plan.callsInit P) helpers
  reading : helpers = [] ↔ p.options.conversionImport.isSome = true

/-- Where a file has an alias for the package with a number, it stands for the path below the output
that the import path of the package gives. -/
def Agrees (p : Plan) (P : Scanned) (sheet : Sheet) : Prop :=
  ∀ importPath id, numberOf? P importPath = some id → qualifier id ∈ sheet.importTable.keys →
    ∃ base, p.outputImport = some base ∧
      sheet.importTable.get? (qualifier id) = some (Path.join [base, importPath])

variable {p : Plan} {place : Nat} {P : Scanned} {d : Destination} {decl : ControllerDecl}
  {sheet : Sheet} {name path importPath : String} {id : Nat}

theorem numberOf?_eq_some_iff (distinct : P.parentImports.Nodup) :
    numberOf? P importPath = some id ↔ P.parentImports[id]? = some importPath := by
  rw [numberOf?, List.findIdx?_eq_some_iff_getElem, List.getElem?_eq_some_iff]
  constructor
  · rintro ⟨bound, same, -⟩
    exact ⟨bound, by simpa using same⟩
  · rintro ⟨bound, rfl⟩
    refine ⟨bound, by simp, fun j before => ?_⟩
    have apart := (List.pairwise_iff_getElem.mp distinct) j id (by omega) bound before
    simpa using apart

theorem parentImport_ok (ok : p.parentImport importPath = .ok path) :
    ∃ base, p.outputImport = some base ∧ path = Path.join [base, importPath] := by
  unfold Plan.parentImport at ok
  split at ok
  · rename_i base output
    cases ok
    exact ⟨base, output, rfl⟩
  · cases ok

theorem parentEntry_ok {parent : Parent} {entry : Option (String × String)}
    (ok : p.parentEntry parent = .ok entry) :
    entry.map Prod.fst = parent.qualifier? ∧
      ∀ name path, entry = some (name, path) → p.parentImport parent.importPath = .ok path := by
  unfold Plan.parentEntry at ok
  split at ok
  · rename_i qualifier qualified
    obtain ⟨path, imported, ok⟩ := bind_eq_ok_iff.mp ok
    cases ok
    refine ⟨qualified.symm, ?_⟩
    rintro name other same
    cases same
    exact imported
  · rename_i own
    cases ok
    exact ⟨own.symm, nofun⟩

theorem parent_of_mem_entries {parents : List (Option (String × String))}
    (ok : decl.parents.mapM p.parentEntry = .ok parents) (member : (name, path) ∈ parents.reduceOption) :
    ∃ parent ∈ decl.parents, parent.qualifier? = some name ∧
      p.parentImport parent.importPath = .ok path := by
  rw [List.reduceOption_mem_iff, mem_of_mapM ok] at member
  obtain ⟨parent, listed, made⟩ := member
  obtain ⟨qualified, imported⟩ := parentEntry_ok made
  exact ⟨parent, listed, qualified.symm, imported name path rfl⟩

theorem mem_keys_parentEntries {parents : List (Option (String × String))}
    (ok : decl.parents.mapM p.parentEntry = .ok parents) :
    name ∈ parents.reduceOption.map Prod.fst ↔
      ∃ parent ∈ decl.parents, parent.qualifier? = some name := by
  constructor
  · intro member
    obtain ⟨⟨_, path⟩, listed, rfl⟩ := List.mem_map.mp member
    obtain ⟨parent, inside, qualified, -⟩ := parent_of_mem_entries ok listed
    exact ⟨parent, inside, qualified⟩
  · rintro ⟨parent, inside, qualified⟩
    obtain ⟨entry, listed, made⟩ := exists_related (forall₂_of_mapM ok) inside
    have first := (parentEntry_ok made).1
    rw [qualified, Option.map_eq_some_iff] at first
    obtain ⟨pair, rfl, same⟩ := first
    exact List.mem_map.mpr ⟨pair, List.reduceOption_mem_iff.mpr listed, same⟩

theorem mem_keys_conversionEntry {view : ControllerView} :
    name ∈ (p.conversionEntry view).map Prod.fst ↔
      name = "conv" ∧ p.options.conversionImport.isSome = true ∧ view.usesConversions = true := by
  unfold Plan.conversionEntry
  cases view.usesConversions <;> cases p.options.conversionImport <;> simp

theorem paramView_ok {external : Bool} {action : String} {param : Go.Arg} {view : ParamView}
    (ok : paramView external action param = .ok view) :
    ∃ function, conversions.get? view.type = some function ∧
      view.conversion = conversionCall external function := by
  unfold paramView at ok
  split at ok
  · cases ok
  split at ok
  · cases ok
  · rename_i function converted
    cases ok
    exact ⟨function, converted, rfl⟩

theorem params_eq_nil_iff {external : Bool} {action : Go.Func} {routes : List Route}
    {made : ActionView} (ok : actionView external action routes = .ok made) :
    made.params = [] ↔ action.params = [] := by
  have lengths := (actionView_ok ok).1.length_eq
  rw [← List.length_eq_zero_iff, ← lengths, List.length_eq_zero_iff]

theorem usesConversions_iff {r : Resolution} {external : Bool} {view : ControllerView}
    (routed : decl.routes.length = decl.actions.length)
    (ok : controllerView r place external decl = .ok view) :
    view.usesConversions = true ↔ ∃ action ∈ decl.actions, action.params ≠ [] := by
  have each := (controllerView_ok ok).2
  simp only [ControllerView.usesConversions, List.any_eq_true, Bool.not_eq_true',
    List.isEmpty_eq_false_iff]
  constructor
  · rintro ⟨made, member, full⟩
    obtain ⟨⟨action, routes⟩, listed, seen⟩ := exists_related each.flip member
    exact ⟨action, (List.of_mem_zip listed).1, fun bare => full ((params_eq_nil_iff seen).mpr bare)⟩
  · rintro ⟨action, member, full⟩
    -- each action has its routes, so each is among the pairs
    have all : (decl.actions.zip decl.routes).map Prod.fst = decl.actions :=
      List.map_fst_zip (by omega)
    rw [← all, List.mem_map] at member
    obtain ⟨⟨_, routes⟩, listed, rfl⟩ := member
    obtain ⟨made, there, seen⟩ := exists_related each listed
    exact ⟨made, there, fun bare => full ((params_eq_nil_iff seen).mp bare)⟩

theorem makesParent_of {table : Dictionary String} {parent : Parent}
    (known : ∀ qualifier, parent.qualifier? = some qualifier → qualifier ∈ table.keys) :
    MakesParent table parent (.of parent) := by
  refine ⟨rfl, ?_⟩
  unfold ParentView.of
  cases qualified : parent.qualifier? with
  | none => rfl
  | some qualifier => exact ⟨rfl, known qualifier qualified⟩

theorem converts_of {r : Resolution} {o : Options} {table : Dictionary String} {view : ControllerView}
    (ok : controllerView r place o.conversionImport.isSome decl = .ok view)
    (known : o.conversionImport.isSome = true → view.usesConversions = true → "conv" ∈ table.keys)
    {action : ActionView} (member : action ∈ view.actions) {param : ParamView}
    (taken : param ∈ action.params) : Converts o table param := by
  obtain ⟨⟨method, routes⟩, -, seen⟩ := exists_related (controllerView_ok ok).2.flip member
  obtain ⟨source, -, read⟩ := exists_related (actionView_ok seen).1.flip taken
  obtain ⟨function, converted, called⟩ := paramView_ok read
  have uses : view.usesConversions = true := by
    refine List.any_eq_true.mpr ⟨action, member, ?_⟩
    simpa using List.ne_nil_of_mem taken
  refine ⟨function, converted, ?_⟩
  split
  · rename_i external
    rw [called, external]
    exact ⟨rfl, known external uses⟩
  · rename_i own
    rw [called, conversionCall, if_neg own]

theorem dispatches_of_controllerSheet {earlier : List String}
    (routed : decl.routes.length = decl.actions.length)
    (ok : p.controllerSheet place P d earlier decl = .ok sheet) : Dispatches p d decl sheet := by
  obtain ⟨view, parents, seen, placed, path, imported, content⟩ := controllerSheet_ok ok
  have imports (name : String) : name ∈ sheet.importTable.keys ↔
      name = "http" ∨ name = "contr" ∨ (∃ parent ∈ decl.parents, parent.qualifier? = some name) ∨
        name = "conv" ∧ p.options.conversionImport.isSome = true ∧ view.usesConversions = true := by
    rw [Sheet.mem_keys_importTable imported, List.map_append, List.mem_append, List.map_cons,
      List.mem_cons, mem_keys_parentEntries placed, mem_keys_conversionEntry, or_assoc]
    rfl
  refine ⟨path, fun name => ?_, view, content, ?_, fun action member param taken => ?_⟩
  · rw [imports, usesConversions_iff routed seen]
  · rw [(controllerView_ok seen).1, List.forall₂_map_right_iff, List.forall₂_same]
    intro parent member
    refine makesParent_of fun qualifier qualified => (imports qualifier).mpr ?_
    exact .inr (.inr (.inl ⟨parent, member, qualified⟩))
  · refine converts_of seen (fun external converts => (imports "conv").mpr ?_) member taken
    exact .inr (.inr (.inr ⟨rfl, external, converts⟩))

theorem agrees_of_entries {entries : List (String × String)}
    (imported : sheet.imports = .ofList entries)
    (each : ∀ importPath id, numberOf? P importPath = some id → ∀ path,
      (qualifier id, path) ∈ entries → p.parentImport importPath = .ok path) : Agrees p P sheet := by
  intro importPath id number known
  have apart : qualifier id ≠ "http" := qualifier_ne 't' (by decide) (by decide) (by decide)
  rcases (Sheet.mem_keys_importTable imported).mp known with same | listed
  · exact absurd same apart
  obtain ⟨⟨name, path⟩, member, same⟩ := List.mem_map.mp listed
  have first := each importPath id number path (same ▸ member)
  obtain ⟨base, output, rfl⟩ := parentImport_ok first
  refine ⟨base, output, Sheet.get?_importTable imported known apart fun other listed => ?_⟩
  have second := each importPath id number other listed
  rw [first] at second
  cases second
  rfl

theorem agrees_of_controllerSheet {earlier : List String} (numbered : Numbered P)
    (inside : decl ∈ P.controllers.values)
    (ok : p.controllerSheet place P d earlier decl = .ok sheet) : Agrees p P sheet := by
  obtain ⟨view, parents, -, placed, -, imported, -⟩ := controllerSheet_ok ok
  refine agrees_of_entries imported fun importPath id number path member => ?_
  rcases List.mem_append.mp member with front | last
  · rcases List.mem_cons.mp front with own | listed
    · obtain ⟨same, -⟩ := Prod.mk.inj own
      exact absurd same (qualifier_ne 'o' (by decide) (by decide) (by decide))
    · obtain ⟨parent, held, qualified, found⟩ := parent_of_mem_entries placed listed
      obtain ⟨other, known, same⟩ := Option.map_eq_some_iff.mp qualified
      obtain rfl := qualifier_injective same
      have counted := numbered.parents decl inside parent held
      rw [known] at counted
      exact numbered.once other _ _ counted number ▸ found
  · have key := mem_keys_conversionEntry.mp (List.mem_map_of_mem last)
    exact absurd key.1 (qualifier_ne 'o' (by decide) (by decide) (by decide))

theorem mem_numberedEntries {parents : List (String × String)}
    (placed : P.parentImports.zipIdx.mapM (numberedEntry p) = .ok parents) :
    (name, path) ∈ parents ↔ ∃ importPath id, P.parentImports[id]? = some importPath ∧
      name = qualifier id ∧ p.parentImport importPath = .ok path := by
  rw [mem_of_mapM placed, Prod.exists]
  refine exists_congr fun importPath => exists_congr fun id => ?_
  rw [List.mk_mem_zipIdx_iff_getElem?, numberedEntry, bind_eq_ok_iff]
  refine and_congr_right fun _ => ?_
  constructor
  · rintro ⟨found, imported, made⟩
    cases made
    exact ⟨rfl, imported⟩
  · rintro ⟨rfl, imported⟩
    exact ⟨path, imported, rfl⟩

theorem agrees_of_packageSheet (distinct : P.parentImports.Nodup)
    (ok : p.packageSheet P d = .ok sheet) : Agrees p P sheet := by
  obtain ⟨parents, placed, -, imported, -⟩ := packageSheet_ok ok
  refine agrees_of_entries imported fun importPath id number path member => ?_
  rcases List.mem_append.mp member with front | last
  · rcases List.mem_append.mp front with listed | own
    · obtain ⟨other, twin, here, same, found⟩ := (mem_numberedEntries placed).mp listed
      obtain rfl := qualifier_injective same
      rw [numberOf?_eq_some_iff distinct, here] at number
      cases number
      exact found
    · split at own
      · obtain ⟨same, -⟩ := Prod.mk.inj (List.mem_singleton.mp own)
        exact absurd same (qualifier_ne 'o' (by decide) (by decide) (by decide))
      · cases own
  · split at last
    · simp only [List.mem_cons, Prod.mk.injEq, List.not_mem_nil, or_false] at last
      rcases last with ⟨same, -⟩ | ⟨same, -⟩
      · exact absurd same (qualifier_ne 's' (by decide) (by decide) (by decide))
      · exact absurd same (qualifier_ne 'u' (by decide) (by decide) (by decide))
    · cases last

theorem mem_keys_numberedEntries {parents : List (String × String)}
    (placed : P.parentImports.zipIdx.mapM (numberedEntry p) = .ok parents) :
    name ∈ parents.map Prod.fst ↔ ∃ id < P.parentImports.length, name = qualifier id := by
  constructor
  · intro member
    obtain ⟨⟨_, path⟩, listed, rfl⟩ := List.mem_map.mp member
    obtain ⟨importPath, id, here, same, -⟩ := (mem_numberedEntries placed).mp listed
    exact ⟨id, (List.getElem?_eq_some_iff.mp here).1, same⟩
  · rintro ⟨id, bound, rfl⟩
    have member : (P.parentImports[id], id) ∈ P.parentImports.zipIdx :=
      List.mk_mem_zipIdx_iff_getElem?.mpr (List.getElem?_eq_getElem bound)
    obtain ⟨entry, listed, made⟩ := exists_related (forall₂_of_mapM placed) member
    obtain ⟨path, -, made⟩ := bind_eq_ok_iff.mp made
    cases made
    exact List.mem_map_of_mem listed

theorem callsInit_iff : Plan.callsInit P = true ↔
    ∃ f, P.package.findFunc? "Init" = some f ∧ f.params = [] ∧ f.results = [] := by
  unfold Plan.callsInit
  cases P.package.findFunc? "Init" <;> simp

theorem shares_of_packageSheet (ok : p.packageSheet P d = .ok sheet) :
    ∃ helpers, Shares p P d helpers sheet := by
  obtain ⟨parents, placed, path, imported, content⟩ := packageSheet_ok ok
  have ids : P.parentImports.zipIdx.map Prod.snd = List.range P.parentImports.length := by
    rw [List.zipIdx_map_snd, List.range_eq_range']
  have full : conversionHelpers ≠ [] := by simp [conversionHelpers, primitives]
  refine ⟨_, path, fun name => ?_, ids ▸ content, ?_⟩
  · rw [Sheet.mem_keys_importTable imported, List.map_append, List.map_append, List.mem_append,
      List.mem_append, mem_keys_numberedEntries placed, or_assoc, ← callsInit_iff]
    refine or_congr_right (or_congr_right (or_congr ?_ ?_))
    · cases Plan.callsInit P <;> simp [Plan.controllersEntry]
    · cases p.options.conversionImport <;> simp [full]
  · cases p.options.conversionImport <;> simp [full]

end Dispatchers.Handlers
