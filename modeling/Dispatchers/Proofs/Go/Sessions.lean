import Dispatchers.Proofs.Disk.ImportPaths
import Dispatchers.Proofs.Disk.Tree
import Dispatchers.Proofs.Except
import Dispatchers.Proofs.Go.Names

namespace Dispatchers.Go

namespace Package

/-- `q` holds what `p` and `m` hold, in this order, and the name of `m` if it has one. -/
structure Joins (p m q : Package) : Prop where
  name : q.name = if m.name = "" then p.name else m.name
  funcs : q.funcs = p.funcs ++ m.funcs
  structs : q.structs = p.structs ++ m.structs
  methods : ∀ receiver, q.methodsOf receiver = p.methodsOf receiver ++ m.methodsOf receiver
  receivers : ∀ receiver,
    receiver ∈ q.methods.keys ↔ receiver ∈ p.methods.keys ∨ receiver ∈ m.methods.keys

theorem Joins.refl (p : Package) : p.Joins empty p where
  name := rfl
  funcs := (List.append_nil _).symm
  structs := (List.append_nil _).symm
  methods _ := (List.append_nil _).symm
  receivers _ := (or_iff_left List.not_mem_nil).symm

def receiverOf (f : Func) : String :=
  (f.receiver.map receiverName).getD ""

theorem getD_get?_addMethod (f : Func) (methods : Dictionary (List Func)) (receiver : String) :
    ((addMethod f methods).get? receiver).getD [] =
      (methods.get? receiver).getD [] ++ if receiver = receiverOf f then [f] else [] := by
  rw [addMethod, Dictionary.alter, Dictionary.get?_insert, ← receiverOf]
  split
  · rename_i same
    rw [same, Option.getD_some]
  · rw [List.append_nil]

theorem mem_keys_addMethod (f : Func) (methods : Dictionary (List Func)) (receiver : String) :
    receiver ∈ (addMethod f methods).keys ↔ receiver = receiverOf f ∨ receiver ∈ methods.keys :=
  Dictionary.mem_keys_insertEntry _ receiver _ methods.entries

theorem Joins.add {p m q : Package} (joined : p.Joins m q) (table : ImportTable) {d : Declaration}
    (named : d.Named) :
    p.Joins (m.add table d).1 (q.add table d).1 ∧ (m.add table d).2 = (q.add table d).2 := by
  refine ⟨?_, by cases d <;> rfl⟩
  obtain ⟨name, funcs, structs, methods, receivers⟩ := joined
  cases d with
  | package text =>
    have full : text ≠ "" := named.ne_empty
    exact ⟨(if_neg full).symm, funcs, structs, methods, receivers⟩
  | imports entries => exact ⟨name, funcs, structs, methods, receivers⟩
  | function f =>
    refine ⟨name, ?_, structs, methods, receivers⟩
    show q.funcs ++ [f] = p.funcs ++ (m.funcs ++ [f])
    rw [funcs, List.append_assoc]
  | method f =>
    refine ⟨name, funcs, structs, fun receiver => ?_, fun receiver => ?_⟩
    · have known := methods receiver
      unfold methodsOf at known ⊢
      rw [Package.add, Package.add, getD_get?_addMethod, getD_get?_addMethod, known,
        List.append_assoc]
    · rw [Package.add, Package.add, mem_keys_addMethod, mem_keys_addMethod, receivers, or_left_comm]
  | structs declared =>
    refine ⟨name, funcs, ?_, methods, receivers⟩
    show q.structs ++ declared = p.structs ++ (m.structs ++ declared)
    rw [structs, List.append_assoc]
  | values => exact ⟨name, funcs, structs, methods, receivers⟩

def addEach (state : Package × ImportTable) (declarations : List Declaration) :
    Package × ImportTable :=
  declarations.foldl (fun state d => state.1.add state.2 d) state

theorem addAll_eq (p : Package) (file : String) (declarations : List Declaration) :
    p.addAll file declarations =
      { (addEach (p, .empty) declarations).1 with
        imports := (addEach (p, .empty) declarations).1.imports.insert file
          (addEach (p, .empty) declarations).2 } :=
  rfl

theorem addEach_imports (p : Package) (declarations : List Declaration) :
    (addEach (p, .empty) declarations).1.imports = p.imports :=
  (foldl_add declarations (fun _ member => member) p .empty fun _ _ found => nomatch found).1

theorem Joins.addEach {p : Package} {declarations : List Declaration}
    (named : ∀ d ∈ declarations, d.Named) {m q : Package} (joined : p.Joins m q)
    (table : ImportTable) :
    p.Joins (addEach (m, table) declarations).1 (addEach (q, table) declarations).1 ∧
      (Package.addEach (m, table) declarations).2 = (Package.addEach (q, table) declarations).2 := by
  induction declarations generalizing m q table with
  | nil => exact ⟨joined, rfl⟩
  | cons d declarations ih =>
    obtain ⟨first, others⟩ := List.forall_mem_cons.mp named
    obtain ⟨joins, tables⟩ := joined.add table first
    have same : q.add table d = ((q.add table d).1, (m.add table d).2) := Prod.ext rfl tables.symm
    have later := ih others joins (m.add table d).2
    rw [← same] at later
    exact later

theorem exists_of_mem_structs {declarations : List Declaration} {p : Package} {table : ImportTable}
    {s : Struct} (member : s ∈ (addEach (p, table) declarations).1.structs) :
    s ∈ p.structs ∨ ∃ declared, .structs declared ∈ declarations ∧ s ∈ declared := by
  induction declarations generalizing p table with
  | nil => exact .inl member
  | cons d declarations ih =>
    rcases ih member with first | ⟨declared, listed, inside⟩
    · cases d with
      | structs declared =>
        rcases List.mem_append.mp first with known | own
        · exact .inl known
        · exact .inr ⟨declared, List.mem_cons_self, own⟩
      | _ => exact .inl first
    · exact .inr ⟨declared, List.mem_cons_of_mem _ listed, inside⟩

theorem named_of_parse {file source : String} {m : Package}
    (made : (empty.parse file source).toOption = some m) :
    ∀ s ∈ m.structs, Text.IsIdentifier s.name := by
  unfold parse addSource? at made
  cases read : Source.declarations? file source with
  | none =>
    rw [read] at made
    cases made
  | some declarations =>
    rw [read] at made
    cases made
    intro s member
    rw [addAll_eq] at member
    rcases exists_of_mem_structs member with absurdly | ⟨declared, listed, inside⟩
    · cases absurdly
    · exact Source.named_of_declarations? read _ listed s inside

/-- `q` holds what `p` holds and behind it what `file` makes on its own, `m`. -/
structure Extends (p : Package) (file : String) (m q : Package) : Prop extends p.Joins m q where
  /-- The file makes one import table, its own, which takes the place of an earlier one. -/
  table : ∃ table, m.imports.entries = [(file, table)] ∧ q.imports.get? file = some table
  others : ∀ other, other ≠ file → q.imports.get? other = p.imports.get? other

theorem extends_addAll (p : Package) (file : String) {declarations : List Declaration}
    (named : ∀ d ∈ declarations, d.Named) :
    p.Extends file (empty.addAll file declarations) (p.addAll file declarations) := by
  obtain ⟨joins, tables⟩ := (Joins.refl p).addEach named .empty
  rw [addAll_eq, addAll_eq]
  refine ⟨⟨joins.name, joins.funcs, joins.structs, joins.methods, joins.receivers⟩,
    ⟨(addEach (empty, .empty) declarations).2, ?_, ?_⟩, fun other apart => ?_⟩
  · simp only [addEach_imports]
    rfl
  · simp only [Dictionary.get?_insert, if_true, tables]
  · simp only [Dictionary.get?_insert, apart, if_false, addEach_imports]

theorem addSource?_cases (p : Package) (file source : String) :
    (ofSource? file source = none ∧ p.addSource? file source = none) ∨
      ∃ m q, ofSource? file source = some m ∧ p.addSource? file source = some q ∧
        p.Extends file m q := by
  unfold ofSource? addSource?
  cases read : Source.declarations? file source with
  | none => exact .inl ⟨rfl, rfl⟩
  | some declarations =>
    exact .inr ⟨_, _, rfl, rfl, p.extends_addAll file (Source.named_of_declarations? read)⟩

/-- A source fails with the same fault whatever it is parsed into, or extends what it is parsed
into. -/
theorem parse_cases (p : Package) (file source : String) :
    (empty.parse file source = .error (.notGo file (Source.faultyLine source)) ∧
        p.parse file source = .error (.notGo file (Source.faultyLine source))) ∨
      ∃ m q, empty.parse file source = .ok m ∧ p.parse file source = .ok q ∧
        p.Extends file m q := by
  rcases p.addSource?_cases file source with ⟨refused, left⟩ | ⟨m, q, made, added, both⟩
  · rw [ofSource?] at refused
    exact .inl ⟨by rw [parse, refused], by rw [parse, left]⟩
  · rw [ofSource?] at made
    exact .inr ⟨m, q, by rw [parse, made], by rw [parse, added], both⟩

def session (p : Package) : List (String × String) → List (Except Fault Unit) × Package
  | [] => ([], p)
  | source :: rest =>
    let stepped := p.step source.1 source.2
    let later := stepped.2.session rest
    (stepped.1 :: later.1, later.2)

def singles (sources : List (String × String)) : List (String × Package) :=
  sources.filterMap fun source =>
    (empty.parse source.1 source.2).toOption.map fun m => (source.1, m)

/-- `q` holds what `p` holds and behind it, in turn, what single files make. -/
structure Collects (p : Package) (made : List (String × Package)) (q : Package) : Prop where
  /-- The last clause counts, and no clause at all leaves the name as it is. -/
  name : q.name = ((made.map (·.2.name)).filter (· ≠ "")).getLast?.getD p.name
  funcs : q.funcs = p.funcs ++ made.flatMap (·.2.funcs)
  structs : q.structs = p.structs ++ made.flatMap (·.2.structs)
  methods : ∀ receiver,
    q.methodsOf receiver = p.methodsOf receiver ++ made.flatMap (·.2.methodsOf receiver)
  receivers : ∀ receiver, receiver ∈ q.methods.keys ↔
    receiver ∈ p.methods.keys ∨ ∃ entry ∈ made, receiver ∈ entry.2.methods.keys
  /-- Of several sources with one file the last counts. -/
  tables : ∀ file, q.imports.get? file =
    ((made.filter (·.1 = file)).getLast?.map (·.2.imports.get? file)).getD (p.imports.get? file)

theorem Collects.refl (p : Package) : p.Collects [] p where
  name := rfl
  funcs := (List.append_nil _).symm
  structs := (List.append_nil _).symm
  methods _ := (List.append_nil _).symm
  receivers _ := by simp
  tables _ := rfl

theorem Extends.collects {p m q r : Package} {file : String} {made : List (String × Package)}
    (first : p.Extends file m q) (later : q.Collects made r) :
    p.Collects ((file, m) :: made) r where
  name := by
    rw [later.name, first.name, List.map_cons, List.filter_cons]
    by_cases named : m.name = ""
    · simp [named]
    · simp only [named, ne_eq, not_false_iff, decide_true, if_true, if_false, List.getLast?_cons,
        Option.getD_some]
  funcs := by rw [later.funcs, first.funcs, List.flatMap_cons, List.append_assoc]
  structs := by rw [later.structs, first.structs, List.flatMap_cons, List.append_assoc]
  methods receiver := by
    rw [later.methods, first.methods, List.flatMap_cons, List.append_assoc]
  receivers receiver := by
    rw [later.receivers, first.receivers, List.exists_mem_cons_iff, or_assoc]
  tables other := by
    obtain ⟨table, own, found⟩ := first.table
    rw [later.tables, List.filter_cons]
    by_cases same : file = other
    · subst same
      have single : m.imports.get? file = some table := by simp [Dictionary.get?, own]
      simp only [decide_true, if_true, List.getLast?_cons, found, Option.map_some, Option.getD_some]
      cases (made.filter (·.1 = file)).getLast? with
      | none => simp [single]
      | some last => simp
    · simp [same, first.others other (Ne.symm same)]

theorem session_collects (p : Package) (sources : List (String × String)) :
    (p.session sources).1 =
        sources.map (fun source => (empty.parse source.1 source.2).map fun _ => ()) ∧
      p.Collects (singles sources) (p.session sources).2 := by
  induction sources generalizing p with
  | nil => exact ⟨rfl, .refl p⟩
  | cons source sources ih =>
    unfold session
    rcases p.parse_cases source.1 source.2 with ⟨own, failed⟩ | ⟨m, q, own, added, extends'⟩
    · have stepped : p.step source.1 source.2 =
          (.error (.notGo source.1 (Source.faultyLine source.2)), p) := by rw [step, failed]
      obtain ⟨outcomes, collects⟩ := ih p
      rw [stepped]
      refine ⟨by rw [List.map_cons, own, ← outcomes]; rfl, ?_⟩
      rw [singles, List.filterMap_cons, own]
      exact collects
    · have stepped : p.step source.1 source.2 = (.ok (), q) := by rw [step, added]
      obtain ⟨outcomes, collects⟩ := ih q
      rw [stepped]
      refine ⟨by rw [List.map_cons, own, ← outcomes]; rfl, ?_⟩
      rw [singles, List.filterMap_cons, own]
      exact extends'.collects collects

end Package

end Dispatchers.Go

namespace Dispatchers.Disk

open Go

section Directories

variable {p q : Package} {source : String × ByteArray} {text : String} {cause : Fault}

theorem addSource_of_decoded (decoded : decode source.2 = .ok text) :
    addSource p source = p.parse source.1 text := by
  simp only [addSource, decoded]

theorem addSource_cases (p : Package) (source : String × ByteArray) :
    (∃ cause, addSource .empty source = .error cause ∧ addSource p source = .error cause) ∨
      ∃ text m q, decode source.2 = .ok text ∧ p.step source.1 text = (.ok (), q) ∧
        addSource .empty source = .ok m ∧ addSource p source = .ok q := by
  cases decoded : decode source.2 with
  | error cause =>
    refine .inl ⟨.during .readSource source.1 (.io cause), ?_, ?_⟩ <;>
      simp only [addSource, decoded]
  | ok text =>
    rw [addSource_of_decoded decoded, addSource_of_decoded decoded]
    rcases p.parse_cases source.1 text with ⟨own, failed⟩ | ⟨m, q, own, added, -⟩
    · exact .inl ⟨_, own, failed⟩
    · exact .inr ⟨text, m, q, rfl, by rw [Package.step, added], own, added⟩

def Decodes (source : String × ByteArray) (text : String × String) : Prop :=
  text.1 = source.1 ∧ decode source.2 = .ok text.2

theorem addSource_eq_ok_iff :
    addSource p source = .ok q ↔
      ∃ text, Decodes source text ∧ p.step text.1 text.2 = (.ok (), q) := by
  constructor
  · intro added
    rcases addSource_cases p source with ⟨cause, -, failed⟩ | ⟨text, _, r, decoded, stepped, -, same⟩
    · rw [failed] at added
      cases added
    · rw [same] at added
      cases added
      exact ⟨(source.1, text), ⟨rfl, decoded⟩, stepped⟩
  · rintro ⟨⟨file, text⟩, ⟨rfl, decoded⟩, stepped⟩
    rw [addSource_of_decoded decoded]
    unfold Package.step at stepped
    cases added : p.parse source.1 text with
    | error cause => simp [added] at stepped
    | ok r =>
      rw [added] at stepped
      cases stepped
      rfl

/-- Source files make a package together where they all go well in a session. -/
theorem foldlM_addSource_eq_ok_iff {sources : List (String × ByteArray)} :
    sources.foldlM addSource p = .ok q ↔
      ∃ texts, List.Forall₂ Decodes sources texts ∧
        p.session texts = (texts.map fun _ => .ok (), q) := by
  induction sources generalizing p with
  | nil =>
    constructor
    · intro same
      cases same
      exact ⟨[], .nil, rfl⟩
    · rintro ⟨texts, each, same⟩
      cases each
      cases same
      rfl
  | cons source sources ih =>
    rw [List.foldlM_cons, bind_eq_ok_iff]
    constructor
    · rintro ⟨middle, added, later⟩
      obtain ⟨text, decodes, stepped⟩ := addSource_eq_ok_iff.mp added
      obtain ⟨texts, each, session⟩ := ih.mp later
      refine ⟨text :: texts, .cons decodes each, ?_⟩
      rw [Package.session, stepped, session]
      rfl
    · rintro ⟨texts, each, session⟩
      obtain ⟨text, others, decodes, later, rfl⟩ := List.forall₂_cons_left_iff.mp each
      simp only [Package.session, List.map_cons, Prod.mk.injEq, List.cons.injEq] at session
      obtain ⟨⟨parsed, outcomes⟩, last⟩ := session
      refine ⟨(p.step text.1 text.2).2, addSource_eq_ok_iff.mpr ⟨text, decodes, ?_⟩, ?_⟩
      · exact Prod.ext parsed rfl
      · exact ih.mpr ⟨others, later, Prod.ext outcomes last⟩

theorem package_eq_ok_iff {disk : Disk} {dir : String} :
    disk.package dir = .ok q ↔
      ∃ children texts, disk.readDirectory dir = .ok children ∧ texts ≠ [] ∧
        List.Forall₂ Decodes (sourcesIn dir children) texts ∧
        Package.empty.session texts = (texts.map fun _ => .ok (), q) := by
  unfold package
  cases listed : disk.readDirectory dir with
  | error cause => simp
  | ok children =>
    simp only [Except.ok.injEq, existsAndEq, true_and]
    cases sources : sourcesIn dir children with
    | nil =>
      constructor
      · intro absent
        cases absent
      · rintro ⟨texts, some, each, -⟩
        exact absurd (List.forall₂_nil_left_iff.mp each) some
    | cons source rest =>
      rw [foldlM_addSource_eq_ok_iff]
      constructor
      · rintro ⟨texts, each, session⟩
        refine ⟨texts, ?_, each, session⟩
        rintro rfl
        cases each
      · rintro ⟨texts, -, each, session⟩
        exact ⟨texts, each, session⟩

theorem package_named {disk : Disk} {dir : String} (scanned : disk.package dir = .ok q) :
    ∀ s ∈ q.structs, Text.IsIdentifier s.name := by
  obtain ⟨_, texts, -, -, -, session⟩ := package_eq_ok_iff.mp scanned
  have collects := (Package.empty.session_collects texts).2
  rw [session] at collects
  intro s member
  rw [collects.structs] at member
  rcases List.mem_append.mp member with absurdly | read
  · cases absurdly
  · obtain ⟨entry, listed, inside⟩ := List.mem_flatMap.mp read
    obtain ⟨source, -, made⟩ := List.mem_filterMap.mp listed
    obtain ⟨m, own, rfl⟩ := Option.map_eq_some_iff.mp made
    exact Package.named_of_parse own s inside

end Directories

end Dispatchers.Disk
