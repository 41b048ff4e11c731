import Dispatchers.Proofs.Except
import Dispatchers.Proofs.Resolve.ImportGraph
import Dispatchers.Proofs.Resolve.Running

namespace Dispatchers.Resolve

open Controller Go

def placeOf? (packages : List Scanned) (key : String) : Option Nat :=
  packages.findIdx? (·.importPath = key)

theorem getElem?_grown {α : Type} {short long : List α} {i : Nat} {a : α}
    (start : short <+: long) (found : short[i]? = some a) : long[i]? = some a := by
  obtain ⟨bound, rfl⟩ := List.getElem?_eq_some_iff.mp found
  exact List.prefix_iff_getElem?.mp start i bound

theorem length_take_of_getElem? {α : Type} {all : List α} {i : Nat} {a : α}
    (found : all[i]? = some a) : (all.take i).length = i := by
  obtain ⟨bound, -⟩ := List.getElem?_eq_some_iff.mp found
  rw [List.length_take]
  omega

theorem placeOf?_of_getElem? {packages : List Scanned} {i : Nat} {scanned : Scanned}
    (distinct : (packages.map (·.importPath)).Nodup) (found : packages[i]? = some scanned) :
    placeOf? packages scanned.importPath = some i := by
  obtain ⟨bound, rfl⟩ := List.getElem?_eq_some_iff.mp found
  rw [placeOf?, List.findIdx?_eq_some_iff_getElem]
  refine ⟨bound, by simp, fun j before => ?_⟩
  have apart : packages[j].importPath ≠ packages[i].importPath := by
    have indices := (List.pairwise_iff_getElem.mp distinct) j i (by simp; omega) (by simpa) before
    simpa using indices
  simpa using apart

theorem getElem?_of_placeOf? {packages : List Scanned} {i : Nat} {key : String}
    (found : placeOf? packages key = some i) :
    ∃ scanned, packages[i]? = some scanned ∧ scanned.importPath = key := by
  obtain ⟨bound, same, _⟩ := List.findIdx?_eq_some_iff_getElem.mp found
  exact ⟨packages[i], List.getElem?_eq_getElem bound, by simpa using same⟩

theorem placeOf?_eq_none_iff {packages : List Scanned} {key : String} :
    placeOf? packages key = none ↔ key ∉ packages.map (·.importPath) := by
  simp only [placeOf?, List.findIdx?_eq_none_iff, List.mem_map, not_exists, not_and]
  exact forall₂_congr fun _ _ => by simp

theorem foreignImport?_eq_some_iff {l : Linking} {s : Struct} {type : TypeExpr} {importPath : String} :
    l.foreignImport? s type = some importPath ↔
      boundImport? l.package s type = some importPath ∧ importPath ≠ l.key := by
  show (boundImport? l.package s type).filter (· ≠ l.key) = some importPath ↔ _
  rw [Option.filter_eq_some_iff, decide_eq_true_iff]

theorem foreignImport?_eq_none_iff {l : Linking} {s : Struct} {type : TypeExpr} :
    l.foreignImport? s type = none ↔
      ∀ importPath, boundImport? l.package s type = some importPath → importPath = l.key := by
  show (boundImport? l.package s type).filter (· ≠ l.key) = none ↔ _
  rw [Option.filter_eq_none_iff]
  exact forall₂_congr fun _ _ => by simp

/-- What an embedded field of `s` comes to: the parent that it gives, if any. -/
inductive Linked (setting : Setting) (packages : List Scanned) (numbered : List String)
    (l : Linking) (s : Struct) (field : Arg) : Option Embedding → Prop
  | skipped (other : field.type.isPointer = false ∨ field.type.name? = none) :
      Linked setting packages numbered l s field none
  | own {name : String} (pointer : field.type.isPointer = true) (named : field.type.name? = some name)
      (here : l.foreignImport? s field.type = none) (controller : l.controllers.contains name = true) :
      Linked setting packages numbered l s field (some (.own name))
  | ownOther {name : String} (pointer : field.type.isPointer = true)
      (named : field.type.name? = some name) (here : l.foreignImport? s field.type = none)
      (other : l.controllers.contains name = false) :
      Linked setting packages numbered l s field none
  | unlocated {importPath : String} (there : l.foreignImport? s field.type = some importPath)
      (nowhere : setting.locator.dirFor? setting.disk importPath = none) :
      Linked setting packages numbered l s field none
  | foreign {name importPath : String} {index id : Nat} {scanned : Scanned}
      (pointer : field.type.isPointer = true) (named : field.type.name? = some name)
      (there : l.foreignImport? s field.type = some importPath)
      (located : (setting.locator.dirFor? setting.disk importPath).isSome = true)
      (placed : placeOf? packages importPath = some index) (found : packages[index]? = some scanned)
      (controller : scanned.controllers.contains name = true)
      (number : numbered.findIdx? (· = importPath) = some id) :
      Linked setting packages numbered l s field (some (.foreign id importPath name index))
  | foreignOther {name importPath : String} {index : Nat} {scanned : Scanned}
      (pointer : field.type.isPointer = true) (named : field.type.name? = some name)
      (there : l.foreignImport? s field.type = some importPath)
      (located : (setting.locator.dirFor? setting.disk importPath).isSome = true)
      (placed : placeOf? packages importPath = some index) (found : packages[index]? = some scanned)
      (other : scanned.controllers.contains name = false) :
      Linked setting packages numbered l s field none

theorem Linked.mono {setting : Setting} {packages more : List Scanned}
    {numbered numbers : List String} {l : Linking} {s : Struct} {field : Arg}
    {outcome : Option Embedding} (linked : Linked setting packages numbered l s field outcome)
    (grown : packages <+: more) (counted : numbered <+: numbers) :
    Linked setting more numbers l s field outcome := by
  cases linked with
  | skipped other => exact .skipped other
  | own pointer named here controller => exact .own pointer named here controller
  | ownOther pointer named here other => exact .ownOther pointer named here other
  | unlocated there nowhere => exact .unlocated there nowhere
  | foreign pointer named there located placed found controller number =>
    exact .foreign pointer named there located (grown.findIdx?_eq_some placed)
      (getElem?_grown grown found) controller (counted.findIdx?_eq_some number)
  | foreignOther pointer named there located placed found other =>
    exact .foreignOther pointer named there located (grown.findIdx?_eq_some placed)
      (getElem?_grown grown found) other

def ParentsOf (setting : Setting) (packages : List Scanned) (numbered : List String) (l : Linking)
    (s : Struct) (fields : List Arg) (embeddings : List Embedding) : Prop :=
  ∃ outcomes, List.Forall₂ (Linked setting packages numbered l s) fields outcomes ∧
    embeddings = outcomes.filterMap id

def LinkedAs (setting : Setting) (packages : List Scanned) (numbered : List String) (l : Linking)
    (name : String) (embeddings : List Embedding) : Prop :=
  match l.package.findStruct? name with
  | none => embeddings = []
  | some s =>
    ParentsOf setting packages numbered l s (s.fields.filter (·.isEmbedded)) embeddings

theorem ParentsOf.mono {setting : Setting} {packages more : List Scanned}
    {numbered numbers : List String} {l : Linking} {s : Struct} {fields : List Arg}
    {embeddings : List Embedding} (parents : ParentsOf setting packages numbered l s fields embeddings)
    (grown : packages <+: more) (counted : numbered <+: numbers) :
    ParentsOf setting more numbers l s fields embeddings := by
  obtain ⟨outcomes, each, same⟩ := parents
  exact ⟨outcomes, .imp (fun _ _ linked => linked.mono grown counted) each, same⟩

theorem ParentsOf.concat {setting : Setting} {packages : List Scanned} {numbered : List String}
    {l : Linking} {s : Struct} {fields : List Arg} {embeddings : List Embedding} {field : Arg}
    {outcome : Option Embedding} (parents : ParentsOf setting packages numbered l s fields embeddings)
    (linked : Linked setting packages numbered l s field outcome) :
    ParentsOf setting packages numbered l s (fields ++ [field]) (embeddings ++ outcome.toList) := by
  obtain ⟨outcomes, each, rfl⟩ := parents
  refine ⟨outcomes ++ [outcome], List.rel_append each (.cons linked .nil), ?_⟩
  cases outcome <;> simp

theorem LinkedAs.mono {setting : Setting} {packages more : List Scanned}
    {numbered numbers : List String} {l : Linking} {name : String} {embeddings : List Embedding}
    (linked : LinkedAs setting packages numbered l name embeddings) (grown : packages <+: more)
    (counted : numbered <+: numbers) : LinkedAs setting more numbers l name embeddings := by
  unfold LinkedAs at linked ⊢
  split at linked
  · exact linked
  · exact linked.mono grown counted

def Embedding.importPath? : Embedding → Option String
  | own _ => none
  | foreign _ importPath _ _ => some importPath

def Uses (numbered : List String) (embeddings : List Embedding) (numbers : List String) : Prop :=
  ∀ importPath ∈ numbers, importPath ∈ numbered ∨ ∃ e ∈ embeddings, e.importPath? = some importPath

theorem Uses.refl (numbered : List String) : Uses numbered [] numbered :=
  fun _ member => .inl member

theorem Uses.append {numbered numbers more : List String} {embeddings others : List Embedding}
    (one : Uses numbered embeddings numbers) (other : Uses numbers others more) :
    Uses numbered (embeddings ++ others) more := by
  intro importPath member
  rcases other importPath member with before | ⟨e, listed, path⟩
  · rcases one importPath before with start | ⟨e, listed, path⟩
    · exact .inl start
    · exact .inr ⟨e, List.mem_append_left _ listed, path⟩
  · exact .inr ⟨e, List.mem_append_right _ listed, path⟩

theorem mem_number {numbered : List String} {importPath other : String}
    (member : other ∈ (number numbered importPath).2) : other ∈ numbered ∨ other = importPath := by
  unfold number at member
  split at member
  · exact .inl member
  · simpa using member

theorem number_spec {numbered : List String} (distinct : numbered.Nodup) (importPath : String) :
    numbered <+: (number numbered importPath).2 ∧ (number numbered importPath).2.Nodup ∧
      (number numbered importPath).2.findIdx? (· = importPath) =
        some (number numbered importPath).1 := by
  unfold number
  cases found : numbered.findIdx? (· = importPath) with
  | some id => exact ⟨List.prefix_rfl, distinct, found⟩
  | none =>
    have fresh : importPath ∉ numbered := by
      intro member
      have apart := List.findIdx?_eq_none_iff.mp found importPath member
      simp at apart
    refine ⟨List.prefix_append _ _, ?_, ?_⟩
    · rw [List.nodup_append]
      refine ⟨distinct, List.pairwise_singleton _ _, ?_⟩
      intro a here b last
      rw [List.mem_singleton] at last
      exact fun same => fresh (last ▸ same ▸ here)
    · rw [List.findIdx?_append, found]
      simp

end Dispatchers.Resolve
