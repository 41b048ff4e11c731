import Dispatchers.Proofs.Disk.ImportPaths
import Dispatchers.Proofs.Resolve.Controllers
import Dispatchers.Resolve.Resolver
import Mathlib.Logic.Relation

namespace Dispatchers.Resolve

open Controller Go Relation

def dirOf? (setting : Setting) (dir key : String) : Option String :=
  if key = keyOf setting dir then some dir else setting.locator.dirFor? setting.disk key

def packageOf? (setting : Setting) (dir key : String) : Option Package :=
  (dirOf? setting dir key).bind fun found => (setting.disk.package found).toOption

def boundImport? (p : Package) (s : Struct) (type : TypeExpr) : Option String :=
  type.package?.bind (p.importOf? s.file ·)

/-- A controller embeds a pointer to a named type. Of several structs with its name, the first
declares its fields. -/
structure EmbedsPointer (p : Package) (markers : Markers) (s : Struct) (field : Arg) : Prop where
  controller : isController p markers s.name = true
  declared : p.findStruct? s.name = some s
  member : field ∈ s.fields
  embedded : field.isEmbedded = true
  pointer : field.type.isPointer = true
  named : field.type.name?.isSome = true

variable (setting : Setting) (dir : String)

/-- A controller in the package of `key` embeds a pointer to a type of `other`, which can be
located. -/
structure Embeds (key other : String) : Prop where
  located : (setting.locator.dirFor? setting.disk other).isSome = true
  bound : ∃ p s field, packageOf? setting dir key = some p ∧
    EmbedsPointer p setting.markers s field ∧ boundImport? p s field.type = some other

/-- A package does not import itself, whatever its files name. -/
structure Imports (key other : String) : Prop extends Embeds setting dir key other where
  foreign : other ≠ key

def Reached (key : String) : Prop :=
  ReflTransGen (Imports setting dir) (keyOf setting dir) key

def Cyclic : Prop :=
  ∃ key, Reached setting dir key ∧ TransGen (Imports setting dir) key key

variable {setting dir}

theorem packageOf?_eq_some_iff {key : String} {p : Package} :
    packageOf? setting dir key = some p ↔
      ∃ found, dirOf? setting dir key = some found ∧ setting.disk.package found = .ok p := by
  rw [packageOf?, Option.bind_eq_some_iff]
  refine exists_congr fun found => and_congr_right fun _ => ?_
  cases setting.disk.package found <;> simp [Except.toOption]

/-- What a package embeds from itself leads nowhere else. -/
theorem reached_iff_embeds {key : String} :
    Reached setting dir key ↔ ReflTransGen (Embeds setting dir) (keyOf setting dir) key := by
  constructor
  · intro reached
    induction reached with
    | refl => exact .refl
    | tail _ imports ih => exact ih.tail imports.toEmbeds
  · intro reached
    induction reached with
    | refl => exact .refl
    | @tail before other _ embeds ih =>
      by_cases same : other = before
      · exact same ▸ ih
      · exact ih.tail ⟨embeds, same⟩

theorem Reached.located {key : String} (reached : Reached setting dir key)
    (apart : key ≠ keyOf setting dir) :
    (setting.locator.dirFor? setting.disk key).isSome = true := by
  rcases ReflTransGen.cases_tail reached with same | ⟨_, _, imports⟩
  · exact absurd same apart
  · exact imports.located

theorem dirOf?_of_located {key found : String}
    (located : setting.locator.dirFor? setting.disk key = some found)
    (apart : key ≠ keyOf setting dir) : dirOf? setting dir key = some found := by
  rw [dirOf?, if_neg apart, located]

theorem Imports.mem_tables {key other : String} {p : Package}
    (known : packageOf? setting dir key = some p) (imports : Imports setting dir key other) :
    ∃ file table qualifier, (file, table) ∈ p.imports.entries ∧ (qualifier, other) ∈ table.entries := by
  obtain ⟨q, s, field, same, _, bound⟩ := imports.bound
  rw [known] at same
  cases same
  obtain ⟨qualifier, _, found⟩ := Option.bind_eq_some_iff.mp bound
  obtain ⟨table, listed, path⟩ := Option.bind_eq_some_iff.mp found
  exact ⟨s.file, table, qualifier, Dictionary.mem_entries_of_get? listed,
    Dictionary.mem_entries_of_get? path⟩

theorem Imports.mem_importPaths {key other : String} (imports : Imports setting dir key other) :
    other ∈ setting.disk.importPaths := by
  obtain ⟨p, s, field, known, _, bound⟩ := imports.bound
  obtain ⟨found, _, scanned⟩ := packageOf?_eq_some_iff.mp known
  obtain ⟨qualifier, _, path⟩ := Option.bind_eq_some_iff.mp bound
  exact Disk.package_importsIn scanned s.file qualifier other path

theorem Reached.mem_of_closed {keys : List String} {key : String} (root : keyOf setting dir ∈ keys)
    (closed : ∀ key ∈ keys, ∀ other, Imports setting dir key other → other ∈ keys)
    (reached : Reached setting dir key) : key ∈ keys := by
  induction reached with
  | refl => exact root
  | tail _ imports ih => exact closed _ ih _ imports

theorem Reached.mem_importPaths {key : String} (reached : Reached setting dir key) :
    key ∈ keyOf setting dir :: setting.disk.importPaths := by
  rcases ReflTransGen.cases_tail reached with same | ⟨_, _, imports⟩
  · exact same ▸ List.mem_cons_self ..
  · exact List.mem_cons_of_mem _ imports.mem_importPaths

end Dispatchers.Resolve
