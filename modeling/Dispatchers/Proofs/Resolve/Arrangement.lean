import Dispatchers.Proofs.Resolve.Linking
import Mathlib.Data.List.Induction

namespace Dispatchers.Resolve

open Controller Go Relation

def linkingOf (setting : Setting) (scanned : Scanned) : Linking :=
  ⟨scanned.importPath, scanned.package, scanned.prefixes,
    (collect scanned.package setting.markers scanned.prefixes).1⟩

def Finished (setting : Setting) (earlier : List Scanned) (scanned : Scanned)
    (entry final : String × ControllerDecl) : Prop :=
  ∃ embeddings,
    LinkedAs setting earlier scanned.parentImports (linkingOf setting scanned) entry.1 embeddings ∧
    final = (entry.1,
      { entry.2 with parents := embeddings.map (·.parent scanned.importPath earlier.length) })

structure Complete (setting : Setting) (dir : String) (earlier : List Scanned) (scanned : Scanned) :
    Prop where
  fresh : scanned.importPath ∉ earlier.map (·.importPath)
  reached : Reached setting dir scanned.importPath
  located : dirOf? setting dir scanned.importPath = some scanned.dir
  package : setting.disk.package scanned.dir = .ok scanned.package
  numbered : scanned.parentImports.Nodup
  controllers : List.Forall₂ (Finished setting earlier scanned)
    (collect scanned.package setting.markers scanned.prefixes).1.entries scanned.controllers.entries
  used : ∀ importPath ∈ scanned.parentImports, ∃ name decl parent,
    (name, decl) ∈ scanned.controllers.entries ∧ parent ∈ decl.parents ∧
      parent.id.isSome = true ∧ parent.importPath = importPath

inductive Arranged (setting : Setting) (dir : String) : List Scanned → Prop
  | nil : Arranged setting dir []
  | concat {earlier : List Scanned} {scanned : Scanned} (arranged : Arranged setting dir earlier)
      (complete : Complete setting dir earlier scanned) : Arranged setting dir (earlier ++ [scanned])

variable {setting : Setting} {dir : String} {earlier packages : List Scanned} {scanned : Scanned}

theorem Complete.packageOf? (complete : Complete setting dir earlier scanned) :
    packageOf? setting dir scanned.importPath = some scanned.package :=
  packageOf?_eq_some_iff.mpr ⟨scanned.dir, complete.located, complete.package⟩

theorem lookup_finished {entries finals : List (String × ControllerDecl)}
    (each : List.Forall₂ (Finished setting earlier scanned) entries finals) (name : String) :
    (∃ decl, entries.lookup name = some decl ∧ ∃ embeddings,
      LinkedAs setting earlier scanned.parentImports (linkingOf setting scanned) name embeddings ∧
      finals.lookup name = some
        { decl with parents := embeddings.map (·.parent scanned.importPath earlier.length) }) ∨
    (entries.lookup name = none ∧ finals.lookup name = none) := by
  induction each with
  | nil => exact .inr ⟨rfl, rfl⟩
  | @cons entry final entries finals finished rest ih =>
    obtain ⟨key, decl⟩ := entry
    obtain ⟨embeddings, linked, rfl⟩ := finished
    simp only [Dictionary.lookup_cons]
    by_cases same : name = key
    · subst same
      exact .inl ⟨decl, if_pos rfl, embeddings, linked, if_pos rfl⟩
    · simpa only [if_neg same] using ih

theorem keys_finished {entries finals : List (String × ControllerDecl)}
    (each : List.Forall₂ (Finished setting earlier scanned) entries finals) :
    finals.map Prod.fst = entries.map Prod.fst := by
  induction each with
  | nil => rfl
  | cons finished _ ih =>
    obtain ⟨_, _, rfl⟩ := finished
    rw [List.map_cons, List.map_cons, ih]

theorem Complete.get? (complete : Complete setting dir earlier scanned) (name : String) :
    (∃ decl, (collect scanned.package setting.markers scanned.prefixes).1.get? name = some decl ∧
      ∃ embeddings,
        LinkedAs setting earlier scanned.parentImports (linkingOf setting scanned) name embeddings ∧
        scanned.controllers.get? name = some
          { decl with parents := embeddings.map (·.parent scanned.importPath earlier.length) }) ∨
    ((collect scanned.package setting.markers scanned.prefixes).1.get? name = none ∧
      scanned.controllers.get? name = none) :=
  lookup_finished complete.controllers name

/-- But for its parents, a controller of a complete package is what the last struct of its name
declares. -/
theorem Complete.describedByLast (complete : Complete setting dir earlier scanned) {name : String}
    {decl : ControllerDecl} (found : scanned.controllers.get? name = some decl) :
    ∃ s, scanned.package.structs.reverse.find? (·.name = name) = some s ∧
      declOf? scanned.package setting.markers scanned.prefixes s = some { decl with parents := [] } := by
  rcases complete.get? name with ⟨bare, collected, embeddings, -, final⟩ | ⟨-, absent⟩
  · rw [found] at final
    cases final
    rw [get?_collect] at collected
    obtain ⟨s, last, described⟩ := Option.bind_eq_some_iff.mp collected
    obtain ⟨-, -, rfl⟩ := declOf?_eq_some_iff.mp described
    exact ⟨s, last, described⟩
  · rw [found] at absent
    cases absent

theorem Complete.described (complete : Complete setting dir earlier scanned) {name : String}
    {decl : ControllerDecl} (found : scanned.controllers.get? name = some decl) :
    ∃ s ∈ scanned.package.structs, s.name = name ∧
      declOf? scanned.package setting.markers scanned.prefixes s = some { decl with parents := [] } := by
  obtain ⟨s, last, described⟩ := complete.describedByLast found
  refine ⟨s, List.mem_reverse.mp (List.mem_of_find?_eq_some last), ?_, described⟩
  simpa using List.find?_some last

theorem Complete.controllers_contains (complete : Complete setting dir earlier scanned)
    (name : String) :
    scanned.controllers.contains name = isController scanned.package setting.markers name := by
  rw [← get?_collect_isSome scanned.package setting.markers scanned.prefixes name, Bool.eq_iff_iff,
    Dictionary.contains_iff, Dictionary.mem_keys_iff]
  rcases complete.get? name with ⟨decl, found, embeddings, -, final⟩ | ⟨absent, none⟩
  · simp [found, final]
  · simp [absent, none]

theorem Complete.linked (complete : Complete setting dir earlier scanned) {s : Struct} {field : Arg}
    (embeds : EmbedsPointer scanned.package setting.markers s field) :
    ∃ outcome, Linked setting earlier scanned.parentImports (linkingOf setting scanned) s field
      outcome := by
  have described :
      ((collect scanned.package setting.markers scanned.prefixes).1.get? s.name).isSome := by
    rw [get?_collect_isSome, embeds.controller]
  rcases complete.get? s.name with ⟨decl, -, embeddings, linked, -⟩ | ⟨absent, -⟩
  · have declared : (linkingOf setting scanned).package.findStruct? s.name = some s := embeds.declared
    simp only [LinkedAs, declared] at linked
    obtain ⟨outcomes, each, -⟩ := linked
    have member : field ∈ s.fields.filter (·.isEmbedded) :=
      List.mem_filter.mpr ⟨embeds.member, embeds.embedded⟩
    obtain ⟨outcome, -, linked⟩ := exists_related each member
    exact ⟨outcome, linked⟩
  · rw [absent] at described
    cases described

/-- All that a complete package embeds from stands before it. -/
theorem Complete.closed (complete : Complete setting dir earlier scanned) {other : String}
    (imports : Imports setting dir scanned.importPath other) :
    other ∈ earlier.map (·.importPath) := by
  obtain ⟨⟨located, p, s, field, known, embeds, bound⟩, foreign⟩ := imports
  rw [complete.packageOf?] at known
  cases known
  obtain ⟨outcome, linked⟩ := complete.linked embeds
  have there : (linkingOf setting scanned).foreignImport? s field.type = some other :=
    foreignImport?_eq_some_iff.mpr ⟨bound, foreign⟩
  have placed {importPath : String} {index : Nat}
      (target : (linkingOf setting scanned).foreignImport? s field.type = some importPath)
      (place : placeOf? earlier importPath = some index) : other ∈ earlier.map (·.importPath) := by
    rw [there] at target
    cases target
    obtain ⟨Q, found, rfl⟩ := getElem?_of_placeOf? place
    exact List.mem_map_of_mem (List.mem_of_getElem? found)
  cases linked with
  | skipped other =>
    rcases other with plain | unnamed
    · rw [embeds.pointer] at plain
      cases plain
    · have named := embeds.named
      rw [unnamed] at named
      cases named
  | own _ _ here _ =>
    rw [here] at there
    cases there
  | ownOther _ _ here _ =>
    rw [here] at there
    cases there
  | unlocated target nowhere =>
    rw [there] at target
    cases target
    rw [nowhere] at located
    cases located
  | foreign _ _ target _ place _ _ _ => exact placed target place
  | foreignOther _ _ target _ place _ _ => exact placed target place

theorem Arranged.complete (arranged : Arranged setting dir packages) {i : Nat}
    (found : packages[i]? = some scanned) : Complete setting dir (packages.take i) scanned := by
  induction arranged with
  | nil => cases found
  | @concat earlier last arranged complete ih =>
    obtain ⟨bound, _⟩ := List.getElem?_eq_some_iff.mp found
    rw [List.length_append, List.length_singleton] at bound
    by_cases before : i < earlier.length
    · rw [List.getElem?_append_left before] at found
      rw [List.take_append_of_le_length (by omega)]
      exact ih found
    · have same : i = earlier.length := by omega
      subst same
      rw [List.getElem?_concat_length] at found
      cases found
      rw [List.take_left]
      exact complete

theorem Arranged.take (arranged : Arranged setting dir packages) (i : Nat) :
    Arranged setting dir (packages.take i) := by
  induction arranged with
  | nil =>
    rw [List.take_nil]
    exact .nil
  | @concat earlier last arranged complete ih =>
    by_cases before : i ≤ earlier.length
    · rw [List.take_append_of_le_length before]
      exact ih
    · rw [List.take_of_length_le (by simp; omega)]
      exact arranged.concat complete

theorem Arranged.distinct (arranged : Arranged setting dir packages) :
    (packages.map (·.importPath)).Nodup := by
  induction arranged with
  | nil => exact List.Pairwise.nil
  | concat _ complete ih =>
    rw [List.map_append, List.map_singleton, List.nodup_append]
    refine ⟨ih, List.pairwise_singleton _ _, ?_⟩
    intro key here other last
    rw [List.mem_singleton] at last
    exact fun same => complete.fresh (last ▸ same ▸ here)

theorem Arranged.reached (arranged : Arranged setting dir packages) {key : String}
    (member : key ∈ packages.map (·.importPath)) : Reached setting dir key := by
  obtain ⟨scanned, listed, rfl⟩ := List.mem_map.mp member
  obtain ⟨i, found⟩ := List.getElem?_of_mem listed
  exact (arranged.complete found).reached

theorem take_placeOf? {i : Nat} {key : String} (member : key ∈ (packages.take i).map (·.importPath)) :
    ∃ j Q, j < i ∧ packages[j]? = some Q ∧ Q.importPath = key := by
  obtain ⟨Q, listed, same⟩ := List.mem_map.mp member
  obtain ⟨j, found⟩ := List.getElem?_of_mem listed
  have before : j < i := by
    obtain ⟨bound, _⟩ := List.getElem?_eq_some_iff.mp found
    rw [List.length_take] at bound
    omega
  rw [List.getElem?_take_of_lt before] at found
  exact ⟨j, Q, before, found, same⟩

/-- Along a chain of imports the packages stand ever earlier. -/
theorem Arranged.descends (arranged : Arranged setting dir packages) {key other : String}
    (chain : TransGen (Imports setting dir) key other) {i : Nat} (found : packages[i]? = some scanned)
    (same : scanned.importPath = key) :
    ∃ j Q, j < i ∧ packages[j]? = some Q ∧ Q.importPath = other := by
  induction chain with
  | single imports =>
    subst same
    exact take_placeOf? ((arranged.complete found).closed imports)
  | tail _ imports ih =>
    obtain ⟨j, Q, before, there, rfl⟩ := ih
    obtain ⟨k, R, deeper, last, named⟩ := take_placeOf? ((arranged.complete there).closed imports)
    exact ⟨k, R, by omega, last, named⟩

theorem Arranged.acyclic (arranged : Arranged setting dir packages) {key : String}
    (member : key ∈ packages.map (·.importPath)) : ¬TransGen (Imports setting dir) key key := by
  intro cycle
  obtain ⟨scanned, listed, rfl⟩ := List.mem_map.mp member
  obtain ⟨i, found⟩ := List.getElem?_of_mem listed
  obtain ⟨j, Q, before, there, same⟩ := arranged.descends cycle found rfl
  -- The same key would stand at two places.
  have first := placeOf?_of_getElem? arranged.distinct found
  have second := placeOf?_of_getElem? arranged.distinct there
  rw [same, first] at second
  cases second
  omega

end Dispatchers.Resolve
