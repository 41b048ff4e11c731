import Dispatchers.Proofs.Resolve.Arrangement
import Dispatchers.Proofs.Resolve.Crossings
import Dispatchers.Proofs.Resolve.Trail

namespace Dispatchers.Resolve

open Controller Go Relation

/-- The keys of the packages that are being scanned, the latest first. -/
abbrev Pending (setting : Setting) (dir : String) (keys : List String) : Prop :=
  Trail (Imports setting dir) (keyOf setting dir) keys

variable {setting : Setting} {dir : String}

theorem Pending.length_le {keys : List String} (trail : Pending setting dir keys) :
    keys.length ≤ setting.disk.importPaths.length + 1 :=
  Trail.length_le trail fun _ reached => Reached.mem_importPaths reached

structure Sound (setting : Setting) (dir : String) (pending : List String) (r : Resolver) : Prop where
  stack : r.pending = pending
  arranged : Arranged setting dir r.packages
  unfinished : ∀ key ∈ pending, key ∉ r.packages.map (·.importPath)

def Faulty (setting : Setting) (dir : String) (cause : Fault) : Prop :=
  (∃ key, cause = .importCycle key ∧ Cyclic setting dir) ∨
    ∃ key reason, cause = .scan key reason ∧ Reached setting dir key ∧
      packageOf? setting dir key = none

/-- A controller in the package of `key` embeds a pointer to a type of the package `other`, wherever
that is. -/
structure Asks (setting : Setting) (dir : String) (key other : String) : Prop where
  bound : ∃ p s field, packageOf? setting dir key = some p ∧
    EmbedsPointer p setting.markers s field ∧ boundImport? p s field.type = some other
  foreign : other ≠ key

theorem Asks.imports {key other : String} (asks : Asks setting dir key other)
    (located : (setting.locator.dirFor? setting.disk other).isSome = true) :
    Imports setting dir key other :=
  ⟨⟨located, asks.bound⟩, asks.foreign⟩

/-- Another setting with the same packages and directories as far as a scan can meet them. -/
structure Alike (setting other : Setting) (dir : String) : Prop where
  markers : other.markers = setting.markers
  key : keyOf other dir = keyOf setting dir
  packages : ∀ key found, Reached setting dir key → dirOf? setting dir key = some found →
    other.disk.package found = setting.disk.package found
  dirs : ∀ key importPath, Reached setting dir key → Asks setting dir key importPath →
    other.locator.dirFor? other.disk importPath = setting.locator.dirFor? setting.disk importPath

theorem Alike.refl (setting : Setting) (dir : String) : Alike setting setting dir :=
  ⟨rfl, rfl, fun _ _ _ _ => rfl, fun _ _ _ _ => rfl⟩

/-- Two ways to scan a package that `key` may embed from while `key` is scanned. -/
def Follows (setting : Setting) (dir : String) (key : String) (rest : List String)
    (follow twin : Follow) : Prop :=
  ∀ (r : Resolver) (importPath : String) (active : List Route.Prefix),
    Sound setting dir (key :: rest) r → Asks setting dir key importPath →
    Ends (follow importPath active) (twin importPath active) r (fun found after =>
      Sound setting dir (key :: rest) after ∧
      Serves setting r.packages [(importPath, active)] after.packages ∧
      match found with
      | none => setting.locator.dirFor? setting.disk importPath = none
      | some index => (setting.locator.dirFor? setting.disk importPath).isSome = true ∧
          placeOf? after.packages importPath = some index) (Faulty setting dir)

/-- From one state and numbering to a later one while controllers are linked: the requests that were
served and the embeddings that were found. -/
structure Progress (setting : Setting) (dir : String) (pending : List String) (r : Resolver)
    (numbered : List String) (requests : List Request) (embeddings : List Embedding)
    (after : Resolver) (numbers : List String) : Prop where
  sound : Sound setting dir pending after
  served : Serves setting r.packages requests after.packages
  counted : numbered <+: numbers
  distinct : numbers.Nodup
  used : Uses numbered embeddings numbers

variable {key : String} {rest pending : List String} {r after last : Resolver}
  {numbered numbers final : List String} {follow twin : Follow} {l : Linking} {s : Struct}
  {field : Arg} {location name importPath tag : String} {requests further : List Request}
  {embeddings others : List Embedding}

theorem Sound.of_eq (sound : Sound setting dir pending r) (packages : after.packages = r.packages)
    (same : after.pending = r.pending) : Sound setting dir pending after := by
  obtain ⟨stack, arranged, unfinished⟩ := sound
  exact ⟨same.trans stack, packages ▸ arranged, packages ▸ unfinished⟩

theorem Progress.refl (sound : Sound setting dir pending r) (distinct : numbered.Nodup) :
    Progress setting dir pending r numbered [] [] r numbered :=
  ⟨sound, .done _, List.prefix_rfl, distinct, .refl _⟩

theorem Progress.trans
    (first : Progress setting dir pending r numbered requests embeddings after numbers)
    (second : Progress setting dir pending after numbers further others last final) :
    Progress setting dir pending r numbered (requests ++ further) (embeddings ++ others) last final :=
  ⟨second.sound, first.served.append second.served, first.counted.trans second.counted,
    second.distinct, first.used.append second.used⟩

theorem linkOwn_ends {bad : Fault → Prop} :
    Ends (linkOwn l location name tag) (linkOwn l location name tag) r (fun found after =>
      after.packages = r.packages ∧ after.pending = r.pending ∧
      found = if l.controllers.contains name then [.own name] else []) bad := by
  unfold linkOwn
  by_cases controller : l.controllers.contains name = true
  · simp only [controller, if_true]
    refine .warn ?_
    by_cases bare : (Route.Prefix.ofTag tag location).1.isEmpty = true
    · simp only [bare, Bool.not_true, Bool.false_eq_true, if_false]
      exact .pure ⟨rfl, rfl, rfl⟩
    · simp only [bare, Bool.not_false, if_true]
      exact .warn (.pure ⟨rfl, rfl, rfl⟩)
  · simp only [controller, Bool.false_eq_true, if_false]
    exact .pure ⟨rfl, rfl, rfl⟩

theorem linkForeign_ends (follows : Follows setting dir key rest follow twin)
    (sound : Sound setting dir (key :: rest) r) (distinct : numbered.Nodup)
    (asks : Asks setting dir key importPath)
    (pointer : field.type.isPointer = true) (named : field.type.name? = some name)
    (there : l.foreignImport? s field.type = some importPath) :
    Ends (linkForeign follow l location importPath name field numbered)
      (linkForeign twin l location importPath name field numbered) r (fun result after =>
      Progress setting dir (key :: rest) r numbered
        [(importPath, Route.Prefix.nest l.active (Route.Prefix.ofTag field.tag location).1)]
        result.1 after result.2 ∧
      ∃ outcome, Linked setting after.packages result.2 l s field outcome ∧
        result.1 = outcome.toList) (Faulty setting dir) := by
  unfold linkForeign
  obtain ⟨declared, report⟩ := Route.Prefix.ofTag field.tag location
  refine .warn ?_
  have warned : Sound setting dir (key :: rest) { r with report := r.report ++ report } :=
    sound.of_eq rfl rfl
  refine (follows _ importPath (Route.Prefix.nest l.active declared) warned asks).bind ?_
  rintro (_ | index) after ⟨sound, served, result⟩
  · by_cases remote : isRemote importPath = true
    · simp only [remote, if_true]
      exact .warn (.pure ⟨⟨sound.of_eq rfl rfl, served, List.prefix_rfl, distinct, .refl _⟩, none,
        .unlocated there result, rfl⟩)
    · simp only [remote, Bool.false_eq_true, if_false]
      exact .pure ⟨⟨sound, served, List.prefix_rfl, distinct, .refl _⟩, none,
        .unlocated there result, rfl⟩
  · obtain ⟨located, placed⟩ := result
    obtain ⟨scanned, found, -⟩ := getElem?_of_placeOf? placed
    refine .get ?_
    simp only [found]
    by_cases controller : scanned.controllers.contains name = true
    · obtain ⟨counted, nodup, number⟩ := number_spec distinct importPath
      simp only [controller, if_true]
      refine .pure ⟨⟨sound, served, counted, nodup, ?_⟩, _,
        .foreign pointer named there located placed found controller number, rfl⟩
      intro other member
      rcases mem_number member with before | rfl
      · exact .inl before
      · exact .inr ⟨_, List.mem_singleton_self _, rfl⟩
    · rw [Bool.not_eq_true] at controller
      simp only [controller, Bool.false_eq_true, if_false]
      exact .pure ⟨⟨sound, served, List.prefix_rfl, distinct, .refl _⟩, none,
        .foreignOther pointer named there located placed found controller, rfl⟩

theorem crossing?_linking (embedded : field.isEmbedded = true)
    (pointer : field.type.isPointer = true) (named : field.type.name? = some name) :
    crossing? l.key l.package s field =
      (l.foreignImport? s field.type).map fun importPath => ⟨s, field, importPath⟩ := by
  rw [crossing?, embedded, pointer, named]
  rfl

theorem linkField_ends {found : List Embedding × List String}
    (follows : Follows setting dir key rest follow twin)
    (sound : Sound setting dir (key :: rest) r) (distinct : found.2.Nodup)
    (embedded : field.isEmbedded = true)
    (asks : ∀ importPath, field.type.isPointer = true → field.type.name?.isSome = true →
      l.foreignImport? s field.type = some importPath → Asks setting dir key importPath) :
    Ends (linkField follow l s found field) (linkField twin l s found field) r (fun result after =>
      ∃ outcome, Progress setting dir (key :: rest) r found.2
          ((crossing? l.key l.package s field).toList.map (Crossing.request l.active))
          outcome.toList after result.2 ∧
        Linked setting after.packages result.2 l s field outcome ∧
        result.1 = found.1 ++ outcome.toList) (Faulty setting dir) := by
  unfold linkField
  have still : ∀ (after : Resolver) (outcome : Option Embedding), after.packages = r.packages →
      after.pending = r.pending → crossing? l.key l.package s field = none →
      Progress setting dir (key :: rest) r found.2
        ((crossing? l.key l.package s field).toList.map (Crossing.request l.active))
        outcome.toList after found.2 := by
    intro after outcome packages same inside
    rw [inside]
    exact ⟨sound.of_eq packages same, packages ▸ .done _, List.prefix_rfl, distinct,
      fun _ member => .inl member⟩
  cases pointer : field.type.isPointer with
  | false => exact .pure ⟨none, still r _ rfl rfl (by simp [crossing?, pointer]),
      .skipped (.inl pointer), by simp⟩
  | true =>
    cases named : field.type.name? with
    | none => exact .pure ⟨none, still r _ rfl rfl (by simp [crossing?, named]),
        .skipped (.inr named), by simp⟩
    | some name =>
      have crossing := crossing?_linking (l := l) (s := s) embedded pointer named
      cases there : l.foreignImport? s field.type with
      | none =>
        refine linkOwn_ends.bind ?_
        rintro found after ⟨packages, same, rfl⟩
        have inside : crossing? l.key l.package s field = none := by rw [crossing, there]; rfl
        refine .pure ?_
        by_cases controller : l.controllers.contains name = true
        · exact ⟨_, still after _ packages same inside, .own pointer named there controller,
            by simp [controller]⟩
        · rw [Bool.not_eq_true] at controller
          exact ⟨none, still after _ packages same inside, .ownOther pointer named there controller,
            by simp [controller]⟩
      | some importPath =>
        have asked := asks importPath pointer (by rw [named]; rfl) there
        refine (linkForeign_ends follows sound distinct asked pointer named there).bind ?_
        rintro ⟨more, numbers⟩ after ⟨progress, outcome, linked, rfl⟩
        rw [crossing, there]
        exact .pure ⟨outcome, progress, linked, rfl⟩

theorem link_ends (follows : Follows setting dir l.key rest follow twin)
    (sound : Sound setting dir (l.key :: rest) r) (distinct : numbered.Nodup)
    (known : packageOf? setting dir l.key = some l.package)
    (controller : isController l.package setting.markers name = true) :
    Ends (link follow l numbered name) (link twin l numbered name) r (fun result after =>
      Progress setting dir (l.key :: rest) r numbered
        ((crossingsOf l.key l.package name).map (Crossing.request l.active)) result.1 after
        result.2 ∧
      LinkedAs setting after.packages result.2 l name result.1) (Faulty setting dir) := by
  unfold link
  cases declared : l.package.findStruct? name with
  | none =>
    rw [crossingsOf, declared]
    exact .pure ⟨.refl sound distinct, by simp [LinkedAs, declared]⟩
  | some s =>
    have same : s.name = name := by simpa using List.find?_some declared
    refine (Ends.foldlM (fun done (result : List Embedding × List String) after =>
      Progress setting dir (l.key :: rest) r numbered
        ((done.filterMap (crossing? l.key l.package s)).map (Crossing.request l.active)) result.1
        after result.2 ∧
      ParentsOf setting after.packages result.2 l s done result.1)
      (s.fields.filter (·.isEmbedded)) (by exact ⟨.refl sound distinct, [], .nil, rfl⟩) ?_).mono ?_
      fun _ faulty => faulty
    · rintro done field later result after split ⟨progress, parents⟩
      have member : field ∈ s.fields.filter (·.isEmbedded) := by simp [split]
      obtain ⟨inside, embedded⟩ := List.mem_filter.mp member
      have asks : ∀ importPath, field.type.isPointer = true → field.type.name?.isSome = true →
          l.foreignImport? s field.type = some importPath → Asks setting dir l.key importPath := by
        intro importPath pointer named there
        obtain ⟨bound, foreign⟩ := foreignImport?_eq_some_iff.mp there
        subst same
        exact ⟨⟨l.package, s, field, known,
          ⟨controller, declared, inside, embedded, pointer, named⟩, bound⟩, foreign⟩
      refine (linkField_ends follows progress.sound progress.distinct embedded asks).mono ?_
        fun _ faulty => faulty
      rintro ⟨found, numbers⟩ last ⟨outcome, more, linked, rfl⟩
      -- Packages and numbers are only added, so the outcomes of the fields before stand.
      refine ⟨?_, (parents.mono more.served.grown more.counted).concat linked⟩
      have last : [field].filterMap (crossing? l.key l.package s) =
          (crossing? l.key l.package s field).toList := by
        cases crossing : crossing? l.key l.package s field <;> simp [crossing]
      rw [List.filterMap_append, last, List.map_append]
      exact progress.trans more
    · rintro result after ⟨progress, parents⟩
      rw [filterMap_crossing?_embedded] at progress
      rw [crossingsOf, declared]
      exact ⟨progress, by simpa only [LinkedAs, declared] using parents⟩

def Paired (setting : Setting) (packages : List Scanned) (numbered : List String) (l : Linking)
    (entry : String × ControllerDecl) (pair : ControllerDecl × List Embedding) : Prop :=
  pair.1 = entry.2 ∧ entry.2.name = entry.1 ∧ LinkedAs setting packages numbered l entry.1 pair.2

theorem linkAll_ends (follows : Follows setting dir l.key rest follow twin)
    (sound : Sound setting dir (l.key :: rest) r)
    (known : packageOf? setting dir l.key = some l.package)
    (described : l.controllers = (collect l.package setting.markers l.active).1) :
    Ends (linkAll follow l) (linkAll twin l) r (fun result after =>
      Progress setting dir (l.key :: rest) r []
        ((l.controllers.keys.flatMap (crossingsOf l.key l.package)).map (Crossing.request l.active))
        (result.1.flatMap Prod.snd) after result.2 ∧
      List.Forall₂ (Paired setting after.packages result.2 l) l.controllers.entries result.1)
      (Faulty setting dir) := by
  unfold linkAll
  refine Ends.foldlM
    (fun done (result : List (ControllerDecl × List Embedding) × List String) after =>
      Progress setting dir (l.key :: rest) r []
        (((done.map Prod.fst).flatMap (crossingsOf l.key l.package)).map (Crossing.request l.active))
        (result.1.flatMap Prod.snd) after result.2 ∧
      List.Forall₂ (Paired setting after.packages result.2 l) done result.1)
    _ (by exact ⟨.refl sound List.Pairwise.nil, .nil⟩) ?_
  rintro done ⟨name, decl⟩ later ⟨found, numbered⟩ after split ⟨progress, each⟩
  have controller : isController l.package setting.markers name = true := by
    rw [← mem_keys_collect l.package setting.markers l.active, ← described, Dictionary.keys, split]
    simp
  refine (link_ends follows progress.sound progress.distinct known controller).bind ?_
  rintro ⟨embeddings, numbers⟩ last ⟨more, linked⟩
  have named : decl.name = name :=
    collect_name (by rw [← described, split]; simp)
  refine .pure ⟨?_, List.rel_append (.imp ?_ each) (.cons ⟨rfl, named, linked⟩ .nil)⟩
  · simpa only [List.map_append, List.map_cons, List.map_nil, List.flatMap_append,
      List.flatMap_singleton] using progress.trans more
  · rintro entry pair ⟨same, named, linked⟩
    exact ⟨same, named, linked.mono more.served.grown more.counted⟩

theorem finished_of_paired {earlier : List Scanned} {scanned : Scanned}
    {entries : List (String × ControllerDecl)} {linked : List (ControllerDecl × List Embedding)}
    (paired : List.Forall₂ (Paired setting earlier scanned.parentImports (linkingOf setting scanned))
      entries linked) :
    List.Forall₂ (Finished setting earlier scanned) entries
      (completed scanned.importPath earlier.length linked) := by
  rw [completed, List.forall₂_map_right_iff]
  refine paired.imp ?_
  rintro ⟨name, decl⟩ ⟨_, embeddings⟩ ⟨rfl, named, linked⟩
  simp only at named
  subst named
  exact ⟨embeddings, linked, rfl⟩

theorem Sound.begin (sound : Sound setting dir pending r)
    (fresh : key ∉ r.packages.map (·.importPath)) (packages : after.packages = r.packages)
    (same : after.pending = key :: r.pending) : Sound setting dir (key :: pending) after := by
  refine ⟨by rw [same, sound.stack], packages ▸ sound.arranged, ?_⟩
  intro other member
  rw [packages]
  rcases List.mem_cons.mp member with rfl | member
  · exact fresh
  · exact sound.unfinished other member

theorem Sound.finish (sound : Sound setting dir (key :: pending) after)
    (trail : Pending setting dir (key :: pending)) {scanned : Scanned}
    (complete : Complete setting dir after.packages scanned) (named : scanned.importPath = key) :
    Sound setting dir pending
      { after with
        pending := after.pending.filter (· ≠ key), packages := after.packages ++ [scanned] } := by
  have alone : key ∉ pending := (List.nodup_cons.mp trail.nodup).1
  have apart : ∀ other ∈ pending, other ≠ key := fun other member same => alone (same ▸ member)
  refine ⟨?_, sound.arranged.concat complete, ?_⟩
  · rw [sound.stack, List.filter_cons_of_neg (by simp), List.filter_eq_self]
    exact fun other member => decide_eq_true (apart other member)
  · intro other member
    rw [List.map_append, List.mem_append, List.map_singleton, List.mem_singleton, named]
    rintro (earlier | same)
    · exact sound.unfinished other (List.mem_cons_of_mem _ member) earlier
    · exact apart other member same

theorem keys_of_paired {packages : List Scanned} {entries : List (String × ControllerDecl)}
    {linked : List (ControllerDecl × List Embedding)}
    (paired : List.Forall₂ (Paired setting packages numbered l) entries linked) :
    linked.map (·.1.name) = entries.map Prod.fst := by
  induction paired with
  | nil => rfl
  | @cons entry pair _ _ first _ ih =>
    obtain ⟨same, named, -⟩ := first
    rw [List.map_cons, List.map_cons, ih, same, named]

theorem keys_completed (key : String) (index : Nat)
    (linked : List (ControllerDecl × List Embedding)) :
    (completed key index linked).map Prod.fst = linked.map (·.1.name) := by
  rw [completed, List.map_map]
  rfl

theorem scanNew_ends {other : Setting} {found : String} {active : List Route.Prefix}
    (alike : Alike setting other dir) (trail : Pending setting dir (key :: pending))
    (follows : Follows setting dir key pending follow twin) (sound : Sound setting dir pending r)
    (fresh : key ∉ r.packages.map (·.importPath)) (located : dirOf? setting dir key = some found) :
    Ends (scanNew setting follow key found active) (scanNew other twin key found active) r
      (fun index after => Sound setting dir pending after ∧
        ∃ earlier scanned, after.packages = earlier ++ [scanned] ∧ index = earlier.length ∧
          scanned.importPath = key ∧ scanned.prefixes = active ∧
          Serves setting r.packages scanned.requests earlier) (Faulty setting dir) := by
  have reached := trail.reached key (List.mem_cons_self ..)
  unfold scanNew
  rw [alike.packages key found reached located, alike.markers]
  refine .modifying ?_
  cases read : setting.disk.package found with
  | error cause =>
    have unknown : packageOf? setting dir key = none := by
      rw [packageOf?, located, Option.bind_some, read]
      rfl
    exact .throw (.inr ⟨key, cause, rfl, reached, unknown⟩)
  | ok package =>
    have known : packageOf? setting dir key = some package :=
      packageOf?_eq_some_iff.mpr ⟨found, located, read⟩
    cases described : collect package setting.markers active with
    | mk controllers report =>
      have began : Sound setting dir (key :: pending)
          { packages := r.packages, pending := key :: r.pending, report := r.report ++ report } :=
        sound.begin fresh rfl rfl
      dsimp only
      simp only [pure_bind, described]
      refine .warn ?_
      refine (linkAll_ends (l := ⟨key, package, active, controllers⟩) follows began known
        (by rw [described])).bind ?_
      rintro ⟨linked, numbered⟩ after ⟨progress, paired⟩
      have keys : (completed key after.packages.length linked).map Prod.fst = controllers.keys :=
        (keys_completed ..).trans (keys_of_paired paired)
      have sorted : ((completed key after.packages.length linked).map Prod.fst).Pairwise (· < ·) := by
        rw [keys]
        exact controllers.sorted
      have entries := Dictionary.entries_ofList sorted
      refine .get ?_
      refine .modifying (.pure ?_)
      have absent : key ∉ after.packages.map (·.importPath) :=
        progress.sound.unfinished key (List.mem_cons_self ..)
      refine ⟨progress.sound.finish trail ⟨absent, reached, located, read, progress.distinct, ?_, ?_⟩
        rfl, after.packages, _, rfl, rfl, rfl, rfl, ?_⟩
      · simp only [described, entries]
        refine finished_of_paired ?_
        simpa only [linkingOf, described] using paired
      · intro importPath member
        rcases progress.used importPath member with none | ⟨e, embedded, path⟩
        · cases none
        · obtain ⟨⟨decl, embeddings⟩, listed, inside⟩ := List.mem_flatMap.mp embedded
          rw [entries]
          refine ⟨decl.name, _, e.parent key after.packages.length,
            List.mem_map_of_mem listed, List.mem_map_of_mem inside, ?_⟩
          cases e with
          | own name => cases path
          | foreign id importPath name index =>
            cases path
            exact ⟨rfl, rfl⟩
      · have served := progress.served
        simpa only [Scanned.requests, Scanned.crossings, Dictionary.keys, entries, keys] using served

end Dispatchers.Resolve
