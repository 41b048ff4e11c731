import Dispatchers.Proofs.Resolve.Scanning
import Mathlib.Logic.Function.Iterate

namespace Dispatchers.Resolve

open Controller Go Relation

variable {setting other : Setting} {dir key found importPath : String} {pending rest : List String}
  {r : Resolver} {follow twin : Follow} {active : List Route.Prefix}

theorem scan_ends (alike : Alike setting other dir) (trail : Pending setting dir (key :: pending))
    (follows : Follows setting dir key pending follow twin) (sound : Sound setting dir pending r)
    (fresh : key ∉ r.packages.map (·.importPath)) (located : dirOf? setting dir key = some found) :
    Ends (scan setting follow key found active) (scan other twin key found active) r
      (fun index after => Sound setting dir pending after ∧
        ∃ earlier scanned, after.packages = earlier ++ [scanned] ∧ index = earlier.length ∧
          scanned.importPath = key ∧ scanned.prefixes = active ∧
          Serves setting r.packages scanned.requests earlier) (Faulty setting dir) := by
  have absent : r.index? key = none := placeOf?_eq_none_iff.mpr fresh
  have alone : r.pending.contains key = false := by
    rw [sound.stack]
    simpa using (List.nodup_cons.mp trail.nodup).1
  unfold scan
  refine .get ?_
  simp only [absent, alone, Bool.false_eq_true, if_false]
  exact scanNew_ends alike trail follows sound fresh located

/-- Reaching a package whose scan has not ended is a fault. -/
theorem scan_pending_ends {good : Nat → Resolver → Prop} (trail : Pending setting dir (key :: rest))
    (sound : Sound setting dir (key :: rest) r) (imports : Imports setting dir key importPath)
    (begun : importPath ∈ key :: rest) :
    Ends (scan setting follow importPath found active) (scan other twin importPath found active) r
      good (Faulty setting dir) := by
  have absent : r.index? importPath = none :=
    placeOf?_eq_none_iff.mpr (sound.unfinished importPath begun)
  have here : r.pending.contains importPath = true := by
    rw [sound.stack]
    simpa using begun
  have cyclic : Cyclic setting dir :=
    ⟨importPath, trail.reached importPath begun, .tail' (trail.leads_to_last importPath begun) imports⟩
  unfold scan
  refine .get ?_
  simp only [absent, here, if_true]
  exact .throw (.inl ⟨importPath, rfl, cyclic⟩)

/-- How one more import is followed, where `next` follows those behind it. -/
def followStep (setting : Setting) (next : Follow) : Follow := fun importPath active => do
  match (← get).index? importPath with
  | some index => return some index
  | none =>
    match setting.locator.dirFor? setting.disk importPath with
    | none => return none
    | some dir => some <$> scan setting next importPath dir active

theorem followWithin_succ (setting : Setting) (length : Nat) :
    followWithin setting (length + 1) = followStep setting (followWithin setting length) :=
  rfl

/-- A bound that leaves room for a path through all import paths is never used up: what would follow
imports beyond it plays no part. -/
theorem followWithin_follows (alike : Alike setting other dir) (beyond : Follow) :
    ∀ (length : Nat) (key : String) (rest : List String),
    Pending setting dir (key :: rest) →
    setting.disk.importPaths.length + 2 ≤ length + (key :: rest).length →
    Follows setting dir key rest (followWithin setting length)
      ((followStep other)^[length] beyond) := by
  intro length
  induction length with
  | zero =>
    intro key rest trail enough
    have bound := Pending.length_le trail
    omega
  | succ length ih =>
    intro key rest trail enough r importPath active sound asks
    have reached := trail.reached key (List.mem_cons_self ..)
    rw [followWithin_succ, Function.iterate_succ_apply']
    unfold followStep
    rw [alike.dirs key importPath reached asks]
    refine .get ?_
    cases placed : r.index? importPath with
    | some index =>
      obtain ⟨Q, found, rfl⟩ := getElem?_of_placeOf? placed
      have listed : Q.importPath ∈ r.packages.map (·.importPath) :=
        List.mem_map_of_mem (List.mem_of_getElem? found)
      -- The first package is still being scanned, so this one was found by the locator.
      have apart : Q.importPath ≠ keyOf setting dir := fun same =>
        sound.unfinished _ trail.root_mem (same ▸ listed)
      exact .pure ⟨sound, .known listed (.done _), (sound.arranged.reached listed).located apart,
        placed⟩
    | none =>
      cases located : setting.locator.dirFor? setting.disk importPath with
      | none => exact .pure ⟨sound, .unlocated located (.done _), rfl⟩
      | some found =>
        have edge := asks.imports (by rw [located]; rfl)
        refine .map ?_
        by_cases begun : importPath ∈ key :: rest
        · exact scan_pending_ends trail sound edge begun
        · have longer : Pending setting dir (importPath :: key :: rest) := trail.step edge begun
          have room : setting.disk.importPaths.length + 2 ≤
              length + (importPath :: key :: rest).length := by
            rw [List.length_cons]
            omega
          have apart : importPath ≠ keyOf setting dir := fun same => begun (same ▸ trail.root_mem)
          refine (scan_ends alike longer (ih _ _ longer room) sound (placeOf?_eq_none_iff.mp placed)
            (dirOf?_of_located located apart)).mono ?_ fun _ faulty => faulty
          rintro index after ⟨sound, earlier, scanned, last, rfl, rfl, rfl, served⟩
          have fresh := placeOf?_eq_none_iff.mp placed
          refine ⟨sound, ?_, rfl, placeOf?_of_getElem? sound.arranged.distinct ?_⟩
          · rw [last]
            exact .scanned fresh (by rw [located]; rfl) served (.done _)
          · rw [last, List.getElem?_concat_length]

structure Explored (setting : Setting) (dir : String) (active : List Route.Prefix)
    (r : Resolution) : Prop where
  arranged : Arranged setting dir r.packages
  rootLast : r.root + 1 = r.packages.length
  rooted : ∃ scanned, r.packages[r.root]? = some scanned ∧
    scanned.importPath = keyOf setting dir ∧ scanned.prefixes = active
  served : ∃ earlier scanned, r.packages = earlier ++ [scanned] ∧
    scanned.importPath = keyOf setting dir ∧ Serves setting [] scanned.requests earlier

theorem scanDirectory_alike (alike : Alike setting other dir) (active : List Route.Prefix)
    (beyond : Follow) :
    Ends (scanDirectory setting dir active)
      (scan other ((followStep other)^[setting.disk.importPaths.length + 2] beyond)
        (keyOf setting dir) dir active) .start
      (fun root after => ∀ report, Explored setting dir active ⟨after.packages, root, report⟩)
      (Faulty setting dir) := by
  have sound : Sound setting dir [] .start := ⟨rfl, .nil, fun _ member => nomatch member⟩
  have follows : Follows setting dir (keyOf setting dir) [] (follow setting)
      ((followStep other)^[setting.disk.importPaths.length + 2] beyond) :=
    followWithin_follows alike beyond _ _ _ .root (by simp)
  have located : dirOf? setting dir (keyOf setting dir) = some dir := if_pos rfl
  refine (scan_ends alike .root follows sound List.not_mem_nil located).mono ?_ fun _ faulty => faulty
  rintro root after ⟨sound, earlier, scanned, last, rfl, named, active, served⟩ report
  refine ⟨sound.arranged, by simp [last], ⟨scanned, ?_, named, active⟩, earlier, scanned, last, named,
    served⟩
  simp only [last]
  exact List.getElem?_concat_length

theorem scanDirectory_ends (setting : Setting) (dir : String) (active : List Route.Prefix)
    (beyond : Follow) :
    Ends (scanDirectory setting dir active)
      (scan setting ((followStep setting)^[setting.disk.importPaths.length + 2] beyond)
        (keyOf setting dir) dir active) .start
      (fun root after => ∀ report, Explored setting dir active ⟨after.packages, root, report⟩)
      (Faulty setting dir) :=
  scanDirectory_alike (.refl setting dir) active beyond

/-- A scan of a disk that is alike finds the same, although it may follow more or fewer imports. -/
theorem resolve_alike (alike : Alike setting other dir) (active : List Route.Prefix) :
    resolve other dir active = resolve setting dir active := by
  have own := (scanDirectory_ends other dir active
    ((followStep other)^[setting.disk.importPaths.length + 2] (follow other))).1
  have twin := (scanDirectory_alike alike active
    ((followStep other)^[other.disk.importPaths.length + 2] (follow other))).1
  rw [alike.key, ← Function.iterate_add_apply, Nat.add_comm, Function.iterate_add_apply, twin] at own
  unfold resolve
  rw [← own]

theorem explored_of_resolve {r : Resolution} (ok : resolve setting dir active = .ok r) :
    Explored setting dir active r := by
  obtain ⟨-, ends⟩ := scanDirectory_ends setting dir active (follow setting)
  unfold resolve at ok
  rcases ran : scanDirectory setting dir active .start with ⟨cause | root, after⟩
  · rw [ran] at ok
    cases ok
  · rw [ran] at ok ends
    cases ok
    exact ends _

theorem faulty_of_resolve {cause : Fault} (error : resolve setting dir active = .error cause) :
    Faulty setting dir cause := by
  obtain ⟨-, ends⟩ := scanDirectory_ends setting dir active (follow setting)
  unfold resolve at error
  rcases ran : scanDirectory setting dir active .start with ⟨cause | root, after⟩
  · rw [ran] at error ends
    cases error
    exact ends
  · rw [ran] at error
    cases error

namespace Explored

variable {r : Resolution}

theorem root_mem (explored : Explored setting dir active r) :
    keyOf setting dir ∈ r.packages.map (·.importPath) := by
  obtain ⟨scanned, found, named, -⟩ := explored.rooted
  exact List.mem_map.mpr ⟨scanned, List.mem_of_getElem? found, named⟩

theorem mem_keys_iff (explored : Explored setting dir active r) {key : String} :
    key ∈ r.packages.map (·.importPath) ↔ Reached setting dir key := by
  refine ⟨explored.arranged.reached, Reached.mem_of_closed explored.root_mem ?_⟩
  intro key member other imports
  obtain ⟨scanned, listed, rfl⟩ := List.mem_map.mp member
  obtain ⟨i, found⟩ := List.getElem?_of_mem listed
  have earlier := (explored.arranged.complete found).closed imports
  exact List.map_subset _ (List.take_subset i r.packages) earlier

end Explored

theorem acyclic_of_resolve {r : Resolution} (ok : resolve setting dir active = .ok r) :
    ¬Cyclic setting dir := by
  rintro ⟨key, reached, cycle⟩
  have explored := explored_of_resolve ok
  exact explored.arranged.acyclic (explored.mem_keys_iff.mpr reached) cycle

section Readable

variable (readable : ∀ key, Reached setting dir key → ∃ p, packageOf? setting dir key = some p)

include readable

theorem cycle_of_resolve {cause : Fault} (error : resolve setting dir active = .error cause) :
    ∃ key, cause = .importCycle key ∧ Cyclic setting dir := by
  rcases faulty_of_resolve error with cycle | ⟨key, _, _, reached, unreadable⟩
  · exact cycle
  · obtain ⟨p, known⟩ := readable key reached
    rw [unreadable] at known
    cases known

theorem exists_resolve_of_acyclic (acyclic : ¬Cyclic setting dir) :
    ∃ r, resolve setting dir active = .ok r := by
  cases outcome : resolve setting dir active with
  | ok r => exact ⟨r, rfl⟩
  | error cause =>
    obtain ⟨_, _, cyclic⟩ := cycle_of_resolve readable outcome
    exact absurd cyclic acyclic

end Readable

section Alone

variable (alone : ∀ other, ¬Imports setting dir (keyOf setting dir) other)

include alone

theorem eq_of_reached_alone {key : String} (reached : Reached setting dir key) :
    key = keyOf setting dir := by
  refine List.mem_singleton.mp (reached.mem_of_closed (List.mem_singleton_self _) ?_)
  intro key member other imports
  rw [List.mem_singleton.mp member] at imports
  exact absurd imports (alone other)

theorem exists_resolve_of_alone {p : Go.Package}
    (known : packageOf? setting dir (keyOf setting dir) = some p) :
    ∃ r, resolve setting dir active = .ok r := by
  refine exists_resolve_of_acyclic (fun key reached => ?_) ?_
  · rw [eq_of_reached_alone alone reached]
    exact ⟨p, known⟩
  · rintro ⟨key, reached, cycle⟩
    rw [eq_of_reached_alone alone reached] at cycle
    obtain ⟨next, first, -⟩ := Relation.TransGen.head'_iff.mp cycle
    exact alone next first

theorem Explored.packages_of_alone {r : Resolution} (explored : Explored setting dir active r) :
    ∃ P, r.packages = [P] ∧ r.root = 0 ∧ Complete setting dir [] P := by
  have keys : ∀ key ∈ r.packages.map (·.importPath), key = keyOf setting dir :=
    fun key member => eq_of_reached_alone alone (explored.mem_keys_iff.mp member)
  have last := explored.rootLast
  have distinct := explored.arranged.distinct
  rcases listed : r.packages with _ | ⟨P, _ | ⟨Q, rest⟩⟩
  · rw [listed] at last
    cases last
  · rw [listed] at last
    exact ⟨P, rfl, Nat.succ.inj last, explored.arranged.complete (i := 0) (by rw [listed]; rfl)⟩
  · rw [listed] at keys distinct
    have same : P.importPath = Q.importPath :=
      (keys _ (by simp)).trans (keys _ (by simp)).symm
    simp [same] at distinct

end Alone

end Dispatchers.Resolve
