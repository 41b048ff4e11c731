import Dispatchers.Proofs.Resolve.Kinship
import Mathlib.Logic.Function.Iterate

namespace Dispatchers.Resolve

open Relation

section Yields

variable {α β : Type} {good : α → Prop} {bad : Fault → Prop}

def Yields (outcome twin : Except Fault α) (good : α → Prop) (bad : Fault → Prop) : Prop :=
  twin = outcome ∧ match outcome with
    | .ok a => good a
    | .error cause => bad cause

theorem Yields.bind {first first' : Except Fault β} {next next' : β → Except Fault α}
    {middle : β → Prop} (yields : Yields first first' middle bad)
    (rest : ∀ b, middle b → Yields (next b) (next' b) good bad) :
    Yields (first >>= next) (first' >>= next') good bad := by
  obtain ⟨rfl, holds⟩ := yields
  cases first' with
  | error cause => exact ⟨rfl, holds⟩
  | ok b => exact rest b holds

theorem Yields.mono {outcome twin : Except Fault α} {better : α → Prop} {worse : Fault → Prop}
    (yields : Yields outcome twin good bad) (improves : ∀ a, good a → better a)
    (worsens : ∀ cause, bad cause → worse cause) : Yields outcome twin better worse := by
  obtain ⟨rfl, holds⟩ := yields
  cases twin with
  | error cause => exact ⟨rfl, worsens cause holds⟩
  | ok a => exact ⟨rfl, improves a holds⟩

theorem Yields.foldlM (invariant : List α → β → Prop) {step step' : β → α → Except Fault β} {b : β}
    (items : List α) (start : invariant [] b)
    (next : ∀ done item rest b, items = done ++ item :: rest → invariant done b →
      Yields (step b item) (step' b item) (invariant (done ++ [item])) bad) :
    Yields (items.foldlM step b) (items.foldlM step' b) (invariant items) bad := by
  suffices ∀ rest done b, items = done ++ rest → invariant done b →
      Yields (rest.foldlM step b) (rest.foldlM step' b) (invariant items) bad from
    this items [] b rfl start
  intro rest
  induction rest with
  | nil =>
    intro done b split holds
    rw [List.append_nil] at split
    exact ⟨rfl, split ▸ holds⟩
  | cons item rest ih =>
    intro done b split holds
    rw [List.foldlM_cons, List.foldlM_cons]
    refine (next done item rest b split holds).bind fun b holds => ?_
    exact ih (done ++ [item]) b (by simp [split]) holds

end Yields

/-- The order in which ways up are listed: one that goes further comes first, and of two that part
the one that takes an earlier parent there. -/
inductive Before : List Nat → List Nat → Prop
  | further (k : Nat) (ks : List Nat) : Before (k :: ks) []
  | aside {j k : Nat} (js ks : List Nat) (less : j < k) : Before (j :: js) (k :: ks)
  | along {js ks : List Nat} (k : Nat) (before : Before js ks) : Before (k :: js) (k :: ks)

theorem not_before_append (ks more : List Nat) : ¬Before ks (ks ++ more) := by
  induction ks with
  | nil => exact nofun
  | cons k ks ih =>
    intro before
    cases before with
    | aside _ _ less => exact Nat.lt_irrefl k less
    | along _ before => exact ih before

theorem not_before_self (ks : List Nat) : ¬Before ks ks := by
  have apart := not_before_append ks []
  rwa [List.append_nil] at apart

def accessAlong (path : String) (parents : List Parent) : String :=
  parents.foldl (fun access parent => select access parent.name) path

def EndsAt (r : Resolution) (place : Place) (path : String) (ks : List Nat) (found : Ancestor) :
    Prop :=
  ∃ above last, r.path? place ks = some (above ++ [last]) ∧
    found = ⟨last, accessAlong path (above ++ [last])⟩

structure Listed (r : Resolution) (place : Place) (path : String) (count : Nat)
    (ways : List (List Nat)) (found : List Ancestor) : Prop where
  ordered : ways.Pairwise Before
  nonempty : [] ∉ ways
  complete : ∀ k ks, k :: ks ∈ ways ↔ k < count ∧ (r.path? place (k :: ks)).isSome = true
  ends : List.Forall₂ (EndsAt r place path) ways found

variable {r : Resolution} {place : Place} {path : String} {parent : Parent}

theorem Listed.none (r : Resolution) (place : Place) (path : String) :
    Listed r place path 0 [] [] := by
  refine ⟨List.Pairwise.nil, List.not_mem_nil, fun k ks => ?_, .nil⟩
  simp

theorem EndsAt.cons {k : Nat} {ks : List Nat} {found : Ancestor}
    (here : (r.parentsAt place)[k]? = some parent)
    (ends : EndsAt r parent.place (select path parent.name) ks found) :
    EndsAt r place path (k :: ks) found := by
  obtain ⟨above, last, known, rfl⟩ := ends
  refine ⟨parent :: above, last, ?_, rfl⟩
  rw [Resolution.path?_cons here, known]
  rfl

theorem EndsAt.single {k : Nat} (here : (r.parentsAt place)[k]? = some parent) :
    EndsAt r place path [k] ⟨parent, select path parent.name⟩ := by
  refine ⟨[], parent, ?_, rfl⟩
  rw [Resolution.path?_cons here]
  rfl

/-- One more parent adds the ways over it, and behind them the one that ends at the parent. -/
theorem Listed.concat {count : Nat} {ways above : List (List Nat)} {found ancestors : List Ancestor}
    (listed : Listed r place path count ways found)
    (here : (r.parentsAt place)[count]? = some parent)
    (upper : Listed r parent.place (select path parent.name) (r.parentsAt parent.place).length above
      ancestors) :
    Listed r place path (count + 1) (ways ++ above.map (count :: ·) ++ [[count]])
      (found ++ ancestors ++ [⟨parent, select path parent.name⟩]) := by
  have earlier : ∀ ks ∈ ways, ∀ rest, Before ks (count :: rest) := by
    intro ks member rest
    cases ks with
    | nil => exact absurd member listed.nonempty
    | cons k ks => exact .aside ks rest ((listed.complete k ks).mp member).1
  have above_of_path : ∀ ks, count :: ks ∈ above.map (count :: ·) ++ [[count]] ↔
      (r.path? place (count :: ks)).isSome = true := by
    intro ks
    rw [Resolution.path?_cons here, Option.isSome_map]
    cases ks with
    | nil => simp [Resolution.path?]
    | cons k ks =>
      have inside := upper.complete k ks
      simp only [List.mem_append, List.mem_map, List.cons.injEq, true_and, exists_eq_right,
        List.mem_singleton, reduceCtorEq, or_false, inside, and_iff_right_iff_imp]
      exact Resolution.path?_cons_isSome
  constructor
  case ordered =>
    rw [List.append_assoc, List.pairwise_append, List.pairwise_append]
    refine ⟨listed.ordered, ⟨upper.ordered.map _ fun _ _ => .along count,
      List.pairwise_singleton _ _, ?_⟩, ?_⟩
    · intro ks member last isLast
      obtain ⟨js, inside, rfl⟩ := List.mem_map.mp member
      rw [List.mem_singleton] at isLast
      subst isLast
      cases js with
      | nil => exact absurd inside upper.nonempty
      | cons j js => exact .along count (.further j js)
    · intro ks member other later
      rcases List.mem_append.mp later with inside | last
      · obtain ⟨js, _, rfl⟩ := List.mem_map.mp inside
        exact earlier ks member js
      · rw [List.mem_singleton] at last
        exact last ▸ earlier ks member []
  case nonempty =>
    simp [listed.nonempty]
  case complete =>
    intro k ks
    rw [List.append_assoc, List.mem_append, listed.complete]
    by_cases last : k = count
    · subst last
      rw [above_of_path]
      simp
    · have apart : k :: ks ∉ above.map (count :: ·) ++ [[count]] := by
        simp [Ne.symm last, last]
      have same : k < count + 1 ↔ k < count := by omega
      simp only [apart, or_false, same]
  case ends =>
    refine List.rel_append (List.rel_append listed.ends ?_) (.cons (.single here) .nil)
    rw [List.forall₂_map_left_iff]
    exact upper.ends.imp fun _ _ => .cons here

/-- Finds the ancestors of a place, given the selectors and the places that lead there. -/
abbrev Climb := Place → String → List Place → Except Fault (List Ancestor)

def climbParent (next : Climb) (path : String) (chain : List Place) (found : List Ancestor)
    (parent : Parent) : Except Fault (List Ancestor) :=
  if chain.contains parent.place then .error (.embeddingCycle (chain.map Prod.snd) parent.name)
  else do
    let access := select path parent.name
    let above ← next parent.place access (chain ++ [parent.place])
    return found ++ above ++ [⟨parent, access⟩]

def climbStep (r : Resolution) (next : Climb) : Climb := fun place path chain =>
  match r.controller? place.1 place.2 with
  | none => .error (.unknownController place.2)
  | some decl => decl.parents.foldlM (climbParent next path chain) []

theorem ancestorsWithin_succ (r : Resolution) (length : Nat) :
    r.ancestorsWithin (length + 1) = climbStep r (r.ancestorsWithin length) := by
  funext place path chain
  rfl

def AllListed (r : Resolution) (place : Place) (path : String) (found : List Ancestor) : Prop :=
  (∃ ways, Listed r place path (r.parentsAt place).length ways found) ∧ ¬r.CycleAbove place

def Circular (r : Resolution) (place : Place) (cause : Fault) : Prop :=
  (∃ names last, cause = .embeddingCycle names last) ∧ r.CycleAbove place

theorem climbParent_yields {start : Place} {rest : List Place} {next beyond : Climb} {count : Nat}
    {ways : List (List Nat)} {found : List Ancestor}
    (trail : Trail r.IsParent start (place :: rest))
    (here : (r.parentsAt place)[count]? = some parent)
    (listed : Listed r place path count ways found)
    (above : parent.place ∉ place :: rest →
      Yields (next parent.place (select path parent.name) (parent.place :: place :: rest).reverse)
        (beyond parent.place (select path parent.name) (parent.place :: place :: rest).reverse)
        (AllListed r parent.place (select path parent.name)) (Circular r parent.place)) :
    Yields (climbParent next path (place :: rest).reverse found parent)
      (climbParent beyond path (place :: rest).reverse found parent)
      (fun found => (∃ ways, Listed r place path (count + 1) ways found) ∧
        ¬r.CycleAbove parent.place) (Circular r place) := by
  have step : r.IsParent place parent.place := ⟨parent, List.mem_of_getElem? here, rfl⟩
  unfold climbParent
  by_cases repeated : parent.place ∈ place :: rest
  · have before : (place :: rest).reverse.contains parent.place = true :=
      List.contains_iff_mem.mpr (List.mem_reverse.mpr repeated)
    have back := trail.leads_to_last parent.place repeated
    simp only [before, if_true]
    exact ⟨rfl, ⟨_, _, rfl⟩, parent.place, .single step, .tail' back step⟩
  · have notBefore : (place :: rest).reverse.contains parent.place = false := by
      rw [← Bool.not_eq_true, List.contains_iff_mem, List.mem_reverse]
      exact repeated
    have further := above repeated
    rw [List.reverse_cons] at further
    simp only [notBefore, Bool.false_eq_true, if_false]
    refine (further.mono (fun _ holds => holds) ?_).bind ?_
    · rintro cause ⟨cycle, known⟩
      exact ⟨cycle, known.of_parent step⟩
    · rintro ancestors ⟨⟨more, upper⟩, free⟩
      exact ⟨rfl, ⟨ways ++ more.map (count :: ·) ++ [[count]], listed.concat here upper⟩, free⟩

/-- A bound that leaves room for a way up through all controllers is never used up: what would be
found beyond it plays no part. -/
theorem ancestorsWithin_yields (closed : r.Closed) {start : Place} (declared : r.declared start)
    (beyond : Climb) : ∀ (length : Nat) (place : Place) (path : String) (rest : List Place),
    Trail r.IsParent start (place :: rest) →
    r.controllerCount + 2 ≤ length + (place :: rest).length →
    Yields (r.ancestorsWithin length place path (place :: rest).reverse)
      ((climbStep r)^[length] beyond place path (place :: rest).reverse)
      (AllListed r place path) (Circular r place) := by
  intro length
  induction length with
  | zero =>
    intro place path rest trail enough
    have bound := closed.trail_length_le declared trail
    omega
  | succ length ih =>
    intro place path rest trail enough
    have reached := trail.reached place (List.mem_cons_self ..)
    obtain ⟨decl, known⟩ :=
      Option.isSome_iff_exists.mp (closed.declared_of_reached declared reached)
    have parents : r.parentsAt place = decl.parents := Resolution.parentsAt_of_controller? known
    rw [ancestorsWithin_succ, Function.iterate_succ_apply']
    simp only [climbStep, known]
    refine (Yields.foldlM (fun done found =>
      (∃ ways, Listed r place path done.length ways found) ∧
        ∀ parent ∈ done, ¬r.CycleAbove parent.place)
      decl.parents ⟨⟨[], .none r place path⟩, nofun⟩ ?_).mono ?_ fun _ faulty => faulty
    · rintro done parent later found split ⟨⟨ways, listed⟩, acyclic⟩
      have here : (r.parentsAt place)[done.length]? = some parent := by
        rw [parents, split, List.getElem?_append_right (Nat.le_refl _), Nat.sub_self]
        rfl
      refine (climbParent_yields trail here listed fun fresh => ?_).mono ?_ fun _ faulty => faulty
      · have step : r.IsParent place parent.place := ⟨parent, List.mem_of_getElem? here, rfl⟩
        refine ih parent.place (select path parent.name) (place :: rest) (trail.step step fresh) ?_
        rw [List.length_cons]
        omega
      · rintro found ⟨listed, free⟩
        refine ⟨by rwa [List.length_append, List.length_singleton], ?_⟩
        intro other member
        rcases List.mem_append.mp member with before | last
        · exact acyclic other before
        · rw [List.mem_singleton] at last
          exact last ▸ free
    · rintro found ⟨⟨ways, listed⟩, acyclic⟩
      -- A cycle above the place would be above one of its parents.
      refine ⟨⟨ways, parents ▸ listed⟩, fun cycle => ?_⟩
      obtain ⟨_, ⟨parent, member, rfl⟩, above⟩ := cycle.parent
      exact acyclic parent (parents ▸ member) above

theorem accessAlong_eq_intercalate {parents : List Parent} (started : path ≠ "") :
    accessAlong path parents = ".".intercalate (path :: parents.map (·.name)) := by
  induction parents generalizing path with
  | nil => exact String.intercalate_singleton.symm
  | cons parent parents ih =>
    have longer : select path parent.name = path ++ "." ++ parent.name := by
      simp [select, started]
    have still : path ++ "." ++ parent.name ≠ "" := by simp
    calc accessAlong path (parent :: parents)
        = accessAlong (path ++ "." ++ parent.name) parents := by rw [← longer]; rfl
      _ = ".".intercalate ((path ++ "." ++ parent.name) :: parents.map (·.name)) := ih still
      _ = path ++ "." ++ ".".intercalate (parent.name :: parents.map (·.name)) :=
        String.intercalate_cons_append
      _ = ".".intercalate (path :: parent.name :: parents.map (·.name)) :=
        String.intercalate_cons_cons.symm

theorem accessAlong_empty {parents : List Parent} (named : ∀ parent ∈ parents, parent.name ≠ "") :
    accessAlong "" parents = ".".intercalate (parents.map (·.name)) := by
  cases parents with
  | nil => rfl
  | cons parent parents => exact accessAlong_eq_intercalate (named parent (List.mem_cons_self ..))

theorem Resolution.Closed.named_of_path? (closed : r.Closed) {ks : List Nat} {parents : List Parent}
    (known : r.path? place ks = some parents) : ∀ parent ∈ parents, parent.name ≠ "" := by
  intro parent member
  obtain ⟨below, listed⟩ := Resolution.mem_parentsAt_of_path? known member
  exact closed.named below parent listed

structure PostOrder (r : Resolution) (place : Place) (ways : List (List Nat))
    (found : List Ancestor) : Prop where
  ordered : ways.Pairwise Before
  once : ways.Nodup
  complete : ∀ ks, ks ∈ ways ↔ ks ≠ [] ∧ (r.path? place ks).isSome = true
  ends : List.Forall₂ (fun ks ancestor => ∃ above last, r.path? place ks = some (above ++ [last]) ∧
    ancestor = ⟨last, ".".intercalate ((above ++ [last]).map (·.name))⟩) ways found
  ahead : ∀ (i j : Nat) (ks more : List Nat), ways[i]? = some ks → ways[j]? = some (ks ++ more) →
    more ≠ [] → j < i

theorem Listed.postOrder (closed : r.Closed) {ways : List (List Nat)} {found : List Ancestor}
    (listed : Listed r place "" (r.parentsAt place).length ways found) :
    PostOrder r place ways found := by
  constructor
  case ordered => exact listed.ordered
  case once =>
    refine listed.ordered.imp ?_
    rintro ks _ before rfl
    exact not_before_self ks before
  case complete =>
    intro ks
    cases ks with
    | nil => simp [listed.nonempty]
    | cons k ks =>
      rw [listed.complete, and_iff_right_of_imp Resolution.path?_cons_isSome]
      simp
  case ends =>
    refine listed.ends.imp ?_
    rintro ks ancestor ⟨above, last, known, rfl⟩
    refine ⟨above, last, known, ?_⟩
    rw [accessAlong_empty (closed.named_of_path? known)]
  case ahead =>
    intro i j ks more here there longer
    by_contra behind
    rcases Nat.eq_or_lt_of_le (Nat.le_of_not_lt behind) with rfl | before
    · rw [here] at there
      cases more with
      | nil => exact longer rfl
      | cons k more => simp at there
    · obtain ⟨bound, rfl⟩ := List.getElem?_eq_some_iff.mp here
      obtain ⟨limit, same⟩ := List.getElem?_eq_some_iff.mp there
      have ordered := List.pairwise_iff_getElem.mp listed.ordered i j bound limit before
      rw [same] at ordered
      exact not_before_append _ more ordered

theorem PostOrder.declared (closed : r.Closed) {ways : List (List Nat)} {found : List Ancestor}
    (order : PostOrder r place ways found) {ancestor : Ancestor} (member : ancestor ∈ found) :
    r.declared ancestor.parent.place := by
  obtain ⟨ks, -, above, last, known, rfl⟩ := exists_related order.ends.flip member
  obtain ⟨below, listed⟩ := Resolution.mem_parentsAt_of_path? known (List.mem_concat_self ..)
  exact closed.declared below last listed

theorem ancestors_outcome (closed : r.Closed) (declared : r.declared place) :
    (∃ ancestors ways, r.ancestors place.1 place.2 = .ok ancestors ∧
      PostOrder r place ways ancestors ∧ ¬r.CycleAbove place) ∨
    ∃ names last, r.ancestors place.1 place.2 = .error (.embeddingCycle names last) ∧
      r.CycleAbove place := by
  have yields := ancestorsWithin_yields closed declared (r.ancestorsWithin 0) (r.controllerCount + 1)
    place "" [] .root (Nat.le_refl _)
  obtain ⟨-, outcome⟩ := yields
  cases ran : r.ancestors place.1 place.2 with
  | ok ancestors =>
    have same : r.ancestorsWithin (r.controllerCount + 1) place "" [place].reverse =
        .ok ancestors := ran
    rw [same] at outcome
    obtain ⟨⟨ways, listed⟩, acyclic⟩ := outcome
    exact .inl ⟨ancestors, ways, rfl, listed.postOrder closed, acyclic⟩
  | error cause =>
    have same : r.ancestorsWithin (r.controllerCount + 1) place "" [place].reverse =
        .error cause := ran
    rw [same] at outcome
    obtain ⟨⟨names, last, rfl⟩, cycle⟩ := outcome
    exact .inr ⟨names, last, rfl, cycle⟩

end Dispatchers.Resolve
