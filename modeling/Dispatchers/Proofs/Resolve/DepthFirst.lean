import Dispatchers.Proofs.Resolve.Outcome
import Mathlib.Data.List.Nodup

namespace Dispatchers.Resolve

open Controller Go Relation

/-- From one package the crossings with these numbers, taken in turn, lead to another. In
lexicographic order a way comes behind its beginnings and behind all that goes on from an earlier
crossing, as a depth-first search meets them. -/
inductive Way (setting : Setting) (packages : List Scanned) : String → List Nat → String → Prop
  | stay (key : String) : Way setting packages key [] key
  | cross {P : Scanned} {c : Crossing} {k : Nat} {ks : List Nat} {last : String}
      (member : P ∈ packages) (taken : P.crossings[k]? = some c)
      (located : (setting.locator.dirFor? setting.disk c.importPath).isSome = true)
      (further : Way setting packages c.importPath ks last) :
      Way setting packages P.importPath (k :: ks) last

/-- Of all crossings that lead from `start` to `Q`, a depth-first search meets `c` first, which is
one of `P`. -/
def FirstCrossing (setting : Setting) (packages : List Scanned) (start : String) (P : Scanned)
    (c : Crossing) (Q : Scanned) : Prop :=
  ∃ ks k, Way setting packages start ks P.importPath ∧ P.crossings[k]? = some c ∧
    c.importPath = Q.importPath ∧
    ∀ js, Way setting packages start js Q.importPath → ¬js < ks ++ [k]

def Inherits (setting : Setting) (packages : List Scanned) (start : String) (Q : Scanned) : Prop :=
  ∃ P ∈ packages, ∃ c, FirstCrossing setting packages start P c Q ∧
    Q.prefixes = c.prefixes P.prefixes

section Numbers

variable {js ks : List Nat} {k : Nat}

theorem lt_concat_zero (before : js < ks ++ [0]) : js < ks ∨ js = ks := by
  induction ks generalizing js with
  | nil =>
    cases js with
    | nil => exact .inr rfl
    | cons j js =>
      rcases List.cons_lt_cons_iff.mp before with less | ⟨_, less⟩
      · exact absurd less (Nat.not_lt_zero j)
      · exact absurd less (List.not_lt_nil js)
  | cons k ks ih =>
    cases js with
    | nil => exact .inl (List.nil_lt_cons k ks)
    | cons j js =>
      rcases List.cons_lt_cons_iff.mp before with less | ⟨rfl, less⟩
      · exact .inl (List.cons_lt_cons_iff.mpr (.inl less))
      · rcases ih less with earlier | rfl
        · exact .inl (List.cons_lt_cons_iff.mpr (.inr ⟨rfl, earlier⟩))
        · exact .inr rfl

theorem lt_concat_succ (before : js < ks ++ [k + 1]) :
    js < ks ++ [k] ∨ ∃ more, js = ks ++ k :: more := by
  induction ks generalizing js with
  | nil =>
    cases js with
    | nil => exact .inl (List.nil_lt_cons k [])
    | cons j js =>
      rcases List.cons_lt_cons_iff.mp before with less | ⟨_, less⟩
      · rcases Nat.lt_succ_iff_lt_or_eq.mp less with earlier | rfl
        · exact .inl (List.cons_lt_cons_iff.mpr (.inl earlier))
        · exact .inr ⟨js, rfl⟩
      · exact absurd less (List.not_lt_nil js)
  | cons i ks ih =>
    cases js with
    | nil => exact .inl (List.nil_lt_cons i (ks ++ [k]))
    | cons j js =>
      rcases List.cons_lt_cons_iff.mp before with less | ⟨rfl, less⟩
      · exact .inl (List.cons_lt_cons_iff.mpr (.inl less))
      · rcases ih less with earlier | ⟨more, rfl⟩
        · exact .inl (List.cons_lt_cons_iff.mpr (.inr ⟨rfl, earlier⟩))
        · exact .inr ⟨more, rfl⟩

end Numbers

variable {setting : Setting} {dir : String} {packages front after : List Scanned} {P Q : Scanned}
  {c : Crossing} {start key last : String} {k : Nat} {js ks : List Nat} {requests : List Request}

theorem Way.concat (way : Way setting packages key ks P.importPath) (member : P ∈ packages)
    (taken : P.crossings[k]? = some c)
    (located : (setting.locator.dirFor? setting.disk c.importPath).isSome = true) :
    Way setting packages key (ks ++ [k]) c.importPath := by
  generalize same : P.importPath = last at way
  induction way with
  | stay key => exact same ▸ .cross member taken located (.stay _)
  | cross listed first reached _ ih => exact .cross listed first reached (ih same)

theorem Way.split {more : List Nat} (way : Way setting packages key (ks ++ more) last) :
    ∃ middle, Way setting packages key ks middle ∧ Way setting packages middle more last := by
  induction ks generalizing key with
  | nil => exact ⟨key, .stay key, way⟩
  | cons k ks ih =>
    cases way with
    | cross member taken located further =>
      obtain ⟨middle, one, other⟩ := ih further
      exact ⟨middle, .cross member taken located one, other⟩

theorem eq_of_importPath (distinct : (packages.map (·.importPath)).Nodup) (one : P ∈ packages)
    (other : Q ∈ packages) (same : P.importPath = Q.importPath) : P = Q :=
  List.inj_on_of_nodup_map distinct one other same

theorem Way.unique (distinct : (packages.map (·.importPath)).Nodup) {other : String}
    (way : Way setting packages key ks last) (twin : Way setting packages key ks other) :
    last = other := by
  induction way with
  | stay key =>
    cases twin
    rfl
  | @cross P c k ks last member taken located further ih =>
    generalize same : P.importPath = key at twin
    cases twin with
    | @cross Q d _ _ _ listed found _ rest =>
      obtain rfl := eq_of_importPath distinct member listed same
      rw [taken] at found
      cases found
      exact ih rest

theorem Arranged.imports_of_crossing (arranged : Arranged setting dir packages)
    (member : P ∈ packages) (taken : c ∈ P.crossings)
    (located : (setting.locator.dirFor? setting.disk c.importPath).isSome = true) :
    Imports setting dir P.importPath c.importPath := by
  obtain ⟨i, here⟩ := List.getElem?_of_mem member
  have complete := arranged.complete here
  obtain ⟨name, listed, inside⟩ := List.mem_flatMap.mp taken
  rw [← Dictionary.contains_iff, complete.controllers_contains] at listed
  unfold crossingsOf at inside
  cases declared : P.package.findStruct? name with
  | none => simp [declared] at inside
  | some s =>
    rw [declared] at inside
    obtain ⟨field, owned, crosses⟩ := List.mem_filterMap.mp inside
    obtain ⟨embedded, pointer, named, bound, foreign, -, -⟩ := crossing?_eq_some_iff.mp crosses
    have same : s.name = name := by simpa using List.find?_some declared
    subst same
    exact ⟨⟨located, P.package, s, field, complete.packageOf?,
      ⟨listed, declared, owned, embedded, pointer, named⟩, bound⟩, foreign⟩

theorem Arranged.way_closed (arranged : Arranged setting dir packages) (grown : front <+: packages)
    (way : Way setting packages key ks last) (inside : key ∈ front.map (·.importPath)) :
    last ∈ front.map (·.importPath) := by
  induction way with
  | stay key => exact inside
  | @cross P c k ks last member taken located _ ih =>
    -- a package is put behind all that it imports
    refine ih ?_
    have imports := arranged.imports_of_crossing member (List.mem_of_getElem? taken) located
    obtain ⟨Q, listed, same⟩ := List.mem_map.mp inside
    obtain rfl := eq_of_importPath arranged.distinct (grown.subset listed) member same
    obtain ⟨i, here⟩ := List.getElem?_of_mem listed
    have complete := arranged.complete (getElem?_grown grown here)
    have short : packages.take i <+: front := by
      obtain ⟨bound, -⟩ := List.getElem?_eq_some_iff.mp here
      refine List.prefix_of_prefix_length_le (List.take_prefix i packages) grown ?_
      rw [List.length_take]
      omega
    exact List.map_subset _ short.subset (complete.closed imports)

theorem Way.beyond {more : List Nat} (distinct : (packages.map (·.importPath)).Nodup)
    (way : Way setting packages key (ks ++ k :: more) last)
    (here : Way setting packages key ks P.importPath) (member : P ∈ packages)
    (taken : P.crossings[k]? = some c) :
    (setting.locator.dirFor? setting.disk c.importPath).isSome = true ∧
      Way setting packages c.importPath more last := by
  obtain ⟨middle, first, behind⟩ := way.split
  have same := here.unique distinct first
  cases behind with
  | @cross R d _ _ _ listed found located further =>
    obtain rfl := eq_of_importPath distinct member listed same
    rw [taken] at found
    cases found
    exact ⟨located, further⟩

theorem exists_crossing {head : Request} {rest : List Request}
    (asked : head :: rest = (P.crossings.drop k).map (Crossing.request P.prefixes)) :
    ∃ c, P.crossings[k]? = some c ∧ head = c.request P.prefixes ∧
      rest = (P.crossings.drop (k + 1)).map (Crossing.request P.prefixes) := by
  cases found : P.crossings[k]? with
  | none =>
    rw [List.drop_eq_nil_of_le (List.getElem?_eq_none_iff.mp found)] at asked
    cases asked
  | some c =>
    obtain ⟨bound, here⟩ := List.getElem?_eq_some_iff.mp found
    rw [List.drop_eq_getElem_cons bound, here, List.map_cons] at asked
    obtain ⟨first, others⟩ := List.cons.inj asked
    exact ⟨c, rfl, first, others⟩

/-- Whatever way comes before the crossing numbered `k` behind `ks` ends in a package that is done
or in one that is still being scanned. -/
def DoneBefore (setting : Setting) (dir : String) (packages front : List Scanned) (start : String)
    (P : Scanned) (ks : List Nat) (k : Nat) : Prop :=
  ∀ js key, Way setting packages start js key → js < ks ++ [k] →
    key ∈ front.map (·.importPath) ∨ ReflTransGen (Imports setting dir) key P.importPath

/-- While the crossings of a package from the one numbered `k` on are served, each package that is
scanned was never met before. -/
theorem Serves.inherits (serves : Serves setting front requests after)
    (arranged : Arranged setting dir packages) (grown : after <+: packages)
    {P : Scanned} {ks : List Nat} {k : Nat} (member : P ∈ packages)
    (way : Way setting packages start ks P.importPath)
    (asked : requests = (P.crossings.drop k).map (Crossing.request P.prefixes))
    (before : DoneBefore setting dir packages front start P ks k) :
    ∀ Q ∈ after, Q ∉ front → Inherits setting packages start Q := by
  -- `DoneBefore` carries the induction: it moves to the next crossing, and into the package behind
  -- this one
  induction serves generalizing P ks k with
  | done => exact fun Q inside outside => absurd inside outside
  | @known front after key active rest listed further ih =>
    obtain ⟨c, taken, same, others⟩ := exists_crossing asked
    obtain ⟨rfl, rfl⟩ := Prod.mk.inj same
    refine ih grown member way others fun js key reached less => ?_
    rcases lt_concat_succ less with less | ⟨more, rfl⟩
    · exact before js key reached less
    · obtain ⟨-, behind⟩ := reached.beyond arranged.distinct way member taken
      exact .inl (arranged.way_closed (further.grown.trans grown) behind listed)
  | @unlocated front after key active rest nowhere further ih =>
    obtain ⟨c, taken, same, others⟩ := exists_crossing asked
    obtain ⟨rfl, rfl⟩ := Prod.mk.inj same
    refine ih grown member way others fun js key reached less => ?_
    rcases lt_concat_succ less with less | ⟨more, rfl⟩
    · exact before js key reached less
    · obtain ⟨located, -⟩ := reached.beyond arranged.distinct way member taken
      change setting.locator.dirFor? setting.disk c.importPath = none at nowhere
      rw [nowhere] at located
      cases located
  | @scanned front below after Q rest fresh located inside further insideIH furtherIH =>
    obtain ⟨c, taken, same, others⟩ := exists_crossing asked
    obtain ⟨named, inherited⟩ := Prod.mk.inj same
    change Q.importPath = c.importPath at named
    have upTo : below ++ [Q] <+: packages := further.grown.trans grown
    have listed : Q ∈ packages := upTo.subset List.mem_concat_self
    have found : (setting.locator.dirFor? setting.disk c.importPath).isSome = true := named ▸ located
    have imports : Imports setting dir P.importPath Q.importPath :=
      named ▸ arranged.imports_of_crossing member (List.mem_of_getElem? taken) found
    have there : Way setting packages start (ks ++ [k]) Q.importPath :=
      named ▸ way.concat member taken found
    have first : Inherits setting packages start Q := by
      refine ⟨P, member, c, ⟨ks, k, way, taken, named.symm, fun js reached less => ?_⟩, inherited⟩
      -- an earlier way to `Q` would end in a package that is done or would close a cycle
      rcases before js Q.importPath reached less with done | pending
      · exact fresh done
      · exact arranged.acyclic (List.mem_map_of_mem member) (.head' imports pending)
    have within : DoneBefore setting dir packages front start Q (ks ++ [k]) 0 := by
      intro js key reached less
      rcases lt_concat_zero less with less | rfl
      · rcases before js key reached less with done | pending
        · exact .inl done
        · exact .inr (pending.tail imports)
      · exact .inr (there.unique arranged.distinct reached ▸ .refl)
    have onward : DoneBefore setting dir packages (below ++ [Q]) start P ks (k + 1) := by
      intro js key reached less
      rcases lt_concat_succ less with less | ⟨more, rfl⟩
      · rcases before js key reached less with done | pending
        · have kept := inside.grown.trans (List.prefix_append below [Q])
          exact .inl (List.map_subset _ kept.subset done)
        · exact .inr pending
      · obtain ⟨-, behind⟩ := reached.beyond arranged.distinct way member taken
        refine .inl (arranged.way_closed upTo (named ▸ behind) ?_)
        exact List.mem_map_of_mem List.mem_concat_self
    intro R scanned outside
    by_cases early : R ∈ below ++ [Q]
    · rcases List.mem_append.mp early with deeper | last
      · have short := (List.prefix_append below [Q]).trans upTo
        exact insideIH short listed there rfl within R deeper outside
      · rw [List.mem_singleton] at last
        exact last ▸ first
    · exact furtherIH grown member way others onward R scanned early

namespace Explored

variable {r : Resolution} {active : List Route.Prefix}

theorem inherits (explored : Explored setting dir active r) {Q : Scanned} (member : Q ∈ r.packages)
    (apart : Q.importPath ≠ keyOf setting dir) :
    Inherits setting r.packages (keyOf setting dir) Q := by
  obtain ⟨earlier, root, all, named, serves⟩ := explored.served
  have listed : root ∈ r.packages := by
    rw [all]
    exact List.mem_concat_self
  have inside : Q ∈ earlier := by
    rw [all] at member
    rcases List.mem_append.mp member with early | last
    · exact early
    · rw [List.mem_singleton] at last
      exact absurd (last ▸ named) apart
  have grown : earlier <+: r.packages := all ▸ List.prefix_append earlier [root]
  have here : Way setting r.packages (keyOf setting dir) [] root.importPath := named ▸ .stay _
  have first : DoneBefore setting dir r.packages [] (keyOf setting dir) root [] 0 := by
    intro js key reached less
    rcases lt_concat_zero less with less | rfl
    · exact absurd less (List.not_lt_nil js)
    · exact .inr (here.unique explored.arranged.distinct reached ▸ .refl)
  exact serves.inherits explored.arranged grown listed here rfl first Q inside List.not_mem_nil

end Explored

end Dispatchers.Resolve
