import Mathlib.Data.List.Perm.Subperm
import Mathlib.Logic.Relation

namespace Dispatchers.Resolve

open Relation

/-- A path of steps from `root`, the last place first, on which no place stands twice. -/
inductive Trail {α : Type} (next : α → α → Prop) (root : α) : List α → Prop
  | root : Trail next root [root]
  | step {place other : α} {rest : List α} (trail : Trail next root (place :: rest))
      (leads : next place other) (fresh : other ∉ place :: rest) :
      Trail next root (other :: place :: rest)

namespace Trail

variable {α : Type} {next : α → α → Prop} {root : α} {trail : List α}

theorem nodup (holds : Trail next root trail) : trail.Nodup := by
  induction holds with
  | root => exact List.pairwise_singleton _ _
  | step _ _ fresh ih => exact List.nodup_cons.mpr ⟨fresh, ih⟩

theorem root_mem (holds : Trail next root trail) : root ∈ trail := by
  induction holds with
  | root => exact List.mem_singleton_self _
  | step _ _ _ ih => exact List.mem_cons_of_mem _ ih

theorem reached (holds : Trail next root trail) : ∀ place ∈ trail, ReflTransGen next root place := by
  induction holds with
  | root =>
    intro place member
    rw [List.mem_singleton] at member
    exact member ▸ .refl
  | step _ leads _ ih =>
    intro place member
    rcases List.mem_cons.mp member with rfl | member
    · exact (ih _ (List.mem_cons_self ..)).tail leads
    · exact ih place member

theorem leads_to_last {place : α} {rest : List α} (holds : Trail next root (place :: rest)) :
    ∀ earlier ∈ place :: rest, ReflTransGen next earlier place := by
  intro earlier member
  generalize same : place :: rest = trail at holds member
  induction holds generalizing place rest with
  | root =>
    cases same
    rw [List.mem_singleton] at member
    exact member ▸ .refl
  | @step before other rest _ leads _ ih =>
    cases same
    rcases List.mem_cons.mp member with rfl | member
    · exact .refl
    · exact (ih rfl member).tail leads

theorem length_le (holds : Trail next root trail) {places : List α}
    (within : ∀ place, ReflTransGen next root place → place ∈ places) :
    trail.length ≤ places.length := by
  have subset : trail ⊆ places := fun place member => within place (holds.reached place member)
  exact (List.subperm_of_subset holds.nodup subset).length_le

end Trail

end Dispatchers.Resolve
