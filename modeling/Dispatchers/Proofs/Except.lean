import Mathlib.Data.List.Forall2

namespace Dispatchers

theorem exists_related {α β : Type} {related : α → β → Prop} {as : List α} {bs : List β}
    (each : List.Forall₂ related as bs) {a : α} (member : a ∈ as) : ∃ b ∈ bs, related a b := by
  induction each with
  | nil => cases member
  | cons first _ ih =>
    rcases List.mem_cons.mp member with rfl | later
    · exact ⟨_, List.mem_cons_self .., first⟩
    · obtain ⟨b, listed, found⟩ := ih later
      exact ⟨b, List.mem_cons_of_mem _ listed, found⟩

variable {ε α β : Type} {m : Except ε α} {f : α → Except ε β} {cause : ε}

theorem bind_eq_ok_iff {b : β} : m >>= f = .ok b ↔ ∃ a, m = .ok a ∧ f a = .ok b := by
  cases m with
  | error cause =>
    constructor
    · nofun
    · rintro ⟨_, absent, _⟩
      cases absent
  | ok a =>
    constructor
    · exact fun ok => ⟨a, rfl, ok⟩
    · rintro ⟨_, same, ok⟩
      cases same
      exact ok

theorem bind_eq_error_iff :
    m >>= f = .error cause ↔ m = .error cause ∨ ∃ a, m = .ok a ∧ f a = .error cause := by
  cases m with
  | error other =>
    constructor
    · intro error
      cases error
      exact .inl rfl
    · rintro (same | ⟨_, absent, _⟩)
      · cases same
        rfl
      · cases absent
  | ok a =>
    constructor
    · exact fun error => .inr ⟨a, rfl, error⟩
    · rintro (absent | ⟨_, same, error⟩)
      · cases absent
      · cases same
        exact error

theorem forall₂_of_mapM {items : List α} {results : List β} (ok : items.mapM f = .ok results) :
    List.Forall₂ (fun item result => f item = .ok result) items results := by
  induction items generalizing results with
  | nil =>
    cases ok
    exact .nil
  | cons item items ih =>
    rw [List.mapM_cons, bind_eq_ok_iff] at ok
    obtain ⟨first, made, ok⟩ := ok
    obtain ⟨others, further, ok⟩ := bind_eq_ok_iff.mp ok
    cases ok
    exact .cons made (ih further)

theorem mem_of_mapM {items : List α} {results : List β} (ok : items.mapM f = .ok results) {b : β} :
    b ∈ results ↔ ∃ a ∈ items, f a = .ok b := by
  have each := forall₂_of_mapM ok
  constructor
  · exact fun member => exists_related each.flip member
  · rintro ⟨a, member, made⟩
    obtain ⟨_, listed, same⟩ := exists_related each member
    rw [made] at same
    cases same
    exact listed

theorem exists_of_mapM {items : List α} (error : items.mapM f = .error cause) :
    ∃ item ∈ items, f item = .error cause := by
  induction items with
  | nil => cases error
  | cons item items ih =>
    rw [List.mapM_cons, bind_eq_error_iff] at error
    rcases error with first | ⟨_, _, error⟩
    · exact ⟨item, List.mem_cons_self .., first⟩
    rcases bind_eq_error_iff.mp error with later | ⟨_, _, absent⟩
    · obtain ⟨other, member, failed⟩ := ih later
      exact ⟨other, List.mem_cons_of_mem _ member, failed⟩
    · cases absent

end Dispatchers
