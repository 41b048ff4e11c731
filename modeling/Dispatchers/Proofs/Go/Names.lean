import Dispatchers.Go.Source
import Dispatchers.Proofs.Reader
import Dispatchers.Proofs.Text.SnakeCase

namespace Dispatchers.Go

open Reader TokenReader Source Grammar

theorem Token.isIdentifier_of_isName {text : String} (named : Token.isName text = true) :
    Text.IsIdentifier text := by
  unfold isName at named
  split at named
  · cases named
  · rename_i first rest spelled
    simp only [isNameStart, isNameChar, Bool.and_eq_true, Bool.or_eq_true, beq_iff_eq,
      List.all_eq_true] at named
    refine ⟨first, rest, spelled, named.1, fun c member => ?_⟩
    rcases named.2 c member with (letter | underscore) | digit
    · exact .inl letter
    · exact .inr (.inr underscore)
    · exact .inr (.inl digit)

theorem TokenReader.yields_name : Yields name Text.IsIdentifier := by
  refine .bind_any fun t => ?_
  intro input text rest read
  obtain ⟨_, _, guarded, made⟩ := bind_eq_some_iff.mp read
  by_cases named : Token.isName t.text = true
  · cases made
    exact Token.isIdentifier_of_isName named
  · simp [guard, named] at guarded
    cases guarded

def Declaration.Named : Declaration → Prop
  | .package name => Text.IsIdentifier name
  | .structs declared => ∀ s ∈ declared, Text.IsIdentifier s.name
  | _ => True

namespace Source

def Item.Named : Item → Prop
  | .package name => Text.IsIdentifier name
  | .types group => ∀ spec ∈ group.specs, Text.IsIdentifier spec.value.name
  | _ => True

theorem yields_placed {α : Type} {good : α → Prop} {item : TokenReader α}
    (each : Yields item good) (ending : α → TokenReader (List Comment)) :
    Yields (placed item ending) fun p => good p.value := by
  refine .bind_any fun first => .bind each.takenBy fun found holds => .bind_any fun after => ?_
  exact .pure holds

theorem yields_typeSpec (rules : Rules) :
    Yields (typeSpec rules) fun spec => Text.IsIdentifier spec.name := by
  refine .bind yields_name fun declared named => .bind_any fun equals => ?_
  split
  · exact .bind_any fun _ => .pure named
  · refine .bind_any fun opened => ?_
    dsimp only
    split <;> exact .bind_any fun _ => .pure named

theorem yields_typeGroup (rules : Rules) :
    Yields (typeGroup rules) fun group => ∀ spec ∈ group.specs, Text.IsIdentifier spec.value.name := by
  refine .bind_any fun _ => .bind_any fun first => .bind_any fun grouped => ?_
  split
  · refine .bind (yields_placed (yields_typeSpec rules) _).many fun found named => ?_
    exact .bind_any fun _ => .pure named
  · refine .bind (yields_placed (yields_typeSpec rules) _) fun spec named => .pure ?_
    exact List.forall_mem_singleton.mpr named

theorem yields_item (rules : Rules) : Yields (item rules) Item.Named := by
  refine .bind_any fun t => .bind_any fun _ => ?_
  split
  · exact .bind_any fun _ => .map (fun _ named => named) yields_name
  · exact .bind_any fun _ => .map_any fun _ => trivial
  · exact .map_any fun _ => trivial
  · exact .map (fun _ named => named) (yields_typeGroup rules)
  · exact .bind_any fun _ => .pure trivial
  · exact .bind_any fun _ => .pure trivial
  · intro _ _ _ read
    cases read

theorem mem_withSiblings {α : Type} {before : List Sibling} {ps : List (Placed α)}
    {entry : Placed α × List Sibling} (member : entry ∈ withSiblings before ps) : entry.1 ∈ ps := by
  induction ps generalizing before with
  | nil => cases member
  | cons p ps ih =>
    rcases List.mem_cons.mp member with rfl | later
    · exact List.mem_cons_self ..
    · exact List.mem_cons_of_mem _ (ih later)

theorem Item.Named.declaration {item : Item} (named : item.Named) (file : String) (row : Nat)
    (before : List Sibling) : (item.declaration file row before).Named := by
  cases item with
  | package name => exact named
  | imports entries => trivial
  | function header =>
    unfold Item.declaration
    dsimp only
    split <;> trivial
  | types group =>
    intro s declared
    obtain ⟨⟨spec, siblings⟩, listed, made⟩ := List.mem_filterMap.mp declared
    obtain ⟨fields, -, rfl⟩ := Option.map_eq_some_iff.mp made
    exact named spec (mem_withSiblings listed)
  | values => trivial

theorem named_of_declarations? {file source : String} {declarations : List Declaration}
    (read : declarations? file source = some declarations) : ∀ d ∈ declarations, d.Named := by
  obtain ⟨tokens, _, read⟩ := Option.bind_eq_some_iff.mp read
  obtain ⟨⟨found, rest⟩, taken, made⟩ := Option.bind_eq_some_iff.mp read
  cases made
  have named : ∀ p ∈ found, p.value.Named := by
    obtain ⟨items, mid, listed, ended⟩ := bind_eq_some_iff.mp taken
    obtain ⟨_, _, _, same⟩ := bind_eq_some_iff.mp ended
    cases same
    exact (yields_placed (yields_item _) Item.ending).many _ _ _ listed
  intro d member
  obtain ⟨⟨p, before⟩, listed, rfl⟩ := List.mem_map.mp member
  exact (named p (mem_withSiblings listed)).declaration file p.row before

end Source

end Dispatchers.Go
