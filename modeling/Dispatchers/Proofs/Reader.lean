import Dispatchers.Reader

namespace Dispatchers.Reader

variable {τ α β : Type}

theorem bind_eq_some_iff {p : Reader τ α} {f : α → Reader τ β} {input rest : List τ} {b : β} :
    (p >>= f) input = some (b, rest) ↔
      ∃ a mid, p input = some (a, mid) ∧ f a mid = some (b, rest) := by
  constructor
  · intro read
    obtain ⟨⟨a, mid⟩, first, later⟩ := Option.bind_eq_some_iff.mp read
    exact ⟨a, mid, first, later⟩
  · rintro ⟨a, mid, first, later⟩
    exact Option.bind_eq_some_iff.mpr ⟨(a, mid), first, later⟩

def Yields (p : Reader τ α) (good : α → Prop) : Prop :=
  ∀ input a rest, p input = some (a, rest) → good a

namespace Yields

variable {good : α → Prop} {fine : β → Prop} {p : Reader τ α}

theorem pure {a : α} (holds : good a) : Yields (Pure.pure a : Reader τ α) good := by
  intro input b rest read
  cases read
  exact holds

theorem bind {f : α → Reader τ β} (first : Yields p good) (later : ∀ a, good a → Yields (f a) fine) :
    Yields (p >>= f) fine := by
  intro input b rest read
  obtain ⟨a, mid, taken, made⟩ := bind_eq_some_iff.mp read
  exact later a (first input a mid taken) mid b rest made

theorem bind_any {f : α → Reader τ β} (later : ∀ a, Yields (f a) fine) : Yields (p >>= f) fine :=
  bind (fun _ _ _ _ => trivial) fun a _ => later a

theorem map {f : α → β} (each : ∀ a, good a → fine (f a)) (first : Yields p good) :
    Yields (f <$> p) fine := by
  intro input b rest read
  obtain ⟨⟨a, mid⟩, taken, made⟩ := Option.bind_eq_some_iff.mp read
  cases made
  exact each a (first input a _ taken)

theorem map_any {f : α → β} (each : ∀ a, fine (f a)) : Yields (f <$> p) fine :=
  map (fun a _ => each a) fun _ _ _ _ => trivial

theorem takenBy (first : Yields p good) : Yields (takenBy p) fun found => good found.1 := by
  intro input found rest read
  obtain ⟨⟨a, mid⟩, taken, made⟩ := Option.map_eq_some_iff.mp read
  cases made
  exact first input a _ taken

theorem iterate {step : α → Reader τ α} (each : ∀ a, good a → Yields (step a) good) {a : α}
    (start : good a) : Yields (iterate step a) good := by
  intro input
  fun_induction Reader.iterate step a input with
  | case1 a input stopped =>
    intro b rest read
    cases read
    exact start
  | case2 a input next rest taken shorter ih =>
    exact ih (each a start input next rest taken)
  | case3 a input next rest taken stuck =>
    intro b rest read
    cases read
    exact start

theorem many (first : Yields p good) : Yields (many p) fun found => ∀ a ∈ found, good a := by
  have grows : ∀ found : List α, (∀ a ∈ found, good a) →
      Yields (do return (← p) :: found) fun longer : List α => ∀ a ∈ longer, good a := by
    intro found known
    exact bind first fun a holds => pure (List.forall_mem_cons.mpr ⟨holds, known⟩)
  refine bind (iterate grows (List.forall_mem_nil good)) fun found known => pure ?_
  exact fun a member => known a (List.mem_reverse.mp member)

end Yields

end Dispatchers.Reader
