import Dispatchers.Resolve.Resolver

namespace Dispatchers.Resolve

variable {α β : Type} {r : Resolver} {good : α → Resolver → Prop} {bad : Fault → Prop}

/-- Started in `r`, both steps do the same, which ends with a result and a state that `good` holds
of, or with a fault that `bad` holds of. -/
def Ends (m twin : Resolving α) (r : Resolver) (good : α → Resolver → Prop)
    (bad : Fault → Prop) : Prop :=
  twin r = m r ∧ match m r with
    | (.ok a, after) => good a after
    | (.error cause, _) => bad cause

theorem run_bind (m : Resolving α) (f : α → Resolving β) (r : Resolver) :
    (m >>= f) r = match m r with
      | (.ok a, after) => f a after
      | (.error cause, after) => (.error cause, after) := by
  show (match m r with | (a, after) => ExceptT.bindCont f a after) = _
  rcases m r with ⟨_ | _, _⟩ <;> rfl

theorem Ends.pure {a : α} (holds : good a r) : Ends (Pure.pure a) (Pure.pure a) r good bad :=
  ⟨rfl, holds⟩

theorem Ends.throw {cause : Fault} (holds : bad cause) :
    Ends (MonadExcept.throw cause : Resolving α) (MonadExcept.throw cause) r good bad :=
  ⟨rfl, holds⟩

theorem Ends.bind {m m' : Resolving β} {f f' : β → Resolving α} {middle : β → Resolver → Prop}
    (first : Ends m m' r middle bad)
    (second : ∀ b after, middle b after → Ends (f b) (f' b) after good bad) :
    Ends (m >>= f) (m' >>= f') r good bad := by
  obtain ⟨same, first⟩ := first
  unfold Ends
  rw [run_bind, run_bind, same]
  rcases ran : m r with ⟨_ | b, after⟩
  · rw [ran] at first
    exact ⟨rfl, first⟩
  · rw [ran] at first
    exact second b after first

theorem Ends.map {m m' : Resolving β} {f : β → α}
    (ends : Ends m m' r (fun b after => good (f b) after) bad) :
    Ends (f <$> m) (f <$> m') r good bad :=
  ends.bind fun _ _ holds => .pure holds

theorem Ends.get {f f' : Resolver → Resolving α} (next : Ends (f r) (f' r) r good bad) :
    Ends (MonadState.get >>= f) (MonadState.get >>= f') r good bad :=
  next

theorem Ends.modifying {f : Resolver → Resolver} {next next' : PUnit → Resolving α}
    (rest : Ends (next ⟨⟩) (next' ⟨⟩) (f r) good bad) :
    Ends (modify f >>= next) (modify f >>= next') r good bad :=
  rest

theorem Ends.warn {report : Report} {next next' : Unit → Resolving α}
    (rest : Ends (next ()) (next' ()) { r with report := r.report ++ report } good bad) :
    Ends (Resolve.warn report >>= next) (Resolve.warn report >>= next') r good bad :=
  rest

theorem Ends.mono {m m' : Resolving α} {better : α → Resolver → Prop} {worse : Fault → Prop}
    (ends : Ends m m' r good bad) (improves : ∀ a after, good a after → better a after)
    (worsens : ∀ cause, bad cause → worse cause) : Ends m m' r better worse := by
  obtain ⟨same, ends⟩ := ends
  refine ⟨same, ?_⟩
  rcases ran : m r with ⟨cause | a, after⟩
  · rw [ran] at ends
    exact worsens cause ends
  · rw [ran] at ends
    exact improves a after ends

/-- An invariant of the items read so far carries through a pass over a list. -/
theorem Ends.foldlM (invariant : List α → β → Resolver → Prop) {step step' : β → α → Resolving β}
    {b : β} {r : Resolver} {bad : Fault → Prop} (items : List α) (start : invariant [] b r)
    (next : ∀ done item rest b r, items = done ++ item :: rest → invariant done b r →
      Ends (step b item) (step' b item) r (invariant (done ++ [item])) bad) :
    Ends (items.foldlM step b) (items.foldlM step' b) r (invariant items) bad := by
  suffices ∀ rest done b r, items = done ++ rest → invariant done b r →
      Ends (rest.foldlM step b) (rest.foldlM step' b) r (invariant items) bad from
    this items [] b r rfl start
  intro rest
  induction rest with
  | nil =>
    intro done b r split holds
    rw [List.append_nil] at split
    exact split ▸ .pure holds
  | cons item rest ih =>
    intro done b r split holds
    rw [List.foldlM_cons, List.foldlM_cons]
    exact (next done item rest b r split holds).bind fun b after holds =>
      ih (done ++ [item]) b after (by simp [split]) holds

end Dispatchers.Resolve
