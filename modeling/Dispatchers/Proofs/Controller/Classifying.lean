import Dispatchers.Controller.Classifier
import Dispatchers.Proofs.Dictionary

namespace Dispatchers.Controller

open Go

/-- The qualifiers remembered so far are those of their files. -/
def Classifier.Coherent (c : Classifier) : Prop :=
  ∀ file qualifier, c.known.get? file = some qualifier →
    qualifier = c.markers.action.qualifier? c.package file

/-- On a coherent classifier of its package and markers, `m` answers `value` and leaves it so. -/
def Answers {α : Type} (p : Package) (markers : Markers) (m : Classifying α) (value : α) : Prop :=
  ∀ c : Classifier, c.package = p → c.markers = markers → c.Coherent →
    ∃ after : Classifier, m c = (value, after) ∧ after.package = p ∧ after.markers = markers ∧
      after.Coherent

variable {α β : Type} {p : Package} {markers : Markers}

theorem coherent_of (p : Package) (markers : Markers) : (Classifier.of p markers).Coherent :=
  fun _ _ found => nomatch found

theorem Answers.pure (value : α) : Answers p markers (Pure.pure value) value :=
  fun c package marked coherent => ⟨c, rfl, package, marked, coherent⟩

theorem Answers.bind {m : Classifying α} {f : α → Classifying β} {value : α} {result : β}
    (first : Answers p markers m value) (second : Answers p markers (f value) result) :
    Answers p markers (m >>= f) result := by
  intro c package marked coherent
  obtain ⟨middle, ran, package, marked, coherent⟩ := first c package marked coherent
  obtain ⟨after, finished, last⟩ := second middle package marked coherent
  refine ⟨after, ?_, last⟩
  show f (m c).1 (m c).2 = _
  rw [ran]
  exact finished

theorem Answers.get {f : Classifier → Classifying β} {result : β}
    (next : ∀ c : Classifier, c.package = p → c.markers = markers →
      Answers p markers (f c) result) : Answers p markers (MonadState.get >>= f) result :=
  fun c package marked coherent => next c package marked c package marked coherent

theorem Answers.foldlM {step : β → α → Classifying β} {pureStep : β → α → β}
    (answers : ∀ found item, Answers p markers (step found item) (pureStep found item))
    (items : List α) (found : β) :
    Answers p markers (items.foldlM step found) (items.foldl pureStep found) := by
  induction items generalizing found with
  | nil => exact .pure found
  | cons item items ih =>
    rw [List.foldlM_cons, List.foldl_cons]
    exact (answers found item).bind (ih _)

theorem actionQualifier_run (file : String) (c : Classifier) :
    actionQualifier file c = match c.known.get? file with
      | some qualifier => (qualifier, c)
      | none => (c.markers.action.qualifier? c.package file,
          { c with known := c.known.insert file (c.markers.action.qualifier? c.package file) }) := by
  show (match c.known.get? file with
    | some qualifier => (pure qualifier : Classifying (Option String))
    | none => _) c = _
  cases c.known.get? file <;> rfl

theorem actionQualifier_answers (file : String) :
    Answers p markers (actionQualifier file) (markers.action.qualifier? p file) := by
  intro c package marked coherent
  subst package marked
  rw [actionQualifier_run]
  cases found : c.known.get? file with
  | some qualifier =>
    refine ⟨c, ?_, rfl, rfl, coherent⟩
    rw [coherent file qualifier found]
  | none =>
    refine ⟨_, rfl, rfl, rfl, ?_⟩
    intro other qualifier known
    rw [Dictionary.get?_insert] at known
    split at known
    · rename_i same
      rw [same, ← Option.some.inj known]
    · exact coherent other qualifier known

def verdict (p : Package) (markers : Markers) (f : Func) : Verdict :=
  if Hook.isReserved f || !f.isExported then .other
  else
    match markers.action.qualifier? p f.file, f.results with
    | some qualifier, first :: _ =>
      if markers.action.matchesType first.type qualifier then
        match f.params.find? fun param => (bindableName? param.type).isNone with
        | some param => .unbindable param
        | none => .action
      else .other
    | _, _ => .other

theorem judge_answers (f : Func) : Answers p markers (judge f) (verdict p markers f) := by
  unfold judge verdict
  by_cases skipped : (Hook.isReserved f || !f.isExported) = true
  · simp only [skipped, if_true]
    exact .pure _
  · simp only [skipped, Bool.false_eq_true, if_false]
    refine .get fun c package marked => (actionQualifier_answers f.file).bind ?_
    rw [marked]
    cases markers.action.qualifier? p f.file with
    | none => exact .pure _
    | some qualifier =>
      cases f.results with
      | nil => exact .pure _
      | cons first rest =>
        by_cases marks : markers.action.matchesType first.type qualifier = true
        · simp only [marks, if_true]
          exact .pure _
        · simp only [marks, Bool.false_eq_true, if_false]
          exact .pure _

def forwards? (p : Package) (markers : Markers) (f : Func) : Option Bool := do
  let writer ← markers.responseWriter.qualifier? p f.file
  let request ← markers.request.qualifier? p f.file
  hookParams? markers writer request f.params

def shape? (p : Package) (markers : Markers) (f : Func) : Option HookShape :=
  match forwards? p markers f, f.results with
  | some forwardsArgs, [result] =>
    if result.type = .named none "bool" then some ⟨false, forwardsArgs⟩
    else if (markers.action.qualifier? p f.file).any (markers.action.matchesType result.type ·) then
      some ⟨true, forwardsArgs⟩
    else none
  | _, _ => none

theorem hookShape?_answers (f : Func) : Answers p markers (hookShape? f) (shape? p markers f) := by
  unfold hookShape? shape?
  refine .get fun c package marked => ?_
  rw [package, marked]
  show Answers p markers (match forwards? p markers f, f.results with
    | some forwardsArgs, [result] => _
    | _, _ => _) _
  cases forwards? p markers f with
  | none => exact .pure _
  | some forwardsArgs =>
    rcases f.results with _ | ⟨result, _ | ⟨next, rest⟩⟩
    · exact .pure _
    · by_cases truth : result.type = .named none "bool"
      · simp only [truth, if_true]
        exact .pure _
      · simp only [truth, if_false]
        refine (actionQualifier_answers f.file).bind ?_
        cases markers.action.qualifier? p f.file with
        | none => exact .pure _
        | some qualifier =>
          by_cases marks : markers.action.matchesType result.type qualifier = true
          · simp only [Option.any_some, marks, if_true]
            exact .pure _
          · simp only [Option.any_some, marks, Bool.false_eq_true, if_false]
            exact .pure _
    · exact .pure _

def foundAction (p : Package) (markers : Markers) (found : List Func × Report) (f : Func) :
    List Func × Report :=
  (if verdict p markers f = .action then found.1 ++ [f] else found.1,
    found.2 ++ (verdict p markers f).report f)

def foundHook (p : Package) (markers : Markers) (found : Classified × Report) (f : Func) :
    Classified × Report :=
  match Hook.ofName? f.name with
  | none => found
  | some hook =>
    match shape? p markers f with
    | some shape => (found.1.withHook ⟨hook, f, shape⟩, found.2)
    | none => (found.1, found.2 ++ [hookWarning hook f])

def classified (p : Package) (markers : Markers) (typeName : String) : Classified × Report :=
  let methods := p.methodsOf typeName
  let (actions, report) := methods.foldl (foundAction p markers) ([], [])
  methods.foldl (foundHook p markers) (⟨actions, none, none⟩, report)

theorem actionStep_answers (found : List Func × Report) (f : Func) :
    Answers p markers (actionStep found f) (foundAction p markers found f) :=
  (judge_answers f).bind (.pure _)

theorem hookStep_answers (found : Classified × Report) (f : Func) :
    Answers p markers (hookStep found f) (foundHook p markers found f) := by
  unfold hookStep foundHook
  cases Hook.ofName? f.name with
  | none => exact .pure _
  | some hook =>
    refine (hookShape?_answers f).bind ?_
    cases shape? p markers f <;> exact .pure _

theorem classify_answers (typeName : String) :
    Answers p markers (classify typeName) (classified p markers typeName) := by
  unfold classify classified
  refine .get fun c package _ => ?_
  rw [package]
  exact (Answers.foldlM actionStep_answers _ _).bind (.foldlM hookStep_answers _ _)

def actionsOf (p : Package) (markers : Markers) (typeName : String) : List Func :=
  (p.methodsOf typeName).filter fun f => verdict p markers f = .action

theorem verdict_eq_action {f : Func} (action : verdict p markers f = .action) :
    f.isExported = true ∧ ∀ param ∈ f.params, (bindableName? param.type).isSome = true := by
  unfold verdict at action
  split at action
  · cases action
  rename_i visible
  simp only [Bool.or_eq_true, Bool.not_eq_true', not_or, Bool.not_eq_false] at visible
  refine ⟨visible.2, ?_⟩
  split at action
  · split at action
    · split at action
      · cases action
      · rename_i all
        simpa [Option.isSome_iff_ne_none] using all
    · cases action
  · cases action

theorem foldl_foundAction_actions (methods : List Func) (found : List Func × Report) :
    (methods.foldl (foundAction p markers) found).1 =
      found.1 ++ methods.filter fun f => verdict p markers f = .action := by
  induction methods generalizing found with
  | nil => simp
  | cons f methods ih =>
    rw [List.foldl_cons, ih]
    by_cases action : verdict p markers f = .action <;> simp [foundAction, action]

theorem foldl_foundHook_actions (methods : List Func) (found : Classified × Report) :
    (methods.foldl (foundHook p markers) found).1.actions = found.1.actions := by
  induction methods generalizing found with
  | nil => rfl
  | cons f methods ih =>
    rw [List.foldl_cons, ih, foundHook]
    cases Hook.ofName? f.name with
    | none => rfl
    | some hook =>
      cases shape? p markers f with
      | none => rfl
      | some shape => cases hook <;> rfl

@[simp] theorem classified_actions (p : Package) (markers : Markers) (typeName : String) :
    (classified p markers typeName).1.actions = actionsOf p markers typeName := by
  rw [classified, foldl_foundHook_actions, foldl_foundAction_actions, List.nil_append, actionsOf]

end Dispatchers.Controller
