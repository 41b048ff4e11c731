import Dispatchers.Proofs.Controller.Signatures
import Dispatchers.Proofs.Go.Sessions

namespace Dispatchers.Controller

open Go

variable {α β : Type} {p : Package} {markers : Markers}

inductive Question where
  | classify (typeName : String)
  | isAction (f : Func)
  | hookShape (f : Func)

inductive Answer where
  | classified (found : Classified) (report : Report)
  | isAction (holds : Bool) (report : Report)
  | hookShape (shape : Option HookShape)

def Question.ask : Question → Classifying Answer
  | classify typeName => do
    let (found, report) ← Controller.classify typeName
    return .classified found report
  | isAction f => do
    let verdict ← judge f
    return .isAction (verdict = .action) (verdict.report f)
  | hookShape f => do
    return .hookShape (← hookShape? f)

def Question.answer (p : Package) (markers : Markers) (question : Question) : Answer :=
  (question.ask (Classifier.of p markers)).1

theorem Answers.mapM {f : α → Classifying β} {answer : α → β}
    (each : ∀ item, Answers p markers (f item) (answer item)) (items : List α) :
    Answers p markers (items.mapM f) (items.map answer) := by
  induction items with
  | nil => exact .pure []
  | cons item items ih =>
    rw [List.mapM_cons]
    exact (each item).bind (ih.bind (.pure _))

theorem Answers.fresh {m : Classifying α} {value : α} (answers : Answers p markers m value) :
    (m (Classifier.of p markers)).1 = value := by
  obtain ⟨after, ran, -⟩ := answers _ rfl rfl (coherent_of p markers)
  rw [ran]

theorem Question.answers (question : Question) :
    Answers p markers question.ask (question.answer p markers) := by
  have some : ∃ answer, Answers p markers question.ask answer := by
    cases question with
    | classify typeName => exact ⟨_, (classify_answers typeName).bind (.pure _)⟩
    | isAction f => exact ⟨_, (judge_answers f).bind (.pure _)⟩
    | hookShape f => exact ⟨_, (hookShape?_answers f).bind (.pure _)⟩
  obtain ⟨answer, answers⟩ := some
  rw [Question.answer, answers.fresh]
  exact answers

/-- What is reported of a method as an action: its first unbindable parameter, if it is an action
but for that. -/
inductive ActionReport (imports : Dictionary ImportTable) (markers : Markers) (f : Func) :
    Report → Prop
  | unbindable {param : Arg} (returns : ReturnsAction imports markers f)
      (first : FirstUnbindable f.params param) :
      ActionReport imports markers f [⟨f.location, .unsupportedParameter,
        "parameter `" ++ param.name ++ "` of type `" ++ param.type.render ++
          "` cannot be bound from a request; method is not an action"⟩]
  | nothing (fine : ¬ ∃ param, ReturnsAction imports markers f ∧ FirstUnbindable f.params param) :
      ActionReport imports markers f []

/-- What is reported of a method as a hook: that it has the name of one and no signature of one. -/
inductive HookReport (imports : Dictionary ImportTable) (markers : Markers) (f : Func) :
    Report → Prop
  | misshapen {hook : Hook} (named : f.name = hook.name)
      (unfit : ¬ ∃ shape, HookSignature imports markers f shape) :
      HookReport imports markers f [⟨f.location, .hookSignature, hook.name ++
        " must take (http.ResponseWriter, *http.Request[, []string]) and return bool or the action " ++
        "result type; hook ignored"⟩]
  | nothing (fine : ∀ hook : Hook, f.name = hook.name →
      ∃ shape, HookSignature imports markers f shape) : HookReport imports markers f []

/-- `m` is the last of the methods with the name of the hook and the signature of one. -/
structure LastHook (imports : Dictionary ImportTable) (markers : Markers) (methods : List Func)
    (hook : Hook) (m : HookMethod) : Prop where
  kind : m.hook = hook
  named : m.func.name = hook.name
  signature : HookSignature imports markers m.func m.shape
  last : ∃ front rest, methods = front ++ m.func :: rest ∧
    ∀ f ∈ rest, f.name = hook.name → ¬ ∃ shape, HookSignature imports markers f shape

structure Sorts (imports : Dictionary ImportTable) (markers : Markers) (methods : List Func)
    (found : Classified × Report) : Prop where
  actions : ∃ chosen : Func → Bool, (∀ f, chosen f = true ↔ IsAction imports markers f) ∧
    found.1.actions = methods.filter chosen
  before : ∀ m, found.1.before = some m ↔ LastHook imports markers methods .before m
  after : ∀ m, found.1.after = some m ↔ LastHook imports markers methods .after m
  report : ∃ ofActions ofHooks, List.Forall₂ (ActionReport imports markers) methods ofActions ∧
    List.Forall₂ (HookReport imports markers) methods ofHooks ∧
    found.2 = ofActions.flatten ++ ofHooks.flatten

theorem verdict_eq_action_iff {f : Func} :
    verdict p markers f = .action ↔ IsAction p.imports markers f := by
  rcases verdict_cases p markers f with
    ⟨none, other⟩ | ⟨returns, ⟨param, first, found⟩ | ⟨all, action⟩⟩
  · rw [other]
    refine ⟨?_, fun action : IsAction p.imports markers f => absurd action.toReturnsAction none⟩
    intro absent
    cases absent
  · rw [found]
    constructor
    · intro absent
      cases absent
    · intro action
      exact absurd (action.bindable param first.mem) first.unbindable
  · exact ⟨fun _ => ⟨returns, all⟩, fun _ => action⟩

theorem actionReport_verdict (f : Func) :
    ActionReport p.imports markers f ((verdict p markers f).report f) := by
  rcases verdict_cases p markers f with
    ⟨none, other⟩ | ⟨returns, ⟨param, first, found⟩ | ⟨all, action⟩⟩
  · rw [other]
    refine .nothing ?_
    rintro ⟨_, returns, _⟩
    exact none returns
  · rw [found]
    exact .unbindable returns first
  · rw [action]
    refine .nothing ?_
    rintro ⟨param, -, first⟩
    exact first.unbindable (all param first.mem)

def hookReport (p : Package) (markers : Markers) (f : Func) : Report :=
  match Hook.ofName? f.name with
  | none => []
  | some hook => if (shape? p markers f).isSome then [] else [hookWarning hook f]

theorem hookReport_fits (f : Func) :
    HookReport p.imports markers f (hookReport p markers f) := by
  unfold hookReport
  cases name : Hook.ofName? f.name with
  | none =>
    refine .nothing fun hook named => ?_
    rw [Hook.ofName?_eq_some_iff.mpr named] at name
    cases name
  | some hook =>
    cases shape : shape? p markers f with
    | none =>
      refine .misshapen (Hook.ofName?_eq_some_iff.mp name) ?_
      rintro ⟨known, signature⟩
      rw [shape?_eq_some_iff.mpr signature] at shape
      cases shape
    | some known => exact .nothing fun _ _ => ⟨known, shape?_eq_some_iff.mp shape⟩

theorem foldl_foundAction_report (methods : List Func) (found : List Func × Report) :
    (methods.foldl (foundAction p markers) found).2 =
      found.2 ++ (methods.map fun f => (verdict p markers f).report f).flatten := by
  induction methods generalizing found with
  | nil => simp
  | cons f methods ih => simp [ih, foundAction]

theorem foldl_foundHook_report (methods : List Func) (found : Classified × Report) :
    (methods.foldl (foundHook p markers) found).2 =
      found.2 ++ (methods.map (hookReport p markers)).flatten := by
  induction methods generalizing found with
  | nil => simp
  | cons f methods ih =>
    rw [List.foldl_cons, ih, foundHook, List.map_cons, List.flatten_cons, hookReport]
    cases Hook.ofName? f.name with
    | none => rfl
    | some hook => cases shape? p markers f <;> simp

def Classified.hook? (c : Classified) : Hook → Option HookMethod
  | .before => c.before
  | .after => c.after

def hookMethod? (p : Package) (markers : Markers) (hook : Hook) (f : Func) : Option HookMethod :=
  if f.name = hook.name then (shape? p markers f).map fun shape => ⟨hook, f, shape⟩ else none

theorem foundHook_hook? (found : Classified × Report) (f : Func) (hook : Hook) :
    (foundHook p markers found f).1.hook? hook =
      (hookMethod? p markers hook f).or (found.1.hook? hook) := by
  unfold foundHook hookMethod?
  cases name : Hook.ofName? f.name with
  | none =>
    have apart : f.name ≠ hook.name := by
      intro same
      rw [Hook.ofName?_eq_some_iff.mpr same] at name
      cases name
    rw [if_neg apart, Option.none_or]
  | some other =>
    have named := Hook.ofName?_eq_some_iff.mp name
    cases shape? p markers f with
    | none => simp
    | some shape =>
      rw [named]
      cases other <;> cases hook <;> rfl

theorem foldl_foundHook_hook? (methods : List Func) (found : Classified × Report) (hook : Hook) :
    (methods.foldl (foundHook p markers) found).1.hook? hook =
      (methods.reverse.findSome? (hookMethod? p markers hook)).or (found.1.hook? hook) := by
  induction methods generalizing found with
  | nil => rfl
  | cons f methods ih =>
    rw [List.foldl_cons, ih, foundHook_hook?, List.reverse_cons, List.findSome?_append,
      List.findSome?_singleton, Option.or_assoc]

theorem hookMethod?_eq_some_iff {hook : Hook} {f : Func}
    {m : HookMethod} :
    hookMethod? p markers hook f = some m ↔ m.hook = hook ∧ m.func = f ∧ f.name = hook.name ∧
      HookSignature p.imports markers f m.shape := by
  obtain ⟨kind, func, shape⟩ := m
  simp only [hookMethod?, Option.ite_none_right_eq_some, Option.map_eq_some_iff,
    shape?_eq_some_iff, HookMethod.mk.injEq]
  constructor
  · rintro ⟨named, _, signature, rfl, rfl, rfl⟩
    exact ⟨rfl, rfl, named, signature⟩
  · rintro ⟨rfl, rfl, named, signature⟩
    exact ⟨named, shape, signature, rfl, rfl, rfl⟩

theorem hookMethod?_eq_none_iff {hook : Hook} {f : Func} :
    hookMethod? p markers hook f = none ↔
      (f.name = hook.name → ¬ ∃ shape, HookSignature p.imports markers f shape) := by
  rw [Option.eq_none_iff_forall_ne_some]
  constructor
  · rintro none named ⟨shape, signature⟩
    exact none ⟨hook, f, shape⟩ (hookMethod?_eq_some_iff.mpr ⟨rfl, rfl, named, signature⟩)
  · intro unfit m found
    obtain ⟨-, -, named, signature⟩ := hookMethod?_eq_some_iff.mp found
    exact unfit named ⟨m.shape, signature⟩

theorem findSome?_reverse_iff {methods : List Func} {hook : Hook}
    {m : HookMethod} :
    methods.reverse.findSome? (hookMethod? p markers hook) = some m ↔
      LastHook p.imports markers methods hook m := by
  simp only [List.findSome?_eq_some_iff, hookMethod?_eq_some_iff,
    hookMethod?_eq_none_iff, List.reverse_eq_iff, List.reverse_append, List.reverse_cons,
    List.append_assoc, List.singleton_append]
  constructor
  · rintro ⟨later, f, earlier, split, ⟨kind, rfl, named, signature⟩, none⟩
    refine ⟨kind, named, signature, earlier.reverse, later.reverse, split, fun f member => ?_⟩
    exact none f (List.mem_reverse.mp member)
  · rintro ⟨kind, named, signature, front, rest, split, none⟩
    refine ⟨rest.reverse, m.func, front.reverse, by simpa using split,
      ⟨kind, rfl, named, signature⟩, fun f member => none f (List.mem_reverse.mp member)⟩

theorem classified_hook? (typeName : String) (hook : Hook) :
    (classified p markers typeName).1.hook? hook =
      (p.methodsOf typeName).reverse.findSome? (hookMethod? p markers hook) := by
  rw [classified]
  simp only [foldl_foundHook_hook?]
  cases hook <;> exact Option.or_none ..

theorem classified_report (typeName : String) :
    (classified p markers typeName).2 =
      ((p.methodsOf typeName).map fun f => (verdict p markers f).report f).flatten ++
        ((p.methodsOf typeName).map (hookReport p markers)).flatten := by
  rw [classified]
  simp only [foldl_foundHook_report, foldl_foundAction_report, List.nil_append]

theorem classified_sorts (typeName : String) :
    Sorts p.imports markers (p.methodsOf typeName) (classified p markers typeName) where
  actions := by
    refine ⟨fun f => verdict p markers f = .action, fun f => ?_, classified_actions p markers _⟩
    rw [decide_eq_true_iff, verdict_eq_action_iff]
  before m := by
    rw [← findSome?_reverse_iff, ← classified_hook?]
    rfl
  after m := by
    rw [← findSome?_reverse_iff, ← classified_hook?]
    rfl
  report := by
    refine ⟨_, _, ?_, ?_, classified_report typeName⟩
    · exact List.forall₂_map_right_iff.mpr (List.forall₂_same.mpr fun f _ =>
        actionReport_verdict f)
    · exact List.forall₂_map_right_iff.mpr (List.forall₂_same.mpr fun f _ =>
        hookReport_fits f)

theorem Marker.qualifier?_of_imports {q : Package} (same : q.imports = p.imports) (m : Marker)
    (file : String) : m.qualifier? q file = m.qualifier? p file := by
  rw [qualifier?, qualifier?, same]

theorem verdict_of_imports {q : Package} (same : q.imports = p.imports) (f : Func) :
    verdict q markers f = verdict p markers f := by
  simp only [verdict, Marker.qualifier?_of_imports same]

theorem shape?_of_imports {q : Package} (same : q.imports = p.imports) (f : Func) :
    shape? q markers f = shape? p markers f := by
  simp only [shape?, forwards?, Marker.qualifier?_of_imports same]

/-- The classifier of a package tells its methods by their signatures and the imports of their
files, whatever it was asked before and whatever other methods there are. -/
theorem classifies_locally (p : Package) (markers : Markers) :
    (∀ questions : List Question,
      (questions.mapM Question.ask (Classifier.of p markers)).1 =
        questions.map (Question.answer p markers)) ∧
    (∀ typeName, Sorts p.imports markers (p.methodsOf typeName)
      (classify typeName (Classifier.of p markers)).1) ∧
    (∀ f, ((judge f (Classifier.of p markers)).1 = .action ↔ IsAction p.imports markers f) ∧
      ActionReport p.imports markers f ((judge f (Classifier.of p markers)).1.report f) ∧
      ∀ shape, (hookShape? f (Classifier.of p markers)).1 = some shape ↔
        HookSignature p.imports markers f shape) ∧
    ∀ q : Package, q.imports = p.imports → ∀ f,
      (judge f (Classifier.of q markers)).1 = (judge f (Classifier.of p markers)).1 ∧
      (hookShape? f (Classifier.of q markers)).1 = (hookShape? f (Classifier.of p markers)).1 ∧
      ∀ typeName other, f ∈ p.methodsOf typeName → f ∈ q.methodsOf other →
        (f ∈ (classify other (Classifier.of q markers)).1.1.actions ↔
          f ∈ (classify typeName (Classifier.of p markers)).1.1.actions) := by
  refine ⟨fun questions => (Answers.mapM Question.answers questions).fresh, ?_, ?_, ?_⟩
  · intro typeName
    rw [(classify_answers typeName).fresh]
    exact classified_sorts typeName
  · intro f
    simp only [(judge_answers f).fresh, (hookShape?_answers f).fresh]
    exact ⟨verdict_eq_action_iff, actionReport_verdict f,
      fun shape => shape?_eq_some_iff⟩
  · intro q same f
    simp only [(judge_answers f).fresh, (hookShape?_answers f).fresh, (classify_answers _).fresh,
      classified_actions]
    refine ⟨verdict_of_imports same f, shape?_of_imports same f, fun typeName other one two => ?_⟩
    simp only [actionsOf, List.mem_filter, one, two, verdict_of_imports same]

section Sample

def shopMethod (name : String) (params : List Arg) (result : TypeExpr) : Func :=
  ⟨name, "shop.go", [], params, [⟨"", "", result⟩], some ⟨"c", "", .pointer (.named none "Shop")⟩⟩

def showsIndex : Func := shopMethod "Index" [] (.named (some "h") "Handler")

def findsQuery : Func :=
  shopMethod "Find" [⟨"q", "", .named none "Query"⟩] (.named (some "h") "Handler")

def opensShop : Func :=
  shopMethod "Before" [⟨"w", "", .named (some "h") "ResponseWriter"⟩,
    ⟨"r", "", .pointer (.named (some "h") "Request")⟩] (.named none "bool")

def shop : Package :=
  ⟨"shop", [], ⟨[("Shop", [opensShop, showsIndex, findsQuery])], by decide⟩, [],
    ⟨[("shop.go", ⟨[("h", "net/http"), ("old", "kept/net/http")], by decide⟩)], by decide⟩⟩

theorem shop_classifies :
      IsAction shop.imports .standard showsIndex ∧
      ¬ IsAction shop.imports .standard findsQuery ∧
      LastHook shop.imports .standard [opensShop, showsIndex, findsQuery] .before
        ⟨.before, opensShop, ⟨false, false⟩⟩ := by
  obtain ⟨-, sorts, judges, -⟩ := classifies_locally shop .standard
  refine ⟨(judges showsIndex).1.mp rfl, fun action => ?_, ?_⟩
  · have found := (judges findsQuery).1.mpr action
    revert found
    decide
  · exact ((sorts "Shop").before _).mp rfl

end Sample

end Dispatchers.Controller
