import Dispatchers.Proofs.Route.PrefixChain
import Dispatchers.Route.Basic
import Mathlib.Data.List.Forall2

namespace Dispatchers.Route

open Http

variable {controller action file : String} {active : List Prefix}

def ownPattern (controller action : String) (a : Directive) : String :=
  if a.pattern = "" then controller ++ "/" ++ action else a.pattern

/-- The routes of a directive, verb by verb: one for each prefix that covers the verb, or one alone. -/
structure Expands (controller action : String) (active : List Prefix) (a : Directive)
    (routes : List Route) : Prop where
  verbs : routes.map (·.verb) =
    a.scope.verbs.flatMap fun verb => List.replicate (max 1 (active.countP (·.scope.covers verb))) verb
  patterns : ∀ verb ∈ a.scope.verbs, (routes.filter (·.verb = verb)).map (·.pattern) =
    Prefix.apply active verb (ownPattern controller action a)
  label : ∀ route ∈ routes, route.label = a.label
  handler : ∀ route ∈ routes, route.handler = controller ++ "." ++ action

inductive Adds (controller action file : String) (active : List Prefix) (line : String) :
    List Route → Report → Prop
  | directive {a : Directive} {routes : List Route} (read : Directive.parse? line = some (.ok a))
      (expands : Expands controller action active a routes) : Adds controller action file active line routes []
  | unknown {token : String} (read : Directive.parse? line = some (.error token)) :
      Adds controller action file active line [] [⟨file ++ ":" ++ controller ++ "." ++ action,
        .unknownRouteMethod,
        "unknown route method `" ++ token ++ "` in `" ++ line ++ "`, line skipped"⟩]
  | other (read : Directive.parse? line = none) : Adds controller action file active line [] []

theorem length_apply (active : List Prefix) (verb : Verb) (pattern : String) :
    (Prefix.apply active verb pattern).length = max 1 (active.countP (·.scope.covers verb)) := by
  rw [List.countP_eq_length_filter, Prefix.apply]
  cases active.filter (·.scope.covers verb) with
  | nil => rfl
  | cons p covering =>
    rw [List.length_map, List.length_cons]
    omega

theorem filter_flatMap_verb {verbs : List Verb} (nodup : verbs.Nodup) {routesOf : Verb → List Route}
    (own : ∀ verb, ∀ route ∈ routesOf verb, route.verb = verb) {verb : Verb} (member : verb ∈ verbs) :
    (verbs.flatMap routesOf).filter (·.verb = verb) = routesOf verb := by
  induction verbs with
  | nil => cases member
  | cons first verbs ih =>
    obtain ⟨fresh, nodup⟩ := List.nodup_cons.mp nodup
    rw [List.flatMap_cons, List.filter_append]
    by_cases here : first = verb
    · subst here
      have whole : (routesOf first).filter (·.verb = first) = routesOf first := by
        apply List.filter_eq_self.mpr
        intro route listed
        exact decide_eq_true (own first route listed)
      have none : (verbs.flatMap routesOf).filter (·.verb = first) = [] := by
        apply List.filter_eq_nil_iff.mpr
        intro route listed same
        obtain ⟨other, later, listed⟩ := List.mem_flatMap.mp listed
        have equal : other = first := (own other route listed).symm.trans (of_decide_eq_true same)
        exact fresh (equal ▸ later)
      rw [whole, none, List.append_nil]
    · have none : (routesOf first).filter (·.verb = verb) = [] := by
        apply List.filter_eq_nil_iff.mpr
        intro route listed same
        exact here ((own first route listed).symm.trans (of_decide_eq_true same))
      rw [none, List.nil_append]
      apply ih nodup
      exact (List.mem_cons.mp member).resolve_left fun same => here same.symm

theorem expands_ofDirective (controller action : String) (active : List Prefix) (a : Directive) :
    Expands controller action active a (ofDirective controller action active a) := by
  let routesOf (verb : Verb) : List Route :=
    (Prefix.apply active verb (ownPattern controller action a)).map fun full =>
      ⟨verb, full, a.label, controller ++ "." ++ action⟩
  have routes : ofDirective controller action active a = a.scope.verbs.flatMap routesOf := rfl
  have alike : ∀ verb, ∀ route ∈ routesOf verb, route.verb = verb ∧ route.label = a.label ∧
      route.handler = controller ++ "." ++ action := by
    intro verb route member
    obtain ⟨full, -, rfl⟩ := List.mem_map.mp member
    exact ⟨rfl, rfl, rfl⟩
  rw [routes]
  constructor
  case verbs =>
    rw [List.map_flatMap]
    congr 1
    funext verb
    rw [← length_apply active verb (ownPattern controller action a), ← List.map_const', List.map_map]
    rfl
  case patterns =>
    intro verb member
    rw [filter_flatMap_verb (Prefix.verbs_nodup _) (fun verb route listed =>
      (alike verb route listed).1) member, List.map_map]
    exact List.map_id _
  case label =>
    intro route member
    obtain ⟨verb, -, listed⟩ := List.mem_flatMap.mp member
    exact (alike verb route listed).2.1
  case handler =>
    intro route member
    obtain ⟨verb, -, listed⟩ := List.mem_flatMap.mp member
    exact (alike verb route listed).2.2

theorem adds_ofLine (controller action file : String) (active : List Prefix) (line : String) :
    Adds controller action file active line (ofLine controller action file active line).1
      (ofLine controller action file active line).2 := by
  unfold ofLine
  cases read : Directive.parse? line with
  | none => exact .other read
  | some result =>
    cases result with
    | ok a => exact .directive read (expands_ofDirective controller action active a)
    | error token => exact .unknown read

theorem Expands.exists_route {a : Directive} {routes : List Route}
    (expands : Expands controller action active a routes) {verb : Verb}
    (member : verb ∈ a.scope.verbs) : ∃ route ∈ routes, route.verb = verb := by
  have listed : verb ∈ routes.map (·.verb) := by
    rw [expands.verbs]
    apply List.mem_flatMap.mpr
    exact ⟨verb, member, List.mem_replicate.mpr ⟨by omega, rfl⟩⟩
  exact List.mem_map.mp listed

theorem ofComments_append (front back : List String) :
    ofComments controller action file active (front ++ back) =
      ((ofComments controller action file active front).1 ++
          (ofComments controller action file active back).1,
        (ofComments controller action file active front).2 ++
          (ofComments controller action file active back).2) := by
  simp only [ofComments, List.map_append, List.flatMap_append]

theorem ofComments_cons (line : String) (back : List String) :
    ofComments controller action file active (line :: back) =
      ((ofLine controller action file active line).1 ++
          (ofComments controller action file active back).1,
        (ofLine controller action file active line).2 ++
          (ofComments controller action file active back).2) := by
  simp only [ofComments, List.map_cons, List.flatMap_cons]

theorem ofLine_subset {line : String} {comments : List String} (member : line ∈ comments) :
    (ofLine controller action file active line).1 ⊆
      (ofComments controller action file active comments).1 := by
  intro route listed
  exact List.mem_flatMap.mpr ⟨_, List.mem_map_of_mem member, listed⟩

theorem ofLine_of_no_directive {line : String} (bad : ∀ a, Directive.parse? line ≠ some (.ok a)) :
    (ofLine controller action file active line).1 = [] := by
  unfold ofLine
  cases read : Directive.parse? line with
  | none => rfl
  | some result =>
    cases result with
    | ok a => exact absurd read (bad a)
    | error token => rfl

theorem exists_route_of_directive {line : String} {a : Directive} {verb : Verb}
    (read : Directive.parse? line = some (.ok a)) (member : verb ∈ a.scope.verbs) :
    ∃ route ∈ (ofLine controller action file active line).1,
      route.verb = verb ∧ route.label = a.label := by
  have routes : (ofLine controller action file active line).1 =
      ofDirective controller action active a := by
    rw [ofLine, read]
  have expands := expands_ofDirective controller action active a
  obtain ⟨route, listed, same⟩ := expands.exists_route member
  rw [routes]
  exact ⟨route, listed, same, expands.label route listed⟩

/-- The lines above an action add up, in order. No verb of a directive is lost, and a line that is no
directive changes no route. -/
theorem ofComments_adds (controller action file : String) (active : List Prefix) :
    let found := ofComments controller action file active
    (∀ comments, ∃ parts, List.Forall₂ (fun line part =>
        Adds controller action file active line part.1 part.2) comments parts ∧
      found comments = (parts.flatMap Prod.fst, parts.flatMap Prod.snd)) ∧
    (∀ front back, found (front ++ back) =
      ((found front).1 ++ (found back).1, (found front).2 ++ (found back).2)) ∧
    (∀ comments, ∀ line ∈ comments, ∀ a, Directive.parse? line = some (.ok a) →
      ∀ verb ∈ a.scope.verbs, ∃ route ∈ (found comments).1,
        route.verb = verb ∧ route.label = a.label) ∧
    (∀ front line back, (∀ a, Directive.parse? line ≠ some (.ok a)) →
      (found (front ++ line :: back)).1 = (found (front ++ back)).1) ∧
    Scope.any.verbs.map Verb.name =
      ["GET", "HEAD", "POST", "PUT", "DELETE", "TRACE", "OPTIONS", "CONNECT", "PATCH"] ∧
    ∀ verb, (Scope.only verb).verbs = [verb] := by
  refine ⟨?parts, ofComments_append, ?kept, ?apart, rfl, fun _ => rfl⟩
  case parts =>
    intro comments
    refine ⟨comments.map (ofLine controller action file active), ?_, rfl⟩
    apply List.forall₂_map_right_iff.mpr
    apply List.forall₂_same.mpr
    intro line _
    exact adds_ofLine controller action file active line
  case kept =>
    intro comments line member a read verb covered
    obtain ⟨route, listed, found⟩ := exists_route_of_directive read covered
    exact ⟨route, ofLine_subset member listed, found⟩
  case apart =>
    intro front line back bad
    simp only [ofComments_append, ofComments_cons, ofLine_of_no_directive bad, List.nil_append]

theorem ofComments_adds_mixed :
    let found := ofComments "App" "Show" "app.go" [⟨.any, "/v1"⟩, ⟨.only .post, "/api"⟩]
    let lines := ["//@post /new made", "//@GET /old"]
    (("//@post /new made" ∈ lines ∧
        Directive.parse? "//@post /new made" = some (.ok ⟨.only .post, "/new", some "made"⟩)) ∧
      ∃ route ∈ (found lines).1, route.verb = .post ∧ route.label = some "made") ∧
    ((∀ a, Directive.parse? "//@GET /old" ≠ some (.ok a)) ∧
      (found lines).1 = [⟨.post, "/v1/new", some "made", "App.Show"⟩,
        ⟨.post, "/api/new", some "made", "App.Show"⟩]) := by
  have read : Directive.parse? "//@post /new made" =
      some (.ok ⟨.only .post, "/new", some "made"⟩) := by decide
  have bad : ∀ a, Directive.parse? "//@GET /old" ≠ some (.ok a) := by
    have token : Directive.parse? "//@GET /old" = some (.error "GET") := by decide
    intro a same
    rw [token] at same
    cases same
  obtain ⟨-, -, kept, apart, -⟩ := ofComments_adds "App" "Show" "app.go"
    [⟨.any, "/v1"⟩, ⟨.only .post, "/api"⟩]
  refine ⟨⟨⟨by decide, read⟩, kept _ _ (by decide) _ read .post (by decide)⟩, bad, ?_⟩
  exact (apart ["//@post /new made"] "//@GET /old" [] bad).trans (by decide)

end Dispatchers.Route
