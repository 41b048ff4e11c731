import Dispatchers.Proofs.Path.Clean
import Dispatchers.Route.Prefix
import Mathlib.Data.List.Induction
import Mathlib.Data.List.Sections

namespace Dispatchers.Route.Prefix

open Http

def pathsFor (verb : Verb) (level : List Prefix) : List String :=
  (level.filter (·.scope.covers verb)).map (·.path)

/-- The paths of one level inside those of the levels around it. A level without any leaves the
other as it is. -/
def inside (outer inner : List String) : List String :=
  if outer = [] then inner
  else if inner = [] then outer
  else inner.flatMap fun i => outer.map fun o => Path.join [o, i]

@[simp] theorem pathsFor_nil (verb : Verb) : pathsFor verb [] = [] := rfl

theorem pathsFor_cons (verb : Verb) (p : Prefix) (level : List Prefix) :
    pathsFor verb (p :: level) =
      (if p.scope.covers verb then [p.path] else []) ++ pathsFor verb level := by
  unfold pathsFor
  by_cases covered : p.scope.covers verb <;> simp [covered]

theorem pathsFor_append (verb : Verb) (left right : List Prefix) :
    pathsFor verb (left ++ right) = pathsFor verb left ++ pathsFor verb right := by
  simp [pathsFor]

theorem pathsFor_flatMap {α : Type} (verb : Verb) (items : List α) (f : α → List Prefix) :
    pathsFor verb (items.flatMap f) = items.flatMap fun item => pathsFor verb (f item) := by
  induction items with
  | nil => rfl
  | cons item items ih => rw [List.flatMap_cons, pathsFor_append, ih, List.flatMap_cons]

theorem pathsFor_eq_nil_iff {verb : Verb} {level : List Prefix} :
    pathsFor verb level = [] ↔ level.any (·.scope.covers verb) = false := by
  simp [pathsFor]

theorem apply_eq (active : List Prefix) (verb : Verb) (pattern : String) :
    apply active verb pattern =
      if pathsFor verb active = [] then [pattern]
      else (pathsFor verb active).map fun path => Path.join [path, pattern] := by
  unfold apply pathsFor
  cases active.filter (·.scope.covers verb) with
  | nil => rfl
  | cons p covering => simp

theorem mem_verbs_iff {scope : Scope} {verb : Verb} (nine : verb ∈ Verb.all) :
    verb ∈ scope.verbs ↔ scope.covers verb := by
  cases scope with
  | any => exact iff_of_true nine rfl
  | only v =>
    rw [Scope.verbs, Scope.covers, List.mem_singleton, beq_iff_eq]
    exact eq_comm

theorem verbs_nodup (scope : Scope) : scope.verbs.Nodup := by
  cases scope with
  | any => decide
  | only v => exact List.pairwise_singleton _ v

theorem pathsFor_single (verb : Verb) (path : String) {verbs : List Verb} (nodup : verbs.Nodup) :
    pathsFor verb (verbs.map fun v => ⟨.only v, path⟩) = if verb ∈ verbs then [path] else [] := by
  induction verbs with
  | nil => rfl
  | cons v verbs ih =>
    obtain ⟨fresh, nodup⟩ := List.nodup_cons.mp nodup
    rw [List.map_cons, pathsFor_cons, ih nodup]
    by_cases same : v = verb
    · subst same
      simp [Scope.covers, fresh]
    · have distinct : ¬verb = v := fun h => same h.symm
      simp [Scope.covers, same, distinct]

theorem pathsFor_uncovered {verb : Verb} (nine : verb ∈ Verb.all) (p : Prefix)
    (others : List Prefix) :
    pathsFor verb (uncovered p others) =
      if p.scope.covers verb ∧ pathsFor verb others = [] then [p.path] else [] := by
  have left : verb ∈ p.scope.verbs.filter (fun v => !others.any (·.scope.covers v)) ↔
      p.scope.covers verb ∧ pathsFor verb others = [] := by
    rw [List.mem_filter, mem_verbs_iff nine, pathsFor_eq_nil_iff, Bool.not_eq_true']
  unfold uncovered
  by_cases all : (p.scope.verbs.filter fun v => !others.any (·.scope.covers v)).length =
      p.scope.verbs.length
  · have same := List.length_filter_eq_length_iff.mp all
    have kept : p.scope.verbs.filter (fun v => !others.any (·.scope.covers v)) = p.scope.verbs :=
      List.filter_eq_self.mpr same
    rw [kept, mem_verbs_iff nine] at left
    rw [if_pos all, pathsFor_cons, pathsFor_nil, List.append_nil]
    exact if_congr left rfl rfl
  · rw [if_neg all, pathsFor_single verb p.path ((verbs_nodup p.scope).filter _)]
    exact if_congr left rfl rfl

theorem covers_inter? (a b : Scope) (verb : Verb) :
    (a.inter? b).any (·.covers verb) = (a.covers verb && b.covers verb) := by
  cases a with
  | any => simp [Scope.inter?, Scope.covers]
  | only v =>
    cases b with
    | any => simp [Scope.inter?, Scope.covers]
    | only w =>
      by_cases same : v = w
      · simp [Scope.inter?, Scope.covers, same]
      · by_cases first : v = verb
        · have second : ¬w = verb := fun h => same (first.trans h.symm)
          simp [Scope.inter?, Scope.covers, same, second]
        · simp [Scope.inter?, Scope.covers, same, first]

theorem pathsFor_under (verb : Verb) (active : List Prefix) (inner : Prefix) :
    pathsFor verb (active.filterMap (under? · inner)) =
      if inner.scope.covers verb then (pathsFor verb active).map fun o => Path.join [o, inner.path]
      else [] := by
  induction active with
  | nil => simp
  | cons outer active ih =>
    have both := covers_inter? outer.scope inner.scope verb
    rw [List.filterMap_cons, pathsFor_cons]
    cases meet : outer.scope.inter? inner.scope with
    | none =>
      have apart : under? outer inner = none := by rw [under?, meet, Option.map_none]
      rw [meet, Option.any_none] at both
      rw [apart, ih]
      by_cases covered : inner.scope.covers verb
      · have missed : outer.scope.covers verb = false := by simpa [covered] using both.symm
        simp [covered, missed]
      · simp [covered]
    | some scope =>
      have met : under? outer inner = some ⟨scope, Path.join [outer.path, inner.path]⟩ := by
        rw [under?, meet, Option.map_some]
      rw [meet, Option.any_some] at both
      simp only [met, pathsFor_cons, ih, both]
      by_cases covered : inner.scope.covers verb
      · by_cases reached : outer.scope.covers verb <;> simp [covered, reached]
      · simp [covered]

theorem flatMap_covering (verb : Verb) (level : List Prefix) (f : String → List String) :
    (level.flatMap fun p => if p.scope.covers verb then f p.path else []) =
      (pathsFor verb level).flatMap f := by
  induction level with
  | nil => rfl
  | cons p level ih =>
    rw [List.flatMap_cons, pathsFor_cons, List.flatMap_append, ih]
    by_cases covered : p.scope.covers verb <;> simp [covered]

/-- What a package inherits for a verb, by the paths that the two levels have for it. -/
theorem pathsFor_nest {verb : Verb} (nine : verb ∈ Verb.all) (active declared : List Prefix) :
    pathsFor verb (nest active declared) =
      inside (pathsFor verb active) (pathsFor verb declared) := by
  by_cases plain : declared = []
  · subst plain
    by_cases bare : pathsFor verb active = [] <;> simp [nest, inside, bare]
  have declares : declared.isEmpty = false := by simpa using plain
  have inner : pathsFor verb (declared.flatMap fun inner =>
      active.filterMap (under? · inner) ++ uncovered inner active) =
      (pathsFor verb declared).flatMap fun i =>
        ((pathsFor verb active).map fun o => Path.join [o, i]) ++
          if pathsFor verb active = [] then [i] else [] := by
    rw [pathsFor_flatMap, ← flatMap_covering]
    congr 1
    funext p
    rw [pathsFor_append, pathsFor_under, pathsFor_uncovered nine]
    by_cases covered : p.scope.covers verb <;> simp [covered]
  have outer : pathsFor verb (active.flatMap (uncovered · declared)) =
      (pathsFor verb active).flatMap fun o => if pathsFor verb declared = [] then [o] else [] := by
    rw [pathsFor_flatMap, ← flatMap_covering]
    congr 1
    funext p
    rw [pathsFor_uncovered nine]
    by_cases covered : p.scope.covers verb <;> simp [covered]
  simp only [nest, declares, Bool.false_eq_true, if_false, pathsFor_append, inner, outer, inside]
  by_cases noOuter : pathsFor verb active = []
  · simp [noOuter]
  · by_cases noInner : pathsFor verb declared = [] <;> simp [noOuter, noInner]

/-- The paths in `combined` stand for the choices of one path from each of `levels`, whatever is
joined behind them. -/
def Represents (combined : List String) (levels : List (List String)) : Prop :=
  (combined = [] ↔ levels = []) ∧
    (levels ≠ [] → ∀ rest, combined.map (fun path => Path.join (path :: rest)) =
      levels.sections.map fun choice => Path.join (choice ++ rest))

theorem represents_single (level : List String) :
    Represents level (if level = [] then [] else [level]) := by
  by_cases bare : level = []
  · simp [Represents, bare]
  · simp only [Represents, bare, if_false]
    refine ⟨by simp, fun _ rest => ?_⟩
    simp [List.sections]

theorem sections_concat (levels : List (List String)) (last : List String) :
    (levels ++ [last]).sections = last.flatMap fun x => levels.sections.map (· ++ [x]) := by
  induction levels with
  | nil => simp [List.sections, List.map_eq_flatMap]
  | cons level levels ih =>
    rw [List.cons_append, List.sections, ih, List.flatMap_assoc]
    simp [List.sections, List.map_flatMap, List.flatMap_map, Function.comp_def]

theorem Represents.inside {combined : List String} {levels : List (List String)}
    (represents : Represents combined levels) (level : List String) :
    Represents (inside combined level) (levels ++ if level = [] then [] else [level]) := by
  obtain ⟨empty, choices⟩ := represents
  unfold Prefix.inside
  by_cases none : combined = []
  · rw [if_pos none, empty.mp none, List.nil_append]
    exact represents_single level
  rw [if_neg none]
  have some : levels ≠ [] := fun h => none (empty.mpr h)
  by_cases bare : level = []
  · simp only [bare, if_true, List.append_nil]
    exact ⟨empty, choices⟩
  · simp only [bare, if_false]
    have nonempty : ∃ i, i ∈ level := List.exists_mem_of_ne_nil level bare
    refine ⟨by simp [none, nonempty], fun _ rest => ?_⟩
    have step (i : String) : (combined.map fun o => Path.join (Path.join [o, i] :: rest)) =
        levels.sections.map fun choice => Path.join (choice ++ i :: rest) := by
      rw [← choices some (i :: rest)]
      simp only [Path.join_join_append, List.cons_append, List.nil_append]
    rw [sections_concat]
    simp only [List.map_flatMap, List.map_map, Function.comp_def, step, List.append_assoc,
      List.cons_append, List.nil_append]

theorem represents_foldl_nest {verb : Verb} (nine : verb ∈ Verb.all) (initial : List Prefix)
    (levels : List (List Prefix)) :
    Represents (pathsFor verb (levels.foldl nest initial))
      (((initial :: levels).map (pathsFor verb)).filter (· ≠ [])) := by
  induction levels using List.reverseRecOn with
  | nil =>
    have single := represents_single (pathsFor verb initial)
    by_cases bare : pathsFor verb initial = [] <;> simpa [bare] using single
  | append_singleton levels last ih =>
    have next := ih.inside (pathsFor verb last)
    rw [List.foldl_concat, pathsFor_nest nine, ← List.cons_append, List.map_append,
      List.filter_append]
    by_cases bare : pathsFor verb last = [] <;> simpa [bare] using next

/-- A route of one of the nine verbs gets one pattern for each choice of one covering prefix from
every level that has some. The choices of the deepest level vary slowest. -/
theorem apply_foldl_nest {verb : Verb} (nine : verb ∈ Verb.all) (pattern : String)
    (initial : List Prefix) (levels : List (List Prefix)) :
    apply (levels.foldl nest initial) verb pattern =
      let covering := ((initial :: levels).map (pathsFor verb)).filter (· ≠ [])
      if covering = [] then [pattern]
      else covering.sections.map fun choice => Path.join (choice ++ [pattern]) := by
  obtain ⟨empty, choices⟩ := represents_foldl_nest nine initial levels
  rw [apply_eq]
  simp only [empty]
  split
  · rfl
  · rename_i some
    exact choices some [pattern]

theorem apply_foldl_nest_post :
    Verb.post ∈ Verb.all ∧
      apply ([[⟨.only .post, "a"⟩, ⟨.any, "../b"⟩], [⟨.only .get, "c"⟩]].foldl nest
        [⟨.any, "/v/x"⟩, ⟨.only .post, "/w"⟩]) .post "list" =
          ["/v/x/a/list", "/w/a/list", "/v/b/list", "/b/list"] :=
  ⟨by decide, (apply_foldl_nest (by decide) "list" _ _).trans (by decide +kernel)⟩

end Dispatchers.Route.Prefix
