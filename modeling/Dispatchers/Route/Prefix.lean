import Dispatchers.Go.Tag
import Dispatchers.Http.Verb
import Dispatchers.Path.Clean
import Dispatchers.Report

namespace Dispatchers.Route

open Http

structure Prefix where
  scope : Scope
  path : String
deriving DecidableEq

namespace Prefix

/-- One tag entry as a prefix; only keys that start with `@` declare one. -/
def ofEntry (location key value : String) : List Prefix × Report :=
  match key.toList with
  | '@' :: rest =>
    let token := String.ofList rest
    match Scope.ofToken? token with
    | some scope => ([⟨scope, value⟩], [])
    | none =>
      ([], [⟨location, .unknownRouteMethod,
        "unknown route method `" ++ token ++ "` in tag prefix, entry skipped"⟩])
  | _ => ([], [])

def ofTag (tag location : String) : List Prefix × Report :=
  match Go.Tag.parse tag with
  | .error e =>
    ([], [⟨location, .malformedTag, "cannot parse tag `" ++ tag ++ "`: " ++ e.message⟩])
  | .ok parsed =>
    let found := parsed.entries.map fun (key, value) => ofEntry location key value
    (found.flatMap Prod.fst, found.flatMap Prod.snd)

/-- The patterns of a route under the active prefixes: one per prefix that covers the verb, or the
pattern alone if none does. -/
def apply (active : List Prefix) (verb : Verb) (pattern : String) : List String :=
  match active.filter (·.scope.covers verb) with
  | [] => [pattern]
  | covering => covering.map fun p => Path.join [p.path, pattern]

def uncovered (p : Prefix) (others : List Prefix) : List Prefix :=
  let left := p.scope.verbs.filter fun verb => !others.any (·.scope.covers verb)
  if left.length = p.scope.verbs.length then [p]
  else left.map fun verb => ⟨.only verb, p.path⟩

/-- The declared prefix under one active prefix, on the verbs that they share. -/
def under? (outer inner : Prefix) : Option Prefix :=
  (outer.scope.inter? inner.scope).map fun scope => ⟨scope, Path.join [outer.path, inner.path]⟩

/-- The prefixes inside an embedded package. A declared prefix stands under every active prefix it
shares a verb with and alone on the other verbs; an active prefix stays on the verbs that no
declared one covers. -/
def nest (active declared : List Prefix) : List Prefix :=
  if declared.isEmpty then active
  else
    declared.flatMap (fun inner => active.filterMap (under? · inner) ++ uncovered inner active) ++
      active.flatMap (uncovered · declared)

end Prefix

end Dispatchers.Route
