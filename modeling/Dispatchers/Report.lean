
namespace Dispatchers

inductive Problem where
  | unsupportedParameter
  | unknownRouteMethod
  | bindTypeMismatch
  | unknownBindKind
  | hookSignature
  | malformedTag
  | unexportedController
  | ignoredPrefix
  | unresolvedEmbedding
deriving DecidableEq

namespace Problem

def name : Problem → String
  | unsupportedParameter => "unsupported_parameter"
  | unknownRouteMethod => "unknown_route_method"
  | bindTypeMismatch => "bind_type_mismatch"
  | unknownBindKind => "unknown_bind_kind"
  | hookSignature => "hook_signature"
  | malformedTag => "malformed_tag"
  | unexportedController => "unexported_controller"
  | ignoredPrefix => "ignored_prefix"
  | unresolvedEmbedding => "unresolved_embedding"

def all : List Problem :=
  [unsupportedParameter, unknownRouteMethod, bindTypeMismatch, unknownBindKind, hookSignature,
    malformedTag, unexportedController, ignoredPrefix, unresolvedEmbedding]

def ofName? (name : String) : Option Problem :=
  all.find? (·.name = name)

end Problem

/-- One problem and the declaration it is about, such as `app.go:App.Index`. A problem drops the
declaration, field or line it is about and never stops the scan. -/
structure Diagnostic where
  location : String
  problem : Problem
  message : String
deriving DecidableEq

namespace Diagnostic

def render (d : Diagnostic) : String :=
  "[" ++ d.problem.name ++ "] " ++ d.location ++ ": " ++ d.message

end Diagnostic

abbrev Report := List Diagnostic

namespace Report

def ofProblem (report : Report) (problem : Problem) : Report :=
  report.filter (·.problem = problem)

end Report

end Dispatchers
