
namespace Dispatchers.Http

inductive Verb where
  | get
  | head
  | post
  | put
  | delete
  | trace
  | options
  | connect
  | patch
  /-- A method outside the nine, which no directive can name. -/
  | extension (name : String)
deriving DecidableEq

namespace Verb

def name : Verb → String
  | get => "GET"
  | head => "HEAD"
  | post => "POST"
  | put => "PUT"
  | delete => "DELETE"
  | trace => "TRACE"
  | options => "OPTIONS"
  | connect => "CONNECT"
  | patch => "PATCH"
  | extension name => name

def token : Verb → String
  | get => "get"
  | head => "head"
  | post => "post"
  | put => "put"
  | delete => "delete"
  | trace => "trace"
  | options => "options"
  | connect => "connect"
  | patch => "patch"
  | extension name => name

/-- The verbs that the wildcard stands for, in the order of their routes. -/
def all : List Verb :=
  [get, head, post, put, delete, trace, options, connect, patch]

def ofName (name : String) : Verb :=
  (all.find? (·.name = name)).getD (extension name)

end Verb

inductive Scope where
  | any
  | only (verb : Verb)
deriving DecidableEq

namespace Scope

def wildcard : String :=
  "route"

def name : Scope → String
  | any => wildcard
  | only verb => verb.name

def ofToken? (token : String) : Option Scope :=
  if token = wildcard then some any
  else (Verb.all.find? (·.token = token)).map only

def covers : Scope → Verb → Bool
  | any, _ => true
  | only verb, v => verb == v

def verbs : Scope → List Verb
  | any => Verb.all
  | only verb => [verb]

/-- The narrowest scope that both contain, if they overlap. -/
def inter? : Scope → Scope → Option Scope
  | any, scope => some scope
  | scope, any => some scope
  | only a, only b => if a = b then some (only a) else none

end Scope

end Dispatchers.Http
