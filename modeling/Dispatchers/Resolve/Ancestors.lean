import Dispatchers.Fault
import Dispatchers.Resolve.Basic

namespace Dispatchers.Resolve

structure Ancestor where
  parent : Parent
  /-- The selectors from the controller to the ancestor, such as `Controller.Base`. -/
  access : String
deriving DecidableEq

/-- A controller by the place of its package and its name. -/
abbrev Place := Nat × String

def select (path name : String) : String :=
  if path.isEmpty then name else path ++ "." ++ name

namespace Resolution

/-- The ancestors below one controller, for chains of at most so many embeddings. `chain` leads
there from the controller asked about. -/
def ancestorsWithin (r : Resolution) :
    Nat → Place → String → List Place → Except Fault (List Ancestor)
  | 0, place, _, chain => .error (.embeddingCycle (chain.map Prod.snd) place.2)
  | length + 1, place, path, chain =>
    match r.controller? place.1 place.2 with
    | none => .error (.unknownController place.2)
    | some decl =>
      decl.parents.foldlM (fun found parent => do
        let next := (parent.package, parent.name)
        if chain.contains next then
          .error (.embeddingCycle (chain.map Prod.snd) parent.name)
        else
          let access := select path parent.name
          let above ← r.ancestorsWithin length next access (chain ++ [next])
          return found ++ above ++ [⟨parent, access⟩]) []

def controllerCount (r : Resolution) : Nat :=
  (r.packages.flatMap (·.controllers.keys)).length

/-- Every ancestor of a controller, each after its own ancestors. A chain of embeddings longer than
the number of controllers repeats one of them. -/
def ancestors (r : Resolution) (package : Nat) (name : String) : Except Fault (List Ancestor) :=
  r.ancestorsWithin (r.controllerCount + 1) (package, name) "" [(package, name)]

end Resolution

end Dispatchers.Resolve
