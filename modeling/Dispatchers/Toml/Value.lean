
namespace Dispatchers.Toml

/-- How a table came about, which decides what may still be added to it. -/
inductive Origin where
  /-- Written in braces; nothing is added later. -/
  | inline
  /-- Named on the way to the table of a header; it may get a header of its own. -/
  | implied
  /-- By its own header, or the root. -/
  | header
  /-- By dotted keys; only dotted keys add to it, and headers below it. -/
  | dotted
deriving DecidableEq

/-- No setting is a number, a date or a time, so these values are left out: a document that holds
one is no document here. -/
inductive Value where
  | text (s : String)
  | bool (b : Bool)
  | list (items : List Value)
  | table (origin : Origin) (entries : List (String × Value))
  /-- Tables under one repeated header. -/
  | tables (items : List (List (String × Value)))
deriving Inhabited

abbrev Entries := List (String × Value)

namespace Entries

def set (key : String) (v : Value) : Entries → Entries
  | [] => [(key, v)]
  | (k, w) :: rest => if k = key then (key, v) :: rest else (k, w) :: set key v rest

abbrev Change := Origin → Entries → Option Entries

def changeLast (change : Entries → Option Entries) : List Entries → Option (List Entries)
  | [] => none
  | [last] => do return [← change last]
  | first :: rest => do return first :: (← changeLast change rest)

/-- Changes the table that a path leads to. Missing tables on the way are made as `made`. A path of
dotted keys does not lead through tables with a header. -/
def changeAt (made : Origin) (change : Change) : List String → Change
  | [] => change
  | key :: rest => fun _ entries =>
    match entries.lookup key with
    | none => do
      return entries.set key (.table made (← changeAt made change rest made []))
    | some (.table origin inner) =>
      if origin = .inline ∨ (made = .dotted ∧ origin = .header) then none
      else do
        return entries.set key (.table origin (← changeAt made change rest origin inner))
    | some (.tables items) => do
      return entries.set key (.tables (← changeLast (changeAt made change rest .header) items))
    | some _ => none

def define (key : String) (v : Value) (entries : Entries) : Option Entries :=
  if (entries.lookup key).isSome then none else some (entries ++ [(key, v)])

/-- Binds the last of dotted keys in the table of those before it, which dotted keys made. -/
def defineAt (path : List String) (key : String) (v : Value) : Change :=
  changeAt .dotted (fun origin entries =>
    if path ≠ [] ∧ origin ≠ .dotted then none else entries.define key v) path

/-- Opens the table of a header. A table that is only implied gets its header by that. -/
def openTable (key : String) (entries : Entries) : Option Entries :=
  match entries.lookup key with
  | none => some (entries ++ [(key, .table .header [])])
  | some (.table .implied inner) => some (entries.set key (.table .header inner))
  | some _ => none

def addTable (key : String) (entries : Entries) : Option Entries :=
  match entries.lookup key with
  | none => some (entries ++ [(key, .tables [[]])])
  | some (.tables items) => some (entries.set key (.tables (items ++ [[]])))
  | some _ => none

end Entries

end Dispatchers.Toml
