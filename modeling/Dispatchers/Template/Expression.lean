import Dispatchers.Fault
import Dispatchers.Path.Clean
import Dispatchers.Template.Value
import Dispatchers.Text.Identifier
import Dispatchers.Text.Literal

namespace Dispatchers.Template

/-- The expressions that templates use. The engine that they are written for knows more: arithmetic,
order, tests, `in`, slices, maps, fractions and keyword arguments. With any of these a source is
malformed here, and so it is with statements other than those of `Statement`. -/
inductive Expression where
  | value (v : Value)
  | reference (name : String)
  | list (items : List Expression)
  | member (subject : Expression) (name : String)
  | item (subject key : Expression)
  | call (function : String) (arguments : List Expression)
  | filter (subject : Expression) (name : String) (arguments : List Expression)
  | concat (left right : Expression)
  | equal (left right : Expression)
  | not (operand : Expression)
  | and (left right : Expression)
  | or (left right : Expression)
  | choice (test yes no : Expression)

/-- What names are bound to, innermost scope first. -/
abbrev Scopes := List (Dictionary Value)

def Scopes.lookup (scopes : Scopes) (name : String) : Value :=
  (scopes.findSome? (·.get? name)).getD .undefined

abbrev Rendering := Except TemplateFault

namespace Value

/-- The value under a key of a map; other values have none, and an undefined one is at fault. -/
def member (v : Value) (name : String) : Rendering Value :=
  match v with
  | undefined => .error .undefinedValue
  | map entries => .ok ((entries.lookup name).getD undefined)
  | _ => .ok undefined

/-- The place that a number means in a list; negative numbers count from the end. -/
def place (length : Nat) (n : Int) : Int :=
  if n < 0 then length + n else n

def elementAt? {α : Type} (elements : List α) (n : Int) : Option α :=
  let i := place elements.length n
  if i < 0 then Option.none else elements[i.toNat]?

def item (v key : Value) : Rendering Value :=
  match v, key with
  | list items, number n => .ok ((elementAt? items n).getD undefined)
  | text s, number n =>
    .ok (((elementAt? s.toList n).map fun c => text c.toString).getD undefined)
  | v, text name => v.member name
  | undefined, _ => .error .undefinedValue
  | _, _ => .ok undefined

/-- What a loop over the value goes through: elements, characters or keys. -/
def elements : Value → Rendering (List Value)
  | undefined | none => .ok []
  | text s => .ok (s.toList.map fun c => text c.toString)
  | list items => .ok items
  | map entries => .ok (entries.map fun (key, _) => text key)
  | bool _ | number _ => .error .invalidOperation

def length : Value → Rendering Value
  | text s => .ok (ofNumber s.length)
  | list items => .ok (ofNumber items.length)
  | map entries => .ok (ofNumber entries.length)
  | _ => .error .invalidOperation

def pairs : Value → Rendering Value
  | map entries => .ok (list (entries.map fun (key, v) => list [text key, v]))
  | _ => .error .invalidOperation

def unionEntries : Value → Rendering (List (String × Value))
  | undefined | none => .ok []
  | map entries => .ok entries
  | _ => .error .invalidOperation

/-- The count that a range is asked for; it takes 32 bits. -/
def count : Value → Rendering Nat
  | number (.ofNat n) => if n < 0x100000000 then .ok n else .error .invalidOperation
  | number (.negSucc _) => .error .invalidOperation
  | bool b => .ok (if b then 1 else 0)
  | _ => .error .invalidOperation

/-- Absent values stand for arguments that are left out. -/
def present? : Value → Option Value
  | undefined | none => Option.none
  | v => some v

end Value

def single : List Value → Rendering Value
  | [] => .error .missingArgument
  | [v] => .ok v
  | _ => .error .tooManyArguments

def rangeLimit : Nat :=
  100000

def range (low high step : Nat) : Rendering Value :=
  let size := (high - low + (step - 1)) / step
  if step = 0 ∨ size > rangeLimit then .error .invalidOperation
  else .ok (.list ((List.range' low size step).map Value.ofNumber))

/-- A range up to the first number, or between the first two if there is a second. -/
def rangeOf (first : Value) (second third : Option Value) : Rendering Value := do
  let bound ← first.count
  let high ← second.mapM Value.count
  let step ← third.mapM Value.count
  match high with
  | none => range 0 bound (step.getD 1)
  | some high => range bound high (step.getD 1)

def merge (a b : Value) : Rendering Value := do
  let first ← a.unionEntries
  let second ← b.unionEntries
  return .record (first ++ second)

def callFunction (name : String) (arguments : List Value) : Rendering Value :=
  match name with
  | "join_path" => .ok (.text (Path.join (arguments.map Value.display)))
  | "merge" =>
    match arguments with
    | [a, b] => merge a b
    | [] | [_] => .error .missingArgument
    | _ => .error .tooManyArguments
  | "range" =>
    match arguments with
    | [] => .error .missingArgument
    | first :: more =>
      if more.length > 2 then .error .tooManyArguments
      else rangeOf first (more[0]?.bind Value.present?) (more[1]?.bind Value.present?)
  | _ => .error .unknownFunction

/-- A filter on texts takes any value by its text. -/
def mapText (f : String → String) (arguments : List Value) : Rendering Value := do
  return .text (f (← single arguments).display)

/-- Filters; the first argument is the value before the bar. -/
def applyFilter (name : String) (arguments : List Value) : Rendering Value :=
  match name with
  | "lower_first" => mapText Text.lowerFirst arguments
  | "upper_first" => mapText Text.upperFirst arguments
  | "snake_case" => mapText Text.snakeCase arguments
  | "go_quote" => mapText Text.quote arguments
  | "length" => single arguments >>= Value.length
  | "items" => single arguments >>= Value.pairs
  | _ => .error .unknownFilter

namespace Expression

mutual

def eval (scopes : Scopes) : Expression → Rendering Value
  | value v => .ok v
  | reference name => .ok (scopes.lookup name)
  | list items => do return .list (← evalAll scopes items)
  | member subject name => do (← subject.eval scopes).member name
  | item subject key => do
    let v ← subject.eval scopes
    v.item (← key.eval scopes)
  | call function arguments => do
    let values ← evalAll scopes arguments
    match scopes.lookup function with
    | .undefined => callFunction function values
    | _ => .error .invalidOperation
  | filter subject name arguments => do
    let v ← subject.eval scopes
    applyFilter name (v :: (← evalAll scopes arguments))
  | concat left right => do
    let a ← left.eval scopes
    return .text (a.display ++ (← right.eval scopes).display)
  | equal left right => do
    let a ← left.eval scopes
    return .bool (a.same (← right.eval scopes))
  | not operand => do return .bool !(← operand.eval scopes).isTrue
  | and left right => do
    let a ← left.eval scopes
    if a.isTrue then right.eval scopes else return a
  | or left right => do
    let a ← left.eval scopes
    if a.isTrue then return a else right.eval scopes
  | choice test yes no => do
    if (← test.eval scopes).isTrue then yes.eval scopes else no.eval scopes

def evalAll (scopes : Scopes) : List Expression → Rendering (List Value)
  | [] => .ok []
  | e :: rest => do
    let v ← e.eval scopes
    return v :: (← evalAll scopes rest)

end

end Expression

end Dispatchers.Template
