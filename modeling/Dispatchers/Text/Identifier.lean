import Dispatchers.Text.Letter

namespace Dispatchers.Text

def lowerFirst (s : String) : String :=
  match s.toList with
  | [] => s
  | c :: r => String.ofList (toLowercase c ++ r)

def upperFirst (s : String) : String :=
  match s.toList with
  | [] => s
  | c :: r => String.ofList (toUppercase c ++ r)

def isExported (name : String) : Bool :=
  name.toList.head?.any isUppercase

/-- An upper-case letter starts a word after a lower-case letter or an ASCII digit, and after an
upper-case letter when a lower-case one follows. -/
def startsWord (previous next : Option Char) : Bool :=
  match previous with
  | none => false
  | some p =>
    p != '_' && (isLowercase p || p.isDigit || (isUppercase p && next.any isLowercase))

/-- Words in lower case, given the character before. -/
def snakeAfter (previous : Option Char) : List Char → List Char
  | [] => []
  | c :: r =>
    let rest := snakeAfter (some c) r
    if isUppercase c then
      if startsWord previous r.head? then '_' :: (toLowercase c ++ rest) else toLowercase c ++ rest
    else c :: rest

def snakeCase (s : String) : String :=
  String.ofList (snakeAfter none s.toList)

end Dispatchers.Text
