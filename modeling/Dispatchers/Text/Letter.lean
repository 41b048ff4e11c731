import Dispatchers.Text.CaseRuns
import Dispatchers.Text.LetterRuns

namespace Dispatchers.Text

def isUppercase (c : Char) : Bool :=
  if c.toNat < 128 then c.isUpper else uppercaseRuns.any (·.contains c.toNat)

def isLowercase (c : Char) : Bool :=
  if c.toNat < 128 then c.isLower else lowercaseRuns.any (·.contains c.toNat)

/-- The listed sequence for `n`, else its shift, else `n` itself. -/
def mapped (expansions : List (Nat × List Nat)) (shifts : List Shift) (n : Nat) :
    List Nat :=
  match expansions.lookup n with
  | some ns => ns
  | none => [(shifts.findSome? (·.image? n)).getD n]

def toUppercase (c : Char) : List Char :=
  if c.toNat < 128 then [c.toUpper]
  else (mapped upperExpansions upperShifts c.toNat).map Char.ofNat

def toLowercase (c : Char) : List Char :=
  if c.toNat < 128 then [c.toLower]
  else (mapped lowerExpansions lowerShifts c.toNat).map Char.ofNat

def isLetter (c : Char) : Bool :=
  if c.toNat < 128 then c.isAlpha else letterRuns.any (·.contains c.toNat)

def isDecimalDigit (c : Char) : Bool :=
  if c.toNat < 128 then c.isDigit else digitRuns.any (·.contains c.toNat)

/-- Letters, marks, decimal digits and connectors such as the underscore. -/
def isWord (c : Char) : Bool :=
  if c.toNat < 128 then c.isAlphanum || c == '_'
  else letterRuns.any (·.contains c.toNat) || wordRuns.any (·.contains c.toNat)

def lowercase (s : String) : String :=
  String.ofList (s.toList.flatMap toLowercase)

end Dispatchers.Text
