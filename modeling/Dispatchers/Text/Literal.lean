
namespace Dispatchers.Text

def hexDigit (n : Nat) : Char :=
  Nat.digitChar n

/-- Control characters without a short escape are written with two hexadecimal digits. -/
def escapeChar (c : Char) : List Char :=
  if c = '"' then ['\\', '"']
  else if c = '\\' then ['\\', '\\']
  else if c = '\n' then ['\\', 'n']
  else if c = '\r' then ['\\', 'r']
  else if c = '\t' then ['\\', 't']
  else if c.toNat < 0x20 ∨ c.toNat = 0x7F then
    ['\\', 'x', hexDigit (c.toNat / 16), hexDigit (c.toNat % 16)]
  else [c]

def escape (s : List Char) : List Char :=
  s.flatMap escapeChar

def quote (s : String) : String :=
  String.ofList ('"' :: (escape s.toList ++ ['"']))

/-- Resolves the escapes of one character; any other backslash stays. -/
def unescape : List Char → List Char
  | [] => []
  | '\\' :: 'n' :: r => '\n' :: unescape r
  | '\\' :: 't' :: r => '\t' :: unescape r
  | '\\' :: 'r' :: r => '\r' :: unescape r
  | '\\' :: '\\' :: r => '\\' :: unescape r
  | '\\' :: '"' :: r => '"' :: unescape r
  | '\\' :: '\'' :: r => '\'' :: unescape r
  | '\\' :: c :: r => '\\' :: c :: unescape r
  | c :: r => c :: unescape r

def between? (mark : Char) (s : List Char) : Option (List Char) :=
  match s with
  | [] => none
  | c :: r => if c = mark ∧ r.getLast? = some mark then some r.dropLast else none

def literalValue (s : List Char) : List Char :=
  match between? '`' s with
  | some body => body
  | none =>
    match between? '"' s with
    | some body => unescape body
    | none => s

end Dispatchers.Text
