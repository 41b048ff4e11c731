import Dispatchers.Dictionary

namespace Dispatchers.Template

inductive Value where
  /-- What a name stands for that nothing binds. -/
  | undefined
  | none
  | bool (b : Bool)
  | number (n : Int)
  | text (s : String)
  | list (items : List Value)
  /-- Values by key, in order of the keys. -/
  | map (entries : List (String × Value))
deriving Inhabited

namespace Value

def ofDictionary (d : Dictionary Value) : Value :=
  .map d.entries

def ofTexts (texts : List String) : Value :=
  .list (texts.map .text)

def ofNumber (n : Nat) : Value :=
  .number n

/-- A map with the given entries; of entries with one key the last counts. -/
def record (entries : List (String × Value)) : Value :=
  ofDictionary (Dictionary.ofList entries)

/-- Whatever is empty, zero or absent is false. -/
def isTrue : Value → Bool
  | undefined | none => false
  | bool b => b
  | number n => n != 0
  | text s => s != ""
  | list items => !items.isEmpty
  | map entries => !entries.isEmpty

def hexText (n : Nat) : String :=
  String.ofList (Nat.toDigits 16 n)

def quotedChar (c : Char) : String :=
  if c = '"' then "\\\""
  else if c = '\\' then "\\\\"
  else if c = '\n' then "\\n"
  else if c = '\r' then "\\r"
  else if c = '\t' then "\\t"
  else if c.toNat = 0 then "\\0"
  else if c.toNat < 0x20 ∨ (0x7F ≤ c.toNat ∧ c.toNat < 0xA0) then
    "\\u\x7b" ++ hexText c.toNat ++ "\x7d"
  else c.toString

def quotedText (s : String) : String :=
  "\"" ++ String.join (s.toList.map quotedChar) ++ "\""

def numberText (n : Int) : String :=
  toString n

def boolText (b : Bool) : String :=
  if b then "True" else "False"

mutual

def inner : Value → String
  | undefined => "undefined"
  | none => "None"
  | bool b => boolText b
  | number n => numberText n
  | text s => quotedText s
  | list items => "[" ++ ", ".intercalate (innerItems items) ++ "]"
  | map entries => "\x7b" ++ ", ".intercalate (innerEntries entries) ++ "\x7d"

def innerItems : List Value → List String
  | [] => []
  | v :: rest => v.inner :: innerItems rest

def innerEntries : List (String × Value) → List String
  | [] => []
  | (key, v) :: rest => (quotedText key ++ ": " ++ v.inner) :: innerEntries rest

end

def display : Value → String
  | undefined => ""
  | text s => s
  | v => v.inner

mutual

/-- Truth values count as the numbers 0 and 1. -/
def same : Value → Value → Bool
  | undefined, undefined | none, none => true
  | bool a, bool b => a == b
  | bool a, number n | number n, bool a => n == if a then 1 else 0
  | number m, number n => m == n
  | text a, text b => a == b
  | list a, list b => sameItems a b
  | map a, map b => sameEntries a b
  | _, _ => false

def sameItems : List Value → List Value → Bool
  | [], [] => true
  | a :: as, b :: bs => same a b && sameItems as bs
  | _, _ => false

def sameEntries : List (String × Value) → List (String × Value) → Bool
  | [], [] => true
  | (j, a) :: as, (k, b) :: bs => j == k && same a b && sameEntries as bs
  | _, _ => false

end

end Value

end Dispatchers.Template
