import Dispatchers.Text.Literal

namespace Dispatchers.Go

inductive TagFault where
  | missingKey
  | missingValue
  | unterminatedValue
deriving DecidableEq

def TagFault.reason : TagFault → String
  | .missingKey => "expected tag key"
  | .missingValue => "expected `:\"` after tag key"
  | .unterminatedValue => "unterminated tag value"

/-- A fault and the byte offset where the tag stops being one. -/
structure TagError where
  offset : Nat
  fault : TagFault
deriving DecidableEq

def TagError.message (e : TagError) : String :=
  e.fault.reason ++ " at byte " ++ toString e.offset

structure Tag where
  entries : List (String × String)
deriving DecidableEq

namespace Tag

/-- The value of the first entry with `key`. -/
def get? (tag : Tag) (key : String) : Option String :=
  tag.entries.lookup key

def isEmpty (tag : Tag) : Bool :=
  tag.entries.isEmpty

/-- Keys hold no blanks, control characters, colons or quotes. -/
def isKeyChar (c : Char) : Bool :=
  ' ' < c && c != ':' && c != '"' && c != '\x7f'

def byteLength : List Char → Nat
  | [] => 0
  | c :: r => c.utf8Size + byteLength r

/-- The body of a quoted value and what follows its closing quote; a backslash takes the next
character with it. -/
def closing? : List Char → Option (List Char × List Char)
  | [] => none
  | '"' :: r => some ([], r)
  | '\\' :: c :: r => (closing? r).map fun (body, rest) => ('\\' :: c :: body, rest)
  | c :: r => (closing? r).map fun (body, rest) => (c :: body, rest)

theorem closing?_shorter {s body rest : List Char} (h : closing? s = some (body, rest)) :
    rest.length < s.length := by
  fun_induction closing? s generalizing body rest with
  | case1 => simp at h
  | case2 r =>
    simp only [Option.some.injEq, Prod.mk.injEq] at h
    simp [h.2]
  | case3 c r ih =>
    obtain ⟨⟨b, t⟩, found, same⟩ := Option.map_eq_some_iff.1 h
    simp only [Prod.mk.injEq] at same
    have := ih found
    simp only [← same.2, List.length_cons]
    omega
  | case4 c r _ _ ih =>
    obtain ⟨⟨b, t⟩, found, same⟩ := Option.map_eq_some_iff.1 h
    simp only [Prod.mk.injEq] at same
    have := ih found
    simp only [← same.2, List.length_cons]
    omega

/-- The entries of `s`, which stands `offset` bytes into the tag. -/
def entriesFrom (offset : Nat) (s : List Char) : Except TagError (List (String × String)) :=
  let start := s.dropWhile (· == ' ')
  let position := offset + (s.length - start.length)
  if start = [] then .ok []
  else
    let key := start.takeWhile isKeyChar
    if key = [] then .error ⟨position, .missingKey⟩
    else
      let after := position + byteLength key
      match found : start.dropWhile isKeyChar with
      | ':' :: '"' :: value =>
        have shorter : value.length < start.length := by
          have : (start.dropWhile isKeyChar).length ≤ start.length :=
            (List.dropWhile_sublist isKeyChar).length_le
          rw [found] at this
          simp only [List.length_cons] at this
          omega
        match closed : closing? value with
        | none => .error ⟨after + 2, .unterminatedValue⟩
        | some (body, rest) => do
          let entry := (String.ofList key, String.ofList (Text.unescape body))
          let entries ← entriesFrom (after + 2 + byteLength body + 1) rest
          .ok (entry :: entries)
      | _ => .error ⟨after, .missingValue⟩
termination_by s.length
decreasing_by
  have first : start.length ≤ s.length := (List.dropWhile_sublist (· == ' ')).length_le
  have second := closing?_shorter closed
  omega

def parse (raw : String) : Except TagError Tag :=
  (entriesFrom 0 raw.toList).map Tag.mk

end Tag

end Dispatchers.Go
