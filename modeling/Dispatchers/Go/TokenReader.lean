import Dispatchers.Reader
import Dispatchers.Go.Token

namespace Dispatchers.Go

abbrev TokenReader := Reader Token

namespace TokenReader

open Reader

variable {α : Type}

def nextIs (text : String) : TokenReader Bool := do
  let t ← peek
  return (t.kind == .operator || t.kind == .keyword) && t.text == text

def nextIsKind (kind : TokenKind) : TokenReader Bool := do
  return (← peek).kind == kind

def expect (text : String) : TokenReader Token := do
  guard (← nextIs text)
  take

def accept (text : String) : TokenReader Bool := do
  if ← nextIs text then
    let _ ← take
    return true
  else return false

def ofKind (kind : TokenKind) : TokenReader Token := do
  guard (← nextIsKind kind)
  take

def name : TokenReader String := do
  let t ← ofKind .name
  guard (Token.isName t.text)
  return t.text

def terminator : TokenReader Token :=
  expect ";" <|> ofKind .newline

def separated (mark : String) (p : TokenReader α) : TokenReader (List α) :=
  separatedBy (expect mark) p

def sourceOf (p : TokenReader α) : TokenReader String := do
  return Token.source (← takenBy p).2

end TokenReader

end Dispatchers.Go
