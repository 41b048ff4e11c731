import Dispatchers.Reader
import Dispatchers.Template.Token
import Dispatchers.Text.Blank

namespace Dispatchers.Template

open Reader

namespace Token

def isBlank (c : Char) : Bool :=
  [' ', '\t', '\n', '\r', '\x0c'].contains c

def isNameStart (c : Char) : Bool :=
  c.isAlpha || c == '_'

def isNameChar (c : Char) : Bool :=
  isNameStart c || c.isDigit

def escapes : List (Char × Char) :=
  [('"', '"'), ('\'', '\''), ('\\', '\\'), ('/', '/'), ('b', '\x08'), ('f', '\x0c'), ('n', '\n'),
    ('r', '\r'), ('t', '\t')]

def readTextChar (delimiter : Char) : Reader Char Char := do
  let c ← take
  if c = '\\' then
    let escaped ← take
    match escapes.lookup escaped with
    | some d => return d
    | none => failure
  else
    guard (c ≠ delimiter)
    return c

def readText (delimiter : Char) : Reader Char Token := do
  exactly [delimiter]
  let body ← many (readTextChar delimiter)
  exactly [delimiter]
  return .text (String.ofList body)

def marks : List String :=
  ["==", "=", "~", "|", ".", ",", "(", ")", "[", "]"]

def readMark : Reader Char Token :=
  marks.foldr (fun s others => (do exactly s.toList; return .mark s) <|> others) failure

def readNumber : Reader Char Token := do
  let first ← satisfying Char.isDigit
  let more ← run Char.isDigit
  return .number ((first :: more).foldl (fun n d => n * 10 + (d.toNat - '0'.toNat)) 0)

def readName : Reader Char Token := do
  let first ← satisfying isNameStart
  let more ← run isNameChar
  return .name (String.ofList (first :: more))

def read : Reader Char Token := do
  let _ ← run isBlank
  readName <|> readNumber <|> readText '\'' <|> readText '"' <|> readMark

end Token

namespace Tag

def readMargin : Reader Char Margin := do
  if ← accepting ['-'] then return .strip
  else if ← accepting ['+'] then return .keep
  else return .standard

def commentBody : Reader Char (List Char)
  | [] => none
  | '#' :: '>' :: r => some ([], r)
  | c :: r => (commentBody r).map fun (body, rest) => (c :: body, rest)

def marginOf (body : List Char) : Margin :=
  match body.getLast? with
  | some '-' => .strip
  | some '+' => .keep
  | _ => .standard

def read : Reader Char Tag := do
  exactly ['<']
  let mark ← take
  match TagKind.ofMark? mark with
  | none => failure
  | some .comment =>
    let before ← readMargin
    let body ← commentBody
    return ⟨.comment, before, [], marginOf body⟩
  | some kind =>
    let before ← readMargin
    let tokens ← many Token.read
    let _ ← run Token.isBlank
    let after ← readMargin
    exactly [kind.mark, '>']
    return ⟨kind, before, tokens, after⟩

def isStart : List Char → Bool
  | '<' :: c :: _ => (TagKind.ofMark? c).isSome
  | _ => false

def textBefore : List Char → List Char × List Char
  | [] => ([], [])
  | c :: r =>
    if isStart (c :: r) then ([], c :: r)
    else
      let (text, rest) := textBefore r
      (c :: text, rest)

def readAll : Reader Char (List (List Char × Tag) × List Char) := do
  let text : Reader Char (List Char) := fun input => some (textBefore input)
  let tags ← many (do return (← text, ← read))
  return (tags, ← text)

end Tag

inductive Segment where
  | text (s : String)
  | output (tokens : List Token)
  | statement (tokens : List Token)
deriving DecidableEq

namespace Segment

def isLineEnd (c : Char) : Bool :=
  c == '\n' || c == '\r'

def isIndent (c : Char) : Bool :=
  Text.isBlank c && !isLineEnd c

/-- Whether only blanks stand between the last line end and the end of `text`; `before` answers for
what precedes it. -/
def startsLine (before : Bool) (text : List Char) : Bool :=
  match text.reverse.dropWhile isIndent with
  | [] => before
  | c :: _ => isLineEnd c

def dropLineEnd (text : List Char) : List Char :=
  let r := if text.head? = some '\r' then text.tail else text
  if r.head? = some '\n' then r.tail else r

def behind (tag : Tag) (text : List Char) : List Char :=
  match tag.after with
  | .strip => Text.trimStart text
  | .keep => text
  | .standard => if tag.kind = .output then text else dropLineEnd text

def ahead (tag : Tag) (atLineStart : Bool) (text : List Char) : List Char :=
  match tag.before with
  | .strip => Text.trimEnd text
  | .keep => text
  | .standard =>
    if tag.kind ≠ .output ∧ atLineStart then (text.reverse.dropWhile isIndent).reverse else text

def ofText (text : List Char) : List Segment :=
  if text = [] then [] else [.text (String.ofList text)]

def ofTag (tag : Tag) : List Segment :=
  match tag.kind with
  | .statement => [.statement tag.tokens]
  | .output => [.output tag.tokens]
  | .comment => []

/-- The segments of what follows; `shorten` drops what the tag before takes from the text. -/
def layOut (shorten : List Char → List Char) (atLineStart : Bool) (last : List Char) :
    List (List Char × Tag) → List Segment
  | [] => ofText (shorten last)
  | (raw, tag) :: rest =>
    ofText (ahead tag (startsLine atLineStart raw) (shorten raw)) ++ ofTag tag ++
      layOut (behind tag) false last rest

def ofSource? (source : String) : Option (List Segment) := do
  let (tags, last) ← Tag.readAll.readAll? source.toList
  return layOut id true last tags

end Segment

end Dispatchers.Template
