import Dispatchers.Reader
import Dispatchers.Toml.Value

namespace Dispatchers.Toml

open Reader

def isSpace (c : Char) : Bool :=
  c == ' ' || c == '\t'

/-- Control characters, of which only the tab stands inside texts and comments. -/
def isControl (c : Char) : Bool :=
  (c.toNat < 0x20 && c != '\t') || c.toNat == 0x7F

def spaces : Reader Char Unit := do
  let _ ← run isSpace

def lineEnd : Reader Char Unit :=
  exactly ['\n'] <|> exactly ['\r', '\n']

def comment : Reader Char Unit := do
  if ← accepting ['#'] then
    let _ ← run (!isControl ·)

def gaps : Reader Char Unit := do
  spaces
  comment
  let _ ← many (do lineEnd; spaces; comment)

def hexValue? (c : Char) : Option Nat :=
  if c.isDigit then some (c.toNat - '0'.toNat)
  else if 'a' ≤ c ∧ c ≤ 'f' then some (c.toNat - 'a'.toNat + 10)
  else if 'A' ≤ c ∧ c ≤ 'F' then some (c.toNat - 'A'.toNat + 10)
  else none

def codePoint (digits : Nat) : Reader Char Char := do
  let values ← (List.replicate digits ()).mapM fun _ => do
    let c ← take
    hexValue? c
  let n := values.foldl (fun n d => n * 16 + d) 0
  guard n.isValidChar
  return Char.ofNat n

def shortEscapes : List (Char × Char) :=
  [('b', '\x08'), ('t', '\t'), ('n', '\n'), ('f', '\x0c'), ('r', '\r'), ('e', '\x1b'), ('"', '"'),
    ('\\', '\\')]

def escape : Reader Char Char := do
  exactly ['\\']
  let c ← take
  match c with
  | 'x' => codePoint 2
  | 'u' => codePoint 4
  | 'U' => codePoint 8
  | c => shortEscapes.lookup c

def some1 (p : Char → Bool) : Reader Char (List Char) := do
  let found ← run p
  guard (found ≠ [])
  return found

def basicText : Reader Char String := do
  exactly ['"']
  let parts ← many (some1 (fun c => !isControl c && c != '"' && c != '\\') <|>
    (do return [← escape]))
  exactly ['"']
  return String.ofList parts.flatten

def literalText : Reader Char String := do
  exactly ['\'']
  let body ← run fun c => !isControl c && c != '\''
  exactly ['\'']
  return String.ofList body

/-- Line ends inside a text are line feeds. -/
def textLineEnd : Reader Char (List Char) := do
  lineEnd
  return ['\n']

/-- A backslash at the end of a line, which joins the text behind the next blanks to it. -/
def joinedLines : Reader Char (List Char) := do
  exactly ['\\']
  spaces
  lineEnd
  let _ ← many (some1 isSpace <|> textLineEnd)
  return []

/-- One or two quotes that do not end the text. -/
def quotesInside (quote : Char) : Reader Char (List Char) := do
  let found ← some1 (· == quote)
  guard (found.length < 3)
  return found

/-- Three quotes end the text; up to two more before them belong to it. -/
def closingQuotes (quote : Char) : Reader Char (List Char) := do
  let found ← run (· == quote)
  guard (3 ≤ found.length ∧ found.length ≤ 5)
  return found.drop 3

/-- A text of several lines between triple quotes, without the line end that it starts with. -/
def longText (quote : Char) (part : Reader Char (List Char)) : Reader Char String := do
  exactly [quote, quote, quote]
  let _ ← maybe lineEnd
  let parts ← many (part <|> textLineEnd <|> quotesInside quote)
  let last ← closingQuotes quote
  return String.ofList (parts.flatten ++ last)

def longBasicText : Reader Char String :=
  longText '"' (some1 (fun c => !isControl c && c != '"' && c != '\\') <|>
    (do return [← escape]) <|> joinedLines)

def longLiteralText : Reader Char String :=
  longText '\'' (some1 fun c => !isControl c && c != '\'')

def text : Reader Char String :=
  longBasicText <|> longLiteralText <|> basicText <|> literalText

def isBareKeyChar (c : Char) : Bool :=
  c.isAlphanum || c == '-' || c == '_'

def simpleKey : Reader Char String :=
  (do return String.ofList (← some1 isBareKeyChar)) <|> basicText <|> literalText

def key : Reader Char (List String) :=
  separatedBy (do spaces; exactly ['.']; spaces) simpleKey

def entry (value : Reader Char Value) : Reader Char (List String × Value) := do
  let path ← key
  spaces
  exactly ['=']
  spaces
  return (path, ← value)

def items {α : Type} (closing : Char) (item : Reader Char α) : Reader Char (List α) := do
  gaps
  let found ← maybe (separatedBy (do gaps; exactly [',']; gaps) item)
  gaps
  if found.isSome then
    let _ ← accepting [',']
    gaps
  exactly [closing]
  return found.getD []

def inlineTable? (found : List (List String × Value)) : Option Value := do
  let entries ← found.foldlM (fun entries (path, v) => do
    Entries.defineAt path.dropLast (← path.getLast?) v .header entries) []
  return .table .inline entries

def value : Nat → Reader Char Value
  | 0 => failure
  | depth + 1 =>
    (do return .text (← text)) <|>
    (do exactly "true".toList; return .bool true) <|>
    (do exactly "false".toList; return .bool false) <|>
    (do exactly ['[']; return .list (← items ']' (value depth))) <|>
    (do
      exactly ['\x7b']
      let found ← items '\x7d' (entry (value depth))
      inlineTable? found)

inductive Line where
  | blank
  | entry (path : List String) (v : Value)
  | header (path : List String)
  | repeated (path : List String)

def line (depth : Nat) : Reader Char Line := do
  spaces
  let found ←
    (do
      exactly ['[', '[']
      spaces
      let path ← key
      spaces
      exactly [']', ']']
      return Line.repeated path) <|>
    (do
      exactly ['[']
      spaces
      let path ← key
      spaces
      exactly [']']
      return Line.header path) <|>
    (do
      let (path, v) ← entry (value depth)
      return Line.entry path v) <|>
    pure Line.blank
  spaces
  comment
  return found

def lines (depth : Nat) : Reader Char (List Line) :=
  separatedBy lineEnd (line depth)

structure Building where
  root : Entries
  current : List String

namespace Building

def start : Building :=
  ⟨[], []⟩

def atHeader (b : Building) (path : List String) (change : String → Entries → Option Entries) :
    Option Building := do
  let last ← path.getLast?
  let root ← Entries.changeAt .implied (fun _ entries => change last entries) path.dropLast .header
    b.root
  return ⟨root, path⟩

def add (b : Building) : Line → Option Building
  | .blank => some b
  | .entry path v => do
    let last ← path.getLast?
    let root ← Entries.changeAt .implied (Entries.defineAt path.dropLast last v) b.current .header
      b.root
    return { b with root }
  | .header path => b.atHeader path Entries.openTable
  | .repeated path => b.atHeader path Entries.addTable

end Building

def parse? (source : String) : Option Value := do
  let all := source.toList
  let body := if all.head? = some '\ufeff' then all.tail else all
  let found ← (lines body.length).readAll? body
  let built ← found.foldlM Building.add Building.start
  return .table .header built.root

end Dispatchers.Toml
