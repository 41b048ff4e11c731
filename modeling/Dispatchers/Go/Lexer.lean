import Dispatchers.Go.Token

namespace Dispatchers.Go.Lexer

abbrev Cut := List Char × List Char

/-- Blanks and comments, and whether a line ends in them. -/
structure Gap where
  text : List Char
  comments : List Comment
  newline : Bool
  row : Nat

def isSpace (c : Char) : Bool :=
  c == ' ' || c == '\t' || c == '\n' || c == '\r'

def rowsIn (s : List Char) : Nat :=
  s.count '\n'

def blockComment? : List Char → Option Cut
  | [] => none
  | '*' :: '/' :: r => some (['*', '/'], r)
  | c :: r => (blockComment? r).map fun (text, rest) => (c :: text, rest)

/-- A comment at the head of `s`; an open block comment fails. -/
def comment? (s : List Char) : Option (Option Cut) :=
  match s with
  | '/' :: '/' :: r =>
    some (some ('/' :: '/' :: r.takeWhile (· != '\n'), r.dropWhile (· != '\n')))
  | '/' :: '*' :: r =>
    (blockComment? r).map fun (text, rest) => some ('/' :: '*' :: text, rest)
  | _ => some none

def gapFrom? (gap : Gap) (s : List Char) : Option (Gap × List Char) :=
  match s with
  | [] => some (gap, [])
  | c :: r =>
    if isSpace c then
      let ends := c == '\n'
      gapFrom? ⟨gap.text ++ [c], gap.comments, gap.newline || ends,
        if ends then gap.row + 1 else gap.row⟩ r
    else
      match comment? s with
      | none => none
      | some none => some (gap, s)
      | some (some (text, rest)) =>
        if rest.length ≤ r.length then
          let endRow := gap.row + rowsIn text
          let comment : Comment := ⟨String.ofList text, gap.row, endRow⟩
          gapFrom? ⟨gap.text ++ text, gap.comments ++ [comment],
            gap.newline || decide (0 < rowsIn text), endRow⟩ rest
        else none
termination_by s.length

def isBinary (c : Char) : Bool :=
  c == '0' || c == '1'

def isOctal (c : Char) : Bool :=
  '0' ≤ c && c ≤ '7'

def isHex (c : Char) : Bool :=
  c.isDigit || ('a' ≤ c && c ≤ 'f') || ('A' ≤ c && c ≤ 'F')

/-- Digits with single underscores between them, and possibly before the first. -/
def separated (digit : Char → Bool) (s : List Char) : Bool :=
  match s with
  | [] => true
  | '_' :: c :: r => digit c && separated digit (c :: r)
  | ['_'] => false
  | c :: r => digit c && separated digit r

def digitsCut (s : List Char) : Cut :=
  (s.takeWhile (fun c => isHex c || c == '_'), s.dropWhile (fun c => isHex c || c == '_'))

def decimalCut (s : List Char) : Cut :=
  (s.takeWhile (fun c => c.isDigit || c == '_'), s.dropWhile (fun c => c.isDigit || c == '_'))

def exponent? (lower upper : Char) (s : List Char) : Option Cut :=
  match s with
  | c :: r =>
    if c = lower ∨ c = upper then
      let (sign, digits) := match r with
        | '+' :: t => (['+'], t)
        | '-' :: t => (['-'], t)
        | _ => ([], r)
      let (text, rest) := decimalCut digits
      if text = [] ∨ text.head? = some '_' ∨ !separated Char.isDigit text then none
      else some (c :: (sign ++ text), rest)
    else some ([], s)
  | [] => some ([], [])

def imaginary (text rest : List Char) : Cut :=
  match rest with
  | 'i' :: r => (text ++ ['i'], r)
  | _ => (text, rest)

def prefixed? (mark : List Char) (digit : Char → Bool) (s : List Char) : Option Cut :=
  let (text, rest) := digitsCut s
  if text ≠ [] ∧ separated digit text then some (imaginary (mark ++ text) rest) else none

/-- A hexadecimal number after its mark; one with a fraction needs an exponent. -/
def hexadecimal? (mark : List Char) (s : List Char) : Option Cut := do
  let (whole, rest) := digitsCut s
  let (fraction, rest, dotted) := match rest with
    | '.' :: r => (let (text, rest) := digitsCut r; ('.' :: text, rest, true))
    | _ => ([], rest, false)
  let digits := whole ++ fraction.drop 1
  guard (digits ≠ [] ∧ separated isHex whole ∧ separated isHex (fraction.drop 1))
  let (power, rest) ← exponent? 'p' 'P' rest
  guard (!dotted || power ≠ [])
  return imaginary (mark ++ whole ++ fraction ++ power) rest

/-- A decimal number. A whole number with a leading zero is octal. -/
def decimal? (s : List Char) : Option Cut := do
  let (whole, rest) := decimalCut s
  let (fraction, rest) := match rest with
    | '.' :: r => (let (text, rest) := decimalCut r; ('.' :: text, rest))
    | _ => ([], rest)
  let (power, rest) ← exponent? 'e' 'E' rest
  guard (separated Char.isDigit whole ∧ separated Char.isDigit (fraction.drop 1) ∧
    (fraction.drop 1).head? ≠ some '_')
  let (text, rest') := imaginary (whole ++ fraction ++ power) rest
  let isWhole := fraction = [] ∧ power = [] ∧ text.getLast? ≠ some 'i'
  guard (!(isWhole ∧ 1 < whole.length ∧ whole.head? = some '0' ∧
    !(whole.all fun c => isOctal c || c == '_')))
  return (text, rest')

def number? (s : List Char) : Option Cut :=
  match s with
  | '0' :: x :: r =>
    if x = 'x' ∨ x = 'X' then hexadecimal? ['0', x] r
    else if x = 'o' ∨ x = 'O' then prefixed? ['0', x] isOctal r
    else if x = 'b' ∨ x = 'B' then prefixed? ['0', x] isBinary r
    else decimal? s
  | _ => decimal? s

def exactly? (count : Nat) (digit : Char → Bool) (s : List Char) : Option Cut :=
  let text := s.take count
  if text.length = count ∧ text.all digit then some (text, s.drop count) else none

/-- What follows the backslash of an escape in a string: code points need all their digits, any
other character stands for itself. -/
def stringEscape? (s : List Char) : Option Cut :=
  match s with
  | 'x' :: r => (exactly? 2 isHex r).map fun (t, rest) => ('x' :: t, rest)
  | 'u' :: r => (exactly? 4 isHex r).map fun (t, rest) => ('u' :: t, rest)
  | 'U' :: r => (exactly? 8 isHex r).map fun (t, rest) => ('U' :: t, rest)
  | '\n' :: _ => none
  | c :: r => some ([c], r)
  | [] => none

def runeEscape? (s : List Char) : Option Cut :=
  match s with
  | 'x' :: _ | 'u' :: _ | 'U' :: _ => stringEscape? s
  | c :: r =>
    if isOctal c then exactly? 3 isOctal s
    else if ['a', 'b', 'f', 'n', 'r', 't', 'v', '\\', '\'', '"'].contains c then some ([c], r)
    else none
  | [] => none

def stringBody? (s : List Char) : Option Cut :=
  match s with
  | [] => none
  | '"' :: r => some (['"'], r)
  | '\n' :: _ => none
  | '\\' :: r =>
    match stringEscape? r with
    | none => none
    | some (escape, rest) =>
      if rest.length ≤ r.length then
        (stringBody? rest).map fun (text, last) => ('\\' :: (escape ++ text), last)
      else none
  | c :: r => (stringBody? r).map fun (text, last) => (c :: text, last)
termination_by s.length

def runeBody? (s : List Char) : Option Cut := do
  let (text, rest) ← match s with
    | '\\' :: r => (runeEscape? r).map fun (t, rest) => ('\\' :: t, rest)
    | c :: r => if c = '\'' ∨ c = '\n' then none else some ([c], r)
    | [] => none
  match rest with
  | '\'' :: last => some (text ++ ['\''], last)
  | _ => none

def lexeme? (s : List Char) : Option (TokenKind × Cut) :=
  match s with
  | [] => none
  | '"' :: r => (stringBody? r).map fun (text, rest) => (.string, '"' :: text, rest)
  | '`' :: r =>
    match r.dropWhile (· != '`') with
    | [] => none
    | _ :: rest => some (.string, '`' :: r.takeWhile (· != '`') ++ ['`'], rest)
  | '\'' :: r => (runeBody? r).map fun (text, rest) => (.rune, '\'' :: text, rest)
  | c :: r =>
    if Token.isNameStart c then
      let text := s.takeWhile Token.isNameChar
      let kind := if Token.keywords.contains (String.ofList text) then .keyword else .name
      some (kind, text, s.dropWhile Token.isNameChar)
    else if c.isDigit ∨ (c = '.' ∧ r.head?.any Char.isDigit) then
      (number? s).map fun cut => (.number, cut)
    else
      (Token.operators.find? (·.isPrefixOf s)).map fun operator =>
        (.operator, operator, s.drop operator.length)

/-- The tokens of `s`, which starts in `row` after a token that ends a statement or not. -/
def tokensFrom? (row : Nat) (ending : Bool) (s : List Char) : Option (List Token) :=
  match gapFrom? ⟨[], [], false, row⟩ s with
  | none => none
  | some (gap, rest) =>
    let lineEnd : List Token :=
      if ending && gap.newline then [⟨.newline, "", "", [], row, row⟩] else []
    let space := String.ofList gap.text
    if rest = [] then some (lineEnd ++ [⟨.eof, "", space, gap.comments, gap.row, gap.row⟩])
    else
      match lexeme? rest with
      | none => none
      | some (kind, text, last) =>
        let endRow := gap.row + rowsIn text
        let token : Token := ⟨kind, String.ofList text, space, gap.comments, gap.row, endRow⟩
        if last.length < s.length then
          (tokensFrom? endRow (Token.endsStatement kind token.text) last).map fun tokens =>
            lineEnd ++ token :: tokens
        else none
termination_by s.length

/-- The tokens of a source file, the end of the file as the last; a leading byte order mark is
skipped. -/
def tokens? (source : String) : Option (List Token) :=
  match source.toList with
  | '\uFEFF' :: s => tokensFrom? 0 false s
  | s => tokensFrom? 0 false s

end Dispatchers.Go.Lexer
