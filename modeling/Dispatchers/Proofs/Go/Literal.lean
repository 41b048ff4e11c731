import Dispatchers.Go.Lexer
import Dispatchers.Proofs.Go.TagBytes
import Dispatchers.Text.Literal

namespace Dispatchers.Go.Literal

open Text

def digit? (base : Nat) (c : Char) : Option Nat :=
  let value :=
    if '0' ≤ c ∧ c ≤ '9' then c.toNat - 48
    else if 'a' ≤ c ∧ c ≤ 'f' then c.toNat - 87
    else if 'A' ≤ c ∧ c ≤ 'F' then c.toNat - 55
    else base
  if value < base then some value else none

def number? (base count : Nat) (s : List Char) : Option Nat :=
  if s.length < count then none
  else (s.take count).foldlM (fun n c => (digit? base c).map (n * base + ·)) 0

def byte? (n : Nat) : Option (List UInt8) :=
  if n < 256 then some [n.toUInt8] else none

def codePoint? (n : Nat) : Option (List UInt8) :=
  if n.isValidChar then some (String.utf8EncodeChar (Char.ofNat n)) else none

def letters : List (Char × UInt8) :=
  [('a', 7), ('b', 8), ('t', 9), ('n', 10), ('v', 11), ('f', 12), ('r', 13), ('"', 34), ('\\', 92)]

/-- The bytes of an escape and the number of characters it takes behind its backslash. -/
def escape? : List Char → Option (List UInt8 × Nat)
  | [] => none
  | 'x' :: r => do return (← byte? (← number? 16 2 r), 3)
  | 'u' :: r => do return (← codePoint? (← number? 16 4 r), 5)
  | 'U' :: r => do return (← codePoint? (← number? 16 8 r), 9)
  | c :: r =>
    match letters.lookup c with
    | some b => some ([b], 1)
    | none => do return (← byte? (← number? 8 3 (c :: r)), 3)

/-- The bytes that a literal denotes and what follows it, read behind its opening quote. -/
def body? (s : List Char) : Option (List UInt8 × List Char) :=
  match s with
  | [] => none
  | c :: r =>
    if c = '"' then some ([], r)
    else if c = '\n' then none
    else if c = '\\' then
      match escape? r with
      | none => none
      | some (bytes, count) => (body? (r.drop count)).map fun found => (bytes ++ found.1, found.2)
    else (body? r).map fun found => (String.utf8EncodeChar c ++ found.1, found.2)
termination_by s.length
decreasing_by all_goals simp only [List.length_drop, List.length_cons]; omega

def literal? : List Char → Option (List UInt8 × List Char)
  | '"' :: r => body? r
  | _ => none

def IsControl (c : Char) : Prop :=
  c.toNat < 0x20 ∨ c.toNat = 0x7F

instance (c : Char) : Decidable (IsControl c) :=
  inferInstanceAs (Decidable (_ ∨ _))

inductive IsEscape : List Char → Prop
  | letter {c : Char} (known : c ∈ ['"', '\\', 'n', 'r', 't']) : IsEscape ['\\', c]
  | byte {high low : Char} (isHigh : (digit? 16 high).isSome) (isLow : (digit? 16 low).isSome) :
      IsEscape ['\\', 'x', high, low]

inductive IsBody : List Char → Prop
  | nil : IsBody []
  | plain {c : Char} {rest : List Char} (unquoted : c ≠ '"') (unescaped : c ≠ '\\')
      (isBody : IsBody rest) : IsBody (c :: rest)
  | escape {text rest : List Char} (isEscape : IsEscape text) (isBody : IsBody rest) :
      IsBody (text ++ rest)

structure IsLiteral (text : List Char) : Prop where
  quoted : ∃ body, text = '"' :: (body ++ ['"']) ∧ IsBody body
  visible : ∀ c ∈ text, ¬IsControl c

inductive ShortForm : Char → Char → Prop
  | quote : ShortForm '"' '"'
  | backslash : ShortForm '\\' '\\'
  | lineFeed : ShortForm '\n' 'n'
  | carriageReturn : ShortForm '\r' 'r'
  | tab : ShortForm '\t' 't'

def IsNumbered (c : Char) : Prop :=
  IsControl c ∧ c ≠ '\n' ∧ c ≠ '\r' ∧ c ≠ '\t'

instance (c : Char) : Decidable (IsNumbered c) :=
  inferInstanceAs (Decidable (_ ∧ _))

/-- The three ways in which a character is written. -/
inductive Written : Char → List Char → Prop
  | short {c letter : Char} (known : ShortForm c letter) : Written c ['\\', letter]
  | byte {c : Char} (numbered : IsNumbered c) :
      Written c ['\\', 'x', hexDigit (c.toNat / 16), hexDigit (c.toNat % 16)]
  | plain {c : Char} (visible : ¬IsControl c) (unquoted : c ≠ '"') (unescaped : c ≠ '\\') :
      Written c [c]

theorem written_escapeChar (c : Char) : Written c (escapeChar c) := by
  unfold escapeChar
  split_ifs with quote backslash lineFeed carriageReturn tab control
  · subst quote
    exact .short .quote
  · subst backslash
    exact .short .backslash
  · subst lineFeed
    exact .short .lineFeed
  · subst carriageReturn
    exact .short .carriageReturn
  · subst tab
    exact .short .tab
  · exact .byte ⟨control, lineFeed, carriageReturn, tab⟩
  · exact .plain control quote backslash

theorem digit?_hexDigit : ∀ n < 16, digit? 16 (hexDigit n) = some n := by
  decide

theorem visible_hexDigit : ∀ n < 16, ¬IsControl (hexDigit n) := by
  decide

theorem isHex_hexDigit : ∀ n < 16, Lexer.isHex (hexDigit n) = true := by
  decide

theorem hexDigit_ne_backslash : ∀ n < 16, hexDigit n ≠ '\\' := by
  decide

theorem ne_lineFeed {c : Char} (visible : ¬IsControl c) : c ≠ '\n' := by
  rintro rfl
  exact visible (by decide)

theorem IsNumbered.ascii {c : Char} (numbered : IsNumbered c) : c.toNat < 128 := by
  obtain ⟨control, -⟩ := numbered
  unfold IsControl at control
  omega

theorem number?_hexDigits {n : Nat} (small : n < 256) (rest : List Char) :
    number? 16 2 (hexDigit (n / 16) :: hexDigit (n % 16) :: rest) = some n := by
  have high : digit? 16 (hexDigit (n / 16)) = some (n / 16) := digit?_hexDigit _ (by omega)
  have low : digit? 16 (hexDigit (n % 16)) = some (n % 16) := digit?_hexDigit _ (by omega)
  have whole : n / 16 * 16 + n % 16 = n := Nat.div_add_mod' n 16
  simp [number?, high, low, whole]

section Written

variable {c : Char} {text : List Char}

theorem Written.isBody (written : Written c text) {rest : List Char} (isBody : IsBody rest) :
    IsBody (text ++ rest) := by
  cases written with
  | short known =>
    refine .escape (.letter ?_) isBody
    cases known <;> decide
  | byte numbered =>
    have small := numbered.ascii
    refine .escape (.byte ?_ ?_) isBody
    · rw [digit?_hexDigit _ (by omega)]
      rfl
    · rw [digit?_hexDigit _ (by omega)]
      rfl
  | plain _ unquoted unescaped => exact .plain unquoted unescaped isBody

theorem ShortForm.visible {letter : Char} (known : ShortForm c letter) : ¬IsControl letter := by
  cases known <;> decide

theorem Written.visible (written : Written c text) : ∀ d ∈ text, ¬IsControl d := by
  have backslash : ¬IsControl '\\' := by decide
  cases written with
  | short known => simpa using ⟨backslash, known.visible⟩
  | byte numbered =>
    have small := numbered.ascii
    have mark : ¬IsControl 'x' := by decide
    simpa using ⟨backslash, mark, visible_hexDigit _ (by omega), visible_hexDigit _ (by omega)⟩
  | plain visible => simpa using visible

theorem Written.body? (written : Written c text) (rest : List Char) :
    body? (text ++ rest) =
      (body? rest).map fun found => (String.utf8EncodeChar c ++ found.1, found.2) := by
  cases written with
  | short known => cases known <;> rw [List.cons_append, Literal.body?] <;> rfl
  | byte numbered =>
    have small := numbered.ascii
    have bytes : byte? c.toNat = some (String.utf8EncodeChar c) := by
      rw [Tag.utf8EncodeChar_ascii small, byte?, if_pos (by omega)]
    have digits := number?_hexDigits (n := c.toNat) (by omega) rest
    rw [List.cons_append, Literal.body?]
    simp [escape?, digits, bytes]
  | plain visible unquoted unescaped =>
    rw [List.cons_append, Literal.body?, if_neg unquoted,
      if_neg (ne_lineFeed visible), if_neg unescaped]
    rfl

theorem Written.stringBody? (written : Written c text) (rest : List Char) :
    Lexer.stringBody? (text ++ rest) =
      (Lexer.stringBody? rest).map fun cut => (text ++ cut.1, cut.2) := by
  cases written with
  | short known => cases known <;> simp [Lexer.stringBody?, Lexer.stringEscape?]
  | byte numbered =>
    have small := numbered.ascii
    have high : Lexer.isHex (hexDigit (c.toNat / 16)) = true := isHex_hexDigit _ (by omega)
    have low : Lexer.isHex (hexDigit (c.toNat % 16)) = true := isHex_hexDigit _ (by omega)
    simp [Lexer.stringBody?, Lexer.stringEscape?, Lexer.exactly?, high, low]
    omega
  | plain visible unquoted unescaped =>
    have inLine := ne_lineFeed visible
    simp [Lexer.stringBody?]

theorem Written.unescape (written : Written c text) (rest : List Char) :
    unescape (text ++ rest) = (if IsNumbered c then text else [c]) ++ unescape rest := by
  cases written with
  | short known => cases known <;> rfl
  | byte numbered =>
    have small := numbered.ascii
    have high : hexDigit (c.toNat / 16) ≠ '\\' := hexDigit_ne_backslash _ (by omega)
    have low : hexDigit (c.toNat % 16) ≠ '\\' := hexDigit_ne_backslash _ (by omega)
    rw [if_pos numbered]
    simp [Text.unescape, high, low]
  | plain visible _ unescaped =>
    rw [if_neg fun numbered => visible numbered.1]
    simp [Text.unescape, unescaped]

end Written

theorem toList_quote (s : String) : (quote s).toList = '"' :: (escape s.toList ++ ['"']) :=
  String.toList_ofList

theorem isBody_escape (s : List Char) : IsBody (escape s) := by
  induction s with
  | nil => exact .nil
  | cons c s ih => exact (written_escapeChar c).isBody ih

theorem isLiteral_quote (s : String) : IsLiteral (quote s).toList := by
  rw [toList_quote]
  refine ⟨⟨_, rfl, isBody_escape s.toList⟩, ?_⟩
  have quote : ¬IsControl '"' := by decide
  intro d member
  rcases List.mem_cons.mp member with rfl | member
  · exact quote
  rcases List.mem_append.mp member with member | member
  · obtain ⟨c, -, written⟩ := List.mem_flatMap.mp member
    exact (written_escapeChar c).visible d written
  · rw [List.mem_singleton.mp member]
    exact quote

theorem body?_escape (s rest : List Char) :
    body? (escape s ++ '"' :: rest) = some (Tag.bytesOf s, rest) := by
  induction s with
  | nil => rw [escape, List.flatMap_nil, List.nil_append, body?, if_pos rfl, Tag.bytesOf_nil]
  | cons c s ih =>
    have step := (written_escapeChar c).body? (escape s ++ '"' :: rest)
    rw [← List.append_assoc, ih] at step
    exact step

theorem literal?_quote (s : String) (rest : List Char) :
    literal? ((quote s).toList ++ rest) = some (s.toUTF8.data.toList, rest) := by
  rw [toList_quote, List.cons_append, List.append_assoc, List.singleton_append, literal?,
    body?_escape, Tag.toUTF8_eq]

theorem quote_injective : Function.Injective quote := by
  intro s t same
  have bytes := literal?_quote s []
  rw [same, literal?_quote, Option.some.injEq, Prod.mk.injEq, Array.toList_inj] at bytes
  exact (String.toByteArray_inj.mp (ByteArray.ext bytes.1)).symm

/-- A quoted text is a literal of its own, which denotes this text whatever stands behind it. -/
theorem quote_denotes :
    (∀ s, IsLiteral (quote s).toList ∧
      ∀ rest, literal? ((quote s).toList ++ rest) = some (s.toUTF8.data.toList, rest)) ∧
    Function.Injective quote :=
  ⟨fun s => ⟨isLiteral_quote s, literal?_quote s⟩, quote_injective⟩

/-- What comes back for a character that was written: the escape of a number is not resolved. -/
def readBack (c : Char) : List Char :=
  if IsNumbered c then escapeChar c else [c]

theorem unescape_escape (s : List Char) : unescape (escape s) = s.flatMap readBack := by
  induction s with
  | nil => rfl
  | cons c s ih =>
    rw [List.flatMap_cons, ← ih]
    exact (written_escapeChar c).unescape (escape s)

theorem escapeChar_of_isNumbered {c : Char} (numbered : IsNumbered c) :
    ∃ rest, escapeChar c = '\\' :: rest := by
  have written := written_escapeChar c
  generalize escapeChar c = text at written
  cases written with
  | short => exact ⟨_, rfl⟩
  | byte => exact ⟨_, rfl⟩
  | plain visible => exact absurd numbered.1 visible

theorem flatMap_readBack_eq_iff {s : List Char} :
    s.flatMap readBack = s ↔ ∀ c ∈ s, ¬IsNumbered c := by
  induction s with
  | nil => simp
  | cons c s ih =>
    rw [List.flatMap_cons, List.forall_mem_cons, ← ih, readBack]
    split
    next numbered =>
      -- What comes back starts with a backslash, which is no control character.
      obtain ⟨rest, text⟩ := escapeChar_of_isNumbered numbered
      have other : '\\' ≠ c := by
        rintro rfl
        exact absurd numbered (by decide)
      simp [text, other, numbered]
    next plain => simp [plain]

theorem literalValue_toList_quote (s : String) :
    literalValue (quote s).toList = unescape (escape s.toList) := by
  have unmarked : between? '`' ('"' :: (escape s.toList ++ ['"'])) = none := by simp [between?]
  have inside : between? '"' ('"' :: (escape s.toList ++ ['"'])) = some (escape s.toList) := by
    simp [between?]
  rw [toList_quote, literalValue, unmarked]
  simp only [inside]

theorem lexeme?_quote (s : String) (rest : List Char) :
    Lexer.lexeme? ((quote s).toList ++ rest) = some (.string, (quote s).toList, rest) := by
  have body : Lexer.stringBody? (escape s.toList ++ '"' :: rest) =
      some (escape s.toList ++ ['"'], rest) := by
    induction s.toList with
    | nil => rw [escape, List.flatMap_nil, List.nil_append, Lexer.stringBody?]; rfl
    | cons c s ih =>
      have step := (written_escapeChar c).stringBody? (escape s ++ '"' :: rest)
      rw [← List.append_assoc, ih, Option.map_some, ← List.append_assoc] at step
      exact step
  rw [toList_quote, List.cons_append, List.append_assoc, List.singleton_append, Lexer.lexeme?, body]
  rfl

/-- A written literal is read as a whole, and its text comes back exactly if no character of it is
written by its number. -/
theorem literalValue_quote (s : String) :
    (∀ rest, Lexer.lexeme? ((quote s).toList ++ rest) = some (.string, (quote s).toList, rest)) ∧
    (quote s).toList = '"' :: (escape s.toList ++ ['"']) ∧
    literalValue (quote s).toList = unescape (escape s.toList) ∧
    unescape (escape s.toList) = s.toList.flatMap readBack ∧
    (unescape (escape s.toList) = s.toList ↔ ∀ c ∈ s.toList, ¬IsNumbered c) := by
  refine ⟨lexeme?_quote s, toList_quote s, literalValue_toList_quote s, unescape_escape s.toList, ?_⟩
  rw [unescape_escape]
  exact flatMap_readBack_eq_iff

theorem unescape_escape_control :
    unescape (escape "a\x01".toList) = "a\\x01".toList ∧
      ¬∀ s : String, unescape (escape s.toList) = s.toList := by
  refine ⟨by decide, fun always => ?_⟩
  exact absurd (always "a\x01") (by decide)

end Dispatchers.Go.Literal
