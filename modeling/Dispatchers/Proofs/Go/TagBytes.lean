import Dispatchers.Proofs.Go.TagSpelling
import Mathlib.Data.String.Basic

namespace Dispatchers.Go.Tag

def isBlankByte (b : UInt8) : Bool :=
  b == 0x20

def isKeyByte (b : UInt8) : Bool :=
  0x20 < b && b != 0x3a && b != 0x22 && b != 0x7f

def skip (test : UInt8 → Bool) (bytes : List UInt8) (i : Nat) : Nat :=
  if inside : i < bytes.length then
    if test bytes[i] then skip test bytes (i + 1) else i
  else i
termination_by bytes.length - i

/-- The place of the closing quote. A backslash takes the next byte with it, which may lead past
the end. -/
def closingPlace (bytes : List UInt8) (i : Nat) : Nat :=
  if inside : i < bytes.length then
    if bytes[i] = 0x22 then i
    else if bytes[i] = 0x5c then closingPlace bytes (i + 2)
    else closingPlace bytes (i + 1)
  else i
termination_by bytes.length - i

/-- The text between two places of `raw`, if both are between characters. -/
def slice? (raw : String) (first last : Nat) : Option String :=
  if first ≤ last ∧ String.Pos.Raw.IsValid raw ⟨first⟩ ∧ String.Pos.Raw.IsValid raw ⟨last⟩ then
    some (String.Pos.Raw.extract raw ⟨first⟩ ⟨last⟩)
  else none

theorem le_skip (test : UInt8 → Bool) (bytes : List UInt8) (i : Nat) : i ≤ skip test bytes i := by
  fun_induction skip test bytes i <;> omega

theorem le_closingPlace (bytes : List UInt8) (i : Nat) : i ≤ closingPlace bytes i := by
  fun_induction closingPlace bytes i <;> omega

/-- The entries from place `i` on, or nothing if a slice does not stand between characters. -/
def entriesByByte? (raw : String) (i : Nat) : Option (Except TagError (List (String × String))) :=
  let bytes := raw.toUTF8.data.toList
  let first := skip isBlankByte bytes i
  let last := skip isKeyByte bytes first
  if bytes.length ≤ first then some (.ok [])
  else if last = first then some (.error ⟨first, .missingKey⟩)
  else if bytes[last]? = some 0x3a ∧ bytes[last + 1]? = some 0x22 then do
    let key ← slice? raw first last
    let place := closingPlace bytes (last + 2)
    if bytes.length ≤ place then some (.error ⟨last + 2, .unterminatedValue⟩)
    else
      let body ← slice? raw (last + 2) place
      let later ← entriesByByte? raw (place + 1)
      some (later.map ((key, String.ofList (Text.unescape body.toList)) :: ·))
  else some (.error ⟨last, .missingValue⟩)
termination_by raw.toUTF8.data.toList.length - i
decreasing_by
  have blanks := le_skip isBlankByte bytes i
  have keyed := le_skip isKeyByte bytes first
  have closed := le_closingPlace bytes (last + 2)
  simp only [bytes, first, last, place] at *
  omega

/-- Reads a tag by its bytes. The places where the reader stops are always between two characters, so
every part that it cuts out is a text. -/
def parseByByte? (raw : String) : Option (Except TagError Tag) :=
  (entriesByByte? raw 0).map fun entries => entries.map Tag.mk

def bytesOf (s : List Char) : List UInt8 :=
  s.flatMap String.utf8EncodeChar

theorem toUTF8_eq (raw : String) : raw.toUTF8.data.toList = bytesOf raw.toList := by
  rw [String.toUTF8, ← String.utf8Encode_toList, List.utf8Encode, List.toList_data_toByteArray]
  rfl

@[simp] theorem bytesOf_nil : bytesOf [] = [] := rfl

@[simp] theorem bytesOf_cons (c : Char) (s : List Char) :
    bytesOf (c :: s) = String.utf8EncodeChar c ++ bytesOf s := rfl

@[simp] theorem bytesOf_append (front back : List Char) :
    bytesOf (front ++ back) = bytesOf front ++ bytesOf back :=
  List.flatMap_append

@[simp] theorem length_bytesOf (s : List Char) : (bytesOf s).length = byteLength s := by
  induction s with
  | nil => rfl
  | cons c s ih => simp [byteLength, ih]

theorem utf8EncodeChar_ascii {c : Char} (ascii : c.toNat < 128) :
    String.utf8EncodeChar c = [UInt8.ofNat c.toNat] := by
  have small : c.toNat ≤ 127 := by omega
  simp [String.utf8EncodeChar, small]

theorem le_of_mem_utf8EncodeChar {c : Char} (wide : 128 ≤ c.toNat) {b : UInt8}
    (member : b ∈ String.utf8EncodeChar c) : 128 ≤ b.toNat := by
  have large : ¬c.toNat ≤ 127 := by omega
  have high {n m : Nat} (same : b = UInt8.ofNat (n + m)) (low : 128 ≤ m) (fits : n + m < 256) :
      128 ≤ b.toNat := by
    rw [same, UInt8.toNat_ofNat_of_lt' fits]
    omega
  simp only [String.utf8EncodeChar, Char.toNat_val, large, if_false] at member
  split_ifs at member <;> simp only [List.mem_cons, List.not_mem_nil, or_false] at member
  · rcases member with same | same <;> exact high same (by omega) (by omega)
  · rcases member with same | same | same <;> exact high same (by omega) (by omega)
  · rcases member with same | same | same | same <;> exact high same (by omega) (by omega)

/-- A test of bytes that says of each byte of a character what the test of characters says of it. -/
def Decides (test : UInt8 → Bool) (p : Char → Bool) : Prop :=
  ∀ c : Char, ∀ b ∈ String.utf8EncodeChar c, test b = p c

theorem decides_of {test : UInt8 → Bool} {p : Char → Bool}
    (ascii : ∀ n < 128, test (UInt8.ofNat n) = p (Char.ofNat n)) (v : Bool)
    (bytes : ∀ b : UInt8, 128 ≤ b.toNat → test b = v) (wide : ∀ c : Char, 128 ≤ c.toNat → p c = v) :
    Decides test p := by
  intro c b member
  by_cases small : c.toNat < 128
  · rw [utf8EncodeChar_ascii small, List.mem_singleton] at member
    rw [member, ascii _ small, Char.ofNat_toNat]
  · have large : 128 ≤ c.toNat := by omega
    rw [bytes b (le_of_mem_utf8EncodeChar large member), wide c large]

theorem ne_of_high {b : UInt8} (high : 128 ≤ b.toNat) {d : UInt8} (low : d.toNat < 128) : b ≠ d := by
  intro same
  rw [same] at high
  omega

theorem ne_of_wide {c : Char} (wide : 128 ≤ c.toNat) {d : Char} (narrow : d.toNat < 128) : c ≠ d := by
  intro same
  rw [same] at wide
  omega

theorem decides_blank : Decides isBlankByte (· == ' ') := by
  refine decides_of (by decide) false (fun b high => ?_) fun c wide => ?_
  · exact beq_false_of_ne (ne_of_high high (by decide))
  · exact beq_false_of_ne (ne_of_wide wide (by decide))

theorem decides_key : Decides isKeyByte isKeyChar := by
  refine decides_of (by decide) true (fun b high => ?_) fun c wide => ?_
  · have above : 0x20 < b := by
      rw [UInt8.lt_iff_toNat_lt]
      exact Nat.lt_of_lt_of_le (by decide) high
    have colon : b ≠ 0x3a := ne_of_high high (by decide)
    have quote : b ≠ 0x22 := ne_of_high high (by decide)
    have delete : b ≠ 0x7f := ne_of_high high (by decide)
    simp [isKeyByte, above, colon, quote, delete]
  · rw [isKeyChar_iff]
    have above : ' ' < c := Nat.lt_of_lt_of_le (by decide) wide
    exact ⟨above, ne_of_wide wide (by decide), ne_of_wide wide (by decide),
      ne_of_wide wide (by decide)⟩

theorem takeWhile_bytesOf {test : UInt8 → Bool} {p : Char → Bool} (decides : Decides test p)
    (s : List Char) : (bytesOf s).takeWhile test = bytesOf (s.takeWhile p) := by
  induction s with
  | nil => rfl
  | cons c s ih =>
    rw [bytesOf_cons, List.takeWhile_cons]
    by_cases holds : p c = true
    · rw [List.takeWhile_append_of_pos fun b member => by rw [decides c b member, holds], ih]
      simp [holds]
    · obtain ⟨b, tail, encoded⟩ := List.exists_cons_of_ne_nil (String.utf8EncodeChar_ne_nil (c := c))
      have first : test b = p c := decides c b (by simp [encoded])
      simp [encoded, first, holds]

theorem skip_eq_takeWhile (test : UInt8 → Bool) (bytes : List UInt8) (i : Nat) :
    skip test bytes i = i + ((bytes.drop i).takeWhile test).length := by
  fun_induction skip test bytes i with
  | case1 i inside holds ih =>
    rw [ih, List.drop_eq_getElem_cons inside, List.takeWhile_cons_of_pos holds, List.length_cons]
    omega
  | case2 i inside fails =>
    rw [List.drop_eq_getElem_cons inside, List.takeWhile_cons_of_neg fails]
    rfl
  | case3 i outside => simp [List.drop_eq_nil_of_le (Nat.le_of_not_lt outside)]

section Behind

variable {bytes : List UInt8} {i : Nat} {s : List Char}

theorem skip_eq {test : UInt8 → Bool} {p : Char → Bool} (decides : Decides test p)
    (behind : bytes.drop i = bytesOf s) : skip test bytes i = i + byteLength (s.takeWhile p) := by
  rw [skip_eq_takeWhile, behind, takeWhile_bytesOf decides, length_bytesOf]

theorem drop_of_behind {part t : List UInt8} (behind : bytes.drop i = part ++ t) :
    bytes.drop (i + part.length) = t := by
  rw [← List.drop_drop, behind, List.drop_left]

theorem closingPlace_quote {t : List UInt8} (behind : bytes.drop i = 0x22 :: t) :
    closingPlace bytes i = i := by
  have found : bytes[i]? = some 0x22 := by rw [← List.head?_drop, behind]; rfl
  obtain ⟨inside, here⟩ := List.getElem?_eq_some_iff.mp found
  rw [closingPlace]
  simp [inside, here]

theorem closingPlace_escape {t : List UInt8} (behind : bytes.drop i = 0x5c :: t) :
    closingPlace bytes i = closingPlace bytes (i + 2) := by
  have found : bytes[i]? = some 0x5c := by rw [← List.head?_drop, behind]; rfl
  obtain ⟨inside, here⟩ := List.getElem?_eq_some_iff.mp found
  rw [closingPlace]
  simp [inside, here]

theorem closingPlace_end (behind : bytes.drop i = []) : bytes.length ≤ closingPlace bytes i := by
  rw [List.drop_eq_nil_iff] at behind
  exact Nat.le_trans behind (le_closingPlace bytes i)

theorem closingPlace_plain {part t : List UInt8} (behind : bytes.drop i = part ++ t)
    (plain : ∀ b ∈ part, b ≠ 0x22 ∧ b ≠ 0x5c) :
    closingPlace bytes i = closingPlace bytes (i + part.length) := by
  induction part generalizing i with
  | nil => rfl
  | cons b part ih =>
    have found : bytes[i]? = some b := by rw [← List.head?_drop, behind]; rfl
    obtain ⟨inside, here⟩ := List.getElem?_eq_some_iff.mp found
    obtain ⟨unquoted, unescaped⟩ := plain b List.mem_cons_self
    have next : bytes.drop (i + [b].length) = part ++ t := drop_of_behind behind
    have rest : closingPlace bytes (i + 1) = closingPlace bytes (i + 1 + part.length) :=
      ih next fun b member => plain b (List.mem_cons_of_mem _ member)
    rw [closingPlace]
    simp only [inside, here, unquoted, unescaped, dite_true, if_false]
    rw [rest, List.length_cons]
    congr 1
    omega

def isPlainByte (b : UInt8) : Bool :=
  b != 0x22 && b != 0x5c

theorem isPlainByte_iff (b : UInt8) : isPlainByte b = true ↔ b ≠ 0x22 ∧ b ≠ 0x5c := by
  simp [isPlainByte]

theorem isPlainByte_of_high {b : UInt8} (high : 128 ≤ b.toNat) : isPlainByte b = true :=
  (isPlainByte_iff b).mpr ⟨ne_of_high high (by decide), ne_of_high high (by decide)⟩

theorem decides_plain : Decides isPlainByte fun c => c != '"' && c != '\\' := by
  refine decides_of (by decide) true (fun b high => isPlainByte_of_high high) fun c wide => ?_
  have quote : c ≠ '"' := ne_of_wide wide (by decide)
  have backslash : c ≠ '\\' := ne_of_wide wide (by decide)
  simp [quote, backslash]

theorem isPlainByte_tail {c : Char} {first : UInt8} {tail : List UInt8}
    (encoded : String.utf8EncodeChar c = first :: tail) {b : UInt8} (member : b ∈ tail) :
    isPlainByte b = true := by
  by_cases small : c.toNat < 128
  · rw [utf8EncodeChar_ascii small] at encoded
    cases encoded
    cases member
  · refine isPlainByte_of_high (le_of_mem_utf8EncodeChar (c := c) (by omega) ?_)
    rw [encoded]
    exact List.mem_cons_of_mem _ member

theorem closingPlace_char {c : Char} (unquoted : c ≠ '"') (unescaped : c ≠ '\\')
    (behind : bytes.drop i = bytesOf (c :: s)) :
    closingPlace bytes i = closingPlace bytes (i + c.utf8Size) := by
  rw [bytesOf_cons] at behind
  have plain : ∀ b ∈ String.utf8EncodeChar c, b ≠ 0x22 ∧ b ≠ 0x5c := by
    intro b member
    rw [← isPlainByte_iff, decides_plain c b member]
    simp [unquoted, unescaped]
  rw [closingPlace_plain behind plain, String.length_utf8EncodeChar]

theorem closingPlace_pair {c : Char} (behind : bytes.drop i = bytesOf ('\\' :: c :: s)) :
    closingPlace bytes i = closingPlace bytes (i + 1 + c.utf8Size) := by
  obtain ⟨first, tail, encoded⟩ :=
    List.exists_cons_of_ne_nil (String.utf8EncodeChar_ne_nil (c := c))
  have size := String.length_utf8EncodeChar c
  rw [encoded, List.length_cons] at size
  have spelled : bytes.drop i = [0x5c, first] ++ (tail ++ bytesOf s) := by
    rw [behind, bytesOf_cons, bytesOf_cons, encoded]
    rfl
  have next : bytes.drop (i + 2) = tail ++ bytesOf s := drop_of_behind spelled
  rw [closingPlace_escape spelled,
    closingPlace_plain next fun b member => (isPlainByte_iff b).mp (isPlainByte_tail encoded member)]
  congr 1
  omega

theorem drop_of_bytesOf {front back : List Char} (behind : bytes.drop i = bytesOf (front ++ back)) :
    bytes.drop (i + byteLength front) = bytesOf back := by
  rw [bytesOf_append] at behind
  rw [← length_bytesOf]
  exact drop_of_behind behind

theorem closingPlace_body {body : List Char} (isBody : IsBody body) {rest : List Char}
    (behind : bytes.drop i = bytesOf (body ++ '"' :: rest)) :
    closingPlace bytes i = i + byteLength body := by
  induction isBody generalizing i with
  | nil => exact closingPlace_quote behind
  | @plain c part unquoted unescaped _ ih =>
    have next : bytes.drop (i + byteLength [c]) = bytesOf (part ++ '"' :: rest) :=
      drop_of_bytesOf behind
    rw [closingPlace_char unquoted unescaped behind]
    simp only [byteLength, Nat.add_zero] at next ⊢
    rw [ih next]
    omega
  | @escape c part _ ih =>
    have next : bytes.drop (i + byteLength ['\\', c]) = bytesOf (part ++ '"' :: rest) :=
      drop_of_bytesOf behind
    have one : Char.utf8Size '\\' = 1 := by decide
    rw [closingPlace_pair behind]
    simp only [byteLength, one, Nat.add_zero, ← Nat.add_assoc] at next ⊢
    rw [ih next]

theorem closingPlace_open (none : closing? s = none) (behind : bytes.drop i = bytesOf s) :
    bytes.length ≤ closingPlace bytes i := by
  fun_induction closing? s generalizing i with
  | case1 => exact closingPlace_end behind
  | case2 => cases none
  | case3 c r ih =>
    have next : bytes.drop (i + byteLength ['\\', c]) = bytesOf r := drop_of_bytesOf behind
    have one : Char.utf8Size '\\' = 1 := by decide
    rw [closingPlace_pair behind]
    simp only [byteLength, one, Nat.add_zero, ← Nat.add_assoc] at next
    exact ih (Option.map_eq_none_iff.mp none) next
  | case4 c r unquoted lone ih =>
    by_cases escape : c = '\\'
    · -- A backslash at the end leads past it.
      cases r with
      | cons next r => exact absurd rfl (lone next r escape)
      | nil =>
        rw [escape] at behind
        have size : bytes.length - i = 1 := by
          rw [← List.length_drop, behind]
          rfl
        have past := le_closingPlace bytes (i + 2)
        rw [closingPlace_escape behind]
        omega
    · have next : bytes.drop (i + byteLength [c]) = bytesOf r := drop_of_bytesOf behind
      rw [closingPlace_char unquoted escape behind]
      exact ih (Option.map_eq_none_iff.mp none) next

end Behind

theorem utf8Len_eq (s : List Char) : String.utf8Len s = byteLength s := by
  induction s with
  | nil => rfl
  | cons c s ih =>
    rw [String.utf8Len_cons, ih, byteLength]
    omega

theorem exists_cons_of_bytesOf {s : List Char} {b : UInt8} {l : List UInt8} (low : b.toNat < 128)
    (starts : bytesOf s = b :: l) : ∃ rest, s = Char.ofNat b.toNat :: rest ∧ bytesOf rest = l := by
  cases s with
  | nil => cases starts
  | cons c s =>
    rw [bytesOf_cons] at starts
    have narrow : c.toNat < 128 := by
      by_contra wide
      obtain ⟨first, tail, encoded⟩ :=
        List.exists_cons_of_ne_nil (String.utf8EncodeChar_ne_nil (c := c))
      have high := le_of_mem_utf8EncodeChar (c := c) (b := first) (by omega) (by simp [encoded])
      rw [encoded] at starts
      cases starts
      omega
    rw [utf8EncodeChar_ascii narrow] at starts
    cases starts
    refine ⟨s, ?_, rfl⟩
    rw [UInt8.toNat_ofNat_of_lt' (Nat.lt_of_lt_of_le narrow (by decide)), Char.ofNat_toNat]

/-- Behind the first `i` bytes of `raw`, which are whole characters, stands `s`. -/
def StandsAt (raw : String) (i : Nat) (s : List Char) : Prop :=
  ∃ front, raw.toList = front ++ s ∧ i = byteLength front

namespace StandsAt

variable {raw : String} {i : Nat} {s part back : List Char}

theorem zero (raw : String) : StandsAt raw 0 raw.toList :=
  ⟨[], rfl, rfl⟩

theorem advance (stands : StandsAt raw i (part ++ back)) :
    StandsAt raw (i + byteLength part) back := by
  obtain ⟨front, whole, rfl⟩ := stands
  exact ⟨front ++ part, by rw [whole, List.append_assoc], by rw [byteLength_append]⟩

theorem drop (stands : StandsAt raw i s) : raw.toUTF8.data.toList.drop i = bytesOf s := by
  obtain ⟨front, whole, rfl⟩ := stands
  rw [toUTF8_eq, whole, bytesOf_append, ← length_bytesOf, List.drop_left]

theorem isValid (stands : StandsAt raw i s) : String.Pos.Raw.IsValid raw ⟨i⟩ := by
  obtain ⟨front, whole, rfl⟩ := stands
  refine String.Pos.Raw.isValid_iff_exists_append.mpr ⟨String.ofList front, String.ofList s, ?_, ?_⟩
  · rw [← String.ofList_append, ← whole, String.ofList_toList]
  · rw [String.rawEndPos_ofList, utf8Len_eq]

theorem slice?_eq (stands : StandsAt raw i (part ++ back)) :
    slice? raw i (i + byteLength part) = some (String.ofList part) := by
  have first := stands.isValid
  have last := stands.advance.isValid
  have between : String.Pos.Raw.extract raw ⟨i⟩ ⟨i + byteLength part⟩ = String.ofList part := by
    obtain ⟨front, whole, rfl⟩ := stands
    have cut := String.extract_of_valid front part back
    rwa [List.append_assoc, ← whole, String.ofList_toList, utf8Len_eq, utf8Len_eq] at cut
  simp [slice?, first, last, between]

theorem getElem? (stands : StandsAt raw i s) (n : Nat) :
    raw.toUTF8.data.toList[i + n]? = (bytesOf s)[n]? := by
  rw [← stands.drop, List.getElem?_drop]

theorem length_le_iff (stands : StandsAt raw i s) : raw.toUTF8.data.toList.length ≤ i ↔ s = [] := by
  rw [← List.drop_eq_nil_iff, stands.drop]
  cases s with
  | nil => simp
  | cons c s => simp [String.utf8EncodeChar_ne_nil]

theorem skip_blanks (stands : StandsAt raw i s) :
    skip isBlankByte raw.toUTF8.data.toList i =
      i + (s.length - (s.dropWhile (· == ' ')).length) := by
  rw [skip_eq decides_blank stands.drop, takeWhile_blank, byteLength_replicate]

theorem behind_blanks (stands : StandsAt raw i s) :
    StandsAt raw (i + (s.length - (s.dropWhile (· == ' ')).length)) (s.dropWhile (· == ' ')) := by
  rw [blanks_append s] at stands
  have behind := stands.advance
  rwa [byteLength_replicate] at behind

theorem skip_key (stands : StandsAt raw i s) :
    skip isKeyByte raw.toUTF8.data.toList i = i + byteLength (s.takeWhile isKeyChar) :=
  skip_eq decides_key stands.drop

theorem key (stands : StandsAt raw i s) {keyed : List Char} {after : Nat}
    (same : s.takeWhile isKeyChar = keyed) (ends : i + byteLength keyed = after)
    (nonempty : ¬keyed = []) :
    ¬raw.toUTF8.data.toList.length ≤ i ∧ after ≠ i ∧
      slice? raw i after = some (String.ofList keyed) ∧
      StandsAt raw after (s.dropWhile isKeyChar) := by
  have split : StandsAt raw i (keyed ++ s.dropWhile isKeyChar) := by
    rwa [← same, List.takeWhile_append_dropWhile]
  subst ends
  refine ⟨fun outside => ?_, ?_, split.slice?_eq, split.advance⟩
  · have empty := stands.length_le_iff.mp outside
    rw [empty] at same
    exact nonempty same.symm
  · have long := byteLength_pos nonempty
    omega

theorem opening (stands : StandsAt raw i (':' :: '"' :: s)) :
    raw.toUTF8.data.toList[i]? = some 0x3a ∧ raw.toUTF8.data.toList[i + 1]? = some 0x22 ∧
      StandsAt raw (i + 2) s := by
  have behind : StandsAt raw (i + byteLength [':', '"']) s := advance stands
  exact ⟨stands.getElem? 0, stands.getElem? 1, behind⟩

theorem exists_of_opening (stands : StandsAt raw i s)
    (colon : raw.toUTF8.data.toList[i]? = some 0x3a)
    (quote : raw.toUTF8.data.toList[i + 1]? = some 0x22) : ∃ value, s = ':' :: '"' :: value := by
  have first : (bytesOf s)[0]? = some 0x3a := by rw [← stands.getElem?, ← colon]; rfl
  have second : (bytesOf s)[1]? = some 0x22 := by rw [← stands.getElem?, ← quote]
  rw [← List.head?_eq_getElem?, List.head?_eq_some_iff] at first
  obtain ⟨l, starts⟩ := first
  obtain ⟨rest, rfl, tail⟩ := exists_cons_of_bytesOf (by decide) starts
  rw [starts, List.getElem?_cons_succ, ← List.head?_eq_getElem?, List.head?_eq_some_iff] at second
  obtain ⟨m, more⟩ := second
  obtain ⟨value, rfl, -⟩ := exists_cons_of_bytesOf (by decide) (tail.trans more)
  exact ⟨value, rfl⟩

theorem closing (stands : StandsAt raw i ('"' :: s)) : StandsAt raw (i + 1) s := by
  have behind : StandsAt raw (i + byteLength ['"']) s := advance stands
  exact behind

end StandsAt

/-- Reading from a place between characters on, both readers come to the same. -/
theorem entriesByByte?_eq {raw : String} {offset : Nat} {s : List Char}
    (stands : StandsAt raw offset s) :
    entriesByByte? raw offset = some (entriesFrom offset s) := by
  fun_induction entriesFrom offset s with
  | case1 offset s start =>
    rename_i blank
    have first := stands.skip_blanks
    have behind := stands.behind_blanks
    have nothing := behind.length_le_iff.mpr blank
    rw [entriesByByte?]
    simp only [first, nothing, if_true]
  | case2 offset s start position full key =>
    rename_i unkeyed
    have first : skip isBlankByte _ offset = position := stands.skip_blanks
    have behind : StandsAt raw position start := stands.behind_blanks
    have last : skip isKeyByte _ position = position + byteLength key := behind.skip_key
    have something := behind.length_le_iff.not.mpr full
    rw [entriesByByte?]
    simp only [first, last, something, unkeyed, byteLength, Nat.add_zero, if_true, if_false]
  | case3 offset s start position full key keyed after value found _ =>
    rename_i unclosed
    have first : skip isBlankByte _ offset = position := stands.skip_blanks
    have behind : StandsAt raw position start := stands.behind_blanks
    have last : skip isKeyByte _ position = after := behind.skip_key
    obtain ⟨something, apart, named, rest⟩ := behind.key (rfl : _ = key) (rfl : _ = after) keyed
    obtain ⟨colon, quote, inside⟩ := (found ▸ rest).opening
    have endless := closingPlace_open unclosed inside.drop
    rw [entriesByByte?]
    simp only [first, last, something, apart, colon, quote, named, endless, and_self, if_true,
      if_false, Option.bind_eq_bind, Option.bind_some]
  | case4 offset s start position full key keyed after value found _ body rest closed entry =>
    rename_i ih
    have first : skip isBlankByte _ offset = position := stands.skip_blanks
    have behind : StandsAt raw position start := stands.behind_blanks
    have last : skip isKeyByte _ position = after := behind.skip_key
    obtain ⟨something, apart, named, rest⟩ := behind.key (rfl : _ = key) (rfl : _ = after) keyed
    obtain ⟨colon, quote, inside⟩ := (found ▸ rest).opening
    obtain ⟨isBody, rfl⟩ := closing?_eq_some_iff.mp closed
    have stop := closingPlace_body isBody inside.drop
    have ended := inside.advance
    have more := ended.length_le_iff.not.mpr (by simp)
    have valued := inside.slice?_eq
    rw [entriesByByte?]
    simp only [first, last, something, apart, colon, quote, named, stop, more, valued,
      ih ended.closing, and_self, if_true, if_false, Option.bind_eq_bind, Option.bind_some,
      String.toList_ofList]
    cases entriesFrom (after + 2 + byteLength body + 1) _ with
    | error e => rfl
    | ok later => rfl
  | case5 offset s start position full key keyed after =>
    rename_i unopened
    have first : skip isBlankByte _ offset = position := stands.skip_blanks
    have behind : StandsAt raw position start := stands.behind_blanks
    have last : skip isKeyByte _ position = after := behind.skip_key
    obtain ⟨something, apart, -, rest⟩ := behind.key (rfl : _ = key) (rfl : _ = after) keyed
    have closed : ¬(raw.toUTF8.data.toList[after]? = some 0x3a ∧
        raw.toUTF8.data.toList[after + 1]? = some 0x22) := by
      rintro ⟨colon, quote⟩
      obtain ⟨value, found⟩ := rest.exists_of_opening colon quote
      exact unopened value found
    rw [entriesByByte?]
    simp only [first, last, something, apart, closed, if_false]

theorem parseByByte?_eq (raw : String) : parseByByte? raw = some (parse raw) := by
  rw [parseByByte?, entriesByByte?_eq (.zero raw)]
  rfl

theorem offset_le_of_parse {raw : String} {e : TagError} (failed : parse raw = .error e) :
    e.offset ≤ raw.utf8ByteSize := by
  unfold parse at failed
  cases read : entriesFrom 0 raw.toList with
  | ok values => simp [read, Except.map] at failed
  | error other =>
    rw [read] at failed
    cases failed
    have bound := offset_le_of_entriesFrom read
    rwa [Nat.zero_add, ← utf8Len_eq, String.utf8Len_toList] at bound

/-- A text that spells entries is read as them, no other text is read, and its fault lies inside it
or at its end. Reading by bytes never cuts a character in two. -/
theorem parse_exact (raw : String) :
    (∀ entries, Spells entries raw.toList → parse raw = .ok ⟨entries.map valueOf⟩) ∧
    (∀ tag, parse raw = .ok tag →
      ∃ entries, Spells entries raw.toList ∧ tag.entries = entries.map valueOf) ∧
    ((¬∃ entries, Spells entries raw.toList) →
      ∃ e, parse raw = .error e ∧ e.offset ≤ raw.utf8ByteSize) ∧
    parseByByte? raw = some (parse raw) := by
  refine ⟨fun entries spells => ?_, fun tag read => ?_, fun unspelled => ?_, parseByByte?_eq raw⟩
  · exact parse_eq_ok_iff.mpr ⟨entries, spells, rfl⟩
  · exact parse_eq_ok_iff.mp read
  · cases read : parse raw with
    | ok tag =>
      obtain ⟨entries, spells, -⟩ := parse_eq_ok_iff.mp read
      exact absurd ⟨entries, spells⟩ unspelled
    | error e => exact ⟨e, rfl, offset_le_of_parse read⟩

end Dispatchers.Go.Tag
