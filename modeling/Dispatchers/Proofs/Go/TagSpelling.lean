import Dispatchers.Go.Tag
import Dispatchers.Proofs.Except
import Mathlib.Data.List.TakeWhile

namespace Dispatchers.Go.Tag

structure IsKey (key : List Char) : Prop where
  nonempty : key ≠ []
  plain : ∀ c ∈ key, ' ' < c ∧ c ≠ ':' ∧ c ≠ '"' ∧ c ≠ '\x7f'

/-- What may stand between the quotes of a value: a quote or a backslash only behind a backslash. -/
inductive IsBody : List Char → Prop
  | nil : IsBody []
  | plain {c : Char} {rest : List Char} (unquoted : c ≠ '"') (unescaped : c ≠ '\\')
      (isBody : IsBody rest) : IsBody (c :: rest)
  | escape (c : Char) {rest : List Char} (isBody : IsBody rest) : IsBody ('\\' :: c :: rest)

/-- The text holds these keys and bodies one behind the other, with any blanks around them. -/
inductive Spells : List (List Char × List Char) → List Char → Prop
  | nil (blanks : Nat) : Spells [] (List.replicate blanks ' ')
  | cons (blanks : Nat) {key body rest : List Char} {entries : List (List Char × List Char)}
      (isKey : IsKey key) (isBody : IsBody body) (spells : Spells entries rest) :
      Spells ((key, body) :: entries)
        (List.replicate blanks ' ' ++ (key ++ ':' :: '"' :: (body ++ '"' :: rest)))

def valueOf (entry : List Char × List Char) : String × String :=
  (String.ofList entry.1, String.ofList (Text.unescape entry.2))

theorem isKeyChar_iff (c : Char) :
    isKeyChar c = true ↔ ' ' < c ∧ c ≠ ':' ∧ c ≠ '"' ∧ c ≠ '\x7f' := by
  simp [isKeyChar, and_assoc]

@[simp] theorem byteLength_append (front back : List Char) :
    byteLength (front ++ back) = byteLength front + byteLength back := by
  induction front with
  | nil => simp [byteLength]
  | cons c front ih =>
    simp only [List.cons_append, byteLength, ih]
    omega

theorem byteLength_pos {s : List Char} (nonempty : s ≠ []) : 0 < byteLength s := by
  obtain ⟨c, s, rfl⟩ := List.exists_cons_of_ne_nil nonempty
  have positive := c.utf8Size_pos
  rw [byteLength]
  omega

theorem byteLength_replicate (n : Nat) : byteLength (List.replicate n ' ') = n := by
  induction n with
  | zero => rfl
  | succ n ih =>
    have one : Char.utf8Size ' ' = 1 := by decide
    simp only [List.replicate_succ, byteLength, ih, one]
    omega

theorem eq_replicate_of_blank {s : List Char} (blank : s.dropWhile (· == ' ') = []) :
    s = List.replicate s.length ' ' := by
  rw [List.dropWhile_eq_nil_iff] at blank
  exact List.eq_replicate_of_mem fun c member => by simpa using blank c member

theorem takeWhile_blank (s : List Char) :
    s.takeWhile (· == ' ') =
      List.replicate (s.length - (s.dropWhile (· == ' ')).length) ' ' := by
  have total := congrArg List.length
    (List.takeWhile_append_dropWhile : s.takeWhile (· == ' ') ++ s.dropWhile (· == ' ') = s)
  rw [List.length_append] at total
  rw [List.eq_replicate_iff]
  constructor
  · omega
  · intro c member
    simpa using List.mem_takeWhile_imp member

theorem blanks_append (s : List Char) :
    s = List.replicate (s.length - (s.dropWhile (· == ' ')).length) ' ' ++
      s.dropWhile (· == ' ') := by
  rw [← takeWhile_blank, List.takeWhile_append_dropWhile]

theorem closing?_body {body : List Char} (isBody : IsBody body) (rest : List Char) :
    closing? (body ++ '"' :: rest) = some (body, rest) := by
  induction isBody with
  | nil => rfl
  | plain unquoted unescaped _ ih =>
    rw [List.cons_append, closing?.eq_4 _ _ unquoted (fun _ _ same _ => unescaped same), ih]
    rfl
  | escape c _ ih =>
    rw [List.cons_append, List.cons_append, closing?, ih]
    rfl

theorem closing?_eq_some_iff {s body rest : List Char} :
    closing? s = some (body, rest) ↔ IsBody body ∧ s = body ++ '"' :: rest := by
  constructor
  · intro found
    fun_induction closing? s generalizing body rest with
    | case1 => cases found
    | case2 r =>
      cases found
      exact ⟨.nil, rfl⟩
    | case3 c r ih =>
      obtain ⟨part, closed, same⟩ := Option.map_eq_some_iff.mp found
      cases same
      obtain ⟨isBody, spelled⟩ := ih closed
      exact ⟨.escape c isBody, by rw [spelled]; rfl⟩
    | case4 c r unquoted lone ih =>
      obtain ⟨part, closed, same⟩ := Option.map_eq_some_iff.mp found
      cases same
      obtain ⟨isBody, spelled⟩ := ih closed
      refine ⟨.plain unquoted (fun escape => ?_) isBody, by rw [spelled]; rfl⟩
      -- A backslash here would be the last character, and no quote can follow it.
      cases r with
      | nil => cases closed
      | cons next r => exact lone next r escape rfl
  · rintro ⟨isBody, rfl⟩
    exact closing?_body isBody rest

section Entries

variable {entries : List (List Char × List Char)} {s : List Char}

theorem entriesFrom_blanks (offset blanks : Nat) :
    entriesFrom offset (List.replicate blanks ' ') = .ok [] := by
  have blank : (List.replicate blanks ' ').dropWhile (· == ' ') = [] := by simp
  rw [entriesFrom]
  simp [blank]

section First

variable {key : List Char} (isKey : IsKey key) (rest : List Char)
include isKey

theorem IsKey.dropWhile_blanks (blanks : Nat) :
    (List.replicate blanks ' ' ++ (key ++ rest)).dropWhile (· == ' ') = key ++ rest := by
  obtain ⟨c, key, rfl⟩ := List.exists_cons_of_ne_nil isKey.nonempty
  have above : ' ' < c := (isKey.plain c (by simp)).1
  have other : c ≠ ' ' := fun same => absurd above (by rw [same]; decide)
  rw [List.dropWhile_append_of_pos (by simp), List.cons_append, List.dropWhile_cons_of_neg (by simpa using other)]

theorem IsKey.takeWhile_append :
    (key ++ ':' :: rest).takeWhile isKeyChar = key := by
  rw [List.takeWhile_append_of_pos fun c member => (isKeyChar_iff c).mpr (isKey.plain c member),
    List.takeWhile_cons_of_neg (by decide), List.append_nil]

theorem IsKey.dropWhile_append :
    (key ++ ':' :: rest).dropWhile isKeyChar = ':' :: rest := by
  rw [List.dropWhile_append_of_pos fun c member => (isKeyChar_iff c).mpr (isKey.plain c member),
    List.dropWhile_cons_of_neg (by decide)]

theorem exists_entriesFrom_eq (offset blanks : Nat) {body : List Char} (isBody : IsBody body) :
    ∃ behind, entriesFrom offset
        (List.replicate blanks ' ' ++ (key ++ ':' :: '"' :: (body ++ '"' :: rest))) =
      (entriesFrom behind rest).map (valueOf (key, body) :: ·) := by
  have start := isKey.dropWhile_blanks (':' :: '"' :: (body ++ '"' :: rest)) blanks
  have found := isKey.dropWhile_append ('"' :: (body ++ '"' :: rest))
  have closed := closing?_body isBody rest
  rw [entriesFrom]
  simp only [start, isKey.takeWhile_append, isKey.nonempty, List.append_eq_nil_iff, false_and,
    if_false]
  split
  next value same =>
    rw [start, found] at same
    cases same
    split
    next none => simp [closed] at none
    next part tail some =>
      rw [closed] at some
      cases some
      exact ⟨_, rfl⟩
  next other => exact absurd (by rw [start, found]) (other _)

end First

theorem exists_spells_of_entriesFrom {offset : Nat} {values : List (String × String)}
    (read : entriesFrom offset s = .ok values) :
    ∃ entries, Spells entries s ∧ values = entries.map valueOf := by
  fun_induction entriesFrom offset s generalizing values with
  | case1 =>
    rename_i blank
    cases read
    refine ⟨[], ?_, rfl⟩
    rw [eq_replicate_of_blank blank]
    exact .nil _
  | case2 | case3 | case5 => cases read
  | case4 _ s start position _ key keyed after value found _ body rest closed =>
    rename_i ih
    obtain ⟨later, readLater, same⟩ := bind_eq_ok_iff.mp read
    cases same
    obtain ⟨entries, spells, rfl⟩ := ih readLater
    obtain ⟨isBody, rfl⟩ := closing?_eq_some_iff.mp closed
    have isKey : IsKey key :=
      ⟨keyed, fun c member => (isKeyChar_iff c).mp (List.mem_takeWhile_imp member)⟩
    have parts : key ++ ':' :: '"' :: (body ++ '"' :: rest) = start := by
      rw [← found]
      exact List.takeWhile_append_dropWhile
    have spelled := Spells.cons (s.length - start.length) isKey isBody spells
    rw [parts, ← blanks_append s] at spelled
    exact ⟨(key, body) :: entries, spelled, rfl⟩

theorem entriesFrom_of_spells (spells : Spells entries s) (offset : Nat) :
    entriesFrom offset s = .ok (entries.map valueOf) := by
  induction spells generalizing offset with
  | nil blanks => exact entriesFrom_blanks offset blanks
  | cons blanks isKey isBody _ ih =>
    obtain ⟨behind, read⟩ := exists_entriesFrom_eq isKey _ offset blanks isBody
    rw [read, ih behind]
    rfl

theorem entriesFrom_eq_ok_iff {offset : Nat} {values : List (String × String)} :
    entriesFrom offset s = .ok values ↔ ∃ entries, Spells entries s ∧ values = entries.map valueOf := by
  constructor
  · exact exists_spells_of_entriesFrom
  · rintro ⟨entries, spells, rfl⟩
    exact entriesFrom_of_spells spells offset

theorem byteLength_blanks (s : List Char) :
    byteLength s = s.length - (s.dropWhile (· == ' ')).length +
      byteLength (s.dropWhile (· == ' ')) := by
  have parts := congrArg byteLength (blanks_append s)
  rwa [byteLength_append, byteLength_replicate] at parts

theorem byteLength_key (s : List Char) :
    byteLength s = byteLength (s.takeWhile isKeyChar) + byteLength (s.dropWhile isKeyChar) := by
  rw [← byteLength_append, List.takeWhile_append_dropWhile]

theorem offset_le_of_entriesFrom {offset : Nat} {e : TagError}
    (failed : entriesFrom offset s = .error e) : e.offset ≤ offset + byteLength s := by
  fun_induction entriesFrom offset s with
  | case1 => cases failed
  | case2 offset s start position =>
    cases failed
    have blanks := byteLength_blanks s
    simp only [position, start]
    omega
  | case3 offset s start position _ key _ after value found =>
    cases failed
    have blanks := byteLength_blanks s
    have parts := byteLength_key start
    simp only [found, byteLength] at parts
    have colon := Char.utf8Size_pos ':'
    have quote := Char.utf8Size_pos '"'
    simp only [after, position, key, start] at parts ⊢
    omega
  | case4 offset s start position _ key _ after value found _ body rest closed =>
    rename_i ih
    have blanks := byteLength_blanks s
    have parts := byteLength_key start
    obtain ⟨-, spelled⟩ := closing?_eq_some_iff.mp closed
    simp only [found, spelled, byteLength, byteLength_append] at parts
    have colon := Char.utf8Size_pos ':'
    have quote := Char.utf8Size_pos '"'
    rcases bind_eq_error_iff.mp failed with later | ⟨_, _, none⟩
    · have bound := ih later
      simp only [after, position, key, start] at parts bound ⊢
      omega
    · cases none
  | case5 offset s start position _ key _ after =>
    cases failed
    have blanks := byteLength_blanks s
    have parts := byteLength_key start
    simp only [after, position, key, start] at parts ⊢
    omega

end Entries

theorem parse_eq_ok_iff {raw : String} {tag : Tag} :
    parse raw = .ok tag ↔
      ∃ entries, Spells entries raw.toList ∧ tag.entries = entries.map valueOf := by
  rw [← entriesFrom_eq_ok_iff]
  unfold parse
  cases entriesFrom 0 raw.toList with
  | error e => simp [Except.map]
  | ok values =>
    simp only [Except.map, Except.ok.injEq]
    constructor
    · rintro rfl
      rfl
    · rintro rfl
      rfl

end Dispatchers.Go.Tag
