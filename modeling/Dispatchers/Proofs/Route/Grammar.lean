import Dispatchers.Proofs.Text.Words
import Dispatchers.Route.Directive
import Mathlib.Data.List.TakeWhile

namespace Dispatchers.Route

open Http Text

section Search

/-- The ways to divide a text behind characters of a class, the longest run first. -/
def divisions (p : Char → Bool) : List Char → List (List Char × List Char)
  | [] => [([], [])]
  | c :: s =>
    if p c then (divisions p s).map (fun way => (c :: way.1, way.2)) ++ [([], c :: s)]
    else [([], c :: s)]

/-- The matches of `(\w+)\s*(.*)$` in the order of a backtracking search. -/
def attempts (s : List Char) : List (List Char × List Char) :=
  ((divisions isWord s).filter (·.1 ≠ [])).flatMap fun word =>
    (divisions isBlank word.2).flatMap fun gap =>
      ((divisions (· ≠ '\n') gap.2).filter (·.2 = [])).map fun rest => (word.1, rest.1)

def search? (t : List Char) : Option (List Char × List Char) :=
  match t with
  | '/' :: '/' :: '@' :: s => (attempts s).head?
  | _ => none

variable {p : Char → Bool} {s : List Char}

theorem head?_divisions (p : Char → Bool) (s : List Char) :
    (divisions p s).head? = some (s.takeWhile p, s.dropWhile p) := by
  induction s with
  | nil => rfl
  | cons c s ih =>
    by_cases inside : p c = true
    · rw [divisions, if_pos inside, List.head?_append, List.head?_map, ih, List.takeWhile_cons_of_pos inside,
        List.dropWhile_cons_of_pos inside]
      rfl
    · rw [divisions, if_neg inside, List.takeWhile_cons_of_neg inside, List.dropWhile_cons_of_neg inside]
      rfl

theorem of_mem_divisions {way : List Char × List Char} (member : way ∈ divisions p s) :
    s = way.1 ++ way.2 ∧ ∀ c ∈ way.1, p c = true := by
  induction s generalizing way with
  | nil =>
    obtain rfl := List.mem_singleton.mp member
    exact ⟨rfl, List.forall_mem_nil _⟩
  | cons c s ih =>
    by_cases inside : p c = true
    · rw [divisions, if_pos inside] at member
      rcases List.mem_append.mp member with longer | last
      · obtain ⟨shorter, inner, rfl⟩ := List.mem_map.mp longer
        obtain ⟨whole, all⟩ := ih inner
        exact ⟨by rw [whole]; rfl, List.forall_mem_cons.mpr ⟨inside, all⟩⟩
      · obtain rfl := List.mem_singleton.mp last
        exact ⟨rfl, List.forall_mem_nil _⟩
    · rw [divisions, if_neg inside] at member
      obtain rfl := List.mem_singleton.mp member
      exact ⟨rfl, List.forall_mem_nil _⟩

theorem head?_flatMap_of_head? {α β : Type} {xs : List α} {f : α → List β} {x : α} {y : β}
    (first : xs.head? = some x) (found : (f x).head? = some y) : (xs.flatMap f).head? = some y := by
  obtain ⟨rest, rfl⟩ := List.head?_eq_some_iff.mp first
  rw [List.flatMap_cons, List.head?_append, found]
  rfl

theorem head?_filter_of_head? {α : Type} {xs : List α} {q : α → Bool} {x : α}
    (first : xs.head? = some x) (holds : q x = true) : (xs.filter q).head? = some x := by
  obtain ⟨rest, rfl⟩ := List.head?_eq_some_iff.mp first
  rw [List.filter_cons_of_pos holds]
  rfl

/-- A shorter run never helps: whatever the search takes for the word and the white space, the line
feed stays in what is left. -/
theorem newline_mem_of_division {token gap rest word blanks back : List Char}
    (isGap : IsRun isBlank gap rest) (newline : '\n' ∈ rest)
    (divided : token ++ (gap ++ rest) = word ++ (blanks ++ back)) (shorter : word <+: token)
    (blank : ∀ c ∈ blanks, isBlank c = true) : '\n' ∈ back := by
  obtain ⟨left, rfl⟩ := shorter
  rw [List.append_assoc, List.append_cancel_left_eq, ← List.append_assoc] at divided
  rcases List.append_eq_append_iff.mp divided with ⟨more, longer, same⟩ | ⟨more, -, same⟩
  · cases more with
    | nil => rwa [same] at newline
    | cons c more =>
      -- The first character of the rest would be among the blanks.
      have outside : isBlank c = false := isGap.stops c (by rw [same]; rfl)
      have inside : isBlank c = true := blank c (by
        rw [longer]
        exact List.mem_append_right _ (List.mem_cons_self ..))
      rw [outside] at inside
      cases inside
  · rw [same]
    exact List.mem_append_right _ newline

theorem prefix_takeWhile {word : List Char} (back : List Char) (all : ∀ c ∈ word, p c = true) :
    word <+: (word ++ back).takeWhile p := by
  rw [List.takeWhile_append_of_pos all]
  exact List.prefix_append _ _

theorem attempts_eq_nil
    (bad : s.takeWhile isWord = [] ∨ '\n' ∈ trimStart (s.dropWhile isWord)) : attempts s = [] := by
  apply List.eq_nil_iff_forall_not_mem.mpr
  intro found member
  obtain ⟨word, listed, member⟩ := List.mem_flatMap.mp member
  obtain ⟨gap, between, member⟩ := List.mem_flatMap.mp member
  obtain ⟨back, behind, -⟩ := List.mem_map.mp member
  obtain ⟨listed, full⟩ := List.mem_filter.mp listed
  obtain ⟨behind, ends⟩ := List.mem_filter.mp behind
  obtain ⟨whole, letters⟩ := of_mem_divisions listed
  obtain ⟨middle, blanks⟩ := of_mem_divisions between
  obtain ⟨last, plain⟩ := of_mem_divisions behind
  have shorter : word.1 <+: s.takeWhile isWord := by
    have taken := prefix_takeWhile word.2 letters
    rwa [← whole] at taken
  rcases bad with none | newline
  · rw [none, List.prefix_nil] at shorter
    exact of_decide_eq_true full shorter
  · -- The greedy division and the one tried here divide the same text.
    have divided : s.takeWhile isWord ++ ((s.dropWhile isWord).takeWhile isBlank ++
        trimStart (s.dropWhile isWord)) = word.1 ++ (gap.1 ++ gap.2) := by
      rw [← middle, ← whole, trimStart, List.takeWhile_append_dropWhile,
        List.takeWhile_append_dropWhile]
    have left := newline_mem_of_division (isRun_takeWhile _ _) newline divided shorter blanks
    rw [last, of_decide_eq_true ends, List.append_nil] at left
    exact of_decide_eq_true (plain _ left) rfl

theorem head?_attempts_of (full : s.takeWhile isWord ≠ [])
    (line : '\n' ∉ trimStart (s.dropWhile isWord)) :
    (attempts s).head? = some (s.takeWhile isWord, trimStart (s.dropWhile isWord)) := by
  have plain : ∀ c ∈ trimStart (s.dropWhile isWord), decide (c ≠ '\n') = true :=
    fun c member => decide_eq_true fun same => line (same ▸ member)
  have rest : (divisions (· ≠ '\n') (trimStart (s.dropWhile isWord))).head? =
      some (trimStart (s.dropWhile isWord), []) := by
    rw [head?_divisions, List.takeWhile_eq_self_iff.mpr plain, List.dropWhile_eq_nil_iff.mpr plain]
  have ending := head?_filter_of_head? (q := (·.2 = [])) rest (decide_eq_true rfl)
  apply head?_flatMap_of_head? (head?_filter_of_head? (head?_divisions isWord s) (decide_eq_true full))
  apply head?_flatMap_of_head? (head?_divisions isBlank _)
  exact List.head?_map.trans (congrArg _ ending)

theorem search?_marker (s : List Char) : search? ('/' :: '/' :: '@' :: s) = (attempts s).head? :=
  rfl

theorem search?_unmarked {t : List Char} (unmarked : ∀ s, t ≠ '/' :: '/' :: '@' :: s) :
    search? t = none := by
  unfold search?
  split
  · exact absurd rfl (unmarked _)
  · rfl

theorem search?_eq (line : List Char) :
    search? (trimEnd line) = Directive.tokenAndRest? line := by
  unfold Directive.tokenAndRest?
  generalize trimEnd line = t
  by_cases marked : ∃ s, t = '/' :: '/' :: '@' :: s
  · obtain ⟨s, rfl⟩ := marked
    rw [search?_marker]
    by_cases bad : s.takeWhile isWord = [] ∨ '\n' ∈ trimStart (s.dropWhile isWord)
    · rw [attempts_eq_nil bad]
      exact (if_pos bad).symm
    · obtain ⟨full, line⟩ := not_or.mp bad
      rw [head?_attempts_of full line]
      exact (if_neg bad).symm
  · rw [search?_unmarked fun s same => marked ⟨s, same⟩]
    split
    · exact absurd ⟨_, rfl⟩ marked
    · rfl

end Search

section Verbs

def spellings : List (String × Scope) :=
  [("get", .only .get), ("head", .only .head), ("post", .only .post), ("put", .only .put),
    ("delete", .only .delete), ("trace", .only .trace), ("options", .only .options),
    ("connect", .only .connect), ("patch", .only .patch), ("route", .any)]

/-- Compares a word with the names of the verbs whatever their case, once it is all in lower case. -/
def scopeByName? (token : String) : Option Scope :=
  if token = Scope.wildcard then some .any
  else if token.toList.any (!·.isLower) then none
  else (Verb.all.find? fun verb =>
    verb.name.toList.map Char.toLower = token.toList.map Char.toLower).map .only

theorem toLower_of_isLower {c : Char} (lower : c.isLower = true) : c.toLower = c := by
  obtain ⟨below, -⟩ := Bool.and_eq_true_iff.mp lower
  refine dif_neg fun upper => ?_
  have first : 'a'.val.toNat ≤ c.val.toNat := of_decide_eq_true below
  have last : c.val.toNat ≤ 'Z'.val.toNat := upper.2
  exact absurd (Nat.le_trans first last) (by decide)

theorem ofToken?_eq_some_iff {token : String} {scope : Scope} :
    Scope.ofToken? token = some scope ↔ (token, scope) ∈ spellings := by
  constructor
  · intro found
    unfold Scope.ofToken? at found
    split at found
    · rename_i wildcard
      cases found
      rw [wildcard]
      decide
    · obtain ⟨verb, listed, rfl⟩ := Option.map_eq_some_iff.mp found
      have named := List.find?_some listed
      have nine : ∀ v ∈ Verb.all, (v.token, Scope.only v) ∈ spellings := by decide
      exact of_decide_eq_true named ▸ nine verb (List.mem_of_find?_eq_some listed)
  · have all : ∀ entry ∈ spellings, Scope.ofToken? entry.1 = some entry.2 := by decide
    exact all _

theorem scopeByName?_eq (token : String) : scopeByName? token = Scope.ofToken? token := by
  unfold scopeByName? Scope.ofToken?
  by_cases wildcard : token = Scope.wildcard
  · rw [if_pos wildcard, if_pos wildcard]
  rw [if_neg wildcard, if_neg wildcard]
  by_cases mixed : token.toList.any (!·.isLower) = true
  · have lower : ∀ verb ∈ Verb.all, verb.token.toList.any (!·.isLower) = false := by decide
    have none : Verb.all.find? (·.token = token) = none := by
      apply List.find?_eq_none.mpr
      intro verb member named
      rw [← of_decide_eq_true named, lower verb member] at mixed
      cases mixed
    rw [if_pos mixed, none]
    rfl
  · have lower : token.toList.map Char.toLower = token.toList := by
      apply (List.map_congr_left _).trans (List.map_id _)
      intro c member
      have small : c.isLower = true := by
        simpa using mt (List.any_eq_true.mpr ⟨c, member, ·⟩) mixed
      exact toLower_of_isLower small
    have names : ∀ verb ∈ Verb.all, verb.name.toList.map Char.toLower = verb.token.toList := by decide
    have agree : ∀ verb ∈ Verb.all,
        decide (verb.name.toList.map Char.toLower = token.toList.map Char.toLower) =
          decide (verb.token = token) := by
      intro verb member
      rw [names verb member, lower]
      exact decide_eq_decide.mpr String.toList_inj
    rw [if_neg mixed, ← List.head?_filter, ← List.head?_filter, List.filter_congr agree]

end Verbs

section Shape

/-- A directive by its parts: the marker, a word, white space and the rest, where word and white space
are as long as they can be. -/
structure Shaped (t token gap rest : List Char) : Prop where
  text : t = '/' :: '/' :: '@' :: (token ++ (gap ++ rest))
  full : token ≠ []
  word : IsRun isWord token (gap ++ rest)
  blank : IsRun isBlank gap rest

def FirstTwo (rest : List Char) (pattern : String) (label : Option String) : Prop :=
  ∃ first gap second back, rest = first ++ (gap ++ (second ++ back)) ∧
    IsRun isSolid first (gap ++ (second ++ back)) ∧ IsRun isBlank gap (second ++ back) ∧
    IsRun isSolid second back ∧ pattern = String.ofList first ∧
    label = if second = [] then none else some (String.ofList second)

variable {line t token gap rest : List Char}

theorem Shaped.tokenAndRest?_eq (shaped : Shaped (trimEnd line) token gap rest) :
    Directive.tokenAndRest? line = if '\n' ∈ rest then none else some (token, rest) := by
  have taken := shaped.word.takeWhile_eq
  have dropped := shaped.word.dropWhile_eq
  have behind : trimStart (gap ++ rest) = rest := shaped.blank.dropWhile_eq
  rw [Directive.tokenAndRest?, shaped.text]
  simp only [taken, dropped, behind, shaped.full, false_or]

theorem exists_shaped_iff :
    (∃ token gap rest, Shaped t token gap rest) ↔
      ∃ c s, t = '/' :: '/' :: '@' :: c :: s ∧ isWord c = true := by
  constructor
  · rintro ⟨token, gap, rest, shaped⟩
    obtain ⟨c, token, rfl⟩ := List.exists_cons_of_ne_nil shaped.full
    exact ⟨c, _, shaped.text, shaped.word.all c (List.mem_cons_self ..)⟩
  · rintro ⟨c, s, rfl, word⟩
    have full : (c :: s).takeWhile isWord ≠ [] := by
      rw [List.takeWhile_cons_of_pos word]
      exact List.cons_ne_nil _ _
    have run := isRun_takeWhile isWord (c :: s)
    have gap := isRun_takeWhile isBlank ((c :: s).dropWhile isWord)
    refine ⟨_, _, _, ⟨?_, full, ?_, gap⟩⟩
    · rw [List.takeWhile_append_dropWhile, List.takeWhile_append_dropWhile]
    · rwa [List.takeWhile_append_dropWhile]

theorem exists_shaped_of_some {found : List Char × List Char}
    (read : Directive.tokenAndRest? line = some found) :
    ∃ token gap rest, Shaped (trimEnd line) token gap rest := by
  apply exists_shaped_iff.mpr
  unfold Directive.tokenAndRest? at read
  split at read
  · rename_i s marked
    cases s with
    | nil => cases read
    | cons c s =>
      by_cases word : isWord c = true
      · exact ⟨c, s, marked, word⟩
      · simp [List.takeWhile_cons_of_neg word] at read
  · cases read

theorem tokenAndRest?_eq_some_iff :
    Directive.tokenAndRest? line = some (token, rest) ↔
      ∃ gap, Shaped (trimEnd line) token gap rest ∧ '\n' ∉ rest := by
  constructor
  · intro read
    obtain ⟨word, gap, back, shaped⟩ := exists_shaped_of_some read
    rw [shaped.tokenAndRest?_eq] at read
    split at read
    · cases read
    · rename_i newline
      cases read
      exact ⟨gap, shaped, newline⟩
  · rintro ⟨gap, shaped, newline⟩
    rw [shaped.tokenAndRest?_eq, if_neg newline]

theorem tokenAndRest?_eq_none_iff :
    Directive.tokenAndRest? line = none ↔
      (¬∃ c s, trimEnd line = '/' :: '/' :: '@' :: c :: s ∧ isWord c = true) ∨
        ∃ token gap rest, Shaped (trimEnd line) token gap rest ∧ '\n' ∈ rest := by
  rw [← exists_shaped_iff]
  constructor
  · intro none
    by_cases shape : ∃ token gap rest, Shaped (trimEnd line) token gap rest
    · obtain ⟨token, gap, rest, shaped⟩ := shape
      right
      refine ⟨token, gap, rest, shaped, ?_⟩
      rw [shaped.tokenAndRest?_eq] at none
      by_contra newline
      rw [if_neg newline] at none
      cases none
    · exact .inl shape
  · rintro (shapeless | ⟨token, gap, rest, shaped, newline⟩)
    · cases read : Directive.tokenAndRest? line with
      | none => rfl
      | some found => exact absurd (exists_shaped_of_some read) shapeless
    · rw [shaped.tokenAndRest?_eq, if_pos newline]

theorem exists_firstTwo (rest : List Char) : ∃ pattern label, FirstTwo rest pattern label := by
  have first := isRun_takeWhile isSolid rest
  have gap := isRun_takeWhile isBlank (rest.dropWhile isSolid)
  have second := isRun_takeWhile isSolid ((rest.dropWhile isSolid).dropWhile isBlank)
  refine ⟨_, _, rest.takeWhile isSolid, (rest.dropWhile isSolid).takeWhile isBlank, _, _, ?_, ?_, ?_,
    second, rfl, rfl⟩
  · rw [List.takeWhile_append_dropWhile, List.takeWhile_append_dropWhile,
      List.takeWhile_append_dropWhile]
  · rwa [List.takeWhile_append_dropWhile, List.takeWhile_append_dropWhile]
  · rwa [List.takeWhile_append_dropWhile]

theorem eq_nil_of_stops {s : List Char} (solid : ∀ c ∈ s.head?, isSolid c = false)
    (blank : ∀ c ∈ s.head?, isBlank c = false) : s = [] := by
  cases s with
  | nil => rfl
  | cons c s =>
    have inside := solid c rfl
    rw [isSolid, blank c rfl] at inside
    cases inside

theorem FirstTwo.eq_words {pattern : String} {label : Option String}
    (starts : ∀ c ∈ rest.head?, isBlank c = false) (two : FirstTwo rest pattern label) :
    pattern = ((words rest).map String.ofList).head?.getD "" ∧
      label = ((words rest).map String.ofList)[1]? := by
  obtain ⟨first, gap, second, back, rfl, one, apart, next, rfl, rfl⟩ := two
  by_cases none : first = []
  · subst none
    have empty := eq_nil_of_stops one.stops starts
    obtain ⟨rfl, rest⟩ := List.append_eq_nil_iff.mp empty
    obtain ⟨rfl, rfl⟩ := List.append_eq_nil_iff.mp rest
    exact ⟨rfl, rfl⟩
  rw [words_run none one, words_gap apart.all]
  by_cases last : second = []
  · subst last
    have empty : back = [] := eq_nil_of_stops next.stops apart.stops
    subst empty
    exact ⟨rfl, rfl⟩
  · rw [words_run last next, if_neg last]
    exact ⟨rfl, rfl⟩

theorem firstTwo_iff {pattern : String} {label : Option String}
    (starts : ∀ c ∈ rest.head?, isBlank c = false) :
    FirstTwo rest pattern label ↔ pattern = ((words rest).map String.ofList).head?.getD "" ∧
      label = ((words rest).map String.ofList)[1]? := by
  constructor
  · exact FirstTwo.eq_words starts
  · rintro ⟨rfl, rfl⟩
    obtain ⟨pattern, label, two⟩ := exists_firstTwo rest
    obtain ⟨rfl, rfl⟩ := two.eq_words starts
    exact two

end Shape

section Lines

def readBySearch? (line : String) : Option (Except String Directive) :=
  (search? (trimEnd line.toList)).map fun found =>
    match scopeByName? (String.ofList found.1) with
    | none => .error (String.ofList found.1)
    | some scope =>
      let words := (words found.2).map String.ofList
      .ok ⟨scope, words.head?.getD "", words[1]?⟩

theorem readBySearch?_eq (line : String) : readBySearch? line = Directive.parse? line := by
  unfold readBySearch? Directive.parse?
  rw [search?_eq]
  apply Option.map_congr
  intro found _
  cases known : Scope.ofToken? (String.ofList found.1) with
  | none => simp only [scopeByName?_eq, known]
  | some scope => simp only [scopeByName?_eq, known]

theorem parse?_eq_none_iff {line : String} :
    Directive.parse? line = none ↔ Directive.tokenAndRest? line.toList = none := by
  rw [Directive.parse?, Option.map_eq_none_iff]

variable {line : String}

theorem parse?_eq_error_iff {word : String} :
    Directive.parse? line = some (.error word) ↔ ∃ token gap rest,
      Shaped (trimEnd line.toList) token gap rest ∧ '\n' ∉ rest ∧ word = String.ofList token ∧
        ∀ entry ∈ spellings, entry.1 ≠ word := by
  constructor
  · intro read
    obtain ⟨⟨token, rest⟩, found, read⟩ := Option.map_eq_some_iff.mp read
    obtain ⟨gap, shaped, newline⟩ := tokenAndRest?_eq_some_iff.mp found
    simp only at read
    split at read
    · rename_i unknown
      cases read
      refine ⟨token, gap, rest, shaped, newline, rfl, ?_⟩
      intro entry member named
      rw [← named, ofToken?_eq_some_iff.mpr member] at unknown
      cases unknown
    · cases read
  · rintro ⟨token, gap, rest, shaped, newline, rfl, unknown⟩
    have found := tokenAndRest?_eq_some_iff.mpr ⟨gap, shaped, newline⟩
    have none : Scope.ofToken? (String.ofList token) = none := by
      cases known : Scope.ofToken? (String.ofList token) with
      | none => rfl
      | some scope => exact absurd rfl (unknown _ (ofToken?_eq_some_iff.mp known))
    simp only [Directive.parse?, found, Option.map_some, none]

theorem parse?_eq_ok_iff {a : Directive} :
    Directive.parse? line = some (.ok a) ↔ ∃ token gap rest,
      Shaped (trimEnd line.toList) token gap rest ∧ '\n' ∉ rest ∧
        (String.ofList token, a.scope) ∈ spellings ∧ FirstTwo rest a.pattern a.label := by
  constructor
  · intro read
    obtain ⟨⟨token, rest⟩, found, read⟩ := Option.map_eq_some_iff.mp read
    obtain ⟨gap, shaped, newline⟩ := tokenAndRest?_eq_some_iff.mp found
    simp only at read
    split at read
    · cases read
    · rename_i scope known
      cases read
      exact ⟨token, gap, rest, shaped, newline, ofToken?_eq_some_iff.mp known,
        (firstTwo_iff shaped.blank.stops).mpr ⟨rfl, rfl⟩⟩
  · rintro ⟨token, gap, rest, shaped, newline, known, two⟩
    have found := tokenAndRest?_eq_some_iff.mpr ⟨gap, shaped, newline⟩
    obtain ⟨pattern, label⟩ := two.eq_words shaped.blank.stops
    simp only [Directive.parse?, found, Option.map_some, ofToken?_eq_some_iff.mpr known, ← pattern,
      ← label]

structure IsGap (gap : String) : Prop where
  full : gap ≠ ""
  blank : ∀ c ∈ gap.toList, isBlank c = true
  inline : '\n' ∉ gap.toList

structure IsSolid (word : String) : Prop where
  full : word ≠ ""
  all : ∀ c ∈ word.toList, isSolid c = true

theorem IsSolid.newline_notMem {word : String} (solid : IsSolid word) : '\n' ∉ word.toList :=
  fun member => absurd (solid.all _ member) (by decide)

theorem IsSolid.trimEnd_eq {word : String} (solid : IsSolid word) (front : String) :
    trimEnd (front ++ word).toList = (front ++ word).toList := by
  rw [String.toList_append]
  exact trimEnd_append _ (mt String.toList_eq_nil_iff.mp solid.full) solid.all

theorem IsSolid.isRun {word : String} (solid : IsSolid word) {back : List Char}
    (ends : ∀ c ∈ back.head?, isBlank c = true) : IsRun isSolid word.toList back := by
  constructor
  · exact solid.all
  · intro c first
    rw [isSolid, ends c first]
    rfl

theorem IsGap.isRun {gap : String} (isGap : IsGap gap) {word : String} (solid : IsSolid word)
    (back : List Char) : IsRun isBlank gap.toList (word.toList ++ back) := by
  constructor
  · exact isGap.blank
  · obtain ⟨c, word, spelled⟩ :=
      List.exists_cons_of_ne_nil (mt String.toList_eq_nil_iff.mp solid.full)
    intro d first
    rw [spelled] at first
    cases first
    have solid := solid.all c (by rw [spelled]; exact List.mem_cons_self ..)
    simpa [isSolid] using solid

theorem IsGap.head_blank {gap : String} (isGap : IsGap gap) (back : List Char) :
    ∀ c ∈ (gap.toList ++ back).head?, isBlank c = true := by
  obtain ⟨c, rest, spelled⟩ :=
    List.exists_cons_of_ne_nil (mt String.toList_eq_nil_iff.mp isGap.full)
  intro d first
  rw [spelled] at first
  cases first
  exact isGap.blank c (by rw [spelled]; exact List.mem_cons_self ..)

theorem shaped_of_spelling {entry : String × Scope} (known : entry ∈ spellings) {gap word : String}
    (isGap : IsGap gap) (solid : IsSolid word) (back : List Char) :
    Shaped ('/' :: '/' :: '@' :: (entry.1.toList ++ (gap.toList ++ (word.toList ++ back))))
      entry.1.toList gap.toList (word.toList ++ back) := by
  have full : ∀ entry ∈ spellings, entry.1.toList ≠ [] := by decide
  have letters : ∀ entry ∈ spellings, entry.1.toList.all isWord = true := by decide
  refine ⟨rfl, full entry known, ⟨List.all_eq_true.mp (letters entry known), ?_⟩,
    isGap.isRun solid back⟩
  intro c first
  exact isWord_of_isBlank (isGap.head_blank _ c first)

section Written

variable {entry : String × Scope} {gap pattern : String} (known : entry ∈ spellings)
  (isGap : IsGap gap) (solid : IsSolid pattern)
include known isGap solid

theorem parse?_pattern : Directive.parse? ("//@" ++ entry.1 ++ gap ++ pattern) =
    some (.ok ⟨entry.2, pattern, none⟩) := by
  have text : ("//@" ++ entry.1 ++ gap ++ pattern).toList =
      '/' :: '/' :: '@' :: (entry.1.toList ++ (gap.toList ++ (pattern.toList ++ []))) := by
    simp [String.toList_append]
  have trimmed := solid.trimEnd_eq ("//@" ++ entry.1 ++ gap)
  apply parse?_eq_ok_iff.mpr
  refine ⟨_, _, _, trimmed.trans text ▸ shaped_of_spelling known isGap solid [], ?_, ?_, ?_⟩
  · rw [List.append_nil]
    exact solid.newline_notMem
  · rw [String.ofList_toList]
    exact known
  · have nothing (p : Char → Bool) : IsRun p [] [] := isRun_of_end (List.forall_mem_nil _)
    refine ⟨pattern.toList, [], [], [], rfl, isRun_of_end solid.all, nothing _, nothing _, ?_, rfl⟩
    rw [String.ofList_toList]

theorem parse?_pattern_label {between label : String} (apart : IsGap between)
    (named : IsSolid label) :
    Directive.parse? ("//@" ++ entry.1 ++ gap ++ pattern ++ between ++ label) =
      some (.ok ⟨entry.2, pattern, some label⟩) := by
  have text : ("//@" ++ entry.1 ++ gap ++ pattern ++ between ++ label).toList =
      '/' :: '/' :: '@' :: (entry.1.toList ++ (gap.toList ++
        (pattern.toList ++ (between.toList ++ (label.toList ++ []))))) := by
    simp [String.toList_append]
  have trimmed := named.trimEnd_eq ("//@" ++ entry.1 ++ gap ++ pattern ++ between)
  apply parse?_eq_ok_iff.mpr
  refine ⟨_, _, _, trimmed.trans text ▸ shaped_of_spelling known isGap solid _, ?_, ?_, ?_⟩
  · simp only [List.append_nil, List.mem_append, not_or]
    exact ⟨solid.newline_notMem, apart.inline, named.newline_notMem⟩
  · rw [String.ofList_toList]
    exact known
  · refine ⟨pattern.toList, between.toList, label.toList, [], rfl,
      solid.isRun (apart.head_blank _), apart.isRun named [], isRun_of_end named.all, ?_, ?_⟩
    · rw [String.ofList_toList]
    · rw [if_neg (mt String.toList_eq_nil_iff.mp named.full), String.ofList_toList]

end Written

end Lines

/-- How a line is read. It is no directive, a directive of an unknown word or one with a pattern and a
label, and what is written as a directive is read as it was written. -/
theorem parse?_grammar :
    (∀ line : String,
      let t := trimEnd line.toList
      Directive.parse? line = readBySearch? line ∧
      (Directive.parse? line = none ↔
        (¬∃ c s, t = '/' :: '/' :: '@' :: c :: s ∧ isWord c = true) ∨
          ∃ token gap rest, Shaped t token gap rest ∧ '\n' ∈ rest) ∧
      (∀ word, Directive.parse? line = some (.error word) ↔ ∃ token gap rest,
        Shaped t token gap rest ∧ '\n' ∉ rest ∧ word = String.ofList token ∧
          ∀ entry ∈ spellings, entry.1 ≠ word) ∧
      ∀ a, Directive.parse? line = some (.ok a) ↔ ∃ token gap rest,
        Shaped t token gap rest ∧ '\n' ∉ rest ∧ (String.ofList token, a.scope) ∈ spellings ∧
          FirstTwo rest a.pattern a.label) ∧
    ∀ entry ∈ spellings, ∀ gap pattern, IsGap gap → IsSolid pattern →
      Directive.parse? ("//@" ++ entry.1 ++ gap ++ pattern) = some (.ok ⟨entry.2, pattern, none⟩) ∧
      ∀ between label, IsGap between → IsSolid label →
        Directive.parse? ("//@" ++ entry.1 ++ gap ++ pattern ++ between ++ label) =
          some (.ok ⟨entry.2, pattern, some label⟩) := by
  constructor
  · intro line t
    refine ⟨(readBySearch?_eq line).symm, ?_, fun word => parse?_eq_error_iff,
      fun a => parse?_eq_ok_iff⟩
    exact parse?_eq_none_iff.trans tokenAndRest?_eq_none_iff
  · intro entry known gap pattern isGap solid
    refine ⟨parse?_pattern known isGap solid, ?_⟩
    intro between label apart named
    exact parse?_pattern_label known isGap solid apart named

theorem parse?_grammar_users :
    (("get", Scope.only .get) ∈ spellings ∧ IsGap "\t " ∧ IsSolid "/users/:id" ∧ IsGap " " ∧
      IsSolid "user_show") ∧
    Directive.parse? "//@get\t /users/:id user_show" =
      some (.ok ⟨.only .get, "/users/:id", some "user_show"⟩) := by
  have known : ("get", Scope.only .get) ∈ spellings := by decide
  have wide : IsGap "\t " := ⟨by decide, List.all_eq_true.mp (by decide), by decide⟩
  have narrow : IsGap " " := ⟨by decide, List.all_eq_true.mp (by decide), by decide⟩
  have pattern : IsSolid "/users/:id" := ⟨by decide, List.all_eq_true.mp (by decide)⟩
  have label : IsSolid "user_show" := ⟨by decide, List.all_eq_true.mp (by decide)⟩
  exact ⟨⟨known, wide, pattern, narrow, label⟩,
    (parse?_grammar.2 _ known _ _ wide pattern).2 _ _ narrow label⟩

/-- The word ends where the path begins, and a word in another case is unknown. -/
example : Directive.parse? "//@get/users" = some (.ok ⟨.only .get, "/users", none⟩) ∧
    Directive.parse? "//@Get /users" = some (.error "Get") ∧
    Directive.parse? "//@get a\nb" = none := by
  decide

end Dispatchers.Route
