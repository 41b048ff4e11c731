import Dispatchers.Text.Split

namespace Dispatchers.Text

theorem splitWhere_eq_splitOnP (sep : Char → Bool) (s : List Char) :
    splitWhere sep s = s.splitOnP sep := by
  induction s with
  | nil => rfl
  | cons c r ih =>
    rw [List.splitOnP_cons_eq_if_modifyHead, splitWhere, ih]
    split
    · rfl
    · cases split : r.splitOnP sep with
      | nil => exact absurd split (List.splitOnP_ne_nil sep r)
      | cons piece pieces => rfl

theorem splitOn_eq (sep : Char) (s : List Char) : splitOn sep s = s.splitOn sep := by
  rw [splitOn, splitWhere_eq_splitOnP, List.splitOn_eq_splitOnP]

theorem splitOn_append (sep : Char) (s t : List Char) :
    splitOn sep (s ++ sep :: t) = splitOn sep s ++ splitOn sep t := by
  simp only [splitOn_eq, List.splitOn_append_cons_self]

theorem splitOn_joinWith {sep : Char} {pieces : List (List Char)}
    (free : ∀ piece ∈ pieces, sep ∉ piece) (full : pieces ≠ []) :
    splitOn sep (joinWith sep pieces) = pieces := by
  rw [splitOn_eq, joinWith, List.splitOn_intercalate sep free full]

theorem not_mem_splitOn {sep : Char} {s piece : List Char} (member : piece ∈ splitOn sep s) :
    sep ∉ piece := by
  induction s generalizing piece with
  | nil => simp [splitOn, splitWhere] at member; simp [member]
  | cons c r ih =>
    rw [splitOn_eq, List.splitOn_cons_eq_if_modifyHead, ← splitOn_eq] at member
    split at member
    · rcases List.mem_cons.mp member with rfl | member
      · simp
      · exact ih member
    · rename_i other
      cases split : splitOn sep r with
      | nil => simp [split] at member
      | cons first rest =>
        rw [split] at ih member
        rcases List.mem_cons.mp member with rfl | member
        · have distinct : sep ≠ c := fun same => other (by simp [same])
          simp [distinct, ih]
        · exact ih (List.mem_cons_of_mem _ member)

theorem joinWith_cons {sep : Char} {pieces : List (List Char)} (piece : List Char)
    (full : pieces ≠ []) : joinWith sep (piece :: pieces) = piece ++ sep :: joinWith sep pieces := by
  rw [joinWith, List.intercalate_cons_of_ne_nil full]
  simp [joinWith]

theorem joinWith_append {sep : Char} {left right : List (List Char)} (hl : left ≠ [])
    (hr : right ≠ []) :
    joinWith sep (left ++ right) = joinWith sep left ++ sep :: joinWith sep right := by
  induction left with
  | nil => exact absurd rfl hl
  | cons piece left ih =>
    by_cases last : left = []
    · subst last
      rw [List.singleton_append, joinWith_cons piece hr]
      simp [joinWith]
    · rw [List.cons_append, joinWith_cons piece (by simp [last]), ih last, joinWith_cons piece last]
      simp

theorem joinWith_eq_nil {sep : Char} {pieces : List (List Char)}
    (nonempty : ∀ piece ∈ pieces, piece ≠ [])
    (empty : joinWith sep pieces = []) : pieces = [] := by
  cases pieces with
  | nil => rfl
  | cons piece pieces =>
    have some := nonempty piece (by simp)
    by_cases last : pieces = []
    · subst last
      exact absurd (by simpa [joinWith] using empty) some
    · rw [joinWith_cons piece last] at empty
      simp at empty

theorem joinWith_splitOn (sep : Char) (s : List Char) : joinWith sep (splitOn sep s) = s := by
  rw [splitOn_eq, joinWith, List.intercalate_splitOn]

theorem subset_joinWith {sep : Char} {pieces : List (List Char)} {piece : List Char}
    (member : piece ∈ pieces) : piece ⊆ joinWith sep pieces := by
  induction pieces with
  | nil => cases member
  | cons first pieces ih =>
    by_cases last : pieces = []
    · subst last
      obtain rfl := List.mem_singleton.mp member
      simp [joinWith]
    · rw [joinWith_cons first last]
      rcases List.mem_cons.mp member with rfl | behind
      · exact List.subset_append_left _ _
      · exact fun c inside => List.mem_append_right _ (List.mem_cons_of_mem _ (ih behind inside))

theorem subset_of_mem_splitOn {sep : Char} {s piece : List Char} (member : piece ∈ splitOn sep s) :
    piece ⊆ s := by
  have inside : piece ⊆ joinWith sep (splitOn sep s) := subset_joinWith member
  rwa [joinWith_splitOn] at inside

theorem splitOn_ne_nil (sep : Char) (s : List Char) : splitOn sep s ≠ [] := by
  rw [splitOn, splitWhere_eq_splitOnP]
  exact List.splitOnP_ne_nil _ s

theorem map_joinWith (f : Char → Char) (sep : Char) (pieces : List (List Char)) :
    (joinWith sep pieces).map f = joinWith (f sep) (pieces.map (List.map f)) := by
  induction pieces with
  | nil => rfl
  | cons piece pieces ih =>
    by_cases last : pieces = []
    · subst last
      simp [joinWith]
    · rw [joinWith_cons piece last, List.map_cons, joinWith_cons _ (by simpa using last),
        List.map_append, List.map_cons, ih]

theorem joinWith_flatMap {α : Type} {sep : Char} {pieces : α → List (List Char)}
    (full : ∀ a, pieces a ≠ []) (texts : List α) :
    joinWith sep (texts.flatMap pieces) = joinWith sep (texts.map fun a => joinWith sep (pieces a)) := by
  induction texts with
  | nil => rfl
  | cons a texts ih =>
    by_cases last : texts = []
    · subst last
      simp [joinWith]
    · obtain ⟨b, rest, rfl⟩ := List.exists_cons_of_ne_nil last
      have behind : (b :: rest).flatMap pieces ≠ [] := by simp [full b]
      rw [List.flatMap_cons, joinWith_append (full a) behind, ih, ← joinWith_cons _ (by simp)]
      rfl

end Dispatchers.Text
