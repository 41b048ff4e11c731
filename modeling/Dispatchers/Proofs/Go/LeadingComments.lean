import Dispatchers.Go.LeadingComments
import Mathlib.Data.List.Chain

namespace Dispatchers.Go

namespace Sibling

def isDeclaration : Sibling → Bool
  | comment _ => false
  | declaration _ _ => true

end Sibling

/-- Siblings as they stand in a source: each starts where the one before it ends, or below. -/
structure InOrder (siblings : List Sibling) : Prop where
  forward : ∀ s ∈ siblings, s.row ≤ s.endRow
  ascending : siblings.Pairwise fun s next => s.endRow ≤ next.row

/-- Comments at the end of `front` that lead up to `row` line by line, none behind a declaration on
one of its rows. -/
structure IsRun (row : Nat) (front : List Sibling) (run : List Comment) : Prop where
  ends : run.map .comment <:+ front
  stacked : run.IsChain fun c next => c.endRow + 1 = next.row
  touching : ∀ c ∈ run.getLast?, c.endRow + 1 = row
  untrailed : ∀ c ∈ run, ∀ s ∈ front, s.isDeclaration = true → s.endRow ≠ c.row

structure IsLongestRun (row : Nat) (front : List Sibling) (run : List Comment) : Prop where
  isRun : IsRun row front run
  longest : ∀ other, IsRun row front other → other.length ≤ run.length

def IsBeside (front : List Sibling) (run : List Comment) : Prop :=
  ∃ earlier d c rest, run = c :: rest ∧ front = earlier ++ .comment d :: run.map .comment ∧
    d.endRow = c.row

/-- What is kept of the comments in front of `row`: the longest run, less its first comment where
that one is beside another comment. -/
structure Keeps (row : Nat) (front : List Sibling) (run kept : List Comment) : Prop where
  isLongest : IsLongestRun row front run
  beside : IsBeside front run → kept = run.tail
  apart : ¬IsBeside front run → kept = run

def linesOf (run : List Comment) : List String :=
  run.flatMap fun c =>
    (Text.lines c.text.toList).map fun line => String.ofList (Text.trimEnd line)

section Runs

variable {row : Nat} {front : List Sibling} {run : List Comment} {c : Comment}

theorem isRun_nil (row : Nat) (front : List Sibling) : IsRun row front [] :=
  ⟨List.nil_suffix, .nil, nofun, nofun⟩

theorem isRun_concat_iff : IsRun row (front ++ [.comment c]) (run ++ [c]) ↔
    c.endRow + 1 = row ∧ (∀ s ∈ front, s.isDeclaration = true → s.endRow ≠ c.row) ∧
      IsRun c.row front run := by
  constructor
  · rintro ⟨ends, stacked, touching, untrailed⟩
    rw [List.map_append, List.map_singleton, List.suffix_append_self_iff] at ends
    obtain ⟨above, -, linked⟩ := List.isChain_append.mp stacked
    refine ⟨touching c List.getLast?_concat, fun s member => ?_, ends, above, ?_, ?_⟩
    · exact untrailed c List.mem_concat_self s (List.mem_append_left _ member)
    · exact fun d last => linked d last c rfl
    · exact fun d member s before =>
        untrailed d (List.mem_append_left _ member) s (List.mem_append_left _ before)
  · rintro ⟨last, free, ends, stacked, touching, untrailed⟩
    refine ⟨?_, ?_, ?_, ?_⟩
    · rw [List.map_append, List.map_singleton, List.suffix_append_self_iff]
      exact ends
    · refine List.isChain_append.mpr ⟨stacked, .singleton c, ?_⟩
      rintro d above _ ⟨⟩
      exact touching d above
    · rw [List.getLast?_concat]
      rintro _ ⟨⟩
      exact last
    · intro d member s before declared
      rcases List.mem_append.mp before with before | before
      · rcases List.mem_append.mp member with member | member
        · exact untrailed d member s before declared
        · rw [List.mem_singleton.mp member]
          exact free s before declared
      · rw [List.mem_singleton.mp before] at declared
        cases declared

theorem IsRun.eq_nil_or_concat {s : Sibling} (isRun : IsRun row (front ++ [s]) run) :
    run = [] ∨ ∃ c above, s = .comment c ∧ run = above ++ [c] := by
  rcases List.eq_nil_or_concat' run with none | ⟨above, c, rfl⟩
  · exact .inl none
  · have ends := isRun.ends
    rw [List.map_append, List.map_singleton, List.suffix_concat_iff] at ends
    rcases ends with none | ⟨_, same, -⟩
    · simp at none
    · obtain ⟨-, same⟩ := List.append_inj' same rfl
      cases same
      exact .inr ⟨c, above, rfl, rfl⟩

theorem isLongestRun_nil {s : Sibling}
    (stops : ∀ c, s = .comment c → c.endRow + 1 = row →
      ∃ s ∈ front, s.isDeclaration = true ∧ s.endRow = c.row) :
    IsLongestRun row (front ++ [s]) [] := by
  refine ⟨isRun_nil row _, fun other isRun => ?_⟩
  rcases isRun.eq_nil_or_concat with rfl | ⟨c, above, rfl, rfl⟩
  · exact Nat.le_refl _
  · obtain ⟨touches, free, -⟩ := isRun_concat_iff.mp isRun
    obtain ⟨s, member, declared, trailed⟩ := stops c rfl touches
    exact absurd trailed (free s member declared)

theorem IsLongestRun.concat (above : IsLongestRun c.row front run) (touches : c.endRow + 1 = row)
    (free : ∀ s ∈ front, s.isDeclaration = true → s.endRow ≠ c.row) :
    IsLongestRun row (front ++ [.comment c]) (run ++ [c]) := by
  refine ⟨isRun_concat_iff.mpr ⟨touches, free, above.isRun⟩, fun other isRun => ?_⟩
  rcases isRun.eq_nil_or_concat with rfl | ⟨_, upper, ⟨⟩, rfl⟩
  · exact Nat.zero_le _
  · obtain ⟨-, -, isRun⟩ := isRun_concat_iff.mp isRun
    have bound := above.longest upper isRun
    rw [List.length_append, List.length_append]
    omega

theorem isBeside_concat_iff (apart : ∀ last ∈ front.getLast?, last.endRow ≠ c.row) :
    IsBeside (front ++ [.comment c]) (run ++ [c]) ↔ IsBeside front run := by
  constructor
  · rintro ⟨earlier, d, first, rest, same, split, shares⟩
    rw [List.map_append, List.map_singleton, ← List.cons_append, ← List.append_assoc,
      List.append_left_inj] at split
    cases run with
    | nil =>
      cases same
      refine absurd shares (apart (.comment d) ?_)
      rw [split]
      exact List.getLast?_concat
    | cons top run =>
      cases same
      exact ⟨earlier, d, first, run, rfl, split, shares⟩
  · rintro ⟨earlier, d, first, rest, rfl, rfl, shares⟩
    refine ⟨earlier, d, first, rest ++ [c], rfl, ?_, shares⟩
    simp

theorem not_isBeside
    (apart : front.IsChain fun s next => s.isDeclaration = true ∨ s.endRow ≠ next.row) :
    ¬IsBeside front run := by
  rintro ⟨earlier, d, c, rest, rfl, rfl, shares⟩
  obtain ⟨-, comment | below, -⟩ := List.isChain_append_cons_cons.mp apart
  · cases comment
  · exact below shares

theorem InOrder.of_append {back : List Sibling} (ordered : InOrder (front ++ back)) :
    InOrder front :=
  ⟨fun s member => ordered.forward s (List.mem_append_left _ member),
    (List.pairwise_append.mp ordered.ascending).1⟩

theorem InOrder.free (ordered : InOrder (front ++ [.comment c]))
    (apart : ∀ last ∈ front.getLast?, last.endRow ≠ c.row) : ∀ s ∈ front, s.endRow ≠ c.row := by
  intro s member trailed
  rcases List.eq_nil_or_concat' front with rfl | ⟨front, last, rfl⟩
  · cases member
  · have other := apart last List.getLast?_concat
    have forward := ordered.forward last (List.mem_append_left _ List.mem_concat_self)
    obtain ⟨ascending, -, above⟩ := List.pairwise_append.mp ordered.ascending
    have before : last.endRow ≤ c.row :=
      above last List.mem_concat_self _ (List.mem_singleton_self _)
    rcases List.mem_append.mp member with member | member
    · obtain ⟨-, -, lower⟩ := List.pairwise_append.mp ascending
      have order := lower s member last (List.mem_singleton_self _)
      omega
    · rw [List.mem_singleton.mp member] at trailed
      exact other trailed

theorem keeps_nil (longest : IsLongestRun row front []) : Keeps row front [] [] :=
  ⟨longest, fun _ => rfl, fun _ => rfl⟩

theorem Keeps.concat {kept : List Comment} (keeps : Keeps c.row front run kept)
    (touches : c.endRow + 1 = row)
    (free : ∀ s ∈ front, s.isDeclaration = true → s.endRow ≠ c.row)
    (apart : ∀ last ∈ front.getLast?, last.endRow ≠ c.row) :
    Keeps row (front ++ [.comment c]) (run ++ [c]) (kept ++ [c]) := by
  have same : IsBeside (front ++ [.comment c]) (run ++ [c]) ↔ IsBeside front run :=
    isBeside_concat_iff apart
  refine ⟨keeps.isLongest.concat touches free, fun beside => ?_, fun alone => ?_⟩
  · have above := same.mp beside
    have full : run ≠ [] := by
      rintro rfl
      obtain ⟨_, _, _, _, none, -⟩ := above
      cases none
    rw [keeps.beside above, List.tail_append_of_ne_nil full]
  · rw [keeps.apart (mt same.mpr alone)]

/-- A comment that starts beside another one is a run of its own, and is not kept. -/
theorem keeps_beside {d : Comment} (touches : c.endRow + 1 = row) (shares : d.endRow = c.row)
    (free : ∀ s ∈ front ++ [.comment d], s.isDeclaration = true → s.endRow ≠ c.row) :
    Keeps row (front ++ [.comment d] ++ [.comment c]) [c] [] := by
  have alone : IsLongestRun c.row (front ++ [.comment d]) [] := by
    apply isLongestRun_nil
    rintro _ ⟨⟩ above
    omega
  have beside : IsBeside (front ++ [.comment d] ++ [.comment c]) [c] :=
    ⟨front, d, c, [], rfl, List.append_assoc .., shares⟩
  exact ⟨alone.concat touches free, fun _ => rfl, fun apart => absurd beside apart⟩

theorem commentsAbove_of_last {last : Sibling} (ends : last.endRow = c.row)
    (rest : List Sibling) : commentsAbove row (.comment c :: last :: rest) = [] := by
  simp [commentsAbove, ends]

/-- One step of the walk upwards, from a comment that touches the row below it. -/
theorem exists_keeps_concat (ordered : InOrder (front ++ [.comment c]))
    (touches : c.endRow + 1 = row)
    (above : ∃ run, Keeps c.row front run (commentsAbove c.row front.reverse).reverse) :
    ∃ run, Keeps row (front ++ [.comment c]) run
      (commentsAbove row (.comment c :: front.reverse)).reverse := by
  by_cases shares : ∃ last ∈ front.getLast?, last.endRow = c.row
  · obtain ⟨last, member, ends⟩ := shares
    obtain ⟨front, rfl⟩ := List.getLast?_eq_some_iff.mp member
    rw [List.reverse_append, List.reverse_singleton, List.singleton_append,
      commentsAbove_of_last ends]
    by_cases trailed : ∃ s ∈ front ++ [last], s.isDeclaration = true ∧ s.endRow = c.row
    · refine ⟨[], keeps_nil (isLongestRun_nil ?_)⟩
      rintro _ ⟨⟩ -
      exact trailed
    · have free : ∀ s ∈ front ++ [last], s.isDeclaration = true → s.endRow ≠ c.row :=
        fun s member declared ends => trailed ⟨s, member, declared, ends⟩
      cases last with
      | declaration start stop => exact absurd ends (free _ List.mem_concat_self rfl)
      | comment d => exact ⟨[c], keeps_beside touches ends free⟩
  · have apart : ∀ last ∈ front.getLast?, last.endRow ≠ c.row :=
      fun last member ends => shares ⟨last, member, ends⟩
    have free : ∀ s ∈ front, s.isDeclaration = true → s.endRow ≠ c.row :=
      fun s member _ => ordered.free apart s member
    have further : commentsAbove row (.comment c :: front.reverse) =
        c :: commentsAbove c.row front.reverse := by
      have alone : front.getLast?.any (·.endRow = c.row) = false := by
        rw [Option.any_eq_false]
        simpa using apart
      simp [commentsAbove, touches, alone]
    obtain ⟨run, keeps⟩ := above
    rw [further, List.reverse_cons]
    exact ⟨run ++ [c], keeps.concat touches free apart⟩

theorem exists_keeps (ordered : InOrder front) (row : Nat) :
    ∃ run, Keeps row front run (commentsAbove row front.reverse).reverse := by
  induction front using List.reverseRecOn generalizing row with
  | nil =>
    refine ⟨[], keeps_nil ⟨isRun_nil row [], fun other isRun => ?_⟩⟩
    have none := isRun.ends
    rw [List.suffix_nil, List.map_eq_nil_iff] at none
    rw [none]
  | append_singleton front s ih =>
    rw [List.reverse_append, List.reverse_singleton, List.singleton_append]
    cases s with
    | declaration start stop => exact ⟨[], keeps_nil (isLongestRun_nil nofun)⟩
    | comment c =>
      by_cases touches : c.endRow + 1 = row
      · exact exists_keeps_concat ordered touches (ih ordered.of_append c.row)
      · have stops : commentsAbove row (.comment c :: front.reverse) = [] := by
          simp [commentsAbove, touches]
        rw [stops]
        refine ⟨[], keeps_nil (isLongestRun_nil ?_)⟩
        rintro _ ⟨⟩ above
        exact absurd above touches

end Runs

/-- Above a declaration stand the lines of the longest run of comments there, unless the first of
them is beside another comment: that one is lost. -/
theorem leadingComments_longestRun {siblings front back : List Sibling} {row endRow : Nat}
    (ordered : InOrder siblings) (here : siblings = front ++ .declaration row endRow :: back) :
    ∃ run, IsLongestRun row front run ∧
      (¬IsBeside front run → leadingComments row front.reverse = linesOf run) ∧
      (IsBeside front run → leadingComments row front.reverse = linesOf run.tail) := by
  rw [here] at ordered
  obtain ⟨run, keeps⟩ := exists_keeps ordered.of_append row
  refine ⟨run, keeps.isLongest, fun apart => ?_, fun beside => ?_⟩
  · exact congrArg linesOf (keeps.apart apart)
  · exact congrArg linesOf (keeps.beside beside)

def behindClause (comments : List Comment) : List Sibling :=
  .declaration 0 0 :: comments.map .comment

def described : List Comment :=
  [⟨"// the clause", 0, 0⟩, ⟨"/* Index shows\r\n   all. */", 1, 2⟩, ⟨"//@get / ", 3, 3⟩]

theorem leadingComments_described :
    InOrder (behindClause described ++ [.declaration 4 6]) ∧
    ∃ run, IsLongestRun 4 (behindClause described) run ∧
      linesOf run = ["/* Index shows", "   all. */", "//@get /"] := by
  have ordered : InOrder (behindClause described ++ [.declaration 4 6]) := ⟨by decide, by decide⟩
  refine ⟨ordered, ?_⟩
  obtain ⟨run, longest, apart, -⟩ := leadingComments_longestRun ordered rfl
  have alone : ¬IsBeside (behindClause described) run := not_isBeside (by decide)
  refine ⟨run, longest, ?_⟩
  rw [← apart alone]
  decide

def annotated : List Comment :=
  [⟨"/* all */", 2, 2⟩, ⟨"//@get /", 2, 2⟩]

theorem leadingComments_annotated :
    InOrder (behindClause annotated ++ [.declaration 3 3]) ∧
    IsLongestRun 3 (behindClause annotated) [⟨"//@get /", 2, 2⟩] ∧
    linesOf [⟨"//@get /", 2, 2⟩] = ["//@get /"] ∧
    leadingComments 3 (behindClause annotated).reverse = [] := by
  have alone : IsLongestRun 2 ([.declaration 0 0] ++ [.comment ⟨"/* all */", 2, 2⟩]) [] := by
    apply isLongestRun_nil
    rintro _ ⟨⟩ touches
    cases touches
  have longest : IsLongestRun 3 (behindClause annotated) [⟨"//@get /", 2, 2⟩] :=
    alone.concat (c := ⟨"//@get /", 2, 2⟩) rfl (by decide)
  exact ⟨⟨by decide, by decide⟩, longest, by decide, by decide⟩

end Dispatchers.Go
