import Dispatchers.Proofs.Except
import Dispatchers.Template.Basic

namespace Dispatchers.Template

namespace Partial

/-- The nodes outside of everything that is open, last first. -/
def outermost (nodes : List Node) : List (Opening × List Node) → List Node
  | [] => nodes
  | (_, before) :: outer => outermost before outer

variable {base nodes : List Node} {outer : List (Opening × List Node)} {p q : Partial}

theorem suffix_outermost_append (more : List Node) (kept : base <:+ outermost nodes outer) :
    base <:+ outermost (more ++ nodes) outer := by
  cases outer with
  | nil => exact kept.trans (List.suffix_append more nodes)
  | cons opening outer => exact kept

theorem suffix_outermost_step (kept : base <:+ outermost p.nodes p.outer) {statement : Statement}
    (ok : p.step? statement = some q) : base <:+ outermost q.nodes q.outer := by
  obtain ⟨nodes, outer⟩ := p
  cases statement with
  | assign target value =>
    cases ok
    exact suffix_outermost_append [_] kept
  | ifTest test =>
    cases ok
    exact kept
  | forEach target sequence =>
    cases ok
    exact kept
  | elseIf next =>
    simp only [step?] at ok
    split at ok
    · cases ok
      exact kept
    · cases ok
  | otherwise =>
    simp only [step?] at ok
    split at ok
    · cases ok
      exact kept
    · cases ok
      exact kept
    · cases ok
  | endIf =>
    simp only [step?] at ok
    split at ok
    · cases ok
      exact suffix_outermost_append _ kept
    · cases ok
      exact suffix_outermost_append _ kept
    · cases ok
  | endFor =>
    simp only [step?] at ok
    split at ok
    · cases ok
      exact suffix_outermost_append [_] kept
    · cases ok
      exact suffix_outermost_append [_] kept
    · cases ok

theorem suffix_outermost_segment (kept : base <:+ outermost p.nodes p.outer) {segment : Segment}
    (ok : p.segment? segment = some q) : base <:+ outermost q.nodes q.outer := by
  cases segment with
  | text s =>
    cases ok
    exact suffix_outermost_append [_] kept
  | output tokens =>
    obtain ⟨e, -, rfl⟩ := Option.map_eq_some_iff.mp ok
    exact suffix_outermost_append [_] kept
  | statement tokens =>
    obtain ⟨statement, -, ok⟩ := Option.bind_eq_some_iff.mp ok
    exact suffix_outermost_step kept ok

theorem suffix_outermost_foldlM {segments : List Segment}
    (kept : base <:+ outermost p.nodes p.outer) (ok : segments.foldlM segment? p = some q) :
    base <:+ outermost q.nodes q.outer := by
  induction segments generalizing p with
  | nil =>
    cases ok
    exact kept
  | cons segment segments ih =>
    obtain ⟨middle, first, later⟩ := Option.bind_eq_some_iff.mp ok
    exact ih (suffix_outermost_segment kept first) later

end Partial

/-- What is read before anything is open stays in front. -/
theorem prefix_of_ofSource? {source : String} {front rest : List Segment} {before nodes : List Node}
    (segments : Segment.ofSource? source = some (front ++ rest))
    (first : front.foldlM Partial.segment? .start = some ⟨before.reverse, []⟩)
    (read : ofSource? source = some nodes) : before <+: nodes := by
  rw [ofSource?, segments, Option.bind_eq_bind, Option.bind_some, List.foldlM_append, first] at read
  obtain ⟨last, folded, closed⟩ := Option.bind_eq_some_iff.mp read
  have kept : before.reverse <:+ Partial.outermost last.nodes last.outer :=
    Partial.suffix_outermost_foldlM List.suffix_rfl folded
  unfold Partial.nodes? at closed
  split at closed
  · rename_i empty
    rw [List.isEmpty_iff.mp empty, Partial.outermost] at kept
    cases closed
    rwa [← List.reverse_suffix, List.reverse_reverse]
  · cases closed

section Rendering

variable {scopes : Scopes} {v : Value} {name : String}

theorem render_text (s : String) : (Node.text s).render scopes = .ok (s, scopes) :=
  rfl

theorem render_output {e : Expression} (value : e.eval scopes = .ok v) :
    (Node.output e).render scopes = .ok (v.display, scopes) :=
  bind_eq_ok_iff.mpr ⟨v, value, rfl⟩

theorem render_reference {s : String} (bound : scopes.lookup name = .text s) :
    (Node.output (.reference name)).render scopes = .ok (s, scopes) :=
  render_output (v := .text s) (congrArg Except.ok bound)

end Rendering

theorem renderAll_append {scopes last : Scopes} {front rest : List Node} {text : String}
    (ok : renderAll scopes (front ++ rest) = .ok (text, last)) :
    ∃ first middle others, renderAll scopes front = .ok (first, middle) ∧
      renderAll middle rest = .ok (others, last) ∧ text = first ++ others := by
  induction front generalizing scopes text with
  | nil => exact ⟨"", scopes, text, rfl, ok, (String.empty_append ..).symm⟩
  | cons node front ih =>
    obtain ⟨⟨start, after⟩, made, ok⟩ := bind_eq_ok_iff.mp ok
    obtain ⟨⟨later, final⟩, also, ok⟩ := bind_eq_ok_iff.mp ok
    cases ok
    obtain ⟨first, middle, others, front, rest, rfl⟩ := ih also
    refine ⟨start ++ first, middle, others, ?_, rest, (String.append_assoc ..).symm⟩
    exact bind_eq_ok_iff.mpr ⟨_, made, bind_eq_ok_iff.mpr ⟨_, front, rfl⟩⟩

end Dispatchers.Template
