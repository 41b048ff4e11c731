import Dispatchers.Proofs.Handlers.Imports
import Dispatchers.Proofs.Template.Reading

namespace Dispatchers.Handlers

open Template

section Nodes

def lineNodes : List Template.Node :=
  [.text "\t", .output (.reference "alias"), .text " ",
    .output (.filter (.reference "path") "go_quote" []), .text "\n"]

def preambleNodes (closing : String) : List Template.Node :=
  [.output (.reference "header"), .text "\n\npackage ", .output (.reference "package"),
    .text "\n\nimport (\n", .loop (.several ["alias", "path"]) Sheet.importLoop lineNodes [],
    .text closing]

theorem foldlM_preambleSegments (closing : String) :
    (preambleSegments ++ [Segment.text closing]).foldlM Partial.segment? .start =
      some ⟨(preambleNodes closing).reverse, []⟩ := by
  with_unfolding_all rfl

theorem exists_closing {segment : Segment} (closes : closesImports segment = true) :
    ∃ more, segment = .text (")\n" ++ more) := by
  cases segment with
  | text s =>
    have split := List.take_append_drop 2 s.toList
    rw [of_decide_eq_true closes] at split
    refine ⟨String.ofList (s.toList.drop 2), congrArg Segment.text (String.ext ?_)⟩
    simpa using split.symm
  | _ => cases closes

theorem exists_nodes {fields : List (String × Shape)} {source : String} {t : Template}
    (checked : isFileTemplate fields source = true) (parsed : Template.parse source = .ok t) :
    ∃ more rest, t.nodes = preambleNodes (")\n" ++ more) ++ rest := by
  obtain ⟨segments, read, both⟩ := (Option.any_eq_true ..).mp checked
  have starts := (Bool.and_eq_true_iff.mp both).1
  unfold startsWithPreamble at starts
  obtain ⟨front, behind⟩ := Bool.and_eq_true_iff.mp starts
  obtain ⟨segment, next, closes⟩ := (Option.any_eq_true ..).mp behind
  obtain ⟨more, rfl⟩ := exists_closing closes
  have head : segments.take (preambleSegments.length + 1) =
      preambleSegments ++ [Segment.text (")\n" ++ more)] := by
    rw [List.take_add_one, of_decide_eq_true front, next]
    rfl
  have split := List.take_append_drop (preambleSegments.length + 1) segments
  rw [head] at split
  unfold Template.parse at parsed
  cases all : ofSource? source with
  | none =>
    rw [all] at parsed
    cases parsed
  | some nodes =>
    rw [all] at parsed
    cases parsed
    obtain ⟨rest, same⟩ := prefix_of_ofSource? (split.symm ▸ read) (foldlM_preambleSegments _) all
    exact ⟨more, rest, same.symm⟩

end Nodes

def importLine (entry : String × String) : String :=
  "\t" ++ entry.1 ++ " " ++ Text.quote entry.2 ++ "\n"

namespace Sheet

def preamble (s : Sheet) : String :=
  generatedHeader ++ "\n\npackage " ++ s.package ++ "\n\nimport (\n" ++
    String.join (s.importTable.entries.map importLine) ++ ")\n"

theorem renderAll_lineNodes {scopes : Scopes} {name path : String}
    (first : scopes.lookup "alias" = .text name) (second : scopes.lookup "path" = .text path) :
    renderAll scopes lineNodes = .ok (importLine (name, path), scopes) := by
  have named : (Template.Node.output (.reference "alias")).render scopes = .ok (name, scopes) :=
    render_reference first
  have quoted : (Template.Node.output (.filter (.reference "path") "go_quote" [])).render scopes =
      .ok (Text.quote path, scopes) := by
    refine render_output (v := .text (Text.quote path)) ?_
    exact bind_eq_ok_iff.mpr ⟨_, congrArg Except.ok second, rfl⟩
  simp only [lineNodes, renderAll, render_text, named, quoted, bind, Except.bind, pure, Except.pure,
    importLine, String.append_empty, String.append_assoc]

theorem renderPasses_importLines (size : Nat) (outer : Scopes) (entries : List (String × String)) :
    ∀ (scope : Dictionary Value) (first : Nat),
      renderPasses (fun scopes => renderAll scopes lineNodes) (.several ["alias", "path"]) size
        (scope :: outer)
        ((entries.map fun (name, path) => Value.list [.text name, .text path]).zipIdx first) =
      .ok (String.join (entries.map importLine)) := by
  induction entries with
  | nil => exact fun _ _ => rfl
  | cons entry entries ih =>
    intro scope first
    obtain ⟨name, path⟩ := entry
    let bound := ((scope.insert "loop" (loopState first size)).insert "alias" (.text name)).insert
      "path" (.text path)
    have made : renderAll (bound :: outer) lineNodes =
        .ok (importLine (name, path), bound :: outer) := by
      apply renderAll_lineNodes <;> simp [bound, Scopes.lookup, Dictionary.get?_insert]
    have later := ih bound (first + 1)
    rw [List.map_cons, List.zipIdx_cons, renderPasses]
    refine bind_eq_ok_iff.mpr ⟨bound :: outer, rfl, bind_eq_ok_iff.mpr ⟨_, made, ?_⟩⟩
    refine bind_eq_ok_iff.mpr ⟨_, later, ?_⟩
    rw [List.map_cons, String.join_cons]
    rfl

theorem render_importLoop (s : Sheet) :
    (Template.Node.loop (.several ["alias", "path"]) importLoop lineNodes []).render
      (scopesOf s.context) =
      .ok (String.join (s.importTable.entries.map importLine), scopesOf s.context) := by
  rw [Node.render]
  refine bind_eq_ok_iff.mpr ⟨_, s.importLoop_eval, bind_eq_ok_iff.mpr ⟨_, rfl, ?_⟩⟩
  cases entries : s.importTable.entries with
  | nil => rfl
  | cons entry rest =>
    exact bind_eq_ok_iff.mpr ⟨_, renderPasses_importLines _ _ (entry :: rest) _ 0, rfl⟩

theorem renderAll_preambleNodes (s : Sheet) (more : String) :
    renderAll (scopesOf s.context) (preambleNodes (")\n" ++ more)) =
      .ok (s.preamble ++ more, scopesOf s.context) := by
  have header : (Template.Node.output (.reference "header")).render (scopesOf s.context) =
      .ok (generatedHeader, scopesOf s.context) :=
    render_reference (lookup_context (by simp [commonEntries]))
  have package : (Template.Node.output (.reference "package")).render (scopesOf s.context) =
      .ok (s.package, scopesOf s.context) :=
    render_reference (lookup_context (by simp [commonEntries]))
  simp only [preambleNodes, renderAll, render_text, header, package, s.render_importLoop, bind,
    Except.bind, pure, Except.pure, preamble, String.append_empty, String.append_assoc]

theorem exists_more {s : Sheet} {fields : List (String × Shape)} {source text : String}
    {t : Template} (checked : isFileTemplate fields source = true)
    (parsed : Template.parse source = .ok t) (made : t.render s.context = .ok text) :
    ∃ more, text = s.preamble ++ more := by
  obtain ⟨more, rest, nodes⟩ := exists_nodes checked parsed
  obtain ⟨⟨all, _⟩, rendered, same⟩ := bind_eq_ok_iff.mp made
  cases same
  rw [nodes] at rendered
  obtain ⟨first, middle, others, start, -, rfl⟩ := renderAll_append rendered
  rw [s.renderAll_preambleNodes] at start
  cases start
  exact ⟨more ++ others, String.append_assoc ..⟩

end Sheet

/-- Without templates of its own a run starts every file with its header, its package clause and the
imports of its table. -/
theorem render_preamble {any : Disk} {library : Library} (loaded : Library.load any none = .ok library)
    {sheet : Sheet} {text : String}
    (made : library.render sheet.template sheet.context = .ok text) :
    ∃ more, text = sheet.preamble ++ more := by
  obtain ⟨handler, package⟩ := parse_of_load loaded
  rw [Sheet.template] at made
  split at made
  · exact Sheet.exists_more isFileTemplate_handler handler (render_of_render (find?_handler _) made)
  · exact Sheet.exists_more isFileTemplate_package package (render_of_render (find?_package _) made)

end Dispatchers.Handlers
