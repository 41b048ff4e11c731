import Dispatchers.Handlers.Render
import Dispatchers.Listing
import Dispatchers.Proofs.Output

namespace Dispatchers

open Template

structure Delivered (disk : Disk) (files : List OutputFile) (after : Disk) : Prop
    extends OutputFile.Wrote disk files after where
  changed : ∀ names, after.node? names ≠ disk.node? names →
    (∃ f ∈ files, f.place disk.cwd = names) ∨
    disk.node? names = none ∧ after.node? names = some .directory ∧
      ∃ f ∈ files, OutputFile.Above disk.cwd f.path names ∧
        (".." ∉ Disk.components f.path → names <+: f.place disk.cwd ∧ names ≠ f.place disk.cwd)
  own : (∀ f ∈ files, after.readText f.path = .ok f.contents) ↔
    ∀ f ∈ files, ∀ g ∈ files, f.place disk.cwd = g.place disk.cwd → f.contents = g.contents

/-- What a run has changed that was writing `files` when it failed: it wrote those before one that
could not be written, for which it made directories at most. -/
def Interrupted (disk : Disk) (files : List OutputFile) (after : Disk) : Prop :=
  ∃ done f rest between, files = done ++ f :: rest ∧ OutputFile.Wrote disk done between ∧
    Disk.Grows between (OutputFile.Above disk.cwd f.path) after

/-- How a run treats the disk, dry or not. Before it writes it has `prepared` all files, unless it
fails with a cause that `fails` gives. -/
structure AllOrNothing {α β : Type} (disk : Disk) (fails : Fault → Prop) (prepared : Except Fault α)
    (files : α → List OutputFile) (report : α → β) (run : Bool → Disk × Except Fault β) : Prop where
  unprepared : ∀ cause, prepared = .error cause ↔ fails cause
  failed : ∀ cause, fails cause → ∀ dry, run dry = (disk, .error cause)
  dry : ∀ made, prepared = .ok made → run true = (disk, .ok (report made))
  same : ∀ after result, run false = (after, .ok result) → run true = (disk, .ok result)
  written : ∀ after result, run false = (after, .ok result) → ∃ made, prepared = .ok made ∧
    result = report made ∧ Delivered disk (files made) after
  interrupted : ∀ after cause, run false = (after, .error cause) →
    after = disk ∧ fails cause ∨ ∃ made, prepared = .ok made ∧ Interrupted disk (files made) after

section Delivering

variable {disk after : Disk} {files : List OutputFile} {paths : List String}

theorem deliver_dry (disk : Disk) (files : List OutputFile) :
    OutputFile.deliver disk true files = (disk, .ok (files.map (·.path))) :=
  rfl

theorem deliver_of_writeAll {outcome : Except Fault Unit}
    (writes : OutputFile.writeAll disk files = (after, outcome)) :
    OutputFile.deliver disk false files = (after, outcome.map fun _ => files.map (·.path)) := by
  unfold OutputFile.deliver
  rw [if_neg Bool.false_ne_true, writes]

theorem deliver_ok (ok : OutputFile.deliver disk false files = (after, .ok paths)) :
    paths = files.map (·.path) ∧ OutputFile.writeAll disk files = (after, .ok ()) := by
  rcases writes : OutputFile.writeAll disk files with ⟨last, cause | _⟩
  · rw [deliver_of_writeAll writes] at ok
    cases ok
  · rw [deliver_of_writeAll writes] at ok
    cases ok
    exact ⟨rfl, rfl⟩

theorem map_deliver {β : Type} (dry : Bool) (report : List String → β) :
    (OutputFile.deliver disk dry files).2.map report =
      (OutputFile.deliver disk dry files).2.map fun _ => report (files.map (·.path)) := by
  cases dry with
  | true => rfl
  | false =>
    rcases delivered : OutputFile.deliver disk false files with ⟨after, cause | paths⟩
    · rfl
    · rw [(deliver_ok delivered).1]
      rfl

theorem allOrNothing_of_deliver {α β : Type} {fails : Fault → Prop} {prepared : Except Fault α}
    {files : α → List OutputFile} {report : α → β} {run : Bool → Disk × Except Fault β}
    (causes : ∀ cause, prepared = .error cause ↔ fails cause)
    (unprepared : ∀ cause, prepared = .error cause → ∀ dry, run dry = (disk, .error cause))
    (delivers : ∀ made, prepared = .ok made → ∀ dry, run dry =
      ((OutputFile.deliver disk dry (files made)).1,
        (OutputFile.deliver disk dry (files made)).2.map fun _ => report made)) :
    AllOrNothing disk fails prepared files report run := by
  have dry (made : α) (ready : prepared = .ok made) : run true = (disk, .ok (report made)) := by
    rw [delivers made ready, deliver_dry]
    rfl
  have written (after : Disk) (result : β) (ok : run false = (after, .ok result)) :
      ∃ made, prepared = .ok made ∧ result = report made ∧
        OutputFile.Wrote disk (files made) after := by
    cases ready : prepared with
    | error cause =>
      rw [unprepared cause ready] at ok
      cases ok
    | ok made =>
      rw [delivers made ready] at ok
      rcases delivered : OutputFile.deliver disk false (files made) with ⟨last, cause | paths⟩
      · rw [delivered] at ok
        cases ok
      · rw [delivered] at ok
        cases ok
        exact ⟨made, rfl, rfl, OutputFile.writeAll_ok (deliver_ok delivered).2⟩
  constructor
  case unprepared => exact causes
  case failed => exact fun cause fails => unprepared cause ((causes cause).mpr fails)
  case dry => exact dry
  case same =>
    intro after result ok
    obtain ⟨made, ready, rfl, -⟩ := written after result ok
    exact dry made ready
  case written =>
    intro after result ok
    obtain ⟨made, ready, same, wrote⟩ := written after result ok
    exact ⟨made, ready, same, wrote, fun _ => wrote.changed, wrote.readText_iff⟩
  case interrupted =>
    intro after cause error
    cases ready : prepared with
    | error other =>
      rw [unprepared other ready] at error
      cases error
      exact .inl ⟨rfl, (causes cause).mp ready⟩
    | ok made =>
      rw [delivers made ready] at error
      rcases writes : OutputFile.writeAll disk (files made) with ⟨last, other | _⟩ <;>
        rw [deliver_of_writeAll writes] at error <;> cases error
      exact .inr ⟨made, rfl, OutputFile.writeAll_error writes⟩

end Delivering

namespace Handlers

open Resolve

def Plan.withDry (p : Plan) (dry : Bool) : Plan :=
  { p with options := { p.options with dryRun := dry } }

theorem controllerSheets_withDry (p : Plan) (dry : Bool) (place : Nat) (s : Scanned)
    (d : Destination) (earlier : List String) (decls : List ControllerDecl) :
    (p.withDry dry).controllerSheets place s d earlier decls =
      p.controllerSheets place s d earlier decls := by
  induction decls generalizing earlier with
  | nil => rfl
  | cons decl decls ih =>
    rw [Plan.controllerSheets, Plan.controllerSheets, ih]
    rfl

theorem sheets_withDry (p : Plan) (dry : Bool) : (p.withDry dry).sheets = p.sheets := by
  have each (place : Nat) (s : Scanned) :
      (p.withDry dry).sheetsOf place s = p.sheetsOf place s := by
    unfold Plan.sheetsOf
    simp only [controllerSheets_withDry]
    rfl
  unfold Plan.sheets
  simp only [each]
  rfl

theorem planOf_withDry (disk : Disk) (l : Locator) (r : Resolution) (o : Options) (dry : Bool) :
    Plan.of disk l r { o with dryRun := dry } = (Plan.of disk l r o).map (·.withDry dry) := by
  unfold Plan.of
  simp only
  cases l.importFor? disk o.input with
  | none => rfl
  | some rootImport =>
    have imports : Plan.outputImportOf disk l r { o with dryRun := dry } =
        Plan.outputImportOf disk l r o := rfl
    simp only [imports]
    cases Plan.outputImportOf disk l r o <;> rfl

theorem prepare_withDry (disk : Disk) (environment : Environment) (o : Options) (dry : Bool) :
    prepare disk environment { o with dryRun := dry } = prepare disk environment o := by
  have rendered (l : Locator) (r : Resolution) (library : Library) :
      renderHandlers disk l r { o with dryRun := dry } library =
        renderHandlers disk l r o library := by
    unfold renderHandlers
    rw [planOf_withDry]
    cases Plan.of disk l r o with
    | error cause => rfl
    | ok p =>
      show renderSheets library (p.withDry dry).sheets = renderSheets library p.sheets
      rw [sheets_withDry]
  have scanned : scan disk environment { o with dryRun := dry } = scan disk environment o := rfl
  unfold prepare
  rw [scanned]
  simp only [rendered]

theorem generate_of_error {disk : Disk} {environment : Environment} {o : Options} {cause : Fault}
    (failed : prepare disk environment o = .error cause) :
    generate disk environment o = (disk, .error cause) := by
  simp only [generate, failed]

theorem generate_of_prepare {disk : Disk} {environment : Environment} {o : Options}
    {made : Generated OutputFile} (ready : prepare disk environment o = .ok made) :
    generate disk environment o = ((OutputFile.deliver disk o.dryRun made.files).1,
      (OutputFile.deliver disk o.dryRun made.files).2.map
        fun _ => ⟨made.files.map (·.path), made.report⟩) := by
  simp only [generate, ready]
  rw [map_deliver]

inductive FailsFirst (disk : Disk) (environment : Environment) (o : Options) (cause : Fault) : Prop
  | scanning (failed : scan disk environment o = .error cause)
  | loading {l : Locator} {r : Resolution} (scanned : scan disk environment o = .ok (l, r))
      (failed : Library.load disk o.templates = .error cause)
  | rendering {l : Locator} {r : Resolution} {library : Library}
      (scanned : scan disk environment o = .ok (l, r))
      (loaded : Library.load disk o.templates = .ok library)
      (failed : renderHandlers disk l r o library = .error cause)

theorem prepare_eq_error_iff {disk : Disk} {environment : Environment} {o : Options}
    {cause : Fault} :
    prepare disk environment o = .error cause ↔ FailsFirst disk environment o cause := by
  constructor
  · intro failed
    rcases bind_eq_error_iff.mp failed with unscanned | ⟨⟨l, r⟩, scanned, failed⟩
    · exact .scanning unscanned
    rcases bind_eq_error_iff.mp failed with unloaded | ⟨library, loaded, failed⟩
    · exact .loading scanned unloaded
    rcases bind_eq_error_iff.mp failed with unrendered | ⟨_, _, absent⟩
    · exact .rendering scanned loaded unrendered
    · cases absent
  · intro fails
    refine bind_eq_error_iff.mpr ?_
    cases fails with
    | scanning failed => exact .inl failed
    | loading scanned failed => exact .inr ⟨_, scanned, bind_eq_error_iff.mpr (.inl failed)⟩
    | rendering scanned loaded failed =>
      refine .inr ⟨_, scanned, bind_eq_error_iff.mpr (.inr ⟨_, loaded, ?_⟩)⟩
      exact bind_eq_error_iff.mpr (.inl failed)

end Handlers

namespace Listing

inductive FailsFirst (disk : Disk) (o : Options) (cause : Fault) : Prop
  | loading (failed : Library.load disk o.templates = .error cause)
  | listing {library : Library} (loaded : Library.load disk o.templates = .ok library)
      (failed : entries disk o.input = .error cause)
  | rendering {library : Library} {found : List Entry}
      (loaded : Library.load disk o.templates = .ok library)
      (listed : entries disk o.input = .ok found)
      (failed : library.render Library.listingName (context o found) = .error cause)

theorem prepare_eq_error_iff {disk : Disk} {o : Options} {cause : Fault} :
    prepare disk o = .error cause ↔ FailsFirst disk o cause := by
  constructor
  · intro failed
    rcases bind_eq_error_iff.mp failed with unloaded | ⟨library, loaded, failed⟩
    · exact .loading unloaded
    rcases bind_eq_error_iff.mp failed with unlisted | ⟨found, listed, failed⟩
    · exact .listing loaded unlisted
    rcases bind_eq_error_iff.mp failed with unrendered | ⟨_, _, absent⟩
    · exact .rendering loaded listed unrendered
    · cases absent
  · intro fails
    refine bind_eq_error_iff.mpr ?_
    cases fails with
    | loading failed => exact .inl failed
    | listing loaded failed => exact .inr ⟨_, loaded, bind_eq_error_iff.mpr (.inl failed)⟩
    | rendering loaded listed failed =>
      refine .inr ⟨_, loaded, bind_eq_error_iff.mpr (.inr ⟨_, listed, ?_⟩)⟩
      exact bind_eq_error_iff.mpr (.inl failed)

end Listing

/-- Runs that generate dispatchers or an index write all of their files or none. What stays in the
end at a place is the last text that was written there. -/
theorem generate_allOrNothing (disk : Disk) (environment : Environment) (o : Handlers.Options)
    (listing : Listing.Options) :
    AllOrNothing disk (Handlers.FailsFirst disk environment o)
      (Handlers.prepare disk environment o) (·.files)
      (fun made => ⟨made.files.map (·.path), made.report⟩)
      (fun dry => Handlers.generate disk environment { o with dryRun := dry }) ∧
    AllOrNothing disk (Listing.FailsFirst disk listing) (Listing.prepare disk listing) ([·]) (·.path)
      (fun dry => Listing.generate disk { listing with dryRun := dry }) := by
  constructor
  · refine allOrNothing_of_deliver (fun _ => Handlers.prepare_eq_error_iff)
      (fun cause failed dry => ?_) (fun made ready dry => ?_)
    · exact Handlers.generate_of_error ((Handlers.prepare_withDry ..).trans failed)
    · exact Handlers.generate_of_prepare ((Handlers.prepare_withDry ..).trans ready)
  · refine allOrNothing_of_deliver (fun _ => Listing.prepare_eq_error_iff)
      (fun cause failed dry => ?_) (fun made ready dry => ?_)
    · have failed : Listing.prepare disk { listing with dryRun := dry } = .error cause := failed
      simp only [Listing.generate, failed]
    · have ready : Listing.prepare disk { listing with dryRun := dry } = .ok made := ready
      simp only [Listing.generate, ready]

end Dispatchers
