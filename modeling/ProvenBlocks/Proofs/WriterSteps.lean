import Mathlib.Logic.Function.Basic
import ProvenBlocks.Proofs.BlockFiles

/-!
Steps of writers of files. Each of them is created, opened, written to, closed and let go at any
moment, whatever the others do. The calls alone tell which block every writer has open and what
every block has taken in. A call either does what it is for, or fails at something that the writer
refuses and changes nothing.
-/

namespace ProvenBlocks

/-! ### What the calls tell -/

/-- Which block every writer has open, and what every block has taken in. -/
structure Shelf where
  opened : WriterId → Option UInt64
  items : UInt64 → List Bytes

namespace Shelf

def empty : Shelf := ⟨fun _ => none, fun _ => []⟩

/-- Only calls that succeed count. A block starts without items when it is opened. -/
def note (shelf : Shelf) : Call → Shelf
  | .openBlock writer number (.ok ()) =>
      ⟨Function.update shelf.opened writer (some number), Function.update shelf.items number []⟩
  | .writeItem writer content (.ok ()) =>
      match shelf.opened writer with
      | none => shelf
      | some number =>
          ⟨shelf.opened, Function.update shelf.items number (shelf.items number ++ [content])⟩
  | .closeBlock writer (.ok ()) | .release writer =>
      ⟨Function.update shelf.opened writer none, shelf.items⟩
  | _ => shelf

def after (calls : List Call) : Shelf := calls.foldl note empty

theorem after_concat (calls : List Call) (call : Call) :
    after (calls ++ [call]) = (after calls).note call :=
  List.foldl_concat ..

theorem note_failure (shelf : Shelf) {call : Call} (failed : call.isFailure = true) :
    shelf.note call = shelf := by
  cases call with
  | create | save => rfl
  | openBlock _ _ answer | writeItem _ _ answer | closeBlock _ answer =>
      cases answer with
      | error => rfl
      | ok => cases failed
  | release => cases failed

end Shelf

/-! ### What can be done with writers -/

inductive WriterOperation where
  | create
  | openBlock (writer : WriterId) (number : UInt64)
  | writeItem (writer : WriterId) (content : Bytes)
  | closeBlock (writer : WriterId)
  | release (writer : WriterId)

namespace WriterOperation

def perform (journal : Journal Depot) : WriterOperation → Journal Depot
  | .create => (Depot.platform.journaled.create journal).2
  | .openBlock writer number => (Depot.platform.journaled.openBlock writer number journal).2
  | .writeItem writer content => (Depot.platform.journaled.writeItem writer content journal).2
  | .closeBlock writer => (Depot.platform.journaled.closeBlock writer journal).2
  | .release writer => Depot.platform.journaled.release writer journal

def run (journal : Journal Depot) (operations : List WriterOperation) : Journal Depot :=
  operations.foldl perform journal

/-- What a writer does not do: open a block behind another one or where no file can be made, write
or close without a block, and write what is too long for its length. A writer that is not there
does nothing. -/
def IsRefused (directory : String) (journal : Journal Depot) : WriterOperation → Prop
  | .create | .release _ => False
  | .openBlock writer number =>
      journal.state.writers.lookup writer = none ∨
        (Shelf.after journal.calls).opened writer ≠ none ∨
          ∃ fault, journal.state.tree.create (BlockFile.path directory number) = .error fault
  | .writeItem writer content =>
      (Shelf.after journal.calls).opened writer = none ∨ 2 ^ 32 ≤ content.length
  | .closeBlock writer => (Shelf.after journal.calls).opened writer = none

end WriterOperation

/-! ### What writers refuse -/

namespace FileWriter

/-- A writer fails exactly at what it refuses, and leaves everything as it was then. -/
inductive Outcome (files : FileWriter) (tree : FileTree) (refused : Prop) :
    Except IoFault Unit × FileWriter × FileTree → Prop
  | failed (refusal : refused) (fault : IoFault) :
      Outcome files tree refused (.error fault, files, tree)
  | done (accepted : ¬ refused) (changed : FileWriter) (reached : FileTree) :
      Outcome files tree refused (.ok (), changed, reached)

theorem open_block_outcome (files : FileWriter) (number : UInt64) (tree : FileTree) :
    Outcome files tree
      (files.opened ≠ none ∨
        ∃ fault, tree.create (BlockFile.path files.directory number) = .error fault)
      (files.openBlock number tree) := by
  unfold openBlock
  cases opened : files.opened with
  | some current => exact .failed (.inl (Option.some_ne_none current)) _
  | none =>
      rcases created : tree.create (BlockFile.path files.directory number) with fault | made
      · exact .failed (.inr ⟨fault, rfl⟩) _
      · exact .done (by simp) _ _

theorem write_item_outcome (files : FileWriter) (content : Bytes) (tree : FileTree) :
    Outcome files tree (files.opened = none ∨ 2 ^ 32 ≤ content.length)
      (files.writeItem content tree) := by
  unfold writeItem
  by_cases short : content.length < 2 ^ 32
  · rw [if_pos short]
    cases opened : files.opened with
    | none => exact .failed (.inl rfl) _
    | some current => exact .done (by simpa using short) _ _
  · rw [if_neg short]
    exact .failed (.inr (Nat.le_of_not_lt short)) _

theorem close_block_outcome (files : FileWriter) (tree : FileTree) :
    Outcome files tree (files.opened = none) (files.closeBlock tree) := by
  unfold closeBlock
  cases opened : files.opened with
  | none => exact .failed rfl _
  | some current => exact .done (Option.some_ne_none current) _ _

end FileWriter

namespace Depot

/-- All writers of the depot write files into one directory. -/
structure WritesTo (directory : String) (depot : Depot) : Prop where
  sink : depot.sink = .directory directory
  healthy : depot.medium.failing = none
  known : ∀ {writer found}, depot.writers.lookup writer = some found →
    writer < depot.created ∧ ∃ opened, found = .file ⟨directory, opened⟩

section

variable {directory : String} {depot after : Depot} {writer : WriterId}

theorem open_file_with_file {found : Writer} (known : depot.writers.lookup writer = some found)
    (files : FileWriter) (tree : FileTree) (other : WriterId) :
    (depot.withFile writer files tree).openFile? other =
      if other = writer then files.opened else depot.openFile? other := by
  by_cases same : other = writer
  · rw [if_pos same, openFile?, withFile, same, lookup_replace_same known]
  · rw [if_neg same, openFile?, withFile, lookup_replace_other same]
    rfl

theorem WritesTo.withFile (writers : depot.WritesTo directory)
    {found : Writer} (known : depot.writers.lookup writer = some found)
    (opened : Option OpenFile) (tree : FileTree) :
    (depot.withFile writer ⟨directory, opened⟩ tree).WritesTo directory where
  sink := writers.sink
  healthy := writers.healthy
  known := by
    intro other held present
    by_cases same : other = writer
    · rw [Depot.withFile, same, lookup_replace_same known, Option.some.injEq] at present
      rw [same, ← present]
      exact ⟨(writers.known known).1, opened, rfl⟩
    · rw [Depot.withFile, lookup_replace_other same] at present
      exact writers.known present

theorem WritesTo.create (writers : depot.WritesTo directory) :
    depot.create = (.ok depot.created, { depot with
      writers := (depot.created, .file ⟨directory, none⟩) :: depot.writers
      created := depot.created + 1 }) := by
  rw [Depot.create, if_neg (by simp [writers.healthy]), writers.sink]
  rfl

/-- What becomes of a depot when a writer of files works on it. -/
inductive Worked (directory : String) (depot : Depot) (writer : WriterId)
    (act : FileWriter → FileTree → Except IoFault Unit × FileWriter × FileTree)
    (refused : FileWriter → Prop) : Except IoFault Unit × Depot → Prop
  | missing (unknown : depot.writers.lookup writer = none) (fault : IoFault) :
      Worked directory depot writer act refused (.error fault, depot)
  | failed {opened : Option OpenFile}
      (known : depot.writers.lookup writer = some (.file ⟨directory, opened⟩))
      (refusal : refused ⟨directory, opened⟩) (fault : IoFault) :
      Worked directory depot writer act refused
        (.error fault, depot.withFile writer ⟨directory, opened⟩ depot.tree)
  | done {opened : Option OpenFile} {changed : FileWriter} {reached : FileTree}
      (known : depot.writers.lookup writer = some (.file ⟨directory, opened⟩))
      (accepted : ¬ refused ⟨directory, opened⟩)
      (acted : act ⟨directory, opened⟩ depot.tree = (.ok (), changed, reached)) :
      Worked directory depot writer act refused (.ok (), depot.withFile writer changed reached)

theorem WritesTo.worked (writers : depot.WritesTo directory)
    {work : Writer → Medium → Except IoFault Unit × Writer × Medium}
    (act : FileWriter → FileTree → Except IoFault Unit × FileWriter × FileTree)
    (acts : ∀ files medium, work (.file files) medium =
      ((act files medium.tree).1, .file (act files medium.tree).2.1,
        { medium with tree := (act files medium.tree).2.2 }))
    {refused : FileWriter → Prop}
    (outcome : ∀ files, FileWriter.Outcome files depot.tree (refused files)
      (act files depot.tree)) :
    depot.Worked directory writer act refused (depot.withWriter writer work) := by
  unfold withWriter
  cases known : depot.writers.lookup writer with
  | none => exact .missing known _
  | some found =>
      obtain ⟨_, opened, rfl⟩ := writers.known known
      simp only [acts]
      have own := outcome ⟨directory, opened⟩
      rcases acted : act ⟨directory, opened⟩ depot.tree with ⟨answer, changed, reached⟩
      rw [acted] at own
      cases own with
      | failed refusal fault =>
          rw [show act ⟨directory, opened⟩ depot.medium.tree = _ from acted]
          exact .failed known refusal fault
      | done accepted =>
          rw [show act ⟨directory, opened⟩ depot.medium.tree = _ from acted]
          exact .done known accepted acted

/-! ### Steps -/

/-- What a call does to a depot whose writers write files. -/
inductive Step (directory : String) (depot : Depot) : Call → Depot → Prop
  | created : Step directory depot (.create (.ok depot.created)) { depot with
      writers := (depot.created, .file ⟨directory, none⟩) :: depot.writers
      created := depot.created + 1 }
  | opened {writer : WriterId} {number : UInt64} {before : Option OpenFile}
      {changed : FileWriter} {reached : FileTree}
      (known : depot.writers.lookup writer = some (.file ⟨directory, before⟩))
      (done : FileWriter.openBlock ⟨directory, before⟩ number depot.tree =
        (.ok (), changed, reached)) :
      Step directory depot (.openBlock writer number (.ok ()))
        (depot.withFile writer changed reached)
  | wrote {writer : WriterId} {content : Bytes} {before : Option OpenFile}
      {changed : FileWriter} {reached : FileTree}
      (known : depot.writers.lookup writer = some (.file ⟨directory, before⟩))
      (done : FileWriter.writeItem ⟨directory, before⟩ content depot.tree =
        (.ok (), changed, reached)) :
      Step directory depot (.writeItem writer content (.ok ()))
        (depot.withFile writer changed reached)
  | closed {writer : WriterId} {before : Option OpenFile}
      {changed : FileWriter} {reached : FileTree}
      (known : depot.writers.lookup writer = some (.file ⟨directory, before⟩))
      (done : FileWriter.closeBlock ⟨directory, before⟩ depot.tree =
        (.ok (), changed, reached)) :
      Step directory depot (.closeBlock writer (.ok ())) (depot.withFile writer changed reached)
  | released {writer : WriterId} : Step directory depot (.release writer) (depot.release writer)
  | refused {call : Call} {after : Depot} (failed : call.isFailure = true)
      (unchanged : after.WritesTo directory ∧ after.tree = depot.tree ∧
        ∀ other, after.openFile? other = depot.openFile? other) :
      Step directory depot call after

/-- The call is a step, and it fails exactly if the writer is missing or refuses. -/
theorem Worked.step {act : FileWriter → FileTree → Except IoFault Unit × FileWriter × FileTree}
    {refused : FileWriter → Prop} {result : Except IoFault Unit × Depot}
    (worked : depot.Worked directory writer act refused result)
    (writers : depot.WritesTo directory) (call : Except IoFault Unit → Call)
    (fails : ∀ fault, (call (.error fault)).isFailure = true)
    (succeeds : (call (.ok ())).isFailure = false)
    (does : ∀ {before changed reached},
      depot.writers.lookup writer = some (.file ⟨directory, before⟩) →
      act ⟨directory, before⟩ depot.tree = (.ok (), changed, reached) →
        depot.Step directory (call (.ok ())) (depot.withFile writer changed reached)) :
    depot.Step directory (call result.1) result.2 ∧
      ((call result.1).isFailure = true ↔ ∀ opened,
        depot.writers.lookup writer = some (.file ⟨directory, opened⟩) →
          refused ⟨directory, opened⟩) := by
  cases worked with
  | missing unknown fault =>
      exact ⟨.refused (fails fault) ⟨writers, rfl, fun _ => rfl⟩, by simp [unknown, fails]⟩
  | failed known refusal fault =>
      refine ⟨.refused (fails fault) ?_, by simpa [known, fails] using refusal⟩
      refine ⟨writers.withFile known _ _, rfl, fun other => ?_⟩
      rw [open_file_with_file known]
      by_cases same : other = writer
      · rw [if_pos same, same, openFile?, known]
      · rw [if_neg same]
  | done known accepted acted =>
      exact ⟨does known acted, by simpa [known, succeeds] using accepted⟩

/-- What holds of the file that a writer has open holds of what is open in the writer. -/
theorem WritesTo.open_file_iff (writers : depot.WritesTo directory)
    (property : Option OpenFile → Prop) (idle : property none) :
    (∀ opened, depot.writers.lookup writer = some (.file ⟨directory, opened⟩) →
      property opened) ↔ property (depot.openFile? writer) := by
  unfold openFile?
  cases known : depot.writers.lookup writer with
  | none => simpa using idle
  | some found =>
      obtain ⟨_, opened, rfl⟩ := writers.known known
      simp

theorem Step.writesTo {call : Call} (step : depot.Step directory call after)
    (writers : depot.WritesTo directory) : after.WritesTo directory := by
  cases step with
  | created =>
      refine ⟨writers.sink, writers.healthy, ?_⟩
      intro other found known
      by_cases same : other = depot.created
      · rw [same, List.lookup_cons_self, Option.some.injEq] at known
        exact ⟨same ▸ Nat.lt_succ_self _, none, known.symm⟩
      · have different : (other == depot.created) = false := by simpa using same
        rw [List.lookup_cons, different] at known
        obtain ⟨below, kind⟩ := writers.known known
        exact ⟨Nat.lt_succ_of_lt below, kind⟩
  | opened known done =>
      obtain ⟨_, file, _, rfl⟩ := FileWriter.open_block_ok done
      exact writers.withFile known _ _
  | wrote known done =>
      obtain ⟨_, _, next, _, rfl, _⟩ := FileWriter.write_item_ok done
      exact writers.withFile known _ _
  | closed known done =>
      obtain ⟨_, _, rfl, _⟩ := FileWriter.close_block_ok done
      exact writers.withFile known _ _
  | @released writer =>
      unfold Depot.release
      cases present : depot.writers.lookup writer with
      | none => exact writers
      | some found =>
          obtain ⟨_, opened, rfl⟩ := writers.known present
          refine ⟨writers.sink, writers.healthy, ?_⟩
          intro other held known
          by_cases same : other = writer
          · rw [same, lookup_filter_same] at known
            cases known
          · rw [lookup_filter_other _ same] at known
            exact writers.known known
  | refused _ unchanged => exact unchanged.1

/-- A call that fails changes no file and no open block. -/
theorem Step.unchanged {call : Call} (step : depot.Step directory call after)
    (failed : call.isFailure = true) :
    after.tree = depot.tree ∧ ∀ other, after.openFile? other = depot.openFile? other := by
  cases step with
  | created | opened | wrote | closed | released => cases failed
  | refused _ unchanged => exact unchanged.2

end

end Depot

/-! ### Operations -/

namespace WriterOperation

variable {directory : String} {journal : Journal Depot}

/-- An operation is one call, which fails if it is refused and only then. -/
theorem perform_step (writers : journal.state.WritesTo directory)
    (told : ∀ writer, (Shelf.after journal.calls).opened writer =
      (journal.state.openFile? writer).map OpenFile.number)
    (operation : WriterOperation) :
    ∃ call after, operation.perform journal = journal.note call after ∧
      journal.state.Step directory call after ∧
      (call.isFailure = true ↔ operation.IsRefused directory journal) := by
  cases operation with
  | create =>
      refine ⟨_, _, ?_, .created, by simp [Call.isFailure, IsRefused]⟩
      simp only [perform, Platform.journaled, Depot.platform, writers.create]
  | openBlock writer number =>
      have worked : journal.state.Worked directory writer _ _
          (journal.state.openBlock writer number) :=
        writers.worked (fun files => files.openBlock number) (fun _ _ => rfl)
          fun files => files.open_block_outcome number _
      obtain ⟨step, fails⟩ := worked.step writers (.openBlock writer number) (fun _ => rfl) rfl
        .opened
      refine ⟨_, _, rfl, step, fails.trans ?_⟩
      rw [IsRefused, told, ne_eq, Option.map_eq_none_iff, Depot.openFile?]
      cases known : journal.state.writers.lookup writer with
      | none => simp
      | some found =>
          obtain ⟨_, opened, rfl⟩ := writers.known known
          simp
  | writeItem writer content =>
      have worked : journal.state.Worked directory writer _ _
          (journal.state.writeItem writer content) :=
        writers.worked (fun files => files.writeItem content) (fun _ _ => rfl)
          fun files => files.write_item_outcome content _
      obtain ⟨step, fails⟩ := worked.step writers (.writeItem writer content) (fun _ => rfl) rfl
        .wrote
      refine ⟨_, _, rfl, step, fails.trans ?_⟩
      rw [IsRefused, told, Option.map_eq_none_iff]
      exact writers.open_file_iff (fun opened => opened = none ∨ 2 ^ 32 ≤ content.length) (.inl rfl)
  | closeBlock writer =>
      have worked : journal.state.Worked directory writer _ _ (journal.state.closeBlock writer) :=
        writers.worked FileWriter.closeBlock (fun _ _ => rfl)
          fun files => files.close_block_outcome _
      obtain ⟨step, fails⟩ := worked.step writers (.closeBlock writer) (fun _ => rfl) rfl .closed
      refine ⟨_, _, rfl, step, fails.trans ?_⟩
      rw [IsRefused, told, Option.map_eq_none_iff]
      exact writers.open_file_iff (fun opened => opened = none) rfl
  | release writer =>
      exact ⟨_, _, rfl, .released, by simp [Call.isFailure, IsRefused]⟩

end WriterOperation

end ProvenBlocks
