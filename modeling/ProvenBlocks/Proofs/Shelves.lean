import ProvenBlocks.Proofs.WriterSteps

/-!
Files of blocks while their writers take turns. Whatever order the calls come in, the file of a
block holds the frames of what the block has taken in, less what its writer still holds back, and
nothing of any other block.
-/

namespace ProvenBlocks
namespace Depot

section

variable {directory : String} {start : FileTree} {calls : List Call} {call : Call}
  {depot after : Depot} {writer : WriterId} {current : OpenFile}

/-! ### What is in the files -/

/-- The file of a block holds the frames of what was taken in, less what its writer holds back as
long as it has the file open. -/
def Laid (directory : String) (number : UInt64) (taken : List Bytes) (tree : FileTree) :
    Option OpenFile → Prop
  | some current => current.number = number ∧
      current.Holds (BlockFile.path directory number) (BlockFile.frames taken) tree
  | none => tree.read (BlockFile.path directory number) = .ok (BlockFile.frames taken)

/-- The files of a depot are those that its calls tell. Names of other numbers are untouched. -/
structure Shelved (directory : String) (start : FileTree) (calls : List Call) (depot : Depot) :
    Prop where
  writers : depot.WritesTo directory
  sound : depot.tree.Sound
  told : ∀ writer, (Shelf.after calls).opened writer =
    (depot.openFile? writer).map OpenFile.number
  own : ∀ {writer current}, depot.openFile? writer = some current →
    current.number ∈ openings calls writer
  writing : ∀ {writer current}, depot.openFile? writer = some current →
    current.Holds (BlockFile.path directory current.number)
      (BlockFile.frames ((Shelf.after calls).items current.number)) depot.tree
  shut : ∀ {number}, number ∈ openedNumbers calls →
    (∀ {writer current}, depot.openFile? writer = some current → current.number ≠ number) →
      depot.tree.read (BlockFile.path directory number) =
        .ok (BlockFile.frames ((Shelf.after calls).items number))
  short : ∀ number, ∀ item ∈ (Shelf.after calls).items number, item.length < 2 ^ 32
  kept : FileTree.Keeps ((openedNumbers calls).map BlockFile.fileName) start depot.tree

/-- No file of a block loses any of what it holds. -/
def Grows (directory : String) (calls : List Call) (before after : FileTree) : Prop :=
  ∀ number ∈ openedNumbers calls, ∀ content,
    before.read (BlockFile.path directory number) = .ok content →
      ∃ more, after.read (BlockFile.path directory number) = .ok (content ++ more)

theorem Grows.refl (directory : String) (calls : List Call) (tree : FileTree) :
    Grows directory calls tree tree :=
  fun _ _ content stored => ⟨[], by rw [stored, List.append_nil]⟩

theorem opened_numbers_unopened (unopened : call.opener? = none) :
    openedNumbers (calls ++ [call]) = openedNumbers calls := by
  have none : openers [call] = [] := List.filterMap_cons_none unopened
  rw [opened_numbers_append, openedNumbers, openedNumbers, none]
  exact List.append_nil _

theorem not_beside {number other : UInt64} (apart : other ≠ number) :
    BlockFile.fileName other ∉ [BlockFile.fileName number] :=
  fun member => apart (BlockFile.file_name_injective (List.mem_singleton.mp member))

/-- A call on one writer that touches the file of one block. -/
structure Touches (directory : String) (calls : List Call) (call : Call) (depot after : Depot)
    (writer : WriterId) (number : UInt64) (taken : List Bytes) (file : Option OpenFile) :
    Prop where
  opens : (Shelf.after (calls ++ [call])).opened =
    Function.update (Shelf.after calls).opened writer (file.map OpenFile.number)
  takes : (Shelf.after (calls ++ [call])).items =
    Function.update (Shelf.after calls).items number taken
  others : ∀ {other}, other ≠ writer → after.openFile? other = depot.openFile? other
  itself : after.openFile? writer = file
  only : ∀ {current}, depot.openFile? writer = some current → current.number = number
  mine : number ∈ openings (calls ++ [call]) writer
  newcomers : ∀ {other}, other ∈ openedNumbers (calls ++ [call]) → other ≠ number →
    other ∈ openedNumbers calls
  distinct : (openedNumbers (calls ++ [call])).Nodup
  sound : after.tree.Sound
  keeps : FileTree.Keeps [BlockFile.fileName number] depot.tree after.tree
  laid : Laid directory number taken after.tree file
  short : ∀ item ∈ taken, item.length < 2 ^ 32

theorem Shelved.work {number : UInt64} {taken : List Bytes} {file : Option OpenFile}
    (shelved : depot.Shelved directory start calls)
    (writers : after.WritesTo directory)
    (touches : Touches directory calls call depot after writer number taken file) :
    after.Shelved directory start (calls ++ [call]) := by
  obtain ⟨opens, takes, others, itself, only, mine, newcomers, distinct, sound, keeps, laid,
    short⟩ := touches
  have own : ∀ {other current}, after.openFile? other = some current →
      current.number ∈ openings (calls ++ [call]) other := by
    intro other current opened
    by_cases same : other = writer
    · rw [same, itself] at opened
      subst opened
      rw [same, laid.1]
      exact mine
    · rw [others same] at opened
      rw [openings_append]
      exact List.mem_append_left _ (shelved.own opened)
  constructor
  · exact writers
  · exact sound
  · intro other
    rw [opens]
    by_cases same : other = writer
    · rw [same, Function.update_self, itself]
    · rw [Function.update_of_ne same, others same]
      exact shelved.told other
  · exact own
  · intro other current opened
    rw [takes]
    by_cases same : other = writer
    · rw [same, itself] at opened
      subst opened
      obtain ⟨rfl, holds⟩ := laid
      rw [Function.update_self]
      exact holds
    · -- a number that is opened once is open in one writer
      have apart : current.number ≠ number := by
        intro equal
        exact same (same_opener distinct (equal ▸ own opened) mine)
      rw [others same] at opened
      rw [Function.update_of_ne apart]
      exact holds_other_block keeps (not_beside apart) (shelved.writing opened)
  · intro other known unopened
    rw [takes]
    by_cases same : other = number
    · subst same
      cases file with
      | none =>
          rw [Function.update_self]
          exact laid
      | some current => exact absurd laid.1 (unopened itself)
    · rw [Function.update_of_ne same]
      refine read_other_block keeps (not_beside same) (shelved.shut (newcomers known same) ?_)
      intro holder current opened
      by_cases it : holder = writer
      · rw [only (it ▸ opened)]
        exact Ne.symm same
      · exact unopened ((others it).trans opened)
  · intro other item
    rw [takes]
    by_cases same : other = number
    · rw [same, Function.update_self]
      exact short item
    · rw [Function.update_of_ne same]
      exact shelved.short other item
  · refine (shelved.kept.widen ?_).trans (keeps.widen ?_)
    · rw [opened_numbers_append, List.map_append]
      exact List.subset_append_left _ _
    · intro name member
      rw [List.mem_singleton.mp member]
      exact List.mem_map_of_mem (opened_of_opening mine)

/-- A call that changes no file and no open block. -/
theorem Shelved.quiet (shelved : depot.Shelved directory start calls)
    (writers : after.WritesTo directory)
    (noted : (Shelf.after calls).note call = Shelf.after calls) (unopened : call.opener? = none)
    (tree : after.tree = depot.tree)
    (files : ∀ other, after.openFile? other = depot.openFile? other) :
    after.Shelved directory start (calls ++ [call]) := by
  have numbers : openedNumbers (calls ++ [call]) = openedNumbers calls :=
    opened_numbers_unopened unopened
  constructor
  · exact writers
  · rw [tree]
    exact shelved.sound
  · intro other
    rw [Shelf.after_concat, noted, files]
    exact shelved.told other
  · intro other current opened
    rw [files] at opened
    rw [openings_append]
    exact List.mem_append_left _ (shelved.own opened)
  · intro other current opened
    rw [files] at opened
    rw [Shelf.after_concat, noted, tree]
    exact shelved.writing opened
  · intro number known idle
    rw [numbers] at known
    rw [Shelf.after_concat, noted, tree]
    exact shelved.shut known fun {_ _} opened => idle ((files _).trans opened)
  · rw [Shelf.after_concat, noted]
    exact shelved.short
  · rw [numbers, tree]
    exact shelved.kept

/-- What an open file does on its own changes no other block, and adds to its own. -/
theorem Shelved.grows (shelved : depot.Shelved directory start calls)
    (opened : depot.openFile? writer = some current) {written : Bytes}
    {result : OpenFile × FileTree}
    (wrote : current.Wrote depot.tree (BlockFile.path directory current.number)
      (BlockFile.fileName current.number) written result) :
    Grows directory calls depot.tree result.2 := by
  intro number _ content stored
  by_cases same : number = current.number
  · subst same
    rw [FileTree.read_of_file (shelved.writing opened).file, Except.ok.injEq] at stored
    obtain ⟨more, grown⟩ := wrote.grown
    refine ⟨more, ?_⟩
    rw [FileTree.read_of_file wrote.holds.file, wrote.file, ← grown, stored]
  · exact ⟨[], by rw [read_other_block wrote.keeps (not_beside same) stored, List.append_nil]⟩

/-- What a writer held back is in the file once it has passed it on. -/
theorem Shelved.flush (shelved : depot.Shelved directory start calls)
    (opened : depot.openFile? writer = some current) (writers : after.WritesTo directory)
    (noted : ∀ shelf : Shelf,
      shelf.note call = ⟨Function.update shelf.opened writer none, shelf.items⟩)
    (unopened : call.opener? = none) (distinct : (openedNumbers calls).Nodup)
    (files : ∀ other, after.openFile? other =
      if other = writer then none else depot.openFile? other)
    (tree : after.tree = (current.flush depot.tree).2) :
    after.Shelved directory start (calls ++ [call]) ∧
      Grows directory calls depot.tree after.tree := by
  have flushed := OpenFile.flush_wrote shelved.sound
    (BlockFile.last_name_path directory current.number) (shelved.writing opened)
  have numbers : openedNumbers (calls ++ [call]) = openedNumbers calls :=
    opened_numbers_unopened unopened
  have complete := flushed.holds.written
  rw [show (current.flush depot.tree).1.buffer = [] from rfl, List.append_nil] at complete
  have laid : Laid directory current.number ((Shelf.after calls).items current.number) after.tree
      none := by
    rw [Laid, tree, FileTree.read_of_file flushed.holds.file, complete]
  have touches : Touches directory calls call depot after writer current.number
      ((Shelf.after calls).items current.number) none := {
    opens := by
      rw [Shelf.after_concat, noted]
      rfl
    takes := by rw [Shelf.after_concat, noted, Function.update_eq_self]
    others := fun apart => by rw [files, if_neg apart]
    itself := by rw [files, if_pos rfl]
    only := by
      intro held same
      rw [opened, Option.some.injEq] at same
      rw [same]
    mine := by
      rw [openings_append]
      exact List.mem_append_left _ (shelved.own opened)
    newcomers := fun known _ => numbers ▸ known
    distinct := numbers ▸ distinct
    sound := tree ▸ flushed.sound
    keeps := tree ▸ flushed.keeps
    laid := laid
    short := shelved.short current.number }
  exact ⟨shelved.work writers touches, tree ▸ shelved.grows opened flushed⟩

theorem Shelved.opened (shelved : depot.Shelved directory start calls) {number : UInt64}
    {before : Option OpenFile} {changed : FileWriter} {reached : FileTree}
    (writers : (depot.withFile writer changed reached).WritesTo directory)
    (known : depot.writers.lookup writer = some (.file ⟨directory, before⟩))
    (done : FileWriter.openBlock ⟨directory, before⟩ number depot.tree =
      (.ok (), changed, reached))
    (distinct : (openedNumbers (calls ++ [.openBlock writer number (.ok ())])).Nodup) :
    (depot.withFile writer changed reached).Shelved directory start
        (calls ++ [.openBlock writer number (.ok ())]) ∧
      Grows directory calls depot.tree reached := by
  obtain ⟨rfl, file, created, rfl⟩ := FileWriter.open_block_ok done
  obtain ⟨sound, keeps, there, empty⟩ :=
    FileTree.create_ok shelved.sound created (BlockFile.last_name_path directory number)
  have numbers : openedNumbers (calls ++ [.openBlock writer number (.ok ())]) =
      openedNumbers calls ++ [number] := opened_numbers_append
  have idle : depot.openFile? writer = none := by rw [openFile?, known]
  have holds : OpenFile.Holds ⟨number, file, 0, []⟩ (BlockFile.path directory number)
      (BlockFile.frames []) reached :=
    ⟨there, by rw [empty]; rfl, by rw [empty]; rfl⟩
  have touches : Touches directory calls (.openBlock writer number (.ok ())) depot
      (depot.withFile writer ⟨directory, some ⟨number, file, 0, []⟩⟩ reached) writer number []
      (some ⟨number, file, 0, []⟩) := {
    opens := by
      rw [Shelf.after_concat]
      rfl
    takes := by
      rw [Shelf.after_concat]
      rfl
    others := fun apart => by rw [open_file_with_file known, if_neg apart]
    itself := by rw [open_file_with_file known, if_pos rfl]
    only := by
      intro current opened
      rw [idle] at opened
      cases opened
    mine := by simp
    newcomers := by
      intro other member apart
      rw [numbers, List.mem_append, List.mem_singleton] at member
      exact member.resolve_right apart
    distinct := distinct
    sound := sound
    keeps := keeps
    laid := ⟨rfl, holds⟩
    short := fun item member => by cases member }
  refine ⟨shelved.work writers touches, fun other member content stored => ?_⟩
  rw [numbers] at distinct
  have apart : other ≠ number := by
    rintro rfl
    exact List.disjoint_of_nodup_append distinct member (List.mem_singleton_self _)
  exact ⟨[], by rw [read_other_block keeps (not_beside apart) stored, List.append_nil]⟩

theorem Shelved.wrote (shelved : depot.Shelved directory start calls) {content : Bytes}
    {before : Option OpenFile} {changed : FileWriter} {reached : FileTree}
    (writers : (depot.withFile writer changed reached).WritesTo directory)
    (known : depot.writers.lookup writer = some (.file ⟨directory, before⟩))
    (done : FileWriter.writeItem ⟨directory, before⟩ content depot.tree =
      (.ok (), changed, reached))
    (distinct : (openedNumbers calls).Nodup) :
    (depot.withFile writer changed reached).Shelved directory start
        (calls ++ [.writeItem writer content (.ok ())]) ∧
      Grows directory calls depot.tree reached := by
  obtain ⟨short, current, next, rfl, rfl, writes⟩ := FileWriter.write_item_ok done
  have opened : depot.openFile? writer = some current := by rw [openFile?, known]
  have filled := writes shelved.sound (BlockFile.last_name_path directory current.number)
    (shelved.writing opened)
  have numbers : openedNumbers (calls ++ [.writeItem writer content (.ok ())]) =
      openedNumbers calls := opened_numbers_unopened rfl
  have told : (Shelf.after calls).opened writer = some current.number := by
    rw [shelved.told, opened, Option.map_some]
  have noted : (Shelf.after calls).note (.writeItem writer content (.ok ())) =
      ⟨(Shelf.after calls).opened, Function.update (Shelf.after calls).items current.number
        ((Shelf.after calls).items current.number ++ [content])⟩ := by
    simp only [Shelf.note, told]
  have touches : Touches directory calls (.writeItem writer content (.ok ())) depot
      (depot.withFile writer ⟨directory, some next⟩ reached) writer current.number
      ((Shelf.after calls).items current.number ++ [content]) (some next) := {
    opens := by
      rw [Shelf.after_concat, noted, Option.map_some, filled.number, ← told,
        Function.update_eq_self]
    takes := by rw [Shelf.after_concat, noted]
    others := fun apart => by rw [open_file_with_file known, if_neg apart]
    itself := by rw [open_file_with_file known, if_pos rfl]
    only := by
      intro held same
      rw [opened, Option.some.injEq] at same
      rw [same]
    mine := by
      rw [openings_append]
      exact List.mem_append_left _ (shelved.own opened)
    newcomers := fun member _ => numbers ▸ member
    distinct := numbers ▸ distinct
    sound := filled.sound
    keeps := filled.keeps
    laid := by
      refine ⟨filled.number, ?_⟩
      rw [BlockFile.frames_append, BlockFile.frames_one]
      exact filled.holds
    short := by
      intro item member
      rcases List.mem_append.mp member with earlier | now
      · exact shelved.short _ item earlier
      · rw [List.mem_singleton.mp now]
        exact short }
  have grown := shelved.grows opened filled
  exact ⟨shelved.work writers touches, grown⟩

theorem open_file_create (writers : depot.WritesTo directory) (other : WriterId) :
    openFile? { depot with
      writers := (depot.created, .file ⟨directory, none⟩) :: depot.writers
      created := depot.created + 1 } other = depot.openFile? other := by
  by_cases same : other = depot.created
  · have unknown : depot.writers.lookup other = none := by
      cases known : depot.writers.lookup other with
      | none => rfl
      | some found => exact absurd (writers.known known).1 (same ▸ Nat.lt_irrefl _)
    rw [openFile?, openFile?, unknown, same, List.lookup_cons_self]
  · have different : (other == depot.created) = false := by simpa using same
    rw [openFile?, openFile?, List.lookup_cons, different]

theorem tree_release (writers : depot.WritesTo directory) (writer : WriterId) :
    (depot.release writer).tree = match depot.openFile? writer with
      | none => depot.tree
      | some current => (current.flush depot.tree).2 := by
  unfold Depot.release openFile?
  cases known : depot.writers.lookup writer with
  | none => rfl
  | some found =>
      obtain ⟨_, opened, rfl⟩ := writers.known known
      cases opened <;> rfl

theorem unopened_of_failure (failed : call.isFailure = true) : call.opener? = none := by
  cases call with
  | create | writeItem | closeBlock | save => rfl
  | openBlock _ _ answer =>
      cases answer with
      | error => rfl
      | ok => cases failed
  | release => cases failed

/-- One call keeps the files as the calls tell, and none of them loses anything. -/
theorem Shelved.step (shelved : depot.Shelved directory start calls)
    (step : depot.Step directory call after) (distinct : (openedNumbers (calls ++ [call])).Nodup) :
    after.Shelved directory start (calls ++ [call]) ∧
      Grows directory calls depot.tree after.tree := by
  have writers := step.writesTo shelved.writers
  have before : (openedNumbers calls).Nodup := by
    rw [opened_numbers_append] at distinct
    exact distinct.of_append_left
  cases step with
  | created =>
      exact ⟨shelved.quiet writers rfl rfl rfl (open_file_create shelved.writers), .refl _ _ _⟩
  | opened known done => exact shelved.opened writers known done distinct
  | wrote known done => exact shelved.wrote writers known done before
  | @closed writer _ _ _ known done =>
      obtain ⟨current, rfl, rfl, rfl⟩ := FileWriter.close_block_ok done
      have opened : depot.openFile? writer = some current := by rw [openFile?, known]
      exact shelved.flush opened writers (fun _ => rfl) rfl before
        (open_file_with_file known _ _) rfl
  | @released writer =>
      have tree := tree_release shelved.writers writer
      cases opened : depot.openFile? writer with
      | none =>
          rw [opened] at tree
          have told := shelved.told writer
          rw [opened] at told
          refine ⟨shelved.quiet writers ?_ rfl tree fun other => ?_, tree ▸ .refl _ _ _⟩
          · rw [Shelf.note, ← Option.map_none, ← told, Function.update_eq_self]
          · rw [open_file_release]
            by_cases same : other = writer
            · rw [if_pos same, same, opened]
            · rw [if_neg same]
      | some current =>
          rw [opened] at tree
          exact shelved.flush opened writers (fun _ => rfl) rfl before
            (open_file_release depot writer) tree
  | refused failed unchanged =>
      obtain ⟨_, tree, files⟩ := unchanged
      exact ⟨shelved.quiet writers (Shelf.note_failure _ failed) (unopened_of_failure failed) tree
        files, tree ▸ .refl _ _ _⟩

end

end Depot

theorem Depot.Grows.trans {directory : String} {calls more : List Call}
    {before middle after : FileTree} (first : Depot.Grows directory calls before middle)
    (second : Depot.Grows directory (calls ++ more) middle after) :
    Depot.Grows directory calls before after := by
  intro number member content stored
  obtain ⟨added, between⟩ := first number member content stored
  have still : number ∈ openedNumbers (calls ++ more) := by
    rw [opened_numbers_append]
    exact List.mem_append_left _ member
  obtain ⟨further, last⟩ := second number still _ between
  exact ⟨added ++ further, by rw [last, List.append_assoc]⟩

namespace WriterOperation

variable {directory : String} {start : FileTree} {journal : Journal Depot}

theorem run_append (journal : Journal Depot) (earlier later : List WriterOperation) :
    run journal (earlier ++ later) = run (run journal earlier) later :=
  List.foldl_append

theorem perform_calls (journal : Journal Depot) (operation : WriterOperation) :
    ∃ call, (operation.perform journal).calls = journal.calls ++ [call] := by
  cases operation <;> exact ⟨_, rfl⟩

theorem run_calls (journal : Journal Depot) (operations : List WriterOperation) :
    journal.calls <+: (run journal operations).calls := by
  induction operations generalizing journal with
  | nil => exact List.prefix_refl _
  | cons first later inductive_hypothesis =>
      obtain ⟨call, noted⟩ := perform_calls journal first
      have one : journal.calls <+: (first.perform journal).calls := ⟨[call], noted.symm⟩
      exact one.trans (inductive_hypothesis _)

theorem perform_shelved (shelved : journal.state.Shelved directory start journal.calls)
    (operation : WriterOperation)
    (distinct : (openedNumbers (operation.perform journal).calls).Nodup) :
    (operation.perform journal).state.Shelved directory start (operation.perform journal).calls ∧
      Depot.Grows directory journal.calls journal.state.tree
        (operation.perform journal).state.tree := by
  obtain ⟨call, after, performed, step, _⟩ :=
    perform_step shelved.writers shelved.told operation
  rw [performed] at distinct ⊢
  exact shelved.step step distinct

theorem run_shelved (shelved : journal.state.Shelved directory start journal.calls)
    (operations : List WriterOperation)
    (distinct : (openedNumbers (run journal operations).calls).Nodup) :
    (run journal operations).state.Shelved directory start (run journal operations).calls ∧
      Depot.Grows directory journal.calls journal.state.tree
        (run journal operations).state.tree := by
  induction operations generalizing journal with
  | nil => exact ⟨shelved, .refl _ _ _⟩
  | cons first later inductive_hypothesis =>
      obtain ⟨call, noted⟩ := perform_calls journal first
      have once := opened_once_before (run_calls (first.perform journal) later) distinct
      obtain ⟨still, grown⟩ := perform_shelved shelved first once
      obtain ⟨all, further⟩ := inductive_hypothesis still distinct
      rw [noted] at further
      exact ⟨all, grown.trans further⟩

/-- A factory of writers of files that has created none yet. -/
def factory (directory : String) (ready : FileTree) : Journal Depot :=
  ⟨[], (Depot.empty (.directory directory) (.memory none)).setTree ready⟩

theorem factory_shelved (directory : String) {ready : FileTree} (sound : ready.Sound) :
    (factory directory ready).state.Shelved directory ready (factory directory ready).calls where
  writers := ⟨rfl, rfl, fun known => by cases known⟩
  sound := sound
  told := fun _ => rfl
  own := fun opened => by cases opened
  writing := fun opened => by cases opened
  shut := fun member => by cases member
  short := fun _ _ member => by cases member
  kept := .refl _ _

/-! ### Block files -/

/-- What is in the files after some calls of writers into one directory. A file holds a first part
of what its block has taken in, and all of it when no writer has it open. Refused operations fail,
no others do, and they leave every file and every open block as it was. Files of other names are
untouched. -/
structure FilesHoldItems (directory : String) (ready : FileTree) (journal : Journal Depot) :
    Prop where
  partly : ∀ number ∈ openedNumbers journal.calls, ∃ content,
    journal.state.tree.read (BlockFile.path directory number) = .ok content ∧
      content <+: BlockFile.frames ((Shelf.after journal.calls).items number)
  wholly : ∀ number ∈ openedNumbers journal.calls,
    (∀ writer, (Shelf.after journal.calls).opened writer ≠ some number) →
      journal.state.tree.read (BlockFile.path directory number) =
          .ok (BlockFile.frames ((Shelf.after journal.calls).items number)) ∧
        BlockFile.read journal.state.tree (BlockFile.path directory number) =
          .ok ((Shelf.after journal.calls).items number)
  refused : ∀ operation : WriterOperation, ∃ call,
    (operation.perform journal).calls = journal.calls ++ [call] ∧
      (call.isFailure = true ↔ operation.IsRefused directory journal)
  unchanged : ∀ operation : WriterOperation, operation.IsRefused directory journal →
    (operation.perform journal).state.tree = journal.state.tree ∧
      ∀ writer, (operation.perform journal).state.openFile? writer =
        journal.state.openFile? writer
  others : ∀ path content,
    (∀ number ∈ openedNumbers journal.calls,
      (Path.names path).getLast? ≠ some (BlockFile.fileName number)) →
    ready.read path = .ok content → journal.state.tree.read path = .ok content

theorem files_hold_items (shelved : journal.state.Shelved directory start journal.calls) :
    FilesHoldItems directory start journal := by
  have wholly : ∀ number ∈ openedNumbers journal.calls,
      (∀ writer, (Shelf.after journal.calls).opened writer ≠ some number) →
        journal.state.tree.read (BlockFile.path directory number) =
          .ok (BlockFile.frames ((Shelf.after journal.calls).items number)) := by
    intro number member idle
    apply shelved.shut member
    rintro writer current opened rfl
    apply idle writer
    rw [shelved.told, opened, Option.map_some]
  constructor
  · intro number member
    by_cases busy : ∃ writer, (Shelf.after journal.calls).opened writer = some number
    · obtain ⟨writer, told⟩ := busy
      rw [shelved.told, Option.map_eq_some_iff] at told
      obtain ⟨current, opened, rfl⟩ := told
      have holds := shelved.writing opened
      exact ⟨_, FileTree.read_of_file holds.file, current.buffer, holds.written⟩
    · exact ⟨_, wholly number member (not_exists.mp busy), List.prefix_refl _⟩
  · intro number member idle
    have content := wholly number member idle
    exact ⟨content, BlockFile.read_of_frames (shelved.short number) content⟩
  · intro operation
    obtain ⟨call, after, performed, _, fails⟩ :=
      perform_step shelved.writers shelved.told operation
    exact ⟨call, by rw [performed]; rfl, fails⟩
  · intro operation refusal
    obtain ⟨call, after, performed, step, fails⟩ :=
      perform_step shelved.writers shelved.told operation
    rw [performed]
    exact step.unchanged (fails.mpr refusal)
  · intro path content apart stored
    apply FileTree.read_keep shelved.kept stored
    intro name member same
    obtain ⟨number, opened, rfl⟩ := List.mem_map.mp member
    exact apart number opened same

/-- For all operations on the writers of one factory, in any order, that open no number twice:
the files of blocks are told apart and sorted by their numbers, hold what their blocks have taken
in, and lose nothing of that later. -/
theorem block_files_hold_their_items {directory : String} {tree ready : FileTree}
    (sound : tree.Sound) (made : tree.makeDirectories directory = (.ok (), ready))
    {operations : List WriterOperation}
    (distinct : (openedNumbers (run (factory directory ready) operations).calls).Nodup) :
    (∀ first second, BlockFile.path directory first = BlockFile.path directory second ↔
        first = second) ∧
      (∀ first second, BlockFile.fileName first < BlockFile.fileName second ↔ first < second) ∧
      FilesHoldItems directory ready (run (factory directory ready) operations) ∧
      ∀ earlier later, operations = earlier ++ later →
        Depot.Grows directory (run (factory directory ready) earlier).calls
          (run (factory directory ready) earlier).state.tree
          (run (factory directory ready) operations).state.tree := by
  have begun := FileTree.make_directories_keeps sound directory
  rw [made] at begun
  have start := factory_shelved directory begun.1
  refine ⟨fun _ _ => ⟨BlockFile.path_injective directory, congrArg _⟩, BlockFile.file_name_lt_iff,
    files_hold_items (run_shelved start operations distinct).1, ?_⟩
  rintro earlier later rfl
  rw [run_append] at distinct ⊢
  have first := run_shelved start earlier (opened_once_before (run_calls _ later) distinct)
  exact (run_shelved first.1 later distinct).2

/-- One writer closes its block, another one is let go with its block open, and what one of them
could not open is not there. -/
theorem two_writers_take_turns :
    let ready := (FileTree.empty.makeDirectories "blocks").2
    let journal := run (factory "blocks" ready) [.create, .create, .openBlock 0 7,
      .openBlock 1 12, .writeItem 0 [1, 2], .writeItem 1 [4], .openBlock 0 8, .writeItem 0 [],
      .closeBlock 0, .release 1]
    FileTree.empty.makeDirectories "blocks" = (.ok (), ready) ∧
      openedNumbers journal.calls = [7, 12] ∧
      BlockFile.read journal.state.tree (BlockFile.path "blocks" 7) = .ok [[1, 2], []] ∧
      BlockFile.read journal.state.tree (BlockFile.path "blocks" 12) = .ok [[4]] := by
  intro ready journal
  have made : FileTree.empty.makeDirectories "blocks" = (.ok (), ready) :=
    Prod.ext (by decide +kernel) rfl
  have calls : journal.calls = [.create (.ok 0), .create (.ok 1), .openBlock 0 7 (.ok ()),
      .openBlock 1 12 (.ok ()), .writeItem 0 [1, 2] (.ok ()), .writeItem 1 [4] (.ok ()),
      .openBlock 0 8 (.error (.reported .other "writer already has an open block")),
      .writeItem 0 [] (.ok ()), .closeBlock 0 (.ok ()), .release 1] := by
    decide +kernel
  have numbers : openedNumbers journal.calls = [7, 12] := by
    rw [calls]
    decide
  have idle : ∀ writer, (Shelf.after journal.calls).opened writer = none := by
    intro writer
    rw [calls]
    simp +contextual [Shelf.after, Shelf.note, Shelf.empty, Function.update_apply]
  have unopened : ∀ number writer, (Shelf.after journal.calls).opened writer ≠ some number := by
    simp [idle]
  have distinct : (openedNumbers journal.calls).Nodup := by
    rw [numbers]
    decide
  have holds : FilesHoldItems "blocks" ready journal :=
    (block_files_hold_their_items (FileTree.of_working_directory_sound _) made distinct).2.2.1
  have closed := holds.wholly 7 (by simp [numbers]) (unopened 7)
  have dropped := holds.wholly 12 (by simp [numbers]) (unopened 12)
  refine ⟨made, numbers, closed.2.trans ?_, dropped.2.trans ?_⟩
  · rw [calls]
    rfl
  · rw [calls]
    rfl

end WriterOperation
end ProvenBlocks
