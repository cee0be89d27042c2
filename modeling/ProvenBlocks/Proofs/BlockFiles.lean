import Mathlib.Data.List.Nodup
import ProvenBlocks.Proofs.Calm
import ProvenBlocks.Proofs.Framing
import ProvenBlocks.Proofs.StateFiles

/-!
What the calls on a depot leave in its directories. As long as no call fails and no number is
opened twice, the file of a block holds the frames of what its writer has taken in, once the writer
is closed or let go. Calls on one writer touch the file of its own block only, and saves touch none.
-/

namespace ProvenBlocks

/-! ### Opened numbers -/

/-- Which block was opened on which writer. -/
def Call.opener? : Call → Option (UInt64 × WriterId)
  | .openBlock writer number (.ok ()) => some (number, writer)
  | _ => none

def openers (calls : List Call) : List (UInt64 × WriterId) := calls.filterMap Call.opener?

/-- The numbers that blocks were opened for. -/
def openedNumbers (calls : List Call) : List UInt64 := (openers calls).map Prod.fst

section

variable {calls more : List Call} {writer other : WriterId} {number : UInt64}

theorem opened_numbers_append :
    openedNumbers (calls ++ more) = openedNumbers calls ++ openedNumbers more := by
  rw [openedNumbers, openers, List.filterMap_append, List.map_append]
  rfl

theorem unopened_before (unopened : number ∉ openedNumbers (calls ++ more)) :
    number ∉ openedNumbers calls := by
  rw [opened_numbers_append, List.mem_append, not_or] at unopened
  exact unopened.1

theorem mem_openings : number ∈ openings calls writer ↔ (number, writer) ∈ openers calls := by
  have same : ∀ call : Call, call.opening? writer = some number ↔
      call.opener? = some (number, writer) := by
    intro call
    unfold Call.opening? Call.opener?
    split <;> simp [and_comm]
  simp [openings, openers, same]

theorem opened_of_opening (opened : number ∈ openings calls writer) :
    number ∈ openedNumbers calls :=
  List.mem_map_of_mem (mem_openings.mp opened)

/-- A number that is opened once belongs to one writer. -/
theorem same_opener (distinct : (openedNumbers calls).Nodup)
    (first : number ∈ openings calls writer) (second : number ∈ openings calls other) :
    writer = other := by
  have same := List.inj_on_of_nodup_map distinct (mem_openings.mp first) (mem_openings.mp second)
    rfl
  rw [Prod.mk.injEq] at same
  exact same.2

end

/-! ### Writers of a depot -/

namespace Depot

variable {depot after : Depot} {writer other : WriterId}

theorem lookup_replace_same {writers : List (WriterId × Writer)} {found : Writer}
    (known : writers.lookup writer = some found) (replacement : Writer) :
    (writers.map (replaceWriter writer replacement)).lookup writer = some replacement := by
  induction writers with
  | nil => cases known
  | cons entry later inductive_hypothesis =>
      obtain ⟨first, held⟩ := entry
      rw [List.map_cons, replaceWriter]
      by_cases same : first = writer
      · simp [same]
      · have different : (writer == first) = false := by simpa using Ne.symm same
        rw [List.lookup_cons, different] at known
        rw [if_neg same, List.lookup_cons, different]
        exact inductive_hypothesis known

theorem lookup_replace_other (apart : other ≠ writer) (writers : List (WriterId × Writer))
    (replacement : Writer) :
    (writers.map (replaceWriter writer replacement)).lookup other = writers.lookup other := by
  induction writers with
  | nil => rfl
  | cons entry later inductive_hypothesis =>
      obtain ⟨first, held⟩ := entry
      rw [List.map_cons, replaceWriter]
      by_cases same : first = writer
      · have different : (other == writer) = false := by simpa using apart
        rw [if_pos same, List.lookup_cons, List.lookup_cons, same, different,
          inductive_hypothesis]
      · rw [if_neg same, List.lookup_cons, List.lookup_cons, inductive_hypothesis]

/-! ### Files of writers -/

/-- The file that a writer has open. -/
def openFile? (depot : Depot) (writer : WriterId) : Option OpenFile :=
  match depot.writers.lookup writer with
  | some (.file files) => files.opened
  | some (.log _) | none => none

/-- What is in the file of a writer's block: all that the writer has taken in, less what it still
holds back while the file is open. A file that was closed is not open. -/
def Holding (directory : String) (calls : List Call) (writer : WriterId) (tree : FileTree) :
    Option OpenFile → Prop
  | some opened => opened.number ∈ openings calls writer ∧
      ∃ written, opened.Holds (BlockFile.path directory opened.number) written tree ∧
        (openings calls writer = [opened.number] → ¬ IsClosed calls writer ∧
          written = BlockFile.frames (contents calls writer))
  | none => ∀ number, openings calls writer = [number] →
      tree.read (BlockFile.path directory number) =
        .ok (BlockFile.frames (contents calls writer))

/-- A writer of files after some calls. -/
structure WriterFiled (directory : String) (calls : List Call) (depot : Depot)
    (writer : WriterId) : Prop where
  known : ∀ found, depot.writers.lookup writer = some found →
    writer < depot.created ∧ ∃ opened, found = .file ⟨directory, opened⟩
  holding : Holding directory calls writer depot.tree (depot.openFile? writer)
  unopened : openings calls writer = [] → ¬ IsClosed calls writer ∧ contents calls writer = []
  short : ∀ item ∈ contents calls writer, item.length < 2 ^ 32

/-- What a depot has in its directories after some calls, and what it has left of those it found:
block files of other numbers, and the stored checkpoint until another one is saved. -/
structure Filed (directory statePath : String) (start : FileTree) (calls : List Call)
    (depot : Depot) : Prop where
  sink : depot.sink = .directory directory
  store : depot.store = .file statePath
  sound : depot.tree.Sound
  writers : ∀ writer, depot.WriterFiled directory calls writer
  kept : ∀ number content, number ∉ openedNumbers calls →
    start.read (BlockFile.path directory number) = .ok content →
      depot.tree.read (BlockFile.path directory number) = .ok content
  saved : ∀ checkpoint, (ProvenBlocks.saves calls).getLast? = some checkpoint →
    StateFile.load depot.tree statePath = .ok (some checkpoint)
  stored : ProvenBlocks.saves calls = [] → ∀ checkpoint,
    StateFile.load start statePath = .ok (some checkpoint) →
      StateFile.load depot.tree statePath = .ok (some checkpoint)

section

variable {directory statePath : String} {start : FileTree} {calls : List Call} {call : Call}
  {names : List String}

theorem read_other_block {tree reached : FileTree} {number : UInt64} {content : Bytes}
    (keeps : FileTree.Keeps names tree reached) (other : BlockFile.fileName number ∉ names)
    (stored : tree.read (BlockFile.path directory number) = .ok content) :
    reached.read (BlockFile.path directory number) = .ok content := by
  apply FileTree.read_keep keeps stored
  intro name member same
  rw [BlockFile.last_name_path, Option.some.injEq] at same
  exact other (same ▸ member)

theorem holds_other_block {tree reached : FileTree} {opened : OpenFile} {written : Bytes}
    (keeps : FileTree.Keeps names tree reached)
    (other : BlockFile.fileName opened.number ∉ names)
    (holds : opened.Holds (BlockFile.path directory opened.number) written tree) :
    opened.Holds (BlockFile.path directory opened.number) written reached := by
  obtain ⟨file, content⟩ := holds.file.keep keeps (by
    intro name member same
    rw [BlockFile.last_name_path, Option.some.injEq] at same
    exact other (same ▸ member))
  exact ⟨file, by rw [content, holds.position], by rw [content, holds.written]⟩

/-- A call about another writer. -/
theorem WriterFiled.beside (filed : depot.WriterFiled directory calls writer)
    (untouched : Untouched [call] writer) (created : depot.created ≤ after.created)
    (lookup : after.writers.lookup writer = depot.writers.lookup writer)
    (keeps : FileTree.Keeps names depot.tree after.tree)
    (apart : ∀ number ∈ openings calls writer, BlockFile.fileName number ∉ names) :
    after.WriterFiled directory (calls ++ [call]) writer := by
  have openingsKept : openings (calls ++ [call]) writer = openings calls writer := by
    rw [openings_append, openings_untouched untouched, List.append_nil]
  have contentsKept : contents (calls ++ [call]) writer = contents calls writer := by
    rw [contents_append, contents_untouched untouched, List.append_nil]
  have closedKept : IsClosed (calls ++ [call]) writer ↔ IsClosed calls writer := by
    rw [is_closed_append]
    exact or_iff_left (not_closed_untouched untouched)
  have same : after.openFile? writer = depot.openFile? writer := by
    rw [openFile?, openFile?, lookup]
  constructor
  · intro found known
    rw [lookup] at known
    obtain ⟨below, kind⟩ := filed.known found known
    exact ⟨Nat.lt_of_lt_of_le below created, kind⟩
  · have holding := filed.holding
    rw [same]
    cases opened : depot.openFile? writer with
    | some current =>
        rw [opened] at holding
        obtain ⟨own, written, holds, all⟩ := holding
        rw [Holding, openingsKept, contentsKept, closedKept]
        exact ⟨own, written, holds_other_block keeps (apart _ own) holds, all⟩
    | none =>
        rw [opened] at holding
        rw [Holding, openingsKept, contentsKept]
        intro number once
        exact read_other_block keeps (apart number (by simp [once])) (holding number once)
  · rw [openingsKept, contentsKept, closedKept]
    exact filed.unopened
  · rw [contentsKept]
    exact filed.short

/-- Calls on one writer that touch no file but those of its own blocks. -/
theorem Filed.work (filed : depot.Filed directory statePath start calls)
    (apart : BlockFile.IsElsewhere statePath)
    (about : call.writer? = some writer) (sink : after.sink = depot.sink)
    (store : after.store = depot.store) (created : after.created = depot.created)
    (lookups : ∀ other, other ≠ writer → after.writers.lookup other = depot.writers.lookup other)
    (sound : after.tree.Sound) (keeps : FileTree.Keeps names depot.tree after.tree)
    (own : ∀ name ∈ names, ∃ number ∈ openings (calls ++ [call]) writer,
      name = BlockFile.fileName number)
    (distinct : (openedNumbers (calls ++ [call])).Nodup)
    (itself : after.WriterFiled directory (calls ++ [call]) writer) :
    after.Filed directory statePath start (calls ++ [call]) := by
  have unsaved : ProvenBlocks.saves [call] = [] := by
    cases call with
    | save checkpoint answer => cases about
    | create | openBlock | writeItem | closeBlock | release => rfl
  have same : ProvenBlocks.saves (calls ++ [call]) = ProvenBlocks.saves calls := by
    rw [saves_append, unsaved, List.append_nil]
  have state : ∀ name ∈ names, (Path.names statePath).getLast? ≠ some name := by
    intro name member
    obtain ⟨number, _, rfl⟩ := own name member
    exact apart number
  constructor
  · rw [sink, filed.sink]
  · rw [store, filed.store]
  · exact sound
  · intro other
    by_cases it : other = writer
    · rw [it]
      exact itself
    have untouched : Untouched [call] other := by
      intro found member
      rw [List.mem_singleton.mp member, about, ne_eq, Option.some.injEq]
      exact Ne.symm it
    apply (filed.writers other).beside untouched (Nat.le_of_eq created.symm) (lookups other it)
      keeps
    intro number opened member
    obtain ⟨mine, among, named⟩ := own _ member
    have still : number ∈ openings (calls ++ [call]) other := by simp [opened]
    rw [BlockFile.file_name_injective named] at still
    exact it (same_opener distinct still among)
  · intro number content unopened stored
    apply read_other_block keeps _
      (filed.kept number content (unopened_before unopened) stored)
    intro member
    obtain ⟨mine, among, named⟩ := own _ member
    rw [← BlockFile.file_name_injective named] at among
    exact unopened (opened_of_opening among)
  · intro checkpoint last
    rw [same] at last
    exact StateFile.load_keep keeps state (filed.saved checkpoint last)
  · intro none checkpoint stored
    rw [same] at none
    exact StateFile.load_keep keeps state (filed.stored none checkpoint stored)

/-! ### Calls that succeed -/

theorem Filed.create (filed : depot.Filed directory statePath start calls)
    (created : depot.create = (.ok writer, after)) :
    after.Filed directory statePath start (calls ++ [.create (.ok writer)]) := by
  simp only [Depot.create] at created
  split at created
  · cases created
  cases created
  have unknown : depot.writers.lookup depot.created = none := by
    cases known : depot.writers.lookup depot.created with
    | none => rfl
    | some found =>
        exact absurd ((filed.writers depot.created).known found known).1 (Nat.lt_irrefl _)
  have same : ProvenBlocks.saves (calls ++ [.create (.ok depot.created)]) =
      ProvenBlocks.saves calls := by
    rw [saves_append]
    exact List.append_nil _
  have openingsKept : ∀ writer, openings (calls ++ [.create (.ok depot.created)]) writer =
      openings calls writer := by simp
  have contentsKept : ∀ writer, contents (calls ++ [.create (.ok depot.created)]) writer =
      contents calls writer := by simp
  have closedKept : ∀ writer, IsClosed (calls ++ [.create (.ok depot.created)]) writer ↔
      IsClosed calls writer := by simp [IsClosed]
  constructor
  · exact filed.sink
  · exact filed.store
  · exact filed.sound
  · intro other
    by_cases it : other = depot.created
    · subst it
      have old := filed.writers depot.created
      have shut : depot.openFile? depot.created = none := by rw [openFile?, unknown]
      have holding := old.holding
      rw [shut] at holding
      constructor
      · intro found known
        rw [List.lookup_cons_self, Option.some.injEq] at known
        rw [← known, filed.sink]
        exact ⟨Nat.lt_succ_self _, none, rfl⟩
      · rw [openFile?, List.lookup_cons_self, filed.sink]
        rw [newWriter, Holding, openingsKept, contentsKept]
        exact holding
      · rw [openingsKept, contentsKept, closedKept]
        exact old.unopened
      · rw [contentsKept]
        exact old.short
    · refine (filed.writers other).beside ?_ (Nat.le_succ _) ?_ (.refl [] _) (by simp)
      · intro found member
        rw [List.mem_singleton.mp member, Call.writer?, ne_eq, Option.some.injEq]
        exact Ne.symm it
      · have different : (other == depot.created) = false := by simpa using it
        rw [List.lookup_cons, different]
  · intro number content unopened stored
    exact filed.kept number content (unopened_before unopened) stored
  · intro checkpoint last
    rw [same] at last
    exact filed.saved checkpoint last
  · intro none checkpoint stored
    rw [same] at none
    exact filed.stored none checkpoint stored

theorem Filed.save (filed : depot.Filed directory statePath start calls)
    (apart : BlockFile.IsElsewhere statePath)
    {checkpoint : Checkpoint} (saved : depot.save checkpoint = (.ok (), after)) :
    after.Filed directory statePath start (calls ++ [.save checkpoint (.ok ())]) := by
  simp only [Depot.save, filed.store] at saved
  split at saved
  · cases saved
  rcases stored : StateFile.save depot.tree statePath checkpoint with ⟨error | _, tree⟩
  · rw [stored] at saved
    cases saved
  rw [stored] at saved
  cases saved
  obtain ⟨sound, keeps, loaded⟩ := StateFile.save_ok filed.sound stored
  have untouched : ∀ number, BlockFile.fileName number ∉ StateFile.touched statePath := by
    intro number member
    rcases List.mem_cons.mp member with temporary | last
    · exact StateFile.temporary_name_apart statePath number temporary.symm
    · exact apart number (Option.mem_toList.mp last)
  constructor
  · exact filed.sink
  · exact filed.store
  · exact sound
  · intro writer
    refine (filed.writers writer).beside ?_ (Nat.le_refl _) rfl keeps fun number _ =>
      untouched number
    intro found member
    rw [List.mem_singleton.mp member, Call.writer?]
    exact (Option.some_ne_none writer).symm
  · intro number content unopened stored
    apply read_other_block keeps (untouched number)
    exact filed.kept number content (unopened_before unopened) stored
  · intro last found
    rw [saves_append, saves_save, saves_nil, List.getLast?_concat, Option.some.injEq] at found
    rw [← found]
    exact loaded
  · intro none
    simp at none

/-- The depot after its writer of files has worked. -/
def withFile (depot : Depot) (writer : WriterId) (files : FileWriter) (tree : FileTree) : Depot :=
  { depot with
    medium := { depot.medium with tree := tree }
    writers := depot.writers.map (replaceWriter writer (.file files)) }

/-- What a writer of files does when it succeeds. -/
theorem Filed.worked (filed : depot.Filed directory statePath start calls)
    {work : Writer → Medium → Except IoFault Unit × Writer × Medium}
    (act : FileWriter → FileTree → Except IoFault Unit × FileWriter × FileTree)
    (acts : ∀ files medium, work (.file files) medium =
      ((act files medium.tree).1, .file (act files medium.tree).2.1,
        { medium with tree := (act files medium.tree).2.2 }))
    (worked : depot.withWriter writer work = (.ok (), after)) :
    ∃ opened changed tree, depot.writers.lookup writer = some (.file ⟨directory, opened⟩) ∧
      act ⟨directory, opened⟩ depot.tree = (.ok (), changed, tree) ∧
      after = depot.withFile writer changed tree := by
  unfold withWriter at worked
  split at worked
  · cases worked
  rename_i found known
  obtain ⟨_, opened, rfl⟩ := (filed.writers writer).known found known
  rw [acts] at worked
  rcases done : act ⟨directory, opened⟩ depot.medium.tree with ⟨answer, changed, tree⟩
  rw [done] at worked
  cases worked
  exact ⟨opened, changed, tree, known, done, rfl⟩

/-- A writer that works on its own file goes on as the one that replaces it. -/
theorem Filed.replace (filed : depot.Filed directory statePath start calls)
    (apart : BlockFile.IsElsewhere statePath)
    {found : Writer} (known : depot.writers.lookup writer = some found)
    (about : call.writer? = some writer) {opened : Option OpenFile} {tree : FileTree}
    (sound : tree.Sound) (keeps : FileTree.Keeps names depot.tree tree)
    (own : ∀ name ∈ names, ∃ number ∈ openings (calls ++ [call]) writer,
      name = BlockFile.fileName number)
    (distinct : (openedNumbers (calls ++ [call])).Nodup)
    (holding : Holding directory (calls ++ [call]) writer tree opened)
    (unopened : openings (calls ++ [call]) writer = [] →
      ¬ IsClosed (calls ++ [call]) writer ∧ contents (calls ++ [call]) writer = [])
    (short : ∀ item ∈ contents (calls ++ [call]) writer, item.length < 2 ^ 32) :
    (depot.withFile writer ⟨directory, opened⟩ tree).Filed directory statePath start
      (calls ++ [call]) := by
  have replaced : (depot.withFile writer ⟨directory, opened⟩ tree).writers.lookup writer =
      some (.file ⟨directory, opened⟩) := lookup_replace_same known _
  refine filed.work apart about rfl rfl rfl ?_ sound keeps own distinct ?_
  · exact fun other it => lookup_replace_other it _ _
  · constructor
    · intro held present
      rw [replaced, Option.some.injEq] at present
      exact ⟨((filed.writers writer).known found known).1, opened, present.symm⟩
    · rw [openFile?, replaced]
      exact holding
    · exact unopened
    · exact short

theorem Filed.openBlock (filed : depot.Filed directory statePath start calls)
    (apart : BlockFile.IsElsewhere statePath)
    {number : UInt64}
    (distinct : (openedNumbers (calls ++ [.openBlock writer number (.ok ())])).Nodup)
    (opened : depot.openBlock writer number = (.ok (), after)) :
    after.Filed directory statePath start (calls ++ [.openBlock writer number (.ok ())]) := by
  obtain ⟨held, changed, tree, known, done, rfl⟩ :=
    filed.worked (fun files tree => files.openBlock number tree) (fun _ _ => rfl) opened
  obtain ⟨rfl, file, created, rfl⟩ := FileWriter.open_block_ok done
  obtain ⟨sound, keeps, there, empty⟩ :=
    FileTree.create_ok filed.sound created (BlockFile.last_name_path directory number)
  have old := filed.writers writer
  have openingsNow : openings (calls ++ [.openBlock writer number (.ok ())]) writer =
      openings calls writer ++ [number] := by simp
  have contentsNow : contents (calls ++ [.openBlock writer number (.ok ())]) writer =
      contents calls writer := by simp
  have closedNow : IsClosed (calls ++ [.openBlock writer number (.ok ())]) writer ↔
      IsClosed calls writer := by simp [IsClosed]
  apply filed.replace apart known rfl sound keeps _ distinct
  · rw [Holding, openingsNow, contentsNow, closedNow]
    refine ⟨by simp, [], ⟨there, by rw [empty]; rfl, by rw [empty]; rfl⟩, fun once => ?_⟩
    have first : openings calls writer = [] := by simpa using once
    obtain ⟨unclosed, nothing⟩ := old.unopened first
    exact ⟨unclosed, by rw [nothing]; rfl⟩
  · intro none
    simp [openingsNow] at none
  · rw [contentsNow]
    exact old.short
  · intro name member
    exact ⟨number, by simp [openingsNow], List.mem_singleton.mp member⟩

theorem Filed.writeItem (filed : depot.Filed directory statePath start calls)
    (apart : BlockFile.IsElsewhere statePath)
    {content : Bytes}
    (distinct : (openedNumbers (calls ++ [.writeItem writer content (.ok ())])).Nodup)
    (wrote : depot.writeItem writer content = (.ok (), after)) :
    after.Filed directory statePath start (calls ++ [.writeItem writer content (.ok ())]) := by
  obtain ⟨held, changed, tree, known, done, rfl⟩ :=
    filed.worked (fun files tree => files.writeItem content tree) (fun _ _ => rfl) wrote
  obtain ⟨short, current, next, rfl, rfl, writes⟩ := FileWriter.write_item_ok done
  have old := filed.writers writer
  have holding := old.holding
  rw [openFile?, known] at holding
  obtain ⟨own, written, holds, all⟩ := holding
  have filled := writes filed.sound (BlockFile.last_name_path directory current.number) holds
  have openingsNow : openings (calls ++ [.writeItem writer content (.ok ())]) writer =
      openings calls writer := by simp
  have contentsNow : contents (calls ++ [.writeItem writer content (.ok ())]) writer =
      contents calls writer ++ [content] := by simp
  have closedNow : IsClosed (calls ++ [.writeItem writer content (.ok ())]) writer ↔
      IsClosed calls writer := by simp [IsClosed]
  apply filed.replace apart known rfl filled.sound filled.keeps _ distinct
  · rw [Holding, openingsNow, contentsNow, closedNow, filled.number]
    refine ⟨own, _, filled.holds, fun once => ?_⟩
    obtain ⟨unclosed, complete⟩ := all once
    rw [complete, BlockFile.frames_append]
    exact ⟨unclosed, congrArg _ (BlockFile.frames_one content).symm⟩
  · intro none
    rw [openingsNow] at none
    rw [none] at own
    cases own
  · rw [contentsNow]
    intro item member
    rcases List.mem_append.mp member with earlier | now
    · exact old.short item earlier
    · rw [List.mem_singleton.mp now]
      exact short
  · intro name member
    exact ⟨current.number, by rw [openingsNow]; exact own, List.mem_singleton.mp member⟩

/-- A writer whose buffer is passed on has everything in its file. -/
theorem flushed_holding {tree : FileTree} {current : OpenFile} (sound : tree.Sound)
    (holding : Holding directory calls writer tree (some current)) :
    (current.flush tree).2.Sound ∧
      FileTree.Keeps [BlockFile.fileName current.number] tree (current.flush tree).2 ∧
      Holding directory calls writer (current.flush tree).2 none := by
  obtain ⟨own, written, holds, all⟩ := holding
  have flushed :=
    OpenFile.flush_wrote sound (BlockFile.last_name_path directory current.number) holds
  refine ⟨flushed.sound, flushed.keeps, ?_⟩
  intro number once
  rw [once, List.mem_singleton] at own
  have complete := flushed.holds.written
  rw [show (current.flush tree).1.buffer = [] from rfl, List.append_nil,
    (all (by rw [once, own])).2] at complete
  rw [← own, FileTree.read_of_file flushed.holds.file, complete]

theorem Filed.closeBlock (filed : depot.Filed directory statePath start calls)
    (apart : BlockFile.IsElsewhere statePath)
    (distinct : (openedNumbers (calls ++ [.closeBlock writer (.ok ())])).Nodup)
    (closed : depot.closeBlock writer = (.ok (), after)) :
    after.Filed directory statePath start (calls ++ [.closeBlock writer (.ok ())]) := by
  obtain ⟨held, changed, tree, known, done, rfl⟩ :=
    filed.worked FileWriter.closeBlock (fun _ _ => rfl) closed
  obtain ⟨current, rfl, rfl, rfl⟩ := FileWriter.close_block_ok done
  have old := filed.writers writer
  have holding := old.holding
  rw [openFile?, known] at holding
  have openingsNow : openings (calls ++ [.closeBlock writer (.ok ())]) writer =
      openings calls writer := by simp [openings, Call.opening?]
  have contentsNow : contents (calls ++ [.closeBlock writer (.ok ())]) writer =
      contents calls writer := by simp [contents, Call.content?]
  obtain ⟨sound, keeps, complete⟩ := flushed_holding filed.sound holding
  apply filed.replace apart known rfl sound keeps _ distinct
  · rw [Holding, openingsNow, contentsNow]
    exact complete
  · intro none
    have opened := holding.1
    rw [openingsNow] at none
    rw [none] at opened
    cases opened
  · rw [contentsNow]
    exact old.short
  · intro name member
    exact ⟨current.number, by rw [openingsNow]; exact holding.1, List.mem_singleton.mp member⟩

theorem Filed.release (filed : depot.Filed directory statePath start calls)
    (apart : BlockFile.IsElsewhere statePath)
    (distinct : (openedNumbers (calls ++ [.release writer])).Nodup) :
    (depot.release writer).Filed directory statePath start (calls ++ [.release writer]) := by
  have old := filed.writers writer
  have openingsNow : openings (calls ++ [.release writer]) writer = openings calls writer := by
    simp [openings, Call.opening?]
  have contentsNow : contents (calls ++ [.release writer]) writer = contents calls writer := by
    simp [contents, Call.content?]
  have closedNow : IsClosed (calls ++ [.release writer]) writer ↔ IsClosed calls writer := by
    simp [IsClosed]
  have unopened : openings (calls ++ [.release writer]) writer = [] →
      ¬ IsClosed (calls ++ [.release writer]) writer ∧
        contents (calls ++ [.release writer]) writer = [] := by
    rw [openingsNow, contentsNow, closedNow]
    exact old.unopened
  have short : ∀ item ∈ contents (calls ++ [.release writer]) writer, item.length < 2 ^ 32 := by
    rw [contentsNow]
    exact old.short
  have holding := old.holding
  unfold Depot.release
  cases known : depot.writers.lookup writer with
  | none =>
      rw [openFile?, known] at holding
      refine filed.work apart rfl rfl rfl rfl (fun _ _ => rfl) filed.sound (.refl [] _) (by simp)
        distinct ⟨old.known, ?_, unopened, short⟩
      rw [openFile?, known, Holding, openingsNow, contentsNow]
      exact holding
  | some found =>
      obtain ⟨_, opened, rfl⟩ := old.known found known
      rw [openFile?, known] at holding
      have gone : (depot.writers.filter fun entry => entry.1 != writer).lookup writer = none :=
        lookup_filter_same _ writer
      have lookups : ∀ other, other ≠ writer →
          (depot.writers.filter fun entry => entry.1 != writer).lookup other =
            depot.writers.lookup other := fun other it => lookup_filter_other _ it
      -- a writer without an open file has nothing to pass on
      cases opened with
      | none =>
          refine filed.work apart rfl rfl rfl rfl lookups filed.sound (.refl [] _) (by simp)
            distinct ⟨?_, ?_, unopened, short⟩
          · intro other present
            rw [gone] at present
            cases present
          · rw [openFile?, gone, Holding, openingsNow, contentsNow]
            exact holding
      | some current =>
          obtain ⟨sound, keeps, complete⟩ := flushed_holding filed.sound holding
          refine filed.work apart rfl rfl rfl rfl lookups sound keeps ?_ distinct
            ⟨?_, ?_, unopened, short⟩
          · intro name member
            exact ⟨current.number, by rw [openingsNow]; exact holding.1,
              List.mem_singleton.mp member⟩
          · intro other present
            rw [gone] at present
            cases present
          · rw [openFile?, gone, Holding, openingsNow, contentsNow]
            exact complete

/-! ### Letting go of writers -/

theorem open_file_release (depot : Depot) (writer other : WriterId) :
    (depot.release writer).openFile? other =
      if other = writer then none else depot.openFile? other := by
  unfold Depot.release
  cases known : depot.writers.lookup writer with
  | none =>
      by_cases same : other = writer
      · rw [if_pos same, same, openFile?, known]
      · rw [if_neg same]
  | some found =>
      by_cases same : other = writer
      · rw [if_pos same, openFile?, same, lookup_filter_same]
      · rw [if_neg same, openFile?, lookup_filter_other _ same]
        rfl

/-- A writer that was let go of, or had no open file before, has none. -/
theorem open_file_released (writers : List WriterId)
    (shut : writer ∈ writers ∨ depot.openFile? writer = none) :
    (writers.foldl Depot.release depot).openFile? writer = none := by
  induction writers generalizing depot with
  | nil => simpa using shut
  | cons first later inductive_hypothesis =>
      apply inductive_hypothesis
      rw [open_file_release]
      by_cases same : writer = first
      · exact .inr (if_pos same)
      · rw [if_neg same]
        exact shut.imp_left fun member => (List.mem_cons.mp member).resolve_left same

theorem opened_numbers_releases (calls : List Call) (writers : List WriterId) :
    openedNumbers (calls ++ writers.map Call.release) = openedNumbers calls := by
  have none : openers (writers.map Call.release) = [] := by
    simp [openers, Call.opener?]
  rw [opened_numbers_append, openedNumbers, openedNumbers, none]
  exact List.append_nil _

theorem Filed.releases (filed : depot.Filed directory statePath start calls)
    (apart : BlockFile.IsElsewhere statePath)
    (distinct : (openedNumbers calls).Nodup) (writers : List WriterId) :
    (writers.foldl Depot.release depot).Filed directory statePath start
      (calls ++ writers.map Call.release) := by
  induction writers generalizing depot calls with
  | nil => simpa using filed
  | cons first later inductive_hypothesis =>
      have distinct : (openedNumbers (calls ++ [first].map Call.release)).Nodup := by
        rw [opened_numbers_releases]
        exact distinct
      have rest := inductive_hypothesis (filed.release apart distinct) distinct
      rw [List.append_assoc] at rest
      exact rest

/-- A writer of one block has no open file once it is closed. -/
theorem WriterFiled.shut (filed : depot.WriterFiled directory calls writer) {number : UInt64}
    (opened : openings calls writer = [number]) (closed : IsClosed calls writer) :
    depot.openFile? writer = none := by
  have holding := filed.holding
  cases found : depot.openFile? writer with
  | none => rfl
  | some current =>
      rw [found] at holding
      obtain ⟨own, written, holds, all⟩ := holding
      rw [opened, List.mem_singleton] at own
      exact absurd closed (all (by rw [opened, own])).1

end

end Depot

/-! ### Scripts -/

theorem opened_once_before {calls more : List Call} (grown : calls <+: more)
    (distinct : (openedNumbers more).Nodup) : (openedNumbers calls).Nodup := by
  obtain ⟨rest, rfl⟩ := grown
  rw [opened_numbers_append] at distinct
  exact distinct.of_append_left

section

variable {α : Type} {directory statePath : String} {start : FileTree}

/-- The journal of a depot tells what is in its directories. -/
def Journal.Filed (directory statePath : String) (start : FileTree) (journal : Journal Depot) :
    Prop :=
  journal.state.Filed directory statePath start journal.calls

theorem World.answer_filed {world : World (Journal Depot)} (apart : BlockFile.IsElsewhere statePath)
    (filed : world.platform.Filed directory statePath start) (effect : Effect)
    (faultless : (world.answer Depot.platform.journaled effect).2.platform.Faultless)
    (distinct : (openedNumbers
      (world.answer Depot.platform.journaled effect).2.platform.calls).Nodup) :
    (world.answer Depot.platform.journaled effect).2.platform.Filed directory statePath start := by
  cases effect with
  | createWriter =>
      rcases call : world.platform.state.create with ⟨fault | writer, after⟩
      · simp only [World.answer, Platform.journaled, Depot.platform, call] at faultless
        cases faultless _ List.mem_concat_self
      · simp only [World.answer, Platform.journaled, Depot.platform, call]
        exact Depot.Filed.create filed call
  | openBlock writer number =>
      rcases call : world.platform.state.openBlock writer number with ⟨fault | _, after⟩
      · simp only [World.answer, Platform.journaled, Depot.platform, call] at faultless
        cases faultless _ List.mem_concat_self
      · simp only [World.answer, Platform.journaled, Depot.platform, call] at distinct ⊢
        exact Depot.Filed.openBlock filed apart distinct call
  | writeItem writer content =>
      rcases call : world.platform.state.writeItem writer content with ⟨fault | _, after⟩
      · simp only [World.answer, Platform.journaled, Depot.platform, call] at faultless
        cases faultless _ List.mem_concat_self
      · simp only [World.answer, Platform.journaled, Depot.platform, call] at distinct ⊢
        exact Depot.Filed.writeItem filed apart distinct call
  | closeBlock writer =>
      rcases call : world.platform.state.closeBlock writer with ⟨fault | _, after⟩
      · simp only [World.answer, Platform.journaled, Depot.platform, call] at faultless
        cases faultless _ List.mem_concat_self
      · simp only [World.answer, Platform.journaled, Depot.platform, call] at distinct ⊢
        exact Depot.Filed.closeBlock filed apart distinct call
  | release writer => exact Depot.Filed.release filed apart distinct
  | save checkpoint =>
      rcases call : world.platform.state.save checkpoint with ⟨error | _, after⟩
      · simp only [World.answer, Platform.journaled, Depot.platform, call] at faultless
        cases faultless _ List.mem_concat_self
      · simp only [World.answer, Platform.journaled, Depot.platform, call]
        exact Depot.Filed.save filed apart call
  | enqueue block =>
      simp only [World.answer]
      cases world.unproven.push block <;> exact filed
  | requestSignature | readView | writeView | resolve | count => exact filed

theorem Script.run_filed {script : Script α} {world : World (Journal Depot)}
    (apart : BlockFile.IsElsewhere statePath)
    (filed : world.platform.Filed directory statePath start)
    (faultless : (script.run Depot.platform.journaled world).2.platform.Faultless)
    (distinct : (openedNumbers
      (script.run Depot.platform.journaled world).2.platform.calls).Nodup) :
    (script.run Depot.platform.journaled world).2.platform.Filed directory statePath start := by
  induction script generalizing world with
  | done value => exact filed
  | stop overflow => exact filed
  | perform effect next inductive_hypothesis =>
      have answered := World.answer_filed apart filed effect
        (Journal.Faultless.before faultless)
        (opened_once_before (Script.run_calls _ _ _) distinct)
      exact inductive_hypothesis _ answered faultless distinct

end

end ProvenBlocks
