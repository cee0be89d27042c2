import ProvenBlocks.Node
import ProvenBlocks.Proofs.Encodings
import ProvenBlocks.Proofs.Placement
import ProvenBlocks.Proofs.Queries
import ProvenBlocks.Proofs.Restoring

/-!
Nodes that run one after the other over the same directories. Each starts from the files that the
one before it left, and loses what that one had only in memory: the blocks that were pending when
it was shut down never get their proofs, while no node that runs later has them among its unproven
blocks. Every other closed block has its proof on file.
-/

namespace ProvenBlocks

/-! ### Proofs on file -/

/-- What a block file ends with. -/
def BlockFile.lastItem? (tree : FileTree) (path : String) : Option Item :=
  (read tree path).toOption.bind fun items =>
    items.getLast?.bind fun content => (Item.decode content).toOption

/-- The block that an item proves. -/
def Item.proves? : Item → Option UInt64
  | .proof content => some content.block
  | _ => none

/-- The file of a block ends with an item that is read as the proof of this block. -/
def IsProvenOnFile (directory : String) (tree : FileTree) (number : UInt64) : Prop :=
  (BlockFile.lastItem? tree (BlockFile.path directory number)).bind Item.proves? = some number

instance (directory : String) (tree : FileTree) (number : UInt64) :
    Decidable (IsProvenOnFile directory tree number) :=
  inferInstanceAs (Decidable (_ = _))

section

variable {directory statePath : String} {start tree after : FileTree} {calls : List Call}
  {depot : Depot} {writer : WriterId} {number : UInt64}

/-- Whether a block is proven on file is told by the content of its file. -/
theorem proven_on_file_iff {content : Bytes}
    (stored : tree.read (BlockFile.path directory number) = .ok content)
    (kept : after.read (BlockFile.path directory number) = .ok content) :
    IsProvenOnFile directory after number ↔ IsProvenOnFile directory tree number := by
  unfold IsProvenOnFile BlockFile.lastItem? BlockFile.read
  rw [stored, kept]

/-- Without an open file, the file of a block ends with the last item that its writer took in. -/
theorem Depot.WriterFiled.last_item (filed : depot.WriterFiled directory calls writer)
    (opened : openings calls writer = [number]) (shut : depot.openFile? writer = none)
    {items : List Item} {last : Item}
    (written : contents calls writer = (items ++ [last]).map Item.encode) :
    BlockFile.lastItem? depot.tree (BlockFile.path directory number) = some last ∧
      ∃ content, depot.tree.read (BlockFile.path directory number) = .ok content := by
  have holding := filed.holding
  rw [shut] at holding
  have stored := holding number opened
  have short := filed.short
  have found := BlockFile.read_of_frames short stored
  rw [written, List.map_append, List.map_singleton] at found short
  have bounded : (Codec.item.encode last).length < 2 ^ 32 :=
    short last.encode List.mem_concat_self
  have decoded := Item.decode_encode (Codec.fits_short_item last (by omega))
  refine ⟨?_, _, stored⟩
  rw [BlockFile.lastItem?, found]
  simp only [Except.toOption, Option.bind_some, List.getLast?_concat, decoded]

end

/-! ### Letting go of writers -/

namespace Session

/-- The files of a session as they are. -/
def tree (session : Session (Journal Depot)) : FileTree := session.world.platform.state.tree

/-- What is left of a session when it has let go of some writers. -/
def without (session : Session (Journal Depot)) (writers : List WriterId) : Depot :=
  writers.foldl Depot.release session.world.platform.state

/-- The writers that the open block and the ledger hold on to. -/
def heldWriters (session : Session (Journal Depot)) : List WriterId :=
  Station.openWriters session.assembler ++ Station.writersOf session.world.unproven

/-- Lets go of the open block and of the ledger. -/
def shutDown (session : Session (Journal Depot)) : Depot := session.without session.heldWriters

section

variable {directory statePath : String} {start : FileTree} {earlier : List UInt64}
  {session : Session (Journal Depot)} {number : UInt64}

theorem openings_releases (calls : List Call) (writers : List WriterId) (writer : WriterId) :
    openings (calls ++ writers.map Call.release) writer = openings calls writer := by
  simp [openings, Call.opening?]

theorem contents_releases (calls : List Call) (writers : List WriterId) (writer : WriterId) :
    contents (calls ++ writers.map Call.release) writer = contents calls writer := by
  simp [contents, Call.content?]

theorem Stored.without_filed (apart : BlockFile.IsElsewhere statePath)
    (stored : session.Stored directory statePath start earlier) (writers : List WriterId) :
    (session.without writers).Filed directory statePath start
      (session.world.platform.calls ++ writers.map Call.release) :=
  Depot.Filed.releases stored.filed apart stored.opened_once writers

/-- The file of a block whose writer has no open file ends with what this writer took in last. -/
theorem Stored.last_item (apart : BlockFile.IsElsewhere statePath)
    (stored : session.Stored directory statePath start earlier) {writers : List WriterId}
    {writer : WriterId} (opened : openings session.world.platform.calls writer = [number])
    (shut : (session.without writers).openFile? writer = none) {items : List Item} {last : Item}
    (written : contents session.world.platform.calls writer =
      (items ++ [last]).map Item.encode) :
    BlockFile.lastItem? (session.without writers).tree (BlockFile.path directory number) =
        some last ∧
      ∃ content, (session.without writers).tree.read (BlockFile.path directory number) =
        .ok content := by
  have filed := (stored.without_filed apart writers).writers writer
  rw [← openings_releases _ writers] at opened
  rw [← contents_releases _ writers] at written
  exact filed.last_item opened shut written

/-- The proof of a finished block is on file, whichever writers were let go. -/
theorem Stored.finished_on_file (apart : BlockFile.IsElsewhere statePath)
    (stored : session.Stored directory statePath start earlier) (writers : List WriterId)
    (finished : IsFinished session.world.platform.calls number) :
    IsProvenOnFile directory (session.without writers).tree number ∧
      ∃ content, (session.without writers).tree.read (BlockFile.path directory number) =
        .ok content := by
  obtain ⟨writer, closed, opened⟩ := finished
  obtain ⟨block, proven⟩ := stored.sound.accounted.settled.proven writer closed
  rw [proven.kept.opened, List.mem_singleton] at opened
  rw [opened]
  have shut := (stored.filed.writers writer).shut proven.kept.opened closed
  obtain ⟨last, content⟩ := stored.last_item apart proven.kept.opened
    (Depot.open_file_released writers (.inr shut)) proven.contents
  refine ⟨?_, content⟩
  rw [IsProvenOnFile, last, Option.bind_some, Item.proves?, proven.number]

/-- A block that is still pending is left without its proof: its file ends with the changes of its
boundary. -/
theorem Stored.pending_shut_down (apart : BlockFile.IsElsewhere statePath)
    (stored : session.Stored directory statePath start earlier)
    (pending : IsPending session.world.unproven number) :
    ¬ IsProvenOnFile directory session.shutDown.tree number ∧
      ∃ content, session.shutDown.tree.read (BlockFile.path directory number) = .ok content := by
  obtain ⟨block, waiting, rfl⟩ := pending
  obtain ⟨sealedBlock, awaits⟩ := stored.sound.accounted.settled.pending block waiting
  have held : block.writer ∈ session.heldWriters :=
    List.mem_append_right _ (List.mem_map_of_mem waiting)
  have opened := awaits.kept.opened
  have written := awaits.contents
  rw [← awaits.number] at opened
  rw [SealedBlock.items, ← List.cons_append] at written
  obtain ⟨last, content⟩ := stored.last_item apart opened
    (Depot.open_file_released session.heldWriters (.inl held)) written
  refine ⟨?_, content⟩
  rw [IsProvenOnFile, shutDown, last]
  exact fun proven => by cases proven

theorem Stored.closed_shut_down (apart : BlockFile.IsElsewhere statePath)
    (stored : session.Stored directory statePath start earlier)
    (closed : number ∈ session.production.numbers) :
    (IsProvenOnFile directory session.shutDown.tree number ↔
      ¬ IsPending session.world.unproven number) ∧
      ∃ content, session.shutDown.tree.read (BlockFile.path directory number) = .ok content := by
  by_cases pending : IsPending session.world.unproven number
  · obtain ⟨unproven, content⟩ := stored.pending_shut_down apart pending
    exact ⟨iff_of_false unproven (not_not_intro pending), content⟩
  · have finished := (stored.placed.placed number closed).resolve_left pending
    obtain ⟨proven, content⟩ := stored.finished_on_file apart session.heldWriters finished
    exact ⟨iff_of_true proven pending, content⟩

/-- Files of earlier blocks are left as they were. -/
theorem Stored.earlier_on_file (apart : BlockFile.IsElsewhere statePath)
    (stored : session.Stored directory statePath start earlier) (writers : List WriterId)
    (former : number ∈ earlier) {content : Bytes}
    (found : start.read (BlockFile.path directory number) = .ok content) :
    (session.without writers).tree.read (BlockFile.path directory number) = .ok content := by
  apply (stored.without_filed apart writers).kept number content _ found
  rw [Depot.opened_numbers_releases]
  intro opened
  have ascending := (List.pairwise_append.mp stored.opened).2.2
  exact UInt64.lt_irrefl number (ascending number former number opened)

end

/-! ### Starting -/

/-- The session of a node that starts over a tree, if it does start. -/
def ofNode (settings : StreamSettings) (feed : FeedSettings) (tree : FileTree) :
    Option (Session (Journal Depot)) :=
  match Node.start settings feed tree with
  | (.ok node, _) => node.station.assembler.map fun assembler =>
      .fresh assembler node.station.world.view ⟨[], node.station.depot⟩
  | (.error _, _) => none

/-- A depot that nobody has used yet. -/
def unused (settings : StreamSettings) (tree : FileTree) : Depot :=
  (Depot.empty (.directory settings.blockDirectory) (.file settings.statePath)).setTree tree

/-- What a node starts with: the checkpoint that it found, a station that has done nothing yet,
and its block directory. -/
theorem start_ok {settings : StreamSettings} {feed : FeedSettings} {tree ready : FileTree}
    {node : Node} (started : Node.start settings feed tree = (.ok node, ready)) :
    ∃ stored assembler view, StateFile.load tree settings.statePath = .ok stored ∧
      Assembler.start settings (.ofStored stored) = .ok (assembler, view) ∧
      node.station.assembler = some assembler ∧ node.station.former = [] ∧
      node.station.world = ⟨view, .empty, .zero, [],
        unused settings (tree.makeDirectories settings.blockDirectory).2⟩ := by
  unfold Node.start at started
  rcases loaded : StateFile.load tree settings.statePath with error | stored
  · simp only [loaded] at started
    cases started
  rcases made : tree.makeDirectories settings.blockDirectory with ⟨fault | _, reached⟩
  · simp only [loaded, made] at started
    cases started
  simp only [loaded, made, Station.start] at started
  have same : (Station.idle settings (Bus.empty settings.signatureCapacity)
      ((Depot.empty (.directory settings.blockDirectory) (.file settings.statePath)).setTree
        reached) true).settings = settings := rfl
  rw [same] at started
  rcases begun : Assembler.start settings (.ofStored stored) with failure | ⟨assembler, view⟩
  · simp only [begun] at started
    cases started
  · simp only [begun] at started
    cases started
    exact ⟨stored, assembler, view, rfl, begun, rfl, rfl, rfl⟩

theorem of_node_ok {settings : StreamSettings} {feed : FeedSettings} {tree : FileTree}
    {session : Session (Journal Depot)} (begun : ofNode settings feed tree = some session) :
    ∃ stored assembler view, StateFile.load tree settings.statePath = .ok stored ∧
      Assembler.start settings (.ofStored stored) = .ok (assembler, view) ∧
      session = .fresh assembler view
        ⟨[], unused settings (tree.makeDirectories settings.blockDirectory).2⟩ := by
  unfold ofNode at begun
  rcases started : Node.start settings feed tree with ⟨fault | node, ready⟩
  · rw [started] at begun
    cases begun
  · obtain ⟨stored, assembler, view, loaded, valid, present, _, world⟩ := start_ok started
    rw [started] at begun
    simp only [present, Station.depot, world, Option.map_some, Option.some.injEq] at begun
    exact ⟨stored, assembler, view, loaded, valid, begun.symm⟩

theorem unused_filed (settings : StreamSettings) {tree : FileTree} (sound : tree.Sound) :
    (unused settings tree).Filed settings.blockDirectory settings.statePath tree [] := by
  constructor
  · rfl
  · rfl
  · exact sound
  · intro writer
    constructor
    · exact fun found known => by cases known
    · exact fun number once => by cases once
    · exact fun _ => ⟨(fun ⟨answer, member⟩ => by cases member), rfl⟩
    · exact fun item member => by cases member
  · exact fun number content _ stored => stored
  · exact fun checkpoint last => by cases last
  · exact fun _ checkpoint stored => stored

/-- A node goes on after the blocks whose numbers the stored checkpoint bounds. -/
theorem stored_of_node {settings : StreamSettings} {feed : FeedSettings} {tree : FileTree}
    {session : Session (Journal Depot)} (begun : ofNode settings feed tree = some session)
    (sound : tree.Sound) {earlier : List UInt64} (ascending : earlier.Pairwise (· < ·))
    (bounded : ∀ number ∈ earlier, ∃ checkpoint last,
      StateFile.load tree settings.statePath = .ok (some checkpoint) ∧
        checkpoint.blockNumber = some last ∧ number ≤ last) :
    session.Stored settings.blockDirectory settings.statePath
      (tree.makeDirectories settings.blockDirectory).2 earlier := by
  obtain ⟨stored, assembler, view, loaded, started, rfl⟩ := of_node_ok begun
  obtain ⟨_, _, same, shown⟩ := Checkpoint.start_stored_ok started
  have idle : assembler.phase = .idle := by rw [same]
  constructor
  · exact Session.sound_fresh idle view _
  · constructor
    · rw [fresh, Assembler.open_block_idle idle]
      rfl
    · exact fun number member => by cases member
  · constructor
    · exact (List.append_nil earlier).symm ▸ ascending
    · intro number member
      rcases List.mem_append.mp member with former | none
      · obtain ⟨checkpoint, last, found, newest, below⟩ := bounded number former
        rw [loaded, Except.ok.injEq] at found
        refine ⟨last, ?_, below⟩
        rw [fresh, shown, found, Option.getD_some, Checkpoint.view_chain_lastNumber, newest]
      · cases none
  · exact unused_filed settings (FileTree.make_directories_keeps sound _).1

/-- What a station leaves when it stops is what its session leaves when it is shut down. -/
theorem stop_is_shut_down {station : Station} {session : Session (Journal Depot)}
    (assembler : station.assembler = some session.assembler)
    (unproven : station.world.unproven = session.world.unproven)
    (depot : station.depot = session.world.platform.state) (former : station.former = []) :
    station.stop = session.shutDown := by
  simp only [Station.depot] at depot
  simp [Station.stop, Station.dropAssembler, Station.replaceSession, Station.releaseUnheard,
    Station.isHeard, Station.setDepot, Station.depot, shutDown, without, heldWriters,
    List.foldl_append, assembler, unproven, depot, former]

end Session

/-! ### Nodes one after the other -/

/-- The session of a node over the directories, at some moment before which no call failed. -/
inductive Session.RunsOver (directory statePath : String) (tree : FileTree) :
    Session (Journal Depot) → Prop
  | of_node {settings : StreamSettings} {feed : FeedSettings} {begun : Session (Journal Depot)}
      (operations : List Operation) (blocks : settings.blockDirectory = directory)
      (state : settings.statePath = statePath) (started : ofNode settings feed tree = some begun)
      (faultless :
        (begun.run Depot.platform.journaled operations).world.platform.Faultless) :
      RunsOver directory statePath tree (begun.run Depot.platform.journaled operations)

/-- Nodes that were shut down one after the other, and the files they left. -/
inductive Succession (directory statePath : String) (first : FileTree) :
    List (Session (Journal Depot)) → FileTree → Prop
  | none : Succession directory statePath first [] first
  | next {ended : List (Session (Journal Depot))} {tree : FileTree}
      {session : Session (Journal Depot)}
      (before : Succession directory statePath first ended tree)
      (runs : session.RunsOver directory statePath tree) :
      Succession directory statePath first (ended ++ [session]) session.shutDown.tree

/-- The numbers of all blocks that were closed so far. -/
def closedNumbers (sessions : List (Session (Journal Depot))) : List UInt64 :=
  sessions.flatMap fun session => session.production.numbers

/-- What nodes have left: block files, and a stored checkpoint at or after all their blocks. -/
structure LeftBehind (directory statePath : String) (ended : List (Session (Journal Depot)))
    (tree : FileTree) : Prop where
  sound : tree.Sound
  ascending : (closedNumbers ended).Pairwise (· < ·)
  bounded : ∀ number ∈ closedNumbers ended, ∃ checkpoint last,
    StateFile.load tree statePath = .ok (some checkpoint) ∧
      checkpoint.blockNumber = some last ∧ number ≤ last
  onFile : ∀ life ∈ ended, ∀ number ∈ life.production.numbers,
    (IsProvenOnFile directory tree number ↔ ¬ IsPending life.world.unproven number) ∧
      ∃ content, tree.read (BlockFile.path directory number) = .ok content

section

variable {directory statePath : String} {first tree : FileTree}
  {ended : List (Session (Journal Depot))} {session : Session (Journal Depot)}

theorem mem_closed_numbers {life : Session (Journal Depot)} {number : UInt64}
    (member : life ∈ ended) (closed : number ∈ life.production.numbers) :
    number ∈ closedNumbers ended :=
  List.mem_flatMap.mpr ⟨life, member, closed⟩

/-- The state of a node that runs over what others have left. -/
theorem LeftBehind.stored (apart : BlockFile.IsElsewhere statePath)
    (left : LeftBehind directory statePath ended tree)
    (runs : session.RunsOver directory statePath tree) :
    session.Stored directory statePath (tree.makeDirectories directory).2
      (closedNumbers ended) := by
  cases runs with
  | of_node operations blocks state started faultless =>
      subst blocks state
      have stored := Session.stored_of_node started left.sound left.ascending left.bounded
      exact stored.run apart operations faultless

/-- Blocks of earlier nodes, at any moment of a later node. -/
theorem LeftBehind.kept (apart : BlockFile.IsElsewhere statePath)
    (left : LeftBehind directory statePath ended tree)
    (stored : session.Stored directory statePath (tree.makeDirectories directory).2
      (closedNumbers ended)) (writers : List WriterId) {life : Session (Journal Depot)}
    (member : life ∈ ended) {number : UInt64} (closed : number ∈ life.production.numbers) :
    (IsProvenOnFile directory (session.without writers).tree number ↔
      ¬ IsPending life.world.unproven number) ∧
      ∃ content, (session.without writers).tree.read (BlockFile.path directory number) =
        .ok content := by
  obtain ⟨told, content, found⟩ := left.onFile life member number closed
  have keeps := (FileTree.make_directories_keeps left.sound directory).2
  have ready := FileTree.read_keep keeps found (by simp)
  have kept := stored.earlier_on_file apart writers (mem_closed_numbers member closed) ready
  exact ⟨(proven_on_file_iff found kept).trans told, content, kept⟩

/-- The checkpoint that was saved last is that of the last closed block. -/
theorem Session.Stored.last_saved {start : FileTree} {earlier before : List UInt64}
    {last : UInt64} (stored : session.Stored directory statePath start earlier)
    (numbers : session.production.numbers = before ++ [last]) :
    ∃ checkpoint, (saves session.world.platform.calls).getLast? = some checkpoint ∧
      checkpoint.blockNumber = some last := by
  have saved := congrArg List.getLast? stored.sound.accounted.saved
  change _ = (session.production.numbers.map some).getLast? at saved
  rw [numbers, List.map_append, List.map_singleton, List.getLast?_concat, List.getLast?_map]
    at saved
  exact Option.map_eq_some_iff.mp saved

theorem le_last {numbers : List UInt64} {last number : UInt64}
    (ascending : (numbers ++ [last]).Pairwise (· < ·)) (member : number ∈ numbers ++ [last]) :
    number ≤ last := by
  rcases List.mem_append.mp member with earlier | newest
  · have less := (List.pairwise_append.mp ascending).2.2
    exact UInt64.le_of_lt (less number earlier last (List.mem_singleton_self _))
  · rw [List.mem_singleton.mp newest]
    exact UInt64.le_refl _

/-- The stored checkpoint bounds the numbers of all blocks. -/
theorem LeftBehind.saved (apart : BlockFile.IsElsewhere statePath)
    (left : LeftBehind directory statePath ended tree)
    (stored : session.Stored directory statePath (tree.makeDirectories directory).2
      (closedNumbers ended)) {number : UInt64}
    (closed : number ∈ closedNumbers ended ++ session.production.numbers) :
    ∃ checkpoint last,
      StateFile.load session.shutDown.tree statePath = .ok (some checkpoint) ∧
        checkpoint.blockNumber = some last ∧ number ≤ last := by
  have filed := stored.without_filed apart session.heldWriters
  have same : saves (session.world.platform.calls ++ session.heldWriters.map Call.release) =
      saves session.world.platform.calls := by
    simp [saves, Call.saved?]
  rcases List.eq_nil_or_concat session.production.numbers with none | ⟨before, last, concat⟩
  · -- nothing was closed, so the checkpoint is the one that the node found
    have unsaved := stored.sound.accounted.saved
    change _ = session.production.numbers.map some at unsaved
    rw [none] at closed unsaved
    obtain ⟨checkpoint, last, loaded, newest, below⟩ := left.bounded number (by simpa using closed)
    have keeps := (FileTree.make_directories_keeps left.sound directory).2
    have ready := StateFile.load_keep keeps (by simp) loaded
    refine ⟨checkpoint, last, filed.stored ?_ checkpoint ready, newest, below⟩
    rw [same]
    exact List.map_eq_nil_iff.mp unsaved
  · rw [List.concat_eq_append] at concat
    obtain ⟨checkpoint, saved, newest⟩ := stored.last_saved concat
    have ascending := stored.ascends.ascending
    rw [concat, ← List.append_assoc] at ascending closed
    exact ⟨checkpoint, last, filed.saved checkpoint (same ▸ saved), newest,
      le_last ascending closed⟩

theorem LeftBehind.next (apart : BlockFile.IsElsewhere statePath)
    (left : LeftBehind directory statePath ended tree)
    (runs : session.RunsOver directory statePath tree) :
    LeftBehind directory statePath (ended ++ [session]) session.shutDown.tree := by
  have stored := left.stored apart runs
  have numbers : closedNumbers (ended ++ [session]) =
      closedNumbers ended ++ session.production.numbers := by
    simp [closedNumbers]
  constructor
  · exact (stored.without_filed apart session.heldWriters).sound
  · rw [numbers]
    exact stored.ascends.ascending
  · rw [numbers]
    exact fun number closed => left.saved apart stored closed
  · intro life member number closed
    rcases List.mem_append.mp member with former | newest
    · exact left.kept apart stored session.heldWriters former closed
    · rw [List.mem_singleton.mp newest] at closed ⊢
      exact stored.closed_shut_down apart closed

theorem Succession.left_behind (apart : BlockFile.IsElsewhere statePath)
    (sound : first.Sound) (succession : Succession directory statePath first ended tree) :
    LeftBehind directory statePath ended tree := by
  induction succession with
  | none =>
      constructor
      · exact sound
      · exact List.Pairwise.nil
      · exact fun number member => by cases member
      · exact fun life member => by cases member
  | next before runs inductive_hypothesis => exact inductive_hypothesis.next apart runs

/-- Nodes run one after the other over the same directories, each until it is shut down, and no
call fails. When a node then has nothing unproven, all blocks that it closed itself are proven on
file; a block that an earlier node closed is proven on file exactly if it was not pending when that
node was shut down. -/
theorem proofs_lost_only_by_shutting_down (apart : BlockFile.IsElsewhere statePath)
    (sound : first.Sound) (succession : Succession directory statePath first ended tree)
    (runs : session.RunsOver directory statePath tree)
    (nothing : session.world.unproven.size = 0) :
    (∀ number ∈ session.production.numbers, IsProvenOnFile directory session.tree number) ∧
    ∀ life ∈ ended, ∀ number ∈ life.production.numbers,
      (IsProvenOnFile directory session.tree number ↔
        ¬ IsPending life.world.unproven number) := by
  have left := succession.left_behind apart sound
  have stored := left.stored apart runs
  constructor
  · intro number closed
    rcases stored.placed.placed number closed with ⟨block, waiting, _⟩ | finished
    · rw [List.eq_nil_of_length_eq_zero nothing] at waiting
      cases waiting
    · exact (stored.finished_on_file apart [] finished).1
  · intro life member number closed
    exact (left.kept apart stored [] member closed).1

end

/-! ### A block that is lost -/

/-- A node with the default settings that performs some operations. -/
def defaultNode (tree : FileTree) (operations : List Operation) :
    Option (Session (Journal Depot)) :=
  (Session.ofNode .default .default tree).map (·.run Depot.platform.journaled operations)

theorem default_node_runs {tree : FileTree} {operations : List Operation}
    {session : Session (Journal Depot)} (ran : defaultNode tree operations = some session)
    (faultless : session.world.platform.Faultless) :
    session.RunsOver "data/blocks" "data/block_stream_state.json" tree := by
  obtain ⟨begun, started, rfl⟩ := Option.map_eq_some_iff.mp ran
  exact .of_node operations rfl rfl started faultless

/-- A block without items, from one round. -/
def emptyBlock (round : UInt64) : List Operation :=
  [.startRound ⟨round, ⟨1, 0⟩, false, []⟩, .endRound ⟨round, ⟨1, 0⟩, false, []⟩]

/-- The hash of the second of two blocks without items. -/
def secondHash : Digest := recomputedHash (recomputedHash .zero []) []

/-- One node is shut down before its block is signed; the next one has its own block signed. -/
theorem two_nodes_ran : ∃ first second : Session (Journal Depot),
    first.RunsOver "data/blocks" "data/block_stream_state.json" .empty ∧
    second.RunsOver "data/blocks" "data/block_stream_state.json" first.shutDown.tree ∧
    second.world.unproven.size = 0 ∧ first.production.numbers = [0] ∧
    second.production.numbers = [1] ∧ ¬ IsProvenOnFile "data/blocks" second.tree 0 := by
  have evaluated : (defaultNode .empty (emptyBlock 1)).any (fun first =>
      (defaultNode first.shutDown.tree (emptyBlock 2 ++ [.sign ⟨secondHash, []⟩])).any
        fun second => first.world.platform.Faultless ∧ second.world.platform.Faultless ∧
          second.world.unproven.size = 0 ∧ first.production.numbers = [0] ∧
          second.production.numbers = [1] ∧
          ¬ IsProvenOnFile "data/blocks" second.tree 0) = true := by decide +kernel
  obtain ⟨first, firstRan, rest⟩ := (Option.any_eq_true _ _).mp evaluated
  obtain ⟨second, secondRan, rest⟩ := (Option.any_eq_true _ _).mp rest
  obtain ⟨firstFaultless, secondFaultless, told⟩ := of_decide_eq_true rest
  exact ⟨first, second, default_node_runs firstRan firstFaultless,
    default_node_runs secondRan secondFaultless, told⟩

theorem state_file_apart (number : UInt64) :
    (Path.names "data/block_stream_state.json").getLast? ≠ some (BlockFile.fileName number) := by
  have last : (Path.names "data/block_stream_state.json").getLast? =
      some "block_stream_state.json" := by decide +kernel
  rw [last, ne_eq, Option.some.injEq]
  intro same
  have ends := BlockFile.file_name_last number
  rw [← same] at ends
  revert ends
  decide +kernel

theorem second_node_has_its_proof : ∃ first second : Session (Journal Depot),
    Succession "data/blocks" "data/block_stream_state.json" .empty [first]
      first.shutDown.tree ∧
    second.RunsOver "data/blocks" "data/block_stream_state.json" first.shutDown.tree ∧
    second.world.unproven.size = 0 ∧ second.production.numbers = [1] ∧
    IsProvenOnFile "data/blocks" second.tree 1 ∧
    first.production.numbers = [0] ∧
    (IsProvenOnFile "data/blocks" second.tree 0 ↔ ¬ IsPending first.world.unproven 0) := by
  obtain ⟨first, second, firstRuns, secondRuns, nothing, numbers, more, _⟩ := two_nodes_ran
  have succession : Succession "data/blocks" "data/block_stream_state.json" .empty [first]
      first.shutDown.tree := .next .none firstRuns
  obtain ⟨own, earlier⟩ := proofs_lost_only_by_shutting_down state_file_apart
    (FileTree.of_working_directory_sound _) succession secondRuns nothing
  refine ⟨first, second, succession, secondRuns, nothing, more, ?_, numbers, ?_⟩
  · exact own 1 (by simp [more])
  · exact earlier first (by simp) 0 (by simp [numbers])

theorem nothing_unproven_yet_proof_missing :
    ¬ ∀ (ended : List (Session (Journal Depot))) (tree : FileTree)
        (session : Session (Journal Depot)),
      Succession "data/blocks" "data/block_stream_state.json" .empty ended tree →
      session.RunsOver "data/blocks" "data/block_stream_state.json" tree →
      session.world.unproven.size = 0 →
      ∀ number ∈ closedNumbers (ended ++ [session]),
        IsProvenOnFile "data/blocks" session.tree number := by
  obtain ⟨first, second, firstRuns, secondRuns, nothing, numbers, _, missing⟩ := two_nodes_ran
  intro always
  have closed : 0 ∈ closedNumbers ([first] ++ [second]) := by simp [closedNumbers, numbers]
  exact missing (always [first] _ second (.next .none firstRuns) secondRuns nothing 0 closed)

end ProvenBlocks
