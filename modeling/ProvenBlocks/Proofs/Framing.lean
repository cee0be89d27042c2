import ProvenBlocks.Proofs.Paths
import ProvenBlocks.Proofs.Trees

/-!
What a file writer leaves in its file. The bytes in the file and those still in the buffer are all
that was written so far, in order, whatever the sizes of the pieces; once the buffer is passed on
the file holds all of them. Frames are read back as the items they hold.
-/

namespace ProvenBlocks

/-! ### Frames -/

namespace BlockFile

@[simp] theorem frames_append (items more : List Bytes) :
    frames (items ++ more) = frames items ++ frames more :=
  List.flatMap_append

theorem frames_one (item : Bytes) : frames [item] = littleEndian 4 item.length ++ item :=
  List.append_nil _

/-- Four bytes of length come before as many bytes of item. -/
theorem read_frames_within_sized {size : Nat} (bounded : size < 2 ^ 32) (fuel : Nat)
    (rest : Bytes) :
    readFramesWithin (fuel + 1) (littleEndian 4 size ++ rest) =
      if rest.length < size then .error .truncatedItem
      else (readFramesWithin fuel (rest.drop size)).map (rest.take size :: ·) := by
  have word : ofLittleEndian (littleEndian 4 size) = size :=
    of_little_endian_little_endian bounded
  obtain ⟨a, b, c, d, sized⟩ : ∃ a b c d, littleEndian 4 size = [a, b, c, d] :=
    ⟨_, _, _, _, rfl⟩
  rw [sized] at word ⊢
  simp only [List.cons_append, List.nil_append, readFramesWithin, word]
  rfl

theorem read_frames_within_frame {item : Bytes} (short : item.length < 2 ^ 32) (fuel : Nat)
    (rest : Bytes) :
    readFramesWithin (fuel + 1) (frame item ++ rest) =
      (readFramesWithin fuel rest).map (item :: ·) := by
  rw [frame, List.append_assoc, read_frames_within_sized short, if_neg (by simp),
    List.drop_left, List.take_left]

theorem frames_cons (item : Bytes) (later : List Bytes) :
    frames (item :: later) = frame item ++ frames later :=
  List.flatMap_cons

theorem frame_length (item : Bytes) : (frame item).length = 4 + item.length := by
  rw [frame, List.length_append, little_endian_length]

theorem read_frames_within_frames (items : List Bytes)
    (short : ∀ item ∈ items, item.length < 2 ^ 32) {fuel : Nat} (enough : items.length ≤ fuel) :
    readFramesWithin fuel (frames items) = .ok items := by
  induction items generalizing fuel with
  | nil => cases fuel <;> rfl
  | cons item later inductive_hypothesis =>
      obtain ⟨fuel, rfl⟩ : ∃ less, fuel = less + 1 := ⟨fuel - 1, by simp at enough; omega⟩
      have rest := inductive_hypothesis (fun other member => short other (by simp [member]))
        (Nat.le_of_succ_le_succ enough)
      rw [frames_cons, read_frames_within_frame (short item (by simp)), rest]
      rfl

/-- Every frame takes at least the bytes of its length. -/
theorem length_le_frames (items : List Bytes) : items.length ≤ (frames items).length := by
  induction items with
  | nil => exact Nat.le_refl _
  | cons item later inductive_hypothesis =>
      rw [frames_cons, List.length_append, frame_length, List.length_cons]
      omega

theorem read_frames_frames {items : List Bytes} (short : ∀ item ∈ items, item.length < 2 ^ 32) :
    readFrames (frames items) = .ok items :=
  read_frames_within_frames items short (length_le_frames items)

theorem read_of_frames {tree : FileTree} {path : String} {items : List Bytes}
    (short : ∀ item ∈ items, item.length < 2 ^ 32)
    (stored : tree.read path = .ok (frames items)) : read tree path = .ok items := by
  rw [read, stored]
  exact congrArg (Except.mapError FrameFault.toIoFault) (read_frames_frames short)

end BlockFile

/-! ### Buffered writing -/

namespace OpenFile

/-- The file and the buffer hold what was written. -/
structure Holds (opened : OpenFile) (path : String) (written : Bytes) (tree : FileTree) :
    Prop where
  file : tree.FileAt path opened.file
  position : opened.position = (tree.content opened.file).length
  written : tree.content opened.file ++ opened.buffer = written

/-- A writer's own file holds what was written, behind what it held before, and no other name is
touched. -/
structure Wrote (opened : OpenFile) (tree : FileTree) (path name : String) (written : Bytes)
    (result : OpenFile × FileTree) : Prop where
  sound : result.2.Sound
  keeps : FileTree.Keeps [name] tree result.2
  number : result.1.number = opened.number
  file : result.1.file = opened.file
  grown : tree.content opened.file <+: result.2.content opened.file
  holds : result.1.Holds path written result.2

section

variable {opened : OpenFile} {tree : FileTree} {path name : String} {written : Bytes}

theorem Wrote.trans {middle : OpenFile × FileTree} {between : Bytes}
    {result : OpenFile × FileTree} (first : opened.Wrote tree path name between middle)
    (second : middle.1.Wrote middle.2 path name written result) :
    opened.Wrote tree path name written result where
  sound := second.sound
  keeps := first.keeps.trans second.keeps
  number := second.number.trans first.number
  file := second.file.trans first.file
  grown := first.grown.trans (first.file ▸ second.grown)
  holds := second.holds

theorem pass_wrote (sound : tree.Sound) (last : (Path.names path).getLast? = some name)
    (holds : opened.Holds path written tree) (empty : opened.buffer = []) (bytes : Bytes) :
    opened.Wrote tree path name (written ++ bytes) (opened.pass bytes tree) := by
  obtain ⟨still, keeps, file, content⟩ :=
    FileTree.write_at_end sound holds.file last bytes holds.position
  have before := holds.written
  rw [empty, List.append_nil] at before
  constructor
  · exact still
  · exact keeps
  · rfl
  · rfl
  · exact ⟨bytes, content.symm⟩
  · constructor
    · exact file
    · rw [pass, content, List.length_append, ← holds.position]
    · rw [pass, content, empty, List.append_nil, before]

/-- Passing the buffer on changes nothing of what was written. -/
theorem flush_wrote (sound : tree.Sound) (last : (Path.names path).getLast? = some name)
    (holds : opened.Holds path written tree) :
    opened.Wrote tree path name written (opened.flush tree) := by
  have emptied : OpenFile.Holds { opened with buffer := [] } path
      (tree.content opened.file) tree :=
    ⟨holds.file, holds.position, List.append_nil _⟩
  have passed := pass_wrote sound last emptied rfl opened.buffer
  rw [holds.written] at passed
  exact ⟨passed.sound, passed.keeps, passed.number, passed.file, passed.grown, passed.holds⟩

theorem buffer_wrote (sound : tree.Sound) (holds : opened.Holds path written tree)
    (bytes : Bytes) :
    opened.Wrote tree path name (written ++ bytes)
      ({ opened with buffer := opened.buffer ++ bytes }, tree) := by
  constructor
  · exact sound
  · exact .refl _ _
  · rfl
  · rfl
  · exact List.prefix_refl _
  · exact ⟨holds.file, holds.position, by rw [← holds.written, List.append_assoc]⟩

/-- Long pieces go through behind an empty buffer, short ones are kept. -/
theorem piece_wrote (sound : tree.Sound) (last : (Path.names path).getLast? = some name)
    (holds : opened.Holds path written tree) {bytes : Bytes}
    (empty : bufferSize ≤ bytes.length → opened.buffer = []) :
    opened.Wrote tree path name (written ++ bytes)
      (if bufferSize ≤ bytes.length then opened.pass bytes tree
        else ({ opened with buffer := opened.buffer ++ bytes }, tree)) := by
  by_cases long : bufferSize ≤ bytes.length
  · rw [if_pos long]
    exact pass_wrote sound last holds (empty long) bytes
  · rw [if_neg long]
    exact buffer_wrote sound holds bytes

theorem write_wrote (sound : tree.Sound) (last : (Path.names path).getLast? = some name)
    (holds : opened.Holds path written tree) (bytes : Bytes) :
    opened.Wrote tree path name (written ++ bytes) (opened.write bytes tree) := by
  unfold write
  by_cases fits : bytes.length < bufferSize - opened.buffer.length
  · rw [if_pos fits]
    exact buffer_wrote sound holds bytes
  rw [if_neg fits]
  by_cases tight : bufferSize - opened.buffer.length < bytes.length
  · rw [if_pos tight]
    have flushed := flush_wrote sound last holds
    exact flushed.trans (piece_wrote flushed.sound last flushed.holds fun _ => rfl)
  · rw [if_neg tight]
    apply piece_wrote sound last holds
    -- a piece that just fits is as long as the whole buffer only if that is empty
    intro long
    apply List.length_eq_zero_iff.mp
    simp only [bufferSize] at fits tight long
    omega

end

end OpenFile

/-! ### Writers of files -/

namespace FileWriter

variable {files after : FileWriter} {tree reached : FileTree}

theorem open_block_ok {number : UInt64}
    (opened : files.openBlock number tree = (.ok (), after, reached)) :
    files.opened = none ∧ ∃ file,
      tree.create (BlockFile.path files.directory number) = .ok (file, reached) ∧
      after = { files with opened := some ⟨number, file, 0, []⟩ } := by
  unfold openBlock at opened
  split at opened
  · cases opened
  rename_i idle
  split at opened
  · cases opened
  rename_i file made created
  cases opened
  exact ⟨idle, file, created, rfl⟩

theorem write_item_ok {content : Bytes}
    (wrote : files.writeItem content tree = (.ok (), after, reached)) :
    content.length < 2 ^ 32 ∧ ∃ current next, files.opened = some current ∧
      after = { files with opened := some next } ∧
      ∀ {path name : String} {written : Bytes}, tree.Sound →
        (Path.names path).getLast? = some name → current.Holds path written tree →
          current.Wrote tree path name (written ++ BlockFile.frame content) (next, reached) := by
  unfold writeItem at wrote
  split at wrote
  case isFalse => cases wrote
  rename_i short
  split at wrote
  · cases wrote
  rename_i current opened
  cases wrote
  refine ⟨short, current, _, opened, rfl, ?_⟩
  intro path name written sound last holds
  have sized := OpenFile.write_wrote sound last holds (littleEndian 4 content.length)
  have filled := sized.trans (OpenFile.write_wrote sized.sound last sized.holds content)
  rw [List.append_assoc] at filled
  exact filled

/-- Letting go of a writer passes on what it holds back. -/
theorem release_some {current : OpenFile} (opened : files.opened = some current) :
    files.release tree = ({ files with opened := none }, (current.flush tree).2) := by
  simp only [release, opened]

theorem close_block_ok (closed : files.closeBlock tree = (.ok (), after, reached)) :
    ∃ current, files.opened = some current ∧ after = { files with opened := none } ∧
      reached = (current.flush tree).2 := by
  unfold closeBlock at closed
  split at closed
  · cases closed
  rename_i current opened
  rw [release_some opened] at closed
  cases closed
  exact ⟨current, opened, rfl, rfl⟩

end FileWriter
end ProvenBlocks
