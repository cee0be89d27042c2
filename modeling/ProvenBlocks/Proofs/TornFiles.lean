import ProvenBlocks.Proofs.Framing

/-!
What a reader makes of a block file, whatever its content. A content is accepted as some items if
and only if it is their frames. A file that was cut off holds its first items if the cut falls
between two frames, and is refused if it falls anywhere else.
-/

namespace ProvenBlocks
namespace BlockFile

/-- Frame by frame, until nothing is left or what is left is no whole frame. -/
inductive Reads : Bytes → Except FrameFault (List Bytes) → Prop
  | ended : Reads [] (.ok [])
  | tornLength {content : Bytes} (nonempty : content ≠ []) (short : content.length < 4) :
      Reads content (.error .truncatedLength)
  | tornItem {size : Nat} {rest : Bytes} (bounded : size < 2 ^ 32) (short : rest.length < size) :
      Reads (littleEndian 4 size ++ rest) (.error .truncatedItem)
  | whole {item rest : Bytes} {answer : Except FrameFault (List Bytes)}
      (bounded : item.length < 2 ^ 32) (later : Reads rest answer) :
      Reads (frame item ++ rest) (answer.map (item :: ·))

/-! ### Every content is read in one way -/

/-- Four bytes are the length of something. -/
theorem sized_of_four {content : Bytes} (long : 4 ≤ content.length) :
    ∃ size rest, size < 2 ^ 32 ∧ content = littleEndian 4 size ++ rest := by
  have four : (content.take 4).length = 4 := List.length_take_of_le long
  refine ⟨ofLittleEndian (content.take 4), content.drop 4, ?_, ?_⟩
  · have bounded := of_little_endian_lt (content.take 4)
    rwa [four] at bounded
  · have same := little_endian_of_little_endian (content.take 4)
    rw [four] at same
    rw [same, List.take_append_drop]

theorem reads_within {content : Bytes} {fuel : Nat} (enough : content.length ≤ fuel) :
    Reads content (readFramesWithin fuel content) := by
  induction fuel generalizing content with
  | zero =>
      rw [List.length_eq_zero_iff.mp (Nat.le_zero.mp enough)]
      exact .ended
  | succ fuel inductive_hypothesis =>
      by_cases long : 4 ≤ content.length
      · obtain ⟨size, rest, bounded, rfl⟩ := sized_of_four long
        rw [read_frames_within_sized bounded]
        by_cases torn : rest.length < size
        · rw [if_pos torn]
          exact .tornItem bounded torn
        · rw [if_neg torn]
          have taken : (rest.take size).length = size :=
            List.length_take_of_le (Nat.le_of_not_lt torn)
          have framed : littleEndian 4 size ++ rest = frame (rest.take size) ++ rest.drop size := by
            rw [frame, taken, List.append_assoc, List.take_append_drop]
          rw [framed]
          apply Reads.whole (by rwa [taken])
          apply inductive_hypothesis
          rw [List.length_append, little_endian_length] at enough
          rw [List.length_drop]
          omega
      · rcases content with _ | ⟨a, _ | ⟨b, _ | ⟨c, _ | ⟨d, rest⟩⟩⟩⟩
        · exact .ended
        · exact .tornLength (by simp) (by simp)
        · exact .tornLength (by simp) (by simp)
        · exact .tornLength (by simp) (by simp)
        · exact absurd (by simp) long

theorem reads (content : Bytes) : Reads content (readFrames content) :=
  reads_within (Nat.le_refl _)

theorem Reads.read_within {content : Bytes} {answer : Except FrameFault (List Bytes)}
    (reads : Reads content answer) {fuel : Nat} (enough : content.length ≤ fuel) :
    readFramesWithin fuel content = answer := by
  induction reads generalizing fuel with
  | ended => cases fuel <;> rfl
  | @tornLength content nonempty short =>
      obtain ⟨fuel, rfl⟩ : ∃ less, fuel = less + 1 := by
        have positive := List.length_pos_iff.mpr nonempty
        exact ⟨fuel - 1, by omega⟩
      match content with
      | [] => exact absurd rfl nonempty
      | [_] | [_, _] | [_, _, _] => rfl
      | _ :: _ :: _ :: _ :: later =>
          simp only [List.length_cons] at short
          omega
  | tornItem bounded short =>
      obtain ⟨fuel, rfl⟩ : ∃ less, fuel = less + 1 := by
        rw [List.length_append, little_endian_length] at enough
        exact ⟨fuel - 1, by omega⟩
      rw [read_frames_within_sized bounded, if_pos short]
  | whole bounded later inductive_hypothesis =>
      rw [List.length_append, frame_length] at enough
      obtain ⟨fuel, rfl⟩ : ∃ less, fuel = less + 1 := ⟨fuel - 1, by omega⟩
      rw [read_frames_within_frame bounded, inductive_hypothesis (by omega)]

theorem Reads.read {content : Bytes} {answer : Except FrameFault (List Bytes)}
    (reads : Reads content answer) : readFrames content = answer :=
  reads.read_within (Nat.le_refl _)

/-- Only the frames of some items are accepted. -/
theorem Reads.frames_of_ok {content : Bytes} {answer : Except FrameFault (List Bytes)}
    (reads : Reads content answer) {items : List Bytes} (accepted : answer = .ok items) :
    frames items = content ∧ ∀ item ∈ items, item.length < 2 ^ 32 := by
  induction reads generalizing items with
  | ended =>
      cases accepted
      exact ⟨rfl, fun item member => by cases member⟩
  | tornLength | tornItem => cases accepted
  | @whole item rest answer bounded later inductive_hypothesis =>
      cases answer with
      | error fault => cases accepted
      | ok found =>
          cases accepted
          obtain ⟨framed, short⟩ := inductive_hypothesis rfl
          refine ⟨by rw [frames_cons, framed], ?_⟩
          intro other member
          rcases List.mem_cons.mp member with rfl | member
          · exact bounded
          · exact short other member

theorem read_frames_ok_iff (content : Bytes) (items : List Bytes) :
    readFrames content = .ok items ↔
      frames items = content ∧ ∀ item ∈ items, item.length < 2 ^ 32 := by
  constructor
  · exact (reads content).frames_of_ok
  · rintro ⟨rfl, short⟩
    exact read_frames_frames short

/-! ### Files that were cut off -/

/-- Where so many frames end. -/
def boundary (items : List Bytes) (count : Nat) : Nat := (frames (items.take count)).length

/-- What is left of a frame of which some bytes are missing. -/
def tornFault (left : Nat) : FrameFault := if left < 4 then .truncatedLength else .truncatedItem

theorem take_boundary (items : List Bytes) (count : Nat) :
    (frames items).take (boundary items count) = frames (items.take count) := by
  have split : frames items = frames (items.take count) ++ frames (items.drop count) := by
    rw [← frames_append, List.take_append_drop]
  rw [split, boundary, List.take_left]

theorem take_within (items : List Bytes) {count : Nat} (next : count < items.length) {left : Nat}
    (torn : left ≤ (frame items[count]).length) :
    (frames items).take (boundary items count + left) =
      frames (items.take count) ++ (frame items[count]).take left := by
  have split : frames items =
      frames (items.take count) ++ (frame items[count] ++ frames (items.drop (count + 1))) := by
    rw [← frames_cons, ← List.drop_eq_getElem_cons next, ← frames_append, List.take_append_drop]
  rw [split, boundary, List.take_length_add_append, List.take_append_of_le_length torn]

theorem reads_torn_frame {item : Bytes} (bounded : item.length < 2 ^ 32) {left : Nat}
    (some : 0 < left) (torn : left < (frame item).length) :
    Reads ((frame item).take left) (.error (tornFault left)) := by
  rw [frame_length] at torn
  have size : ((frame item).take left).length = left :=
    List.length_take_of_le (by rw [frame_length]; omega)
  by_cases brief : left < 4
  · rw [tornFault, if_pos brief]
    refine .tornLength ?_ (by rw [size]; exact brief)
    intro none
    rw [none] at size
    exact Nat.ne_of_lt some size
  · obtain ⟨rest, rfl⟩ : ∃ rest, left = 4 + rest := ⟨left - 4, by omega⟩
    have split : (frame item).take (4 + rest) =
        littleEndian 4 item.length ++ item.take rest := by
      rw [frame, List.take_append, little_endian_length,
        List.take_of_length_le (by rw [little_endian_length]; omega), Nat.add_sub_cancel_left]
    rw [tornFault, if_neg brief, split]
    exact .tornItem bounded (by rw [List.length_take]; omega)

/-- Whole frames in front are read first. -/
theorem Reads.behind {items : List Bytes} (short : ∀ item ∈ items, item.length < 2 ^ 32)
    {rest : Bytes} {answer : Except FrameFault (List Bytes)} (reads : Reads rest answer) :
    Reads (frames items ++ rest) (answer.map (items ++ ·)) := by
  induction items with
  | nil => cases answer <;> exact reads
  | cons item later inductive_hypothesis =>
      have behind := inductive_hypothesis fun other member => short other (by simp [member])
      have read := Reads.whole (short item (by simp)) behind
      rw [frames_cons, List.append_assoc]
      cases answer <;> exact read

theorem read_torn_frames {items : List Bytes} (short : ∀ item ∈ items, item.length < 2 ^ 32)
    {count : Nat} (next : count < items.length) {left : Nat} (some : 0 < left)
    (torn : left < (frame items[count]).length) :
    readFrames ((frames items).take (boundary items count + left)) = .error (tornFault left) := by
  have last := reads_torn_frame (short _ (List.getElem_mem next)) some torn
  have earlier : ∀ item ∈ items.take count, item.length < 2 ^ 32 :=
    fun item member => short item (List.mem_of_mem_take member)
  rw [take_within items next (Nat.le_of_lt torn)]
  exact (last.behind earlier).read

/-- A cut falls between two frames or within one. -/
theorem cut_cases {items : List Bytes} {size : Nat} (bounded : size ≤ (frames items).length) :
    (∃ count ≤ items.length, size = boundary items count) ∨
      ∃ count, ∃ next : count < items.length, ∃ left, 0 < left ∧
        left < (frame items[count]).length ∧ size = boundary items count + left := by
  induction items generalizing size with
  | nil => exact .inl ⟨0, Nat.le_refl _, Nat.le_zero.mp bounded⟩
  | cons item later inductive_hypothesis =>
      have shifted (count : Nat) :
          boundary (item :: later) (count + 1) = (frame item).length + boundary later count := by
        rw [boundary, List.take_succ_cons, frames_cons, List.length_append, boundary]
      rcases Nat.eq_zero_or_pos size with rfl | some
      · exact .inl ⟨0, Nat.zero_le _, rfl⟩
      by_cases first : size < (frame item).length
      · exact .inr ⟨0, by simp, size, some, first, (Nat.zero_add size).symm⟩
      obtain ⟨more, rfl⟩ : ∃ more, size = (frame item).length + more :=
        ⟨size - (frame item).length, by omega⟩
      rw [frames_cons, List.length_append] at bounded
      rcases inductive_hypothesis (Nat.le_of_add_le_add_left bounded) with
        ⟨count, within, rfl⟩ | ⟨count, next, left, positive, torn, rfl⟩
      · exact .inl ⟨count + 1, Nat.succ_le_succ within, (shifted count).symm⟩
      · refine .inr ⟨count + 1, Nat.succ_lt_succ next, left, positive, torn, ?_⟩
        rw [shifted, Nat.add_assoc]

/-! ### Reading a file -/

/-- How a file of this content is read. -/
structure IsReadAsFrames (content : Bytes) (answer : Except IoFault (List Bytes)) : Prop where
  /-- Frames are accepted as the items that they frame, and nothing else is accepted. -/
  accepted : ∀ items, answer = .ok items ↔
    frames items = content ∧ ∀ item ∈ items, item.length < 2 ^ 32
  refused : ∀ fault, answer = .error fault →
    fault = .reported .unexpectedEof "truncated length prefix" ∨
      fault = .reported .unexpectedEof "truncated item"
  /-- A cut at the end of an item leaves the items up to it. -/
  cutBetween : ∀ items, (∀ item ∈ items, item.length < 2 ^ 32) → ∀ count,
    content = (frames items).take (boundary items count) → answer = .ok (items.take count)
  /-- A cut within the frame of an item is refused, as a length if less than that is left. -/
  cutWithin : ∀ items, (∀ item ∈ items, item.length < 2 ^ 32) →
    ∀ count, ∀ next : count < items.length, ∀ left, 0 < left → left < (frame items[count]).length →
      content = (frames items).take (boundary items count + left) →
        answer = .error (.reported .unexpectedEof
          (if left < 4 then "truncated length prefix" else "truncated item"))
  /-- There are no other cuts. -/
  cuts : ∀ items size, size ≤ (frames items).length →
    (∃ count ≤ items.length, size = boundary items count) ∨
      ∃ count, ∃ next : count < items.length, ∃ left, 0 < left ∧
        left < (frame items[count]).length ∧ size = boundary items count + left

/-- Reading accepts exactly the frames of items, wherever a file was cut off. -/
theorem files_are_read_as_frames {tree : FileTree} {path : String} {content : Bytes}
    (stored : tree.read path = .ok content) : IsReadAsFrames content (read tree path) := by
  have answer : read tree path = (readFrames content).mapError FrameFault.toIoFault := by
    rw [read, stored]
  rw [answer]
  constructor
  · intro items
    rw [← read_frames_ok_iff]
    cases readFrames content with
    | ok taken =>
        change Except.ok taken = Except.ok items ↔ _
        rw [Except.ok.injEq, Except.ok.injEq]
    | error torn =>
        constructor
        · intro refused
          cases refused
        · intro refused
          cases refused
  · intro fault refused
    cases found : readFrames content with
    | ok items =>
        rw [found] at refused
        cases refused
    | error torn =>
        rw [found] at refused
        cases refused
        cases torn with
        | truncatedLength => exact .inl rfl
        | truncatedItem => exact .inr rfl
  · rintro items short count rfl
    rw [take_boundary, read_frames_frames fun item member =>
      short item (List.mem_of_mem_take member)]
    rfl
  · rintro items short count next left some torn rfl
    rw [read_torn_frames short next some torn, tornFault]
    split <;> rfl
  · exact fun items size => cut_cases

/-- Five bytes were announced, and two are there. -/
theorem torn_file_is_refused :
    ∃ tree : FileTree, tree.read "bad.blk" = .ok [5, 0, 0, 0, 1, 2] ∧
      read tree "bad.blk" = .error (.reported .unexpectedEof "truncated item") ∧
      IsReadAsFrames [5, 0, 0, 0, 1, 2] (read tree "bad.blk") := by
  have stored : FileTree.read { FileTree.empty with
      entries := [(["home", "work", "bad.blk"], .file 0)]
      contents := [[5, 0, 0, 0, 1, 2]] } "bad.blk" = .ok [5, 0, 0, 0, 1, 2] := rfl
  exact ⟨_, stored, rfl, files_are_read_as_frames stored⟩

end BlockFile
end ProvenBlocks
