import Mathlib.Data.List.DropRight
import ProvenBlocks.Window

/-!
What windows keep. A window with room gives up nothing, a full one stays full, and every window
comes back from the list of its entries. It holds the newest of all that it was given, and gives
up the newest of the rest.
-/

namespace ProvenBlocks

namespace Window

theorem same {first second : Window} (capacity : first.capacity = second.capacity)
    (entries : first.entries = second.entries) : first = second := by
  cases first
  cases second
  cases capacity
  cases entries
  rfl

variable (window : Window) (newest : Digest)

@[simp] theorem push_capacity : (window.push newest).2.capacity = window.capacity := by
  unfold push
  split <;> rfl

theorem push_newest : (window.push newest).2.entries.getLast? = some newest := by
  unfold push
  split <;> simp

theorem push_length : (window.push newest).2.entries.length ≤ window.entries.length + 1 := by
  unfold push
  split
  · rw [List.length_append, List.length_tail, List.length_singleton]
    omega
  · simp

theorem push_room (room : window.entries.length < window.capacity) :
    (window.push newest).2.entries = window.entries ++ [newest] := by
  unfold push
  rw [dif_neg (by omega)]

/-- A full window gives up an entry and stays full. -/
theorem push_full (full : window.entries.length = window.capacity) :
    (window.push newest).1.isSome ∧
      (window.push newest).2.entries.length = window.capacity := by
  have positive : 0 < window.entries.length := by rw [full]; exact window.positive
  unfold push
  rw [dif_pos full]
  constructor
  · simpa using List.ne_nil_of_length_pos positive
  · rw [List.length_append, List.length_tail, List.length_singleton]
    omega

theorem push_not_full (room : window.entries.length ≠ window.capacity) :
    (window.push newest).1 = none := by
  unfold push
  rw [dif_neg room]

theorem push_all_append (first second : List Digest) :
    window.pushAll (first ++ second) = (window.pushAll first).pushAll second :=
  List.foldl_append

@[simp] theorem push_all_capacity (entries : List Digest) :
    (window.pushAll entries).capacity = window.capacity := by
  induction entries generalizing window with
  | nil => rfl
  | cons digest later inductive_hypothesis =>
      have kept := inductive_hypothesis (window.push digest).2
      rw [push_capacity] at kept
      exact kept

theorem push_all_room (entries : List Digest)
    (room : window.entries.length + entries.length ≤ window.capacity) :
    (window.pushAll entries).entries = window.entries ++ entries := by
  induction entries generalizing window with
  | nil => exact (List.append_nil _).symm
  | cons digest later inductive_hypothesis =>
      rw [List.length_cons] at room
      have pushed := push_room window digest (by omega)
      have filled := inductive_hypothesis (window.push digest).2
        (by rw [pushed, push_capacity, List.length_append, List.length_singleton]; omega)
      rw [pushed, List.append_assoc] at filled
      exact filled

theorem push_all_length (entries : List Digest) :
    (window.pushAll entries).entries.length ≤ window.entries.length + entries.length := by
  induction entries generalizing window with
  | nil => exact Nat.le_refl _
  | cons digest later inductive_hypothesis =>
      have pushed := push_length window digest
      have filled := inductive_hypothesis (window.push digest).2
      rw [List.length_cons]
      exact Nat.le_trans filled (by omega)

@[simp] theorem of_list_capacity (capacity : Nat) (entries : List Digest) :
    (ofList capacity entries).capacity = max capacity 1 := push_all_capacity _ entries

theorem of_list_length (capacity : Nat) (entries : List Digest) :
    (ofList capacity entries).entries.length ≤ entries.length := by
  have filled := push_all_length (empty capacity) entries
  exact Nat.le_trans filled (Nat.le_of_eq (Nat.zero_add _))

/-- Trimming keeps the newest entry. -/
theorem of_list_newest (capacity : Nat) (entries : List Digest) :
    (ofList capacity entries).newest? = entries.getLast? := by
  rcases List.eq_nil_or_concat entries with rfl | ⟨earlier, last, rfl⟩
  · rfl
  · rw [List.concat_eq_append, ofList, push_all_append, List.getLast?_concat]
    exact push_newest _ last

variable {window}

/-- A window is what its entries restore. -/
theorem of_list_to_list (capacity : Nat) (same : window.capacity = max capacity 1) :
    ofList capacity window.toList = window := by
  have bounded := window.bounded
  apply Window.same
  · rw [of_list_capacity, same]
  · unfold ofList
    rw [push_all_room]
    · rfl
    · simp only [empty, toList, List.length_nil]
      omega

/-! ### The newest entries -/

/-- Taking the newest entries now and again later is the same as taking them later. -/
theorem rtake_append_rtake {capacity : Nat} (positive : 0 < capacity) (given : List Digest)
    (newest : Digest) :
    (given.rtake capacity ++ [newest]).rtake capacity = (given ++ [newest]).rtake capacity := by
  obtain ⟨room, rfl⟩ := Nat.exists_eq_add_one_of_ne_zero (Nat.pos_iff_ne_zero.mp positive)
  rw [List.rtake_concat_succ, List.rtake_concat_succ]
  simp only [List.rtake, List.drop_drop, List.length_drop]
  congr 2
  omega

theorem push_entries (window : Window) (newest : Digest) :
    (window.push newest).2.entries = (window.entries ++ [newest]).rtake window.capacity := by
  have bounded := window.bounded
  have positive := window.positive
  by_cases full : window.entries.length = window.capacity
  · have one : (window.entries ++ [newest]).length - window.capacity = 1 := by
      rw [List.length_append, List.length_singleton]
      omega
    unfold push
    rw [dif_pos full, List.rtake, one, List.drop_append_of_le_length (by omega),
      List.drop_one]
  · rw [push_room _ _ (by omega), List.rtake, Nat.sub_eq_zero_of_le, List.drop_zero]
    rw [List.length_append, List.length_singleton]
    omega

/-- The window holds the newest of all that it was given. -/
def Holds (window : Window) (given : List Digest) : Prop :=
  window.entries = given.rtake window.capacity

theorem holds_entries (window : Window) : window.Holds window.entries := by
  rw [Holds, List.rtake, Nat.sub_eq_zero_of_le window.bounded, List.drop_zero]

variable {window : Window} {given : List Digest}

theorem Holds.push (holds : window.Holds given) (newest : Digest) :
    (window.push newest).2.Holds (given ++ [newest]) := by
  rw [Holds, push_entries, push_capacity, holds, rtake_append_rtake window.positive]

theorem Holds.length (holds : window.Holds given) :
    window.entries.length = min window.capacity given.length := by
  rw [holds, List.rtake, List.length_drop]
  omega

/-- What falls out is the newest of all that the window no longer holds. -/
theorem Holds.evicted (holds : window.Holds given) (newest : Digest) :
    (window.push newest).1.or (given.rdrop window.capacity).getLast? =
      ((given ++ [newest]).rdrop window.capacity).getLast? := by
  have positive := window.positive
  have length := holds.length
  by_cases room : given.length < window.capacity
  · have nothing : given.length - window.capacity = 0 := by omega
    have still : (given ++ [newest]).length - window.capacity = 0 := by
      rw [List.length_append, List.length_singleton]
      omega
    rw [push_not_full _ _ (by omega), List.rdrop, List.rdrop, nothing, still]
    rfl
  · have oldest : (window.push newest).1 = given[given.length - window.capacity]? := by
      rw [← List.head?_drop, ← List.rtake, ← holds]
      unfold Window.push
      rw [dif_pos (by omega)]
    have one : (given ++ [newest]).length - window.capacity =
        given.length - window.capacity + 1 := by
      rw [List.length_append, List.length_singleton]
      omega
    rw [oldest, List.rdrop, List.rdrop, one, List.take_append_of_le_length (by omega),
      List.take_add_one, List.getElem?_eq_getElem (by omega), Option.some_or, Option.toList_some,
      List.getLast?_concat]

theorem Holds.push_all (holds : window.Holds given) (entries : List Digest) :
    (window.pushAll entries).Holds (given ++ entries) := by
  induction entries generalizing window given with
  | nil => rwa [List.append_nil]
  | cons digest later inductive_hypothesis =>
      have pushed := inductive_hypothesis (holds.push digest)
      rwa [List.append_assoc] at pushed

theorem of_list_holds (capacity : Nat) (entries : List Digest) :
    (ofList capacity entries).Holds entries :=
  (holds_entries (empty capacity)).push_all entries

/-- A window restored from a list keeps the newest that fit. -/
theorem of_list_entries {capacity : Nat} (positive : 0 < capacity) (entries : List Digest) :
    (ofList capacity entries).entries = entries.rtake capacity := by
  have held : (ofList capacity entries).entries =
      entries.rtake (ofList capacity entries).capacity := of_list_holds capacity entries
  rw [held, of_list_capacity, Nat.max_eq_left positive]

end Window

end ProvenBlocks
