import Mathlib.Algebra.Group.Nat.Defs
import ProvenBlocks.Proofs.Windows

/-!
What windows give up. A window passes on what it was given: what its pushes returned and what it
still holds are together all that it held before and all that was pushed. Every reader of a window
sees the newest of all that it was given, and a cleared window starts over.
-/

namespace ProvenBlocks

namespace Window

variable (window : Window) (newest : Digest)

theorem is_full_iff : window.isFull = true ↔ window.entries.length = window.capacity := by
  rw [isFull, beq_iff_eq]

/-- A push gives up the oldest entry of a full window and nothing else. -/
theorem push_evicted :
    (window.push newest).1 = if window.isFull then window.oldest? else none := by
  by_cases full : window.entries.length = window.capacity
  · rw [if_pos ((is_full_iff window).mpr full)]
    unfold push
    rw [dif_pos full]
    rfl
  · rw [if_neg (mt (is_full_iff window).mp full)]
    exact push_not_full window newest full

theorem push_returns : (window.push newest).1.isSome = window.isFull := by
  by_cases full : window.entries.length = window.capacity
  · rw [(push_full window newest full).1, (is_full_iff window).mpr full]
  · rw [push_not_full window newest full, Option.isSome_none,
      Bool.eq_false_iff.mpr (mt (is_full_iff window).mp full)]

/-- What a push returns and what is left are what was there and the new entry. -/
theorem push_conserves :
    (window.push newest).1.toList ++ (window.push newest).2.entries =
      window.entries ++ [newest] := by
  by_cases full : window.entries.length = window.capacity
  · obtain ⟨oldest, later, held⟩ : ∃ oldest later, window.entries = oldest :: later := by
      apply List.exists_cons_of_length_pos
      rw [full]
      exact window.positive
    unfold push
    rw [dif_pos full]
    simp only [held, List.head?_cons, Option.toList_some, List.tail_cons, List.cons_append,
      List.nil_append]
  · have bounded := window.bounded
    rw [push_not_full window newest full, push_room window newest (by omega), Option.toList_none,
      List.nil_append]

theorem push_each_window (pushed : List Digest) :
    (window.pushEach pushed).2 = window.pushAll pushed := by
  induction pushed generalizing window with
  | nil => rfl
  | cons digest later inductive_hypothesis => exact inductive_hypothesis (window.push digest).2

theorem push_each_conserves (pushed : List Digest) :
    (window.pushEach pushed).1 ++ (window.pushEach pushed).2.entries =
      window.entries ++ pushed := by
  induction pushed generalizing window with
  | nil => exact (List.append_nil _).symm
  | cons digest later inductive_hypothesis =>
      have rest := inductive_hypothesis (window.push digest).2
      calc (window.pushEach (digest :: later)).1 ++ (window.pushEach (digest :: later)).2.entries
          = (window.push digest).1.toList ++
              (((window.push digest).2.pushEach later).1 ++
                ((window.push digest).2.pushEach later).2.entries) := List.append_assoc _ _ _
        _ = ((window.push digest).1.toList ++ (window.push digest).2.entries) ++ later := by
            rw [rest, List.append_assoc]
        _ = window.entries ++ digest :: later := by
            rw [push_conserves, List.append_assoc, List.singleton_append]

theorem clear_empty {capacity : Nat} (same : window.capacity = max capacity 1) :
    window.clear = empty capacity := Window.same same rfl

/-- Room is found for every window that could fit into memory, and for no other. -/
theorem allocate_eq (capacity : Nat) (restored : List Digest) :
    allocate capacity restored =
      if max capacity 1 * 48 < 2 ^ 63 then .ok (ofList capacity restored)
      else .error .capacity := by
  unfold allocate checkedRoom
  split <;> rfl

/-! ### What readers are told -/

/-- A window of that capacity shows the newest of all that it was given, oldest first, to whichever
reader. -/
structure Shows (window : Window) (capacity : Nat) (given : List Digest) : Prop where
  capacious : window.capacity = max capacity 1
  size : window.size = min (max capacity 1) given.length
  toList : window.toList = given.drop (given.length - window.size)
  get : ∀ index, window.get? index =
    if index < window.size then given[given.length - window.size + index]? else none
  oldest : window.oldest? = given[given.length - window.size]?
  newest : window.newest? = given.getLast?
  isFull : window.isFull = true ↔ max capacity 1 ≤ given.length
  /-- The next push returns an entry exactly if the window is full, and then the oldest. -/
  returns : ∀ next, (window.push next).1.isSome = window.isFull
  evicts : ∀ next, (window.push next).1 = if window.isFull then window.oldest? else none

variable {window} {capacity : Nat} {given : List Digest}

theorem Holds.shows (holds : window.Holds given) (capacious : window.capacity = max capacity 1) :
    window.Shows capacity given := by
  have size : window.size = min (max capacity 1) given.length := by
    rw [size, holds.length, capacious]
  have toList : window.toList = given.drop (given.length - window.size) := by
    have same : given.length - window.capacity = given.length - window.size := by omega
    rw [← same]
    exact holds
  have nonempty : given.length - window.size < given.length ∨ given = [] := by
    rcases given with _ | ⟨first, later⟩
    · exact .inr rfl
    · refine .inl ?_
      rw [List.length_cons] at size ⊢
      omega
  refine ⟨capacious, size, toList, ?_, ?_, ?_, ?_, push_returns window, push_evicted window⟩
  · intro index
    change window.toList[index]? = _
    rw [toList, List.getElem?_drop]
    split
    · rfl
    · rw [List.getElem?_eq_none]
      omega
  · change window.toList.head? = _
    rw [toList, List.head?_drop]
  · change window.toList.getLast? = _
    rw [toList, List.getLast?_drop]
    rcases nonempty with inside | rfl
    · rw [if_neg (by omega)]
    · rfl
  · rw [is_full_iff, holds.length, capacious]
    omega

/-- A window is a queue that loses nothing. If there is room for it, it is restored from any list
and shows the newest of it; after any pushes it shows the newest of all that it was given, and what
the pushes returned, in their order, with what it holds is what it held and what was pushed. When
cleared, it is a new window of the same capacity. -/
theorem window_loses_nothing (capacity : Nat) (restored pushed : List Digest) :
    let start := ofList capacity restored
    let returned := (start.pushEach pushed).1
    let last := (start.pushEach pushed).2
    allocate capacity restored =
        (if max capacity 1 * 48 < 2 ^ 63 then .ok start else .error .capacity) ∧
      start.Shows capacity restored ∧
      last.Shows capacity (restored ++ pushed) ∧
      returned ++ last.toList = start.toList ++ pushed ∧
      last.clear = empty capacity := by
  intro start returned last
  have holds : start.Holds restored := of_list_holds capacity restored
  have capacious : start.capacity = max capacity 1 := of_list_capacity capacity restored
  have filled : last = start.pushAll pushed := push_each_window start pushed
  have still : last.capacity = max capacity 1 := by
    rw [filled, push_all_capacity, capacious]
  refine ⟨allocate_eq capacity restored, holds.shows capacious, ?_,
    push_each_conserves start pushed, clear_empty last still⟩
  apply Holds.shows _ still
  rw [filled]
  exact holds.push_all pushed

/-- A window for which no memory could have room is not built, however few entries it would hold. -/
theorem greatest_windows_find_no_room :
    ∃ capacity : UInt64, ∃ restored : List Digest,
      allocate capacity.toNat restored = .error .capacity ∧
        ¬ ∃ window, allocate capacity.toNat restored = .ok window ∧
          window.Shows capacity.toNat restored := by
  have stopped : allocate 192153584101141163 [Digest.zero] = .error .capacity := by
    rw [allocate_eq, if_neg (by decide)]
  refine ⟨192153584101141163, [Digest.zero], stopped, ?_⟩
  rintro ⟨window, built, _⟩
  change allocate 192153584101141163 [Digest.zero] = _ at built
  rw [stopped] at built
  cases built

end Window

end ProvenBlocks
