import ProvenBlocks.Digest

/-!
A bounded first-in first-out window of digests, oldest first.
-/

namespace ProvenBlocks

structure Window where
  capacity : Nat
  entries : List Digest
  positive : 0 < capacity
  bounded : entries.length ≤ capacity

namespace Window

/-- A capacity of zero counts as one. -/
def empty (capacity : Nat) : Window where
  capacity := max capacity 1
  entries := []
  positive := by omega
  bounded := by simp

def isFull (window : Window) : Bool := window.entries.length == window.capacity

/-- Appends the newest entry; a full window gives up its oldest one. -/
def push (window : Window) (newest : Digest) : Option Digest × Window :=
  if full : window.entries.length = window.capacity then
    (window.entries.head?, {
      capacity := window.capacity
      entries := window.entries.tail ++ [newest]
      positive := window.positive
      bounded := by
        have positive := window.positive
        simp
        omega })
  else
    (none, {
      capacity := window.capacity
      entries := window.entries ++ [newest]
      positive := window.positive
      bounded := by
        have bounded := window.bounded
        simp
        omega })

def pushAll (window : Window) (newest : List Digest) : Window :=
  newest.foldl (fun filled digest => (filled.push digest).2) window

/-- Pushes in order and lists what the window gave up. -/
def pushEach (window : Window) : List Digest → List Digest × Window
  | [] => ([], window)
  | digest :: later =>
      let (evicted, pushed) := window.push digest
      let (rest, last) := pushed.pushEach later
      (evicted.toList ++ rest, last)

/-- Keeps the newest entries that fit. -/
def ofList (capacity : Nat) (entries : List Digest) : Window := (empty capacity).pushAll entries

/-- Like `ofList`, with room made for all entries at once. -/
def allocate (capacity : Nat) (entries : List Digest) : Except Overflow Window := do
  checkedRoom (max capacity 1) 48
  .ok (ofList capacity entries)

def clear (window : Window) : Window where
  capacity := window.capacity
  entries := []
  positive := window.positive
  bounded := by simp

def size (window : Window) : Nat := window.entries.length

def newest? (window : Window) : Option Digest := window.entries.getLast?

def oldest? (window : Window) : Option Digest := window.entries.head?

def get? (window : Window) (index : Nat) : Option Digest := window.entries[index]?

def toList (window : Window) : List Digest := window.entries

end Window
end ProvenBlocks
