import ProvenBlocks.Proofs.Stages

/-!
What rounds should lead to, said without an assembler. Rounds are cut into groups of the size that
the settings ask for, and a freeze round ends its group early. Every complete group makes a block
on what the blocks before it left.
-/

namespace ProvenBlocks

/-! ### Groups of rounds -/

/-- The complete groups and the rounds left over, with the rounds of the first group that went
before. -/
def cut (size : Nat) (begun : List Round) : List Round → List (List Round) × List Round
  | [] => ([], begun)
  | round :: later =>
      if (begun ++ [round]).length = size ∨ round.freeze then
        let (groups, left) := cut size [] later
        ((begun ++ [round]) :: groups, left)
      else cut size (begun ++ [round]) later

/-- Consecutive groups, each as long as the size or ended by a freeze round, and fewer rounds left
over. -/
structure IsCut (size : Nat) (rounds : List Round) (groups : List (List Round))
    (left : List Round) : Prop where
  whole : groups.flatten ++ left = rounds
  thawed : ∀ group ∈ groups, ∀ round ∈ group.dropLast, round.freeze = false
  complete : ∀ group ∈ groups, group.length = size ∨
    group.length < size ∧ ∃ last, group.getLast? = some last ∧ last.freeze = true
  left : left.length < size ∧ ∀ round ∈ left, round.freeze = false

theorem cut_is_cut {size : Nat} {begun : List Round} (short : begun.length < size)
    (thawed : ∀ round ∈ begun, round.freeze = false) (rounds : List Round) :
    IsCut size (begun ++ rounds) (cut size begun rounds).1 (cut size begun rounds).2 := by
  induction rounds generalizing begun with
  | nil =>
      constructor
      · exact (List.append_nil _).symm
      · intro group member
        cases member
      · intro group member
        cases member
      · exact ⟨short, thawed⟩
  | cons round later inductive_hypothesis =>
      have length : (begun ++ [round]).length = begun.length + 1 := by
        rw [List.length_append, List.length_singleton]
      have split : begun ++ round :: later = begun ++ [round] ++ later := by
        rw [List.append_assoc]
        rfl
      unfold cut
      split
      · rename_i due
        have rest : IsCut size later (cut size [] later).1 (cut size [] later).2 :=
          @inductive_hypothesis [] (Nat.zero_lt_of_lt short) (List.forall_mem_nil _)
        constructor
        · rw [split, List.flatten_cons, List.append_assoc]
          exact congrArg _ rest.whole
        · intro group member
          rcases List.mem_cons.mp member with rfl | among
          · rw [List.dropLast_concat]
            exact thawed
          · exact rest.thawed group among
        · intro group member
          rcases List.mem_cons.mp member with rfl | among
          · by_cases full : (begun ++ [round]).length = size
            · exact .inl full
            · have freeze := due.resolve_left full
              exact .inr ⟨by omega, round, List.getLast?_concat, freeze⟩
          · exact rest.complete group among
        · exact rest.left
      · rename_i early
        rw [not_or] at early
        rw [split]
        apply inductive_hypothesis
        · omega
        · intro other member
          rcases List.mem_append.mp member with before | same
          · exact thawed other before
          · rw [List.mem_singleton.mp same]
            exact Bool.eq_false_iff.mpr early.2

/-! ### Blocks of groups -/

/-- What the next block builds on: its number, the hash before it, and all the output roots and
block hashes so far. -/
structure Footing where
  number : Nat
  previous : Digest
  roots : List Digest
  hashes : List Digest

namespace Footing

/-- The block that a group of rounds makes. Its items are those of the rounds, a header and a
boundary item. -/
def block (footing : Footing) (group : List Round) : ClosedBlock :=
  let items := group.flatMap Round.items
  let inputRoot := rootOf .input items
  let outputRoot := rootOf .output items
  { number := UInt64.ofNat footing.number
    hash := (footing.previous.link inputRoot).link outputRoot
    previousHash := footing.previous
    time := (group.head?.map Round.time).getD ⟨0, 0⟩
    inputRoot := inputRoot
    outputRoot := outputRoot
    rounds := UInt32.ofNat group.length
    items := UInt64.ofNat (2 + items.length)
    frozen := group.getLast?.any Round.freeze }

def after (footing : Footing) (group : List Round) : Footing :=
  let block := footing.block group
  ⟨footing.number + 1, block.hash, footing.roots ++ [block.outputRoot],
    footing.hashes ++ [block.hash]⟩

/-- The checkpoint that is saved with the block of a group. -/
def checkpoint (footing : Footing) (group : List Round) : Checkpoint where
  blockNumber := some (footing.block group).number
  blockTime := some (footing.block group).time
  outputRoots := (footing.after group).roots.rtake OutputRoots.historySize
  blockHashes := (footing.after group).hashes.rtake hashHistorySize

/-- A group is answered with its block, at its last round and at no other. -/
def answers (footing : Footing) (group : List Round) : List (Option ClosedBlock) :=
  List.replicate (group.length - 1) none ++ [some (footing.block group)]

/-- Every group with what its block builds on. -/
def along (footing : Footing) : List (List Round) → List (Footing × List Round)
  | [] => []
  | group :: later => (footing, group) :: (footing.after group).along later

def blocks (footing : Footing) (groups : List (List Round)) : List ClosedBlock :=
  (footing.along groups).map fun entry => entry.1.block entry.2

def checkpoints (footing : Footing) (groups : List (List Round)) : List Checkpoint :=
  (footing.along groups).map fun entry => entry.1.checkpoint entry.2

def allAnswers (footing : Footing) (groups : List (List Round)) : List (Option ClosedBlock) :=
  (footing.along groups).flatMap fun entry => entry.1.answers entry.2

theorem all_answers_cons (footing : Footing) (group : List Round) (groups : List (List Round)) :
    footing.allAnswers (group :: groups) =
      footing.answers group ++ (footing.after group).allAnswers groups := List.flatMap_cons

/-- The output root that the newest four have pushed out last. -/
def seed (footing : Footing) : Option Digest :=
  (footing.roots.rdrop OutputRoots.historySize).getLast?

end Footing
end ProvenBlocks
