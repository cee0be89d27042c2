import ProvenBlocks.Proofs.StateFiles
import ProvenBlocks.Proofs.TreeShape

/-!
The last checkpoint that was saved. A save that fails, wherever it stops, is not noticed when the
checkpoint is loaded: the directories it has made were missing before, and what it has written is
the temporary file. So a history of saves leaves the checkpoint of the last one that succeeded.
-/

namespace ProvenBlocks
namespace StateFile

/-- A checkpoint that is to be saved, and what disturbs that. -/
structure Attempt where
  checkpoint : Checkpoint
  disturbance : Disturbance

/-- What some attempts leave: a tree, and the checkpoint of the last one that succeeded. -/
structure Outcome where
  tree : FileTree
  last : Option Checkpoint

def Outcome.attempt (path : String) (outcome : Outcome) (attempt : Attempt) : Outcome :=
  match saveDisturbed attempt.disturbance outcome.tree path attempt.checkpoint with
  | (.ok (), after) => ⟨after, some attempt.checkpoint⟩
  | (.error _, after) => ⟨after, outcome.last⟩

def outcome (tree : FileTree) (path : String) (attempts : List Attempt) : Outcome :=
  attempts.foldl (Outcome.attempt path) ⟨tree, none⟩

variable {tree after : FileTree} {path : String} {checkpoint : Checkpoint}

/-! ### Stages of a save -/

theorem load_of_read (same : after.read path = tree.read path) :
    load after path = load tree path := by
  simp only [load, same]

theorem ancestor_above {higher : String} (straight : Path.IsStraight path)
    (above : Path.IsAbove higher path) (levels : Nat) :
    ancestor higher levels = "" ∨ Path.IsAbove (ancestor higher levels) path := by
  induction levels generalizing higher with
  | zero => exact .inr above
  | succ levels inductive_hypothesis =>
      rw [ancestor]
      split
      · exact .inl rfl
      · rename_i parent found
        have further := Path.parent_is_above (above.straight straight) found
        exact inductive_hypothesis (further.trans above)

section

variable (straight : Path.IsStraight path) (wellFormed : tree.WellFormed)

include straight wellFormed

theorem make_parent_spares (disturbance : Option (Nat × SystemFault)) :
    (makeParent tree path disturbance).2.WellFormed ∧
      FileTree.Spares path tree (makeParent tree path disturbance).2 := by
  simp only [makeParent]
  split
  · exact ⟨wellFormed, .refl _ _⟩
  rename_i deeper
  cases found : Path.parent? path with
  | none => simp [found] at deeper
  | some parent =>
      have above := Path.parent_is_above straight found
      cases disturbance with
      | none => exact FileTree.make_directories_spares straight wellFormed above
      | some stopped =>
          rcases ancestor_above straight above stopped.1 with nothing | higher
          · have same : (tree.makeDirectories (ancestor parent stopped.1)).2 = tree := by
              rw [nothing]
              rfl
            simp only [Option.getD_some, same]
            exact ⟨wellFormed, .refl _ _⟩
          · exact FileTree.make_directories_spares straight wellFormed higher

theorem written_beside_spares {content : Bytes}
    (written : tree.write (temporaryPath path) content = .ok after) :
    after.WellFormed ∧ FileTree.Spares path tree after :=
  FileTree.write_spares wellFormed (temporary_straight straight) (temporary_beside straight)
    (last_name_temporary path) written

theorem write_part_spares (content : Bytes) (written : Option Nat) :
    (writePart tree (temporaryPath path) content written).WellFormed ∧
      FileTree.Spares path tree (writePart tree (temporaryPath path) content written) := by
  cases written with
  | none => exact ⟨wellFormed, .refl _ _⟩
  | some written =>
      simp only [writePart]
      split
      · rename_i reached found
        exact written_beside_spares straight wellFormed found
      · exact ⟨wellFormed, .refl _ _⟩

theorem write_temporary_spares (content : Bytes)
    (disturbance : Option (Option Nat × SystemFault)) :
    (writeTemporary tree (temporaryPath path) content disturbance).2.WellFormed ∧
      FileTree.Spares path tree
        (writeTemporary tree (temporaryPath path) content disturbance).2 := by
  cases disturbance with
  | some stopped => exact write_part_spares straight wellFormed content stopped.1
  | none =>
      simp only [writeTemporary]
      split
      · rename_i reached found
        exact written_beside_spares straight wellFormed found
      · exact ⟨wellFormed, .refl _ _⟩

/-- A save that fails is not noticed at the path of the checkpoint. -/
theorem failed_save_spares {disturbance : Disturbance} {error : StreamError}
    (failed : saveDisturbed disturbance tree path checkpoint = (.error error, after)) :
    after.WellFormed ∧ FileTree.Spares path tree after := by
  unfold saveDisturbed at failed
  obtain ⟨prepared, spared⟩ := make_parent_spares straight wellFormed disturbance.directories
  generalize makeParent tree path disturbance.directories = made at failed prepared spared
  obtain ⟨error | _, ready⟩ := made
  · cases failed
    exact ⟨prepared, spared⟩
  dsimp only at failed prepared spared
  obtain ⟨filledShape, beside⟩ := write_temporary_spares straight prepared
    (Utf8.encode (text checkpoint)) disturbance.content
  generalize writeTemporary ready (temporaryPath path) (Utf8.encode (text checkpoint))
    disturbance.content = written at failed filledShape beside
  obtain ⟨error | _, filled⟩ := written
  · cases failed
    exact ⟨filledShape, spared.trans beside⟩
  dsimp only at failed filledShape beside
  have unmoved : after = filled := by
    unfold replace at failed
    split at failed
    · cases failed
      rfl
    · split at failed
      · cases failed
      · cases failed
        rfl
  rw [unmoved]
  exact ⟨filledShape, spared.trans beside⟩

theorem save_well_formed {disturbance : Disturbance}
    (saved : saveDisturbed disturbance tree path checkpoint = (.ok (), after)) :
    after.WellFormed := by
  obtain ⟨sound, keeps, _⟩ := save_ok wellFormed.sound saved
  obtain ⟨ready, filled, made, written, moved⟩ := save_found saved
  have prepared := (make_parent_spares straight wellFormed none).1
  rw [made] at prepared
  have last := last_name_temporary path
  have shape := (FileTree.write_spares prepared (temporary_straight straight)
    (temporary_beside straight) last written).1
  obtain ⟨_, _, index, file, _⟩ := FileTree.write_ok prepared.sound written last
  exact ⟨sound, FileTree.rename_placed shape file moved, wellFormed.still_working keeps⟩

end

/-! ### Histories -/

/-- What is loaded is what the last save says that succeeded, or else what was there before. -/
structure Outcome.IsFaithful (before : FileTree) (path : String) (outcome : Outcome) : Prop where
  wellFormed : outcome.tree.WellFormed
  loaded : load outcome.tree path =
    match outcome.last with
    | some checkpoint => .ok (some checkpoint)
    | none => load before path

/-- One more attempt, whether it succeeds or not. -/
theorem Outcome.IsFaithful.attempt {before : FileTree} {outcome : Outcome}
    (ordinary : ∀ name ∈ Path.names path, Path.IsOrdinary name)
    (faithful : outcome.IsFaithful before path) (attempt : Attempt) :
    (outcome.attempt path attempt).IsFaithful before path := by
  have straight := Path.straight_of_ordinary ordinary
  unfold Outcome.attempt
  rcases tried : saveDisturbed attempt.disturbance outcome.tree path attempt.checkpoint with
    ⟨error | _, after⟩
  · obtain ⟨shape, spares⟩ := failed_save_spares straight faithful.wellFormed tried
    have unnoticed := FileTree.read_spared spares faithful.wellFormed ordinary
    exact ⟨shape, (load_of_read unnoticed).trans faithful.loaded⟩
  · obtain ⟨_, _, loaded⟩ := save_ok faithful.wellFormed.sound tried
    exact ⟨save_well_formed straight faithful.wellFormed tried, loaded⟩

theorem attempts_faithful (wellFormed : tree.WellFormed)
    (ordinary : ∀ name ∈ Path.names path, Path.IsOrdinary name) (attempts : List Attempt) :
    (outcome tree path attempts).IsFaithful tree path := by
  suffices onward : ∀ reached : Outcome, reached.IsFaithful tree path →
      (attempts.foldl (Outcome.attempt path) reached).IsFaithful tree path from
    onward ⟨tree, none⟩ ⟨wellFormed, rfl⟩
  induction attempts with
  | nil => exact fun reached faithful => faithful
  | cons attempt later inductive_hypothesis =>
      intro reached faithful
      exact inductive_hypothesis _ (faithful.attempt ordinary attempt)

/-- Whatever saves have been attempted, and wherever the medium failed, the checkpoint of the last
one that succeeded is loaded. If none has succeeded, loading gives what it gave before them. A save
that succeeds now is the last one. -/
theorem last_save_is_loaded (wellFormed : tree.WellFormed)
    (ordinary : ∀ name ∈ Path.names path, Path.IsOrdinary name) (attempts : List Attempt) :
    (load (outcome tree path attempts).tree path =
        match (outcome tree path attempts).last with
        | some checkpoint => .ok (some checkpoint)
        | none => load tree path) ∧
      ∀ disturbance checkpoint after,
        saveDisturbed disturbance (outcome tree path attempts).tree path checkpoint =
          (.ok (), after) → load after path = .ok (some checkpoint) := by
  have faithful := attempts_faithful wellFormed ordinary attempts
  refine ⟨faithful.loaded, ?_⟩
  intro disturbance checkpoint after saved
  exact (save_ok faithful.wellFormed.sound saved).2.2

/-- A checkpoint at the ends of its ranges. -/
def extremeCheckpoint : Checkpoint :=
  ⟨some 18446744073709551615, some ⟨-9223372036854775808, 4294967295⟩, [.zero],
    List.replicate 3 .zero⟩

/-- The medium fails when the directory has been made, in the middle of a write, and before a move.
Only the second save succeeds. -/
def troubledAttempts : List Attempt :=
  [⟨extremeCheckpoint, ⟨some (0, .busy), none, none⟩⟩,
    ⟨extremeCheckpoint, .none⟩,
    ⟨.empty, ⟨none, some (some 9, .busy), none⟩⟩,
    ⟨.empty, ⟨none, none, some .busy⟩⟩]

theorem troubled_saves_keep_the_checkpoint :
    FileTree.empty.WellFormed ∧
      (∀ name ∈ Path.names "state/checkpoint.json", Path.IsOrdinary name) ∧
      load (outcome .empty "state/checkpoint.json" troubledAttempts).tree
        "state/checkpoint.json" = .ok (some extremeCheckpoint) := by
  have wellFormed : FileTree.empty.WellFormed :=
    FileTree.of_working_directory_well_formed ["home", "work"]
  have ordinary : ∀ name ∈ Path.names "state/checkpoint.json", Path.IsOrdinary name := by
    have names : Path.names "state/checkpoint.json" = ["state", "checkpoint.json"] := by
      decide +kernel
    rw [names]
    intro name member
    simp only [List.mem_cons, List.not_mem_nil, or_false] at member
    rcases member with rfl | rfl
    · exact ⟨by decide, by decide, by decide⟩
    · exact ⟨by decide, by decide, by decide⟩
  have last : (outcome .empty "state/checkpoint.json" troubledAttempts).last =
      some extremeCheckpoint := by decide +kernel
  have loaded := (last_save_is_loaded wellFormed ordinary troubledAttempts).1
  rw [last] at loaded
  exact ⟨wellFormed, ordinary, loaded⟩

end StateFile
end ProvenBlocks
