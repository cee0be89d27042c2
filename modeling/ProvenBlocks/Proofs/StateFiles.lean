import ProvenBlocks.Proofs.JsonText
import ProvenBlocks.Proofs.Paths
import ProvenBlocks.Proofs.Trees
import ProvenBlocks.Utf8.Lemmas

/-!
The stored checkpoint. What was saved is loaded again, saving touches no file but the checkpoint
and its temporary file, and a checkpoint that can be loaded stays so until another one is saved.
-/

namespace ProvenBlocks

namespace StateFile

variable {tree after : FileTree} {path : String} {checkpoint : Checkpoint}

theorem load_written (stored : tree.read path = .ok (Utf8.encode (text checkpoint))) :
    load tree path = .ok (some checkpoint) := by
  have back : ofText (text checkpoint) = some checkpoint :=
    Schema.read_text Schema.checkpoint_plain (.indented 0) checkpoint
  simp only [load, stored, Utf8.decode_encode, back]

/-- A checkpoint is loaded from the content of its file alone. -/
theorem load_keep {names : List String} (keeps : FileTree.Keeps names tree after)
    (other : ∀ name ∈ names, (Path.names path).getLast? ≠ some name)
    (loaded : load tree path = .ok (some checkpoint)) :
    load after path = .ok (some checkpoint) := by
  cases found : tree.read path with
  | error fault =>
      rw [load, found] at loaded
      split at loaded
      · cases loaded
      · cases loaded
      · rename_i same
        cases same
  | ok content =>
      have still := FileTree.read_keep keeps found other
      simp only [load, found] at loaded
      simp only [load, still]
      exact loaded

/-- The names of the files that a save touches. -/
def touched (path : String) : List String :=
  temporaryName path :: (Path.names path).getLast?.toList

theorem make_parent_keeps (sound : tree.Sound) (path : String) :
    (makeParent tree path none).2.Sound ∧
      FileTree.Keeps [] tree (makeParent tree path none).2 := by
  simp only [makeParent]
  by_cases top : ((Path.parent? path).getD "" == "") = true
  · rw [if_pos top]
    exact ⟨sound, .refl _ _⟩
  · rw [if_neg top]
    exact FileTree.make_directories_keeps sound _

/-- Only a path with a last name can be renamed to. -/
theorem name_of_renamed {source : String} {old : Target} (found : tree.resolve source = .ok old)
    (renamed : tree.rename source path = .ok after) :
    ∃ name, (Path.names path).getLast? = some name := by
  obtain ⟨location, replaced, moved, resolved, notDirectory, _, _⟩ :=
    FileTree.rename_found found renamed
  obtain ⟨entry, last⟩ := FileTree.resolve_seen resolved
  cases named : location.getLast? with
  | none =>
      rw [List.getLast?_eq_none_iff.mp named, FileTree.entry_root] at entry
      exact absurd entry.symm notDirectory
  | some name => exact ⟨name, by rw [← last, named]⟩

theorem make_parent_ok {ready : FileTree} {disturbance : Option (Nat × SystemFault)}
    (made : makeParent tree path disturbance = (.ok (), ready)) :
    makeParent tree path none = (.ok (), ready) := by
  cases disturbance with
  | none => exact made
  | some stopped =>
      simp only [makeParent] at made ⊢
      split at made
      · rename_i top
        rwa [if_pos top]
      · cases made

/-- What a save that succeeds has done. Nothing has disturbed it. -/
theorem save_found {disturbance : Disturbance}
    (saved : saveDisturbed disturbance tree path checkpoint = (.ok (), after)) :
    ∃ ready filled, makeParent tree path none = (.ok (), ready) ∧
      ready.write (temporaryPath path) (Utf8.encode (text checkpoint)) = .ok filled ∧
      filled.rename (temporaryPath path) path = .ok after := by
  obtain ⟨directories, content, move⟩ := disturbance
  unfold saveDisturbed at saved
  rcases made : makeParent tree path directories with ⟨error | _, ready⟩
  · simp only [made] at saved
    cases saved
  simp only [made] at saved
  cases content with
  | some stopped => cases saved
  | none =>
      simp only [writeTemporary] at saved
      rcases written : ready.write (temporaryPath path) (Utf8.encode (text checkpoint)) with
        fault | filled
      · rw [written] at saved
        cases saved
      rw [written] at saved
      cases move with
      | some fault => cases saved
      | none =>
          simp only [replace] at saved
          rcases moved : filled.rename (temporaryPath path) path with fault | reached
          · rw [moved] at saved
            cases saved
          · rw [moved] at saved
            cases saved
            exact ⟨ready, filled, make_parent_ok made, written, moved⟩

theorem save_ok {disturbance : Disturbance} (sound : tree.Sound)
    (saved : saveDisturbed disturbance tree path checkpoint = (.ok (), after)) :
    after.Sound ∧ FileTree.Keeps (touched path) tree after ∧
      load after path = .ok (some checkpoint) := by
  obtain ⟨ready, filled, made, written, moved⟩ := save_found saved
  obtain ⟨prepared, kept⟩ := make_parent_keeps sound path
  rw [made] at prepared kept
  obtain ⟨full, filledKeeps, index, file, content⟩ :=
    FileTree.write_ok prepared written (last_name_temporary path)
  obtain ⟨location, found⟩ := file
  obtain ⟨name, last⟩ := name_of_renamed found moved
  obtain ⟨done, movedKeeps, arrived, same⟩ :=
    FileTree.rename_ok full moved ⟨location, found⟩ (last_name_temporary path) last
  have both : touched path = [temporaryName path, name] := by rw [touched, last]; rfl
  refine ⟨done, ?_, ?_⟩
  · rw [both]
    apply (kept.widen (List.nil_subset _)).trans
    apply (filledKeeps.widen _).trans movedKeeps
    exact List.cons_subset_cons _ (List.nil_subset _)
  · apply load_written
    rw [FileTree.read_of_file arrived, same, content]

end StateFile
end ProvenBlocks
