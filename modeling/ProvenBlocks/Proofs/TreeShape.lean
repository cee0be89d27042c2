import ProvenBlocks.Proofs.Paths
import ProvenBlocks.Proofs.Trees

/-!
The shape of a file tree. Whatever has a place stands in a directory, so nothing is found below a
place that is empty. What is read at a path of ordinary names depends on the places on its way, on
the one at its end, and on what the file there holds; whatever spares these is not noticed.
-/

namespace ProvenBlocks

namespace FileTree

/-- Everything stands in a directory. -/
def Placed (tree : FileTree) : Prop :=
  ∀ ⦃location : Location⦄ ⦃entry : Entry⦄, tree.entry? location = some entry →
    tree.entry? location.dropLast = some .directory

/-- The shape of every tree of a file system: a file has one place, everything stands in a
directory, and the working directory is there. -/
structure WellFormed (tree : FileTree) : Prop where
  sound : tree.Sound
  placed : tree.Placed
  working : tree.entry? tree.workingDirectory = some .directory

/-- Where a path of ordinary names leads. -/
def place (tree : FileTree) (path : String) : Location := tree.origin path ++ Path.names path

/-- Directories may appear on the way of a path; all else that it leads to stays. -/
structure Spares (path : String) (before after : FileTree) : Prop where
  workingDirectory : after.workingDirectory = before.workingDirectory
  way : ∀ {location : Location}, location <+: before.place path → location ≠ before.place path →
    after.entry? location = before.entry? location ∨
      before.entry? location = none ∧ after.entry? location = some .directory
  goal : after.entry? (before.place path) = before.entry? (before.place path)
  content : ∀ {index : Nat}, before.entry? (before.place path) = some (.file index) →
    after.content index = before.content index

variable {tree before after : FileTree} {path : String}

theorem place_of_working_directory (same : after.workingDirectory = before.workingDirectory)
    (path : String) : after.place path = before.place path := by
  rw [place, place, origin_of_working_directory same]

/-! ### What is in a directory -/

theorem Placed.empty_below (placed : tree.Placed) {location : Location}
    (empty : tree.entry? location = none) (later : List String) :
    tree.entry? (location ++ later) = none := by
  induction later generalizing location with
  | nil => rwa [List.append_nil]
  | cons name later inductive_hypothesis =>
      have next : tree.entry? (location ++ [name]) = none := by
        cases found : tree.entry? (location ++ [name]) with
        | none => rfl
        | some entry =>
            have above := placed found
            rw [List.dropLast_concat, empty] at above
            cases above
      rw [List.append_cons]
      exact inductive_hypothesis next

theorem origin_directory (wellFormed : tree.WellFormed) (path : String) :
    tree.entry? (tree.origin path) = some .directory := by
  unfold origin
  split
  · exact entry_root tree
  · exact wellFormed.working

theorem WellFormed.still_working {names : List String} (wellFormed : tree.WellFormed)
    (keeps : Keeps names tree after) : after.entry? after.workingDirectory = some .directory := by
  rw [keeps.workingDirectory]
  exact keeps.directory wellFormed.working

/-- Whatever a walk ends at stands in a directory. -/
theorem walk_above (placed : tree.Placed) {isSlashed : Bool} {directory : Location}
    {names : List String} {target : Target} (start : tree.entry? directory = some .directory)
    (found : tree.walk isSlashed directory names = .ok target) :
    tree.entry? target.location.dropLast = some .directory := by
  fun_induction walk tree isSlashed directory names with
  | case1 | case2 =>
      cases found
      exact placed start
  | case3 =>
      cases found
      exact placed (placed start)
  | case4 =>
      cases found
      rwa [List.dropLast_concat]
  | case5 _ _ _ inductive_hypothesis => exact inductive_hypothesis start found
  | case6 _ _ _ inductive_hypothesis => exact inductive_hypothesis (placed start) found
  | case7 | case8 | case9 => cases found
  | case10 _ _ _ _ _ _ _ _ looked inductive_hypothesis =>
      exact inductive_hypothesis (look_up_ok looked tree).1 found

theorem resolve_above (wellFormed : tree.WellFormed) {target : Target}
    (found : tree.resolve path = .ok target) :
    tree.entry? target.location.dropLast = some .directory :=
  walk_above wellFormed.placed (origin_directory wellFormed path) (walk_of_resolve found)

theorem Placed.setEntry (placed : tree.Placed) {location : Location} {entry : Entry}
    (named : location ≠ []) (above : tree.entry? location.dropLast = some .directory)
    (replaced : tree.entry? location ≠ some .directory) :
    (tree.setEntry location entry).Placed := by
  have notHere : ∀ {other : Location}, tree.entry? other = some .directory →
      FileTree.entry? (tree.setEntry location entry) other = some .directory := by
    intro other directory
    rwa [entry_set_other]
    rintro rfl
    exact replaced directory
  intro other held found
  by_cases same : other = location
  · rw [same]
    exact notHere above
  · rw [entry_set_other same] at found
    exact notHere (placed found)

/-- Nothing stands in a file. -/
theorem Placed.removeFile (placed : tree.Placed) {location : Location} {index : Nat}
    (file : tree.entry? location = some (.file index)) : (tree.removeEntry location).Placed := by
  have named : location ≠ [] := by
    rintro rfl
    rw [entry_root] at file
    cases file
  intro other held found
  have apart : other ≠ location := by
    rintro rfl
    rw [entry_remove_same named] at found
    cases found
  rw [entry_remove_other apart] at found
  have above := placed found
  rwa [entry_remove_other]
  rintro same
  rw [same, file] at above
  cases above

/-! ### Paths of ordinary names -/

section

variable {isSlashed : Bool} {directory : Location} {name : String} {later : List String}

theorem walk_last (ordinary : Path.IsOrdinary name) : tree.walk isSlashed directory [name] =
    .ok ⟨directory ++ [name], .name isSlashed, .ok (tree.entry? (directory ++ [name]))⟩ := by
  rw [walk.eq_4 _ _ _ _ ordinary.notHere ordinary.notAbove, lookUp,
    if_neg (Nat.not_lt.mpr ordinary.short)]

theorem walk_next (ordinary : Path.IsOrdinary name) (nonempty : later ≠ []) :
    tree.walk isSlashed directory (name :: later) =
      match tree.entry? (directory ++ [name]) with
      | none => .error (.system .noEntry)
      | some (.file _) => .error (.system .notDirectory)
      | some .directory => tree.walk isSlashed (directory ++ [name]) later := by
  rw [walk.eq_7 _ _ _ _ _ (fun _ => nonempty) (fun _ => nonempty) nonempty ordinary.notHere
    ordinary.notAbove, lookUp, if_neg (Nat.not_lt.mpr ordinary.short)]
  rcases tree.entry? (directory ++ [name]) with _ | _ | _ <;> rfl

end

theorem walk_location {isSlashed : Bool} {directory : Location} {names : List String}
    {target : Target} (undotted : "." ∉ names) (level : ".." ∉ names)
    (found : tree.walk isSlashed directory names = .ok target) :
    target.location = directory ++ names := by
  fun_induction walk tree isSlashed directory names with
  | case1 =>
      cases found
      exact (List.append_nil _).symm
  | case2 | case5 => exact absurd List.mem_cons_self undotted
  | case3 | case6 => exact absurd List.mem_cons_self level
  | case4 =>
      cases found
      rfl
  | case7 | case8 | case9 => cases found
  | case10 _ _ _ _ _ _ _ _ _ inductive_hypothesis =>
      rw [inductive_hypothesis (fun dot => undotted (List.mem_cons_of_mem _ dot))
        (fun dots => level (List.mem_cons_of_mem _ dots)) found, List.append_assoc]
      rfl

theorem resolve_location {target : Target} (straight : Path.IsStraight path)
    (found : tree.resolve path = .ok target) : target.location = tree.place path :=
  walk_location straight.notHere straight.notAbove (walk_of_resolve found)

/-! ### What is not noticed -/

namespace Spares

variable {middle : FileTree}

theorem refl (path : String) (tree : FileTree) : Spares path tree tree :=
  ⟨rfl, fun _ _ => .inl rfl, rfl, fun _ => rfl⟩

theorem trans (first : Spares path before middle) (second : Spares path middle after) :
    Spares path before after := by
  have same := place_of_working_directory first.workingDirectory path
  refine ⟨second.workingDirectory.trans first.workingDirectory, ?_, ?_, ?_⟩
  · intro location onWay notGoal
    rcases first.way onWay notGoal with kept | ⟨empty, made⟩
    · rcases second.way (same ▸ onWay) (same ▸ notGoal) with still | ⟨empty, made⟩
      · exact .inl (still.trans kept)
      · exact .inr ⟨kept.symm.trans empty, made⟩
    · rcases second.way (same ▸ onWay) (same ▸ notGoal) with still | ⟨gone, _⟩
      · exact .inr ⟨empty, still.trans made⟩
      · rw [made] at gone
        cases gone
  · rw [← first.goal, ← same]
    exact second.goal
  · intro index file
    have between : middle.entry? (middle.place path) = some (.file index) := by
      rw [same, first.goal, file]
    exact (second.content between).trans (first.content file)

/-- Below a place that was empty a path finds nothing, whatever directories have been made. -/
theorem walk_missing (spares : Spares path before after) (placed : before.Placed)
    {isSlashed : Bool} {directory : Location} {names : List String} (nonempty : names ≠ [])
    (ordinary : ∀ name ∈ names, Path.IsOrdinary name)
    (reach : directory ++ names = before.place path) (empty : before.entry? directory = none) :
    after.walk isSlashed directory names = .error (.system .noEntry) ∨
      after.walk isSlashed directory names =
        .ok ⟨before.place path, .name isSlashed, .ok none⟩ := by
  induction names generalizing directory with
  | nil => contradiction
  | cons name later inductive_hypothesis =>
      have here := ordinary name List.mem_cons_self
      have below := placed.empty_below empty [name]
      cases later with
      | nil =>
          right
          rw [walk_last here, reach, spares.goal, ← reach, below]
      | cons second others =>
          have onward : (directory ++ [name]) ++ second :: others = before.place path := by
            rw [← reach, List.append_assoc]
            rfl
          have notGoal : directory ++ [name] ≠ before.place path := by
            rw [← onward]
            intro same
            simpa using congrArg List.length same
          rw [walk_next here (List.cons_ne_nil _ _)]
          rcases spares.way ⟨_, onward⟩ notGoal with same | ⟨_, made⟩
          · rw [same, below]
            exact .inl rfl
          · rw [made]
            exact inductive_hypothesis (List.cons_ne_nil _ _)
              (fun other member => ordinary other (List.mem_cons_of_mem _ member)) onward below

/-- A path leads where it led, or misses only its end where it missed a directory before. -/
theorem walk (spares : Spares path before after) (placed : before.Placed)
    {isSlashed : Bool} {directory : Location} {names : List String}
    (ordinary : ∀ name ∈ names, Path.IsOrdinary name)
    (reach : directory ++ names = before.place path) :
    after.walk isSlashed directory names = before.walk isSlashed directory names ∨
      before.walk isSlashed directory names = .error (.system .noEntry) ∧
        after.walk isSlashed directory names =
          .ok ⟨before.place path, .name isSlashed, .ok none⟩ := by
  induction names generalizing directory with
  | nil => exact .inl rfl
  | cons name later inductive_hypothesis =>
      have here := ordinary name List.mem_cons_self
      have others : ∀ other ∈ later, Path.IsOrdinary other :=
        fun other member => ordinary other (List.mem_cons_of_mem _ member)
      by_cases last : later = []
      · subst last
        left
        rw [walk_last here, walk_last here, reach, spares.goal]
      have onward : (directory ++ [name]) ++ later = before.place path := by
        rw [← reach, List.append_assoc]
        rfl
      have notGoal : directory ++ [name] ≠ before.place path := by
        rw [← onward]
        intro same
        exact last (by simpa using same)
      rw [walk_next here last, walk_next here last]
      rcases spares.way ⟨_, onward⟩ notGoal with same | ⟨empty, made⟩
      · rw [same]
        rcases before.entry? (directory ++ [name]) with _ | _ | _
        · exact .inl rfl
        · exact inductive_hypothesis others onward
        · exact .inl rfl
      · rw [empty, made]
        rcases spares.walk_missing placed last others onward empty with missed | missed
        · exact .inl missed
        · exact .inr ⟨rfl, missed⟩

end Spares

/-- Nobody who reads at a path notices what spares it. -/
theorem read_spared (spares : Spares path before after) (wellFormed : before.WellFormed)
    (ordinary : ∀ name ∈ Path.names path, Path.IsOrdinary name) :
    after.read path = before.read path := by
  rcases resolve_cases path with ⟨fault, nowhere⟩ | walked
  · simp only [read, nowhere]
    rfl
  have start := origin_of_working_directory spares.workingDirectory path
  have led : after.resolve path = before.resolve path ∨
      before.resolve path = .error (.system .noEntry) ∧
        after.resolve path =
          .ok ⟨before.place path, .name (Path.endsWithSlash path), .ok none⟩ := by
    rw [walked, walked, start]
    exact spares.walk wellFormed.placed ordinary rfl
  rcases led with same | ⟨missed, missing⟩
  · simp only [read, same]
    rcases resolved : before.resolve path with fault | ⟨location, ending, entry⟩
    · rfl
    rcases entry with fault | _ | _ | index
    · rfl
    · rfl
    · rfl
    · change (if ending = .name false then _ else _) = if ending = .name false then _ else _
      by_cases named : ending = .name false
      · subst named
        have here := resolve_location (Path.straight_of_ordinary ordinary) resolved
        have file := (resolve_seen resolved).1
        dsimp only at here
        rw [here] at file
        rw [spares.content file]
      · rw [if_neg named, if_neg named]
  · simp only [read, missed, missing]
    rfl

/-! ### Changes that are not noticed -/

section

variable {location : Location} {index : Nat}

theorem spares_set_entry (apart : ¬ location <+: tree.place path) (entry : Entry) :
    Spares path tree (tree.setEntry location entry) where
  workingDirectory := rfl
  way := by
    intro other onWay _
    refine .inl (entry_set_other ?_ entry)
    rintro rfl
    exact apart onWay
  goal := by
    apply entry_set_other
    intro same
    exact apart (same ▸ List.prefix_rfl)
  content := fun _ => rfl

theorem spares_set_directory (empty : tree.entry? location = none)
    (apart : location ≠ tree.place path) : Spares path tree (tree.setEntry location .directory) where
  workingDirectory := rfl
  way := by
    intro other _ _
    by_cases same : other = location
    · rw [same]
      exact .inr ⟨empty, entry_set_same (ne_nil_of_empty empty) _⟩
    · exact .inl (entry_set_other same _)
  goal := entry_set_other apart.symm _
  content := fun _ => rfl

theorem spares_set_content (apart : tree.entry? (tree.place path) ≠ some (.file index))
    (content : Bytes) : Spares path tree (tree.setContent index content) where
  workingDirectory := rfl
  way := fun _ _ => .inl rfl
  goal := rfl
  content := by
    intro other file
    apply content_set_other
    rintro rfl
    exact apart file

theorem spares_with_room (sound : tree.Sound) : Spares path tree tree.withRoom where
  workingDirectory := rfl
  way := fun _ _ => .inl rfl
  goal := rfl
  content := fun file => by
    simp [withRoom, FileTree.content, List.getElem?_append_left (sound.held file)]

end

/-! ### Directories -/

theorem place_of_above {higher : String} (above : Path.IsAbove higher path) (tree : FileTree) :
    tree.place higher ≠ tree.place path := by
  obtain ⟨later, nonempty, whole⟩ := above.names
  intro same
  rw [place, place, origin, origin, above.start, whole, List.append_right_inj] at same
  exact nonempty (by simpa using same)

section

variable {higher : String} (straight : Path.IsStraight path)

include straight

theorem make_directory_spares (wellFormed : tree.WellFormed) (above : Path.IsAbove higher path)
    (made : tree.makeDirectory higher = .ok after) : after.WellFormed ∧ Spares path tree after := by
  obtain ⟨sound, keeps⟩ := make_directory_ok wellFormed.sound made
  obtain ⟨target, resolved, missing, rfl⟩ := make_directory_found made
  have empty := resolve_empty resolved missing
  have here := resolve_location (above.straight straight) resolved
  refine ⟨⟨sound, ?_, wellFormed.still_working keeps⟩, ?_⟩
  · apply wellFormed.placed.setEntry (ne_nil_of_empty empty) (resolve_above wellFormed resolved)
    rw [empty]
    exact nofun
  · exact spares_set_directory empty (here ▸ place_of_above above tree)

theorem or_directory_spares (wellFormed : tree.WellFormed) (above : Path.IsAbove higher path) :
    (tree.orDirectory higher (tree.makeDirectory higher)).2.WellFormed ∧
      Spares path tree (tree.orDirectory higher (tree.makeDirectory higher)).2 := by
  cases made : tree.makeDirectory higher with
  | error fault => exact ⟨wellFormed, .refl _ _⟩
  | ok after => exact make_directory_spares straight wellFormed above made

/-- Making a directory above a path is not noticed at the path, however far it gets. -/
theorem make_directories_within_spares (fuel : Nat) (wellFormed : tree.WellFormed)
    (above : Path.IsAbove higher path) :
    (tree.makeDirectoriesWithin fuel higher).2.WellFormed ∧
      Spares path tree (tree.makeDirectoriesWithin fuel higher).2 := by
  induction fuel generalizing tree higher with
  | zero => exact ⟨wellFormed, .refl _ _⟩
  | succ fuel inductive_hypothesis =>
      rw [makeDirectoriesWithin]
      split
      · exact ⟨wellFormed, .refl _ _⟩
      split
      · rename_i parent _ found
        have further := (Path.parent_is_above (above.straight straight) found).trans above
        obtain ⟨shape, spares⟩ := inductive_hypothesis wellFormed further
        generalize tree.makeDirectoriesWithin fuel parent = result at shape spares ⊢
        obtain ⟨fault | _, reached⟩ := result
        · exact ⟨shape, spares⟩
        · obtain ⟨last, lower⟩ := or_directory_spares straight shape above
          exact ⟨last, spares.trans lower⟩
      · exact or_directory_spares straight wellFormed above

theorem make_directories_spares (wellFormed : tree.WellFormed)
    (above : Path.IsAbove higher path) :
    (tree.makeDirectories higher).2.WellFormed ∧
      Spares path tree (tree.makeDirectories higher).2 :=
  make_directories_within_spares straight _ wellFormed above

end

/-! ### Files beside a path -/

section

variable {other name : String} {index : Nat}

theorem place_of_beside (beside : Path.IsBeside other path) (tree : FileTree) :
    ¬ tree.place other <+: tree.place path := by
  rw [place, place, origin, origin, beside.start, List.prefix_append_right_inj]
  exact beside.names

/-- New content of a file is not noticed at a path beside it. -/
theorem FileAt.spares (sound : tree.Sound) (straight : Path.IsStraight other)
    (beside : Path.IsBeside other path) (file : tree.FileAt other index) (content : Bytes) :
    Spares path tree (tree.setContent index content) := by
  obtain ⟨location, found⟩ := file
  have here : location = tree.place other := resolve_location straight found
  apply spares_set_content
  intro same
  have equal := sound.apart (resolve_seen found).1 same
  exact place_of_beside beside tree (here ▸ equal ▸ List.prefix_rfl)

theorem create_spares {made : FileTree} (wellFormed : tree.WellFormed)
    (straight : Path.IsStraight other) (beside : Path.IsBeside other path)
    (last : (Path.names other).getLast? = some name)
    (created : tree.create other = .ok (index, made)) :
    made.WellFormed ∧ Spares path tree made := by
  obtain ⟨sound, keeps, _, _⟩ := create_ok wellFormed.sound created last
  have working := wellFormed.still_working keeps
  obtain ⟨location, ⟨resolved, rfl, rfl⟩ | ⟨resolved, rfl⟩⟩ := create_found created
  · have empty : tree.withRoom.entry? location = none := (resolve_seen resolved).1
    have here : location = tree.place other := resolve_location straight resolved
    have roomy : tree.withRoom.Placed := wellFormed.placed
    refine ⟨⟨sound, ?_, working⟩, ?_⟩
    · apply roomy.setEntry (ne_nil_of_empty empty) (resolve_above wellFormed resolved)
      rw [empty]
      exact nofun
    · exact (spares_with_room wellFormed.sound).trans
        (spares_set_entry (here ▸ place_of_beside beside tree) _)
  · have file : tree.FileAt other index := ⟨location, resolved⟩
    exact ⟨⟨sound, wellFormed.placed, working⟩, file.spares wellFormed.sound straight beside _⟩

theorem write_spares {bytes : Bytes} (wellFormed : tree.WellFormed)
    (straight : Path.IsStraight other) (beside : Path.IsBeside other path)
    (last : (Path.names other).getLast? = some name)
    (written : tree.write other bytes = .ok after) :
    after.WellFormed ∧ Spares path tree after := by
  unfold write at written
  rcases created : tree.create other with fault | ⟨index, made⟩
  · rw [created] at written
    cases written
  rw [created] at written
  cases written
  obtain ⟨sound, _, file, _⟩ := create_ok wellFormed.sound created last
  obtain ⟨shape, spares⟩ := create_spares wellFormed straight beside last created
  exact ⟨⟨sound.setContent _ _, shape.placed, shape.working⟩,
    spares.trans (file.spares sound straight beside _)⟩

end

theorem rename_placed {source destination : String} {index : Nat} (wellFormed : tree.WellFormed)
    (file : tree.FileAt source index) (renamed : tree.rename source destination = .ok after) :
    after.Placed := by
  obtain ⟨here, found⟩ := file
  obtain ⟨there, replaced, moved, resolved, notDirectory, same, rfl⟩ := rename_found found renamed
  have old := (resolve_seen found).1
  have new := (resolve_seen resolved).1
  have above := resolve_above wellFormed resolved
  have named : there ≠ [] := by
    rintro rfl
    rw [entry_root] at new
    exact notDirectory new.symm
  apply (wellFormed.placed.removeFile old).setEntry named
  · rwa [entry_remove_other]
    intro same
    rw [same, old] at above
    cases above
  · by_cases same : there = here
    · rw [same, entry_remove_same (same ▸ named)]
      exact nofun
    · rw [entry_remove_other same, new]
      exact notDirectory

/-! ### The first tree -/

theorem of_working_directory_well_formed (directory : Location) :
    (ofWorkingDirectory directory).WellFormed where
  sound := of_working_directory_sound directory
  placed := by
    intro location entry found
    rw [entry_of_working_directory] at found ⊢
    split at found
    · rename_i above
      rw [if_pos ((List.dropLast_prefix location).trans above)]
    · cases found
  working := by
    rw [entry_of_working_directory]
    exact if_pos List.prefix_rfl

end FileTree
end ProvenBlocks
