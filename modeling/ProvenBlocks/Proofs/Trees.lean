import ProvenBlocks.FileTree

/-!
What operations leave of a file tree. Every file has one place, and a path leads to the same place
as long as the directories on its way stay. An operation on a file touches only files of its name,
and making directories touches no file.
-/

namespace ProvenBlocks

/-! ### Lists of entries -/

section

variable {α β : Type} [BEq α] [LawfulBEq α] (entries : List (α × β))

theorem lookup_filter_same (key : α) :
    (entries.filter fun known => known.1 != key).lookup key = none := by
  apply List.lookup_eq_none_iff.mpr
  intro known member
  have apart := (List.mem_filter.mp member).2
  rwa [bne_comm] at apart

theorem lookup_filter_other {key other : α} (apart : other ≠ key) :
    (entries.filter fun known => known.1 != key).lookup other = entries.lookup other := by
  induction entries with
  | nil => rfl
  | cons known later inductive_hypothesis =>
      obtain ⟨place, entry⟩ := known
      by_cases same : place = key
      · have different : (other == place) = false := by simpa [same] using apart
        rw [List.filter_cons_of_neg (by simp [same]), inductive_hypothesis, List.lookup_cons,
          different]
      · rw [List.filter_cons_of_pos (by simp [same]), List.lookup_cons, List.lookup_cons,
          inductive_hypothesis]

theorem lookup_map_same (keys : List α) (key : α) (value : β) :
    (keys.map fun known => (known, value)).lookup key = if key ∈ keys then some value else none := by
  induction keys with
  | nil => rfl
  | cons known later inductive_hypothesis =>
      rw [List.map_cons, List.lookup_cons, inductive_hypothesis]
      cases same : key == known with
      | true => simp [LawfulBEq.eq_of_beq same]
      | false => simp [beq_eq_false_iff_ne.mp same]

end

namespace FileTree

/-- Every file has its own content and one place. -/
structure Sound (tree : FileTree) : Prop where
  held : ∀ {location : Location} {index : Nat},
    tree.entry? location = some (.file index) → index < tree.contents.length
  apart : ∀ {first second : Location} {index : Nat},
    tree.entry? first = some (.file index) → tree.entry? second = some (.file index) →
      first = second

/-- Directories stay, and so do files with what they hold, except for files of certain names. -/
structure Keeps (names : List String) (before after : FileTree) : Prop where
  workingDirectory : after.workingDirectory = before.workingDirectory
  directory : ∀ {location : Location}, before.entry? location = some .directory →
    after.entry? location = some .directory
  file : ∀ {location : Location} {index : Nat},
    (∀ name ∈ names, location.getLast? ≠ some name) →
      before.entry? location = some (.file index) →
        after.entry? location = some (.file index) ∧ after.content index = before.content index

/-- The path leads to a file. -/
def FileAt (tree : FileTree) (path : String) (index : Nat) : Prop :=
  ∃ location, tree.resolve path = .ok ⟨location, .name false, .ok (some (.file index))⟩

variable {tree before after : FileTree}

/-! ### Entries -/

theorem entry_root (tree : FileTree) : tree.entry? [] = some .directory := rfl

theorem entry_nonempty (tree : FileTree) {location : Location} (named : location ≠ []) :
    tree.entry? location = tree.entries.lookup location := by
  unfold FileTree.entry?
  rw [if_neg (by simpa using named)]

theorem ne_nil_of_empty {location : Location} (empty : tree.entry? location = none) :
    location ≠ [] := by
  rintro rfl
  rw [entry_root] at empty
  contradiction

theorem entry_remove_other {location other : Location} (apart : other ≠ location) :
    FileTree.entry? (tree.removeEntry location) other = tree.entry? other := by
  by_cases root : other = []
  · rw [root, entry_root, entry_root]
  · rw [entry_nonempty _ root, entry_nonempty _ root]
    exact lookup_filter_other tree.entries apart

theorem entry_remove_same {location : Location} (named : location ≠ []) :
    FileTree.entry? (tree.removeEntry location) location = none := by
  rw [entry_nonempty _ named]
  exact lookup_filter_same tree.entries location

theorem entry_set_same {location : Location} (named : location ≠ []) (entry : Entry) :
    FileTree.entry? (tree.setEntry location entry) location = some entry := by
  rw [entry_nonempty _ named, setEntry, List.lookup_append, lookup_filter_same]
  simp

theorem entry_set_other {location other : Location} (apart : other ≠ location) (entry : Entry) :
    FileTree.entry? (tree.setEntry location entry) other = tree.entry? other := by
  by_cases root : other = []
  · rw [root, entry_root, entry_root]
  · have different : (other == location) = false := by simpa using apart
    rw [entry_nonempty _ root, entry_nonempty _ root, setEntry, List.lookup_append,
      lookup_filter_other tree.entries apart, List.lookup_cons, different]
    simp

theorem entry_of_working_directory (directory location : Location) :
    FileTree.entry? (ofWorkingDirectory directory) location =
      if location <+: directory then some .directory else none := by
  by_cases root : location = []
  · rw [root, entry_root, if_pos (List.nil_prefix)]
  have known : location ∈ (List.range directory.length).map (fun depth =>
      directory.take (depth + 1)) ↔ location <+: directory := by
    rw [List.mem_map]
    constructor
    · rintro ⟨depth, _, rfl⟩
      exact List.take_prefix _ _
    · rintro above
      have size := above.length_le
      have positive := List.length_pos_iff.mpr root
      refine ⟨location.length - 1, List.mem_range.mpr (by omega), ?_⟩
      rw [Nat.sub_add_cancel positive]
      exact (List.prefix_iff_eq_take.mp above).symm
  have same : (ofWorkingDirectory directory).entries =
      ((List.range directory.length).map fun depth => directory.take (depth + 1)).map
        fun place => (place, Entry.directory) := by
    rw [List.map_map]
    rfl
  rw [entry_nonempty _ root, same, lookup_map_same]
  simp only [known]

/-- A tree of directories only. -/
theorem of_working_directory_sound (directory : Location) :
    (ofWorkingDirectory directory).Sound := by
  have none : ∀ {location : Location} {index : Nat},
      FileTree.entry? (ofWorkingDirectory directory) location ≠ some (.file index) := by
    intro location index found
    rw [entry_of_working_directory] at found
    split at found <;> cases found
  exact ⟨fun found => absurd found none, fun found => absurd found none⟩

/-! ### Paths -/

theorem look_up_ok {directory : Location} {name : String} {entry : Option Entry}
    (found : before.lookUp directory name = .ok entry) (after : FileTree) :
    before.entry? (directory ++ [name]) = entry ∧
      after.lookUp directory name = .ok (after.entry? (directory ++ [name])) := by
  unfold lookUp at found ⊢
  by_cases long : longestName < name.utf8ByteSize
  · rw [if_pos long] at found
    contradiction
  · rw [if_neg long] at found ⊢
    cases found
    exact ⟨rfl, rfl⟩

/-- Where a walk to a name ends depends on the directories only. -/
theorem walk_name (directories : ∀ {location : Location},
      before.entry? location = some .directory → after.entry? location = some .directory)
    {isSlashed ending : Bool} {directory location : Location} {names : List String}
    {entry : Option Entry}
    (found : before.walk isSlashed directory names = .ok ⟨location, .name ending, .ok entry⟩) :
    before.entry? location = entry ∧ location.getLast? = names.getLast? ∧
      after.walk isSlashed directory names =
        .ok ⟨location, .name ending, .ok (after.entry? location)⟩ := by
  fun_induction walk before isSlashed directory names with
  | case1 | case2 | case3 => cases found
  | case4 directory name notHere notAbove =>
      simp only [Except.ok.injEq, Target.mk.injEq, PathEnd.name.injEq] at found
      obtain ⟨rfl, rfl, looked⟩ := found
      obtain ⟨seen, later⟩ := look_up_ok looked after
      rw [walk.eq_4 _ _ _ _ notHere notAbove, later]
      exact ⟨seen, List.getLast?_concat, rfl⟩
  | case5 directory later nonempty inductive_hypothesis =>
      obtain ⟨seen, last, walked⟩ := inductive_hypothesis found
      rw [walk.eq_5 _ _ _ _ nonempty]
      exact ⟨seen, by rw [last, List.getLast?_cons_of_ne_nil nonempty], walked⟩
  | case6 directory later nonempty inductive_hypothesis =>
      obtain ⟨seen, last, walked⟩ := inductive_hypothesis found
      rw [walk.eq_6 _ _ _ _ nonempty]
      exact ⟨seen, by rw [last, List.getLast?_cons_of_ne_nil nonempty], walked⟩
  | case7 | case8 | case9 => cases found
  | case10 directory name later _ _ nonempty notHere notAbove looked inductive_hypothesis =>
      obtain ⟨seen, last, walked⟩ := inductive_hypothesis found
      obtain ⟨there, onward⟩ := look_up_ok looked after
      rw [walk.eq_7 _ _ _ _ _ (fun _ => nonempty) (fun _ => nonempty) nonempty notHere notAbove,
        onward, directories there]
      exact ⟨seen, by rw [last, List.getLast?_cons_of_ne_nil nonempty], walked⟩

/-- Some paths lead nowhere in any tree. -/
theorem resolve_cases (path : String) :
    (∃ fault, ∀ tree : FileTree, tree.resolve path = .error fault) ∨
      ∀ tree : FileTree, tree.resolve path =
        tree.walk (Path.endsWithSlash path) (tree.origin path) (Path.names path) := by
  by_cases zero : path.toList.contains '\x00' = true
  · exact .inl ⟨_, fun tree => by rw [resolve, if_pos zero]⟩
  by_cases empty : (path == "") = true
  · exact .inl ⟨_, fun tree => by rw [resolve, if_neg zero, if_pos empty]⟩
  by_cases long : longestPath < path.utf8ByteSize
  · exact .inl ⟨_, fun tree => by rw [resolve, if_neg zero, if_neg empty, if_pos long]⟩
  · exact .inr fun tree => by rw [resolve, if_neg zero, if_neg empty, if_neg long]

theorem walk_of_resolve {path : String} {target : Target} (found : tree.resolve path = .ok target) :
    tree.walk (Path.endsWithSlash path) (tree.origin path) (Path.names path) = .ok target := by
  rcases resolve_cases path with ⟨fault, nowhere⟩ | walked
  · rw [nowhere] at found
    cases found
  · rwa [walked] at found

theorem origin_of_working_directory (same : after.workingDirectory = before.workingDirectory)
    (path : String) : after.origin path = before.origin path := by
  rw [origin, origin, same]

theorem resolve_name (same : after.workingDirectory = before.workingDirectory)
    (directories : ∀ {location : Location},
      before.entry? location = some .directory → after.entry? location = some .directory)
    {path : String} {ending : Bool} {location : Location} {entry : Option Entry}
    (found : before.resolve path = .ok ⟨location, .name ending, .ok entry⟩) :
    before.entry? location = entry ∧ location.getLast? = (Path.names path).getLast? ∧
      after.resolve path = .ok ⟨location, .name ending, .ok (after.entry? location)⟩ := by
  rcases resolve_cases path with ⟨fault, nowhere⟩ | walked
  · rw [nowhere] at found
    cases found
  · rw [walked] at found ⊢
    rw [origin_of_working_directory same]
    exact walk_name directories found

theorem resolve_seen {path : String} {ending : Bool} {location : Location} {entry : Option Entry}
    (found : tree.resolve path = .ok ⟨location, .name ending, .ok entry⟩) :
    tree.entry? location = entry ∧ location.getLast? = (Path.names path).getLast? :=
  have seen := resolve_name rfl id found
  ⟨seen.1, seen.2.1⟩

/-- Only a name can be missing. -/
theorem walk_empty {isSlashed : Bool} {directory : Location} {names : List String}
    {target : Target} (found : tree.walk isSlashed directory names = .ok target)
    (empty : target.entry = .ok none) : tree.entry? target.location = none := by
  fun_induction walk tree isSlashed directory names with
  | case1 | case2 | case3 =>
      cases found
      cases empty
  | case4 directory name notHere notAbove =>
      cases found
      exact (look_up_ok empty tree).1
  | case5 _ _ _ inductive_hypothesis => exact inductive_hypothesis found
  | case6 _ _ _ inductive_hypothesis => exact inductive_hypothesis found
  | case7 | case8 | case9 => cases found
  | case10 _ _ _ _ _ _ _ _ _ inductive_hypothesis => exact inductive_hypothesis found

theorem resolve_empty {path : String} {target : Target} (found : tree.resolve path = .ok target)
    (empty : target.entry = .ok none) : tree.entry? target.location = none :=
  walk_empty (walk_of_resolve found) empty

/-! ### Files -/

/-- The file of a path is where the tree says. -/
theorem FileAt.entry {path : String} {index : Nat} (file : tree.FileAt path index) :
    ∃ location, tree.entry? location = some (.file index) ∧
      location.getLast? = (Path.names path).getLast? := by
  obtain ⟨location, found⟩ := file
  exact ⟨location, resolve_seen found⟩

theorem FileAt.held {path : String} {index : Nat} (sound : tree.Sound)
    (file : tree.FileAt path index) : index < tree.contents.length := by
  obtain ⟨location, entry, _⟩ := file.entry
  exact sound.held entry

theorem FileAt.keep {names : List String} {path : String} {index : Nat}
    (keeps : Keeps names before after) (file : before.FileAt path index)
    (other : ∀ name ∈ names, (Path.names path).getLast? ≠ some name) :
    after.FileAt path index ∧ after.content index = before.content index := by
  obtain ⟨location, found⟩ := file
  obtain ⟨entry, last, onward⟩ := resolve_name keeps.workingDirectory keeps.directory found
  obtain ⟨still, content⟩ := keeps.file (last ▸ other) entry
  rw [still] at onward
  exact ⟨⟨location, onward⟩, content⟩

theorem read_of_file {path : String} {index : Nat} (file : tree.FileAt path index) :
    tree.read path = .ok (tree.content index) := by
  obtain ⟨location, found⟩ := file
  simp only [read, found]
  rfl

theorem file_of_read {path : String} {content : Bytes} (found : tree.read path = .ok content) :
    ∃ index, tree.FileAt path index ∧ tree.content index = content := by
  rcases resolved : tree.resolve path with fault | ⟨location, ending, entry⟩
  · simp only [read, resolved] at found
    contradiction
  · simp only [read, resolved] at found
    rcases entry with fault | _ | _ | index
    · contradiction
    · contradiction
    · contradiction
    · by_cases named : ending = .name false
      · subst named
        cases found
        exact ⟨index, ⟨location, resolved⟩, rfl⟩
      · change (if ending = .name false then _ else _) = _ at found
        rw [if_neg named] at found
        contradiction

theorem read_keep {names : List String} {path : String} {content : Bytes}
    (keeps : Keeps names before after) (found : before.read path = .ok content)
    (other : ∀ name ∈ names, (Path.names path).getLast? ≠ some name) :
    after.read path = .ok content := by
  obtain ⟨index, file, rfl⟩ := file_of_read found
  obtain ⟨still, same⟩ := file.keep keeps other
  rw [read_of_file still, same]

/-! ### What operations keep -/

namespace Keeps

variable {names more : List String} {middle : FileTree}

theorem refl (names : List String) (tree : FileTree) : Keeps names tree tree :=
  ⟨rfl, id, fun _ found => ⟨found, rfl⟩⟩

theorem widen (keeps : Keeps names before after) (subset : names ⊆ more) :
    Keeps more before after where
  workingDirectory := keeps.workingDirectory
  directory := keeps.directory
  file := fun other => keeps.file fun name member => other name (subset member)

theorem trans (first : Keeps names before middle) (second : Keeps names middle after) :
    Keeps names before after where
  workingDirectory := second.workingDirectory.trans first.workingDirectory
  directory := fun found => second.directory (first.directory found)
  file := by
    intro location index other found
    obtain ⟨between, content⟩ := first.file other found
    obtain ⟨still, same⟩ := second.file other between
    exact ⟨still, same.trans content⟩

end Keeps

theorem content_set_same {index : Nat} (held : index < tree.contents.length) (content : Bytes) :
    (tree.setContent index content).content index = content := by
  simp [setContent, FileTree.content, held]

theorem content_set_other {index other : Nat} (apart : other ≠ index) (content : Bytes) :
    (tree.setContent index content).content other = tree.content other := by
  simp [setContent, FileTree.content, List.getElem?_set_ne (Ne.symm apart)]

theorem Sound.setContent (sound : tree.Sound) (index : Nat) (content : Bytes) :
    (tree.setContent index content).Sound where
  held := by
    intro location other found
    change tree.entry? location = _ at found
    simpa [FileTree.setContent] using sound.held found
  apart := sound.apart

section

variable {path name : String} {index : Nat}

/-- Other files do not notice new content. -/
theorem keeps_set_content (sound : tree.Sound) (file : tree.FileAt path index)
    (last : (Path.names path).getLast? = some name) (content : Bytes) :
    Keeps [name] tree (tree.setContent index content) where
  workingDirectory := rfl
  directory := id
  file := by
    intro location other apart found
    refine ⟨found, content_set_other ?_ content⟩
    rintro rfl
    obtain ⟨place, entry, ending⟩ := file.entry
    rw [sound.apart entry found, last] at ending
    exact apart name (List.mem_singleton_self name) ending

theorem FileAt.setContent (file : tree.FileAt path index) (other : Nat) (content : Bytes) :
    (tree.setContent other content).FileAt path index := by
  obtain ⟨location, found⟩ := file
  have same : (tree.setContent other content).workingDirectory = tree.workingDirectory := rfl
  obtain ⟨entry, _, onward⟩ := resolve_name same id found
  have still : FileTree.entry? (tree.setContent other content) location = some (.file index) :=
    entry
  rw [still] at onward
  exact ⟨location, onward⟩

/-- An empty place takes in a new directory or file. -/
theorem keeps_set_entry {location : Location} (empty : tree.entry? location = none)
    (entry : Entry) : Keeps [] tree (tree.setEntry location entry) where
  workingDirectory := rfl
  directory := by
    intro other found
    rw [entry_set_other _ entry]
    · exact found
    · rintro rfl
      rw [empty] at found
      contradiction
  file := by
    intro other index _ found
    rw [entry_set_other _ entry]
    · exact ⟨found, rfl⟩
    · rintro rfl
      rw [empty] at found
      contradiction

theorem Sound.setDirectory (sound : tree.Sound) {location : Location}
    (empty : tree.entry? location = none) : (tree.setEntry location .directory).Sound := by
  have named := ne_nil_of_empty empty
  have before : ∀ {other : Location} {index : Nat},
      FileTree.entry? (tree.setEntry location .directory) other = some (.file index) →
        tree.entry? other = some (.file index) := by
    intro other index found
    by_cases same : other = location
    · rw [same, entry_set_same named] at found
      cases found
    · rwa [entry_set_other same] at found
  constructor
  · intro other index found
    exact sound.held (before found)
  · intro first second index found again
    exact sound.apart (before found) (before again)

end

/-! ### Directories -/

section

variable {path : String}

theorem make_directory_found (made : tree.makeDirectory path = .ok after) :
    ∃ target, tree.resolve path = .ok target ∧ target.entry = .ok none ∧
      after = tree.setEntry target.location .directory := by
  unfold makeDirectory at made
  rcases resolved : tree.resolve path with fault | ⟨location, ending, entry⟩
  · rw [resolved] at made
    cases made
  · rw [resolved] at made
    rcases entry with fault | _ | known
    · cases made
    · cases made
      exact ⟨_, rfl, rfl, rfl⟩
    · cases made

theorem make_directory_ok (sound : tree.Sound) (made : tree.makeDirectory path = .ok after) :
    after.Sound ∧ Keeps [] tree after := by
  obtain ⟨target, resolved, missing, rfl⟩ := make_directory_found made
  have empty := resolve_empty resolved missing
  exact ⟨sound.setDirectory empty, keeps_set_entry empty _⟩

theorem or_directory_keeps (sound : tree.Sound) (made : Except IoFault FileTree)
    (keeps : ∀ {after : FileTree}, made = .ok after → after.Sound ∧ Keeps [] tree after) :
    (tree.orDirectory path made).2.Sound ∧ Keeps [] tree (tree.orDirectory path made).2 := by
  cases made with
  | error fault => exact ⟨sound, .refl _ _⟩
  | ok after => exact keeps rfl

theorem make_directories_within_keeps (fuel : Nat) (sound : tree.Sound) :
    (tree.makeDirectoriesWithin fuel path).2.Sound ∧
      Keeps [] tree (tree.makeDirectoriesWithin fuel path).2 := by
  induction fuel generalizing tree path with
  | zero => exact ⟨sound, .refl _ _⟩
  | succ fuel inductive_hypothesis =>
      rw [makeDirectoriesWithin]
      split
      · exact ⟨sound, .refl _ _⟩
      split
      · rename_i parent _ _
        obtain ⟨above, kept⟩ := @inductive_hypothesis tree parent sound
        generalize tree.makeDirectoriesWithin fuel parent = result at above kept ⊢
        obtain ⟨fault | _, reached⟩ := result
        · exact ⟨above, kept⟩
        · have lower : (reached.orDirectory path (reached.makeDirectory path)).2.Sound ∧
              Keeps [] reached (reached.orDirectory path (reached.makeDirectory path)).2 :=
            or_directory_keeps above _ (make_directory_ok above)
          exact ⟨lower.1, kept.trans lower.2⟩
      · exact or_directory_keeps sound _ (make_directory_ok sound)

theorem make_directories_keeps (sound : tree.Sound) (path : String) :
    (tree.makeDirectories path).2.Sound ∧ Keeps [] tree (tree.makeDirectories path).2 :=
  make_directories_within_keeps _ sound

end

/-! ### Writing -/

section

variable {path name : String} {index : Nat}

/-- The tree with an empty content that no file has yet. -/
def withRoom (tree : FileTree) : FileTree := { tree with contents := tree.contents ++ [[]] }

theorem with_room_keeps (sound : tree.Sound) :
    tree.withRoom.Sound ∧ Keeps [] tree tree.withRoom := by
  have more : tree.withRoom.contents.length = tree.contents.length + 1 := by simp [withRoom]
  constructor
  · constructor
    · intro location index found
      change tree.entry? location = _ at found
      have held := sound.held found
      omega
    · exact sound.apart
  · constructor
    · rfl
    · exact id
    · intro location index _ found
      have held := sound.held found
      exact ⟨found, by simp [withRoom, FileTree.content, List.getElem?_append_left held]⟩

/-- A file that stands nowhere yet gets a place. -/
theorem Sound.setFile (sound : tree.Sound) {location : Location} (named : location ≠ [])
    (held : index < tree.contents.length)
    (unused : ∀ other, other ≠ location → tree.entry? other ≠ some (.file index)) :
    (tree.setEntry location (.file index)).Sound := by
  have before : ∀ {other : Location} {found : Nat}, other ≠ location →
      FileTree.entry? (tree.setEntry location (.file index)) other = some (.file found) →
        tree.entry? other = some (.file found) := by
    intro other found different entry
    rwa [entry_set_other different] at entry
  have here : ∀ {other : Location} {found : Nat}, other = location →
      FileTree.entry? (tree.setEntry location (.file index)) other = some (.file found) →
        found = index := by
    intro other found same entry
    rw [same, entry_set_same named] at entry
    cases entry
    rfl
  constructor
  · intro other found entry
    by_cases same : other = location
    · rw [here same entry]
      exact held
    · exact sound.held (before same entry)
  · intro first second found entry again
    by_cases same : first = location <;> by_cases other : second = location
    · rw [same, other]
    · rw [here same entry] at again
      exact absurd (before other again) (unused second other)
    · rw [here other again] at entry
      exact absurd (before same entry) (unused first same)
    · exact sound.apart (before same entry) (before other again)

/-- A new file takes the new content. -/
theorem create_new (sound : tree.Sound) {location : Location}
    (found : tree.resolve path = .ok ⟨location, .name false, .ok none⟩) {made : FileTree}
    (created : made = tree.withRoom.setEntry location (.file tree.contents.length)) :
    made.Sound ∧ Keeps [] tree made ∧ made.FileAt path tree.contents.length ∧
      made.content tree.contents.length = [] := by
  subst created
  have empty : tree.withRoom.entry? location = none := resolve_empty found rfl
  have named := ne_nil_of_empty empty
  obtain ⟨roomy, grown⟩ := with_room_keeps sound
  have kept := grown.trans (keeps_set_entry empty (.file tree.contents.length))
  obtain ⟨_, _, onward⟩ := resolve_name kept.workingDirectory kept.directory found
  rw [entry_set_same named] at onward
  have held : tree.contents.length < tree.withRoom.contents.length := by simp [withRoom]
  refine ⟨?_, kept, ⟨location, onward⟩, ?_⟩
  · apply roomy.setFile named held
    intro other _ entry
    exact absurd (sound.held entry) (Nat.lt_irrefl _)
  · simp [FileTree.content, setEntry, withRoom]

theorem create_found {made : FileTree} (created : tree.create path = .ok (index, made)) :
    ∃ location, tree.resolve path = .ok ⟨location, .name false, .ok none⟩ ∧
        index = tree.contents.length ∧ made = tree.withRoom.setEntry location (.file index) ∨
      tree.resolve path = .ok ⟨location, .name false, .ok (some (.file index))⟩ ∧
        made = tree.setContent index [] := by
  unfold create at created
  rcases resolved : tree.resolve path with fault | ⟨location, ending, entry⟩
  · rw [resolved] at created
    cases created
  rw [resolved] at created
  by_cases named : ending = .name false
  · subst named
    rcases entry with fault | _ | _ | known
    · cases created
    · cases created
      exact ⟨location, .inl ⟨rfl, rfl, rfl⟩⟩
    · cases created
    · cases created
      exact ⟨location, .inr ⟨rfl, rfl⟩⟩
  · have other : (ending != .name false) = true := by simpa using named
    change (if (ending != .name false) = true then _ else _) = _ at created
    rw [if_pos other] at created
    cases created

theorem create_ok {made : FileTree} (sound : tree.Sound)
    (created : tree.create path = .ok (index, made))
    (last : (Path.names path).getLast? = some name) :
    made.Sound ∧ Keeps [name] tree made ∧ made.FileAt path index ∧ made.content index = [] := by
  obtain ⟨location, ⟨resolved, rfl, rfl⟩ | ⟨resolved, rfl⟩⟩ := create_found created
  · obtain ⟨still, keeps, file, content⟩ := create_new sound resolved rfl
    exact ⟨still, keeps.widen (List.nil_subset _), file, content⟩
  · have file : tree.FileAt path index := ⟨location, resolved⟩
    exact ⟨sound.setContent _ _, keeps_set_content sound file last _, file.setContent _ _,
      content_set_same (file.held sound) _⟩

theorem write_ok {bytes : Bytes} {after : FileTree} (sound : tree.Sound)
    (written : tree.write path bytes = .ok after) (last : (Path.names path).getLast? = some name) :
    after.Sound ∧ Keeps [name] tree after ∧ ∃ index, after.FileAt path index ∧
      after.content index = bytes := by
  unfold write at written
  rcases created : tree.create path with fault | ⟨index, made⟩
  · rw [created] at written
    cases written
  · rw [created] at written
    cases written
    obtain ⟨still, keeps, file, _⟩ := create_ok sound created last
    exact ⟨still.setContent _ _, keeps.trans (keeps_set_content still file last _), index,
      file.setContent _ _, content_set_same (file.held still) _⟩

/-- Bytes at the end of a file are put behind what it holds. -/
theorem write_at_end (sound : tree.Sound) (file : tree.FileAt path index)
    (last : (Path.names path).getLast? = some name) (bytes : Bytes) {position : Nat}
    (atEnd : position = (tree.content index).length) :
    (tree.writeAt index position bytes).Sound ∧
      Keeps [name] tree (tree.writeAt index position bytes) ∧
      (tree.writeAt index position bytes).FileAt path index ∧
      (tree.writeAt index position bytes).content index = tree.content index ++ bytes := by
  subst atEnd
  unfold writeAt
  cases bytes with
  | nil => exact ⟨sound, .refl _ _, file, (List.append_nil _).symm⟩
  | cons byte later =>
      refine ⟨sound.setContent _ _, keeps_set_content sound file last _, file.setContent _ _, ?_⟩
      exact (content_set_same (file.held sound) _).trans (by simp)

/-- What a successful renaming has found. -/
theorem rename_found {source destination : String} {old : Target}
    (found : tree.resolve source = .ok old)
    (renamed : tree.rename source destination = .ok after) :
    ∃ location replaced moved, tree.resolve destination =
        .ok ⟨location, .name false, .ok replaced⟩ ∧ replaced ≠ some .directory ∧
      old.entry = .ok (some moved) ∧
      after = (tree.removeEntry old.location).setEntry location moved := by
  unfold rename at renamed
  rw [found] at renamed
  rcases resolved : tree.resolve destination with fault | ⟨location, ending, entry⟩
  · rw [resolved] at renamed
    cases renamed
  rw [resolved] at renamed
  change (if (!(old.ending.isName && ending.isName)) = true then _ else _) = _ at renamed
  split at renamed
  · cases renamed
  rename_i named
  rcases held : old.entry with fault | _ | moved
  · rw [held] at renamed
    cases renamed
  · rw [held] at renamed
    cases renamed
  rw [held] at renamed
  rcases entry with fault | replaced
  · cases renamed
  change (if (old.ending = .name true || ending = .name true) = true then _ else _) = _ at renamed
  split at renamed
  · cases renamed
  rename_i plain
  change (if replaced = some .directory then _ else _) = _ at renamed
  split at renamed
  · cases renamed
  rename_i file
  cases renamed
  have unslashed : ending = .name false := by
    cases ending with
    | name isSlashed => cases isSlashed <;> simp_all
    | here | above | root => simp [PathEnd.isName] at named
  subst unslashed
  exact ⟨location, replaced, moved, rfl, file, rfl, rfl⟩

theorem Sound.removeEntry (sound : tree.Sound) {location : Location} (named : location ≠ []) :
    (tree.removeEntry location).Sound := by
  have before : ∀ {other : Location} {index : Nat},
      FileTree.entry? (tree.removeEntry location) other = some (.file index) →
        tree.entry? other = some (.file index) := by
    intro other index found
    by_cases same : other = location
    · rw [same, entry_remove_same named] at found
      cases found
    · rwa [entry_remove_other same] at found
  constructor
  · intro other index found
    exact sound.held (before found)
  · intro first second index found again
    exact sound.apart (before found) (before again)

/-- A file that is moved takes what it holds with it. -/
theorem rename_ok {source destination target : String} {after : FileTree} (sound : tree.Sound)
    (renamed : tree.rename source destination = .ok after) (file : tree.FileAt source index)
    (departure : (Path.names source).getLast? = some name)
    (arrival : (Path.names destination).getLast? = some target) :
    after.Sound ∧ Keeps [name, target] tree after ∧ after.FileAt destination index ∧
      after.content index = tree.content index := by
  obtain ⟨here, found⟩ := file
  obtain ⟨there, replaced, moved, resolved, notDirectory, same, rfl⟩ := rename_found found renamed
  cases same
  obtain ⟨old, oldName⟩ := resolve_seen found
  obtain ⟨new, newName⟩ := resolve_seen resolved
  have hereNamed : here ≠ [] := by
    rintro rfl
    rw [entry_root] at old
    cases old
  have thereNamed : there ≠ [] := by
    rintro rfl
    rw [entry_root] at new
    exact notDirectory new.symm
  have kept : Keeps [name, target] tree ((tree.removeEntry here).setEntry there (.file index)) := by
    constructor
    · rfl
    · intro location directory
      have notHere : location ≠ here := by
        rintro rfl
        rw [old] at directory
        cases directory
      have notThere : location ≠ there := by
        rintro rfl
        rw [new] at directory
        exact notDirectory directory
      rw [entry_set_other notThere, entry_remove_other notHere]
      exact directory
    · intro location other apart stored
      have notHere : location ≠ here := by
        rintro rfl
        exact apart name (by simp) (oldName.trans departure)
      have notThere : location ≠ there := by
        rintro rfl
        exact apart target (by simp) (newName.trans arrival)
      rw [entry_set_other notThere, entry_remove_other notHere]
      exact ⟨stored, rfl⟩
  obtain ⟨_, _, onward⟩ := resolve_name kept.workingDirectory kept.directory resolved
  rw [entry_set_same thereNamed] at onward
  refine ⟨?_, kept, ⟨there, onward⟩, rfl⟩
  apply (sound.removeEntry hereNamed).setFile thereNamed (sound.held old)
  intro other _ entry
  by_cases same : other = here
  · rw [same, entry_remove_same hereNamed] at entry
    cases entry
  · rw [entry_remove_other same] at entry
    exact same (sound.apart entry old)

end

end FileTree
end ProvenBlocks
