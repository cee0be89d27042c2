import Mathlib.Algebra.Group.Nat.Defs
import ProvenBlocks.StateFile
import ProvenBlocks.BlockFile

/-!
Names in paths. A name behind a directory is the last one of the joined path, whatever the
directory looks like. Block files are told apart by their names, which sort as their numbers, and
none of them is called like the temporary file of a checkpoint.
-/

namespace ProvenBlocks
namespace Path

/-- Text that can stand between two slashes. -/
structure IsName (name : String) : Prop where
  nonempty : name ≠ ""
  plain : ∀ character ∈ name.toList, isSlash character = false

/-- A name that stands for itself and that a file can have. -/
structure IsOrdinary (name : String) : Prop where
  notHere : name ≠ "."
  notAbove : name ≠ ".."
  short : name.utf8ByteSize ≤ FileTree.longestName

/-- Every name of the path leads one level down. -/
structure IsStraight (path : String) : Prop where
  notHere : "." ∉ names path
  notAbove : ".." ∉ names path

/-- A path that another one begins with. -/
structure IsAbove (higher path : String) : Prop where
  start : isAbsolute higher = isAbsolute path
  names : ∃ later, later ≠ [] ∧ names path = names higher ++ later

/-- A path that another one does not lead through, though both start at the same place. -/
structure IsBeside (other path : String) : Prop where
  start : isAbsolute other = isAbsolute path
  names : ¬ names other <+: names path

theorem straight_of_ordinary {path : String} (ordinary : ∀ name ∈ names path, IsOrdinary name) :
    IsStraight path :=
  ⟨fun dot => (ordinary _ dot).notHere rfl, fun dots => (ordinary _ dots).notAbove rfl⟩

theorem pieces_ne_nil (path : List Char) : pieces path ≠ [] := by
  induction path with
  | nil => exact List.cons_ne_nil _ _
  | cons character later inductive_hypothesis =>
      rw [pieces]
      split
      · exact List.cons_ne_nil _ _
      · split <;> exact List.cons_ne_nil _ _

theorem pieces_plain {piece : List Char}
    (plain : ∀ character ∈ piece, isSlash character = false) : pieces piece = [piece] := by
  induction piece with
  | nil => rfl
  | cons character later inductive_hypothesis =>
      have rest := inductive_hypothesis fun other member => plain other (by simp [member])
      have first := plain character (by simp)
      simp [pieces, first, rest]

theorem pieces_append (front back : List Char) :
    pieces (front ++ '/' :: back) = pieces front ++ pieces back := by
  induction front with
  | nil => rfl
  | cons character later inductive_hypothesis =>
      rw [List.cons_append, pieces, pieces]
      by_cases slash : isSlash character = true
      · simp [slash, inductive_hypothesis]
      · rw [if_neg slash, if_neg slash, inductive_hypothesis]
        cases found : pieces later with
        | nil => exact absurd found (pieces_ne_nil later)
        | cons piece others => rfl

variable {name : String}

theorem name_of_piece (isName : IsName name) : nameOf? name.toList = some name := by
  have nonempty : name.toList.isEmpty = false := by simpa using isName.nonempty
  simp [nameOf?, nonempty]

theorem is_absolute_name (isName : IsName name) : isAbsolute name = false := by
  unfold isAbsolute
  have plain := isName.plain
  cases found : name.toList with
  | nil => rfl
  | cons first later =>
      rw [found] at plain
      have here := plain first (by simp)
      simpa [isSlash] using here

/-- A name is all that its text names. -/
theorem names_of_name (isName : IsName name) :
    (pieces name.toList).filterMap nameOf? = [name] := by
  rw [pieces_plain isName.plain, List.filterMap_cons_some (name_of_piece isName)]
  rfl

theorem names_join (base : String) (isName : IsName name) :
    names (join base name) = names base ++ [name] := by
  have behind : ∀ front : List Char,
      (pieces (front ++ '/' :: name.toList)).filterMap nameOf? =
        (pieces front).filterMap nameOf? ++ [name] := by
    intro front
    rw [pieces_append, List.filterMap_append, names_of_name isName]
  unfold join
  rw [is_absolute_name isName, if_neg Bool.false_ne_true]
  by_cases empty : base = ""
  · subst empty
    exact names_of_name isName
  by_cases slashed : endsWithSlash base = true
  · obtain ⟨front, ends⟩ : ∃ front, base.toList = front ++ ['/'] := by
      simpa [endsWithSlash, List.getLast?_eq_some_iff] using slashed
    have own : names base = (pieces front).filterMap nameOf? := by
      rw [names, ends, pieces_append, List.filterMap_append]
      exact List.append_nil _
    rw [slashed, Bool.or_true, if_pos rfl, own, names, String.toList_append, ends,
      List.append_assoc]
    exact behind front
  · have kept : (base == "" || endsWithSlash base) = false := by simp [empty, slashed]
    have joined : (base ++ "/" ++ name).toList = base.toList ++ '/' :: name.toList := by simp
    rw [kept, if_neg Bool.false_ne_true, names, joined]
    exact behind base.toList

theorem last_name_join (base : String) (isName : IsName name) :
    (names (join base name)).getLast? = some name := by
  rw [names_join base isName, List.getLast?_concat]

theorem last_name_with_file_name (path : String) (isName : IsName name) :
    (names (withFileName path name)).getLast? = some name := by
  unfold withFileName
  split <;> exact last_name_join _ isName

theorem last_name_plain (path : String) :
    ∀ character ∈ (lastName path).toList, isSlash character = false := by
  intro character member
  rw [lastName, String.toList_ofList, List.mem_reverse] at member
  have all := List.all_eq_true.mp List.all_takeWhile character member
  simpa using all

theorem file_name_plain {path name : String} (found : fileName? path = some name) :
    ∀ character ∈ name.toList, isSlash character = false := by
  simp only [fileName?] at found
  split at found
  · contradiction
  · cases found
    exact last_name_plain path

/-! ### Parents -/

/-- All names in a text. -/
def namesIn (text : List Char) : List String := (pieces text).filterMap nameOf?

theorem names_in_append (front back : List Char) :
    namesIn (front ++ '/' :: back) = namesIn front ++ namesIn back := by
  rw [namesIn, pieces_append, List.filterMap_append]
  rfl

theorem names_in_end (front : List Char) : namesIn (front ++ ['/']) = namesIn front := by
  rw [names_in_append]
  exact List.append_nil _

theorem names_in_plain {text : List Char} (nonempty : text ≠ [])
    (plain : ∀ character ∈ text, isSlash character = false) :
    namesIn text = [String.ofList text] := by
  have named : nameOf? text = some (String.ofList text) := by simp [nameOf?, nonempty]
  rw [namesIn, pieces_plain plain, List.filterMap_cons_some named]
  rfl

theorem skip_suffix (text : List Char) : skipEmptyNames text <:+ text := by
  fun_induction skipEmptyNames text with
  | case1 rest inductive_hypothesis => exact inductive_hypothesis.trans (List.suffix_cons _ _)
  | case2 rest inductive_hypothesis =>
      exact inductive_hypothesis.trans ((List.suffix_cons _ _).trans (List.suffix_cons _ _))
  | case3 => exact List.suffix_rfl

theorem skip_unslashed (text rest : List Char) : skipEmptyNames text ≠ '/' :: rest := by
  fun_induction skipEmptyNames text with
  | case1 later inductive_hypothesis => exact inductive_hypothesis
  | case2 later inductive_hypothesis => exact inductive_hypothesis
  | case3 reversed unslashed => exact unslashed rest

/-- Only single dots are skipped. -/
theorem names_skip {text : List Char} (undotted : "." ∉ namesIn text.reverse) :
    namesIn (skipEmptyNames text).reverse = namesIn text.reverse := by
  fun_induction skipEmptyNames text with
  | case1 rest inductive_hypothesis =>
      rw [List.reverse_cons, names_in_end] at undotted ⊢
      exact inductive_hypothesis undotted
  | case2 rest inductive_hypothesis =>
      have dotted : ('.' :: '/' :: rest).reverse = rest.reverse ++ '/' :: ['.'] := by simp
      have dot : "." ∈ namesIn ['.'] := by decide
      rw [dotted, names_in_append] at undotted
      exact absurd (List.mem_append_right _ dot) undotted
  | case3 => rfl

/-- A text that is read from its end is cut behind its last name. -/
theorem names_in_split {text later : List Char} {first : Char} (begins : text = first :: later)
    (unslashed : isSlash first = false) :
    namesIn text.reverse = namesIn (text.dropWhile fun character => !isSlash character).reverse ++
      [String.ofList (text.takeWhile fun character => !isSlash character).reverse] := by
  have whole : text.takeWhile (fun character => !isSlash character) ++
      text.dropWhile (fun character => !isSlash character) = text :=
    List.takeWhile_append_dropWhile
  have nonempty : text.takeWhile (fun character => !isSlash character) ≠ [] := by
    simp [begins, unslashed]
  have plain : ∀ character ∈ text.takeWhile fun character => !isSlash character,
      isSlash character = false := by
    intro character member
    have all := List.all_eq_true.mp List.all_takeWhile character member
    simpa using all
  have cut := List.head?_dropWhile_not (fun character => !isSlash character) text
  generalize text.takeWhile (fun character => !isSlash character) = last at *
  generalize text.dropWhile (fun character => !isSlash character) = before at *
  have named : namesIn last.reverse = [String.ofList last.reverse] :=
    names_in_plain (by simpa using nonempty) (by simpa using plain)
  rw [← whole, List.reverse_append]
  cases before with
  | nil =>
      rw [List.reverse_nil, List.nil_append, named]
      rfl
  | cons slash above =>
      have same : slash = '/' := by simpa [isSlash] using cut
      rw [same, List.reverse_cons, List.append_assoc, names_in_end, ← named]
      exact names_in_append above.reverse last.reverse

variable {path parent : String}

theorem names_significant (undotted : "." ∉ names path) :
    namesIn (significant path).reverse = names path := by
  have same : namesIn path.toList.reverse.reverse = names path := by
    rw [List.reverse_reverse]
    rfl
  rw [← same] at undotted ⊢
  exact names_skip undotted

/-- A path has the names of its parent and one more. -/
theorem names_of_parent (undotted : "." ∉ names path) (found : parent? path = some parent) :
    names path = names parent ++ [lastName path] := by
  have own := names_significant undotted
  cases begins : significant path with
  | nil => simp [parent?, begins] at found
  | cons first later =>
      have unslashed : isSlash first = false := by
        cases slash : isSlash first with
        | false => rfl
        | true =>
            have same : first = '/' := by simpa [isSlash] using slash
            exact absurd (same ▸ begins) (skip_unslashed path.toList.reverse later)
      have cut := names_in_split begins unslashed
      rw [own] at cut
      have above : "." ∉ namesIn
          ((significant path).dropWhile fun character => !isSlash character).reverse := by
        intro dot
        exact undotted (cut ▸ List.mem_append_left _ dot)
      have left := names_skip above
      refine cut.trans (congrArg (· ++ [lastName path]) ?_)
      rw [← left]
      simp only [parent?, begins] at found
      rw [← begins] at found
      generalize skipEmptyNames ((significant path).dropWhile fun character =>
        !isSlash character) = rest at found ⊢
      split at found
      · rename_i root
        cases found
        have empty : rest = [] := by simpa using (Bool.and_eq_true_iff.mp root).1
        rw [empty]
        rfl
      · cases found
        rw [names, String.toList_ofList]
        rfl

theorem significant_of_orphan (orphan : parent? path = none) : significant path = [] := by
  cases begins : significant path with
  | nil => rfl
  | cons first later =>
      simp only [parent?, begins] at orphan
      split at orphan <;> cases orphan

theorem names_without_parent (undotted : "." ∉ names path) (orphan : parent? path = none) :
    names path = [] := by
  rw [← names_significant undotted, significant_of_orphan orphan]
  rfl

/-- A parent starts where the path starts. -/
theorem is_absolute_parent (found : parent? path = some parent) :
    isAbsolute parent = isAbsolute path := by
  cases begins : significant path with
  | nil => simp [parent?, begins] at found
  | cons first later =>
      simp only [parent?, begins] at found
      rw [← begins] at found
      have part : skipEmptyNames ((significant path).dropWhile fun character =>
          !isSlash character) <:+ path.toList.reverse :=
        (skip_suffix _).trans ((List.dropWhile_suffix _).trans (skip_suffix _))
      generalize skipEmptyNames ((significant path).dropWhile fun character =>
        !isSlash character) = rest at found part
      split at found
      · rename_i root
        cases found
        exact (Bool.and_eq_true_iff.mp root).2.symm
      · rename_i notRoot
        cases found
        obtain ⟨behind, whole⟩ := List.reverse_prefix.mpr part
        rw [List.reverse_reverse] at whole
        cases front : rest.reverse with
        | nil =>
            have empty : rest.isEmpty = true := by simpa using front
            rw [empty, Bool.true_and] at notRoot
            exact (Bool.eq_false_iff.mpr notRoot).symm
        | cons character others =>
            rw [isAbsolute, isAbsolute, ← whole, String.toList_ofList, front]
            rfl

theorem name_nonempty {name : String} (member : name ∈ names path) : name ≠ "" := by
  obtain ⟨piece, _, named⟩ := List.mem_filterMap.mp member
  unfold nameOf? at named
  split at named
  · cases named
  · rename_i nonempty
    cases named
    simpa using nonempty

theorem is_absolute_join (base : String) {name : String} (isName : IsName name) :
    isAbsolute (join base name) = isAbsolute base := by
  unfold join
  rw [is_absolute_name isName, if_neg Bool.false_ne_true]
  by_cases empty : base = ""
  · subst empty
    exact is_absolute_name isName
  have nonempty : base.toList ≠ [] := by simpa using empty
  obtain ⟨first, later, starts⟩ := List.exists_cons_of_ne_nil nonempty
  split <;> simp [isAbsolute, starts]

theorem is_absolute_with_file_name (path : String) {name : String} (isName : IsName name) :
    isAbsolute (withFileName path name) = isAbsolute path := by
  unfold withFileName
  cases found : fileName? path with
  | none => exact is_absolute_join path isName
  | some last =>
      cases above : parent? path with
      | some parent => exact (is_absolute_join parent isName).trans (is_absolute_parent above)
      | none =>
          have nothing := significant_of_orphan above
          simp [fileName?, lastName, nothing] at found

theorem file_name_of_parent (straight : IsStraight path) (found : parent? path = some parent) :
    fileName? path = some (lastName path) := by
  have last : lastName path ∈ names path := by simp [names_of_parent straight.notHere found]
  have nonempty := name_nonempty last
  have notHere : lastName path ≠ "." := fun same => straight.notHere (same ▸ last)
  have notAbove : lastName path ≠ ".." := fun same => straight.notAbove (same ▸ last)
  simp [fileName?, nonempty, notHere, notAbove]

/-- The last name makes place for the other one. -/
theorem names_with_file_name (straight : IsStraight path) {name : String}
    (isName : IsName name) : names (withFileName path name) = (names path).dropLast ++ [name] := by
  unfold withFileName
  cases above : parent? path with
  | none =>
      have nothing := significant_of_orphan above
      have nameless : fileName? path = none := by simp [fileName?, lastName, nothing]
      rw [nameless, names_join path isName, names_without_parent straight.notHere above]
      rfl
  | some parent =>
      rw [file_name_of_parent straight above, names_of_parent straight.notHere above,
        List.dropLast_concat]
      exact names_join parent isName

theorem parent_is_above (straight : IsStraight path) (found : parent? path = some parent) :
    IsAbove parent path :=
  ⟨is_absolute_parent found, [lastName path], List.cons_ne_nil _ _,
    names_of_parent straight.notHere found⟩

namespace IsAbove

variable {higher : String}

theorem trans (above : IsAbove higher parent) (further : IsAbove parent path) :
    IsAbove higher path := by
  obtain ⟨later, nonempty, whole⟩ := above.names
  obtain ⟨last, _, longer⟩ := further.names
  refine ⟨above.start.trans further.start, later ++ last, by simp [nonempty], ?_⟩
  rw [longer, whole, List.append_assoc]

theorem straight (above : IsAbove higher path) (straight : IsStraight path) :
    IsStraight higher := by
  obtain ⟨later, _, whole⟩ := above.names
  constructor
  · intro dot
    exact straight.notHere (whole ▸ List.mem_append_left _ dot)
  · intro dots
    exact straight.notAbove (whole ▸ List.mem_append_left _ dots)

end IsAbove

end Path

/-! ### Names of block files -/

namespace BlockFile

theorem file_name_to_list (number : UInt64) :
    (fileName number).toList =
      List.replicate (36 - (toString number).length) '0' ++
        (Nat.toDigits 10 number.toNat ++ ".blk".toList) := by
  have digits : (toString number).toList = Nat.toDigits 10 number.toNat := Nat.toList_repr
  rw [fileName, Decimal.padLeft, String.toList_append, String.toList_append,
    String.toList_ofList, digits, List.append_assoc]

/-- The digits in front of the name are those of the number. -/
theorem file_name_value (number : UInt64) :
    Nat.ofDigitChars 10 ((fileName number).toList.take ((fileName number).length - 4)) 0 =
      number.toNat := by
  have size : (fileName number).length - 4 =
      (List.replicate (36 - (toString number).length) '0' ++
        Nat.toDigits 10 number.toNat).length := by
    rw [← String.length_toList, file_name_to_list, ← List.append_assoc, List.length_append]
    exact Nat.add_sub_cancel _ 4
  rw [size, file_name_to_list, ← List.append_assoc, List.take_left, Nat.ofDigitChars_append,
    Nat.ofDigitChars_replicate_zero, Nat.mul_zero, Nat.ofDigitChars_ten_toDigits]

/-- Every block has a file of its own. -/
theorem file_name_injective {first second : UInt64} (same : fileName first = fileName second) :
    first = second := by
  apply UInt64.toNat_inj.mp
  rw [← file_name_value first, same, file_name_value]

/-- As many digits stand for fewer than so many powers of ten. -/
theorem of_digit_chars_lt {digits : List Char} (isDigits : ∀ digit ∈ digits, digit.isDigit) :
    Nat.ofDigitChars 10 digits 0 < 10 ^ digits.length := by
  induction digits with
  | nil => simp
  | cons digit later inductive_hypothesis =>
      have small := Char.isDigit_iff_toNat.mp (isDigits digit (by simp))
      have rest := inductive_hypothesis fun other member => isDigits other (by simp [member])
      have nine : '9'.toNat = 57 := rfl
      have zero : '0'.toNat = 48 := rfl
      rw [Nat.ofDigitChars_cons, Nat.ofDigitChars_eq_ofDigitChars_zero, List.length_cons,
        Nat.pow_succ]
      have bounded : digit.toNat - '0'.toNat ≤ 9 := by omega
      calc 10 ^ later.length * (10 * 0 + (digit.toNat - '0'.toNat)) + Nat.ofDigitChars 10 later 0
          ≤ 10 ^ later.length * 9 + Nat.ofDigitChars 10 later 0 := by
            rw [Nat.mul_zero, Nat.zero_add]
            exact Nat.add_le_add_right (Nat.mul_le_mul_left _ bounded) _
        _ < 10 ^ later.length * 10 := by omega

/-- Texts with equally many digits in front are ordered as the digits count. -/
theorem lt_of_of_digit_chars_lt {first second : List Char} (rest : List Char)
    (size : first.length = second.length) (firstDigits : ∀ digit ∈ first, digit.isDigit)
    (secondDigits : ∀ digit ∈ second, digit.isDigit)
    (counted : Nat.ofDigitChars 10 first 0 < Nat.ofDigitChars 10 second 0) :
    first ++ rest < second ++ rest := by
  induction first generalizing second with
  | nil =>
      rw [List.length_eq_zero_iff.mp size.symm] at counted
      exact absurd counted (Nat.lt_irrefl _)
  | cons digit later inductive_hypothesis =>
      obtain _ | ⟨other, others⟩ := second
      · cases size
      have least := (Char.isDigit_iff_toNat.mp (firstDigits digit (by simp))).1
      have otherLeast := (Char.isDigit_iff_toNat.mp (secondDigits other (by simp))).1
      have laterDigits : ∀ digit ∈ later, digit.isDigit :=
        fun digit member => firstDigits digit (by simp [member])
      have othersDigits : ∀ digit ∈ others, digit.isDigit :=
        fun digit member => secondDigits digit (by simp [member])
      have same : later.length = others.length := Nat.succ.inj size
      rw [Nat.ofDigitChars_cons, Nat.ofDigitChars_cons, Nat.ofDigitChars_eq_ofDigitChars_zero,
        @Nat.ofDigitChars_eq_ofDigitChars_zero others, Nat.mul_zero, Nat.zero_add, Nat.zero_add,
        ← same] at counted
      rw [List.cons_append, List.cons_append, List.cons_lt_cons_iff]
      rcases Nat.lt_trichotomy digit.toNat other.toNat with less | equal | more
      · exact .inl (Char.lt_def.mpr (UInt32.lt_iff_toNat_lt.mpr less))
      · have sameDigit : digit = other := Char.toNat_inj.mp equal
        rw [sameDigit] at counted
        exact .inr ⟨sameDigit, inductive_hypothesis same laterDigits othersDigits
          (Nat.lt_of_add_lt_add_left counted)⟩
      · -- a greater digit in front outweighs all the others
        have bound := of_digit_chars_lt othersDigits
        rw [← same] at bound
        have greater : other.toNat - '0'.toNat + 1 ≤ digit.toNat - '0'.toNat := by omega
        have weighed := Nat.mul_le_mul_left (10 ^ later.length) greater
        rw [Nat.mul_succ] at weighed
        omega

theorem file_name_digits (number : UInt64) : ∃ digits,
    (fileName number).toList = digits ++ ".blk".toList ∧ digits.length = 36 ∧
      (∀ digit ∈ digits, digit.isDigit) ∧ Nat.ofDigitChars 10 digits 0 = number.toNat := by
  have size : (toString number).length = (Nat.toDigits 10 number.toNat).length := by
    rw [← String.length_toList]
    exact congrArg List.length Nat.toList_repr
  have short : (Nat.toDigits 10 number.toNat).length ≤ 36 := by
    rw [Nat.length_toDigits_le_iff (by decide) (by decide)]
    have word := number.toNat_lt
    omega
  refine ⟨List.replicate (36 - (toString number).length) '0' ++ Nat.toDigits 10 number.toNat,
    ?_, ?_, ?_, ?_⟩
  · rw [file_name_to_list, List.append_assoc]
  · rw [List.length_append, List.length_replicate, size]
    omega
  · intro digit member
    rcases List.mem_append.mp member with padding | own
    · rw [List.eq_of_mem_replicate padding]
      rfl
    · exact Nat.isDigit_of_mem_toDigits (by decide) (by decide) own
  · rw [Nat.ofDigitChars_append, Nat.ofDigitChars_replicate_zero, Nat.mul_zero,
      Nat.ofDigitChars_ten_toDigits]

theorem file_name_lt {first second : UInt64} (before : first < second) :
    fileName first < fileName second := by
  obtain ⟨digits, named, size, isDigits, counted⟩ := file_name_digits first
  obtain ⟨others, otherNamed, otherSize, areDigits, otherCounted⟩ := file_name_digits second
  rw [String.lt_iff, named, otherNamed]
  apply lt_of_of_digit_chars_lt _ (size.trans otherSize.symm) isDigits areDigits
  rw [counted, otherCounted]
  exact UInt64.lt_iff_toNat_lt.mp before

/-- Names sort as the numbers that they stand for. -/
theorem file_name_lt_iff (first second : UInt64) :
    fileName first < fileName second ↔ first < second := by
  refine ⟨fun before => ?_, file_name_lt⟩
  rcases Nat.lt_trichotomy first.toNat second.toNat with less | same | more
  · exact UInt64.lt_iff_toNat_lt.mpr less
  · rw [UInt64.toNat_inj.mp same] at before
    exact absurd before (String.lt_irrefl _)
  · have after := file_name_lt (UInt64.lt_iff_toNat_lt.mpr more)
    exact absurd (String.lt_trans before after) (String.lt_irrefl _)

theorem file_name_last (number : UInt64) : (fileName number).toList.getLast? = some 'k' := by
  rw [file_name_to_list, ← List.append_assoc, List.getLast?_append]
  rfl

theorem file_name_is_name (number : UInt64) : Path.IsName (fileName number) where
  nonempty := by
    intro empty
    have last := file_name_last number
    rw [empty] at last
    cases last
  plain := by
    intro character member
    rw [file_name_to_list] at member
    simp only [List.mem_append, List.mem_replicate] at member
    rcases member with ⟨_, rfl⟩ | digit | ending
    · rfl
    · have isDigit := Nat.isDigit_of_mem_toDigits (by decide) (by decide) digit
      cases slash : Path.isSlash character with
      | false => rfl
      | true =>
          have same : character = '/' := by simpa [Path.isSlash] using slash
          rw [same] at isDigit
          contradiction
    · have plain : (".blk".toList.all fun other => !Path.isSlash other) = true := by decide
      simpa using List.all_eq_true.mp plain character ending

theorem last_name_path (directory : String) (number : UInt64) :
    (Path.names (path directory number)).getLast? = some (fileName number) :=
  Path.last_name_join directory (file_name_is_name number)

theorem path_injective (directory : String) {first second : UInt64}
    (same : path directory first = path directory second) : first = second := by
  have last := last_name_path directory first
  rw [same, last_name_path, Option.some.injEq] at last
  exact file_name_injective last.symm

/-- A path that ends in the name of no block file. -/
def IsElsewhere (path : String) : Prop :=
  ∀ number, (Path.names path).getLast? ≠ some (fileName number)

end BlockFile

namespace StateFile

/-- The name of the temporary file. -/
def temporaryName (path : String) : String := (Path.fileName? path).getD "" ++ ".tmp"

variable {path : String}

theorem temporary_name_is_name (path : String) : Path.IsName (temporaryName path) where
  nonempty := by
    intro empty
    have sizes := congrArg String.length empty
    rw [temporaryName, String.length_append] at sizes
    exact Nat.succ_ne_zero _ sizes
  plain := by
    intro character member
    rw [temporaryName, String.toList_append, List.mem_append] at member
    rcases member with front | ending
    · cases found : Path.fileName? path with
      | none => simp [found] at front
      | some name =>
          rw [found] at front
          exact Path.file_name_plain found character front
    · have plain : (".tmp".toList.all fun other => !Path.isSlash other) = true := by decide
      simpa using List.all_eq_true.mp plain character ending

theorem last_name_temporary (path : String) :
    (Path.names (temporaryPath path)).getLast? = some (temporaryName path) :=
  Path.last_name_with_file_name path (temporary_name_is_name path)

/-- The temporary file is beside the checkpoint. -/
theorem names_temporary (straight : Path.IsStraight path) :
    Path.names (temporaryPath path) = (Path.names path).dropLast ++ [temporaryName path] :=
  Path.names_with_file_name straight (temporary_name_is_name path)

theorem temporary_name_length (path : String) :
    (temporaryName path).length = ((Path.fileName? path).getD "").length + 4 :=
  String.length_append _ _

theorem temporary_straight (straight : Path.IsStraight path) :
    Path.IsStraight (temporaryPath path) := by
  have size := temporary_name_length path
  have absent : ∀ {name : String}, name.length < 4 → name ∉ Path.names path →
      name ∉ Path.names (temporaryPath path) := by
    intro name short apart member
    rw [names_temporary straight, List.mem_append, List.mem_singleton] at member
    rcases member with before | rfl
    · exact apart (List.dropLast_subset _ before)
    · omega
  exact ⟨absent (by decide) straight.notHere, absent (by decide) straight.notAbove⟩

/-- What leads to the checkpoint does not lead through the temporary file. -/
theorem temporary_beside (straight : Path.IsStraight path) :
    Path.IsBeside (temporaryPath path) path := by
  refine ⟨Path.is_absolute_with_file_name path (temporary_name_is_name path), ?_⟩
  rw [names_temporary straight]
  cases above : Path.parent? path with
  | none => simp [Path.names_without_parent straight.notHere above]
  | some parent =>
      have size := temporary_name_length path
      rw [Path.file_name_of_parent straight above, Option.getD_some] at size
      rw [Path.names_of_parent straight.notHere above, List.dropLast_concat,
        List.prefix_append_right_inj]
      intro same
      have equal : temporaryName path = Path.lastName path := by simpa using same
      rw [equal] at size
      omega

/-- No block file is called like a temporary file. -/
theorem temporary_name_apart (path : String) (number : UInt64) :
    temporaryName path ≠ BlockFile.fileName number := by
  intro same
  have last := BlockFile.file_name_last number
  rw [← same, temporaryName, String.toList_append, List.getLast?_append] at last
  cases last

end StateFile
end ProvenBlocks
