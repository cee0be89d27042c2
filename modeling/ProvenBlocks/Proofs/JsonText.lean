import Mathlib.Data.List.TakeDrop
import ProvenBlocks.Checkpoint.Json
import ProvenBlocks.Json.Parser

/-!
Reading JSON text undoes writing it, in either layout. This holds of plain values: integers, and
texts that are Unicode. What follows a value must not go on with a number.
-/

namespace ProvenBlocks

def Literal.IsRegular : Literal → Prop
  | .regular _ => True
  | .irregular _ _ => False

namespace Json

/-! ### Texts -/

/-- How a written character is read. -/
def pieceOf (character : Char) : Piece :=
  if character = '"' ∨ character = '\\' ∨ character.toNat < 0x20 then .escape character.toNat
  else .raw character

theorem hex_value_digit {value : Nat} (below : value < 16) :
    hexValue (hexDigit value) = some value := by
  have all : ∀ digit < 16, hexValue (hexDigit digit) = some digit := by decide
  exact all value below

theorem hex_unit_control {code : Nat} (below : code < 256) :
    hexUnit '0' '0' (hexDigit (code / 16)) (hexDigit (code % 16)) = some code := by
  have zero : hexValue '0' = some 0 := rfl
  simp only [hexUnit, zero, hex_value_digit (show code / 16 < 16 by omega),
    hex_value_digit (Nat.mod_lt code (by decide))]
  simp only [bind, Option.bind, Option.some.injEq]
  omega

/-- A backslash and a letter are read as what they stand for. -/
theorem literal_pieces_short (seen : List Piece) {letter character : Char} (other : letter ≠ 'u')
    (short : shortEscape letter = some character) (rest : List Char) :
    literalPieces seen ('\\' :: letter :: rest) =
      literalPieces (.escape character.toNat :: seen) rest := by
  rw [literalPieces.eq_4 _ _ _ fun _ _ _ _ _ same _ => other same, short]

theorem literal_pieces_char (seen : List Piece) (character : Char) (rest : List Char) :
    literalPieces seen (escapedChar character ++ rest) =
      literalPieces (pieceOf character :: seen) rest := by
  unfold escapedChar
  split
  case h_8 notQuote notSlash _ _ _ _ _ =>
    by_cases control : character.toNat < 0x20
    · have escaped : pieceOf character = .escape character.toNat := if_pos (by simp [control])
      rw [if_pos control, escaped]
      simp only [List.cons_append, List.nil_append, literalPieces]
      rw [hex_unit_control (by omega)]
    · have raw : pieceOf character = .raw character :=
        if_neg (by simpa [control] using ⟨notQuote, notSlash⟩)
      rw [if_neg control, raw, List.singleton_append]
      exact literalPieces.eq_5 _ _ _ notQuote (fun _ _ _ _ _ same _ => notSlash same)
        fun _ _ same _ => notSlash same
  all_goals exact literal_pieces_short seen (by decide) rfl rest

theorem literal_pieces_print (seen : List Piece) (content : List Char) (rest : List Char) :
    literalPieces seen
        (content.foldr (fun character after => escapedChar character ++ after) ('"' :: rest)) =
      some (seen.reverse ++ content.map pieceOf, rest) := by
  induction content generalizing seen with
  | nil => simp [literalPieces]
  | cons character later inductive_hypothesis =>
      rw [List.foldr_cons, literal_pieces_char, inductive_hypothesis]
      simp

theorem piece_of_escape {character : Char} {unit : Nat} (piece : pieceOf character = .escape unit) :
    unit = character.toNat ∧ unit < 0x80 := by
  unfold pieceOf at piece
  split at piece
  · rename_i escaped
    cases piece
    refine ⟨rfl, ?_⟩
    rcases escaped with rfl | rfl | control
    · decide
    · decide
    · omega
  · cases piece

theorem mark_of_small {character : Char} (small : character.toNat < 0x80) :
    markOf character.toNat = .scalar character := by
  have plain : (isHigh character.toNat || isLow character.toNat) = false := by
    simp only [isHigh, isLow, Bool.or_eq_false_iff, Bool.and_eq_false_iff, decide_eq_false_iff_not]
    omega
  rw [markOf, if_neg (by simp [plain]), Char.ofNat_toNat]

/-- Escapes below the surrogates stand for themselves. -/
theorem join_pieces_cons (seen : List Mark) (character : Char) (pieces : List Piece) :
    joinPieces seen (pieceOf character :: pieces) =
      joinPieces (.scalar character :: seen) pieces := by
  cases piece : pieceOf character with
  | raw other =>
      have same : other = character := by
        unfold pieceOf at piece
        split at piece <;> cases piece
        rfl
      rw [same, joinPieces]
  | escape unit =>
      obtain ⟨rfl, small⟩ := piece_of_escape piece
      have single : (isHigh character.toNat) = false := by
        simp only [isHigh, Bool.and_eq_false_iff, decide_eq_false_iff_not]
        omega
      cases pieces with
      | nil => rw [joinPieces.eq_3 _ _ _ (by simp), mark_of_small small]
      | cons next later =>
          cases next with
          | raw other => rw [joinPieces.eq_3 _ _ _ (by simp), mark_of_small small]
          | escape low =>
              rw [joinPieces.eq_2, single, Bool.false_and, if_neg Bool.false_ne_true,
                mark_of_small small]

theorem join_pieces_map (seen : List Mark) (content : List Char) :
    joinPieces seen (content.map pieceOf) = seen.reverse ++ content.map Mark.scalar := by
  induction content generalizing seen with
  | nil => simp [joinPieces]
  | cons character later inductive_hypothesis =>
      rw [List.map_cons, join_pieces_cons, inductive_hypothesis]
      simp

theorem literal_of_written (content : List Char) :
    literalOfPieces (content.map pieceOf) = .regular (String.ofList content) := by
  have uncontrolled : (content.map pieceOf).any Piece.isRawControl = false := by
    rw [List.any_eq_false]
    intro piece member
    obtain ⟨character, _, rfl⟩ := List.mem_map.mp member
    unfold pieceOf
    split
    · exact Bool.false_ne_true
    · rename_i raw
      simp only [not_or] at raw
      simp [Piece.isRawControl, raw.2.2]
  have scalars : (content.map Mark.scalar).filterMap Mark.scalar? = content := by
    rw [List.filterMap_map]
    exact List.filterMap_some
  simp only [literalOfPieces, join_pieces_map, List.reverse_nil, List.nil_append, uncontrolled,
    scalars]
  simp

theorem literal_print (content : String) (rest : List Char) :
    literal (content.toList.foldr (fun character after => escapedChar character ++ after)
      ('"' :: rest)) = some (.regular content, rest) := by
  simp only [literal, literal_pieces_print]
  simp [literal_of_written]

/-! ### Integers -/

/-- What follows does not go on with a number. -/
def Ends (rest : List Char) : Prop :=
  ∀ character, rest.head? = some character →
    isDigit character = false ∧ character ≠ '.' ∧ character ≠ 'e' ∧ character ≠ 'E'

theorem ends_nil : Ends [] := fun _ none => by cases none

theorem digit_of_to_digits {value : Nat} {character : Char}
    (member : character ∈ Nat.toDigits 10 value) : isDigit character = true := by
  have digit := Nat.isDigit_of_mem_toDigits (by decide) (by decide) member
  simp only [Char.isDigit, Bool.and_eq_true, decide_eq_true_eq] at digit
  simp only [isDigit, Bool.and_eq_true, decide_eq_true_eq]
  exact digit

theorem to_digits_no_zero {value : Nat} (positive : 0 < value) :
    (Nat.toDigits 10 value).head? ≠ some '0' := by
  induction value using Nat.strongRecOn with
  | ind value inductive_hypothesis =>
      by_cases single : value < 10
      · have all : ∀ digit < 10, 0 < digit → digit.digitChar ≠ '0' := by decide
        rw [Nat.toDigits_of_lt_base single, List.head?_cons, ne_eq, Option.some.injEq]
        exact all value single positive
      · have fewer := inductive_hypothesis (value / 10) (by omega) (by omega)
        obtain ⟨first, leading⟩ : ∃ first, (Nat.toDigits 10 (value / 10)).head? = some first :=
          ⟨_, List.head?_eq_some_head Nat.toDigits_ne_nil⟩
        rw [leading] at fewer
        rw [Nat.toDigits_of_base_le (by decide) (by omega), List.head?_append, leading]
        exact fewer

theorem span_digits (value : Nat) {rest : List Char} (ends : Ends rest) :
    (Nat.toDigits 10 value ++ rest).span isDigit = (Nat.toDigits 10 value, rest) := by
  have stopped : rest.takeWhile isDigit = [] ∧ rest.dropWhile isDigit = rest := by
    cases rest with
    | nil => exact ⟨rfl, rfl⟩
    | cons character later =>
        have other := (ends character rfl).1
        simp [other]
  rw [List.span_eq_takeWhile_dropWhile,
    List.takeWhile_append_of_pos fun character => digit_of_to_digits,
    List.dropWhile_append_of_pos fun character => digit_of_to_digits, stopped.1, stopped.2,
    List.append_nil]

theorem whole_digits (value : Nat) {rest : List Char} (ends : Ends rest) :
    wholeDigits (Nat.toDigits 10 value ++ rest) = some (Nat.toDigits 10 value, rest) := by
  rw [wholeDigits, span_digits value ends]
  rcases Nat.eq_zero_or_pos value with rfl | positive
  · rfl
  have leading := to_digits_no_zero positive
  have nonempty : Nat.toDigits 10 value ≠ [] := Nat.toDigits_ne_nil
  generalize Nat.toDigits 10 value = digits at leading nonempty
  split
  · simp_all
  · simp_all
  · simp_all
  · rename_i same
    rw [same]

theorem number_tail {rest : List Char} (ends : Ends rest) :
    numberTail rest = some (false, rest) := by
  cases rest with
  | nil => rfl
  | cons character later =>
      obtain ⟨_, point, lower, upper⟩ := ends character rfl
      unfold numberTail
      split
      · rename_i same
        cases same
        exact absurd rfl point
      · simp [lower, upper]

theorem unsigned_number_print (value : Nat) {rest : List Char} (ends : Ends rest) :
    unsignedNumber false (Nat.toDigits 10 value ++ rest) = some (.integer value, rest) := by
  simp [unsignedNumber, whole_digits value ends, number_tail ends, Nat.ofDigitChars_ten_toDigits]

theorem negative_number_print {value : Nat} (positive : 0 < value) {rest : List Char}
    (ends : Ends rest) :
    unsignedNumber true (Nat.toDigits 10 value ++ rest) = some (.integer (-value), rest) := by
  simp [unsignedNumber, whole_digits value ends, number_tail ends, Nat.ofDigitChars_ten_toDigits]
  omega

/-! ### Values -/

mutual

/-- Integers are the only numbers, and all texts are Unicode. -/
def IsPlain : Json → Prop
  | .null | .bool _ | .integer _ => True
  | .otherNumber => False
  | .text literal => literal.IsRegular
  | .array elements => ArePlain elements
  | .object members => AreMembersPlain members

def ArePlain : List Json → Prop
  | [] => True
  | element :: later => IsPlain element ∧ ArePlain later

def AreMembersPlain : List (Literal × Json) → Prop
  | [] => True
  | (name, value) :: later => name.IsRegular ∧ IsPlain value ∧ AreMembersPlain later

end

mutual

/-- As much fuel as reading a value takes. -/
def weight : Json → Nat
  | .null | .bool _ | .integer _ | .otherNumber | .text _ => 1
  | .array elements => 1 + weights elements
  | .object members => 1 + memberWeights members

def weights : List Json → Nat
  | [] => 0
  | element :: later => 1 + weight element + weights later

def memberWeights : List (Literal × Json) → Nat
  | [] => 0
  | (_, value) :: later => 1 + weight value + memberWeights later

end

theorem skip_blanks_of_head {character : Char} (solid : isBlank character = false)
    (rest : List Char) : skipBlanks (character :: rest) = character :: rest := by
  rw [skipBlanks, solid, if_neg Bool.false_ne_true]

theorem skip_line_break (layout : Layout) (rest : List Char) :
    skipBlanks (layout.lineBreak rest) = skipBlanks rest := by
  cases layout with
  | compact => rfl
  | indented level =>
      have spaces : ∀ count, skipBlanks (List.replicate count ' ' ++ rest) = skipBlanks rest := by
        intro count
        induction count with
        | zero => rfl
        | succ less inductive_hypothesis => exact inductive_hypothesis
      exact spaces _

theorem skip_after_colon (layout : Layout) (rest : List Char) :
    skipBlanks (layout.afterColon rest) = skipBlanks rest := by
  cases layout <;> rfl

@[simp] theorem after_colon_deeper (layout : Layout) (rest : List Char) :
    layout.deeper.afterColon rest = layout.afterColon rest := by
  cases layout <;> rfl

/-- A line break or what stands behind it ends a number. -/
theorem ends_line_break (layout : Layout) {rest : List Char} (ends : Ends rest) :
    Ends (layout.lineBreak rest) := by
  cases layout with
  | compact => exact ends
  | indented level =>
      rintro character ⟨⟩
      decide

theorem ends_of_mark {mark : Char} (among : mark = ',' ∨ mark = ']' ∨ mark = '\x7d')
    (rest : List Char) : Ends (mark :: rest) := by
  rintro character ⟨⟩
  rcases among with rfl | rfl | rfl <;> decide

theorem value_number (fuel : Nat) {input : List Char} {first : Char} {later : List Char}
    (start : skipBlanks input = first :: later) (numeric : isDigit first = true ∨ first = '-') :
    value (fuel + 1) input = number (first :: later) := by
  rw [value, start]
  split
  all_goals first
    | rfl
    | (rename_i same
       cases same
       simp [isDigit] at numeric)

theorem print_integer_start (value : Int) (rest : List Char) :
    ∃ first later, printInteger value rest = first :: later ∧
      (isDigit first = true ∨ first = '-') := by
  unfold printInteger
  split
  · cases digits : Nat.toDigits 10 value.toNat with
    | nil => exact absurd digits Nat.toDigits_ne_nil
    | cons first later =>
        exact ⟨first, later ++ rest, rfl, .inl (digit_of_to_digits (by rw [digits]; simp))⟩
  · exact ⟨'-', _, rfl, .inr rfl⟩

/-- A value starts with neither a blank nor the end of an array. -/
theorem print_start (layout : Layout) (json : Json) (rest : List Char) :
    ∃ first later, print layout json rest = first :: later ∧ isBlank first = false ∧
      first ≠ ']' := by
  cases json with
  | null => exact ⟨'n', _, rfl, rfl, by decide⟩
  | bool value =>
      cases value
      · exact ⟨'f', _, rfl, rfl, by decide⟩
      · exact ⟨'t', _, rfl, rfl, by decide⟩
  | integer value =>
      obtain ⟨first, later, printed, numeric⟩ := print_integer_start value rest
      refine ⟨first, later, by rw [print, printed], ?_, ?_⟩
      · by_contra blank
        rcases numeric with digit | rfl
        · simp only [isBlank, Bool.not_eq_false, Bool.or_eq_true, beq_iff_eq] at blank
          rcases blank with ((rfl | rfl) | rfl) | rfl <;> cases digit
        · cases blank rfl
      · rintro rfl
        rcases numeric with digit | minus
        · cases digit
        · cases minus
  | otherNumber => exact ⟨'0', _, rfl, rfl, by decide⟩
  | text literal => cases literal <;> exact ⟨'"', _, rfl, rfl, by decide⟩
  | array elements => cases elements <;> exact ⟨'[', _, rfl, rfl, by decide⟩
  | object members => cases members <;> exact ⟨'\x7b', _, rfl, rfl, by decide⟩

theorem skip_print (layout : Layout) (json : Json) (rest : List Char) :
    skipBlanks (print layout json rest) = print layout json rest := by
  obtain ⟨first, later, printed, solid, _⟩ := print_start layout json rest
  rw [printed, skip_blanks_of_head solid]

theorem number_print (content : Int) {rest : List Char} (ends : Ends rest) :
    number (printInteger content rest) = some (.integer content, rest) := by
  unfold printInteger
  by_cases positive : 0 ≤ content
  · rw [if_pos positive]
    have whole := unsigned_number_print content.toNat ends
    rw [Int.toNat_of_nonneg positive] at whole
    unfold number
    split
    · rename_i later same
      have minus : '-' ∈ Nat.toDigits 10 content.toNat := by
        cases digits : Nat.toDigits 10 content.toNat with
        | nil => exact absurd digits Nat.toDigits_ne_nil
        | cons first others =>
            rw [digits] at same
            cases same
            exact List.mem_cons_self
      cases digit_of_to_digits minus
    · exact whole
  · rw [if_neg positive]
    have below : 0 < (-content).toNat := by omega
    have whole := negative_number_print below ends
    rw [Int.toNat_of_nonneg (by omega), Int.neg_neg] at whole
    exact whole

theorem ends_elements (layout : Layout) (later : List Json) (rest : List Char) :
    Ends (printElements layout.deeper later (layout.lineBreak (']' :: rest))) := by
  cases later with
  | nil => exact ends_line_break layout (ends_of_mark (by simp) rest)
  | cons element others => exact ends_of_mark (by simp) _

theorem ends_members (layout : Layout) (later : List (Literal × Json)) (rest : List Char) :
    Ends (printMembers layout.deeper later (layout.lineBreak ('\x7d' :: rest))) := by
  cases later with
  | nil => exact ends_line_break layout (ends_of_mark (by simp) rest)
  | cons member others => exact ends_of_mark (by simp) _

theorem skip_closing (layout : Layout) {mark : Char} (solid : isBlank mark = false)
    (rest : List Char) : skipBlanks (layout.lineBreak (mark :: rest)) = mark :: rest := by
  rw [skip_line_break, skip_blanks_of_head solid]

mutual

/-- Reading a value where a printed one starts. -/
theorem value_print (layout : Layout) (json : Json) (plain : json.IsPlain) {fuel : Nat}
    (enough : json.weight ≤ fuel) {input rest : List Char}
    (start : skipBlanks input = print layout json rest) (ends : Ends rest) :
    value fuel input = some (json, rest) := by
  cases fuel with
  | zero => cases json <;> simp only [weight] at enough <;> omega
  | succ fuel =>
      cases json with
      | null => rw [value, start]; rfl
      | bool content => cases content <;> (rw [value, start]; rfl)
      | integer content =>
          obtain ⟨first, later, printed, numeric⟩ := print_integer_start content rest
          rw [value_number fuel (start.trans printed) numeric, ← printed]
          exact number_print content ends
      | otherNumber => exact plain.elim
      | text literal =>
          cases literal with
          | regular content =>
              rw [value, start]
              simp only [print, printLiteral, printText, literal_print]
              rfl
          | irregular => exact plain.elim
      | array elements =>
          cases elements with
          | nil => rw [value, start]; rfl
          | cons element later =>
              rw [weight] at enough
              have fits : weights (element :: later) ≤ fuel := by omega
              have read := elements_print layout element later plain fits [] rest (skip_print _ _ _)
              obtain ⟨first, others, printed, solid, other⟩ := print_start layout.deeper element
                (printElements layout.deeper later (layout.lineBreak (']' :: rest)))
              rw [printed] at read
              simp only [value, start, print, skip_line_break, printed, skip_blanks_of_head solid]
              split
              · rename_i same
                cases same
                exact absurd rfl other
              · exact read
      | object members =>
          cases members with
          | nil => rw [value, start]; rfl
          | cons member later =>
              obtain ⟨name, content⟩ := member
              rw [weight] at enough
              cases name with
              | irregular => exact plain.1.elim
              | regular text =>
                  have fits : memberWeights ((.regular text, content) :: later) ≤ fuel := by omega
                  have quoted : ∀ after, skipBlanks (printText text after) = printText text after :=
                    fun after => skip_blanks_of_head rfl _
                  have read :=
                    members_print layout text content later plain.2 fits [] rest (quoted _)
                  rw [value, start]
                  simp only [print, skip_line_break, printLiteral, quoted]
                  exact read
termination_by fuel

/-- Reading on where the next element starts. -/
theorem elements_print (layout : Layout) (element : Json) (later : List Json)
    (plain : ArePlain (element :: later)) {fuel : Nat}
    (enough : weights (element :: later) ≤ fuel) (seen : List Json) (rest : List Char)
    {input : List Char}
    (start : skipBlanks input = print layout.deeper element
      (printElements layout.deeper later (layout.lineBreak (']' :: rest)))) :
    elements fuel seen input = some (.array (seen.reverse ++ element :: later), rest) := by
  rw [weights] at enough
  cases fuel with
  | zero => omega
  | succ fuel =>
      have fits : element.weight ≤ fuel := by omega
      have read := value_print layout.deeper element plain.1 fits start
        (ends_elements layout later rest)
      rw [elements, read]
      cases later with
      | nil =>
          have closing : skipBlanks (layout.lineBreak (']' :: rest)) = ']' :: rest :=
            skip_closing layout rfl rest
          simp only [printElements, bind, Option.bind]
          rw [closing]
          simp
      | cons next others =>
          have more : weights (next :: others) ≤ fuel := by omega
          have start : ∀ after,
              skipBlanks (layout.deeper.lineBreak (print layout.deeper next after)) =
                print layout.deeper next after := by
            intro after
            rw [skip_line_break, skip_print]
          have onward :=
            elements_print layout next others plain.2 more (element :: seen) rest (start _)
          have comma : ∀ after, skipBlanks (',' :: after) = ',' :: after :=
            fun after => skip_blanks_of_head rfl after
          simp only [printElements, bind, Option.bind]
          rw [comma]
          simp only [onward]
          simp
termination_by fuel

/-- Reading on where the next name starts. -/
theorem members_print (layout : Layout) (name : String) (content : Json)
    (later : List (Literal × Json)) (plain : content.IsPlain ∧ AreMembersPlain later) {fuel : Nat}
    (enough : memberWeights ((.regular name, content) :: later) ≤ fuel)
    (seen : List (Literal × Json)) (rest : List Char) {input : List Char}
    (start : skipBlanks input = printText name (':' :: layout.afterColon
      (print layout.deeper content
        (printMembers layout.deeper later (layout.lineBreak ('\x7d' :: rest)))))) :
    members fuel seen input =
      some (.object (seen.reverse ++ (.regular name, content) :: later), rest) := by
  rw [memberWeights] at enough
  cases fuel with
  | zero => omega
  | succ fuel =>
      have fits : content.weight ≤ fuel := by omega
      have colon : ∀ after, skipBlanks (':' :: after) = ':' :: after :=
        fun after => skip_blanks_of_head rfl after
      have begins : ∀ after, skipBlanks (layout.afterColon (print layout.deeper content after)) =
          print layout.deeper content after := by
        intro after
        rw [skip_after_colon, skip_print]
      have read := value_print layout.deeper content plain.1 fits (begins _)
        (ends_members layout later rest)
      rw [members, start]
      simp only [printText, literal_print, bind, Option.bind]
      rw [colon]
      simp only [read]
      cases later with
      | nil =>
          have closing : skipBlanks (layout.lineBreak ('\x7d' :: rest)) = '\x7d' :: rest :=
            skip_closing layout rfl rest
          simp only [printMembers]
          rw [closing]
          simp
      | cons next others =>
          obtain ⟨nextName, nextContent⟩ := next
          have more : memberWeights ((nextName, nextContent) :: others) ≤ fuel := by omega
          have comma : ∀ after, skipBlanks (',' :: after) = ',' :: after :=
            fun after => skip_blanks_of_head rfl after
          cases nextName with
          | irregular => exact plain.2.1.elim
          | regular text =>
              have quoted : ∀ after, skipBlanks (layout.deeper.lineBreak (printText text after)) =
                  printText text after := by
                intro after
                rw [skip_line_break]
                exact skip_blanks_of_head rfl _
              have onward := members_print layout text nextContent others plain.2.2 more
                ((.regular name, content) :: seen) rest (quoted _)
              simp only [printMembers, printLiteral, after_colon_deeper]
              rw [comma]
              simp only [onward]
              simp
termination_by fuel

end

theorem line_break_le (layout : Layout) (rest : List Char) :
    rest.length ≤ (layout.lineBreak rest).length := by
  cases layout <;> simp [Layout.lineBreak]; omega

theorem after_colon_le (layout : Layout) (rest : List Char) :
    rest.length ≤ (layout.afterColon rest).length := by
  cases layout <;> simp [Layout.afterColon]

theorem text_le (content : String) (rest : List Char) :
    rest.length < (printText content rest).length := by
  have inside : ∀ characters : List Char, rest.length <
      (characters.foldr (fun character after => escapedChar character ++ after)
        ('"' :: rest)).length := by
    intro characters
    induction characters with
    | nil => exact Nat.lt_succ_self _
    | cons character later inductive_hypothesis =>
        rw [List.foldr_cons, List.length_append]
        omega
  exact Nat.lt_succ_of_lt (inside content.toList)

theorem literal_le (literal : Literal) (rest : List Char) :
    rest.length < (printLiteral literal rest).length := by
  cases literal <;> exact text_le _ rest

mutual

theorem weight_le (layout : Layout) (json : Json) (rest : List Char) :
    json.weight + rest.length ≤ (print layout json rest).length := by
  cases json with
  | null => simp [print, weight]; omega
  | bool value => cases value <;> (simp [print, weight]; omega)
  | integer value =>
      have digits : 0 < (Nat.toDigits 10 value.toNat).length :=
        List.length_pos_iff.mpr Nat.toDigits_ne_nil
      simp only [print, weight, printInteger]
      split
      · rw [List.length_append]
        omega
      · rw [List.length_cons, List.length_append]
        omega
  | otherNumber => simp [print, weight]; omega
  | text literal =>
      have longer := literal_le literal rest
      simp only [print, weight]
      omega
  | array elements =>
      cases elements with
      | nil => simp [print, weight, weights]; omega
      | cons first later =>
          have head := weight_le layout.deeper first
            (printElements layout.deeper later (layout.lineBreak (']' :: rest)))
          have tail := weights_le layout.deeper later (layout.lineBreak (']' :: rest))
          have before := line_break_le layout.deeper (print layout.deeper first
            (printElements layout.deeper later (layout.lineBreak (']' :: rest))))
          have after := line_break_le layout (']' :: rest)
          simp only [print, weight, weights, List.length_cons] at after ⊢
          omega
  | object members =>
      cases members with
      | nil => simp [print, weight, memberWeights]; omega
      | cons member later =>
          obtain ⟨name, content⟩ := member
          have content_le := weight_le layout.deeper content
            (printMembers layout.deeper later (layout.lineBreak ('\x7d' :: rest)))
          have tail := member_weights_le layout.deeper later (layout.lineBreak ('\x7d' :: rest))
          have after := line_break_le layout ('\x7d' :: rest)
          have colon := after_colon_le layout (print layout.deeper content
            (printMembers layout.deeper later (layout.lineBreak ('\x7d' :: rest))))
          have named := literal_le name (':' :: layout.afterColon (print layout.deeper content
            (printMembers layout.deeper later (layout.lineBreak ('\x7d' :: rest)))))
          have before := line_break_le layout.deeper (printLiteral name (':' :: layout.afterColon
            (print layout.deeper content
              (printMembers layout.deeper later (layout.lineBreak ('\x7d' :: rest))))))
          simp only [print, weight, memberWeights, List.length_cons] at after named ⊢
          omega

theorem weights_le (layout : Layout) (elements : List Json) (rest : List Char) :
    weights elements + rest.length ≤ (printElements layout elements rest).length := by
  cases elements with
  | nil => simp [weights, printElements]
  | cons element later =>
      have head := weight_le layout element (printElements layout later rest)
      have tail := weights_le layout later rest
      have before := line_break_le layout (print layout element (printElements layout later rest))
      simp only [weights, printElements, List.length_cons]
      omega

theorem member_weights_le (layout : Layout) (members : List (Literal × Json))
    (rest : List Char) :
    memberWeights members + rest.length ≤ (printMembers layout members rest).length := by
  cases members with
  | nil => simp [memberWeights, printMembers]
  | cons member later =>
      obtain ⟨name, content⟩ := member
      have head := weight_le layout content (printMembers layout later rest)
      have tail := member_weights_le layout later rest
      have colon := after_colon_le layout (print layout content (printMembers layout later rest))
      have named := literal_le name
        (':' :: layout.afterColon (print layout content (printMembers layout later rest)))
      have before := line_break_le layout (printLiteral name
        (':' :: layout.afterColon (print layout content (printMembers layout later rest))))
      simp only [memberWeights, printMembers, List.length_cons] at named ⊢
      omega

end

/-- The text of a plain value is that of no other, in either layout. -/
theorem parse_print (layout : Layout) {json : Json} (plain : json.IsPlain) :
    parseChars (print layout json []) = some json := by
  have enough : json.weight ≤ (print layout json []).length + 1 := by
    have fits := weight_le layout json []
    rw [List.length_nil] at fits
    omega
  have read := value_print layout json plain enough (skip_print layout json []) ends_nil
  simp [parseChars, read, skipBlanks]

/-! ### Plain schemas -/

theorem are_plain_iff {elements : List Json} :
    ArePlain elements ↔ ∀ element ∈ elements, element.IsPlain := by
  induction elements with
  | nil => simp [ArePlain]
  | cons element later inductive_hypothesis => simp [ArePlain, inductive_hypothesis]

theorem are_plain_append {elements more : List Json} (plain : ArePlain elements)
    (others : ArePlain more) : ArePlain (elements ++ more) := by
  rw [are_plain_iff] at plain others ⊢
  intro element member
  rcases List.mem_append.mp member with first | second
  · exact plain element first
  · exact others element second

theorem members_of_plain (names : List String) {values : List Json} (plain : ArePlain values) :
    AreMembersPlain (membersOf names values) := by
  induction names generalizing values with
  | nil => exact trivial
  | cons name later inductive_hypothesis =>
      cases values with
      | nil => exact trivial
      | cons value others => exact ⟨trivial, plain.1, inductive_hypothesis plain.2⟩

end Json

/-- Whatever is written is plain. -/
def Schema.WritesPlainly {α : Type} (schema : Schema α) : Prop :=
  ∀ value, (schema.write value).IsPlain

def Fields.WritePlainly {α : Type} (fields : Fields α) : Prop :=
  ∀ value, Json.ArePlain (fields.write value)

section

variable {α β : Type}

theorem Schema.list_plain {schema : Schema α} (plain : schema.WritesPlainly) :
    (Schema.list schema).WritesPlainly := by
  intro values
  apply Json.are_plain_iff.mpr
  intro element member
  obtain ⟨value, _, rfl⟩ := List.mem_map.mp member
  exact plain value

theorem Schema.digest_plain : Schema.digest.WritesPlainly := by
  have bytes : Schema.byte.WritesPlainly := fun _ => trivial
  exact fun value => Schema.list_plain bytes value.bytes

theorem Fields.required_plain (name : String) {schema : Schema α} (plain : schema.WritesPlainly) :
    (Fields.required name schema).WritePlainly :=
  fun value => ⟨plain value, trivial⟩

theorem Fields.optional_plain (name : String) {schema : Schema α} (visible : schema.Visible)
    (plain : schema.WritesPlainly) : (Fields.optional name schema visible).WritePlainly := by
  intro value
  cases value with
  | none => exact ⟨trivial, trivial⟩
  | some content => exact ⟨plain content, trivial⟩

theorem Fields.pair_plain {first : Fields α} {second : Fields β} (plain : first.WritePlainly)
    (others : second.WritePlainly) : (first.pair second).WritePlainly :=
  fun value => Json.are_plain_append (plain value.1) (others value.2)

theorem Fields.record_plain {fields : Fields α} (plain : fields.WritePlainly) (make : α → β)
    (parts : β → α) (distinct : fields.names.Nodup)
    (make_parts : ∀ value, make (parts value) = value) :
    (fields.record make parts distinct make_parts).WritesPlainly :=
  fun value => Json.members_of_plain fields.names (plain (parts value))

theorem Schema.instant_plain : Schema.instant.WritesPlainly := by
  apply Fields.record_plain
  apply Fields.pair_plain
  · exact Fields.required_plain _ fun _ => trivial
  · exact Fields.required_plain _ fun _ => trivial

theorem Schema.checkpoint_plain : Schema.checkpoint.WritesPlainly := by
  apply Fields.record_plain
  apply Fields.pair_plain
  · exact Fields.optional_plain _ _ fun _ => trivial
  apply Fields.pair_plain
  · exact Fields.optional_plain _ _ Schema.instant_plain
  apply Fields.pair_plain
  · exact Fields.required_plain _ (Schema.list_plain Schema.digest_plain)
  · exact Fields.required_plain _ (Schema.list_plain Schema.digest_plain)

/-- What a plain schema writes is read back from its text. -/
theorem Schema.read_text {schema : Schema α} (plain : schema.WritesPlainly) (layout : Json.Layout)
    (value : α) :
    (Json.parseChars (Json.print layout (schema.write value) [])).bind schema.read =
      some value := by
  rw [Json.parse_print layout (plain value)]
  exact schema.read_write value

end

end ProvenBlocks
