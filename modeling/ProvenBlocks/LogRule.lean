import ProvenBlocks.Decimal.Number
import ProvenBlocks.Decimal.Whole
import ProvenBlocks.LogEvent
import ProvenBlocks.LogSettings
import ProvenBlocks.Pattern
import ProvenBlocks.Text.Place

/-!
Rules of a log filter, each read from one word: a level for all targets, a target with its level,
or a target alone for all of its events. In brackets a rule may name a span and a field, perhaps
with the field's value. Events here belong to no span and show no values, so that of the rules with
brackets only those with nothing but the name of a field say anything about events.
-/

namespace ProvenBlocks

/-- Events up to the rank pass; a rank of zero lets none pass. -/
structure LogRule where
  target : String
  field : Option String
  rank : Nat
  deriving DecidableEq

/-- Why a rule cannot be read. -/
inductive RuleFault where
  | malformed
  | unknownLevel
  | unknownValue (fault : PatternFault)
  | inside (place : Text.InsideCharacter)

namespace LogRule

def rankNames : List (String × Nat) :=
  [("off", 0), ("error", 1), ("warn", 2), ("info", 3), ("debug", 4), ("trace", 5)]

/-- Ranks have names and numbers. -/
def rank? (word : String) : Option Nat :=
  match Decimal.readWhole 6 word.toList with
  | .ok rank => some rank
  | .error _ => rankNames.lookup (asciiLower word)

/-- The target of an event begins with that of the rule, and the event has the field. -/
def covers (rule : LogRule) (event : LogEvent) : Bool :=
  rule.target.toList.isPrefixOf event.target.toList && rule.field.all event.hasField

/-- Of two rules that cover an event, the one with the longer target decides; then the one with a
field, by the order of fields; then the later one. -/
def refine (chosen later : LogRule) : LogRule :=
  let name := fun (rule : LogRule) => rule.field.getD ""
  if later.target.length < chosen.target.length then chosen
  else if chosen.target.length < later.target.length then later
  else if name later < name chosen then chosen
  else later

/-- One of the two rules decides. -/
theorem refine_eq_or (chosen later : LogRule) :
    chosen.refine later = chosen ∨ chosen.refine later = later := by
  simp only [refine]
  split
  · exact Or.inl rfl
  · split
    · exact Or.inr rfl
    · split
      · exact Or.inl rfl
      · exact Or.inr rfl

end LogRule

/-- The places of a rule's parts are counted in its word without the blanks around it, but the
parts are taken from the word with them. -/
structure RuleWord where
  content : List Char

namespace RuleWord

def part (word : RuleWord) (first last : Nat) : Except RuleFault String :=
  match Text.between first last word.content with
  | .ok part => .ok (String.ofList part)
  | .error fault => .error (.inside fault)

/-- A level from a place on; a missing one stands for all levels. -/
def rankFrom (word : RuleWord) (first : Nat) : Except RuleFault Nat :=
  match Text.onward first word.content with
  | .error fault => .error (.inside fault)
  | .ok [] => .ok LogLevel.trace.rank
  | .ok level =>
      match LogRule.rank? (String.ofList level) with
      | some rank => .ok rank
      | none => .error .unknownLevel

/-- A word that is no rule in parts is a level or a target. -/
def whole (word : RuleWord) : LogRule :=
  let content := String.ofList word.content
  match LogRule.rank? content with
  | some rank => ⟨"", none, rank⟩
  | none => ⟨content, none, LogLevel.trace.rank⟩

/-- After a bracket only a level may follow. -/
def afterBracket (word : RuleWord) (place : Nat) (ofRank : Nat → Option LogRule) :
    List Char → Except RuleFault (Option LogRule)
  | [] => .ok (ofRank LogLevel.trace.rank)
  | '=' :: _ => (word.rankFrom (place + 1)).map ofRank
  | _ => .error .malformed

/-- A value is a number or a pattern, and truth values are patterns as well. -/
def checkValue (value : String) : Except RuleFault Unit :=
  if Decimal.isNumber value.toList then .ok ()
  else (Pattern.check value.toList).mapError .unknownValue

/-- The name of a field that has no value. A value ends where the next one would begin. -/
def fieldName? (field : String) : Except RuleFault (Option String) :=
  match field.splitOn "=" with
  | _ :: value :: _ => do
      checkValue value
      .ok none
  | _ => if field = "" then .error .malformed else .ok (some field)

def fieldRule (word : RuleWord) (target span : String) (first place : Nat) :
    List Char → Except RuleFault (Option LogRule)
  | [] => .error .malformed
  | '\x7d' :: later => do
      let name? ← fieldName? (← word.part first place)
      let ofRank := fun rank =>
        if span = "" then name?.map fun name => ⟨target, some name, rank⟩ else none
      match later with
      | ']' :: rest => word.afterBracket (place + 2) ofRank rest
      | _ => .error .malformed
  | character :: later => word.fieldRule target span first (place + character.utf8Size) later

def spanRule (word : RuleWord) (target : String) (first place : Nat) :
    List Char → Except RuleFault (Option LogRule)
  | [] => .error .malformed
  | ']' :: later => do
      let _ ← word.part first place
      word.afterBracket (place + 1) (fun _ => none) later
  | '\x7b' :: later => do
      let span ← word.part first place
      word.fieldRule target span (place + 1) (place + 1) later
  | character :: later => word.spanRule target first (place + character.utf8Size) later

def targetRule (word : RuleWord) (place : Nat) : List Char → Except RuleFault (Option LogRule)
  | [] => .ok (some word.whole)
  | '=' :: _ => do
      let target ← word.part 0 place
      let rank ← word.rankFrom (place + 1)
      .ok (some ⟨target, none, rank⟩)
  | '[' :: later => do
      let target ← word.part 0 place
      word.spanRule target (place + 1) (place + 1) later
  | character :: later => word.targetRule (place + character.utf8Size) later

def beginsTarget (character : Char) : Bool :=
  Text.isAlphanumeric character || ['-', ':', '_'].contains character

/-- A rule on spans or values says nothing about events. -/
def rule? (word : RuleWord) : Except RuleFault (Option LogRule) :=
  match Text.trim word.content with
  | '[' :: later => word.spanRule "" 1 1 later
  | first :: later =>
      if beginsTarget first then word.targetRule first.utf8Size later else .error .malformed
  | [] => .error .malformed

end RuleWord
end ProvenBlocks
