import ProvenBlocks.LogRule

/-!
Filters of log events: lists of rules separated by commas. Of the rules that cover an event the
most specific one decides whether it passes.
-/

namespace ProvenBlocks

structure LogFilter where
  rules : List LogRule

namespace LogFilter

/-- A filter without rules lets nothing pass. -/
def parse (content : String) : Except RuleFault LogFilter := do
  let words := (content.splitOn ",").filter fun word => word != ""
  let rules ← words.mapM fun word => RuleWord.rule? ⟨word.toList⟩
  .ok ⟨rules.filterMap id⟩

def levelReason : String :=
  "error parsing level filter: expected one of \"off\", \"error\", \"warn\", \"info\", \"debug\", "
    ++ "\"trace\", or a number 0-5"

/-- The general setting counts if it can be read, else the level of the settings. A place inside a
character stops the program. -/
def choose (general : Option String) (level : String) :
    Except Text.InsideCharacter (Except LogFault LogFilter) :=
  match general.map parse with
  | some (.ok filter) => .ok (.ok filter)
  | some (.error (.inside place)) => .error place
  | some (.error _) | none =>
      match parse level with
      | .ok filter => .ok (.ok filter)
      | .error (.inside place) => .error place
      | .error .malformed => .ok (.error ⟨"invalid filter directive"⟩)
      | .error .unknownLevel => .ok (.error ⟨levelReason⟩)
      | .error (.unknownValue fault) =>
          .ok (.error ⟨"invalid field filter: " ++ fault.message⟩)

def passes (filter : LogFilter) (event : LogEvent) : Bool :=
  match filter.rules.filter (·.covers event) with
  | [] => false
  | first :: later => event.level.rank ≤ (later.foldl LogRule.refine first).rank

end LogFilter
end ProvenBlocks
