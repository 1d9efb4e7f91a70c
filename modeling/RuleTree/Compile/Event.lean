import RuleTree.Group
import RuleTree.Rule.Error

/-! What is reported while a filter is compiled. -/

namespace RuleTree

inductive Level where
  | warn
  | debug
  | trace
deriving DecidableEq, Repr

def Level.name : Level → String
  | warn => "WARN"
  | debug => "DEBUG"
  | trace => "TRACE"

/-- The value of a field in the log. -/
inductive LogValue where
  | count (n : Nat)
  | text (s : String)
deriving DecidableEq, Repr

/-- A line of the log. -/
structure LogEntry where
  level : Level
  message : String
  fields : List (String × LogValue)
deriving DecidableEq, Repr

inductive CompileEvent where
  | filterBegun (groupCount depth ruleCount : Nat)
  | listCompiled (ruleCount : Nat)
  | listFailed (error : RuleError) (rules : List Rule)

def CompileEvent.entry : CompileEvent → LogEntry
  | filterBegun groupCount depth ruleCount =>
    ⟨.debug, "compiling filter",
      [("group_count", .count groupCount), ("depth", .count depth), ("rule_count", .count ruleCount)]⟩
  | listCompiled ruleCount => ⟨.trace, "compiled rule list", [("rule_count", .count ruleCount)]⟩
  | listFailed error rules =>
    ⟨.warn, "rule list failed to compile, it will match nothing",
      [("error", .text error.message), ("rule_count", .count rules.length),
        ("rules", .text (displayRules rules))]⟩

end RuleTree
