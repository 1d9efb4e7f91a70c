import RuleTree.Connective

/-! Demands on callers. -/

namespace RuleTree

/-- A demand that a caller did not meet. -/
inductive Violation where
  | noOperand (c : Connective)
  | noGroups
  | unmet (text : String)
deriving DecidableEq

def Violation.message (v : Violation) : String :=
  "contract violation: " ++ match v with
    | noOperand c => c.name ++ "() needs at least one predicate"
    | noGroups => "compile_groups needs at least one group"
    | unmet text => text

/-- Demands a condition. -/
def require (condition : Bool) (text : String) : Except Violation Unit :=
  if condition then .ok () else .error (.unmet text)

end RuleTree
