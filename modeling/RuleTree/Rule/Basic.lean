import RuleTree.Connective
import RuleTree.Operator
import RuleTree.Rule.Operand

/-! Leaf rules: a field, an operator, an operand, and how the rule joins those before it. -/

namespace RuleTree

structure Rule where
  field : String
  operator : Operator
  operand : Operand := .null
  connective : Connective := .and
deriving Inhabited

namespace Rule

/-- The rule as it is shown; an operator that only looks at presence shows no operand. -/
def display (r : Rule) : String :=
  if r.operator.presence then r.field ++ " " ++ r.operator.name
  else r.field ++ " " ++ r.operator.name ++ " " ++ r.operand.display

def same (a b : Rule) : Bool :=
  a.field == b.field && a.operator == b.operator && a.operand.same b.operand &&
    a.connective == b.connective

end Rule

/-- Shown elements with each one's connective before it, the first one's left out. -/
def joinShown : List (Connective × String) → String
  | [] => ""
  | (_, first) :: rest =>
    rest.foldl (fun shown (c, text) => shown ++ " " ++ c.display ++ " " ++ text) first

/-- A rule list as it folds, from left to right. -/
def displayRules (rules : List Rule) : String :=
  joinShown (rules.map fun r => (r.connective, r.display))

end RuleTree
