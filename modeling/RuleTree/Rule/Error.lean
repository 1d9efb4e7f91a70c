import RuleTree.Operator

/-! Why a leaf rule does not compile. -/

namespace RuleTree

inductive RuleError where
  | emptyField
  | unknownField (name : String)
  | unknownOperator (name : String)
  | invalidPattern (why : String)
  | wrongOperator (op : Operator) (kind : String)
  | wrongOperand (expected actual : String)
  | wrongRange (op : Operator) (length : Nat)
  | other (text : String)
deriving DecidableEq

def RuleError.message : RuleError → String
  | emptyField => "rule has an empty field name"
  | unknownField name => "unknown field '" ++ name ++ "'"
  | unknownOperator name => "unknown operator '" ++ name ++ "'"
  | invalidPattern why => "invalid regex pattern: " ++ why
  | wrongOperator op kind => "operator '" ++ op.name ++ "' is not valid for " ++ kind ++ " values"
  | wrongOperand expected actual =>
    "type mismatch: operator expects " ++ expected ++ ", got " ++ actual
  | wrongRange op length =>
    "operator '" ++ op.name ++ "' expects two numeric bounds, got " ++ toString length ++ " value(s)"
  | other text => text

end RuleTree
