import RuleTree.Text.Blank

/-! How an element of a list joins what stands before it. -/

namespace RuleTree

inductive Connective where
  | and
  | or
deriving DecidableEq, Repr, Inhabited

namespace Connective

def name : Connective → String
  | and => "and"
  | or => "or"

/-- The word that stands between two shown elements. -/
def display : Connective → String
  | and => "AND"
  | or => "OR"

/-- Reads a connective, whatever its case and the blanks around it. -/
def parse? (s : String) : Option Connective :=
  let word := keyword s
  if word = "and" ∨ word = "&&" then some and
  else if word = "or" ∨ word = "||" then some or
  else none

/-- Joins two truth values. -/
def apply : Connective → Bool → Bool → Bool
  | and, a, b => a && b
  | or, a, b => a || b

end Connective

end RuleTree
