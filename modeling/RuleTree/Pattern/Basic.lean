import RuleTree.Pattern.Meaning
import RuleTree.Pattern.Parser
import RuleTree.Pattern.Size

/-! Compiled patterns. -/

namespace RuleTree

/-- A compiled pattern: the text it was written as and what it matches. -/
structure Pattern where
  source : String
  expr : Pattern.Expr
deriving Inhabited

namespace Pattern

/-- Reads a pattern. -/
def compile (source : String) : Except Refusal Pattern := do
  let parsed ← (parse source).mapError .malformed
  let (expr, _) ← (parsed.meaning {}).mapError .malformed
  if expr.tooLarge then throw (.tooLarge Expr.sizeLimit)
  return { source, expr }

/-- Does the pattern match somewhere in the text? -/
def isMatch (p : Pattern) (text : String) : Bool := p.expr.matches text.toList

/-- What a text matches as a pattern, or the words for why it is refused. -/
def search (source : String) : Except String (String → Bool) :=
  match compile source with
  | .ok p => .ok p.isMatch
  | .error why => .error (why.message source)

end Pattern

end RuleTree
