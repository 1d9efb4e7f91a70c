/-! Where one text stands in another. -/

namespace RuleTree

/-- Does the text begin with `t`? -/
def beginsWith (s t : String) : Bool := t.toList.isPrefixOf s.toList

/-- Does the text end with `t`? -/
def endsWith (s t : String) : Bool := t.toList.isSuffixOf s.toList

/-- Does `t` stand at some place of the text? -/
def infixOf (t : List Char) : List Char → Bool
  | [] => t.isEmpty
  | c :: rest => t.isPrefixOf (c :: rest) || infixOf t rest

def containsText (s t : String) : Bool := infixOf t.toList s.toList

end RuleTree
