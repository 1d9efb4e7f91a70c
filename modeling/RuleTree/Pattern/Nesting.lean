import RuleTree.Pattern.Syntax

/-! How deeply the parts of a pattern nest. -/

namespace RuleTree.Pattern

/-- How deeply groups, classes, repetitions and lists may nest. -/
def nestLimit : Nat := 250

mutual

/-- The first part of a class that lies below `depth` levels too many. -/
def ClassItem.tooDeep? (depth : Nat) : ClassItem → Option Span
  | .bracketed span _ set =>
    if depth < nestLimit then set.tooDeep? (depth + 1) else some span
  | .union span items =>
    if depth < nestLimit then ClassItem.anyTooDeep? (depth + 1) items else some span
  | _ => none

def ClassItem.anyTooDeep? (depth : Nat) : List ClassItem → Option Span
  | [] => none
  | i :: rest => (i.tooDeep? depth).or (ClassItem.anyTooDeep? depth rest)

def ClassSet.tooDeep? (depth : Nat) : ClassSet → Option Span
  | .item i => i.tooDeep? depth
  | .op span _ left right =>
    if depth < nestLimit then (left.tooDeep? (depth + 1)).or (right.tooDeep? (depth + 1))
    else some span

end

mutual

/-- The first part of a pattern that lies below `depth` levels too many. -/
def Syntax.tooDeep? (depth : Nat) : Syntax → Option Span
  | .bracketed span _ set => if depth < nestLimit then set.tooDeep? (depth + 1) else some span
  | .repetition span _ _ body => if depth < nestLimit then body.tooDeep? (depth + 1) else some span
  | .group span _ body => if depth < nestLimit then body.tooDeep? (depth + 1) else some span
  | .alternation span parts =>
    if depth < nestLimit then Syntax.anyTooDeep? (depth + 1) parts else some span
  | .concat span parts =>
    if depth < nestLimit then Syntax.anyTooDeep? (depth + 1) parts else some span
  | _ => none

def Syntax.anyTooDeep? (depth : Nat) : List Syntax → Option Span
  | [] => none
  | s :: rest => (s.tooDeep? depth).or (Syntax.anyTooDeep? depth rest)

end

end RuleTree.Pattern
