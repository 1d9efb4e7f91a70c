import RuleTree.Pattern.Bracket
import RuleTree.Pattern.Nesting
import RuleTree.Pattern.Opening
import RuleTree.Pattern.Repetition

/-! Reading a pattern. -/

namespace RuleTree.Pattern

open Reader

/-- Parts in sequence, the last one first. -/
def concatOf (span : Span) : List Syntax → Syntax
  | [] => .empty span
  | [part] => part
  | parts => .concat span parts.reverse

/-- The alternatives of a group: those that a bar closed, the last one first, and the one that was
open. -/
def alternationOf (start stop : Position) (closed : List Syntax) (last : Syntax) : Syntax :=
  match closed with
  | [] => last
  | _ => .alternation ⟨start, stop⟩ (closed.reverse ++ [last])

/-- Reads alternatives up to the closing parenthesis of the group that `opened` began, or to the end of
the pattern. Where a group closes, reading stops on its parenthesis. -/
def parseBranches (opened : Option Span) (groupStart : Position) :
    Nat → Position → List Syntax → List Syntax → Reader Syntax
  | 0, _, _, _ => do fail .groupUnclosed (← pointSpan)
  | fuel + 1, start, closed, parts => do
    skipBlanks
    let here ← place
    let finish := alternationOf groupStart here closed (concatOf ⟨start, here⟩ parts)
    match ← peek? with
    | none =>
      match opened with
      | some span => fail .groupUnclosed span
      | none => return finish
    | some '(' =>
      match ← parseOpening with
      | .directive span items =>
        if let some skips := flagState? items .ignoreBlanks then
          modify fun s => { s with skipsBlanks := skips }
        parseBranches opened groupStart fuel start closed (.flags span items :: parts)
      | .group span kind =>
        let outer := (← get).skipsBlanks
        let inner := match kind with
          | .capture => outer
          | .plain items => (flagState? items .ignoreBlanks).getD outer
        modify fun s => { s with skipsBlanks := inner }
        let begin ← place
        let body ← parseBranches (some span) begin fuel begin [] []
        modify fun s => { s with skipsBlanks := outer }
        let _ ← bump
        let whole : Span := ⟨span.start, ← place⟩
        parseBranches opened groupStart fuel start closed (.group whole kind body :: parts)
    | some ')' =>
      match opened with
      | some _ => return finish
      | none => fail .groupUnopened (← charSpan)
    | some '|' =>
      let branch := concatOf ⟨start, here⟩ parts
      let _ ← bump
      parseBranches opened groupStart fuel (← place) (branch :: closed) []
    | some '[' =>
      let (span, negated, set) ← parseClass fuel
      parseBranches opened groupStart fuel start closed (.bracketed span negated set :: parts)
    | some '?' =>
      parseBranches opened groupStart fuel start closed (← parseRepetition parts 0 (some 1))
    | some '*' => parseBranches opened groupStart fuel start closed (← parseRepetition parts 0 none)
    | some '+' => parseBranches opened groupStart fuel start closed (← parseRepetition parts 1 none)
    | some '\x7b' => parseBranches opened groupStart fuel start closed (← parseCounted parts)
    | some _ =>
      let primitive ← parsePrimitive
      parseBranches opened groupStart fuel start closed (primitive.toSyntax :: parts)

/-- Reads a whole pattern. -/
def parse (pattern : String) : Except Fault Syntax := do
  let chars := pattern.toList
  let (result, _) ← (parseBranches none {} (chars.length + 2) {} [] []).run { rest := chars }
  match result.tooDeep? 0 with
  | some span => throw ⟨.nestLimitExceeded nestLimit, span⟩
  | none => return result

end RuleTree.Pattern
