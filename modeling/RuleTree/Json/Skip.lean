import RuleTree.Json.Numeral
import RuleTree.Json.Text

/-! Passing over a value that nobody asked for. Its brackets must close, but it may nest to any depth,
and its numbers and escapes are looked at only as far as it takes to find their end. -/

namespace RuleTree.Json

/-- Passes over the given word. -/
def expectWord (c : Cursor) : List Char → Except Fault Cursor
  | [] => .ok c
  | w :: word =>
    match c.rest with
    | [] => .error (c.fault .endInValue)
    | ch :: _ => if ch = w then expectWord c.next word else .error (c.peekFault .expectedWord)

/-- What is awaited while passing over a value: a value, or what follows the part of an enclosing bracket,
which at its very start may not be a comma. -/
inductive Awaited where
  | value
  | part (first : Bool)
deriving DecidableEq

/-- The enclosing brackets, the innermost first: is each the brace of an object? -/
abbrev Enclosing := List Bool

/-- One step of passing over a value. `none` is its end. -/
def skipStep (c : Cursor) (enclosing : Enclosing) :
    Awaited → Except Fault (Cursor × Enclosing × Option Awaited)
  | .value =>
    let c := c.skipSpace
    let behind (r : Except Fault Cursor) : Except Fault (Cursor × Enclosing × Option Awaited) := do
      let c ← r
      return (c, enclosing, if enclosing.isEmpty then none else some (.part false))
    match c.rest with
    | [] => .error (c.peekFault .endInValue)
    | 'n' :: _ => behind (expectWord c.next ['u', 'l', 'l'])
    | 't' :: _ => behind (expectWord c.next ['r', 'u', 'e'])
    | 'f' :: _ => behind (expectWord c.next ['a', 'l', 's', 'e'])
    | '"' :: _ => behind (skipText c.next)
    | '[' :: _ => .ok (c.next, false :: enclosing, some (.part true))
    | '\x7b' :: _ => .ok (c.next, true :: enclosing, some (.part true))
    | ch :: _ =>
      if ch = '-' ∨ ch.isDigit then behind (skipNumeral c) else .error (c.peekFault .expectedValue)
  | .part first =>
    let c := c.skipSpace
    match enclosing with
    | [] => .ok (c, [], none)
    | isObject :: outer =>
      let member (c : Cursor) : Except Fault (Cursor × Enclosing × Option Awaited) := do
        if isObject then
          let c := c.skipSpace
          match c.rest with
          | [] => throw (c.peekFault .endInObject)
          | '"' :: _ =>
            let c ← skipText c.next
            let c := c.skipSpace
            match c.rest with
            | [] => throw (c.peekFault .endInObject)
            | ':' :: _ => return (c.next, enclosing, some .value)
            | _ => throw (c.peekFault .expectedColon)
          | _ => throw (c.peekFault .keyMustBeText)
        else return (c, enclosing, some .value)
      match c.rest with
      | [] => .error (c.peekFault (if isObject then .endInObject else .endInList))
      | ch :: _ =>
        if ch = (if isObject then '\x7d' else ']') then
          .ok (c.next, outer, if outer.isEmpty then none else some (.part false))
        else if first then member c
        else if ch = ',' then member c.next
        else .error (c.peekFault
          (if isObject then .expectedObjectCommaOrEnd else .expectedListCommaOrEnd))

def skipSteps : Nat → Cursor → Enclosing → Awaited → Except Fault Cursor
  | 0, c, _, _ => .error (c.peekFault .endInValue)
  | fuel + 1, c, enclosing, awaited => do
    let (c, enclosing, awaited) ← skipStep c enclosing awaited
    match awaited with
    | none => return c
    | some awaited => skipSteps fuel c enclosing awaited

/-- Passes over a value. Two steps consume a character at least. -/
def skipValue (c : Cursor) : Except Fault Cursor := skipSteps (2 * c.rest.length + 2) c [] .value

end RuleTree.Json
