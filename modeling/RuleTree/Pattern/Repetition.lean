import RuleTree.Pattern.Reader

/-! Repetitions, which apply to the part before them. -/

namespace RuleTree.Pattern

open Reader

/-- A number in a counted repetition, with the cause to report when there is none. -/
def parseDecimal : Reader (Except Fault Nat) := do
  bumpBlanks (← budget)
  let start ← place
  let digits ← collect Char.isDigit (← budget) []
  let span ← spanFrom start
  bumpBlanksSkip (← budget)
  if digits.isEmpty then return .error ⟨.repetitionCountDecimalEmpty, span⟩
  let n := digits.foldl (fun n c => 10 * n + (c.toNat - '0'.toNat)) 0
  if n < UInt32.size then return .ok n else return .error ⟨.decimalInvalid, span⟩

/-- The expression that a repetition applies to, split from those before it. -/
def repeated (parts : List Syntax) : Reader (List Syntax × Syntax) := do
  match parts with
  | [] | .empty _ :: _ | .flags .. :: _ => fail .repetitionMissing (← pointSpan)
  | last :: before => return (before, last)

/-- A question mark behind a repetition prefers fewer rounds, which changes no answer here. -/
def skipLazyMark (more : Bool) : Reader Unit := do
  if more && (← current) = '?' then let _ ← bump

/-- One of the repetitions `?`, `*` and `+` behind the parts read so far, the last one first. -/
def parseRepetition (parts : List Syntax) (least : Nat) (most : Option Nat) :
    Reader (List Syntax) := do
  let (before, last) ← repeated parts
  skipLazyMark (← bump)
  return .repetition ⟨last.span.start, ← place⟩ least most last :: before

/-- A repetition with counts in braces. -/
def parseCounted (parts : List Syntax) : Reader (List Syntax) := do
  let start ← place
  let (before, last) ← repeated parts
  if !(← bumpSkip) then fail .repetitionCountUnclosed (← spanFrom start)
  let least ← parseDecimal
  if ← atEnd then fail .repetitionCountUnclosed (← spanFrom start)
  let (least, most) ← (do
    if (← current) = ',' then
      if !(← bumpSkip) then fail .repetitionCountUnclosed (← spanFrom start)
      if (← current) = '\x7d' then
        let least ← least
        return (least, none)
      else
        let least ← least
        let most ← ← parseDecimal
        return (least, some most)
    else
      let least ← least
      return (least, some least) : Reader (Nat × Option Nat))
  if (← peek?) != some '\x7d' then fail .repetitionCountUnclosed (← spanFrom start)
  skipLazyMark (← bumpSkip)
  if most.any (· < least) then fail .repetitionCountInvalid (← spanFrom start)
  return .repetition ⟨last.span.start, ← place⟩ least most last :: before

end RuleTree.Pattern
