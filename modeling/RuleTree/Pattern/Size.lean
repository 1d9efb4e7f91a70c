import RuleTree.Pattern.Expr
import RuleTree.Unicode.ByteRanges

/-! How much room the automaton of a pattern takes. It reads bytes; every state takes thirty-two bytes of
memory, and a state with several ways out takes more for them. Two automata are laid out, one that reads
forwards and marks where groups begin and end, and one that reads backwards. -/

namespace RuleTree.Pattern

open Unicode (ByteRange)

/-- The direction in which an automaton reads. -/
inductive Direction where
  | forwards
  | backwards
deriving DecidableEq, Repr

/-- What a state takes without its ways out. -/
def stateSize : Nat := 32

/-- What a state takes that leads on by byte ranges, in as many ways. -/
def rangesSize (ways : Nat) : Nat := stateSize + 8 * ways

/-- What a state takes that leads on without reading, in as many ways. -/
def choiceSize (ways : Nat) : Nat := stateSize + 4 * ways

/-- States met so far; a state is the byte ranges that lead on from it, each with the index of the state
behind it, counted from one. Zero is the end of the form. -/
abbrev States := List (List (ByteRange × Nat))

/-- Sequences with the same head, put together. -/
def groupByHead (forms : List (List ByteRange)) : List (ByteRange × List (List ByteRange)) :=
  forms.foldr (fun form groups =>
    match form, groups with
    | [], groups => groups
    | head :: tail, (h, tails) :: rest =>
      if h = head then (h, tail :: tails) :: rest else (head, [tail]) :: (h, tails) :: rest
    | head :: tail, [] => [(head, [tail])]) []

/-- The state that reads the given forms, of at most `length` bytes. Equal states are kept once. -/
def addState : Nat → List (List ByteRange) → States → Nat × States
  | 0, _, states => (0, states)
  | length + 1, forms, states =>
    let groups := groupByHead forms
    if groups.isEmpty then (0, states)
    else
      let (ways, states) := groups.foldl (fun (ways, states) (head, tails) =>
        let (next, states) := addState length tails states
        (ways ++ [(head, next)], states)) ([], states)
      match states.idxOf? ways with
      | some i => (i + 1, states)
      | none => (states.length + 1, states ++ [ways])

/-- How many sequences begin some form. -/
def beginnings : Nat → List (List ByteRange) → Nat
  | 0, _ => 0
  | length + 1, forms =>
    ((groupByHead forms).map fun (_, tails) => 1 + beginnings length tails).foldr (· + ·) 0

/-- The room for a set of code points. Reading forwards shares what follows, reading backwards what
comes before. -/
def setSize (d : Direction) (s : CodeRanges) : Nat :=
  match s.ranges with
  | [] => stateSize
  | [(first, last)] =>
    if first = last then (Unicode.utf8Bytes first).length * stateSize else manySize s
  | _ => manySize s
where
  manySize (s : CodeRanges) : Nat :=
    if s.isAscii then stateSize + rangesSize s.ranges.length
    else
      let forms := Unicode.formsOf s
      match d with
      | .forwards =>
        let rooms := (addState 4 forms []).2.map fun ways => rangesSize ways.length
        stateSize + rooms.foldr (· + ·) 0
      | .backwards => choiceSize forms.length + stateSize + beginnings 4 forms * stateSize

namespace Expr

/-- Does the pattern match nothing but the empty text? -/
def onlyEmpty : Expr → Bool
  | empty | look _ => true
  | set _ => false
  | capture body => body.onlyEmpty
  | repetition _ most body => most == some 0 || body.onlyEmpty
  | concat a b | either a b => a.onlyEmpty && b.onlyEmpty

/-- May the pattern match the empty text? -/
def mayBeEmpty : Expr → Bool
  | empty | look _ => true
  | set _ => false
  | capture body => body.mayBeEmpty
  | repetition least _ body => least == 0 || body.mayBeEmpty
  | concat a b => a.mayBeEmpty && b.mayBeEmpty
  | either a b => a.mayBeEmpty || b.mayBeEmpty

/-- The union of the branches, if each of them is a set. -/
def asSet? : Expr → Option CodeRanges
  | set s => some s
  | either a b => do return (← a.asSet?).union (← b.asSet?)
  | _ => none

/-- The room for a repeated part of the given size. -/
def repeatedSize (least : Nat) (most : Option Nat) (bodySize : Nat) (bodyMayBeEmpty : Bool) : Nat :=
  let copies := least * bodySize
  match most with
  | some 0 => 0
  | some 1 => if least = 0 then bodySize + choiceSize 2 + stateSize else bodySize
  | some most =>
    if least = most then copies
    else copies + stateSize + (most - least) * (bodySize + choiceSize 2)
  | none =>
    if least = 0 then
      if bodyMayBeEmpty then bodySize + 2 * choiceSize 2 + stateSize else bodySize + choiceSize 2
    else copies + choiceSize 2

mutual

/-- The room for a pattern as a part of a sequence, where an empty part takes none. -/
def partSize (d : Direction) : Expr → Nat
  | empty => 0
  | set s => setSize d s
  | look _ => stateSize
  | capture body =>
    let size := max stateSize (body.partSize d)
    if d = .forwards then 2 * stateSize + size else size
  | repetition least most body =>
    let size := max stateSize (body.partSize d)
    if body.onlyEmpty then
      repeatedSize (min least 1) (some (min (most.getD 1) 1)) size body.mayBeEmpty
    else repeatedSize least most size body.mayBeEmpty
  | concat a b => a.partSize d + b.partSize d
  | either a b =>
    match (either a b).asSet? with
    | some s => setSize d s
    | none => choiceSize 2 + stateSize + a.branchSize d + b.branchSize d

/-- The room for branches beyond the first two ways out of their choice. -/
def branchSize (d : Direction) : Expr → Nat
  | either a b => 4 + a.branchSize d + b.branchSize d
  | e => max stateSize (e.partSize d)

end

/-- The room for the whole automaton. It may begin to match anywhere, and the match is a group too. -/
def size (d : Direction) (e : Expr) : Nat :=
  choiceSize 2 + stateSize + rangesSize 1 + stateSize + (capture e).partSize d

/-- The greatest room that an automaton may take. -/
def sizeLimit : Nat := 10 * 1024 * 1024

/-- Does one of the automata take too much room? -/
def tooLarge (e : Expr) : Bool :=
  sizeLimit < e.size .forwards || sizeLimit < e.size .backwards

end Expr

end RuleTree.Pattern
