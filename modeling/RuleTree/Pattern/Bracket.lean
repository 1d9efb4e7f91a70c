import RuleTree.Pattern.Escape

/-! Bracketed classes: their members, ranges, named classes, and the operations between them. -/

namespace RuleTree.Pattern

open Reader

/-- The named classes of the form `[:alpha:]`. -/
def posixRanges? : String → Option (List (Nat × Nat))
  | "alnum" => some [(48, 57), (65, 90), (97, 122)]
  | "alpha" => some [(65, 90), (97, 122)]
  | "ascii" => some [(0, 127)]
  | "blank" => some [(9, 9), (32, 32)]
  | "cntrl" => some [(0, 31), (127, 127)]
  | "digit" => some [(48, 57)]
  | "graph" => some [(33, 126)]
  | "lower" => some [(97, 122)]
  | "print" => some [(32, 126)]
  | "punct" => some [(33, 47), (58, 64), (91, 96), (123, 126)]
  | "space" => some [(9, 13), (32, 32)]
  | "upper" => some [(65, 90)]
  | "word" => some [(48, 57), (65, 90), (95, 95), (97, 122)]
  | "xdigit" => some [(48, 57), (65, 70), (97, 102)]
  | _ => none

/-- What stands at the place inside a class. -/
def parseClassPrimitive : Reader Primitive := do
  match ← current with
  | '\\' => parseEscape
  | c =>
    let span ← charSpan
    let _ ← bump
    return .literal { span, char := c }

/-- A single member of a class or a range; `opening` is the span to blame when the class is never
closed. -/
def parseClassRange (opening : Span) : Reader ClassItem := do
  let low ← parseClassPrimitive
  skipBlanks
  if ← atEnd then fail .classUnclosed opening
  let next ← followingSkip?
  if (← current) != '-' || next = some ']' || next = some '-' then low.toItem
  else
    if !(← bumpSkip) then fail .classUnclosed opening
    let high ← parseClassPrimitive
    let span : Span := ⟨low.span.start, high.span.stop⟩
    let first ← low.toLiteral
    let last ← high.toLiteral
    if last.char < first.char then fail .classRangeInvalid span
    return .range span first last

/-- The letters of a class name in `[:name:]`, up to the next colon. -/
def posixName : Nat → List Char → Reader (List Char)
  | 0, acc => return acc.reverse
  | fuel + 1, acc => do
    match ← peek? with
    | none => return acc.reverse
    | some ':' => return acc.reverse
    | some c =>
      let _ ← bump
      posixName fuel (c :: acc)

/-- A class of the form `[:alpha:]`, if one stands here; otherwise reading is as before. -/
def parsePosix? : Reader (Option ClassItem) := do
  let before ← get
  let start ← place
  let giveUp : Reader (Option ClassItem) := do
    set before
    return none
  if !(← bump) || (← current) != ':' then return ← giveUp
  if !(← bump) then return ← giveUp
  let negated := (← current) = '^'
  if negated then
    if !(← bump) then return ← giveUp
  let name ← posixName (← budget) []
  if ← atEnd then return ← giveUp
  if !(← bumpIf ":]") then return ← giveUp
  match posixRanges? (String.ofList name) with
  | none => giveUp
  | some ranges => return some (.posix (← spanFrom start) negated ranges)

/-- Members collected so far, with the span they cover. -/
structure Members where
  span : Span
  items : List ClassItem

namespace Members

def push (m : Members) (i : ClassItem) : Members :=
  { span := ⟨if m.items.isEmpty then i.span.start else m.span.start, i.span.stop⟩
    items := m.items ++ [i] }

def toItem (m : Members) : ClassItem :=
  match m.items with
  | [] => .empty m.span
  | [i] => i
  | _ => .union m.span m.items

end Members

/-- Hyphens at the start of a class stand for themselves. -/
def openingHyphens (start : Position) : Nat → Members → Reader Members
  | 0, m => return m
  | fuel + 1, m => do
    if (← current) = '-' then
      let m := m.push (.literal { span := ← charSpan, char := '-' })
      if !(← bumpSkip) then fail .classUnclosed (.point start)
      openingHyphens start fuel m
    else return m

/-- The opening of a class: its span, whether it is negated, and the members that only stand for
themselves in front. -/
def parseClassOpen : Reader (Span × Bool × Members) := do
  let start ← place
  if !(← bumpSkip) then fail .classUnclosed (← spanFrom start)
  let negated := (← current) = '^'
  if negated then
    if !(← bumpSkip) then fail .classUnclosed (← spanFrom start)
  let members ← openingHyphens start (← budget) ⟨← pointSpan, []⟩
  if members.items.isEmpty && (← current) = ']' then
    let members := members.push (.literal { span := ← charSpan, char := ']' })
    if !(← bumpSkip) then fail .classUnclosed (← spanFrom start)
    return (← spanFrom start, negated, members)
  else return (← spanFrom start, negated, members)

/-- Applies the operation that waits for its right side. -/
def closeOp (waiting : Option (SetOp × ClassSet)) (right : ClassSet) : ClassSet :=
  match waiting with
  | none => right
  | some (kind, left) => .op ⟨left.span.start, right.span.stop⟩ kind left right

mutual

/-- A bracketed class; reading stands on its opening bracket. Gives its span, its negation and its
members. -/
def parseClass : Nat → Reader (Span × Bool × ClassSet)
  | 0 => do fail .classUnclosed (← pointSpan)
  | fuel + 1 => do
    let start ← place
    let (opening, negated, members) ← parseClassOpen
    let set ← parseClassBody opening fuel none members
    let _ ← bump
    return (← spanFrom start, negated, set)

/-- The members of a class up to its closing bracket. -/
def parseClassBody (opening : Span) :
    Nat → Option (SetOp × ClassSet) → Members → Reader ClassSet
  | 0, _, _ => fail .classUnclosed opening
  | fuel + 1, waiting, members => do
    skipBlanks
    if ← atEnd then fail .classUnclosed opening
    let operator := fun (kind : SetOp) (word : String) => (do
      let _ ← bumpIf word
      return some (kind, closeOp waiting (.item members.toItem)) : Reader (Option (SetOp × ClassSet)))
    let next ← following?
    match ← current with
    | '[' =>
      match ← parsePosix? with
      | some item => parseClassBody opening fuel waiting (members.push item)
      | none =>
        let (span, negated, set) ← parseClass fuel
        parseClassBody opening fuel waiting (members.push (.bracketed span negated set))
    | ']' => return closeOp waiting (.item members.toItem)
    | c =>
      if c = '&' && next = some '&' then
        let waiting ← operator .inter "&&"
        parseClassBody opening fuel waiting ⟨← pointSpan, []⟩
      else if c = '-' && next = some '-' then
        let waiting ← operator .diff "--"
        parseClassBody opening fuel waiting ⟨← pointSpan, []⟩
      else if c = '~' && next = some '~' then
        let waiting ← operator .symmDiff "~~"
        parseClassBody opening fuel waiting ⟨← pointSpan, []⟩
      else
        let item ← parseClassRange opening
        parseClassBody opening fuel waiting (members.push item)

end

end RuleTree.Pattern
