import RuleTree.Pattern.Syntax
import RuleTree.Text.Blank

/-! Moving through the text of a pattern. Every loop takes a count of steps that the length of the text
bounds, since each step consumes a character. -/

namespace RuleTree.Pattern

/-- Where reading stands: what is left, the place, whether blanks and comments are skipped, and the
group names met so far. -/
structure Reading where
  rest : List Char
  place : Position := {}
  skipsBlanks : Bool := false
  names : List (String × Span) := []

abbrev Reader := StateT Reading (Except Fault)

namespace Reader

def fail {α : Type} (cause : Cause) (span : Span) : Reader α := throw ⟨cause, span⟩

def peek? : Reader (Option Char) := return (← get).rest.head?

def atEnd : Reader Bool := return (← get).rest.isEmpty

def place : Reader Position := return (← get).place

/-- The character at the place, or a character that no rule knows at the end. -/
def current : Reader Char := return (← get).rest.headD '\x00'

def following? : Reader (Option Char) := return ((← get).rest.drop 1).head?

/-- The span of the character at the place. -/
def charSpan : Reader Span := do
  let s ← get
  match s.rest with
  | [] => return .point s.place
  | c :: _ => return ⟨s.place, s.place.after c⟩

def pointSpan : Reader Span := return .point (← place)

def spanFrom (start : Position) : Reader Span := return ⟨start, ← place⟩

/-- Steps over one character; is there another one? -/
def bump : Reader Bool := do
  let s ← get
  match s.rest with
  | [] => return false
  | c :: rest =>
    set { s with rest, place := s.place.after c }
    return !rest.isEmpty

/-- Drops blanks and comments. -/
def skipFrom (inComment : Bool) : List Char → Position → List Char × Position
  | [], p => ([], p)
  | c :: rest, p =>
    if inComment then skipFrom (c != '\n') rest (p.after c)
    else if isBlank c then skipFrom false rest (p.after c)
    else if c = '#' then skipFrom true rest (p.after c)
    else (c :: rest, p)

/-- Skips blanks and comments where the pattern asks for it. -/
def skipBlanks : Reader Unit :=
  modify fun s =>
    if s.skipsBlanks then
      let (rest, place) := skipFrom false s.rest s.place
      { s with rest, place }
    else s

/-- Steps over one character and the blanks behind it; is there another one? -/
def bumpSkip : Reader Bool := do
  if ← bump then
    skipBlanks
    return !(← atEnd)
  else return false

/-- Steps over `word` if it stands here. -/
def bumpIf (word : String) : Reader Bool := do
  let s ← get
  let chars := word.toList
  if chars.isPrefixOf s.rest then
    set { s with rest := s.rest.drop chars.length, place := chars.foldl Position.after s.place }
    return true
  else return false

/-- The character that follows the present one, blanks passed over. Behind a `#` only one further
character is looked at. -/
def followingFrom (inComment : Bool) : List Char → Option Char
  | [] => none
  | c :: rest =>
    if isBlank c then followingFrom inComment rest
    else if !inComment && c = '#' then followingFrom true rest
    else some c

def followingSkip? : Reader (Option Char) := do
  let s ← get
  let behind := s.rest.drop 1
  if s.skipsBlanks then return (followingFrom false behind).or behind.head? else return behind.head?

/-- Steps over blanks; where blanks are skipped anyway, over the comments among them too. -/
def bumpBlanks : Nat → Reader Unit
  | 0 => return
  | fuel + 1 => do
    match ← peek? with
    | some c => if isBlank c then let _ ← bump; bumpBlanks fuel else return
    | none => return

def bumpBlanksSkip : Nat → Reader Unit
  | 0 => return
  | fuel + 1 => do
    match ← peek? with
    | some c => if isBlank c then let _ ← bumpSkip; bumpBlanksSkip fuel else return
    | none => return

/-- Collects characters while `ok` holds. -/
def collect (ok : Char → Bool) : Nat → List Char → Reader (List Char)
  | 0, acc => return acc.reverse
  | fuel + 1, acc => do
    match ← peek? with
    | some c => if ok c then let _ ← bumpSkip; collect ok fuel (c :: acc) else return acc.reverse
    | none => return acc.reverse

/-- As many steps as there are characters left. -/
def budget : Reader Nat := return (← get).rest.length + 1

end Reader

end RuleTree.Pattern
