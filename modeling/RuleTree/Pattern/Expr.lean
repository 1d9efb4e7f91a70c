import RuleTree.Unicode.CodeRanges
import RuleTree.Unicode.Category
import RuleTree.Unicode.Property

/-! What a pattern matches. A pattern takes the positions of a text at which a match may begin to the
positions at which it may end. Sets of positions are kept as the bits of a number: position `i` lies
before the character with index `i`. -/

namespace RuleTree.Pattern

/-- A condition on the characters around a position. -/
inductive Look where
  | textStart
  | textEnd
  | lineStart
  | lineEnd
  | lineStartCr
  | lineEndCr
  | wordBoundary (unicode : Bool)
  | notWordBoundary (unicode : Bool)
  | wordStart (unicode : Bool)
  | wordEnd (unicode : Bool)
  | wordStartHalf (unicode : Bool)
  | wordEndHalf (unicode : Bool)
deriving DecidableEq, Repr

inductive Expr where
  | empty
  | set (codes : CodeRanges)
  | look (l : Look)
  /-- A group whose bounds could be asked for. -/
  | capture (body : Expr)
  | repetition (least : Nat) (most : Option Nat) (body : Expr)
  | concat (left right : Expr)
  | either (left right : Expr)
deriving Inhabited

/-- Letters, marks, digits, connectors and joiners. -/
def wordCodes : CodeRanges :=
  .unionAll [Unicode.codesOf Unicode.properties ["alpha", "joinc"],
    Unicode.codesOf Unicode.categories ["mc", "me", "mn", "nd", "pc"]]

def asciiWordCodes : CodeRanges := ⟨[(48, 57), (65, 90), (95, 95), (97, 122)]⟩

def isWord (unicode : Bool) : Option Char → Bool
  | none => false
  | some c => if unicode then wordCodes.has c else asciiWordCodes.has c

namespace Look

/-- Does the condition hold between these two characters? At the ends of the text one is absent. -/
def holds (l : Look) (before after : Option Char) : Bool :=
  match l with
  | textStart => before.isNone
  | textEnd => after.isNone
  | lineStart => before.isNone || before == some '\n'
  | lineEnd => after.isNone || after == some '\n'
  | lineStartCr =>
    before.isNone || before == some '\n' || (before == some '\r' && after != some '\n')
  | lineEndCr =>
    after.isNone || after == some '\r' || (after == some '\n' && before != some '\r')
  | wordBoundary u => isWord u before != isWord u after
  | notWordBoundary u => isWord u before == isWord u after
  | wordStart u => !isWord u before && isWord u after
  | wordEnd u => isWord u before && !isWord u after
  | wordStartHalf u => !isWord u before
  | wordEndHalf u => !isWord u after

end Look

/-- The positions of a text, from `i` on, at which `ok` holds of the characters on both sides. -/
def positionsFrom (ok : Option Char → Option Char → Bool) (before : Option Char) (i : Nat) :
    List Char → Nat
  | [] => if ok before none then 1 <<< i else 0
  | c :: rest =>
    (if ok before (some c) then 1 <<< i else 0) + positionsFrom ok (some c) (i + 1) rest

/-- The positions at which a condition holds. -/
def Look.positions (l : Look) (text : List Char) : Nat := positionsFrom l.holds none 0 text

/-- The positions before a member of the set. -/
def setPositions (codes : CodeRanges) (text : List Char) : Nat :=
  positionsFrom (fun _ after => after.any codes.has) none 0 text

/-- Applies `f` so many times, or until nothing changes. -/
def iterate (f : Nat → Nat) : Nat → Nat → Nat
  | 0, s => s
  | n + 1, s =>
    let t := f s
    if t = s then s else iterate f n t

/-- Where a match that begins at one of `starts` may end. -/
def Expr.ends (text : List Char) : Expr → Nat → Nat
  | .empty, starts => starts
  | .set codes, starts => (starts &&& setPositions codes text) <<< 1
  | .look l, starts => starts &&& l.positions text
  | .capture body, starts => body.ends text starts
  | .concat a b, starts => b.ends text (a.ends text starts)
  | .either a b, starts => a.ends text starts ||| b.ends text starts
  | .repetition least most body, starts =>
    let once := iterate (body.ends text) least starts
    let more := fun s => s ||| body.ends text s
    match most with
    | none => iterate more (text.length + 1) once
    | some most => iterate more (most - least) once

/-- Does the pattern match somewhere in the text? -/
def Expr.matches (e : Expr) (text : List Char) : Bool :=
  e.ends text (1 <<< (text.length + 1) - 1) != 0

end RuleTree.Pattern
