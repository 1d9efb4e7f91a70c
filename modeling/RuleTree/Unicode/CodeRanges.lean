/-! Sets of code points as ascending lists of disjoint ranges, and the packed text in which the tables
of the character set are kept. -/

namespace RuleTree

/-- A set of code points. The ranges ascend, and between two of them lies a gap. -/
structure CodeRanges where
  ranges : List (Nat × Nat)
deriving Inhabited, DecidableEq, Repr

namespace CodeRanges

/-- The greatest code point. -/
def last : Nat := 0x10FFFF

def empty : CodeRanges := ⟨[]⟩

def all : CodeRanges := ⟨[(0, last)]⟩

def mem (s : CodeRanges) (code : Nat) : Bool := s.ranges.any fun (a, b) => a ≤ code && code ≤ b

def has (s : CodeRanges) (c : Char) : Bool := s.mem c.toNat

def isEmpty (s : CodeRanges) : Bool := s.ranges.isEmpty

/-- Joins ranges that touch or overlap; the list is in order of the lower ends. -/
def merge : List (Nat × Nat) → List (Nat × Nat)
  | [] => []
  | [r] => [r]
  | (a, b) :: (c, d) :: rest =>
    if c ≤ b + 1 then merge ((a, max b d) :: rest) else (a, b) :: merge ((c, d) :: rest)
termination_by rs => rs.length

def ofList (rs : List (Nat × Nat)) : CodeRanges :=
  ⟨merge (rs.mergeSort fun x y => x.1 ≤ y.1)⟩

def single (code : Nat) : CodeRanges := ⟨[(code, code)]⟩

def union (s t : CodeRanges) : CodeRanges := ofList (s.ranges ++ t.ranges)

def unionAll (ss : List CodeRanges) : CodeRanges := ofList (ss.flatMap (·.ranges))

/-- The gaps of a list of ranges, from `start` up to the last code point. -/
def gaps (start : Nat) : List (Nat × Nat) → List (Nat × Nat)
  | [] => if start ≤ last then [(start, last)] else []
  | (a, b) :: rest => if start < a then (start, a - 1) :: gaps (b + 1) rest else gaps (b + 1) rest

def complement (s : CodeRanges) : CodeRanges := ⟨gaps 0 s.ranges⟩

def inter (s t : CodeRanges) : CodeRanges := (s.complement.union t.complement).complement

def diff (s t : CodeRanges) : CodeRanges := s.inter t.complement

def symmDiff (s t : CodeRanges) : CodeRanges := (s.union t).diff (s.inter t)

/-- Is every member below 128? -/
def isAscii (s : CodeRanges) : Bool := s.ranges.all fun (_, b) => b < 128

/-- Reads packed ranges: each is the distance from the end of the one before, and after a `+` how far
it extends beyond its first member. -/
def unpackFrom (previous gap : Nat) (extent : Option Nat) : List Char → List (Nat × Nat)
  | [] => [(previous + gap, previous + gap + extent.getD 0)]
  | c :: rest =>
    if c = ' ' then
      let stop := previous + gap + extent.getD 0
      (previous + gap, stop) :: unpackFrom stop 0 none rest
    else if c = '+' then unpackFrom previous gap (some 0) rest
    else
      let digit := c.toNat - '0'.toNat
      match extent with
      | none => unpackFrom previous (10 * gap + digit) none rest
      | some e => unpackFrom previous gap (some (10 * e + digit)) rest

/-- The set that lines of packed ranges describe. -/
def unpack (lines : List String) : CodeRanges :=
  if lines.isEmpty then empty
  else ⟨unpackFrom 0 0 none (" ".intercalate lines).toList⟩

end CodeRanges

namespace Unicode

/-- A named set of code points in packed form. The names are in lower case, without spaces, hyphens
and underscores. -/
structure Table where
  names : List String
  packed : List String

def Table.codes (t : Table) : CodeRanges := .unpack t.packed

def lookup? (tables : List Table) (name : String) : Option Table :=
  tables.find? fun t => t.names.contains name

/-- The union of the tables with the given names. -/
def codesOf (tables : List Table) (names : List String) : CodeRanges :=
  .unionAll (names.map fun n => ((lookup? tables n).map Table.codes).getD .empty)

end Unicode

end RuleTree
