import RuleTree.Json.Cursor

/-! Reading numbers. An integer keeps its value where 64 bits hold it. Any other number is a significand
of at most 64 bits, scaled by a power of ten in one or two roundings, so its last digit may differ from
that of the nearest double. -/

namespace RuleTree.Json

/-- The value of a digit. -/
def digitValue (c : Char) : Nat := c.toNat - '0'.toNat

/-- Takes up digits while the significand stays below 2 ^ 64. Gives the significand and how many digits
were taken. -/
def takeUp (significand taken : Nat) : List Char → Nat × Nat
  | [] => (significand, taken)
  | c :: rest =>
    let more := significand * 10 + digitValue c
    if more < UInt64.size then takeUp more (taken + 1) rest else (significand, taken)

/-- Scales by a power of ten. Powers up to 308 take one step; far below them the value is first brought
nearer by dividing. `none` is a value out of range. -/
def scale (f : Binary64) (exponent : Int) : Nat → Option Binary64
  | 0 => some f
  | fuel + 1 =>
    if exponent.natAbs ≤ 308 then
      let power := Binary64.ofNat (Nat.pow 10 exponent.natAbs)
      if 0 ≤ exponent then
        let product := f.mul power
        if product.isInfinite then none else some product
      else some (f.div power)
    else if f.magnitudeBits = 0 then some f
    else if 0 ≤ exponent then none
    else scale (f.div (.ofNat (Nat.pow 10 308))) (exponent + 308) fuel

/-- The double for a significand and a decimal exponent. Four divisions bring any value to zero. -/
def ofParts (negative : Bool) (significand : Nat) (exponent : Int) : Option Binary64 :=
  (scale (.ofNat significand) exponent 5).map fun f => if negative then f.neg else f

/-- Finishes a number with its exponent known; `c` is behind it. -/
def finishReal (c : Cursor) (negative : Bool) (significand : Nat) (exponent : Int) :
    Except Fault (Number × Cursor) :=
  match ofParts negative significand exponent with
  | some f => .ok (.real f, c)
  | none => .error (c.fault .numberOutOfRange)

/-- How many digits of an exponent are read before it passes 2 ^ 31 - 1, if it does. -/
def exponentOverflow? (value read : Nat) : List Char → Option Nat
  | [] => none
  | c :: rest =>
    let more := value * 10 + digitValue c
    if more < 1 <<< 31 then exponentOverflow? more (read + 1) rest else some (read + 1)

/-- Reads an exponent; `c` is before its letter. -/
def readExponent (c : Cursor) (negative : Bool) (significand : Nat) (start : Int) :
    Except Fault (Number × Cursor) :=
  let c := c.next
  let (down, c) := match c.rest.head? with
    | some '+' => (false, c.next)
    | some '-' => (true, c.next)
    | _ => (false, c)
  match c.rest with
  | [] => .error (c.fault .endInValue)
  | ch :: _ =>
    if !ch.isDigit then .error (c.peekFault .invalidNumber)
    else
      let digits := c.digits
      match exponentOverflow? 0 0 digits with
      | some read =>
        if significand ≠ 0 ∧ !down then .error ⟨.numberOutOfRange, some (c.placeAfter read)⟩
        else .ok (.real (.zero negative), c.skipDigits)
      | none =>
        let value : Int := digits.foldl (fun n d => n * 10 + digitValue d) (0 : Nat)
        finishReal c.skipDigits negative significand (if down then start - value else start + value)

/-- Reads an exponent if one stands here. -/
def readTail (c : Cursor) (negative : Bool) (significand : Nat) (exponent : Int) :
    Except Fault (Number × Cursor) :=
  match c.rest.head? with
  | some 'e' | some 'E' => readExponent c negative significand exponent
  | _ => finishReal c negative significand exponent

/-- Reads the digits behind a point; `c` is before the point. -/
def readFraction (c : Cursor) (negative : Bool) (significand : Nat) (exponent : Int) :
    Except Fault (Number × Cursor) :=
  let c := c.next
  match c.digits with
  | [] => .error (c.peekFault (if c.rest.isEmpty then .endInValue else .invalidNumber))
  | digits =>
    let (significand, taken) := takeUp significand 0 digits
    readTail c.skipDigits negative significand (exponent - taken)

/-- The number for an integer without fraction and exponent. A zero with a sign is a double. -/
def integerValue (negative : Bool) (n : Nat) : Number :=
  if negative then
    if 0 < n ∧ n ≤ 1 <<< 63 then .signed (Int64.ofInt (-n)) else .real (Binary64.ofNat n).neg
  else .ofInt n

/-- Reads a number without its sign. -/
def readUnsigned (c : Cursor) (negative : Bool) : Except Fault (Number × Cursor) :=
  match c.rest with
  | [] => .error (c.fault .endInValue)
  | ch :: more =>
    if !ch.isDigit then .error (c.peekFault .invalidNumber)
    else if ch = '0' ∧ (more.head?.any Char.isDigit) then .error (c.next.peekFault .invalidNumber)
    else
      let digits := c.digits
      let (significand, taken) := takeUp 0 0 digits
      let dropped := digits.length - taken
      let c := c.skipDigits
      match c.rest.head? with
      | some '.' => readFraction c negative significand dropped
      | some 'e' | some 'E' => readExponent c negative significand dropped
      | _ =>
        if dropped = 0 then .ok (integerValue negative significand, c)
        else finishReal c negative significand dropped

/-- Reads a number with its sign. -/
def readNumeral (c : Cursor) : Except Fault (Number × Cursor) :=
  match c.rest.head? with
  | some '-' => readUnsigned c.next true
  | _ => readUnsigned c false

/-- Passes over a number without looking at its size. -/
def skipNumeral (c : Cursor) : Except Fault Cursor :=
  let c := match c.rest.head? with
    | some '-' => c.next
    | _ => c
  match c.rest with
  | [] => .error (c.fault .invalidNumber)
  | ch :: more =>
    if !ch.isDigit then .error (c.peekFault .invalidNumber)
    else if ch = '0' ∧ (more.head?.any Char.isDigit) then .error (c.next.peekFault .invalidNumber)
    else
      let c := c.skipDigits
      match c.rest.head? with
      | some '.' =>
        let c := c.next
        if c.digits.isEmpty then .error (c.peekFault .invalidNumber)
        else
          let c := c.skipDigits
          match c.rest.head? with
          | some 'e' | some 'E' => skipExponent c.next
          | _ => .ok c
      | some 'e' | some 'E' => skipExponent c.next
      | _ => .ok c
where
  skipExponent (c : Cursor) : Except Fault Cursor :=
    let c := match c.rest.head? with
      | some '+' | some '-' => c.next
      | _ => c
    match c.rest with
    | [] => .error (c.fault .invalidNumber)
    | ch :: _ => if ch.isDigit then .ok c.skipDigits else .error (c.peekFault .invalidNumber)

end RuleTree.Json
