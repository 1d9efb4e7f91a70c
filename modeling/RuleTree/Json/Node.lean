import RuleTree.Json.Document
import RuleTree.Json.Skip

/-! A JSON value as it is met: its parts with the places that faults of the data are reported at, up to
the first fault of the text. Decoding a node finds the faults in the order in which one pass over the
text meets them. -/

namespace RuleTree.Json

/-- How a bracket could be closed at a point between its parts. -/
structure Close where
  /-- The place of what comes next. -/
  here : Mark
  /-- Where reading stands after the attempt to close. -/
  stop : Mark
  /-- Why it does not close. -/
  fault : Option Fault

mutual

/-- A value, the place that is blamed when no value of the wanted kind begins here, and the place that is
blamed for the kind of the value: behind a scalar, before a bracket. -/
inductive Node where
  | mk (start stop : Mark) (content : Content)

inductive Content where
  | null
  | flag (b : Bool)
  | number (n : Number)
  | text (s : String)
  | array (items : Items)
  /-- The members of an object, and whatever stands behind its brace, read as a value. -/
  | object (lead : Node) (members : Members)
  /-- A text that has no end, or that breaks a rule of texts. -/
  | badText (f : Fault)
  /-- No value begins where one should: the text ends, or a colon is missing before it. -/
  | absent (f : Fault)
  | bad (f : Fault)

inductive Items where
  | nil (close : Close)
  | bad (close : Close) (f : Fault)
  | cons (close : Close) (head : Node) (tail : Items)

/-- Members of an object. A fault behind a key is found when its value is read. -/
inductive Members where
  | nil (close : Close)
  | bad (close : Close) (f : Fault)
  | cons (close : Close) (key : String) (afterKey : Close) (value : Node) (tail : Members)

end

def Items.close : Items → Close
  | .nil c | .bad c _ | .cons c .. => c

def Members.close : Members → Close
  | .nil c | .bad c _ | .cons c .. => c

def Node.stop : Node → Mark
  | .mk _ stop _ => stop

def Node.content : Node → Content
  | .mk _ _ content => content

/-- Closing a list at the cursor. -/
def closeList (c : Cursor) : Close :=
  let c := c.skipSpace
  let here := some c.place
  match c.rest with
  | [] => ⟨here, here, some (c.peekFault .endInList)⟩
  | ']' :: _ => ⟨here, some c.next.place, none⟩
  | ',' :: _ =>
    let c := c.next.skipSpace
    let cause := if c.rest.head? = some ']' then .trailingComma else .trailingCharacters
    ⟨here, some c.place, some (c.peekFault cause)⟩
  | _ => ⟨here, here, some (c.peekFault .trailingCharacters)⟩

/-- Closing an object at the cursor. -/
def closeObject (c : Cursor) : Close :=
  let c := c.skipSpace
  let here := some c.place
  match c.rest with
  | [] => ⟨here, here, some (c.peekFault .endInObject)⟩
  | '\x7d' :: _ => ⟨here, some c.next.place, none⟩
  | ',' :: _ => ⟨here, here, some (c.peekFault .trailingComma)⟩
  | _ => ⟨here, here, some (c.peekFault .trailingCharacters)⟩

/-- How many brackets may be open at once. -/
def nestingLimit : Nat := 127

/-- What comes between the parts of a bracket: its end, a fault, or the next part, which begins at the
cursor. -/
inductive Between where
  | stop (c : Cursor)
  | bad (f : Fault)
  | part (c : Cursor)

/-- Looks for the next item of a list. -/
def nextItem (first : Bool) (c : Cursor) : Between :=
  let c := c.skipSpace
  match c.rest with
  | [] => .bad (c.peekFault .endInList)
  | ']' :: _ => .stop c.next
  | ch :: _ =>
    if first then .part c
    else if ch = ',' then
      let c := c.next.skipSpace
      match c.rest with
      | [] => .bad (c.peekFault .endInValue)
      | ']' :: _ => .bad (c.peekFault .trailingComma)
      | _ => .part c
    else .bad (c.peekFault .expectedListCommaOrEnd)

/-- Looks for the next member of an object. -/
def nextMember (first : Bool) (c : Cursor) : Between :=
  let c := c.skipSpace
  match c.rest with
  | [] => .bad (c.peekFault .endInObject)
  | '\x7d' :: _ => .stop c.next
  | ch :: _ =>
    if first then if ch = '"' then .part c else .bad (c.peekFault .keyMustBeText)
    else if ch = ',' then
      let c := c.next.skipSpace
      match c.rest with
      | [] => .bad (c.peekFault .endInValue)
      | '"' :: _ => .part c
      | '\x7d' :: _ => .bad (c.peekFault .trailingComma)
      | _ => .bad (c.peekFault .keyMustBeText)
    else .bad (c.peekFault .expectedObjectCommaOrEnd)

/-- Looks for the colon behind a key. -/
def expectColon (c : Cursor) : Except Fault Cursor :=
  let c := c.skipSpace
  match c.rest with
  | [] => .error (c.peekFault .endInObject)
  | ':' :: _ => .ok c.next
  | _ => .error (c.peekFault .expectedColon)

/-- A scalar that has been read, or the fault met in it. -/
def Node.scalar (start : Mark) (broken : Fault → Content) :
    Except Fault (Content × Cursor) → Node × Option Cursor
  | .ok (content, c) => (.mk start (some c.place) content, some c)
  | .error f => (.mk start none (broken f), none)

mutual

/-- Reads the value at the cursor; `depth` more brackets may be opened. Gives the place behind it, unless
a fault of the text keeps it from ending. -/
def Node.read : Nat → Nat → Cursor → Node × Option Cursor
  | 0, _, c => (.mk none none (.absent (c.peekFault .endInValue)), none)
  | fuel + 1, depth, c =>
    let c := c.skipSpace
    let start := some c.peekPlace
    let word (w : List Char) (content : Content) :=
      Node.scalar start .bad ((expectWord c.next w).map fun c => (content, c))
    match c.rest with
    | [] => (.mk start start (.absent (c.peekFault .endInValue)), none)
    | 'n' :: _ => word ['u', 'l', 'l'] .null
    | 't' :: _ => word ['r', 'u', 'e'] (.flag true)
    | 'f' :: _ => word ['a', 'l', 's', 'e'] (.flag false)
    | '"' :: _ => Node.scalar start .badText ((readText c.next).map fun (s, c) => (.text s, c))
    | '[' :: _ =>
      match depth with
      | 0 => (.mk start (some c.place)
          (.array (.bad (closeList c.next) (c.peekFault .nestingLimit))), none)
      | depth + 1 =>
        let (items, stop) := Items.read fuel depth true c.next
        (.mk start (some c.place) (.array items), stop)
    | '\x7b' :: _ =>
      match depth with
      | 0 =>
        let f := c.peekFault .nestingLimit
        (.mk start (some c.place) (.object (.mk start start (.bad f)) (.bad (closeObject c.next) f)), none)
      | depth + 1 =>
        let (lead, _) := Node.read fuel depth c.next
        let (members, stop) := Members.read fuel depth true c.next
        (.mk start (some c.place) (.object lead members), stop)
    | ch :: _ =>
      if ch = '-' ∨ ch.isDigit then
        Node.scalar start .bad ((readNumeral c).map fun (n, c) => (.number n, c))
      else (.mk start start (.bad (c.peekFault .expectedValue)), none)

def Items.read : Nat → Nat → Bool → Cursor → Items × Option Cursor
  | 0, _, _, c =>
    let f := c.peekFault .endInList
    (.bad ⟨some c.place, some c.place, some f⟩ f, none)
  | fuel + 1, depth, first, c =>
    match nextItem first c with
    | .stop behind => (.nil (closeList c), some behind)
    | .bad f => (.bad (closeList c) f, none)
    | .part front =>
      let (head, stop) := Node.read fuel depth front
      match stop with
      | some behind =>
        let (tail, stop) := Items.read fuel depth false behind
        (.cons (closeList c) head tail, stop)
      | none => (.cons (closeList c) head (.bad (closeList front) (front.peekFault .endInList)), none)

def Members.read : Nat → Nat → Bool → Cursor → Members × Option Cursor
  | 0, _, _, c => (.bad (closeObject c) (c.peekFault .endInObject), none)
  | fuel + 1, depth, first, c =>
    match nextMember first c with
    | .stop behind => (.nil (closeObject c), some behind)
    | .bad f => (.bad (closeObject c) f, none)
    | .part front =>
      match readText front.next with
      | .error f => (.bad (closeObject c) f, none)
      | .ok (key, behindKey) =>
        let afterKey := closeObject behindKey
        match expectColon behindKey with
        | .error f =>
          (.cons (closeObject c) key afterKey (.mk none none (.absent f)) (.bad afterKey f), none)
        | .ok front =>
          let (value, stop) := Node.read fuel depth front
          -- a value that nobody asks for need only have an end
          match (match stop with
            | some behind => Except.ok behind
            | none => skipValue front) with
          | .error f => (.cons (closeObject c) key afterKey value (.bad (closeObject front) f), none)
          | .ok behind =>
            let (tail, stop) := Members.read fuel depth false behind
            (.cons (closeObject c) key afterKey value tail, stop)

end

/-- Reads the one value of a text with `decode`; nothing but space may follow it. -/
def decodeText {α : Type} (decode : Node → Except Fault α) (text : String) : Except Fault α := do
  let (node, stop) := Node.read (2 * text.length + 2) nestingLimit (.ofText text)
  let a ← decode node
  match stop with
  | none => throw (.unplaced .endInValue)
  | some c =>
    let c := c.skipSpace
    if c.rest.isEmpty then return a else throw (c.peekFault .trailingCharacters)

/-- Between the parts of a finished document every bracket closes; where parts are left over, `length` says
how many there were. -/
def Close.ofDocument (left : Bool) (length : Nat) : Close :=
  ⟨none, none, if left then some (.unplaced (.wrongLength length "fewer elements in array")) else none⟩

mutual

/-- A finished document as a node; nothing in it has a place. -/
def Node.ofDocument : Document → Node
  | .null => .mk none none .null
  | .flag b => .mk none none (.flag b)
  | .number n => .mk none none (.number n)
  | .text s => .mk none none (.text s)
  | .array items => .mk none none (.array (Items.ofDocuments items.length items))
  | .object members =>
    .mk none none (.object (.mk none none .null) (Members.ofDocuments members))

def Items.ofDocuments (length : Nat) : List Document → Items
  | [] => .nil (.ofDocument false length)
  | d :: rest => .cons (.ofDocument true length) (Node.ofDocument d) (Items.ofDocuments length rest)

def Members.ofDocuments : List (String × Document) → Members
  | [] => .nil (.ofDocument false 0)
  | (k, d) :: rest =>
    .cons (.ofDocument false 0) k (.ofDocument false 0) (Node.ofDocument d) (Members.ofDocuments rest)

end

/-- Decodes a finished document. -/
def decodeDocument {α : Type} (decode : Node → Except Fault α) (d : Document) : Except Fault α :=
  decode (Node.ofDocument d)

end RuleTree.Json
