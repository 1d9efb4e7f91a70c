import RuleTree.Pattern.Reader
import RuleTree.Unicode.Category
import RuleTree.Unicode.Property

/-! The openings of groups: flags, names, and what is not supported. -/

namespace RuleTree.Pattern

open Reader

def letterCodes : CodeRanges := Unicode.codesOf Unicode.properties ["alpha"]

def numeralCodes : CodeRanges := Unicode.codesOf Unicode.categories ["nd", "nl", "no"]

def isNameChar (first : Bool) (c : Char) : Bool :=
  if first then c = '_' || letterCodes.has c
  else c = '_' || c = '.' || c = '[' || c = ']' || letterCodes.has c || numeralCodes.has c

def flagOf? : Char → Option Flag
  | 'i' => some .caseInsensitive
  | 'm' => some .multiLine
  | 's' => some .dotMatchesNewline
  | 'U' => some .swapGreed
  | 'u' => some .unicode
  | 'R' => some .carriageReturn
  | 'x' => some .ignoreBlanks
  | _ => none

/-- The flags up to the colon or the closing parenthesis; `dangling` is a negation with nothing behind
it yet. -/
def parseFlags : Nat → FlagItems → Option Span → Reader FlagItems
  | 0, items, _ => return items
  | fuel + 1, items, dangling => do
    let c ← current
    let span ← charSpan
    if c = ':' || c = ')' then
      match dangling with
      | some s => fail .flagDanglingNegation s
      | none => return items
    else
      let item ← (if c = '-' then pure .negation
        else match flagOf? c with
          | some f => pure (.flag f)
          | none => fail .flagUnrecognized span : Reader FlagItem)
      match items.find? fun i => i.2 = item with
      | some (first, _) =>
        fail (if item = .negation then .flagRepeatedNegation first else .flagDuplicate first) span
      | none =>
        if !(← bump) then fail .flagUnexpectedEnd (← pointSpan)
        parseFlags fuel (items ++ [(span, item)]) (if item = .negation then some span else none)

/-- The characters of a group name. -/
def groupName : Nat → List Char → Reader (List Char)
  | 0, acc => return acc.reverse
  | fuel + 1, acc => do
    let c ← current
    if c = '>' then return acc.reverse
    if !isNameChar acc.isEmpty c then fail .groupNameInvalid (← charSpan)
    if ← bump then groupName fuel (c :: acc) else return (c :: acc).reverse

/-- The name of a group up to its closing bracket. -/
def parseGroupName : Reader Unit := do
  if ← atEnd then fail .groupNameUnexpectedEnd (← pointSpan)
  let start ← place
  let name ← groupName (← budget) []
  let stop ← place
  if ← atEnd then fail .groupNameUnexpectedEnd (← pointSpan)
  let _ ← bump
  if name.isEmpty then fail .groupNameEmpty (.point start)
  let name := String.ofList name
  let span : Span := ⟨start, stop⟩
  match (← get).names.lookup name with
  | some first => fail (.groupNameDuplicate first) span
  | none => modify fun s => { s with names := (name, span) :: s.names }

/-- The opening of a group: flags for the rest of the enclosing group, or the kind of a new group. -/
inductive Opening where
  | directive (span : Span) (items : FlagItems)
  | group (span : Span) (kind : GroupKind)

/-- Reads the opening of a group; reading stands on its parenthesis. -/
def parseOpening : Reader Opening := do
  let parenthesis ← charSpan
  let _ ← bump
  skipBlanks
  if ← bumpIf "?=" <||> bumpIf "?!" <||> bumpIf "?<=" <||> bumpIf "?<!" then
    fail .lookAround ⟨parenthesis.start, ← place⟩
  let inner ← pointSpan
  if ← bumpIf "?P<" <||> bumpIf "?<" then
    parseGroupName
    return .group parenthesis .capture
  else if ← bumpIf "?" then
    if ← atEnd then fail .groupUnclosed parenthesis
    let items ← parseFlags (← budget) [] none
    let closing ← current
    let _ ← bump
    if closing = ')' then
      if items.isEmpty then fail .repetitionMissing inner
      return .directive ⟨parenthesis.start, ← place⟩ items
    else return .group parenthesis (.plain items)
  else return .group parenthesis .capture

end RuleTree.Pattern
