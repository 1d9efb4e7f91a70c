import RuleTree.Unicode.Category
import RuleTree.Unicode.Property

/-! Quoted text for diagnostics: what would not show on a page, or would join the character before it,
is written as an escape. -/

namespace RuleTree

/-- Code points that do not show: controls, formats, unassigned and private ones, and every separator. The
space is among them and excepted where it is used. -/
def hiddenCodes : CodeRanges :=
  Unicode.codesOf Unicode.categories ["cc", "cf", "cn", "co", "zl", "zp", "zs"]

/-- Code points that extend the character before them. -/
def extendingCodes : CodeRanges := Unicode.codesOf Unicode.properties ["grext"]

/-- Is the character shown as itself inside quotes? -/
def showsAsItself (c : Char) : Bool :=
  if c.toNat < 127 then 32 ≤ c.toNat else !(hiddenCodes.has c || extendingCodes.has c)

/-- One character inside quotes. -/
def quotedChar (c : Char) : List Char :=
  if c = '"' then ['\\', '"']
  else if c = '\\' then ['\\', '\\']
  else if c = '\n' then ['\\', 'n']
  else if c = '\r' then ['\\', 'r']
  else if c = '\t' then ['\\', 't']
  else if c = '\x00' then ['\\', '0']
  else if showsAsItself c then [c]
  else ['\\', 'u', '\x7b'] ++ Nat.toDigits 16 c.toNat ++ ['\x7d']

/-- The text in double quotes. -/
def quoted (s : String) : String :=
  String.ofList ('"' :: s.toList.flatMap quotedChar ++ ['"'])

end RuleTree
