import RuleTree.Pattern.Syntax
import RuleTree.Unicode.Age
import RuleTree.Unicode.CaseFolding
import RuleTree.Unicode.Category
import RuleTree.Unicode.Property
import RuleTree.Unicode.Script
import RuleTree.Unicode.ScriptExtension
import RuleTree.Unicode.Segmentation

/-! The sets that property classes name. Names are compared loosely: without case, blanks, hyphens,
underscores, and a leading `is`. -/

namespace RuleTree.Pattern

open Unicode

/-- The loose form of a name. The one-letter name that is left of `isc` keeps its `is`. -/
def looseName (s : String) : String :=
  let cs := s.toList
  let isPrefixed := match cs with
    | a :: b :: _ => (a = 'i' || a = 'I') && (b = 's' || b = 'S')
    | _ => false
  let rest := if isPrefixed then cs.drop 2 else cs
  let kept := (rest.filter fun c => c.toNat < 128 && c != ' ' && c != '_' && c != '-').map Char.toLower
  if isPrefixed && kept = ['c'] then "isc" else String.ofList kept

/-- General categories that are unions of others. -/
def categoryUnions : List (List String × List String) :=
  [(["c", "other"], ["cc", "cf", "cn", "co"]),
    (["l", "letter"], ["lu", "ll", "lt", "lm", "lo"]),
    (["lc", "casedletter"], ["lu", "ll", "lt"]),
    (["m", "mark", "combiningmark"], ["mc", "me", "mn"]),
    (["n", "number"], ["nd", "nl", "no"]),
    (["p", "punctuation", "punct"], ["pc", "pd", "pe", "pf", "pi", "po", "ps"]),
    (["s", "symbol"], ["sc", "sk", "sm", "so"]),
    (["z", "separator"], ["zl", "zp", "zs"])]

/-- The set of a general category, by its loose name. -/
def category? (name : String) : Except Cause (Option CodeRanges) :=
  if name = "any" then .ok (some .all)
  else if name = "assigned" then .ok (some (codesOf categories ["cn"]).complement)
  else if name = "ascii" then .ok (some ⟨[(0, 127)]⟩)
  else if name = "cs" ∨ name = "surrogate" then .error .propertyValueNotFound
  else match categoryUnions.find? fun u => u.1.contains name with
    | some (_, parts) => .ok (some (codesOf categories parts))
    | none => .ok ((lookup? categories name).map Table.codes)

/-- The set of a script, by its loose name. -/
def script? (tables : List Table) (name : String) : Except Cause (Option CodeRanges) :=
  if ["zzzz", "unknown", "hrkt", "katakanaorhiragana"].contains name then .error .propertyValueNotFound
  else .ok ((lookup? tables name).map Table.codes)

/-- Code points that the given version or an earlier one assigned. -/
def assignedBy? (version : String) : Option CodeRanges :=
  let earlier := ages.takeWhile fun t => !t.names.contains version
  match ages.drop earlier.length with
  | [] => none
  | t :: _ => some (.unionAll ((earlier ++ [t]).map Table.codes))

/-- Properties that are known by name and whose values no class can ask for. -/
def otherProperties : List String :=
  ["kaccountingnumeric", "cjkaccountingnumeric", "kothernumeric", "cjkothernumeric", "kprimarynumeric",
    "cjkprimarynumeric", "nv", "numericvalue", "bmg", "bidimirroringglyph", "bpb",
    "bidipairedbracket", "cf", "casefolding", "kcompatibilityvariant", "cjkcompatibilityvariant", "dm",
    "decompositionmapping", "equideo", "equivalentunifiedideograph", "fcnfkc", "fcnfkcclosure", "isc",
    "isocomment", "kiicore", "cjkiicore", "kirggsource", "kirghsource", "kirgjsource",
    "kirgkpsource", "kirgksource", "kirgmsource", "kirgssource", "kirgtsource", "kirguksource",
    "kirgusource", "kirgvsource", "krsunicode", "cjkrsunicode", "unicoderadicalstroke", "urs", "lc",
    "lowercasemapping", "na", "name", "na1", "unicode1name", "namealias", "nfkccf",
    "nfkccasefold", "nfkcscf", "nfkcsimplecasefold", "scf", "sfc", "simplecasefolding", "slc",
    "simplelowercasemapping", "stc", "simpletitlecasemapping", "suc", "simpleuppercasemapping", "tc",
    "titlecasemapping", "uc", "uppercasemapping", "blk", "block", "bc", "bidiclass", "bpt",
    "bidipairedbrackettype", "ccc", "canonicalcombiningclass", "dt", "decompositiontype", "ea",
    "eastasianwidth", "hst", "hangulsyllabletype", "idcompatmathcontinue", "idcompatmathstart", "idst",
    "incb", "indicconjunctbreak", "inpc", "indicpositionalcategory", "insc",
    "indicsyllabiccategory", "jg", "joininggroup", "jt", "joiningtype", "lb", "linebreak",
    "nfcqc", "nfcquickcheck", "nfdqc", "nfdquickcheck", "nfkcqc", "nfkcquickcheck", "nfkdqc",
    "nfkdquickcheck", "nt", "numerictype", "vo", "verticalorientation", "ce",
    "compositionexclusion", "compex", "fullcompositionexclusion", "xonfc", "expandsonnfc", "xonfd",
    "expandsonnfd", "xonfkc", "expandsonnfkc", "xonfkd", "expandsonnfkd", "mcm",
    "modifiercombiningmark", "idsu", "idsunaryoperator", "cwkcf"]

/-- Properties whose values can be asked for. -/
def valuedProperties : List String :=
  ["gc", "generalcategory", "sc", "script", "scx", "scriptextensions", "age", "gcb",
    "graphemeclusterbreak", "wb", "wordbreak", "sb", "sentencebreak"]

/-- The set of a class with one name: a property, a general category or a script. The abbreviations `cf`,
`sc` and `lc` mean the categories. -/
def named? (name : String) : Except Cause CodeRanges := do
  let norm := looseName name
  let ambiguous := norm = "cf" || norm = "sc" || norm = "lc"
  if !ambiguous then
    if let some t := lookup? properties norm then return t.codes
    if valuedProperties.contains norm || otherProperties.contains norm then throw .propertyNotFound
  if let some s ← category? norm then return s
  if let some s ← script? scripts norm then return s
  throw .propertyNotFound

/-- The set of a class that asks for the value of a property. -/
def valued? (name value : String) : Except Cause CodeRanges := do
  let property := looseName name
  let value := looseName value
  let found ← (
    if property = "gc" ∨ property = "generalcategory" then category? value
    else if property = "sc" ∨ property = "script" then script? scripts value
    else if property = "scx" ∨ property = "scriptextensions" then script? scriptExtensions value
    else if property = "age" then pure (assignedBy? value)
    else if property = "gcb" ∨ property = "graphemeclusterbreak" then
      pure ((lookup? graphemeBreaks value).map Table.codes)
    else if property = "wb" ∨ property = "wordbreak" then
      pure ((lookup? wordBreaks value).map Table.codes)
    else if property = "sb" ∨ property = "sentencebreak" then
      pure ((lookup? sentenceBreaks value).map Table.codes)
    else if (lookup? properties property).isSome || otherProperties.contains property then pure none
    else throw .propertyNotFound : Except Cause (Option CodeRanges))
  match found with
  | some s => return s
  | none => throw .propertyValueNotFound

/-- The set that a property class names, before negation. -/
def Query.codes? : Query → Except Cause CodeRanges
  | .letter c => named? (String.singleton c)
  | .name n => named? n
  | .value n v _ => valued? n v

/-- Is the class of the query negated by its `!=`? -/
def Query.differs : Query → Bool
  | .value _ _ d => d
  | _ => false

end RuleTree.Pattern
