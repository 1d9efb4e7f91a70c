import RuleTree.Rule.Basic

/-! Groups: the nodes of a filter tree. A group owns rules and child groups, each list in order. -/

namespace RuleTree

inductive Group where
  | mk (rules : List Rule) (groups : List Group) (connective : Connective)

namespace Group

def rules : Group → List Rule
  | mk rules _ _ => rules

def groups : Group → List Group
  | mk _ groups _ => groups

/-- How the group joins the siblings before it. -/
def connective : Group → Connective
  | mk _ _ connective => connective

/-- A group with nothing in it. -/
def empty (connective : Connective) : Group := mk [] [] connective

instance : Inhabited Group := ⟨empty .and⟩

def addRule (g : Group) (r : Rule) : Group := mk (g.rules ++ [r]) g.groups g.connective

def addGroup (g child : Group) : Group := mk g.rules (g.groups ++ [child]) g.connective

def withConnective (g : Group) (c : Connective) : Group := mk g.rules g.groups c

def hasChildren (g : Group) : Bool := !g.groups.isEmpty

mutual

/-- Levels of groups in the tree, the root's own among them. -/
def depth : Group → Nat
  | mk _ groups _ => 1 + depthAll groups

/-- The greatest depth in a list of trees. -/
def depthAll : List Group → Nat
  | [] => 0
  | g :: rest => max (depth g) (depthAll rest)

end

mutual

/-- Rules in the whole tree. -/
def ruleCount : Group → Nat
  | mk rules groups _ => rules.length + ruleCountAll groups

def ruleCountAll : List Group → Nat
  | [] => 0
  | g :: rest => ruleCount g + ruleCountAll rest

end

/-- A list that folds on its own before it is joined to something: parentheses unless it has one
element. -/
def displayFolded (items : List (Connective × String)) : String :=
  match items with
  | [(_, text)] => text
  | _ => "(" ++ joinShown items ++ ")"

mutual

/-- The group as it is shown, with parentheses where the fold puts them. -/
def display : Group → String
  | mk rules groups _ =>
    let shownRules := rules.map fun r => (r.connective, r.display)
    match groups with
    | [] => if rules.isEmpty then "TRUE" else "(" ++ joinShown shownRules ++ ")"
    | first :: rest =>
      let shownGroups := (first.connective, display first) :: displayAll rest
      if rules.isEmpty then "(" ++ joinShown shownGroups ++ ")"
      else
        "(" ++ displayFolded shownRules ++ " " ++ first.connective.display ++ " " ++
          displayFolded shownGroups ++ ")"

def displayAll : List Group → List (Connective × String)
  | [] => []
  | g :: rest => (g.connective, display g) :: displayAll rest

end

mutual

def same : Group → Group → Bool
  | mk rules₁ groups₁ c₁, mk rules₂ groups₂ c₂ =>
    rules₁.length == rules₂.length && (rules₁.zip rules₂).all (fun (a, b) => a.same b) &&
      sameAll groups₁ groups₂ && c₁ == c₂

def sameAll : List Group → List Group → Bool
  | [], [] => true
  | a :: as, b :: bs => same a b && sameAll as bs
  | _, _ => false

end

end Group

end RuleTree
