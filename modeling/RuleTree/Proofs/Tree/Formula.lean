import RuleTree.Proofs.Tree.Monotone
import RuleTree.Proofs.Tree.Shape
import RuleTree.Proofs.Tree.Steps

/-! The formula of a tree: its rules in pre-order, joined as the tree joins them. A compiled tree holds where its
formula does, when each leaf of the formula has the truth of the rule in its place. -/

namespace RuleTree

/-- Leaves under binary connectives. -/
inductive Formula (α : Type) where
  | top
  | leaf (a : α)
  | join (c : Connective) (left right : Formula α)

namespace Formula

variable {α β : Type}

def leaves : Formula α → List α
  | top => []
  | leaf a => [a]
  | join _ left right => left.leaves ++ right.leaves

def map (f : α → β) : Formula α → Formula β
  | top => top
  | leaf a => leaf (f a)
  | join c left right => join c (left.map f) (right.map f)

/-- The truth of the formula, given the truth of each leaf. -/
def holds (f : α → Bool) : Formula α → Bool
  | top => true
  | leaf a => f a
  | join c left right => c.apply (left.holds f) (right.holds f)

/-- The truth of the formula, given a truth for each place of a leaf; the first leaf is in place `n`. -/
def holdsAt (a : Nat → Bool) (n : Nat) : Formula α → Bool
  | top => true
  | leaf _ => a n
  | join c left right => c.apply (left.holdsAt a n) (right.holdsAt a (n + left.leaves.length))

/-- Joins formulas onto `e` from left to right, each by its own connective. -/
def joinOnto (e : Formula α) (rest : List (Connective × Formula α)) : Formula α :=
  rest.foldl (fun acc w => acc.join w.1 w.2) e

/-- Siblings fold from the first one on, whose connective takes no part. -/
def joinAll : List (Connective × Formula α) → Formula α
  | [] => top
  | (_, first) :: rest => first.joinOnto rest

/-! ### Maps -/

theorem leaves_map (f : α → β) (e : Formula α) : (e.map f).leaves = e.leaves.map f := by
  induction e with
  | top | leaf => rfl
  | join c left right ihl ihr => rw [map, leaves, leaves, ihl, ihr, List.map_append]

theorem holdsAt_map (f : α → β) (a : Nat → Bool) (e : Formula α) (n : Nat) :
    (e.map f).holdsAt a n = e.holdsAt a n := by
  induction e generalizing n with
  | top | leaf => rfl
  | join c left right ihl ihr => rw [map, holdsAt, holdsAt, ihl, ihr, leaves_map, List.length_map]

theorem holds_eq_holdsAt {f : α → Bool} {a : Nat → Bool} {e : Formula α} {n : Nat}
    (h : ∀ i b, e.leaves[i]? = some b → f b = a (n + i)) : e.holds f = e.holdsAt a n := by
  induction e generalizing n with
  | top => rfl
  | leaf b => exact h 0 b rfl
  | join c left right ihl ihr =>
    -- the places of the right side begin behind the leaves of the left one
    rw [holds, holdsAt, ihl fun i b hb => h i b ?_, ihr fun i b hb => ?_]
    · rw [Nat.add_assoc]
      apply h
      rw [leaves, List.getElem?_append_right (Nat.le_add_right _ _), Nat.add_sub_cancel_left, hb]
    · have hlt := (List.getElem?_eq_some_iff.1 hb).1
      rw [leaves, List.getElem?_append_left hlt, hb]

theorem map_joinOnto (f : α → β) (e : Formula α) (rest : List (Connective × Formula α)) :
    (e.joinOnto rest).map f = (e.map f).joinOnto (rest.map fun w => (w.1, w.2.map f)) := by
  induction rest generalizing e with
  | nil => rfl
  | cons w rest ih => exact ih (e.join w.1 w.2)

theorem map_joinAll (f : α → β) (es : List (Connective × Formula α)) :
    (joinAll es).map f = joinAll (es.map fun w => (w.1, w.2.map f)) := by
  cases es with
  | nil => rfl
  | cons first rest => exact map_joinOnto f first.2 rest

/-- The formula without what its leaves hold. -/
def outline (e : Formula α) : Formula Unit := e.map fun _ => ()

theorem holdsAt_outline (a : Nat → Bool) (e : Formula α) (n : Nat) :
    e.outline.holdsAt a n = e.holdsAt a n :=
  holdsAt_map _ a e n

theorem outline_joinAll (es : List (Connective × Formula α)) :
    (joinAll es).outline = joinAll (es.map fun w => (w.1, w.2.outline)) :=
  map_joinAll _ es

theorem leaves_joinOnto (e : Formula α) (rest : List (Connective × Formula α)) :
    (e.joinOnto rest).leaves = e.leaves ++ rest.flatMap fun w => w.2.leaves := by
  induction rest generalizing e with
  | nil => exact (List.append_nil _).symm
  | cons w rest ih =>
    rw [List.flatMap_cons, ← List.append_assoc]
    exact ih (e.join w.1 w.2)

theorem leaves_joinAll (es : List (Connective × Formula α)) :
    (joinAll es).leaves = es.flatMap fun w => w.2.leaves := by
  cases es with
  | nil => rfl
  | cons first rest => exact leaves_joinOnto first.2 rest

end Formula

/-! ### The formula of a tree -/

def rulesFormula (rules : List Rule) : Formula Rule :=
  .joinAll (rules.map fun r => (r.connective, .leaf r))

namespace Group

mutual

/-- The group's rules joined to its children by the connective of the first child; either part alone where the
other is missing. -/
def formula : Group → Formula Rule
  | mk rules groups _ =>
    let children := Formula.joinAll (formulas groups)
    match groups with
    | [] => rulesFormula rules
    | first :: _ => if rules.isEmpty then children else .join first.connective (rulesFormula rules) children

def formulas : List Group → List (Connective × Formula Rule)
  | [] => []
  | g :: rest => (g.connective, formula g) :: formulas rest

end

theorem leaves_rulesFormula (rules : List Rule) : (rulesFormula rules).leaves = rules := by
  rw [rulesFormula, Formula.leaves_joinAll, List.flatMap_map]
  exact List.flatMap_singleton' rules

mutual

theorem leaves_formula : ∀ g : Group, g.formula.leaves = g.ruleLists.flatten
  | mk rules [] _ => by
    rw [formula, leaves_rulesFormula]
    exact (List.append_nil rules).symm
  | mk rules (first :: others) _ => by
    have hchildren := leaves_formulas (first :: others)
    cases rules with
    | nil => exact hchildren
    | cons r rest =>
      simp only [formula, List.isEmpty_cons, Bool.false_eq_true, if_false, Formula.leaves,
        leaves_rulesFormula, hchildren]
      rfl

theorem leaves_formulas : ∀ groups : List Group,
    (Formula.joinAll (formulas groups)).leaves = (ruleListsAll groups).flatten
  | [] => rfl
  | g :: rest => by
    have hrest := leaves_formulas rest
    rw [Formula.leaves_joinAll] at hrest
    rw [Formula.leaves_joinAll, formulas, List.flatMap_cons, leaves_formula g, hrest, ruleListsAll,
      List.flatten_append]

end

end Group

/-! ### Evaluation -/

variable {ε α : Type}

/-- Does the leaf of the rule hold? A rule without a leaf does not. -/
def Leaves.truth (leaf : Leaves ε) (r : Rule) : Bool := (leaf r).any fun v => v.holds

/-- Every rule of the list has a leaf. -/
def Leaves.Covers (leaf : Leaves ε) (rules : List Rule) : Prop := ∀ r ∈ rules, ∃ v, leaf r = some v

namespace Verdict

/-- A sibling and its formula: of one connective and one truth. -/
def Fits (leaf : Leaves ε) (w : Connective × Verdict ε) (e : Connective × Formula Rule) : Prop :=
  w.1 = e.1 ∧ w.2.holds = e.2.holds leaf.truth

variable {leaf : Leaves ε} {ws : List (Connective × Verdict ε)} {es : List (Connective × Formula Rule)}

theorem joinOnto_fits (hs : List.Forall₂ (Fits leaf) ws es) {v : Verdict ε} {e : Formula Rule}
    (h : v.holds = e.holds leaf.truth) :
    (v.joinOnto ws).holds = (e.joinOnto es).holds leaf.truth := by
  induction hs generalizing v e with
  | nil => exact h
  | @cons w e' ws es hw _ ih =>
    refine ih (e := e.join e'.1 e'.2) ?_
    rw [join_holds, Formula.holds, h, hw.1, hw.2]

theorem joinAll_fits (hs : List.Forall₂ (Fits leaf) ws es) :
    (joinAll ws).holds = (Formula.joinAll es).holds leaf.truth := by
  cases hs with
  | nil => rfl
  | cons h hs => exact joinOnto_fits hs h.2

end Verdict

theorem judgeRules_fits {leaf : Leaves ε} :
    ∀ {rules : List Rule}, leaf.Covers rules → ∃ ws, judgeRules leaf rules = some ws ∧
      List.Forall₂ (Verdict.Fits leaf) ws (rules.map fun r => (r.connective, .leaf r))
  | [], _ => ⟨[], rfl, .nil⟩
  | r :: rest, h => by
    obtain ⟨v, hv⟩ := h r List.mem_cons_self
    obtain ⟨ws, hws, hfits⟩ := judgeRules_fits fun s hs => h s (List.mem_cons_of_mem r hs)
    have hr : leaf.truth r = v.holds := by rw [Leaves.truth, hv, Option.any_some]
    refine ⟨(r.connective, v) :: ws, ?_, .cons ⟨rfl, hr.symm⟩ hfits⟩
    rw [judgeRules_cons, hv, hws]
    rfl

theorem evaluateRules_holds {leaf : Leaves ε} {rules : List Rule} (h : leaf.Covers rules) :
    (evaluateRules leaf rules).holds = (rulesFormula rules).holds leaf.truth := by
  obtain ⟨ws, hws, hfits⟩ := judgeRules_fits h
  rw [evaluateRules, hws]
  exact Verdict.joinAll_fits hfits

mutual

theorem evaluateGroup_holds {leaf : Leaves ε} : ∀ {g : Group}, leaf.Covers g.ruleLists.flatten →
    (evaluateGroup leaf g).holds = g.formula.holds leaf.truth
  | .mk rules groups _, h => by
    rw [Group.ruleLists, List.flatten_cons] at h
    have hown := evaluateRules_holds fun r hr => h r (List.mem_append_left _ hr)
    have hchildren := Verdict.joinAll_fits (judgeGroups_fits fun r hr => h r (List.mem_append_right _ hr))
    cases groups with
    | nil => exact hown
    | cons first others =>
      cases rules with
      | nil => exact hchildren
      | cons r rest =>
        simp only [evaluateGroup, Group.formula, List.isEmpty_cons, Bool.false_eq_true, if_false,
          Verdict.join_holds, Formula.holds, hown, hchildren]

theorem judgeGroups_fits {leaf : Leaves ε} : ∀ {groups : List Group},
    leaf.Covers (Group.ruleListsAll groups).flatten →
      List.Forall₂ (Verdict.Fits leaf) (judgeGroups leaf groups) (Group.formulas groups)
  | [], _ => .nil
  | g :: rest, h => by
    rw [Group.ruleListsAll, List.flatten_append] at h
    exact .cons ⟨rfl, evaluateGroup_holds fun r hr => h r (List.mem_append_left _ hr)⟩
      (judgeGroups_fits fun r hr => h r (List.mem_append_right _ hr))

end

/-! ### Places -/

namespace Group

/-- The trees differ at most in what their rules test. -/
def SameShape : Group → Group → Prop := Lift fun r r' => r'.connective = r.connective

theorem sameShape_refl (g : Group) : g.SameShape g := Lift.refl (fun r => Eq.refl r.connective) g

theorem outline_rulesFormula {rules rules' : List Rule}
    (h : List.Forall₂ (fun r r' : Rule => r'.connective = r.connective) rules rules') :
    (rulesFormula rules').outline = (rulesFormula rules).outline := by
  rw [rulesFormula, rulesFormula, Formula.outline_joinAll, Formula.outline_joinAll]
  congr 1
  induction h with
  | nil => rfl
  | cons hr _ ih =>
    rw [List.map_cons, List.map_cons, List.map_cons, List.map_cons, ih]
    simp only [Formula.outline, Formula.map, hr]

mutual

theorem SameShape.outline_formula : ∀ {g g' : Group}, g.SameShape g' →
    g'.formula.outline = g.formula.outline
  | _, _, .mk c hrules hgroups => by
    have hown := outline_rulesFormula hrules
    have hchildren := congrArg Formula.joinAll (SameShape.outline_formulas hgroups)
    rw [← Formula.outline_joinAll, ← Formula.outline_joinAll] at hchildren
    cases hgroups with
    | nil => exact hown
    | cons hfirst hothers =>
      cases hrules with
      | nil => exact hchildren
      | cons hr hrest =>
        simp only [Formula.outline] at hown hchildren
        simp only [formula, List.isEmpty_cons, Bool.false_eq_true, if_false, Formula.outline, Formula.map,
          hown, hchildren, hfirst.connective]

theorem SameShape.outline_formulas : ∀ {groups groups' : List Group},
    List.Forall₂ (Lift fun r r' => r'.connective = r.connective) groups groups' →
      (formulas groups').map (fun w => (w.1, w.2.outline)) =
        (formulas groups).map fun w => (w.1, w.2.outline)
  | _, _, .nil => rfl
  | _, _, .cons hg hrest => by
    have hfirst := SameShape.outline_formula hg
    have hothers := SameShape.outline_formulas hrest
    rw [formulas, formulas, List.map_cons, List.map_cons, hfirst, hothers, hg.connective]

end

/-- The rule in each place of the tree compiles, to a leaf that has the truth of the place for the entity. -/
def Assigned (g : Group) (compile : RuleCompiler ε α) (x : α) (a : Nat → Bool) : Prop :=
  ∀ i r, g.ruleLists.flatten[i]? = some r → ∃ p, compile r = .ok p ∧ (p.test x).holds = a i

/-- The compiled tree has the truth of the formula of any tree of its shape. -/
theorem SameShape.compileGroup_holds {g g' : Group} (h : g.SameShape g') {compile : RuleCompiler ε α}
    {x : α} {a : Nat → Bool} (ha : g'.Assigned compile x a) :
    ((compileGroup compile g').predicate.test x).holds = g.formula.holdsAt a 0 := by
  have hcovers : (compile.leaves x).Covers g'.ruleLists.flatten := fun r hr => by
    obtain ⟨i, hi⟩ := List.mem_iff_getElem?.1 hr
    obtain ⟨p, hp, -⟩ := ha i r hi
    exact ⟨_, RuleCompiler.leaves_of_ok hp x⟩
  have hplaces : ∀ i r, g'.formula.leaves[i]? = some r → (compile.leaves x).truth r = a (0 + i) := by
    intro i r hi
    rw [leaves_formula] at hi
    obtain ⟨p, hp, hholds⟩ := ha i r hi
    rw [Leaves.truth, RuleCompiler.leaves_of_ok hp, Option.any_some, hholds, Nat.zero_add]
  rw [compileGroup_test, evaluateGroup_holds hcovers, Formula.holds_eq_holdsAt hplaces,
    ← Formula.holdsAt_outline, h.outline_formula, Formula.holdsAt_outline]

/-! ### Every assignment -/

/-- The rule on a field whose name is as long as the place says. -/
def inPlace (i : Nat) (r : Rule) : Rule := { r with field := .ofList (.replicate i '#') }

theorem length_field_inPlace (i : Nat) (r : Rule) : (inPlace i r).field.length = i := by
  simp [inPlace]

def numberedRules (n : Nat) : List Rule → List Rule
  | [] => []
  | r :: rest => inPlace n r :: numberedRules (n + 1) rest

mutual

/-- The tree with rules that tell their place, the first one being in place `n`. -/
def numbered (n : Nat) : Group → Group
  | mk rules groups c => mk (numberedRules n rules) (numberedAll (n + rules.length) groups) c

def numberedAll (n : Nat) : List Group → List Group
  | [] => []
  | g :: rest => numbered n g :: numberedAll (n + g.ruleCount) rest

end

theorem forall₂_numberedRules (n : Nat) (rules : List Rule) :
    List.Forall₂ (fun r r' : Rule => r'.connective = r.connective) rules (numberedRules n rules) := by
  induction rules generalizing n with
  | nil => exact .nil
  | cons r rest ih => exact .cons rfl (ih (n + 1))

theorem places_numberedRules (n : Nat) (rules : List Rule) :
    (numberedRules n rules).map (fun r => r.field.length) = List.range' n rules.length := by
  induction rules generalizing n with
  | nil => rfl
  | cons r rest ih =>
    rw [numberedRules, List.map_cons, length_field_inPlace, ih, List.length_cons, List.range'_succ]

mutual

theorem sameShape_numbered : ∀ (n : Nat) (g : Group), g.SameShape (g.numbered n)
  | n, mk rules groups c => .mk c (forall₂_numberedRules n rules) (sameShape_numberedAll _ groups)

theorem sameShape_numberedAll : ∀ (n : Nat) (groups : List Group),
    List.Forall₂ (Lift fun r r' => r'.connective = r.connective) groups (numberedAll n groups)
  | _, [] => .nil
  | n, g :: rest => .cons (sameShape_numbered n g) (sameShape_numberedAll _ rest)

end

mutual

theorem places_numbered : ∀ (n : Nat) (g : Group),
    (g.numbered n).ruleLists.flatten.map (fun r => r.field.length) = List.range' n g.ruleCount
  | n, mk rules groups c => by
    rw [numbered, ruleLists, List.flatten_cons, List.map_append, places_numberedRules,
      places_numberedAll, ruleCount, List.range'_append_1]

theorem places_numberedAll : ∀ (n : Nat) (groups : List Group),
    (ruleListsAll (numberedAll n groups)).flatten.map (fun r => r.field.length) =
      List.range' n (ruleCountAll groups)
  | _, [] => rfl
  | n, g :: rest => by
    rw [numberedAll, ruleListsAll, List.flatten_append, List.map_append, places_numbered n g,
      places_numberedAll, ruleCountAll, List.range'_append_1]

end

/-- The places of a shape can have any truths, also those of equal rules. -/
theorem exists_assigned (g : Group) (x : α) (a : Nat → Bool) :
    ∃ g' : Group, g.SameShape g' ∧ ∃ compile : RuleCompiler ε α, g'.Assigned compile x a := by
  refine ⟨g.numbered 0, sameShape_numbered 0 g, fun r => .ok (.ofBool fun _ => a r.field.length),
    fun i r hi => ⟨_, rfl, ?_⟩⟩
  have hplace : ((g.numbered 0).ruleLists.flatten.map fun r => r.field.length)[i]? =
      some r.field.length := by
    rw [List.getElem?_map, hi, Option.map_some]
  rw [places_numbered, List.getElem?_eq_some_iff] at hplace
  obtain ⟨hlt, hplace⟩ := hplace
  rw [List.getElem_range', Nat.zero_add, Nat.one_mul] at hplace
  rw [hplace]
  rfl

end Group

end RuleTree
