import RuleTree.Proofs.Tree.Formula

/-! Leaves that are told apart by their places. Equal rules of a filter have one leaf; in a numbered filter every rule
has a leaf of its own, whose calls name the place of the rule. -/

namespace RuleTree

variable {ε α : Type}

/-- The place that a rule of a numbered tree tells. -/
def Rule.place (r : Rule) : Nat := r.field.length

/-- Compiles the rule in each place of a numbered tree to the test of the place, where there is one. -/
def RuleCompiler.placed (tests : Nat → Option (α → Bool)) : RuleCompiler Nat α := fun r =>
  match tests r.place with
  | some f => .ok (.leaf r.place f)
  | none => .error .emptyField

theorem RuleCompiler.leaves_placed (tests : Nat → Option (α → Bool)) (x : α) (r : Rule) :
    (placed tests).leaves x r = (tests r.place).map fun f => ⟨f x, [r.place]⟩ := by
  unfold leaves placed
  cases tests r.place <;> rfl

namespace Group

theorem connective_numbered (n : Nat) (g : Group) : (g.numbered n).connective = g.connective := by
  cases g
  rw [numbered]
  rfl

theorem ruleCountAll_append (as bs : List Group) :
    ruleCountAll (as ++ bs) = ruleCountAll as + ruleCountAll bs := by
  induction as with
  | nil => rw [List.nil_append, ruleCountAll, Nat.zero_add]
  | cons a as ih => rw [List.cons_append, ruleCountAll, ruleCountAll, ih, Nat.add_assoc]

theorem numberedAll_append (n : Nat) (as bs : List Group) :
    numberedAll n (as ++ bs) = numberedAll n as ++ numberedAll (n + ruleCountAll as) bs := by
  induction as generalizing n with
  | nil => rfl
  | cons a as ih =>
    rw [List.cons_append, numberedAll, numberedAll, ih, ruleCountAll, Nat.add_assoc, List.cons_append]

theorem ruleListsAll_append (as bs : List Group) :
    ruleListsAll (as ++ bs) = ruleListsAll as ++ ruleListsAll bs := by
  induction as with
  | nil => rfl
  | cons a as ih => rw [List.cons_append, ruleListsAll, ruleListsAll, ih, List.append_assoc]

end Group

theorem judgeGroups_append (leaf : Leaves ε) (as bs : List Group) :
    judgeGroups leaf (as ++ bs) = judgeGroups leaf as ++ judgeGroups leaf bs := by
  induction as with
  | nil => rfl
  | cons a as ih => rw [List.cons_append, judgeGroups, judgeGroups, ih, List.cons_append]

end RuleTree
