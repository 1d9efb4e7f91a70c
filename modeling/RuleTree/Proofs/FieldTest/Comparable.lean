import RuleTree.Proofs.FieldTest.Preparation

/-! Which fields can be compared with which operands: said of the operand as a rule holds it, and again of what
is prepared of it. A test that compares passes no field but those. -/

namespace RuleTree

/-- What a value is compared as. -/
inductive ComparedAs where
  | text
  | number
  | flag
deriving DecidableEq

def Operand.comparedAs? : Operand → Option ComparedAs
  | .text _ => some .text
  | .number _ | .timestamp _ => some .number
  | .flag _ => some .flag
  | .null | .list _ => none

def FieldValue.comparedAs? : FieldValue → Option ComparedAs
  | .text _ => some .text
  | .number _ | .timestamp _ | .choice _ => some .number
  | .flag _ => some .flag
  | .missing => none

/-- Are the operand and the field compared as the same? -/
def Operand.comparesWith (o : Operand) (v : FieldValue) : Bool :=
  o.comparedAs?.isSome && o.comparedAs? == v.comparedAs?

/-- Can the field be compared with the operand of an operator of this arity? A set wants one member to compare
with, but the empty one takes every field that is there; a range wants numbers. -/
def Arity.comparable : Arity → Operand → FieldValue → Bool
  | .nullary, _, _ => true
  | .unary, o, v => o.comparesWith v
  | .set, o, v => o.candidates.any (·.comparesWith v) || o.candidates.isEmpty && !v.isMissing
  | .range, .list [low, high], v =>
    low.comparedAs? == some .number && high.comparedAs? == some .number &&
      v.comparedAs? == some .number
  | .range, _, _ => false

/-- Can the field be compared with the prepared operand? -/
def Prepared.comparable : Prepared → FieldValue → Bool
  | .nothing, _ => true
  | .scalar s, v => s.comparable v
  | .pattern _, v => v.text?.isSome
  | .set members, v => !v.isMissing && (members.isEmpty || members.any (·.comparable v))
  | .range _ _, v => v.numeric?.isSome

/-! ### Both readings agree -/

theorem Scalar.comparable_eq {o : Operand} {s : Scalar} (hs : ofOperand o = .ok s) (v : FieldValue) :
    s.comparable v = o.comparesWith v := by
  cases o <;> cases hs <;> cases v <;> rfl

theorem Scalar.not_comparable_missing (s : Scalar) : s.comparable .missing = false := by
  cases s <;> rfl

theorem Operand.comparedAs?_of_number? {o : Operand} {n : Number} (h : o.number? = some n) :
    o.comparedAs? = some .number := by
  cases o <;> cases h <;> rfl

theorem FieldValue.isSome_numeric? (v : FieldValue) :
    v.numeric?.isSome = (v.comparedAs? == some .number) := by
  cases v <;> rfl

theorem Prepares.comparable_eq {op : Operator} {o : Operand} {p : Prepared} (hp : Prepares patterns op o p)
    (v : FieldValue) : p.comparable v = op.arity.comparable o v := by
  cases hp with
  | nothing _ harity =>
    rw [harity]
    rfl
  | scalar harity _ hs =>
    rw [harity]
    exact Scalar.comparable_eq hs v
  | pattern harity =>
    rw [harity]
    cases v <;> rfl
  | set harity hmembers =>
    have hany := any_congr_forall₂ hmembers fun c s hs => (Scalar.comparable_eq hs v).symm
    rw [harity, Arity.comparable, Prepared.comparable, hany, isEmpty_congr_forall₂ hmembers]
    cases v with
    | missing => simp [Scalar.not_comparable_missing, FieldValue.isMissing]
    | _ => simp [Bool.or_comm, FieldValue.isMissing]
  | range harity hlow hhigh =>
    rw [harity, Arity.comparable, Operand.comparedAs?_of_number? hlow,
      Operand.comparedAs?_of_number? hhigh]
    exact v.isSome_numeric?

/-- A test that compares passes only fields that can be compared with its operand. -/
theorem FieldTest.comparable_of_passes {op : Operator} (hop : op.presence = false) {p : Prepared}
    {v : FieldValue} (h : passes ⟨op, p⟩ v = true) : p.comparable v = true := by
  cases p with
  | nothing => rfl
  | scalar s =>
    rw [passes_scalar hop] at h
    cases s <;> cases v <;> first | rfl | cases h
  | pattern p =>
    rw [passes_eq hop] at h
    cases v <;> first | rfl | cases h
  | set members =>
    rw [passes_set hop, Bool.and_eq_true] at h
    unfold passesSet at h
    rw [Prepared.comparable, h.1]
    grind
  | range low high =>
    rw [passes_range hop] at h
    cases v <;> first | rfl | cases h

end RuleTree
