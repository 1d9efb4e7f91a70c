import RuleTree.Pattern.Basic
import RuleTree.Proofs.FieldTest.Comparable
import RuleTree.Proofs.Number.Comparison

/-! Operators that ask for opposites. Both accept the same operands, exactly one of the two passes a field that
can be compared with the operand, and neither passes any other field. A NaN in the field or the operand is left
out: it is in no order to anything. -/

namespace RuleTree

/-- The operator that asks for the opposite. -/
def Operator.complement? : Operator → Option Operator
  | .equal => some .notEqual
  | .beginsWith => some .notBeginsWith
  | .endsWith => some .notEndsWith
  | .contains => some .notContains
  | .memberOf => some .notMemberOf
  | .between => some .notBetween
  | .greater => some .lessOrEqual
  | .less => some .greaterOrEqual
  | .after => some .lessOrEqual
  | .before => some .greaterOrEqual
  | .isNull => some .isNotNull
  | .isEmpty => some .isNotEmpty
  | _ => none

/-! ### Numbers that are no NaN -/

mutual

/-- Is some number of the operand a NaN? -/
def Operand.hasNaN : Operand → Bool
  | .number n => n.isNaN
  | .list items => Operand.hasNaNItems items
  | _ => false

def Operand.hasNaNItems : List Operand → Bool
  | [] => false
  | o :: rest => o.hasNaN || Operand.hasNaNItems rest

end

def FieldValue.hasNaN : FieldValue → Bool
  | .number n => n.isNaN
  | _ => false

theorem Operand.hasNaN_of_number? {o : Operand} {n : Number} (h : o.number? = some n) :
    o.hasNaN = n.isNaN := by
  cases o <;> cases h <;> rfl

theorem FieldValue.hasNaN_of_numeric? {v : FieldValue} {n : Number} (h : v.numeric? = some n) :
    v.hasNaN = n.isNaN := by
  cases v <;> cases h <;> rfl

theorem Operand.isNaN_of_number? {o : Operand} {n : Number} (h : o.number? = some n)
    (ho : o.hasNaN = false) : n.isNaN = false :=
  (hasNaN_of_number? h).symm.trans ho

theorem FieldValue.isNaN_of_numeric? {v : FieldValue} {n : Number} (h : v.numeric? = some n)
    (hv : v.hasNaN = false) : n.isNaN = false :=
  (hasNaN_of_numeric? h).symm.trans hv

theorem Number.exists_compare {a b : Number} (ha : a.isNaN = false) (hb : b.isNaN = false) :
    ∃ o, a.compare b = some o := by
  rw [← Option.ne_none_iff_exists', ne_eq, compare_eq_none_iff, ha, hb]
  simp

/-! ### Acceptance -/

variable {patterns : Patterns}

/-- What an operator prepares depends on four of its traits. -/
theorem Prepares.congr {op op' : Operator} (harity : op'.arity = op.arity)
    (htextOnly : op'.textOnly = op.textOnly) (hordering : op'.ordering = op.ordering)
    (hregex : op' = .regex ↔ op = .regex) {o : Operand} {p : Prepared} (hp : Prepares patterns op o p) :
    Prepares patterns op' o p := by
  cases hp with
  | nothing _ h => exact .nothing o (harity.trans h)
  | scalar h hr hs htext hnumber =>
    exact .scalar (harity.trans h) (mt hregex.1 hr) hs (htextOnly ▸ htext) (hordering ▸ hnumber)
  | pattern h hr hp => exact .pattern (harity.trans h) (hregex.2 hr) hp
  | set h hmembers => exact .set (harity.trans h) hmembers
  | range h hlow hhigh => exact .range (harity.trans h) hlow hhigh

namespace Operator

variable {op neg : Operator}

/-- Opposites have the same traits. -/
theorem complement?_traits (h : op.complement? = some neg) :
    neg.arity = op.arity ∧ neg.textOnly = op.textOnly ∧ neg.ordering = op.ordering ∧
      (neg = .regex ↔ op = .regex) := by
  cases op <;> cases h <;> decide

theorem prepares_complement (h : op.complement? = some neg) (o : Operand) (p : Prepared) :
    Prepares patterns neg o p ↔ Prepares patterns op o p := by
  obtain ⟨harity, htext, hordering, hregex⟩ := complement?_traits h
  exact ⟨.congr harity.symm htext.symm hordering.symm hregex.symm,
    .congr harity htext hordering hregex⟩

/-- Equality is the only operator with an opposite that takes a flag. -/
theorem complement?_flag (h : op.complement? = some neg) (harity : op.arity = .unary)
    (htext : op.textOnly = false) (hordering : op.ordering = false) : op = .equal ∧ neg = .notEqual := by
  cases op with
  | equal => cases h; exact ⟨rfl, rfl⟩
  | beginsWith | endsWith | contains => cases htext
  | greater | less | before | after => cases hordering
  | memberOf | between | isNull | isEmpty => cases harity
  | _ => cases h

theorem complement?_set (h : op.complement? = some neg) (harity : op.arity = .set) :
    op = .memberOf ∧ neg = .notMemberOf := by
  cases op with
  | memberOf => cases h; exact ⟨rfl, rfl⟩
  | notMemberOf => cases h
  | _ => cases harity

theorem complement?_range (h : op.complement? = some neg) (harity : op.arity = .range) :
    op = .between ∧ neg = .notBetween := by
  cases op with
  | between => cases h; exact ⟨rfl, rfl⟩
  | notBetween => cases h
  | _ => cases harity

theorem presence_complement (h : op.complement? = some neg) : neg.presence = op.presence := by
  rw [presence, presence, (complement?_traits h).1]

/-! ### Outcomes -/

theorem passes_complement_ordering (h : op.complement? = some neg) (harity : op.arity = .unary)
    (htext : op.textOnly = false) (o : Ordering) : neg.passes o = !op.passes o := by
  cases op with
  | equal | greater | less | before | after => cases h; cases o <;> rfl
  | beginsWith | endsWith | contains => cases htext
  | memberOf | between | isNull | isEmpty => cases harity
  | _ => cases h

end Operator

namespace FieldTest

variable {op neg : Operator}

theorem passesText_complement (h : op.complement? = some neg) (harity : op.arity = .unary)
    (hordering : op.ordering = false) (field operand : String) :
    passesText neg field operand = !passesText op field operand := by
  cases op with
  | equal => cases h; rfl
  | beginsWith | endsWith | contains => cases h; rfl
  | greater | less | before | after => cases hordering
  | memberOf | between | isNull | isEmpty => cases harity
  | _ => cases h

theorem passesNumber_complement (h : op.complement? = some neg) (harity : op.arity = .unary)
    (htext : op.textOnly = false) {field operand : Number} (hfield : field.isNaN = false)
    (hoperand : operand.isNaN = false) :
    passesNumber neg field operand = !passesNumber op field operand := by
  obtain ⟨o, ho⟩ := Number.exists_compare hfield hoperand
  simp only [passesNumber, ho]
  exact Operator.passes_complement_ordering h harity htext o

theorem passesScalar_complement {o : Operand} {s : Scalar} (h : op.complement? = some neg)
    (hp : Prepares patterns op o (.scalar s)) (ho : o.hasNaN = false) {v : FieldValue} (hv : v.hasNaN = false)
    (hcomparable : s.comparable v = true) : passesScalar neg s v = !passesScalar op s v := by
  cases hp with
  | scalar harity _ hs htext hnumber =>
    have htextOnly : (∀ t, s ≠ .text t) → op.textOnly = false := by
      intro hne
      rw [Bool.eq_false_iff]
      intro ht
      obtain ⟨t, rfl⟩ := htext ht
      exact hne t rfl
    have hordering : (∀ n, s ≠ .number n) → op.ordering = false := by
      intro hne
      rw [Bool.eq_false_iff]
      intro hn
      obtain ⟨n, rfl⟩ := hnumber hn
      exact hne n rfl
    cases s with
    | text t =>
      obtain ⟨field, hfield⟩ := Option.isSome_iff_exists.1 hcomparable
      simp only [passesScalar, hfield]
      exact passesText_complement h harity (hordering nofun) field t
    | number n =>
      obtain ⟨field, hfield⟩ := Option.isSome_iff_exists.1 hcomparable
      have hn : n.isNaN = false := Operand.isNaN_of_number? (Scalar.ofOperand_eq_number_iff.1 hs) ho
      simp only [passesScalar, hfield]
      exact passesNumber_complement h harity (htextOnly nofun)
        (FieldValue.isNaN_of_numeric? hfield hv) hn
    | flag b =>
      obtain ⟨field, hfield⟩ := Option.isSome_iff_exists.1 hcomparable
      obtain ⟨rfl, rfl⟩ := Operator.complement?_flag h harity (htextOnly nofun) (hordering nofun)
      simp only [passesScalar, hfield]
      rfl

theorem passesSet_complement {members : List Scalar} {v : FieldValue}
    (hcomparable : (Prepared.set members).comparable v = true) :
    passesSet .notMemberOf members v = !passesSet .memberOf members v := by
  rw [Prepared.comparable, Bool.and_eq_true, Bool.or_eq_true] at hcomparable
  have hguard : (!members.isEmpty && !members.any (·.comparable v)) = false := by
    rcases hcomparable.2 with h | h <;> simp [h]
  unfold passesSet
  rw [hguard]
  rfl

theorem passesRange_complement {low high : Number} (hlow : low.isNaN = false)
    (hhigh : high.isNaN = false) {v : FieldValue} (hv : v.hasNaN = false)
    (hcomparable : v.numeric?.isSome = true) :
    passesRange .notBetween low high v = !passesRange .between low high v := by
  obtain ⟨n, hn⟩ := Option.isSome_iff_exists.1 hcomparable
  have hfield := FieldValue.isNaN_of_numeric? hn hv
  obtain ⟨l, hl⟩ := Number.exists_compare hfield hlow
  obtain ⟨h, hh⟩ := Number.exists_compare hfield hhigh
  simp [passesRange, hn, hl, hh]

/-- Opposites differ on a field that can be compared with the operand. -/
theorem passes_complement_of_comparable {o : Operand} {p : Prepared} (h : op.complement? = some neg)
    (hop : op.presence = false) (hp : Prepares patterns op o p) (ho : o.hasNaN = false) {v : FieldValue}
    (hv : v.hasNaN = false) (hcomparable : p.comparable v = true) :
    passes ⟨neg, p⟩ v = !passes ⟨op, p⟩ v := by
  have hneg : neg.presence = false := (Operator.presence_complement h).trans hop
  have hprepares := hp
  cases hp with
  | nothing _ harity => simp [Operator.presence, harity] at hop
  | scalar =>
    rw [passes_scalar hneg, passes_scalar hop]
    exact passesScalar_complement h hprepares ho hv hcomparable
  -- matching a pattern has no opposite
  | pattern _ hregex =>
    subst hregex
    cases h
  | set harity =>
    obtain ⟨rfl, rfl⟩ := Operator.complement?_set h harity
    have hpresent : v.isMissing = false := by
      cases v <;> first | rfl | cases hcomparable
    rw [passes_set hneg, passes_set hop, passesSet_complement hcomparable, hpresent]
    rfl
  | range harity hlow hhigh =>
    obtain ⟨rfl, rfl⟩ := Operator.complement?_range h harity
    simp only [Operand.hasNaN, Operand.hasNaNItems, Bool.or_eq_false_iff] at ho
    rw [passes_range hneg, passes_range hop]
    exact passesRange_complement (Operand.isNaN_of_number? hlow ho.1)
      (Operand.isNaN_of_number? hhigh ho.2.1) hv hcomparable

/-- Tests for presence say yes and no of the same. -/
theorem passes_complement_of_presence (h : op.complement? = some neg) (hop : op.presence = true)
    (p : Prepared) (v : FieldValue) : passes ⟨neg, p⟩ v = !passes ⟨op, p⟩ v := by
  cases op with
  | isNull | isEmpty => cases h; rfl
  | isNotNull | isNotEmpty => cases h
  | _ => cases hop

/-- A rule with the opposite operator is accepted with the same prepared operand. -/
theorem ofRule_complement (h : op.complement? = some neg) (r : Rule) (p : Prepared) :
    ofRule patterns { r with operator := neg } = .ok ⟨neg, p⟩ ↔
      ofRule patterns { r with operator := op } = .ok ⟨op, p⟩ := by
  rw [ofRule_eq_ok_iff, ofRule_eq_ok_iff]
  exact and_congr (by simp) (Operator.prepares_complement h r.operand p)

/-- An operator and its opposite accept the same operands. Exactly one of them passes a field that can be
compared with the operand, and neither passes any other. Presence is a matter of every field and no operand. -/
theorem passes_complement (patterns : Patterns) (h : op.complement? = some neg) (r : Rule) :
    let test (op : Operator) := ofRule patterns { r with operator := op }
    (test op).isOk = (test neg).isOk ∧ (op.presence = true → (test op).isOk = true) ∧
      ∀ t u, test op = .ok t → test neg = .ok u → ∀ v,
        (op.presence = true → u.passes v = !t.passes v) ∧
        (op.presence = false → r.operand.hasNaN = false → v.hasNaN = false →
          (op.arity.comparable r.operand v = true → u.passes v = !t.passes v) ∧
          (op.arity.comparable r.operand v = false → t.passes v = false ∧ u.passes v = false)) := by
  intro test
  refine ⟨?_, fun hop => ?_, fun t u ht hu v => ?_⟩
  · rw [Bool.eq_iff_iff, isOk_ofRule_iff, isOk_ofRule_iff]
    exact exists_congr fun p => (Operator.prepares_complement h r.operand p).symm
  · rw [isOk_ofRule_iff]
    exact ⟨.nothing, .nothing r.operand (by simpa [Operator.presence] using hop)⟩
  · obtain ⟨tested, p⟩ := t
    obtain ⟨rfl, hp⟩ := ofRule_eq_ok_iff.1 ht
    -- both tests hold one prepared operand, and differ in the operator alone
    have hsame := (ofRule_complement h r p).2 ht
    cases hsame.symm.trans hu
    refine ⟨fun hop => passes_complement_of_presence h hop p v, fun hop ho hv => ?_⟩
    rw [← hp.comparable_eq]
    refine ⟨passes_complement_of_comparable h hop hp ho hv, fun hcomparable => ?_⟩
    have hneg : neg.presence = false := (Operator.presence_complement h).trans hop
    refine ⟨Bool.eq_false_iff.2 fun hpass => ?_, Bool.eq_false_iff.2 fun hpass => ?_⟩
    · exact absurd (comparable_of_passes hop hpass) (by simp [hcomparable])
    · exact absurd (comparable_of_passes hneg hpass) (by simp [hcomparable])

/-- A set of a text and a number: the number seven is absent, and a flag neither present nor absent. -/
theorem passes_complement_mixed :
    let r : Rule := ⟨"age", .equal, .list [.text "a", .number (.unsigned 1)], .and⟩
    let member : FieldTest := ⟨.memberOf, .set [.text "a", .number (.unsigned 1)]⟩
    let absent : FieldTest := ⟨.notMemberOf, .set [.text "a", .number (.unsigned 1)]⟩
    let seven : FieldValue := .timestamp ⟨7⟩
    Operator.memberOf.complement? = some .notMemberOf ∧
      Operator.memberOf.presence = false ∧ r.operand.hasNaN = false ∧
      ofRule Pattern.search { r with operator := .memberOf } = .ok member ∧
      ofRule Pattern.search { r with operator := .notMemberOf } = .ok absent ∧
      absent.passes seven = !member.passes seven ∧
      member.passes (.flag true) = false ∧ absent.passes (.flag true) = false ∧
      Operator.isEmpty.complement? = some .isNotEmpty ∧
      (ofRule Pattern.search { r with operator := .isEmpty }).isOk = true ∧
      FieldTest.passes ⟨.isNotEmpty, .nothing⟩ seven = !FieldTest.passes ⟨.isEmpty, .nothing⟩ seven := by
  intro r member absent seven
  have hpair : Operator.memberOf.complement? = some .notMemberOf := rfl
  have hempty : Operator.isEmpty.complement? = some .isNotEmpty := rfl
  have hnan : r.operand.hasNaN = false := by decide
  have hmember : ofRule Pattern.search { r with operator := .memberOf } = .ok member := rfl
  have habsent : ofRule Pattern.search { r with operator := .notMemberOf } = .ok absent := rfl
  have hall := (passes_complement Pattern.search hpair r).2.2 _ _ hmember habsent
  obtain ⟨hflag, hflag'⟩ := ((hall (.flag true)).2 rfl hnan rfl).2 (by decide)
  exact ⟨hpair, rfl, hnan, hmember, habsent, ((hall seven).2 rfl hnan rfl).1 (by decide), hflag, hflag',
    hempty, (passes_complement Pattern.search hempty r).2.1 rfl,
    ((passes_complement Pattern.search hempty r).2.2 ⟨.isEmpty, .nothing⟩ ⟨.isNotEmpty, .nothing⟩ rfl rfl seven).1 rfl⟩

end FieldTest

end RuleTree
