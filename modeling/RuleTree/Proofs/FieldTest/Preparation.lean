import RuleTree.FieldTest
import RuleTree.Proofs.Outcome

/-! What an operator accepts and what it prepares. `Prepares` says it by one rule for each shape of a prepared
operand, and the checks of `FieldTest.ofRule` are these rules. What a prepared test then asks of a field is said
once for each shape, presence tests apart. -/

namespace RuleTree

/-- What a set operator looks at: the items of a list, or the operand itself. -/
def Operand.candidates : Operand → List Operand
  | .list items => items
  | o => [o]

/-- The operator accepts the operand, and prepares this of it. Which texts are patterns is a parameter. -/
inductive Prepares (patterns : Patterns) (op : Operator) : Operand → Prepared → Prop
  | nothing (o : Operand) (harity : op.arity = .nullary) : Prepares patterns op o .nothing
  | scalar {o : Operand} {s : Scalar} (harity : op.arity = .unary) (hregex : op ≠ .regex)
      (hs : Scalar.ofOperand o = .ok s) (htext : op.textOnly = true → ∃ t, s = .text t)
      (hnumber : op.ordering = true → ∃ n, s = .number n) : Prepares patterns op o (.scalar s)
  | pattern {t : String} {isMatch : String → Bool} (harity : op.arity = .unary) (hregex : op = .regex)
      (hp : patterns t = .ok isMatch) : Prepares patterns op (.text t) (.pattern isMatch)
  | set {o : Operand} {members : List Scalar} (harity : op.arity = .set)
      (hmembers : List.Forall₂ (fun o s => Scalar.ofOperand o = .ok s) o.candidates members) :
      Prepares patterns op o (.set members)
  | range {low high : Operand} {l h : Number} (harity : op.arity = .range)
      (hlow : low.number? = some l) (hhigh : high.number? = some h) :
      Prepares patterns op (.list [low, high]) (.range l h)

/-! ### Acceptance -/

theorem any_congr_forall₂ {α β : Type} {R : α → β → Prop} {p : α → Bool} {q : β → Bool}
    {xs : List α} {ys : List β} (h : List.Forall₂ R xs ys) (hpq : ∀ x y, R x y → p x = q y) :
    xs.any p = ys.any q := by
  induction h with
  | nil => rfl
  | cons hxy _ ih => rw [List.any_cons, List.any_cons, hpq _ _ hxy, ih]

theorem isEmpty_congr_forall₂ {α β : Type} {R : α → β → Prop} {xs : List α} {ys : List β}
    (h : List.Forall₂ R xs ys) : xs.isEmpty = ys.isEmpty := by
  cases h <;> rfl

theorem Scalar.ofOperand_eq_text_iff {o : Operand} {t : String} :
    Scalar.ofOperand o = .ok (.text t) ↔ o = .text t := by
  cases o <;> simp [Scalar.ofOperand]

theorem Scalar.ofOperand_eq_number_iff {o : Operand} {n : Number} :
    Scalar.ofOperand o = .ok (.number n) ↔ o.number? = some n := by
  cases o <;> simp [Scalar.ofOperand, Operand.number?]

theorem Operator.ordering_of_textOnly {op : Operator} (h : op.textOnly = true) :
    op.ordering = false := by
  cases op <;> first | rfl | cases h

/-- What orders takes one scalar, and neither a pattern nor texts alone. -/
theorem Operator.unary_of_ordering {op : Operator} (h : op.ordering = true) :
    op.arity = .unary ∧ op ≠ .regex ∧ op.textOnly = false := by
  cases op with
  | greater | greaterOrEqual | less | lessOrEqual | before | after => decide
  | _ => cases h

namespace FieldTest

variable {patterns : Patterns}

theorem prepares_of_unary {op : Operator} {o : Operand} {p : Prepared} (harity : op.arity = .unary)
    (hp : unary patterns op o = .ok p) : Prepares patterns op o p := by
  unfold unary at hp
  rw [bind_eq_ok_iff] at hp
  obtain ⟨s, hs, hp⟩ := hp
  split at hp
  · next htext =>
    split at hp
    · next t =>
      rw [Scalar.ofOperand_eq_text_iff] at hs
      subst hs
      split at hp
      · next hregex =>
        split at hp <;> cases hp
        exact .pattern harity hregex ‹_›
      · next hregex =>
        cases hp
        refine .scalar harity hregex rfl (fun _ => ⟨t, rfl⟩) fun hnumber => ?_
        rw [Operator.ordering_of_textOnly htext] at hnumber
        cases hnumber
    · cases hp
  · next htext =>
    have hregex : op ≠ .regex := by
      rintro rfl
      exact htext rfl
    split at hp
    · split at hp
      · next n =>
        cases hp
        exact .scalar harity hregex hs (fun h => absurd h htext) fun _ => ⟨n, rfl⟩
      · cases hp
    · next hnumber =>
      cases hp
      exact .scalar harity hregex hs (fun h => absurd h htext) fun h => absurd h hnumber

theorem unary_of_prepares {op : Operator} {o : Operand} {p : Prepared} (harity : op.arity = .unary)
    (hp : Prepares patterns op o p) : unary patterns op o = .ok p := by
  unfold unary
  rw [bind_eq_ok_iff]
  cases hp with
  | scalar _ hregex hs htext hnumber =>
    refine ⟨_, hs, ?_⟩
    by_cases ht : op.textOnly = true
    · obtain ⟨t, rfl⟩ := htext ht
      simp only [ht, if_true, hregex, if_false]
      rfl
    · by_cases hn : op.ordering = true
      · obtain ⟨n, rfl⟩ := hnumber hn
        simp only [ht, hn, if_true, Bool.false_eq_true, if_false]
        rfl
      · simp only [ht, hn, Bool.false_eq_true, if_false]
        rfl
  -- a pattern is the one text that is not kept as a scalar
  | @pattern t _ _ hregex hp =>
    subst hregex
    refine ⟨.text t, rfl, ?_⟩
    simp only [Operator.textOnly, if_true, hp]
    rfl
  | nothing | set | range => simp_all

theorem setOf_eq_ok_iff {op : Operator} {o : Operand} {p : Prepared} (harity : op.arity = .set) :
    setOf o = .ok p ↔ Prepares patterns op o p := by
  constructor
  · intro hp
    unfold setOf at hp
    split at hp
    · rw [bind_eq_ok_iff] at hp
      obtain ⟨members, hmembers, hp⟩ := hp
      cases hp
      exact .set harity (mapM_eq_ok_iff.1 hmembers)
    · cases hp
    · next hlist _ =>
      rw [bind_eq_ok_iff] at hp
      obtain ⟨s, hs, hp⟩ := hp
      cases hp
      refine .set harity ?_
      rw [Operand.candidates]
      · exact .cons hs .nil
      · exact hlist
  · intro hp
    cases hp with
    | set _ hmembers =>
      cases o with
      | list items =>
        have hitems : items.mapM Scalar.ofOperand = .ok _ := mapM_eq_ok_iff.2 hmembers
        rw [setOf, hitems]
        rfl
      | null =>
        obtain _ | ⟨hs, _⟩ := hmembers
        cases hs
      | flag | number | text | timestamp =>
        obtain _ | ⟨hs, _ | _⟩ := hmembers
        cases hs
        rfl
    | nothing | scalar | pattern | range => simp_all

theorem rangeOf_eq_ok_iff {op : Operator} {o : Operand} {p : Prepared} (harity : op.arity = .range) :
    rangeOf op o = .ok p ↔ Prepares patterns op o p := by
  constructor
  · intro hp
    unfold rangeOf at hp
    split at hp
    · split at hp <;> cases hp
      exact .range harity ‹_› ‹_›
    · cases hp
    · cases hp
  · intro hp
    cases hp with
    | range _ hlow hhigh => simp only [rangeOf, hlow, hhigh]
    | nothing | scalar | pattern | set => simp_all

theorem nothing_eq_ok_iff {op : Operator} {o : Operand} {p : Prepared}
    (harity : op.arity = .nullary) :
    (pure .nothing : Except RuleError Prepared) = .ok p ↔ Prepares patterns op o p := by
  constructor
  · intro hp
    cases hp
    exact .nothing o harity
  · intro hp
    cases hp with
    | nothing => rfl
    | scalar | pattern | set | range => simp_all

/-- A rule is accepted exactly as `Prepares` says. -/
theorem ofRule_eq_ok_iff {r : Rule} {t : FieldTest} :
    ofRule patterns r = .ok t ↔ t.operator = r.operator ∧ Prepares patterns r.operator r.operand t.operand := by
  -- every branch ends by putting the operator back beside what it prepared
  have hwith : ∀ x : Except RuleError Prepared,
      (x >>= fun p => pure ⟨r.operator, p⟩) = .ok t ↔
        t.operator = r.operator ∧ x = .ok t.operand := by
    intro x
    rw [bind_eq_ok_iff]
    constructor
    · rintro ⟨p, hp, ht⟩
      cases ht
      exact ⟨rfl, hp⟩
    · rintro ⟨hop, hp⟩
      exact ⟨_, hp, by rw [← hop]; rfl⟩
  unfold ofRule
  dsimp only
  split
  · next harity => rw [hwith, nothing_eq_ok_iff harity]
  · next harity =>
    rw [hwith]
    exact and_congr_right fun _ => ⟨prepares_of_unary harity, unary_of_prepares harity⟩
  · next harity => rw [hwith, setOf_eq_ok_iff harity]
  · next harity => rw [hwith, rangeOf_eq_ok_iff harity]

theorem isOk_ofRule_iff {r : Rule} :
    (ofRule patterns r).isOk = true ↔ ∃ p, Prepares patterns r.operator r.operand p := by
  rw [isOk_iff]
  constructor
  · rintro ⟨t, ht⟩
    exact ⟨t.operand, (ofRule_eq_ok_iff.1 ht).2⟩
  · rintro ⟨p, hp⟩
    exact ⟨⟨r.operator, p⟩, ofRule_eq_ok_iff.2 ⟨rfl, hp⟩⟩

end FieldTest

/-! ### Comparisons -/

namespace FieldTest

variable {op : Operator}

/-- An operator that compares fails on a missing field, and else looks at its prepared operand. -/
theorem passes_eq (hop : op.presence = false) (p : Prepared) (v : FieldValue) :
    passes ⟨op, p⟩ v = (!v.isMissing && match p with
      | .nothing => false
      | .scalar s => passesScalar op s v
      | .pattern isMatch => match v.text? with
        | some field => isMatch field
        | none => false
      | .set members => passesSet op members v
      | .range low high => passesRange op low high v) := by
  unfold passes
  cases op with
  | isNull | isNotNull | isEmpty | isNotEmpty => exact absurd hop (by decide)
  | _ => cases v.isMissing <;> rfl

theorem passes_scalar (hop : op.presence = false) (s : Scalar) (v : FieldValue) :
    passes ⟨op, .scalar s⟩ v = passesScalar op s v := by
  rw [passes_eq hop]
  cases v <;> cases s <;> rfl

theorem passes_set (hop : op.presence = false) (members : List Scalar) (v : FieldValue) :
    passes ⟨op, .set members⟩ v = (!v.isMissing && passesSet op members v) :=
  passes_eq hop _ v

theorem passes_range (hop : op.presence = false) (low high : Number) (v : FieldValue) :
    passes ⟨op, .range low high⟩ v = passesRange op low high v := by
  rw [passes_eq hop]
  cases v <;> rfl

end FieldTest

end RuleTree
