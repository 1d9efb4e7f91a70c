import RuleTree.Proofs.Tree.Monotone
import RuleTree.Proofs.Compile.Field

/-! Why a rule on a field does not compile. Every fault has an error of its own, and of several faults one counts: a
field without a name before an operand that does not suit the operator, and that before what a schema objects to. A
schema takes back what would have compiled, and changes nothing else. -/

namespace RuleTree

variable {ε α : Type} {patterns : Patterns}

/-! ### Operands -/

/-- Is the operand a single value? Null and lists are none. -/
def Operand.isScalar : Operand → Bool
  | .null | .list _ => false
  | _ => true

/-- The operator refuses the operand with this error. Which texts are patterns is a parameter. -/
inductive Refuses (patterns : Patterns) (op : Operator) : Operand → RuleError → Prop
  | compound {o : Operand} (harity : op.arity = .unary) (ho : o.isScalar = false) :
      Refuses patterns op o (.wrongOperand "a scalar value" o.kindName)
  | noText {o : Operand} {s : Scalar} (htext : op.textOnly = true) (hs : Scalar.ofOperand o = .ok s)
      (hno : ∀ t, s ≠ .text t) : Refuses patterns op o (.wrongOperator op s.kindName)
  | noNumber {o : Operand} {s : Scalar} (hordering : op.ordering = true) (hs : Scalar.ofOperand o = .ok s)
      (hno : ∀ n, s ≠ .number n) : Refuses patterns op o (.wrongOperator op s.kindName)
  | pattern {t why : String} (hregex : op = .regex) (hp : patterns t = .error why) :
      Refuses patterns op (.text t) (.invalidPattern why)
  | noSet (harity : op.arity = .set) : Refuses patterns op .null (.wrongOperand "a list" "null")
  | candidate {before after : List Operand} {o : Operand} (harity : op.arity = .set)
      (hbefore : ∀ b ∈ before, b.isScalar = true) (ho : o.isScalar = false) :
      Refuses patterns op (.list (before ++ o :: after)) (.wrongOperand "a scalar value" o.kindName)
  | noRange {o : Operand} (harity : op.arity = .range) (ho : ∀ items, o ≠ .list items) :
      Refuses patterns op o (.wrongOperand "a list of two numbers" o.kindName)
  | length {items : List Operand} (harity : op.arity = .range) (hlength : items.length ≠ 2) :
      Refuses patterns op (.list items) (.wrongRange op items.length)
  | low {low high : Operand} (harity : op.arity = .range) (hlow : low.number? = none) :
      Refuses patterns op (.list [low, high]) (.wrongOperand "number" low.kindName)
  | high {low high : Operand} (harity : op.arity = .range) (hlow : low.number?.isSome = true)
      (hhigh : high.number? = none) : Refuses patterns op (.list [low, high]) (.wrongOperand "number" high.kindName)

theorem Scalar.exists_ofOperand_iff {o : Operand} : (∃ s, Scalar.ofOperand o = .ok s) ↔ o.isScalar = true := by
  cases o <;> simp [Scalar.ofOperand, Operand.isScalar]

theorem Scalar.ofOperand_eq_error_iff {o : Operand} {e : RuleError} :
    Scalar.ofOperand o = .error e ↔ o.isScalar = false ∧ .wrongOperand "a scalar value" o.kindName = e := by
  cases o <;> simp [Scalar.ofOperand, Operand.isScalar]

theorem Operator.arity_of_textOnly {op : Operator} (h : op.textOnly = true) : op.arity = .unary := by
  cases op <;> first | rfl | cases h

namespace FieldTest

variable {op : Operator} {o : Operand} {e : RuleError}

theorem refuses_of_unary (harity : op.arity = .unary) (h : unary patterns op o = .error e) :
    Refuses patterns op o e := by
  rw [unary, bind_eq_error_iff] at h
  obtain h | ⟨s, hs, h⟩ := h
  · obtain ⟨ho, rfl⟩ := Scalar.ofOperand_eq_error_iff.1 h
    exact .compound harity ho
  · split at h
    · next htext =>
      split at h
      · next t =>
        rw [Scalar.ofOperand_eq_text_iff] at hs
        subst hs
        split at h
        · next hregex =>
          split at h <;> cases h
          exact .pattern hregex ‹_›
        · cases h
      · next hno =>
        cases h
        exact .noText htext hs hno
    · split at h
      · next hordering =>
        split at h
        · cases h
        · next hno =>
          cases h
          exact .noNumber hordering hs hno
      · cases h

theorem refuses_of_setOf (harity : op.arity = .set) (h : setOf o = .error e) : Refuses patterns op o e := by
  unfold setOf at h
  split at h
  · obtain hitems | ⟨_, -, h⟩ := bind_eq_error_iff.1 h
    · obtain ⟨before, x, after, rfl, hbefore, hx⟩ := mapM_eq_error_iff.1 hitems
      obtain ⟨ho, rfl⟩ := Scalar.ofOperand_eq_error_iff.1 hx
      exact .candidate harity (fun b hb => Scalar.exists_ofOperand_iff.1 (hbefore b hb)) ho
    · cases h
  · cases h
    exact .noSet harity
  · next hlist hnull =>
    obtain h | ⟨_, -, h⟩ := bind_eq_error_iff.1 h
    · have ho := (Scalar.ofOperand_eq_error_iff.1 h).1
      cases o with
      | null => exact absurd rfl hnull
      | list items => exact absurd rfl (hlist items)
      | flag | number | text | timestamp => cases ho
    · cases h

theorem refuses_of_rangeOf (harity : op.arity = .range) (h : rangeOf op o = .error e) : Refuses patterns op o e := by
  unfold rangeOf at h
  split at h
  · next low high =>
    cases hlow : low.number? with
    | none =>
      simp only [hlow] at h
      cases h
      exact .low harity hlow
    | some l =>
      cases hhigh : high.number? with
      | none =>
        simp only [hlow, hhigh] at h
        cases h
        exact .high harity (Option.isSome_of_mem hlow) hhigh
      | some u =>
        simp only [hlow, hhigh] at h
        cases h
  · next hitems =>
    cases h
    refine .length harity fun hlength => ?_
    obtain ⟨low, high, rfl⟩ := List.length_eq_two.1 hlength
    exact hitems low high rfl
  · next ho =>
    cases h
    exact .noRange harity fun items => ho items

theorem errs_of_refuses (h : Refuses patterns op o e) : (op.arity = .unary ∧ unary patterns op o = .error e) ∨
    (op.arity = .set ∧ setOf o = .error e) ∨ op.arity = .range ∧ rangeOf op o = .error e := by
  cases h with
  | compound harity ho =>
    exact .inl ⟨harity, bind_eq_error_iff.2 (.inl (Scalar.ofOperand_eq_error_iff.2 ⟨ho, rfl⟩))⟩
  | @noText _ s htext hs hno =>
    refine .inl ⟨Operator.arity_of_textOnly htext, bind_eq_error_iff.2 (.inr ⟨s, hs, ?_⟩)⟩
    rw [if_pos htext]
    cases s with
    | text t => exact absurd rfl (hno t)
    | number | flag => rfl
  | @noNumber _ s hordering hs hno =>
    -- no operator that orders is for texts alone, so that this check is reached
    obtain ⟨harity, -, htext⟩ := Operator.unary_of_ordering hordering
    refine .inl ⟨harity, bind_eq_error_iff.2 (.inr ⟨s, hs, ?_⟩)⟩
    rw [htext, if_neg Bool.false_ne_true, if_pos hordering]
    cases s with
    | number n => exact absurd rfl (hno n)
    | text | flag => rfl
  | @pattern t why hregex hp =>
    rw [hregex]
    refine .inl ⟨rfl, bind_eq_error_iff.2 (.inr ⟨.text t, rfl, ?_⟩)⟩
    simp only [Operator.textOnly, if_true, hp]
    rfl
  | noSet harity => exact .inr (.inl ⟨harity, rfl⟩)
  | @candidate before after x harity hbefore ho =>
    have hx : Scalar.ofOperand x = .error (.wrongOperand "a scalar value" x.kindName) :=
      Scalar.ofOperand_eq_error_iff.2 ⟨ho, rfl⟩
    have hitems := mapM_eq_error_iff.2
      ⟨before, x, after, rfl, fun b hb => Scalar.exists_ofOperand_iff.2 (hbefore b hb), hx⟩
    exact .inr (.inl ⟨harity, bind_eq_error_iff.2 (.inl hitems)⟩)
  | noRange harity ho =>
    refine .inr (.inr ⟨harity, ?_⟩)
    rw [rangeOf]
    exacts [fun _ _ h => ho _ h, fun items => ho items]
  | length harity hlength =>
    refine .inr (.inr ⟨harity, ?_⟩)
    rw [rangeOf]
    rintro low high rfl
    exact hlength rfl
  | low harity hlow =>
    refine .inr (.inr ⟨harity, ?_⟩)
    simp only [rangeOf, hlow]
  | high harity hlow hhigh =>
    refine .inr (.inr ⟨harity, ?_⟩)
    obtain ⟨l, hlow⟩ := Option.isSome_iff_exists.1 hlow
    simp only [rangeOf, hlow, hhigh]

/-- A rule's operand is refused exactly as `Refuses` says. -/
theorem ofRule_eq_error_iff {r : Rule} : ofRule patterns r = .error e ↔ Refuses patterns r.operator r.operand e := by
  -- putting the operator back beside the operand never fails
  have hwith : ∀ x : Except RuleError Prepared,
      (x >>= fun p => pure (⟨r.operator, p⟩ : FieldTest)) = .error e ↔ x = .error e := by
    intro x
    simp [bind_eq_error_iff, pure, Except.pure]
  constructor
  · intro h
    unfold ofRule at h
    cases harity : r.operator.arity with
    | nullary => simp [harity, bind, Except.bind, pure, Except.pure] at h
    | unary => exact refuses_of_unary harity ((hwith _).1 (by simpa only [harity] using h))
    | set => exact refuses_of_setOf harity ((hwith _).1 (by simpa only [harity] using h))
    | range => exact refuses_of_rangeOf harity ((hwith _).1 (by simpa only [harity] using h))
  · intro h
    unfold ofRule
    obtain ⟨harity, h⟩ | ⟨harity, h⟩ | ⟨harity, h⟩ := errs_of_refuses h <;>
      simpa only [harity] using (hwith _).2 h

theorem exists_ofRule_iff {r : Rule} :
    (∃ t, ofRule patterns r = .ok t) ↔ ∀ e, ¬ Refuses patterns r.operator r.operand e := by
  simp only [exists_ok_iff, ← ofRule_eq_error_iff]

end FieldTest

/-! ### Schemas -/

/-- The operands that a schema holds against the kind of the field. It looks at neither patterns nor bounds. -/
def Operator.compared (op : Operator) (o : Operand) : List Operand :=
  match op.arity with
  | .unary => if op = .regex then [] else [o]
  | .set => o.candidates
  | .nullary | .range => []

/-- The schema refuses a rule with this error once its operand suits its operator. -/
inductive Schema.Refuses (s : Schema) (r : Rule) : RuleError → Prop
  | undeclared (hkind : s.kind? r.field = none) : s.Refuses r (.unknownField r.field)
  | operator {kind : FieldKind} (hkind : s.kind? r.field = some kind)
      (hoperator : kind.accepts r.operator = false) : s.Refuses r (.wrongOperator r.operator kind.name)
  | operand {kind : FieldKind} {before after : List Operand} {o : Operand} {scalar : Scalar}
      (hkind : s.kind? r.field = some kind) (hoperator : kind.accepts r.operator = true)
      (hcompared : r.operator.compared r.operand = before ++ o :: after)
      (hbefore : ∀ b ∈ before, ∃ t, Scalar.ofOperand b = .ok t ∧ kind.admits t = true)
      (ho : Scalar.ofOperand o = .ok scalar) (hscalar : kind.admits scalar = false) :
      s.Refuses r (.wrongOperand kind.name scalar.kindName)

theorem Prepares.compared {op : Operator} {o : Operand} {t : FieldTest} (h : Prepares patterns op o t.operand) :
    List.Forall₂ (fun o s => Scalar.ofOperand o = .ok s) (op.compared o) t.scalars := by
  obtain ⟨_, p⟩ := t
  unfold Operator.compared FieldTest.scalars
  cases h with
  | nothing _ harity | range harity => simp only [harity, List.forall₂_nil_left_iff]
  | scalar harity hregex hs => simpa [harity, hregex] using hs
  | pattern _ hregex => simp [hregex, Operator.arity]
  | set harity hmembers => simpa only [harity] using hmembers

theorem Schema.check_eq_error_iff {s : Schema} {r : Rule} {t : FieldTest} {e : RuleError}
    (hop : t.operator = r.operator) (ht : Prepares patterns r.operator r.operand t.operand) :
    s.check r.field t = .error e ↔ s.Refuses r e := by
  -- the first scalar that the kind does not admit, in terms of the operands that the scalars were made of
  have hfind {kind : FieldKind} {scalar : Scalar} :=
    find?_eq_some_iff_of_forall₂ (q := fun scalar => !kind.admits scalar) ht.compared (b := scalar)
  simp only [Bool.not_eq_false', Bool.not_eq_true'] at hfind
  unfold check
  rw [hop]
  constructor
  · intro h
    split at h
    · next hkind =>
      cases h
      exact .undeclared hkind
    · next kind hkind =>
      split at h
      · next hoperator =>
        cases h
        exact .operator hkind (by simpa using hoperator)
      · next hoperator =>
        split at h
        · next scalar hscalar =>
          cases h
          obtain ⟨before, o, after, hcompared, hbefore, ho, hadmits⟩ := hfind.1 hscalar
          exact .operand hkind (by simpa using hoperator) hcompared hbefore ho hadmits
        · cases h
  · intro h
    cases h with
    | undeclared hkind => rw [hkind]
    | operator hkind hoperator => simp [hkind, hoperator]
    | operand hkind hoperator hcompared hbefore ho hscalar =>
      have hfirst := hfind.2 ⟨_, _, _, hcompared, hbefore, ho, hscalar⟩
      simp [hkind, hoperator, hfirst]

/-! ### Rules -/

/-- The rule does not compile, with this error. -/
inductive Rule.Refused (patterns : Patterns) (schema : Option Schema) (r : Rule) : RuleError → Prop
  | noField (hfield : allBlank r.field = true) : r.Refused patterns schema .emptyField
  | operand {e : RuleError} (hfield : allBlank r.field = false) (he : Refuses patterns r.operator r.operand e) :
      r.Refused patterns schema e
  | schema {s : Schema} {e : RuleError} (hfield : allBlank r.field = false)
      (hoperand : ∀ e, ¬ Refuses patterns r.operator r.operand e) (hs : schema = some s) (he : s.Refuses r e) :
      r.Refused patterns schema e

theorem prepareRule_eq_error_iff {schema : Option Schema} {r : Rule} {e : RuleError} :
    prepareRule patterns schema r = .error e ↔ r.Refused patterns schema e := by
  unfold prepareRule
  cases hfield : allBlank r.field with
  | true =>
    simp only [if_true]
    constructor
    · intro h
      cases h
      exact .noField hfield
    · intro h
      cases h with
      | noField => rfl
      | operand hno | schema hno => cases hfield.symm.trans hno
  | false =>
    simp only [Bool.false_eq_true, if_false]
    rw [bind_eq_error_iff, FieldTest.ofRule_eq_error_iff]
    constructor
    · rintro (he | ⟨t, ht, h⟩)
      · exact .operand hfield he
      · cases schema with
        | none => cases h
        | some s =>
          obtain he | ⟨_, -, h⟩ := bind_eq_error_iff.1 h
          · obtain ⟨hop, hprepares⟩ := FieldTest.ofRule_eq_ok_iff.1 ht
            have hoperand := FieldTest.exists_ofRule_iff.1 ⟨t, ht⟩
            exact .schema hfield hoperand rfl ((s.check_eq_error_iff hop hprepares).1 he)
          · cases h
    · intro h
      cases h with
      | noField hblank => cases hfield.symm.trans hblank
      | operand _ he => exact .inl he
      | @schema s _ _ hoperand hs he =>
        obtain ⟨t, ht⟩ := FieldTest.exists_ofRule_iff.2 hoperand
        obtain ⟨hop, hprepares⟩ := FieldTest.ofRule_eq_ok_iff.1 ht
        refine .inr ⟨t, ht, ?_⟩
        rw [hs]
        exact bind_eq_error_iff.2 (.inl ((s.check_eq_error_iff hop hprepares).2 he))

theorem compileField_eq_error_iff {read : α → String → FieldValue} {schema : Option Schema} {r : Rule}
    {e : RuleError} :
    (compileField patterns read schema : RuleCompiler ε α) r = .error e ↔ r.Refused patterns schema e := by
  rw [compileField, bind_eq_error_iff, prepareRule_eq_error_iff]
  simp [pure, Except.pure]

theorem prepareRule_presence {schema : Option Schema} {r : Rule} (h : r.operator.presence = true) (o : Operand) :
    prepareRule patterns schema { r with operand := o } = prepareRule patterns schema r := by
  have harity : r.operator.arity = .nullary := by simpa [Operator.presence] using h
  simp only [prepareRule, FieldTest.ofRule, harity]

/-- A rule on a field fails to compile just where it has a fault, with the error of the fault that counts. What compiles
under a schema has no fault and is the leaf that compiles without one. No operand is a fault of an operator that asks
for presence. All this holds whatever texts are patterns, and whatever is said of those that are not. -/
theorem compileField_refused (patterns : Patterns) (read : α → String → FieldValue) (schema : Option Schema)
    (r : Rule) :
    (∀ e, (compileField patterns read schema : RuleCompiler ε α) r = .error e ↔ r.Refused patterns schema e) ∧
    (∀ p : Predicate ε α, compileField patterns read schema r = .ok p ↔
      compileField patterns read none r = .ok p ∧ ∀ e, ¬ r.Refused patterns schema e) ∧
    (r.operator.presence = true → ∀ o,
      (compileField patterns read schema : RuleCompiler ε α) { r with operand := o } =
        compileField patterns read schema r) := by
  refine ⟨fun e => compileField_eq_error_iff, fun p => ⟨fun hp => ?_, fun ⟨hp, hfault⟩ => ?_⟩, fun h o => ?_⟩
  · refine ⟨?_, fun e he => ?_⟩
    · cases schema with
      | none => exact hp
      | some s => exact compileField_extends read s r p hp
    · cases hp.symm.trans (compileField_eq_error_iff.2 he)
  · obtain ⟨q, hq⟩ : ∃ q, (compileField patterns read schema : RuleCompiler ε α) r = .ok q := by
      simpa only [exists_ok_iff, compileField_eq_error_iff] using hfault
    cases schema with
    | none => exact hp
    | some s => rwa [Except.ok.inj (hp.symm.trans (compileField_extends read s r q hq))]
  · simp only [compileField, prepareRule_presence h]

/-- A schema that declares an age. -/
def Schema.ages : Schema := empty.declare "age" .number

/-- Rules with several faults at once, and a pattern that is none on a field that is not declared. -/
theorem compileField_refused_faults :
    let compile : RuleCompiler Unit FieldValue := compileField Pattern.search (fun v _ => v) (some .ages)
    let unclosed := "regex parse error:\n    (\n    ^\nerror: unclosed group"
    (Rule.mk " " .between .null .and).Refused Pattern.search (some .ages) .emptyField ∧
    (Rule.mk "height" .between (.list [.text "low", .null]) .and).Refused Pattern.search (some .ages)
      (.wrongOperand "number" "string") ∧
    (Rule.mk "height" .regex (.text "(") .and).Refused Pattern.search (some .ages) (.invalidPattern unclosed) ∧
    (Rule.mk "height" .isNull .null .and).Refused Pattern.search (some .ages) (.unknownField "height") ∧
    (Rule.mk "age" .contains (.text "1") .and).Refused Pattern.search (some .ages)
      (.wrongOperator .contains "number") ∧
    (Rule.mk "age" .memberOf (.list [.number (.signed 1), .flag true, .text "1"]) .and).Refused Pattern.search
      (some .ages) (.wrongOperand "number" "bool") ∧
    compile ⟨"age", .isNull, .list [.null], .and⟩ = compile ⟨"age", .isNull, .null, .and⟩ := by
  intro compile unclosed
  have hrefused (r : Rule) := (compileField_refused (ε := Unit) Pattern.search (fun (v : FieldValue) _ => v)
    (some .ages) r).1
  exact ⟨(hrefused _ _).1 rfl, (hrefused _ _).1 rfl, (hrefused _ _).1 rfl, (hrefused _ _).1 rfl, (hrefused _ _).1 rfl,
    (hrefused _ _).1 rfl, (compileField_refused _ _ _ ⟨"age", .isNull, .null, .and⟩).2.2 rfl (.list [.null])⟩

end RuleTree
