import RuleTree.Proofs.FieldTest.Outside

/-! Set and range tests, said by tests against one scalar. A field is in a set if it equals one of the members,
in whatever order and however often they stand there. It is between two bounds if it is at least the low one and
at most the high one. And before and after are less and greater. -/

namespace RuleTree

open FieldTest

/-- Both rules are accepted or neither is, and accepted they pass the same fields. -/
structure Rule.SameAnswers (patterns : Patterns) (r r' : Rule) : Prop where
  accepted : (ofRule patterns r).isOk = true ↔ (ofRule patterns r').isOk = true
  passes : ∀ t t', ofRule patterns r = .ok t → ofRule patterns r' = .ok t' → ∀ v, t.passes v = t'.passes v

/-! ### Members of a set -/

section

variable {items : List Operand} {members : List Scalar}

theorem exists_members_iff :
    (∃ members, List.Forall₂ (fun o s => Scalar.ofOperand o = .ok s) items members) ↔
      ∀ o ∈ items, ∃ s, Scalar.ofOperand o = .ok s := by
  constructor
  · rintro ⟨members, h⟩ o ho
    obtain ⟨s, -, hs⟩ := forall₂_mem_right h.flip ho
    exact ⟨s, hs⟩
  · intro h
    induction items with
    | nil => exact ⟨[], .nil⟩
    | cons o rest ih =>
      obtain ⟨s, hs⟩ := h o List.mem_cons_self
      obtain ⟨members, hmembers⟩ := ih fun o ho => h o (List.mem_cons_of_mem _ ho)
      exact ⟨s :: members, .cons hs hmembers⟩

/-- The members are the scalars of the items. -/
theorem mem_members_iff (h : List.Forall₂ (fun o s => Scalar.ofOperand o = .ok s) items members)
    (s : Scalar) : s ∈ members ↔ ∃ o ∈ items, Scalar.ofOperand o = .ok s := by
  constructor
  · intro hs
    exact forall₂_mem_right h hs
  · rintro ⟨o, ho, hs⟩
    obtain ⟨s', hs', heq⟩ := forall₂_mem_right h.flip ho
    cases hs.symm.trans heq
    exact hs'

end

theorem any_congr_mem {α : Type} {xs ys : List α} (h : ∀ x, x ∈ xs ↔ x ∈ ys) (p : α → Bool) : xs.any p = ys.any p := by
  rw [Bool.eq_iff_iff, List.any_eq_true, List.any_eq_true]
  exact exists_congr fun x => and_congr_left fun _ => h x

theorem isEmpty_congr_mem {α : Type} {xs ys : List α} (h : ∀ x, x ∈ xs ↔ x ∈ ys) : xs.isEmpty = ys.isEmpty := by
  rw [Bool.eq_iff_iff, List.isEmpty_iff, List.isEmpty_iff, List.eq_nil_iff_forall_not_mem,
    List.eq_nil_iff_forall_not_mem]
  exact forall_congr' fun x => not_congr (h x)

/-- To equal a member is to pass the test for equality. -/
theorem Scalar.equals_eq (s : Scalar) (v : FieldValue) : s.equals v = passesScalar .equal s v := by
  cases s with
  | text t => cases v <;> rfl
  | flag b => cases v <;> rfl
  | number n =>
    rcases hv : v.numeric? with _ | m
    · simp only [equals, passesScalar, hv]
    · rcases ho : m.compare n with _ | o
      · simp only [equals, passesScalar, passesNumber, hv, ho]
        rfl
      · simp only [equals, passesScalar, passesNumber, hv, ho]
        cases o <;> rfl

theorem Scalar.comparable_of_equals {s : Scalar} {v : FieldValue} (h : s.equals v = true) : s.comparable v = true := by
  cases s <;> cases v <;> first | rfl | cases h

namespace FieldTest

/-- The guard against fields of other kinds has no part in membership: such a field equals no member. -/
theorem passesSet_memberOf (members : List Scalar) (v : FieldValue) :
    passesSet .memberOf members v = members.any (·.equals v) := by
  unfold passesSet
  split
  · next hguard =>
    rw [Bool.and_eq_true, Bool.not_eq_true', Bool.not_eq_true'] at hguard
    symm
    rw [List.any_eq_false]
    intro s hs hequals
    exact List.any_eq_false.1 hguard.2 s hs (Scalar.comparable_of_equals hequals)
  · rfl

theorem passes_memberOf (members : List Scalar) (v : FieldValue) :
    passes ⟨.memberOf, .set members⟩ v = true ↔ ∃ s ∈ members, passes ⟨.equal, .scalar s⟩ v = true := by
  rw [passes_set rfl, passesSet_memberOf, Bool.and_eq_true, List.any_eq_true]
  constructor
  · rintro ⟨-, s, hs, hequals⟩
    exact ⟨s, hs, by rwa [passes_scalar rfl, ← Scalar.equals_eq]⟩
  · rintro ⟨s, hs, hpasses⟩
    rw [passes_scalar rfl, ← Scalar.equals_eq] at hpasses
    refine ⟨?_, s, hs, hpasses⟩
    cases v with
    | missing => cases s <;> cases hpasses
    | _ => rfl

theorem passesSet_congr_mem (op : Operator) {members members' : List Scalar} (h : ∀ s, s ∈ members ↔ s ∈ members')
    (v : FieldValue) : passesSet op members v = passesSet op members' v := by
  rw [passesSet, passesSet, any_congr_mem h, any_congr_mem h, isEmpty_congr_mem h]

theorem passesRange_between (low high : Number) (v : FieldValue) :
    passesRange .between low high v =
      (passesScalar .greaterOrEqual (.number low) v && passesScalar .lessOrEqual (.number high) v) := by
  rcases hv : v.numeric? with _ | n
  · simp only [passesRange, passesScalar, hv, Bool.and_self]
  · simp only [passesRange, passesScalar, passesNumber, hv, if_true]
    rcases n.compare low with _ | l
    · rfl
    · rcases n.compare high with _ | h
      · rw [Bool.and_false]
      · rfl

/-! ### What is accepted -/

variable {patterns : Patterns} {r : Rule} {op : Operator} {t : FieldTest}

theorem ofRule_equal_iff {o : Operand} :
    ofRule patterns { r with operator := .equal, operand := o } = .ok t ↔
      ∃ s, Scalar.ofOperand o = .ok s ∧ t = ⟨.equal, .scalar s⟩ := by
  obtain ⟨tested, p⟩ := t
  rw [ofRule_eq_ok_iff]
  constructor
  · rintro ⟨rfl, hp⟩
    cases hp with
    | scalar _ _ hs => exact ⟨_, hs, rfl⟩
    | nothing _ harity => cases harity
    | pattern _ hregex => cases hregex
    | set harity => cases harity
    | range harity => cases harity
  · rintro ⟨s, hs, ht⟩
    cases ht
    exact ⟨rfl, .scalar rfl nofun hs nofun nofun⟩

theorem ofRule_set_iff (harity : op.arity = .set) {items : List Operand} :
    ofRule patterns { r with operator := op, operand := .list items } = .ok t ↔
      ∃ members, List.Forall₂ (fun o s => Scalar.ofOperand o = .ok s) items members ∧ t = ⟨op, .set members⟩ := by
  obtain ⟨tested, p⟩ := t
  rw [ofRule_eq_ok_iff]
  constructor
  · rintro ⟨rfl, hp⟩
    cases hp with
    | set _ hmembers => exact ⟨_, hmembers, rfl⟩
    | nothing _ h => simp_all
    | scalar h => simp_all
    | range h => simp_all
  · rintro ⟨members, hmembers, ht⟩
    cases ht
    exact ⟨rfl, .set harity hmembers⟩

theorem ofRule_ordering_iff (hop : op.ordering = true) {o : Operand} :
    ofRule patterns { r with operator := op, operand := o } = .ok t ↔
      ∃ n, o.number? = some n ∧ t = ⟨op, .scalar (.number n)⟩ := by
  constructor
  · intro ht
    obtain ⟨harity, hnotRegex, -⟩ := Operator.unary_of_ordering hop
    obtain ⟨hoperator, hp⟩ := ofRule_eq_ok_iff.1 ht
    obtain ⟨tested, p⟩ := t
    cases hoperator
    cases hp with
    | scalar _ _ hs _ hnumber =>
      obtain ⟨n, rfl⟩ := hnumber hop
      exact ⟨n, Scalar.ofOperand_eq_number_iff.1 hs, rfl⟩
    | pattern _ hregex => exact absurd hregex hnotRegex
    | nothing _ h => cases harity.symm.trans h
    | set h => cases harity.symm.trans h
    | range h => cases harity.symm.trans h
  · rintro ⟨n, hn, rfl⟩
    exact ofRule_of_ordering hop hn

theorem isOk_equal_iff {o : Operand} :
    (ofRule patterns { r with operator := .equal, operand := o }).isOk = true ↔ ∃ s, Scalar.ofOperand o = .ok s :=
  isOk_iff_exists fun _ => ofRule_equal_iff

theorem isOk_set_iff (harity : op.arity = .set) {items : List Operand} :
    (ofRule patterns { r with operator := op, operand := .list items }).isOk = true ↔
      ∀ o ∈ items, ∃ s, Scalar.ofOperand o = .ok s := by
  rw [← exists_members_iff]
  exact isOk_iff_exists fun _ => ofRule_set_iff harity

theorem isOk_ordering_iff (hop : op.ordering = true) {o : Operand} :
    (ofRule patterns { r with operator := op, operand := o }).isOk = true ↔ ∃ n, o.number? = some n :=
  isOk_iff_exists fun _ => ofRule_ordering_iff hop

/-! ### Sets -/

variable {items items' : List Operand}

/-- A field is in a set if some item accepted for equality equals it. -/
theorem passes_memberOf_iff (ht : ofRule patterns { r with operator := .memberOf, operand := .list items } = .ok t)
    (v : FieldValue) :
    t.passes v = true ↔
      ∃ o ∈ items, ∃ u, ofRule patterns { r with operator := .equal, operand := o } = .ok u ∧ u.passes v = true := by
  obtain ⟨members, hmembers, rfl⟩ := (ofRule_set_iff rfl).1 ht
  rw [passes_memberOf]
  constructor
  · rintro ⟨s, hs, hpasses⟩
    obtain ⟨o, ho, heq⟩ := (mem_members_iff hmembers s).1 hs
    exact ⟨o, ho, _, ofRule_equal_iff.2 ⟨s, heq, rfl⟩, hpasses⟩
  · rintro ⟨o, ho, u, hu, hpasses⟩
    obtain ⟨s, hs, rfl⟩ := ofRule_equal_iff.1 hu
    exact ⟨s, (mem_members_iff hmembers s).2 ⟨o, ho, hs⟩, hpasses⟩

/-- A scalar for a set is the list of itself. -/
theorem ofRule_set_scalar (harity : op.arity = .set) {o : Operand} (hnull : o ≠ .null)
    (hlist : ∀ items, o ≠ .list items) :
    ofRule patterns { r with operator := op, operand := o } =
      ofRule patterns { r with operator := op, operand := .list [o] } := by
  have hset : setOf o = setOf (.list [o]) := by
    cases o with
    | null => exact absurd rfl hnull
    | list items => exact absurd rfl (hlist items)
    | flag b => rfl
    | number n => rfl
    | text s => rfl
    | timestamp t => rfl
  simp only [ofRule, harity, hset]

/-- Order and repetition of the items say nothing. -/
theorem sameAnswers_of_mem (harity : op.arity = .set) (h : ∀ o, o ∈ items ↔ o ∈ items') :
    Rule.SameAnswers patterns { r with operator := op, operand := .list items }
      { r with operator := op, operand := .list items' } where
  accepted := by
    rw [isOk_set_iff harity, isOk_set_iff harity]
    exact forall_congr' fun o => imp_congr_left (h o)
  passes := by
    intro t t' ht ht' v
    obtain ⟨members, hmembers, rfl⟩ := (ofRule_set_iff harity).1 ht
    obtain ⟨members', hmembers', rfl⟩ := (ofRule_set_iff harity).1 ht'
    have hsame : ∀ s, s ∈ members ↔ s ∈ members' := by
      intro s
      rw [mem_members_iff hmembers, mem_members_iff hmembers']
      exact exists_congr fun o => and_congr_left fun _ => h o
    have hpresence : op.presence = false := by rw [Operator.presence, harity]; rfl
    rw [passes_set hpresence, passes_set hpresence, passesSet_congr_mem op hsame]

/-! ### Bounds -/

variable {low high : Operand}

theorem isOk_between_iff :
    (ofRule patterns { r with operator := .between, operand := .list [low, high] }).isOk = true ↔
      (ofRule patterns { r with operator := .greaterOrEqual, operand := low }).isOk = true ∧
        (ofRule patterns { r with operator := .lessOrEqual, operand := high }).isOk = true := by
  rw [isOk_iff, isOk_ordering_iff rfl, isOk_ordering_iff rfl]
  constructor
  · rintro ⟨t, ht⟩
    obtain ⟨l, h, hlow, hhigh, -⟩ := (ofRule_range_iff rfl).1 ht
    exact ⟨⟨l, hlow⟩, h, hhigh⟩
  · rintro ⟨⟨l, hlow⟩, h, hhigh⟩
    exact ⟨_, (ofRule_range_iff rfl).2 ⟨l, h, hlow, hhigh, rfl⟩⟩

theorem passes_between_eq {atLeast atMost : FieldTest}
    (ht : ofRule patterns { r with operator := .between, operand := .list [low, high] } = .ok t)
    (hlow : ofRule patterns { r with operator := .greaterOrEqual, operand := low } = .ok atLeast)
    (hhigh : ofRule patterns { r with operator := .lessOrEqual, operand := high } = .ok atMost) (v : FieldValue) :
    t.passes v = (atLeast.passes v && atMost.passes v) := by
  obtain ⟨l, h, hl, hh, rfl⟩ := (ofRule_range_iff rfl).1 ht
  obtain ⟨l', hl', rfl⟩ := (ofRule_ordering_iff rfl).1 hlow
  obtain ⟨h', hh', rfl⟩ := (ofRule_ordering_iff rfl).1 hhigh
  cases hl.symm.trans hl'
  cases hh.symm.trans hh'
  rw [passes_range rfl, passes_scalar rfl, passes_scalar rfl, passesRange_between]

theorem presence_of_ordering (hop : op.ordering = true) : op.presence = false := by
  obtain ⟨harity, -, -⟩ := Operator.unary_of_ordering hop
  rw [Operator.presence, harity]
  rfl

/-- Operators that order, and pass the same orders, are one. -/
theorem sameAnswers_of_ordering (op op' : Operator) (hop : op.ordering = true) (hop' : op'.ordering = true)
    (hpasses : op.passes = op'.passes) (o : Operand) :
    Rule.SameAnswers patterns { r with operator := op, operand := o } { r with operator := op', operand := o } where
  accepted := by rw [isOk_ordering_iff hop, isOk_ordering_iff hop']
  passes := by
    intro t t' ht ht' v
    obtain ⟨n, hn, rfl⟩ := (ofRule_ordering_iff hop).1 ht
    obtain ⟨n', hn', rfl⟩ := (ofRule_ordering_iff hop').1 ht'
    cases hn.symm.trans hn'
    rw [passes_scalar (presence_of_ordering hop), passes_scalar (presence_of_ordering hop')]
    simp only [passesScalar, passesNumber, hpasses]

/-- Set and range tests are shorthand for tests against one scalar. A list is accepted for a set if its items are
accepted for equality, and holds what equals one of them; a scalar is the list of itself; and lists of the same
items give the same answers. A range is the test for at least its low bound and at most its high one. Before is
less, and after is greater. -/
theorem passes_shorthand (patterns : Patterns) (r : Rule) :
    let ask (op : Operator) (o : Operand) : Rule := { r with operator := op, operand := o }
    let test (op : Operator) (o : Operand) := ofRule patterns (ask op o)
    (∀ items, ((test .memberOf (.list items)).isOk = true ↔ ∀ o ∈ items, (test .equal o).isOk = true) ∧
      ∀ t, test .memberOf (.list items) = .ok t → ∀ v,
        (t.passes v = true ↔ ∃ o ∈ items, ∃ u, test .equal o = .ok u ∧ u.passes v = true)) ∧
    (∀ op, op.arity = .set →
      (∀ o, o ≠ .null → (∀ items, o ≠ .list items) → test op o = test op (.list [o])) ∧
      ∀ items items', (∀ o, o ∈ items ↔ o ∈ items') →
        (ask op (.list items)).SameAnswers patterns (ask op (.list items'))) ∧
    (∀ low high,
      ((test .between (.list [low, high])).isOk = true ↔
        (test .greaterOrEqual low).isOk = true ∧ (test .lessOrEqual high).isOk = true) ∧
      ∀ t atLeast atMost, test .between (.list [low, high]) = .ok t → test .greaterOrEqual low = .ok atLeast →
        test .lessOrEqual high = .ok atMost → ∀ v, t.passes v = (atLeast.passes v && atMost.passes v)) ∧
    ∀ o, (ask .before o).SameAnswers patterns (ask .less o) ∧ (ask .after o).SameAnswers patterns (ask .greater o) := by
  intro ask test
  refine ⟨fun items => ⟨?_, fun t ht => ?_⟩, fun op harity => ⟨?_, ?_⟩, fun low high => ⟨?_, ?_⟩, fun o => ⟨?_, ?_⟩⟩
  · rw [isOk_set_iff rfl]
    exact forall_congr' fun o => imp_congr_right fun _ => isOk_equal_iff.symm
  · exact passes_memberOf_iff ht
  · intro o hnull hlist
    exact ofRule_set_scalar harity hnull hlist
  · intro items items' h
    exact sameAnswers_of_mem harity h
  · exact isOk_between_iff
  · intro t atLeast atMost ht hlow hhigh
    exact passes_between_eq ht hlow hhigh
  · exact sameAnswers_of_ordering .before .less rfl rfl rfl o
  · exact sameAnswers_of_ordering .after .greater rfl rfl rfl o

/-- The first millisecond is in a set with the number one in it, and one alone is such a set. The number three is
between a half and the fifth millisecond, and a NaN is not. -/
theorem passes_shorthand_mixed :
    let r : Rule := ⟨"age", .equal, .null, .and⟩
    let ask (op : Operator) (o : Operand) : Rule := { r with operator := op, operand := o }
    let one : Operand := .number (.unsigned 1)
    let five : Operand := .timestamp ⟨5⟩
    let half : Number := .real ⟨0x3FE0000000000000⟩
    let member : FieldTest := ⟨.memberOf, .set [.text "a", .number (.unsigned 1)]⟩
    let between : FieldTest := ⟨.between, .range half (.signed 5)⟩
    ofRule Pattern.search (ask .memberOf (.list [.text "a", one])) = .ok member ∧
      member.passes (.timestamp ⟨1⟩) = true ∧
      ofRule Pattern.search (ask .notMemberOf one) = ofRule Pattern.search (ask .notMemberOf (.list [one])) ∧
      (ask .notMemberOf (.list [five, one, five])).SameAnswers Pattern.search (ask .notMemberOf (.list [one, five])) ∧
      ofRule Pattern.search (ask .between (.list [.number half, five])) = .ok between ∧
      between.passes (.choice 3) = true ∧
      between.passes (.number (.real .nan)) = false := by
  intro r ask one five half member between
  obtain ⟨hmember, hset, hrange, -⟩ := passes_shorthand Pattern.search r
  obtain ⟨hscalar, hlist⟩ := hset .notMemberOf rfl
  have hm : ofRule Pattern.search (ask .memberOf (.list [.text "a", one])) = .ok member := rfl
  have hb : ofRule Pattern.search (ask .between (.list [.number half, five])) = .ok between := rfl
  have hboth := (hrange (.number half) five).2 between _ _ hb rfl rfl
  refine ⟨hm, ?_, hscalar one nofun nofun, hlist _ _ fun o => ?_, hb, ?_, ?_⟩
  · exact ((hmember [.text "a", one]).2 member hm _).2 ⟨one, by simp, _, rfl, by decide⟩
  · simp only [List.mem_cons, List.not_mem_nil, or_false]
    tauto
  · rw [hboth]
    decide +kernel
  · rw [hboth]
    decide +kernel

end FieldTest

end RuleTree
