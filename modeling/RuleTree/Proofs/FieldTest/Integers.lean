import RuleTree.Proofs.FieldTest.Preparation
import RuleTree.Proofs.Number.Comparison

/-! Integers count by their value. Operands and fields that are alike hold the same integers, perhaps in other
kinds: signed, unsigned, as a time, and in a field as a choice. A rule accepts alike operands alike, and what is
prepared of them passes the same fields. -/

namespace RuleTree

variable {patterns : Patterns}

/-! ### Alike operands and fields -/

/-- The integer that the operand holds: a time is its milliseconds. -/
def Operand.integer? : Operand → Option Int
  | .number n => n.toInt?
  | .timestamp t => some t.millis.toInt
  | _ => none

/-- The integer that the field holds: a time is its milliseconds, and a choice its index. -/
def FieldValue.integer? : FieldValue → Option Int
  | .number n => n.toInt?
  | .timestamp t => some t.millis.toInt
  | .choice index => some index.toNat
  | _ => none

/-- The operands differ at most in the kinds that hold their integers and in the signs of their zeros, at every
depth. -/
inductive Operand.Alike : Operand → Operand → Prop
  | refl (o : Operand) : Alike o o
  | integer {o o' : Operand} {i : Int} (h : o.integer? = some i) (h' : o'.integer? = some i) :
      Alike o o'
  | real {x y : Binary64} (h : x.equal y = true) : Alike (.number (.real x)) (.number (.real y))
  | list {items items' : List Operand} (h : List.Forall₂ Alike items items') :
      Alike (.list items) (.list items')

/-- The fields differ at most in the kind that holds their integer. -/
inductive FieldValue.Alike : FieldValue → FieldValue → Prop
  | refl (v : FieldValue) : Alike v v
  | integer {v v' : FieldValue} {i : Int} (h : v.integer? = some i) (h' : v'.integer? = some i) :
      Alike v v'

mutual

theorem Operand.Alike.symm : ∀ {o o' : Operand}, o.Alike o' → o'.Alike o
  | _, _, .refl o => .refl o
  | _, _, .integer h h' => .integer h' h
  | _, _, .real h => .real (Binary64.equal_comm _ _ ▸ h)
  | _, _, .list h => .list (Operand.Alike.symmItems h)

theorem Operand.Alike.symmItems : ∀ {items items' : List Operand},
    List.Forall₂ Operand.Alike items items' → List.Forall₂ Operand.Alike items' items
  | _, _, .nil => .nil
  | _, _, .cons h hs => .cons h.symm (Operand.Alike.symmItems hs)

end

/-- Scalars of the same value. -/
inductive Scalar.Alike : Scalar → Scalar → Prop
  | text (t : String) : Alike (.text t) (.text t)
  | flag (b : Bool) : Alike (.flag b) (.flag b)
  | number {m n : Number} (h : m.SameValue n) : Alike (.number m) (.number n)

/-- Prepared operands of the same values. -/
inductive Prepared.Alike : Prepared → Prepared → Prop
  | nothing : Alike .nothing .nothing
  | pattern (isMatch : String → Bool) : Alike (.pattern isMatch) (.pattern isMatch)
  | scalar {s s' : Scalar} (h : s.Alike s') : Alike (.scalar s) (.scalar s')
  | set {members members' : List Scalar} (h : List.Forall₂ Scalar.Alike members members') :
      Alike (.set members) (.set members')
  | range {l l' h h' : Number} (hlow : l.SameValue l') (hhigh : h.SameValue h') :
      Alike (.range l h) (.range l' h')

theorem Scalar.Alike.refl : ∀ s : Scalar, s.Alike s
  | .text t => .text t
  | .flag b => .flag b
  | .number n => .number (.refl n)

/-! ### What is prepared -/

theorem Operand.number?_of_integer? {o : Operand} {i : Int} (h : o.integer? = some i) :
    ∃ n, o.number? = some n ∧ n.toInt? = some i := by
  cases o with
  | number n => exact ⟨n, rfl, h⟩
  | timestamp t => exact ⟨t.toNumber, rfl, h⟩
  | _ => cases h

namespace Operand.Alike

variable {o o' : Operand}

theorem number? (h : o.Alike o') {m : Number} (hm : o.number? = some m) :
    ∃ n, o'.number? = some n ∧ m.SameValue n := by
  cases h with
  | refl => exact ⟨m, hm, .refl m⟩
  | integer h h' =>
    obtain ⟨k, hk, hki⟩ := number?_of_integer? h
    obtain ⟨n, hn, hni⟩ := number?_of_integer? h'
    cases hm.symm.trans hk
    exact ⟨n, hn, .of_toInt? hki hni⟩
  | real h =>
    cases hm
    exact ⟨_, rfl, .of_equal h⟩
  | list => cases hm

theorem scalar (h : o.Alike o') {s : Scalar} (hs : Scalar.ofOperand o = .ok s) :
    ∃ s', Scalar.ofOperand o' = .ok s' ∧ s.Alike s' := by
  cases h with
  | refl => exact ⟨s, hs, .refl s⟩
  | integer hi hi' =>
    obtain ⟨m, hm, hmi⟩ := number?_of_integer? hi
    obtain ⟨n, hn, hni⟩ := number?_of_integer? hi'
    cases (Scalar.ofOperand_eq_number_iff.2 hm).symm.trans hs
    exact ⟨.number n, Scalar.ofOperand_eq_number_iff.2 hn, .number (.of_toInt? hmi hni)⟩
  | real h =>
    cases hs
    exact ⟨_, rfl, .number (.of_equal h)⟩
  | list => cases hs

theorem reflItems (items : List Operand) : List.Forall₂ Operand.Alike items items := by
  induction items with
  | nil => exact .nil
  | cons o rest ih => exact .cons (.refl o) ih

theorem of_list {items : List Operand} (h : (Operand.list items).Alike o) :
    ∃ items', o = .list items' ∧ List.Forall₂ Operand.Alike items items' := by
  cases h with
  | refl => exact ⟨items, rfl, reflItems items⟩
  | integer h _ => cases h
  | list h => exact ⟨_, rfl, h⟩

theorem candidates (h : o.Alike o') : List.Forall₂ Operand.Alike o.candidates o'.candidates := by
  cases h with
  | refl => exact reflItems _
  | integer h h' =>
    have hself : ∀ {o : Operand} {i : Int}, o.integer? = some i → o.candidates = [o] := by
      intro o i ho
      cases o <;> first | rfl | cases ho
    rw [hself h, hself h']
    exact .cons (.integer h h') .nil
  | real h => exact .cons (.real h) .nil
  | list h => exact h

end Operand.Alike

theorem forall₂_scalars {os os' : List Operand} (h : List.Forall₂ Operand.Alike os os')
    {members : List Scalar} (hm : List.Forall₂ (fun o s => Scalar.ofOperand o = .ok s) os members) :
    ∃ members', List.Forall₂ (fun o s => Scalar.ofOperand o = .ok s) os' members' ∧
      List.Forall₂ Scalar.Alike members members' := by
  induction h generalizing members with
  | nil =>
    cases hm
    exact ⟨[], .nil, .nil⟩
  | cons ho _ ih =>
    cases hm with
    | cons hs hm =>
      obtain ⟨s', hs', hss'⟩ := ho.scalar hs
      obtain ⟨members', hm', hmm'⟩ := ih hm
      exact ⟨s' :: members', .cons hs' hm', .cons hss' hmm'⟩

/-- An operand like an accepted one is accepted, and alike is prepared of it. -/
theorem Prepares.alike {op : Operator} {o o' : Operand} {p : Prepared} (hp : Prepares patterns op o p)
    (h : o.Alike o') : ∃ p', Prepares patterns op o' p' ∧ p.Alike p' := by
  cases hp with
  | nothing _ harity => exact ⟨.nothing, .nothing o' harity, .nothing⟩
  | scalar harity hregex hs htext hnumber =>
    obtain ⟨s', hs', hss'⟩ := h.scalar hs
    refine ⟨.scalar s', .scalar harity hregex hs' (fun ht => ?_) (fun hn => ?_), .scalar hss'⟩
    · obtain ⟨t, rfl⟩ := htext ht
      cases hss'
      exact ⟨t, rfl⟩
    · obtain ⟨n, rfl⟩ := hnumber hn
      cases hss'
      exact ⟨_, rfl⟩
  | pattern harity hregex hp =>
    cases h with
    | refl => exact ⟨_, .pattern harity hregex hp, .pattern _⟩
    | integer h _ => cases h
  | set harity hmembers =>
    obtain ⟨members', hm', hmm'⟩ := forall₂_scalars h.candidates hmembers
    exact ⟨.set members', .set harity hm', .set hmm'⟩
  | range harity hlow hhigh =>
    obtain ⟨items, rfl, hitems⟩ := h.of_list
    obtain _ | ⟨hl, _ | ⟨hh, _ | _⟩⟩ := hitems
    obtain ⟨l', hlow', hll'⟩ := hl.number? hlow
    obtain ⟨h', hhigh', hhh'⟩ := hh.number? hhigh
    exact ⟨.range l' h', .range harity hlow' hhigh', .range hll' hhh'⟩

/-- Rules that differ in alike operands are accepted alike, with alike prepared operands. -/
theorem FieldTest.ofRule_alike {r r' : Rule} (hop : r'.operator = r.operator)
    (h : r.operand.Alike r'.operand) {t : FieldTest} (ht : ofRule patterns r = .ok t) :
    ∃ t', ofRule patterns r' = .ok t' ∧ t'.operator = t.operator ∧ t.operand.Alike t'.operand := by
  obtain ⟨htested, hp⟩ := ofRule_eq_ok_iff.1 ht
  obtain ⟨p', hp', hpp'⟩ := hp.alike h
  rw [← hop] at hp'
  exact ⟨⟨r'.operator, p'⟩, ofRule_eq_ok_iff.2 ⟨rfl, hp'⟩, hop.trans htested.symm, hpp'⟩

theorem FieldTest.isOk_ofRule_alike {r r' : Rule} (hop : r'.operator = r.operator)
    (h : r.operand.Alike r'.operand) : (ofRule patterns r).isOk = (ofRule patterns r').isOk := by
  cases ht : ofRule patterns r with
  | ok t =>
    obtain ⟨t', ht', -⟩ := ofRule_alike hop h ht
    rw [ht']
    rfl
  | error e =>
    cases ht' : ofRule patterns r' with
    | error e' => rfl
    | ok t' =>
      obtain ⟨t, ht'', -⟩ := ofRule_alike hop.symm h.symm ht'
      cases ht.symm.trans ht''

/-! ### What passes -/

/-- Fields that no test tells apart: of the same text, flag and presence, and of one numeric value. -/
structure FieldValue.Agrees (v v' : FieldValue) : Prop where
  text? : v.text? = v'.text?
  flag? : v.flag? = v'.flag?
  isMissing : v.isMissing = v'.isMissing
  isEmpty : v.isEmpty = v'.isEmpty
  numeric? : v.numeric? = none ∧ v'.numeric? = none ∨
    ∃ m n, v.numeric? = some m ∧ v'.numeric? = some n ∧ m.SameValue n

theorem FieldValue.Agrees.refl (v : FieldValue) : v.Agrees v where
  text? := rfl
  flag? := rfl
  isMissing := rfl
  isEmpty := rfl
  numeric? := by
    cases hv : v.numeric? with
    | none => exact .inl ⟨rfl, rfl⟩
    | some n => exact .inr ⟨n, n, rfl, rfl, .refl n⟩

theorem FieldValue.numeric?_of_integer? {v : FieldValue} {i : Int} (h : v.integer? = some i) :
    ∃ n, v.numeric? = some n ∧ n.toInt? = some i := by
  cases v with
  | number n => exact ⟨n, rfl, h⟩
  | timestamp t => exact ⟨t.toNumber, rfl, h⟩
  | choice index => exact ⟨.unsigned index.toUInt64, rfl, by simpa [Number.toInt?, integer?] using h⟩
  | text | flag | missing => cases h

/-- A field that holds an integer shows nothing else. -/
theorem FieldValue.agrees_of_integer? {v v' : FieldValue} {i : Int} (h : v.integer? = some i)
    (h' : v'.integer? = some i) : v.Agrees v' := by
  obtain ⟨m, hm, hmi⟩ := numeric?_of_integer? h
  obtain ⟨n, hn, hni⟩ := numeric?_of_integer? h'
  have hplain : ∀ {v : FieldValue}, v.integer? = some i →
      v.text? = none ∧ v.flag? = none ∧ v.isMissing = false ∧ v.isEmpty = false := by
    intro v hv
    cases v with
    | number | timestamp | choice => exact ⟨rfl, rfl, rfl, rfl⟩
    | text | flag | missing => cases hv
  obtain ⟨htext, hflag, hmissing, hempty⟩ := hplain h
  obtain ⟨htext', hflag', hmissing', hempty'⟩ := hplain h'
  exact ⟨htext.trans htext'.symm, hflag.trans hflag'.symm, hmissing.trans hmissing'.symm,
    hempty.trans hempty'.symm, .inr ⟨m, n, hm, hn, .of_toInt? hmi hni⟩⟩

theorem FieldValue.Alike.agrees {v v' : FieldValue} (h : v.Alike v') : v.Agrees v' := by
  cases h with
  | refl => exact .refl v
  | integer h h' => exact agrees_of_integer? h h'

section

variable {v v' : FieldValue} (hv : v.Agrees v')
include hv

theorem Scalar.Alike.comparable_eq {s s' : Scalar} (hs : s.Alike s') :
    s.comparable v = s'.comparable v' := by
  cases hs with
  | text => rw [comparable, comparable, hv.text?]
  | flag => rw [comparable, comparable, hv.flag?]
  | number =>
    obtain ⟨h, h'⟩ | ⟨m, n, h, h', -⟩ := hv.numeric?
    · rw [comparable, comparable, h, h']
    · rw [comparable, comparable, h, h']
      rfl

theorem Scalar.Alike.equals_eq {s s' : Scalar} (hs : s.Alike s') : s.equals v = s'.equals v' := by
  cases hs with
  | text => rw [equals, equals, hv.text?]
  | flag => rw [equals, equals, hv.flag?]
  | number hb =>
    obtain ⟨h, h'⟩ | ⟨m, n, h, h', hmn⟩ := hv.numeric?
    · simp only [equals, h, h']
    · simp only [equals, h, h', Number.compare_congr hmn hb]

namespace FieldTest

theorem passesScalar_alike (op : Operator) {s s' : Scalar} (hs : s.Alike s') :
    passesScalar op s v = passesScalar op s' v' := by
  cases hs with
  | text => simp only [passesScalar, hv.text?]
  | flag => simp only [passesScalar, hv.flag?]
  | number hb =>
    obtain ⟨h, h'⟩ | ⟨m, n, h, h', hmn⟩ := hv.numeric?
    · simp only [passesScalar, h, h']
    · simp only [passesScalar, h, h', passesNumber, Number.compare_congr hmn hb]

theorem passesSet_alike (op : Operator) {members members' : List Scalar}
    (hm : List.Forall₂ Scalar.Alike members members') :
    passesSet op members v = passesSet op members' v' := by
  have hcomparable := any_congr_forall₂ hm fun _ _ hs => hs.comparable_eq hv
  have hequals := any_congr_forall₂ hm fun _ _ hs => hs.equals_eq hv
  simp only [passesSet, hcomparable, hequals, isEmpty_congr_forall₂ hm]

theorem passesRange_alike (op : Operator) {l l' h h' : Number} (hl : l.SameValue l')
    (hh : h.SameValue h') : passesRange op l h v = passesRange op l' h' v' := by
  obtain ⟨hm, hn⟩ | ⟨m, n, hm, hn, hmn⟩ := hv.numeric?
  · simp only [passesRange, hm, hn]
  · simp only [passesRange, hm, hn, Number.compare_congr hmn hl, Number.compare_congr hmn hh]

/-- Alike prepared operands pass the same of two fields that agree. -/
theorem passes_alike (op : Operator) {p p' : Prepared} (hp : p.Alike p') :
    passes ⟨op, p⟩ v = passes ⟨op, p'⟩ v' := by
  -- presence is read off the field, and needs no prepared operand
  by_cases hop : op.presence = true
  · unfold passes
    rw [hv.isMissing, hv.isEmpty]
    cases op with
    | isNull | isNotNull | isEmpty | isNotEmpty => rfl
    | _ => cases hop
  · rw [Bool.not_eq_true] at hop
    rw [passes_eq hop, passes_eq hop, hv.isMissing]
    cases hp with
    | nothing => rfl
    | pattern => rw [hv.text?]
    | scalar hs => simp only [passesScalar_alike hv op hs]
    | set hm => simp only [passesSet_alike hv op hm]
    | range hl hh => simp only [passesRange_alike hv op hl hh]

end FieldTest

end

/-- The tests of alike rules agree on alike fields. -/
theorem FieldTest.passes_ofRule_alike {r r' : Rule} (hop : r'.operator = r.operator)
    (h : r.operand.Alike r'.operand) {t t' : FieldTest} (ht : ofRule patterns r = .ok t)
    (ht' : ofRule patterns r' = .ok t') {v v' : FieldValue} (hv : v.Alike v') : t.passes v = t'.passes v' := by
  obtain ⟨op, p⟩ := t
  obtain ⟨⟨op', p'⟩, hprepared, rfl, hlike⟩ := ofRule_alike hop h ht
  cases ht'.symm.trans hprepared
  exact passes_alike hv.agrees _ hlike

end RuleTree
