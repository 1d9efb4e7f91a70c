import Mathlib.Data.List.Forall2
import Mathlib.Order.Lattice
import RuleTree.Compile.Field
import RuleTree.Pattern.Basic
import RuleTree.Proofs.Tree.Evaluation

/-! Filters grow with their leaves. No tree negates, and a list with a rule that does not compile fails,
so that a compiler with wider leaves, or one that compiles more rules, admits every entity that the
narrower one admits. -/

namespace RuleTree

variable {ε δ α : Type} {patterns : Patterns}

namespace RuleCompiler

/-- Does the compiled filter hold of the entity? -/
def Admits (compile : RuleCompiler ε α) (groups : List Group) (x : α) : Prop :=
  ∃ c, compileGroups compile groups = .ok c ∧ (c.predicate.test x).holds = true

/-- Whatever `A` compiles, `B` compiles too, to a leaf that holds wherever the leaf of `A` does. -/
def Below (A : RuleCompiler ε α) (B : RuleCompiler δ α) : Prop :=
  ∀ r p, A r = .ok p → ∃ q, B r = .ok q ∧ ∀ x, (p.test x).holds = true → (q.test x).holds = true

/-- Whatever `A` compiles, `B` compiles to the same leaf. -/
def Extends (B A : RuleCompiler ε α) : Prop := ∀ r p, A r = .ok p → B r = .ok p

theorem Extends.below {A B : RuleCompiler ε α} (h : B.Extends A) : A.Below B :=
  fun r p hp => ⟨p, h r p hp, fun _ => id⟩

theorem admits_iff (compile : RuleCompiler ε α) (first : Group) (rest : List Group) (x : α) :
    compile.Admits (first :: rest) x ↔
      (evaluateGroups (compile.leaves x) (first :: rest)).holds = true := by
  rw [← compileGroups_test (c := _) rfl]
  exact ⟨fun ⟨_, hc, hx⟩ => by cases hc; exact hx, fun hx => ⟨_, rfl, hx⟩⟩

end RuleCompiler

/-! ### Joins -/

theorem Connective.apply_mono (c : Connective) {a a' b b' : Bool} (ha : a ≤ a') (hb : b ≤ b') :
    c.apply a b ≤ c.apply a' b' := by
  cases c with
  | and => exact inf_le_inf ha hb
  | or => exact sup_le_sup ha hb

namespace Verdict

theorem join_holds (c : Connective) (v w : Verdict ε) :
    (v.join c w).holds = c.apply v.holds w.holds := by
  cases c <;> cases h : v.holds <;> simp [join, Connective.settledBy, Connective.apply, h]

/-- Two siblings of one connective, the second one true where the first one is. -/
def Le (a : Connective × Verdict ε) (b : Connective × Verdict δ) : Prop :=
  a.1 = b.1 ∧ a.2.holds ≤ b.2.holds

theorem joinOnto_mono {vs : List (Connective × Verdict ε)} {ws : List (Connective × Verdict δ)}
    (hs : List.Forall₂ Le vs ws) {v : Verdict ε} {w : Verdict δ} (h : v.holds ≤ w.holds) :
    (v.joinOnto vs).holds ≤ (w.joinOnto ws).holds := by
  induction hs generalizing v w with
  | nil => exact h
  | @cons a b vs ws hab _ ih =>
    obtain ⟨c, va⟩ := a
    obtain ⟨c', vb⟩ := b
    obtain ⟨rfl, hle⟩ := hab
    rw [joinOnto_cons, joinOnto_cons]
    apply ih
    rw [join_holds, join_holds]
    exact c.apply_mono h hle

theorem joinAll_mono {vs : List (Connective × Verdict ε)} {ws : List (Connective × Verdict δ)}
    (hs : List.Forall₂ Le vs ws) : (joinAll vs).holds ≤ (joinAll ws).holds := by
  cases hs with
  | nil => exact le_refl true
  | cons h hs => exact joinOnto_mono hs h.2

end Verdict

/-! ### Trees -/

/-- `Below` for the leaves of one entity. -/
def Leaves.Below (A : Leaves ε) (B : Leaves δ) : Prop :=
  ∀ r v, A r = some v → ∃ w, B r = some w ∧ v.holds ≤ w.holds

theorem RuleCompiler.Below.leaves {A : RuleCompiler ε α} {B : RuleCompiler δ α} (h : A.Below B)
    (x : α) : (A.leaves x).Below (B.leaves x) := by
  intro r v hv
  cases hA : A r with
  | error e => simp [RuleCompiler.leaves, hA, Except.toOption] at hv
  | ok p =>
    obtain ⟨q, hq, hpq⟩ := h r p hA
    rw [RuleCompiler.leaves_of_ok hA, Option.some.injEq] at hv
    subst hv
    exact ⟨q.test x, RuleCompiler.leaves_of_ok hq x, Bool.le_iff_imp.2 (hpq x)⟩

theorem judgeRules_mono {A : Leaves ε} {B : Leaves δ} (h : A.Below B) :
    ∀ (rules : List Rule) vs, judgeRules A rules = some vs →
      ∃ ws, judgeRules B rules = some ws ∧ List.Forall₂ Verdict.Le vs ws
  | [], vs, hvs => by
    cases hvs
    exact ⟨[], rfl, .nil⟩
  | r :: rest, vs, hvs => by
    obtain ⟨v, vs, hv, hvs', rfl⟩ := exists_of_judgeRules_cons hvs
    obtain ⟨w, hw, hle⟩ := h r v hv
    obtain ⟨ws, hws, hall⟩ := judgeRules_mono h rest vs hvs'
    refine ⟨(r.connective, w) :: ws, ?_, .cons ⟨rfl, hle⟩ hall⟩
    rw [judgeRules_cons, hw, hws]
    rfl

theorem evaluateRules_mono {A : Leaves ε} {B : Leaves δ} (h : A.Below B) (rules : List Rule) :
    (evaluateRules A rules).holds ≤ (evaluateRules B rules).holds := by
  cases hvs : judgeRules A rules with
  | none =>
    rw [evaluateRules, hvs]
    exact Bool.false_le _
  | some vs =>
    obtain ⟨ws, hws, hall⟩ := judgeRules_mono h rules vs hvs
    rw [evaluateRules, evaluateRules, hvs, hws]
    exact Verdict.joinAll_mono hall

mutual

theorem evaluateGroup_mono {A : Leaves ε} {B : Leaves δ} (h : A.Below B) :
    ∀ g, (evaluateGroup A g).holds ≤ (evaluateGroup B g).holds
  | .mk rules [] c => evaluateRules_mono h rules
  | .mk [] (first :: others) c => Verdict.joinAll_mono (judgeGroups_mono h (first :: others))
  | .mk (r :: rest) (first :: others) c => by
    have hown := evaluateRules_mono h (r :: rest)
    have hchildren := Verdict.joinAll_mono (judgeGroups_mono h (first :: others))
    simp only [evaluateGroup, List.isEmpty_cons, Bool.false_eq_true, if_false, Verdict.join_holds]
    exact first.connective.apply_mono hown hchildren

theorem judgeGroups_mono {A : Leaves ε} {B : Leaves δ} (h : A.Below B) :
    ∀ groups, List.Forall₂ Verdict.Le (judgeGroups A groups) (judgeGroups B groups)
  | [] => .nil
  | g :: rest => .cons ⟨rfl, evaluateGroup_mono h g⟩ (judgeGroups_mono h rest)

end

theorem RuleCompiler.Below.admits {A : RuleCompiler ε α} {B : RuleCompiler δ α} (h : A.Below B)
    {first : Group} {rest : List Group} {x : α} (hx : A.Admits (first :: rest) x) :
    B.Admits (first :: rest) x := by
  rw [admits_iff] at hx ⊢
  exact Bool.le_iff_imp.1 (Verdict.joinAll_mono (judgeGroups_mono (h.leaves x) _)) hx

/-! ### Schemas -/

/-- A schema is asked last, about a test that is ready. -/
theorem prepareRule_some (s : Schema) (r : Rule) :
    prepareRule patterns (some s) r =
      (prepareRule patterns none r).bind fun t => (s.check r.field t).map fun _ => t := by
  simp only [prepareRule]
  by_cases hf : allBlank r.field
  · simp only [hf, if_true]
    rfl
  · simp only [hf, Bool.false_eq_true, if_false]
    cases ht : FieldTest.ofRule patterns r with
    | error e => rfl
    | ok t =>
      cases hc : s.check r.field t <;>
        simp [bind, Except.bind, hc, Except.map, pure, Except.pure]

theorem compileField_extends (read : α → String → FieldValue) (s : Schema) :
    (compileField patterns read none : RuleCompiler ε α).Extends (compileField patterns read (some s)) := by
  intro r p hp
  rw [compileField, prepareRule_some] at hp
  cases ht : prepareRule patterns none r with
  | error e => rw [ht] at hp; cases hp
  | ok t =>
    cases hc : s.check r.field t with
    | error e => simp [ht, hc, bind, Except.bind, Except.map] at hp
    | ok u =>
      rw [compileField, ht]
      simpa [ht, hc, Except.bind, Except.map] using hp

/-- Wider leaves, further rules that compile, and the lack of a schema only ever add matches. -/
theorem admits_mono :
    (∀ (A : RuleCompiler ε α) (B : RuleCompiler δ α), A.Below B →
      ∀ first rest x, A.Admits (first :: rest) x → B.Admits (first :: rest) x) ∧
    (∀ A B : RuleCompiler ε α, B.Extends A →
      ∀ first rest x, ¬ B.Admits (first :: rest) x → ¬ A.Admits (first :: rest) x) ∧
    ∀ (patterns : Patterns) (read : α → String → FieldValue) (s : Schema) first rest x,
      (compileField patterns read (some s) : RuleCompiler ε α).Admits (first :: rest) x →
        (compileField patterns read none : RuleCompiler ε α).Admits (first :: rest) x := by
  refine ⟨fun A B h first rest x => h.admits, fun A B h first rest x hB hA => ?_,
    fun _ read s first rest x => (compileField_extends read s).below.admits⟩
  exact hB (h.below.admits hA)

/-- Rules on the given fields, each asking for a number from `least` on; no other rule compiles. -/
def atLeast (fields : List String) (least : Nat) : RuleCompiler String Nat := fun r =>
  if r.field ∈ fields then .ok (.leaf r.field fun n => least ≤ n) else .error (.unknownField r.field)

theorem atLeast_below : (atLeast ["age"] 18).Below (atLeast ["age", "height"] 10) := by
  intro r p hp
  by_cases hr : r.field = "age"
  · simp only [atLeast, hr, List.mem_singleton, if_true, Except.ok.injEq] at hp
    subst hp
    refine ⟨.leaf "age" fun n => 10 ≤ n, by simp [atLeast, hr], fun x hx => ?_⟩
    simp only [Predicate.leaf, decide_eq_true_eq] at hx ⊢
    omega
  · simp [atLeast, hr] at hp

theorem atLeast_extends : (atLeast ["age", "height"] 18).Extends (atLeast ["age"] 18) := by
  intro r p hp
  by_cases hr : r.field = "age"
  · simpa [atLeast, hr] using hp
  · simp [atLeast, hr] at hp

/-- A child that fails to compile beside one that compiles, under each of the three readings. -/
theorem admits_mono_siblings :
    let height : Group := .mk [⟨"height", .greater, .number (.signed 3), .and⟩] [] .and
    let age : Group := .mk [⟨"age", .greater, .number (.signed 3), .and⟩] [] .or
    let both : Group := .mk [] [height, age] .and
    (atLeast ["age"] 18).Admits [both] 20 ∧ (atLeast ["age", "height"] 10).Admits [both] 20 ∧
      ¬ (atLeast ["age", "height"] 18).Admits [both] 5 ∧ ¬ (atLeast ["age"] 18).Admits [both] 5 ∧
      (compileField Pattern.search (fun v _ => v) (some ⟨[("age", .number)]⟩) : RuleCompiler Unit FieldValue).Admits
        [both] (.number (.signed 18)) ∧
      (compileField Pattern.search (fun v _ => v) none : RuleCompiler Unit FieldValue).Admits
        [both] (.number (.signed 18)) := by
  intro height age both
  have hwide : (atLeast ["age"] 18).Admits [both] 20 := ⟨_, rfl, by decide⟩
  have hreject : ¬ (atLeast ["age", "height"] 18).Admits [both] 5 := by
    rw [RuleCompiler.admits_iff]
    decide
  have hschema : (compileField Pattern.search (fun v _ => v) (some ⟨[("age", .number)]⟩) :
      RuleCompiler Unit FieldValue).Admits [both] (.number (.signed 18)) := ⟨_, rfl, by decide⟩
  exact ⟨hwide, admits_mono.1 _ _ atLeast_below _ _ _ hwide, hreject,
    (@admits_mono _ String _).2.1 _ _ atLeast_extends _ _ _ hreject, hschema,
    (@admits_mono _ String _).2.2 _ _ _ _ _ _ hschema⟩

end RuleTree
