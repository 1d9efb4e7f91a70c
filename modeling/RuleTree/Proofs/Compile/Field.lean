import RuleTree.Compile.Field
import RuleTree.Proofs.FieldTest.Preparation
import RuleTree.Proofs.Tree.Evaluation

/-! When a rule on a field compiles: its field has a name, its operand suits its operator, and the schema, if
there is one, has nothing against the test. Its leaf is that test and calls no other. -/

namespace RuleTree

variable {ε α : Type} {patterns : Patterns}

/-- A schema passes a test of a declared field whose kind takes the operator and every scalar. -/
theorem Schema.check_eq_ok_iff {s : Schema} {field : String} {t : FieldTest} :
    s.check field t = .ok () ↔ ∃ kind, s.kind? field = some kind ∧ kind.accepts t.operator = true ∧
      ∀ scalar ∈ t.scalars, kind.admits scalar = true := by
  unfold check
  cases s.kind? field with
  | none => simp
  | some kind =>
    have hfind : t.scalars.find? (fun scalar => !kind.admits scalar) = none ↔
        ∀ scalar ∈ t.scalars, kind.admits scalar = true := by
      simp
    simp only [Option.some.injEq, exists_eq_left', ← hfind]
    cases kind.accepts t.operator with
    | false => simp
    | true =>
      cases t.scalars.find? fun scalar => !kind.admits scalar with
      | none => simp
      | some scalar => simp

theorem prepareRule_eq_ok_iff {schema : Option Schema} {r : Rule} {t : FieldTest} :
    prepareRule patterns schema r = .ok t ↔ allBlank r.field = false ∧ FieldTest.ofRule patterns r = .ok t ∧
      ∀ s ∈ schema, s.check r.field t = .ok () := by
  unfold prepareRule
  cases allBlank r.field with
  | true => simp [throw, throwThe, MonadExceptOf.throw, bind, Except.bind]
  | false =>
    simp only [Bool.false_eq_true, if_false, true_and, bind_eq_ok_iff]
    cases schema with
    | none => simp [pure, Except.pure]
    | some s =>
      simp only [bind_eq_ok_iff, pure, Except.pure, Except.ok.injEq, Option.mem_def, Option.some.injEq,
        forall_eq']
      constructor
      · rintro ⟨u, hu, ⟨⟩, hcheck, rfl⟩
        exact ⟨hu, hcheck⟩
      · rintro ⟨ht, hcheck⟩
        exact ⟨t, ht, (), hcheck, rfl⟩

theorem leaves_compileField (read : α → String → FieldValue) (schema : Option Schema) (x : α)
    (r : Rule) :
    (compileField patterns read schema : RuleCompiler ε α).leaves x r =
      (prepareRule patterns schema r).toOption.map fun t => ⟨t.passes (read x r.field), []⟩ := by
  unfold RuleCompiler.leaves compileField
  cases prepareRule patterns schema r <;> rfl

end RuleTree
