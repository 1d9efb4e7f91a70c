import RuleTree.Pattern.Basic
import RuleTree.Proofs.Compile.Field
import RuleTree.Proofs.Definition.Loading
import RuleTree.Proofs.FieldTest.Integers
import RuleTree.Proofs.Tree.Shape

/-! Trees that hold the same integers match the same entities, whichever kinds hold them. Saving a tree and loading it
again changes no more than these kinds where its doubles are finite and read back as doubles that equal them, so that
it then matches what it matched before. -/

namespace RuleTree

open Json

variable {ε α : Type} {patterns : Patterns}

/-! ### Alike trees -/

/-- The rules differ at most in the kinds that hold their integers and in the signs of their zeros. -/
structure Rule.Alike (r r' : Rule) : Prop where
  field : r'.field = r.field
  operator : r'.operator = r.operator
  operand : r.operand.Alike r'.operand
  connective : r'.connective = r.connective

theorem Rule.Alike.symm {r r' : Rule} (h : r.Alike r') : r'.Alike r :=
  ⟨h.field.symm, h.operator.symm, h.operand.symm, h.connective.symm⟩

/-- The trees differ at most in what alike rules differ in. -/
abbrev Group.Alike : Group → Group → Prop := Group.Lift Rule.Alike

/-! ### Compiling -/

theorem FieldKind.admits_alike {s s' : Scalar} (h : s.Alike s') (kind : FieldKind) :
    kind.admits s = kind.admits s' := by
  cases h <;> cases kind <;> rfl

theorem Prepared.Alike.scalars (op : Operator) {p p' : Prepared} (h : p.Alike p') :
    List.Forall₂ Scalar.Alike (FieldTest.scalars ⟨op, p⟩) (FieldTest.scalars ⟨op, p'⟩) := by
  cases h with
  | nothing | pattern | range => exact .nil
  | scalar h => exact .cons h .nil
  | set h => exact h

/-- A schema has nothing against a test if it has nothing against one like it. -/
theorem Schema.check_alike {s : Schema} {field : String} {op : Operator} {p p' : Prepared}
    (h : p.Alike p') (hcheck : s.check field ⟨op, p⟩ = .ok ()) : s.check field ⟨op, p'⟩ = .ok () := by
  rw [check_eq_ok_iff] at hcheck ⊢
  obtain ⟨kind, hkind, haccepts, hadmits⟩ := hcheck
  -- the check sees of a scalar only what kind of field it suits
  have hany := any_congr_forall₂ (h.scalars op) fun _ _ hs =>
    congrArg Bool.not (kind.admits_alike hs)
  refine ⟨kind, hkind, haccepts, ?_⟩
  rw [← List.all_eq_true, List.all_eq_not_any_not] at hadmits ⊢
  exact hany ▸ hadmits

theorem prepareRule_alike {schema : Option Schema} {r r' : Rule} (h : r.Alike r') {t : FieldTest}
    (ht : prepareRule patterns schema r = .ok t) :
    ∃ t', prepareRule patterns schema r' = .ok t' ∧ ∀ v, t'.passes v = t.passes v := by
  rw [prepareRule_eq_ok_iff] at ht
  obtain ⟨hfield, htest, hcheck⟩ := ht
  obtain ⟨t', htest', hop, hlike⟩ := FieldTest.ofRule_alike h.operator h.operand htest
  obtain ⟨op, p⟩ := t
  obtain ⟨op', p'⟩ := t'
  cases hop
  refine ⟨⟨op, p'⟩, ?_, fun v => (FieldTest.passes_alike (.refl v) op hlike).symm⟩
  rw [prepareRule_eq_ok_iff, h.field]
  exact ⟨hfield, htest', fun s hs => Schema.check_alike hlike (hcheck s hs)⟩

/-- Alike rules have the same leaf. -/
theorem leaves_alike (read : α → String → FieldValue) (schema : Option Schema) (x : α) {r r' : Rule}
    (h : r.Alike r') :
    (compileField patterns read schema : RuleCompiler ε α).leaves x r =
      (compileField patterns read schema : RuleCompiler ε α).leaves x r' := by
  rw [leaves_compileField, leaves_compileField]
  cases ht : prepareRule patterns schema r with
  | ok t =>
    obtain ⟨t', ht', hpasses⟩ := prepareRule_alike h ht
    rw [ht', h.field]
    simp [Except.toOption, hpasses]
  | error e =>
    cases ht' : prepareRule patterns schema r' with
    | error e' => rfl
    | ok t' =>
      obtain ⟨t, ht'', -⟩ := prepareRule_alike h.symm ht'
      cases ht.symm.trans ht''

/-- Alike trees give every entity the same verdict. -/
theorem compileGroup_alike (read : α → String → FieldValue) (schema : Option Schema) {g g' : Group}
    (h : g.Alike g') (x : α) :
    (compileGroup (compileField patterns read schema : RuleCompiler ε α) g).predicate.test x =
      (compileGroup (compileField patterns read schema : RuleCompiler ε α) g').predicate.test x := by
  have hrespects : ((compileField patterns read schema : RuleCompiler ε α).leaves x).Respects Rule.Alike :=
    ⟨fun hr => hr.connective, leaves_alike read schema x⟩
  rw [compileGroup_test, compileGroup_test, evaluateGroup_lift hrespects h]

/-! ### What a saved tree is loaded as -/

/-- The double can be written, and is read back as one that equals it. -/
structure Binary64.Survives (x : Binary64) : Prop where
  isFinite : x.isFinite = true
  readsBack : x.ReadsBack

theorem Number.toInt?_reread {n : Number} {i : Int} (h : n.toInt? = some i) : n.reread.toInt? = some i := by
  rw [reread_of_toInt? h, toInt?_ofInt (isWord_of_toInt? h)]

theorem Binary64.Survives.exists_reread {x : Binary64} (h : x.Survives) :
    ∃ y, (Number.real x).reread = .real y ∧ x.equal y = true := by
  obtain ⟨y, hy⟩ := Number.exists_reread_real h.isFinite
  have hback := h.readsBack
  rw [ReadsBack, hy] at hback
  exact ⟨y, hy, (x.equal_comm y).trans hback⟩

mutual

/-- An operand is loaded as one like it if its doubles survive. -/
theorem Operand.alike_loaded : ∀ {o : Operand}, (∀ x ∈ o.doubles, x.Survives) → o.Alike o.writable.reread
  | .null, _ | .flag _, _ | .text _, _ => .refl _
  | .timestamp _, _ => .integer rfl rfl
  | .number (.signed n), _ => .integer rfl (Number.toInt?_reread (n := .signed n) rfl)
  | .number (.unsigned n), _ => .integer rfl (Number.toInt?_reread (n := .unsigned n) rfl)
  | .number (.real x), h => by
    have hx : x.Survives := h x (List.mem_singleton_self x)
    obtain ⟨y, hreread, hequal⟩ := hx.exists_reread
    have hwritable : (Operand.number (.real x)).writable = .number (.real x) := if_pos hx.isFinite
    rw [hwritable, Operand.reread, hreread]
    exact .real hequal
  | .list items, h => by
    rw [Operand.doubles, Operand.numbers] at h
    exact .list (Operand.alike_loadedItems h)

theorem Operand.alike_loadedItems : ∀ {items : List Operand},
    (∀ x ∈ (Operand.numbersItems items).filterMap Number.double?, x.Survives) →
    List.Forall₂ Operand.Alike items (Operand.rereadItems (Operand.writableItems items))
  | [], _ => .nil
  | _ :: _, h => by
    rw [Operand.numbersItems, List.filterMap_append, List.forall_mem_append] at h
    exact .cons (Operand.alike_loaded h.1) (Operand.alike_loadedItems h.2)

end

theorem Rule.alike_loadedAll {rules : List Rule}
    (h : ∀ x ∈ (rules.flatMap fun r => r.operand.numbers).filterMap Number.double?, x.Survives) :
    List.Forall₂ Rule.Alike rules ((rules.map Rule.writable).map Rule.reread) := by
  induction rules with
  | nil => exact .nil
  | cons r rest ih =>
    rw [List.flatMap_cons, List.filterMap_append, List.forall_mem_append] at h
    exact .cons ⟨rfl, rfl, Operand.alike_loaded h.1, rfl⟩ (ih h.2)

mutual

/-- A saved tree is loaded as one like it if its doubles survive. -/
theorem Group.alike_loaded : ∀ {g : Group}, (∀ x ∈ g.doubles, x.Survives) → g.Alike g.loaded
  | .mk rules groups c, h => by
    rw [Group.doubles, Group.numbers, List.filterMap_append, List.forall_mem_append] at h
    exact .mk c (Rule.alike_loadedAll h.1) (Group.alike_loadedAll h.2)

theorem Group.alike_loadedAll : ∀ {groups : List Group},
    (∀ x ∈ (Group.numbersAll groups).filterMap Number.double?, x.Survives) →
    List.Forall₂ Group.Alike groups (Group.rereadAll (Group.writableAll groups))
  | [], _ => .nil
  | _ :: _, h => by
    rw [Group.numbersAll, List.filterMap_append, List.forall_mem_append] at h
    exact .cons (Group.alike_loaded h.1) (Group.alike_loadedAll h.2)

end

/-! ### Doubles that do not survive -/

/-- The tree of one rule. -/
def Rule.alone (r : Rule) : Group := .mk [r] [] .and

/-- A tree of one rule matches what the rule matches, and nothing if the rule does not compile. -/
theorem Rule.alone_holds (read : α → String → FieldValue) (schema : Option Schema) (r : Rule) (x : α) :
    ((compileGroup (compileField patterns read schema : RuleCompiler ε α) r.alone).predicate.test x).holds =
      ((prepareRule patterns schema r).toOption.map fun t => t.passes (read x r.field)).getD false := by
  rw [compileGroup_test, alone, evaluateGroup, evaluateRules, judgeRules_cons, leaves_compileField]
  cases prepareRule patterns schema r <;> rfl

theorem Rule.loaded_alone (r : Rule) : r.alone.loaded = r.writable.reread.alone := rfl

/-- Asks for the double. -/
def Rule.equalTo (x : Binary64) : Rule := ⟨"a", .equal, .number (.real x), .and⟩

/-- Asks for anything but the double and some text. -/
def Rule.neither (x : Binary64) : Rule := ⟨"a", .notMemberOf, .list [.number (.real x), .text "a"], .and⟩

theorem FieldTest.passes_equal_real (x y : Binary64) :
    passes ⟨.equal, .scalar (.number (.real y))⟩ (.number (.real x)) = x.equal y := by
  have hcompare : (Number.real x).compare (.real y) = x.compare y := rfl
  simp only [passes, FieldValue.isMissing, passesScalar, FieldValue.numeric?, passesNumber, hcompare, Binary64.equal]
  cases x.compare y with
  | none => rfl
  | some o => cases o <;> rfl

section

variable (ε patterns)

/-- Does the tree match the field on its own? -/
abbrev Group.matchesField (g : Group) (v : FieldValue) : Bool :=
  ((compileGroup (compileField patterns (fun v _ => v) none : RuleCompiler ε FieldValue) g).predicate.test v).holds

theorem Rule.alone_matches {r : Rule} {t : FieldTest} (hfield : allBlank r.field = false)
    (ht : FieldTest.ofRule patterns r = .ok t) (v : FieldValue) :
    r.alone.matchesField ε patterns v = t.passes v := by
  have hprepared : prepareRule patterns none r = .ok t :=
    prepareRule_eq_ok_iff.2 ⟨hfield, ht, fun _ hs => by cases hs⟩
  rw [Group.matchesField, alone_holds, hprepared]
  rfl

theorem Rule.equalTo_matches (x y : Binary64) :
    (equalTo y).alone.matchesField ε patterns (.number (.real x)) = x.equal y := by
  have hfield : allBlank "a" = false := by decide
  exact (alone_matches ε patterns hfield rfl _).trans (FieldTest.passes_equal_real x y)

/-- A finite double that is read back as another one no longer equals the field that it equalled. -/
theorem Rule.equalTo_told_apart {x : Binary64} (hx : x.isFinite = true) (h : ¬ x.ReadsBack) :
    (equalTo x).alone.matchesField ε patterns (.number (.real x)) = true ∧
      (equalTo x).alone.loaded.matchesField ε patterns (.number (.real x)) = false := by
  obtain ⟨y, hy⟩ := Number.exists_reread_real hx
  have hwritable : (Operand.number (.real x)).writable = .number (.real x) := if_pos hx
  have hloaded : (equalTo x).writable.reread = equalTo y := by
    rw [writable, reread, equalTo, hwritable, Operand.reread, hy]
    rfl
  rw [Binary64.ReadsBack, hy, Bool.not_eq_true] at h
  rw [loaded_alone, hloaded, equalTo_matches, equalTo_matches, Binary64.equal_comm x y]
  exact ⟨Binary64.equal_iff.2 ⟨Binary64.isNaN_of_isFinite hx, Binary64.isNaN_of_isFinite hx, rfl⟩, h⟩

/-- A double that is not finite leaves null behind, which is no element of a set. -/
theorem Rule.neither_told_apart {x : Binary64} (hx : x.isFinite = false) :
    (neither x).alone.matchesField ε patterns (.text "b") = true ∧
      (neither x).alone.loaded.matchesField ε patterns (.text "b") = false := by
  have hfield : allBlank "a" = false := by decide
  have hwritable : (Operand.number (.real x)).writable = .null := if_neg (Bool.eq_false_iff.1 hx)
  have hloaded : (neither x).writable.reread = ⟨"a", .notMemberOf, .list [.null, .text "a"], .and⟩ := by
    rw [writable, reread, neither, Operand.writable, Operand.writableItems, hwritable]
    rfl
  have ht : FieldTest.ofRule patterns (neither x) = .ok ⟨.notMemberOf, .set [.number (.real x), .text "a"]⟩ := rfl
  refine ⟨alone_matches ε patterns hfield ht (.text "b"), ?_⟩
  rw [loaded_alone, hloaded, Group.matchesField, alone_holds]
  rfl

/-- Some tree with no other double in it is told apart from what it is loaded as. -/
theorem Binary64.told_apart {x : Binary64} (h : ¬ x.Survives) :
    ∃ (g g' : Group) (v : FieldValue), g.doubles = [x] ∧ Group.parse g.json = .ok g' ∧
      g.matchesField ε patterns v = true ∧ g'.matchesField ε patterns v = false := by
  cases hx : x.isFinite with
  | true =>
    have hback : ¬ x.ReadsBack := fun hback => h ⟨hx, hback⟩
    have hdepth : (Rule.equalTo x).alone.document.nesting ≤ nestingLimit := Nat.le_of_ble_eq_true rfl
    exact ⟨_, _, _, rfl, (Group.parse_json_iff_loaded _ _).2 ⟨hdepth, rfl⟩,
      Rule.equalTo_told_apart ε patterns hx hback⟩
  | false =>
    have hdepth : (Rule.neither x).alone.document.nesting ≤ nestingLimit := Nat.le_of_ble_eq_true rfl
    exact ⟨_, _, _, rfl, (Group.parse_json_iff_loaded _ _).2 ⟨hdepth, rfl⟩, Rule.neither_told_apart ε patterns hx⟩

end

/-! ### Matching -/

/-- Alike operands are accepted alike, and their tests agree on alike fields. So alike trees match the same
entities. What a saved tree is loaded as, where it is loaded at all, is like the tree if every double in it survives,
and no double that does not survive can be allowed for all trees. -/
theorem match_alike (patterns : Patterns) :
    (∀ (r : Rule) (o : Operand), r.operand.Alike o →
      (FieldTest.ofRule patterns r).isOk = (FieldTest.ofRule patterns { r with operand := o }).isOk ∧
      ∀ t u, FieldTest.ofRule patterns r = .ok t → FieldTest.ofRule patterns { r with operand := o } = .ok u →
        ∀ v v' : FieldValue, v.Alike v' → t.passes v = u.passes v') ∧
    (∀ (read : α → String → FieldValue) (schema : Option Schema) (g g' : Group), g.Alike g' → ∀ x,
      (compileGroup (compileField patterns read schema : RuleCompiler ε α) g).predicate.test x =
        (compileGroup (compileField patterns read schema : RuleCompiler ε α) g').predicate.test x) ∧
    (∀ g g' : Group, Group.parse g.json = .ok g' ↔ g.document.nesting ≤ 127 ∧ g' = g.loaded) ∧
    (∀ (n : Number) (i : Int), n.toInt? = some i → n.reread = n.canonical) ∧
    (∀ g : Group, g.integral = true → g.loaded = g.canonical) ∧
    (∀ (read : α → String → FieldValue) (schema : Option Schema) (g : Group), (∀ d ∈ g.doubles, d.Survives) → ∀ x,
      (compileGroup (compileField patterns read schema : RuleCompiler ε α) g).predicate.test x =
        (compileGroup (compileField patterns read schema : RuleCompiler ε α) g.loaded).predicate.test x) ∧
    ∀ d : Binary64, ¬ d.Survives → ∃ (g g' : Group) (v : FieldValue), g.doubles = [d] ∧
      Group.parse g.json = .ok g' ∧ g.matchesField ε patterns v = true ∧ g'.matchesField ε patterns v = false := by
  refine ⟨fun r o (ho : r.operand.Alike { r with operand := o }.operand) =>
      ⟨FieldTest.isOk_ofRule_alike rfl ho, fun _ _ ht hu _ _ hv =>
        FieldTest.passes_ofRule_alike (by rfl) ho ht hu hv⟩,
    fun read schema _ _ h x => compileGroup_alike read schema h x, Group.parse_json_iff_loaded,
    fun _ _ hi => Number.reread_eq_canonical hi, fun _ hg => Group.loaded_of_integral hg,
    fun read schema g hg x => compileGroup_alike read schema (Group.alike_loaded hg) x,
    fun _ hd => Binary64.told_apart ε patterns hd⟩

/-- An unsigned five, a time of five milliseconds and the choice with index five, beside a half, which survives; an
infinity does not. -/
theorem match_alike_five :
    let byNumber : Rule := ⟨"at", .memberOf, .list [.number (.unsigned 5), .number (.real ⟨0x3fe0000000000000⟩)], .and⟩
    let byTime : Rule :=
      { byNumber with operand := .list [.timestamp ⟨5⟩, .number (.real ⟨0x3fe0000000000000⟩)] }
    let tree (r : Rule) : Group := .mk [r] [.mk [] [.mk [r] [] .or] .and] .or
    let matched (g : Group) : Verdict Unit :=
      (compileGroup (compileField Pattern.search (fun v _ => v) none) g).predicate.test (FieldValue.choice 5)
    byNumber.operand.Alike byTime.operand ∧
      (FieldTest.ofRule Pattern.search byNumber).isOk = (FieldTest.ofRule Pattern.search byTime).isOk ∧
      FieldTest.passes ⟨.memberOf, .set [.number (.unsigned 5), .number (.real ⟨0x3fe0000000000000⟩)]⟩ (.choice 5) =
        FieldTest.passes ⟨.memberOf, .set [.number (.signed 5), .number (.real ⟨0x3fe0000000000000⟩)]⟩
          (.timestamp ⟨5⟩) ∧
      matched (tree byNumber) = matched (tree byTime) ∧
      Group.parse (tree byTime).json = .ok (tree byTime).loaded ∧
      (Number.unsigned 5).reread = (Number.unsigned 5).canonical ∧
      (Rule.alone ⟨"at", .equal, .timestamp ⟨5⟩, .and⟩).loaded =
        (Rule.alone ⟨"at", .equal, .timestamp ⟨5⟩, .and⟩).canonical ∧
      matched (tree byTime) = matched (tree byTime).loaded ∧
      ∃ (g g' : Group) (v : FieldValue), g.doubles = [Binary64.infinity false] ∧ Group.parse g.json = .ok g' ∧
        g.matchesField Unit Pattern.search v = true ∧ g'.matchesField Unit Pattern.search v = false := by
  intro byNumber byTime tree matched
  have hoperand : byNumber.operand.Alike byTime.operand :=
    .list (.cons (.integer (i := 5) (by decide) (by decide)) (.cons (.refl _) .nil))
  have hrule : byNumber.Alike byTime := ⟨rfl, rfl, hoperand, rfl⟩
  have htree : (tree byNumber).Alike (tree byTime) :=
    .mk _ (.cons hrule .nil) (.cons (.mk _ .nil (.cons (.mk _ (.cons hrule .nil) .nil) .nil)) .nil)
  have hfive : (FieldValue.choice 5).Alike (.timestamp ⟨5⟩) :=
    .integer (i := 5) (by decide) (by decide)
  have hhalf : Binary64.Survives ⟨0x3fe0000000000000⟩ :=
    ⟨by decide, by unfold Binary64.ReadsBack; decide +kernel⟩
  have hdoubles : ∀ d ∈ (tree byTime).doubles, d.Survives := by
    have hlist : (tree byTime).doubles = [⟨0x3fe0000000000000⟩, ⟨0x3fe0000000000000⟩] := rfl
    rw [hlist, List.forall_mem_cons, List.forall_mem_singleton]
    exact ⟨hhalf, hhalf⟩
  have hinfinity : ¬ (Binary64.infinity false).Survives := fun h => absurd h.isFinite (by decide)
  obtain ⟨hrules, htrees, hload, hinteger, hintegral, hsurvive, hlost⟩ := @match_alike Unit FieldValue Pattern.search
  have hrule := hrules byNumber byTime.operand hoperand
  exact ⟨hoperand, hrule.1, hrule.2 _ _ rfl rfl _ _ hfive, htrees _ none _ _ htree _,
    (hload _ _).2 ⟨by decide, rfl⟩, hinteger _ 5 rfl, hintegral _ rfl, hsurvive _ none _ hdoubles _,
    hlost _ hinfinity⟩

/-- A double that is read back as another one: the tree that it was saved from matched it, the one that is loaded
does not. -/
theorem match_loaded_differs :
    let x : Binary64 := ⟨0x3af357c299a88ea8⟩
    let g : Group := .mk [⟨"a", .equal, .number (.real x), .and⟩] [] .and
    let matched (g : Group) : Verdict Unit :=
      (compileGroup (compileField Pattern.search (fun v _ => v) none) g).predicate.test (FieldValue.number (.real x))
    ∃ g', Group.parse g.json = .ok g' ∧ (matched g).holds = true ∧ (matched g').holds = false := by
  intro x g matched
  have hother : ¬ Binary64.ReadsBack ⟨0x3af357c299a88ea8⟩ := by
    unfold Binary64.ReadsBack
    decide +kernel
  have hfinite : Binary64.isFinite ⟨0x3af357c299a88ea8⟩ = true := by decide
  exact ⟨g.loaded, (Group.parse_json_iff_loaded _ _).2 ⟨by decide, rfl⟩,
    Rule.equalTo_told_apart Unit Pattern.search hfinite hother⟩

end RuleTree
