import RuleTree.Proofs.Tree.Grammar

/-! What a shown tree says. The parentheses of the text make it read as the formula of the tree, so that the text
and the compiled tree have one meaning. -/

namespace RuleTree

/-- A shown sibling and what is read of it: of one connective, with the text as an atom. -/
def ReadsSibling (w : Connective × String) (e : Connective × Formula String) : Prop :=
  w.1 = e.1 ∧ ReadsAtom w.2 e.2

section

variable {items : List (Connective × String)} {es : List (Connective × Formula String)}

theorem readsExpr_foldl (h : List.Forall₂ ReadsSibling items es) {s : String} {e : Formula String}
    (hs : ReadsExpr s e) :
    ReadsExpr (items.foldl (fun shown (c, text) => shown ++ " " ++ c.display ++ " " ++ text) s)
      (e.joinOnto es) := by
  induction h generalizing s e with
  | nil => exact hs
  | @cons w e' items es hw _ ih =>
    refine ih (e := e.join e'.1 e'.2) ?_
    rw [← hw.1]
    exact .join w.1 hs hw.2

theorem readsExpr_joinShown (h : List.Forall₂ ReadsSibling items es) (hitems : items ≠ []) :
    ReadsExpr (joinShown items) (.joinAll es) := by
  cases h with
  | nil => exact absurd rfl hitems
  | cons hw hrest => exact readsExpr_foldl hrest (.atom hw.2)

theorem readsAtom_displayFolded (h : List.Forall₂ ReadsSibling items es) (hitems : items ≠ []) :
    ReadsAtom (Group.displayFolded items) (.joinAll es) := by
  have hparens := ReadsAtom.parens (readsExpr_joinShown h hitems)
  cases h with
  | nil => exact absurd rfl hitems
  | cons hw hrest =>
    cases hrest with
    | nil => exact hw.2
    | cons => exact hparens

end

theorem readsSiblings_rules {rules : List Rule} (h : ∀ r ∈ rules, Plain r.display) :
    List.Forall₂ ReadsSibling (rules.map fun r => (r.connective, r.display))
      (rules.map fun r => (r.connective, .leaf r.display)) := by
  induction rules with
  | nil => exact .nil
  | cons r rest ih =>
    exact .cons ⟨rfl, .rule r (h r List.mem_cons_self)⟩ (ih fun s hs => h s (List.mem_cons_of_mem r hs))

theorem map_rulesFormula (rules : List Rule) : (rulesFormula rules).map Rule.display =
    .joinAll (rules.map fun r => (r.connective, .leaf r.display)) := by
  rw [rulesFormula, Formula.map_joinAll, List.map_map]
  rfl

namespace Group

mutual

/-- A shown tree is an atom, which reads as the formula of the tree. -/
theorem readsAtom_display : ∀ g : Group, (∀ r ∈ g.ruleLists.flatten, Plain r.display) →
    ReadsAtom g.display (g.formula.map Rule.display)
  | mk rules groups _, h => by
    rw [ruleLists, List.flatten_cons] at h
    have hrules := readsSiblings_rules fun r hr => h r (List.mem_append_left _ hr)
    have hgroups := readsSiblings_groups groups fun r hr => h r (List.mem_append_right _ hr)
    -- rules alone, children alone or both: each is shown with parentheses of its own
    cases groups with
    | nil =>
      cases rules with
      | nil => exact .top
      | cons r rest =>
        simp only [display, formula, List.isEmpty_cons, Bool.false_eq_true, if_false, map_rulesFormula]
        exact .parens (readsExpr_joinShown hrules (List.cons_ne_nil _ _))
    | cons first others =>
      have hfold := Formula.map_joinAll Rule.display (formulas (first :: others))
      cases rules with
      | nil =>
        simp only [display, formula, List.isEmpty_nil, if_true, hfold]
        exact .parens (readsExpr_joinShown hgroups (List.cons_ne_nil _ _))
      | cons r rest =>
        have hown := readsAtom_displayFolded hrules (List.cons_ne_nil _ _)
        have hchildren := readsAtom_displayFolded hgroups (List.cons_ne_nil _ _)
        have hjoin := ReadsAtom.parens (.join first.connective (.atom hown) hchildren)
        simp only [display, formula, List.isEmpty_cons, Bool.false_eq_true, if_false, Formula.map,
          map_rulesFormula, hfold]
        simpa only [String.append_assoc, displayAll] using hjoin

theorem readsSiblings_groups : ∀ groups : List Group,
    (∀ r ∈ (ruleListsAll groups).flatten, Plain r.display) →
      List.Forall₂ ReadsSibling (displayAll groups)
        ((formulas groups).map fun w => (w.1, w.2.map Rule.display))
  | [], _ => .nil
  | g :: rest, h => by
    rw [ruleListsAll, List.flatten_append] at h
    exact .cons ⟨rfl, readsAtom_display g fun r hr => h r (List.mem_append_left _ hr)⟩
      (readsSiblings_groups rest fun r hr => h r (List.mem_append_right _ hr))

end

variable {ε α : Type}

/-- A shown tree reads in one way, with its rules in pre-order as leaves, and means what the compiled tree means
whatever the truths of the rules. Equal rules compile alike, so trees of the same shape stand in for the tree
where the places of equal rules are to differ. -/
theorem display_faithful (g : Group) (hplain : ∀ r ∈ g.ruleLists.flatten, Plain r.display) :
    ∃ e, ReadsExpr g.display e ∧ (∀ e', ReadsExpr g.display e' → e' = e) ∧
      e.leaves = g.ruleLists.flatten.map Rule.display ∧
      ∀ (x : α) (a : Nat → Bool),
        (∃ g', g.SameShape g' ∧ ∃ compile : RuleCompiler ε α, g'.Assigned compile x a) ∧
        ∀ g', g.SameShape g' → ∀ compile : RuleCompiler ε α, g'.Assigned compile x a →
          ((compileGroup compile g').predicate.test x).holds = e.holdsAt a 0 := by
  have hreads : ReadsExpr g.display (g.formula.map Rule.display) := .atom (readsAtom_display g hplain)
  refine ⟨_, hreads, fun e' he' => he'.unique hreads rfl, ?_, fun x a => ⟨exists_assigned g x a, ?_⟩⟩
  · rw [Formula.leaves_map, leaves_formula]
  · intro g' hshape compile ha
    rw [hshape.compileGroup_holds ha, Formula.holdsAt_map]

/-- One rule twice, around another one, with a child that has nothing in it. -/
theorem display_faithful_repeated :
    let rule (field : String) (c : Connective) : Rule := ⟨field, .isNull, .null, c⟩
    let tree : Group := .mk [rule "a" .and, rule "b" .or] [.mk [rule "a" .and] [] .or, .empty .and] .and
    let compile : RuleCompiler Unit Unit := fun r => .ok (.ofBool fun _ => r.field == "a")
    (∀ r ∈ tree.ruleLists.flatten, Plain r.display) ∧ tree.Assigned compile () (· != 1) ∧
      ∃ e, ReadsExpr "((a is_null OR b is_null) OR ((a is_null) AND TRUE))" e ∧
        e.leaves = ["a is_null", "b is_null", "a is_null"] ∧
        ((compileGroup compile tree).predicate.test ()).holds = e.holdsAt (· != 1) 0 := by
  intro rule tree compile
  have hdisplay : tree.display = "((a is_null OR b is_null) OR ((a is_null) AND TRUE))" := by decide
  have htexts : tree.ruleLists.flatten.map Rule.display = ["a is_null", "b is_null", "a is_null"] := by
    decide
  have ha : Plain "a is_null" := ⟨by decide, by decide, fun c => by cases c <;> decide +kernel⟩
  have hb : Plain "b is_null" := ⟨by decide, by decide, fun c => by cases c <;> decide +kernel⟩
  have hplain : ∀ r ∈ tree.ruleLists.flatten, Plain r.display := by
    intro r hr
    have hmem : r.display ∈ tree.ruleLists.flatten.map Rule.display := List.mem_map_of_mem hr
    rw [htexts] at hmem
    simp only [List.mem_cons, List.not_mem_nil, or_false] at hmem
    obtain h | h | h := hmem
    · rwa [h]
    · rwa [h]
    · rwa [h]
  have hassigned : tree.Assigned compile () (· != 1) := by
    rintro (_ | _ | _ | i) r hr
    · cases hr
      exact ⟨_, rfl, by decide⟩
    · cases hr
      exact ⟨_, rfl, by decide⟩
    · cases hr
      exact ⟨_, rfl, by decide⟩
    · simp [tree, ruleLists, ruleListsAll, empty] at hr
  obtain ⟨e, hreads, -, hleaves, hvalue⟩ := display_faithful (ε := Unit) tree hplain
  rw [hdisplay] at hreads
  exact ⟨hplain, hassigned, e, hreads, hleaves.trans htexts,
    (hvalue () (· != 1)).2 tree (sameShape_refl tree) compile hassigned⟩

end Group

end RuleTree
