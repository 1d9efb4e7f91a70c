import RuleTree.Proofs.Definition.Saving

/-! The image of a tree: what it is loaded as once it was saved. JSON has no text for a NaN or an infinity, which are
saved as null; every other number comes back as its text is read. -/

namespace RuleTree

open Json

/-! ### What JSON can write -/

mutual

/-- The operand with null in the place of every number that JSON cannot write. -/
def Operand.writable : Operand → Operand
  | .number n => if n.finite then .number n else .null
  | .list items => .list (Operand.writableItems items)
  | o => o

def Operand.writableItems : List Operand → List Operand
  | [] => []
  | o :: rest => o.writable :: Operand.writableItems rest

end

def Rule.writable (r : Rule) : Rule := { r with operand := r.operand.writable }

mutual

def Group.writable : Group → Group
  | .mk rules groups connective => .mk (rules.map Rule.writable) (Group.writableAll groups) connective

def Group.writableAll : List Group → List Group
  | [] => []
  | g :: rest => g.writable :: Group.writableAll rest

end

/-- A number that is not finite is written as null. -/
theorem Number.write_of_not_finite {n : Number} (h : n.finite = false) :
    (Document.number n.canonical).write = Document.null.write := by
  cases n with
  | signed | unsigned => cases h
  | real x =>
    have hx : x.isFinite = false := h
    have hcanonical : (Number.real x).canonical = .real x := rfl
    rw [hcanonical, Document.write, Document.write, writeNumber, hx]
    rfl

mutual

/-- What can be written of an operand is finite, and is written as the operand is, by as many brackets. -/
theorem Operand.document_writable : ∀ o : Operand, o.writable.finite = true ∧
    o.writable.document.write = o.document.write ∧ o.writable.document.nesting = o.document.nesting
  | .null | .flag _ | .text _ | .timestamp _ => ⟨rfl, rfl, rfl⟩
  | .number n => by
    rw [Operand.writable]
    cases hn : n.finite with
    | true => exact ⟨hn, rfl, rfl⟩
    | false => exact ⟨rfl, (Number.write_of_not_finite hn).symm, rfl⟩
  | .list items => by
    obtain ⟨hfinite, hwrite, hnesting⟩ := Operand.documents_writable items
    refine ⟨hfinite, ?_, ?_⟩
    · rw [Operand.writable, Operand.document, Operand.document, Document.write, Document.write, hwrite]
    · rw [Operand.writable, Operand.document, Operand.document, Document.nesting, Document.nesting, hnesting]

theorem Operand.documents_writable : ∀ os : List Operand, Operand.finiteItems (Operand.writableItems os) = true ∧
    Document.writeItems (Operand.documents (Operand.writableItems os)) = Document.writeItems (Operand.documents os) ∧
    Document.nestingItems (Operand.documents (Operand.writableItems os)) =
      Document.nestingItems (Operand.documents os)
  | [] => ⟨rfl, rfl, rfl⟩
  | o :: rest => by
    obtain ⟨hfinite, hwrite, hnesting⟩ := Operand.document_writable o
    obtain ⟨hfinite', hwrite', hnesting'⟩ := Operand.documents_writable rest
    refine ⟨?_, ?_, ?_⟩
    · rw [Operand.writableItems, Operand.finiteItems, hfinite, hfinite']
      rfl
    · simp only [Operand.writableItems, Operand.documents, Document.writeItems, hwrite, hwrite']
    · simp only [Operand.writableItems, Operand.documents, Document.nestingItems, hnesting, hnesting']

end

theorem Rule.documents_writable (rules : List Rule) :
    (∀ r ∈ rules.map Rule.writable, r.operand.finite = true) ∧
    Document.writeItems ((rules.map Rule.writable).map Rule.document) =
      Document.writeItems (rules.map Rule.document) ∧
    Document.nestingItems ((rules.map Rule.writable).map Rule.document) =
      Document.nestingItems (rules.map Rule.document) := by
  induction rules with
  | nil => exact ⟨List.forall_mem_nil _, rfl, rfl⟩
  | cons r rest ih =>
    obtain ⟨hfinite, hwrite, hnesting⟩ := r.operand.document_writable
    obtain ⟨hfinite', hwrite', hnesting'⟩ := ih
    refine ⟨List.forall_mem_cons.2 ⟨hfinite, hfinite'⟩, ?_, ?_⟩
    · simp only [List.map_cons, Document.writeItems, hwrite', Rule.document, Rule.writable, Document.write,
        Document.writeMembers, hwrite]
    · simp only [List.map_cons, Document.nestingItems, hnesting', Rule.document, Rule.writable, Document.nesting,
        Document.nestingMembers, hnesting]

mutual

theorem Group.document_writable : ∀ g : Group, g.writable.finite = true ∧
    g.writable.document.write = g.document.write ∧ g.writable.document.nesting = g.document.nesting
  | .mk rules groups c => by
    obtain ⟨hfinite, hwrite, hnesting⟩ := Rule.documents_writable rules
    obtain ⟨hfinite', hwrite', hnesting'⟩ := Group.documents_writable groups
    refine ⟨?_, ?_, ?_⟩
    · rw [Group.writable, Group.finite, hfinite', Bool.and_true, List.all_eq_true]
      exact hfinite
    · simp only [Group.writable, Group.document, Document.write, Document.writeMembers, hwrite, hwrite']
    · simp only [Group.writable, Group.document, Document.nesting, Document.nestingMembers, hnesting, hnesting']

theorem Group.documents_writable : ∀ gs : List Group, Group.finiteAll (Group.writableAll gs) = true ∧
    Document.writeItems (Group.documents (Group.writableAll gs)) = Document.writeItems (Group.documents gs) ∧
    Document.nestingItems (Group.documents (Group.writableAll gs)) = Document.nestingItems (Group.documents gs)
  | [] => ⟨rfl, rfl, rfl⟩
  | g :: rest => by
    obtain ⟨hfinite, hwrite, hnesting⟩ := Group.document_writable g
    obtain ⟨hfinite', hwrite', hnesting'⟩ := Group.documents_writable rest
    refine ⟨?_, ?_, ?_⟩
    · rw [Group.writableAll, Group.finiteAll, hfinite, hfinite']
      rfl
    · simp only [Group.writableAll, Group.documents, Document.writeItems, hwrite, hwrite']
    · simp only [Group.writableAll, Group.documents, Document.nestingItems, hnesting, hnesting']

end

/-! ### The image -/

/-- The tree that this one is loaded as once it was saved. -/
def Group.loaded (g : Group) : Group := g.writable.reread

/-- A saved tree is loaded if and only if its text nests no deeper than texts are read, and then as its image. -/
theorem Group.parse_json_iff_loaded (g g' : Group) :
    Group.parse g.json = .ok g' ↔ g.document.nesting ≤ nestingLimit ∧ g' = g.loaded := by
  obtain ⟨hfinite, hwrite, hnesting⟩ := g.document_writable
  have hjson : g.writable.json = g.json := by
    rw [Group.json_eq_write, Group.json_eq_write, hwrite]
  rw [← hjson, Group.parse_json_iff hfinite, hnesting, Group.loaded]

/-! ### Trees without doubles -/

mutual

theorem Operand.loaded_of_integral : ∀ {o : Operand}, o.integral = true → o.writable.reread = o.canonical
  | .null, _ | .flag _, _ | .text _, _ | .timestamp _, _ => rfl
  | .number (.signed n), _ => by
    have hwritable : (Operand.number (.signed n)).writable = .number (.signed n) := rfl
    rw [hwritable, Operand.reread, Operand.canonical, Number.reread_eq_canonical rfl]
  | .number (.unsigned n), _ => by
    have hwritable : (Operand.number (.unsigned n)).writable = .number (.unsigned n) := rfl
    rw [hwritable, Operand.reread, Operand.canonical, Number.reread_eq_canonical rfl]
  | .list items, h => by
    have hitems : Operand.integralItems items = true := h
    rw [Operand.writable, Operand.reread, Operand.canonical, Operand.loaded_of_integralItems hitems]

theorem Operand.loaded_of_integralItems : ∀ {os : List Operand}, Operand.integralItems os = true →
    Operand.rereadItems (Operand.writableItems os) = Operand.canonicalItems os
  | [], _ => rfl
  | o :: rest, h => by
    rw [Operand.integralItems, Bool.and_eq_true] at h
    rw [Operand.writableItems, Operand.rereadItems, Operand.canonicalItems, Operand.loaded_of_integral h.1,
      Operand.loaded_of_integralItems h.2]

end

theorem Rule.loaded_of_integral {r : Rule} (h : r.operand.integral = true) : r.writable.reread = r.canonical := by
  rw [Rule.reread, Rule.writable, Rule.canonical, Operand.loaded_of_integral h]

mutual

/-- Without doubles, times become numbers and small unsigned numbers signed ones, and nothing else changes. -/
theorem Group.loaded_of_integral : ∀ {g : Group}, g.integral = true → g.loaded = g.canonical
  | .mk rules groups c, h => by
    rw [Group.integral, Bool.and_eq_true, List.all_eq_true] at h
    have hrules : (rules.map Rule.writable).map Rule.reread = rules.map Rule.canonical := by
      rw [List.map_map]
      exact List.map_congr_left fun r hr => Rule.loaded_of_integral (h.1 r hr)
    rw [Group.loaded, Group.writable, Group.reread, Group.canonical, hrules, Group.loaded_of_integralAll h.2]

theorem Group.loaded_of_integralAll : ∀ {gs : List Group}, Group.integralAll gs = true →
    Group.rereadAll (Group.writableAll gs) = Group.canonicalAll gs
  | [], _ => rfl
  | g :: rest, h => by
    rw [Group.integralAll, Bool.and_eq_true] at h
    rw [Group.writableAll, Group.rereadAll, Group.canonicalAll, ← Group.loaded, Group.loaded_of_integral h.1,
      Group.loaded_of_integralAll h.2]

end

end RuleTree
