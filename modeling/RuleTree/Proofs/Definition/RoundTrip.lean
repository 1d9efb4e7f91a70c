import RuleTree.Definition.Reader
import RuleTree.Proofs.Definition.Document
import RuleTree.Proofs.Json.Reading

/-! Saving and loading. A filter tree without doubles is read back from its text with canonical numbers, and
nothing else in it changes. -/

namespace RuleTree

open Json

/-! ### Leaves -/

theorem Operator.parse?_name (op : Operator) : Operator.parse? op.name = some op := by
  cases op <;> decide

theorem Connective.parse?_name (c : Connective) : Connective.parse? c.name = some c := by
  cases c <;> decide

theorem Operator.decode_of_holds {op : Operator} {n : Node} (h : n.Holds (.text op.name)) :
    Operator.decode n = .ok op := by
  rw [Operator.decode, Node.text_of_holds h]
  simp only [bind, Except.bind, Operator.parse?_name]
  rfl

theorem Connective.decode_of_holds {c : Connective} {n : Node} (h : n.Holds (.text c.name)) :
    Connective.decode n = .ok c := by
  rw [Connective.decode, Node.text_of_holds h]
  simp only [bind, Except.bind, Connective.parse?_name]
  rfl

mutual

theorem Operand.ofDocument?_document : ∀ o : Operand,
    Operand.ofDocument? o.document.sorted = some o.canonical
  | .null | .flag _ | .number _ | .text _ | .timestamp _ => rfl
  | .list items => by
    rw [Operand.document, Document.sorted, Operand.ofDocument?, Operand.ofDocuments?_documents items]
    rfl

theorem Operand.ofDocuments?_documents : ∀ os : List Operand,
    Operand.ofDocuments? (Document.sortedItems (Operand.documents os)) =
      some (Operand.canonicalItems os)
  | [] => rfl
  | o :: rest => by
    rw [Operand.documents, Document.sortedItems, Operand.ofDocuments?, Operand.ofDocument?_document o,
      Operand.ofDocuments?_documents rest]
    rfl

end

theorem Operand.decode_of_holds {o : Operand} {n : Node} (h : n.Holds o.document) :
    Operand.decode n = .ok o.canonical := by
  rw [Operand.decode, Node.document_of_holds h]
  simp only [bind, Except.bind, Operand.ofDocument?_document]
  rfl

/-! ### Rules -/

/-- One member that was not there before. -/
theorem Rule.decodeMembers_cons {r r' : PartialRule} {m : RuleMember} {close afterKey : Close}
    {key : String} {value : Node} {tail : Members} (hkey : RuleMember.ofKey? key = some m)
    (hnew : r.has m = false) (hput : r.put value m = .ok r') :
    Rule.decodeMembers r (.cons close key afterKey value tail) = Rule.decodeMembers r' tail := by
  simp only [Rule.decodeMembers, hkey, hnew, hput]
  rfl

theorem Rule.decode_of_holds {r : Rule} {n : Node} (h : n.Holds r.document) :
    Rule.decode n = .ok r.canonical := by
  rw [Rule.document] at h
  cases h with
  | object hmembers =>
    obtain _ | ⟨hfield, _ | ⟨hoperator, _ | ⟨hoperand, _ | ⟨hconnective, _ | _⟩⟩⟩⟩ := hmembers
    simp only [Rule.decode, Node.content]
    rw [Rule.decodeMembers_cons (m := .field) rfl rfl
        (by rw [PartialRule.put, Node.text_of_holds hfield]; rfl),
      Rule.decodeMembers_cons (m := .operator) rfl rfl
        (by rw [PartialRule.put, Operator.decode_of_holds hoperator]; rfl),
      Rule.decodeMembers_cons (m := .operand) rfl rfl
        (by rw [PartialRule.put, Operand.decode_of_holds hoperand]; rfl),
      Rule.decodeMembers_cons (m := .connective) rfl rfl
        (by rw [PartialRule.put, Connective.decode_of_holds hconnective]; rfl)]
    rfl

theorem Rule.decodeAll_of_hold : ∀ {rules : List Rule} {items : Items},
    items.Hold (rules.map Rule.document) →
      items.decodeAll Rule.decode = .ok (rules.map Rule.canonical)
  | [], _, h => by
    cases h
    rfl
  | r :: rest, _, h => by
    cases h with
    | cons hr hrest =>
      rw [Items.decodeAll, Rule.decode_of_holds hr, Rule.decodeAll_of_hold hrest]
      rfl

theorem Rule.decodeList_of_holds {rules : List Rule} {n : Node}
    (h : n.Holds (.array (rules.map Rule.document))) :
    n.list Rule.decode = .ok (rules.map Rule.canonical) := by
  cases h with
  | array hitems => exact Rule.decodeAll_of_hold hitems

/-! ### Groups -/

mutual

theorem Group.decode_of_holds : ∀ (g : Group) {n : Node}, n.Holds g.document →
    Group.decode n = .ok g.canonical
  | .mk rules groups connective, _, h => by
    rw [Group.document] at h
    cases h with
    | object hmembers =>
      obtain _ | ⟨hrules, _ | ⟨hgroups, _ | ⟨hconnective, _ | _⟩⟩⟩ := hmembers
      cases hgroups with
      | array hitems =>
        have hdecode := Group.decodeAll_of_hold groups hitems
        simp only [Group.decode, Group.decodeMembers, GroupMember.ofKey?, PartialGroup.has,
          Rule.decodeList_of_holds hrules, Group.decodeList, hdecode,
          Connective.decode_of_holds hconnective]
        rfl

theorem Group.decodeAll_of_hold : ∀ (gs : List Group) {items : Items},
    items.Hold (Group.documents gs) → Group.decodeAll items = .ok (Group.canonicalAll gs)
  | [], _, h => by
    cases h
    rfl
  | g :: rest, _, h => by
    cases h with
    | cons hg hrest =>
      rw [Group.decodeAll, Group.decode_of_holds g hg, Group.decodeAll_of_hold rest hrest]
      rfl

end

/-- Loading a saved tree gives the tree with canonical numbers, if its text nests no deeper than texts are
read. -/
theorem Group.parse_json (g : Group) (hintegral : g.integral = true)
    (hdepth : g.document.nesting ≤ 127) : Group.parse g.json = .ok g.canonical := by
  have hdecode : decodeText Group.decode g.document.write = .ok g.canonical :=
    decodeText_write (g.whole_document hintegral) hdepth fun _ => Group.decode_of_holds g
  rw [Group.parse, Group.json_eq_write, hdecode]
  rfl

/-- A small unsigned number and a timestamp come back signed, a large unsigned number as it was. -/
theorem Group.parse_json_nested :
    let name : Rule := ⟨"na\"me\n", .memberOf, .list [.text "\\", .null, .list [.flag true]], .or⟩
    let age (items : List Operand) : Rule := ⟨"age", .between, .list items, .and⟩
    let tree (items : List Operand) : Group := .mk [name, age items] [.mk [] [.empty .or] .or] .and
    let written := [.timestamp ⟨-7⟩, .number (.unsigned 5), .number (.unsigned 0x8000000000000000)]
    (tree written).integral = true ∧ (tree written).document.nesting ≤ 127 ∧
      Group.parse (tree written).json = .ok
        (tree [.number (.signed (-7)), .number (.signed 5), .number (.unsigned 0x8000000000000000)]) := by
  intro name age tree written
  have hintegral : (tree written).integral = true := by decide
  have hdepth : (tree written).document.nesting ≤ 127 := by decide
  have hsmall : Number.canonical (.unsigned 5) = .signed 5 := by decide
  have hlarge : Number.canonical (.unsigned 0x8000000000000000) =
      .unsigned 0x8000000000000000 := by decide
  have hparse := Group.parse_json (tree written) hintegral hdepth
  have hcanonical : Operand.canonicalItems written =
      [.number (.signed (-7)), .number (.signed 5), .number (.unsigned 0x8000000000000000)] := by
    simp only [written, Operand.canonicalItems, Operand.canonical, hsmall, hlarge]
    rfl
  refine ⟨hintegral, hdepth, hparse.trans ?_⟩
  rw [← hcanonical]
  rfl

end RuleTree
