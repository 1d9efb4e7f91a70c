import Mathlib.Data.List.Nodup
import Mathlib.Data.List.Pairwise
import RuleTree.Definition.Reader
import RuleTree.Proofs.Outcome

/-! What a filter definition says. A record is described by an object that gives its members by name, or by a
list that gives them in their order; what it denotes does not depend on how it is given. -/

namespace RuleTree

open Json

/-! ### Descriptions -/

/-- A member of a record: its names, and what stands for it where it is left out. -/
structure Slot where
  names : List String
  default? : Option Document := none

namespace Slot

/-- The values that an object has under the names of the member. -/
def given (s : Slot) (ms : List (String × Document)) : List Document :=
  (ms.filter fun m => s.names.contains m.1).map Prod.snd

/-- An object gives the member once, or leaves out one that has a default. -/
def Takes (ms : List (String × Document)) (s : Slot) (d : Document) : Prop :=
  s.given ms = [d] ∨ s.given ms = [] ∧ s.default? = some d

end Slot

/-- The document gives these members of a record: an object by name, a list by their order. Only members that
have a default may be left out. -/
inductive Gives (slots : List Slot) : Document → List Document → Prop
  | object {ms : List (String × Document)} {ds : List Document} :
      List.Forall₂ (Slot.Takes ms) slots ds → Gives slots (.object ms) ds
  | array {items rest : List Document} : items.length ≤ slots.length →
      List.Forall₂ (fun s d => s.default? = some d) (slots.drop items.length) rest →
        Gives slots (.array items) (items ++ rest)

/-- Every spelling of the operator. -/
def Operator.spellings (op : Operator) : List String := op.name :: op.aliases

/-- Every spelling of the connective. -/
def Connective.spellings : Connective → List String
  | and => ["and", "&&"]
  | or => ["or", "||"]

/-- A connective that is left out is read as this word. -/
def connectiveSlot : Slot := ⟨["logical_operation", "condition", "logic"], some (.text "and")⟩

def RuleMember.slot : RuleMember → Slot
  | field => { names := ["field"] }
  | operator => { names := ["operator", "op"] }
  | operand => ⟨["value"], some .null⟩
  | connective => connectiveSlot

def Rule.slots : List Slot :=
  [RuleMember.field.slot, RuleMember.operator.slot, RuleMember.operand.slot,
    RuleMember.connective.slot]

def GroupMember.slot : GroupMember → Slot
  | rules => ⟨["rules"], some (.array [])⟩
  | groups => ⟨["groups", "children"], some (.array [])⟩
  | connective => connectiveSlot

def Group.slots : List Slot :=
  [GroupMember.rules.slot, GroupMember.groups.slot, GroupMember.connective.slot]

/-- The text names the operator, whatever its case and the blanks around it. -/
def Operator.Named (d : Document) (op : Operator) : Prop :=
  ∃ s, d = .text s ∧ keyword s ∈ op.spellings

def Connective.Named (d : Document) (c : Connective) : Prop :=
  ∃ s, d = .text s ∧ keyword s ∈ c.spellings

/-- The document is the operand; no object is one, at any depth. -/
inductive Operand.Described : Document → Operand → Prop
  | null : Operand.Described .null .null
  | flag {b : Bool} : Operand.Described (.flag b) (.flag b)
  | number {n : Number} : Operand.Described (.number n) (.number n)
  | text {s : String} : Operand.Described (.text s) (.text s)
  | list {ds : List Document} {os : List Operand} :
      List.Forall₂ Operand.Described ds os → Operand.Described (.array ds) (.list os)

inductive Rule.Described : Document → Rule → Prop
  | mk {d operator value connective : Document} {r : Rule} :
      Gives Rule.slots d [.text r.field, operator, value, connective] →
      Operator.Named operator r.operator → Operand.Described value r.operand →
      Connective.Named connective r.connective → Rule.Described d r

inductive Group.Described : Document → Group → Prop
  | mk {d connective : Document} {rs gs : List Document} {rules : List Rule} {groups : List Group}
      {c : Connective} :
      Gives Group.slots d [.array rs, .array gs, connective] → List.Forall₂ Rule.Described rs rules →
      List.Forall₂ Group.Described gs groups → Connective.Named connective c →
      Group.Described d (.mk rules groups c)

/-- A whole definition: a list of groups, or an object that is a single one. -/
inductive Definition.Described : Document → List Group → Prop
  | list {ds : List Document} {groups : List Group} :
      List.Forall₂ Group.Described ds groups → groups ≠ [] → Definition.Described (.array ds) groups
  | single {ms : List (String × Document)} {g : Group} :
      Group.Described (.object ms) g → Definition.Described (.object ms) [g]

/-! ### Names -/

theorem Operator.mem_all (op : Operator) : op ∈ Operator.all := by
  cases op <;> decide

/-- No two operators share a spelling. -/
theorem Operator.spelling_unique {op op' : Operator} {w : String} (h : w ∈ op.spellings)
    (h' : w ∈ op'.spellings) : op = op' := by
  have hnodup : (Operator.all.flatMap Operator.spellings).Nodup := by decide
  by_contra hne
  have hsymm : Std.Symm (Function.onFun List.Disjoint Operator.spellings) :=
    ⟨fun _ _ hd _ ha hb => hd hb ha⟩
  exact (List.nodup_flatMap.1 hnodup).2.forall op.mem_all op'.mem_all hne h h'

theorem Operator.parse?_eq_some_iff {s : String} {op : Operator} :
    Operator.parse? s = some op ↔ keyword s ∈ op.spellings := by
  have hfound {op : Operator} (h : Operator.parse? s = some op) : keyword s ∈ op.spellings := by
    simpa [spellings] using List.find?_some h
  refine ⟨hfound, fun h => ?_⟩
  cases hparse : Operator.parse? s with
  | none =>
    have hall := List.find?_eq_none.1 hparse op op.mem_all
    simp_all [spellings]
  | some op' => rw [spelling_unique (hfound hparse) h]

theorem Connective.parse?_eq_some_iff {s : String} {c : Connective} :
    Connective.parse? s = some c ↔ keyword s ∈ c.spellings := by
  have hneither : ¬ (("and" : String) = "or" ∨ ("and" : String) = "||") ∧
      ¬ (("&&" : String) = "or" ∨ ("&&" : String) = "||") := by decide
  unfold parse?
  cases c <;> dsimp only [spellings] <;> grind

/-! ### Descriptions taken apart -/

theorem gives_object_iff {slots : List Slot} {ms : List (String × Document)} {ds : List Document} :
    Gives slots (.object ms) ds ↔ List.Forall₂ (Slot.Takes ms) slots ds := by
  constructor
  · rintro ⟨h⟩
    exact h
  · exact .object

theorem gives_array_iff {slots : List Slot} {items ds : List Document} :
    Gives slots (.array items) ds ↔ ∃ rest, items.length ≤ slots.length ∧
      List.Forall₂ (fun s d => s.default? = some d) (slots.drop items.length) rest ∧
      ds = items ++ rest := by
  constructor
  · rintro ⟨⟩
    exact ⟨_, ‹_›, ‹_›, rfl⟩
  · rintro ⟨rest, hlength, hrest, rfl⟩
    exact .array hlength hrest

theorem operand_described_null {o : Operand} : Operand.Described .null o ↔ o = .null := by
  constructor
  · rintro ⟨⟩
    rfl
  · rintro rfl
    exact .null

theorem connective_named_and {c : Connective} : Connective.Named (.text "and") c ↔ c = .and := by
  have hand : keyword "and" = "and" := by decide
  constructor
  · rintro ⟨s, ⟨⟩, h⟩
    rw [hand] at h
    cases c with
    | and => rfl
    | or => revert h; decide
  · rintro rfl
    exact ⟨_, rfl, by rw [hand]; decide⟩

/-- The document is a list whose items are so related to the given ones. -/
def Listed {α : Type} (R : Document → α → Prop) (d : Document) (as : List α) : Prop :=
  ∃ ds, d = .array ds ∧ List.Forall₂ R ds as

theorem listed_nil {α : Type} {R : Document → α → Prop} {as : List α} :
    Listed R (.array []) as ↔ as = [] := by
  simp [Listed]

theorem Rule.described_iff {d : Document} {r : Rule} : Rule.Described d r ↔
    ∃ operator value connective, Gives Rule.slots d [.text r.field, operator, value, connective] ∧
      Operator.Named operator r.operator ∧ Operand.Described value r.operand ∧
      Connective.Named connective r.connective := by
  constructor
  · rintro ⟨hgives, hop, hvalue, hword⟩
    exact ⟨_, _, _, hgives, hop, hvalue, hword⟩
  · rintro ⟨_, _, _, hgives, hop, hvalue, hword⟩
    exact ⟨hgives, hop, hvalue, hword⟩

theorem Group.described_iff {d : Document} {g : Group} : Group.Described d g ↔
    ∃ rs gs word, Gives Group.slots d [rs, gs, word] ∧ Listed Rule.Described rs g.rules ∧
      Listed Group.Described gs g.groups ∧ Connective.Named word g.connective := by
  constructor
  · rintro ⟨hgives, hrules, hgroups, hword⟩
    exact ⟨_, _, _, hgives, ⟨_, rfl, hrules⟩, ⟨_, rfl, hgroups⟩, hword⟩
  · obtain ⟨rules, groups, c⟩ := g
    rintro ⟨_, _, word, hgives, ⟨rs, rfl, hrules⟩, ⟨gs, rfl, hgroups⟩, hword⟩
    exact .mk hgives hrules hgroups hword

end RuleTree
