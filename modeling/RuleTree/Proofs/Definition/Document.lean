import RuleTree.Definition.Writer
import RuleTree.Proofs.Json.Spelling

/-! The documents that filter trees are written as. A document keeps what a text can tell apart: a timestamp
is a number in it, and an unsigned number that fits the signed kind is signed. -/

namespace RuleTree

open Json

/-! ### Canonical numbers -/

/-- The number as it is read back: an unsigned one that fits the signed kind becomes signed. -/
def Number.canonical : Number → Number
  | .unsigned n => if n ≤ Int64.maxValue.toUInt64 then .signed n.toInt64 else .unsigned n
  | n => n

mutual

/-- The operand with canonical numbers, also for timestamps, at every depth. -/
def Operand.canonical : Operand → Operand
  | .number n => .number n.canonical
  | .timestamp t => .number t.toNumber
  | .list items => .list (Operand.canonicalItems items)
  | o => o

def Operand.canonicalItems : List Operand → List Operand
  | [] => []
  | o :: rest => o.canonical :: Operand.canonicalItems rest

end

def Rule.canonical (r : Rule) : Rule := { r with operand := r.operand.canonical }

mutual

def Group.canonical : Group → Group
  | .mk rules groups connective =>
    .mk (rules.map Rule.canonical) (Group.canonicalAll groups) connective

def Group.canonicalAll : List Group → List Group
  | [] => []
  | g :: rest => g.canonical :: Group.canonicalAll rest

end

mutual

/-- Is no number of the operand a double? -/
def Operand.integral : Operand → Bool
  | .number (.real _) => false
  | .list items => Operand.integralItems items
  | _ => true

def Operand.integralItems : List Operand → Bool
  | [] => true
  | o :: rest => o.integral && Operand.integralItems rest

end

mutual

/-- Is no number in the rules of the tree a double? -/
def Group.integral : Group → Bool
  | .mk rules groups _ => rules.all (fun r => r.operand.integral) && Group.integralAll groups

def Group.integralAll : List Group → Bool
  | [] => true
  | g :: rest => g.integral && Group.integralAll rest

end

/-! ### Documents -/

mutual

def Operand.document : Operand → Document
  | .null => .null
  | .flag b => .flag b
  | .number n => .number n.canonical
  | .text s => .text s
  | .list items => .array (Operand.documents items)
  | .timestamp t => .number t.toNumber

def Operand.documents : List Operand → List Document
  | [] => []
  | o :: rest => o.document :: Operand.documents rest

end

def Rule.document (r : Rule) : Document :=
  .object [("field", .text r.field), ("operator", .text r.operator.name),
    ("value", r.operand.document), ("logical_operation", .text r.connective.name)]

mutual

def Group.document : Group → Document
  | .mk rules groups connective =>
    .object [("rules", .array (rules.map Rule.document)),
      ("groups", .array (Group.documents groups)), ("logical_operation", .text connective.name)]

def Group.documents : List Group → List Document
  | [] => []
  | g :: rest => g.document :: Group.documents rest

end

/-! ### The written form -/

theorem toInt64_eq_ofInt (n : UInt64) : n.toInt64 = Int64.ofInt n.toNat := by
  rw [Int64.ofInt_eq_ofNat]
  exact congrArg UInt64.toInt64 UInt64.ofNat_toNat.symm

theorem le_maxValue_iff (n : UInt64) :
    n ≤ Int64.maxValue.toUInt64 ↔ (n.toNat : Int) ≤ Int64.maxValue.toInt := by
  have hmax : Int64.maxValue.toInt = (Int64.maxValue.toUInt64.toNat : Int) := by decide
  rw [UInt64.le_iff_toNat_le, hmax, Int.ofNat_le]

theorem Number.canonical_eq_ofInt {n : Number} {i : Int} (h : n.toInt? = some i) :
    IsWord i ∧ n.canonical = .ofInt i := by
  cases n with
  | signed n =>
    cases h
    refine ⟨isWord_toInt n, ?_⟩
    rw [Number.ofInt, if_pos ⟨n.minValue_le_toInt, n.toInt_le⟩, Int64.ofInt_toInt]
    rfl
  | unsigned n =>
    cases h
    have hword := isWord_toNat n
    refine ⟨hword, ?_⟩
    rw [Number.canonical, Number.ofInt]
    split
    · next hsmall => rw [if_pos ⟨hword.1, (le_maxValue_iff n).1 hsmall⟩, toInt64_eq_ofInt]
    · next hlarge =>
      have hunsigned : ¬ (Int64.minValue.toInt ≤ n.toNat ∧ (n.toNat : Int) ≤ Int64.maxValue.toInt) :=
        fun hs => hlarge ((le_maxValue_iff n).2 hs.2)
      rw [if_neg hunsigned, if_pos ⟨Int.natCast_nonneg _, hword.2⟩, Int.toNat_natCast,
        UInt64.ofNat_toNat]
  | real x => cases h

theorem writeNumber_canonical (n : Number) : writeNumber n.canonical = writeNumber n := by
  cases n with
  | signed | real => rfl
  | unsigned n =>
    obtain ⟨hword, hcanonical⟩ := Number.canonical_eq_ofInt (n := .unsigned n) rfl
    rw [hcanonical, writeNumber_of_toInt? (Number.toInt?_ofInt hword)]
    rfl

mutual

theorem Operand.json_eq_write : ∀ o : Operand, o.json = o.document.write
  | .null | .flag _ | .text _ | .timestamp _ => rfl
  | .number n => (writeNumber_canonical n).symm
  | .list items => by
    rw [Operand.json, Operand.document, Document.write, Operand.jsonItems_eq_write items]

theorem Operand.jsonItems_eq_write : ∀ os : List Operand,
    Operand.jsonItems os = Document.writeItems (Operand.documents os)
  | [] => rfl
  | o :: rest => by
    rw [Operand.jsonItems, Operand.documents, Document.writeItems, Operand.json_eq_write o,
      Operand.jsonItems_eq_write rest]

end

theorem Rule.json_eq_write (r : Rule) : r.json = r.document.write := by
  rw [Rule.json, Operand.json_eq_write]
  rfl

theorem Rule.map_json (rules : List Rule) :
    rules.map Rule.json = Document.writeItems (rules.map Rule.document) := by
  induction rules with
  | nil => rfl
  | cons r rest ih => rw [List.map_cons, List.map_cons, Document.writeItems, ih, Rule.json_eq_write]

mutual

theorem Group.json_eq_write : ∀ g : Group, g.json = g.document.write
  | .mk rules groups connective => by
    rw [Group.json, Rule.map_json, Group.jsonAll_eq_write groups]
    rfl

theorem Group.jsonAll_eq_write : ∀ gs : List Group,
    Group.jsonAll gs = Document.writeItems (Group.documents gs)
  | [] => rfl
  | g :: rest => by
    rw [Group.jsonAll, Group.documents, Document.writeItems, Group.json_eq_write g,
      Group.jsonAll_eq_write rest]

end

/-! ### Whole numbers -/

mutual

theorem Operand.whole_document : ∀ o : Operand, o.integral = true → o.document.Whole
  | .null, _ | .flag _, _ | .text _, _ => trivial
  | .number (.signed _), _ => ⟨_, Number.canonical_eq_ofInt rfl⟩
  | .number (.unsigned _), _ => ⟨_, Number.canonical_eq_ofInt rfl⟩
  | .timestamp t, _ => ⟨t.millis.toInt, Number.canonical_eq_ofInt (n := .signed t.millis) rfl⟩
  | .list items, h => Operand.whole_documents items h

theorem Operand.whole_documents : ∀ os : List Operand, Operand.integralItems os = true →
    Document.WholeItems (Operand.documents os)
  | [], _ => trivial
  | o :: rest, h => by
    rw [Operand.integralItems, Bool.and_eq_true] at h
    exact ⟨Operand.whole_document o h.1, Operand.whole_documents rest h.2⟩

end

theorem Rule.whole_document {r : Rule} (h : r.operand.integral = true) : r.document.Whole :=
  ⟨trivial, trivial, Operand.whole_document r.operand h, trivial, trivial⟩

theorem Rule.whole_documents {rules : List Rule} (h : ∀ r ∈ rules, r.operand.integral = true) :
    Document.WholeItems (rules.map Rule.document) := by
  induction rules with
  | nil => trivial
  | cons r rest ih =>
    exact ⟨Rule.whole_document (h r List.mem_cons_self), ih fun s hs => h s (List.mem_cons_of_mem r hs)⟩

mutual

theorem Group.whole_document : ∀ g : Group, g.integral = true → g.document.Whole
  | .mk rules groups connective, h => by
    rw [Group.integral, Bool.and_eq_true, List.all_eq_true] at h
    exact ⟨Rule.whole_documents h.1, Group.whole_documents groups h.2, trivial, trivial⟩

theorem Group.whole_documents : ∀ gs : List Group, Group.integralAll gs = true →
    Document.WholeItems (Group.documents gs)
  | [], _ => trivial
  | g :: rest, h => by
    rw [Group.integralAll, Bool.and_eq_true] at h
    exact ⟨Group.whole_document g h.1, Group.whole_documents rest h.2⟩

end

end RuleTree
