import RuleTree.Proofs.Json.Nodes

/-! Reading past the limit of nesting. A node that breaks off holds no document, and a text that spells a document
is decoded by what the decoder makes of a node that holds it or, past the limit, of one that breaks off. -/

namespace RuleTree.Json

mutual

/-- What breaks off is not a whole value. -/
theorem Node.Breaks.not_holds : ∀ {d d' : Document} {n : Node}, n.Breaks d → ¬ n.Holds d'
  | .array _, _, _, hbreaks, h => by
    cases hbreaks with
    | array hitems =>
      cases h with
      | array hhold => exact Items.Break.not_hold hitems hhold
  | .object _, _, _, hbreaks, h => by
    cases hbreaks with
    | object hmembers =>
      cases h with
      | object hhold => exact Members.Break.not_hold hmembers hhold

theorem Items.Break.not_hold : ∀ {ds ds' : List Document} {items : Items}, items.Break ds →
    ¬ items.Hold ds'
  | [], _, _, hbreak, h => by
    cases hbreak
    cases h
  | _ :: _, _, _, hbreak, h => by
    cases hbreak with
    | bad => cases h
    | head hhead =>
      cases h with
      | cons hd _ => exact Node.Breaks.not_holds hhead hd
    | tail _ htail =>
      cases h with
      | cons _ hds => exact Items.Break.not_hold htail hds

theorem Members.Break.not_hold : ∀ {ms ms' : List (String × Document)} {members : Members},
    members.Break ms → ¬ members.Hold ms'
  | [], _, _, hbreak, h => by
    cases hbreak
    cases h
  | _ :: _, _, _, hbreak, h => by
    cases hbreak with
    | bad => cases h
    | head hhead =>
      cases h with
      | cons hd _ => exact Node.Breaks.not_holds hhead hd
    | tail _ htail =>
      cases h with
      | cons _ hms => exact Members.Break.not_hold htail hms

end

/-! ### Whole texts -/

/-- A written document that nests no deeper than the limit is decoded as a node that holds what its numbers are
read back as; one that nests deeper is decoded as a node that breaks off. -/
theorem decodeText_write_iff {α : Type} {decode : Node → Except Fault α} {d : Document} {a : α}
    (hfinite : d.Finite) (hdecode : ∀ n : Node, n.Holds d.reread → decode n = .ok a)
    (hbreaks : ∀ n : Node, n.Breaks d.reread → ∀ b, decode n ≠ .ok b) (b : α) :
    decodeText decode d.write = .ok b ↔ d.reread.nesting ≤ nestingLimit ∧ b = a := by
  have hspells := spells_reread d hfinite
  have htext : d.write.toList = [] ++ (d.write.toList ++ []) := by
    rw [List.append_nil]
    rfl
  by_cases hdepth : d.reread.nesting ≤ nestingLimit
  · rw [decodeText_spells hspells blank_nil blank_nil htext hdepth hdecode]
    simp [hdepth, eq_comm]
  · have hfuel : 2 * (d.write.toList.length + ([] : List Char).length) < 2 * d.write.length + 2 := by
      rw [String.length_toList, List.length_nil]
      omega
    have hnode : (Node.ofText d.write).Breaks d.reread :=
      (meets_spells d.reread hspells blank_nil htext delimits_nil hfuel).broken (Nat.not_le.1 hdepth)
    rw [decodeText_eq_ok_iff]
    constructor
    · rintro ⟨hb, -⟩
      exact absurd hb (hbreaks _ hnode b)
    · rintro ⟨hle, -⟩
      exact absurd hle hdepth

mutual

/-- Reading numbers back leaves the brackets as they are. -/
theorem Document.nesting_reread : ∀ d : Document, d.reread.nesting = d.nesting
  | .null | .flag _ | .number _ | .text _ => rfl
  | .array items => by
    rw [Document.reread, Document.nesting, Document.nesting, Document.nestingItems_reread items]
  | .object members => by
    rw [Document.reread, Document.nesting, Document.nesting, Document.nestingMembers_reread members]

theorem Document.nestingItems_reread : ∀ ds : List Document,
    Document.nestingItems (Document.rereadItems ds) = Document.nestingItems ds
  | [] => rfl
  | d :: rest => by
    rw [Document.rereadItems, Document.nestingItems, Document.nestingItems,
      Document.nesting_reread d, Document.nestingItems_reread rest]

theorem Document.nestingMembers_reread : ∀ ms : List (String × Document),
    Document.nestingMembers (Document.rereadMembers ms) = Document.nestingMembers ms
  | [] => rfl
  | (k, d) :: rest => by
    rw [Document.rereadMembers, Document.nestingMembers, Document.nestingMembers,
      Document.nesting_reread d, Document.nestingMembers_reread rest]

end

end RuleTree.Json
