import RuleTree.Proofs.Json.Kept

/-! Documents written over several lines. Line breaks and indents are space between the parts of a document, so that
its text spells it as the one on a single line does. -/

namespace RuleTree.Json

/-- A new line at the given depth. -/
def breakLine (depth : Nat) : List Char := '\n' :: List.replicate (2 * depth) ' '

theorem blank_breakLine (depth : Nat) : Blank (breakLine depth) := by
  intro c hc
  rcases List.mem_cons.1 hc with rfl | hc
  · rfl
  · rw [List.eq_of_mem_replicate hc]
    rfl

theorem blank_space : Blank [' '] := List.forall_mem_singleton.2 rfl

theorem leads_breakLine (depth : Nat) : Leads true (breakLine depth) := blank_breakLine depth

theorem leads_comma_breakLine (depth : Nat) : Leads false (',' :: breakLine depth) :=
  ⟨[], breakLine depth, blank_nil, blank_breakLine depth, rfl⟩

/-- Written parts behind commas, each on a line of its own, and what closes them on another line. -/
def lineParts (depth : Nat) (parts : List String) (close : Char) : List Char :=
  parts.flatMap (fun p => ',' :: breakLine (depth + 1) ++ p.toList) ++ (breakLine depth ++ [close])

theorem layOut_nil {opening closing : String} {o c : Char} (ho : opening.toList = [o])
    (hc : closing.toList = [c]) (depth : Nat) : (layOut opening closing depth []).toList = [o, c] := by
  rw [layOut, String.toList_append, ho, hc]
  rfl

theorem layOut_cons {opening closing : String} {o c : Char} (ho : opening.toList = [o])
    (hc : closing.toList = [c]) (depth : Nat) (p : String) (parts : List String) :
    (layOut opening closing depth (p :: parts)).toList =
      o :: (breakLine (depth + 1) ++ (p.toList ++ lineParts depth parts c)) := by
  have hline : "\n".toList = ['\n'] := rfl
  have hcomma : ",\n".toList = [',', '\n'] := rfl
  simp only [layOut, String.toList_append, String.toList_ofList, intercalate_toList, ho, hc, hline,
    hcomma, lineParts, breakLine, List.append_assoc, List.cons_append, List.nil_append]

theorem prettyMember_toList (k v : String) :
    (writeText k ++ ": " ++ v).toList = (writeText k).toList ++ ':' :: ' ' :: v.toList := by
  have hcolon : ": ".toList = [':', ' '] := rfl
  rw [String.toList_append, String.toList_append, hcolon, List.append_assoc, List.cons_append,
    List.singleton_append]

mutual

/-- The text over several lines spells what the numbers of the document are read back as. -/
theorem spells_pretty (depth : Nat) : ∀ d : Document, d.Finite →
    Spells (d.writePretty depth).toList d.reread
  | .null, h => spells_reread .null h
  | .flag b, h => spells_reread (.flag b) h
  | .number n, h => spells_reread (.number n) h
  | .text s, h => spells_reread (.text s) h
  | .array [], _ => by
    rw [Document.writePretty, Document.prettyItems, layOut_nil (o := '[') (c := ']') rfl rfl]
    exact .array (.nil blank_nil)
  | .array (d :: ds), h => by
    have hds := SpellsItems.cons (leads_breakLine (depth + 1)) (spells_pretty (depth + 1) d h.1)
      (spells_prettyItems depth ds h.2)
    rw [Document.writePretty, Document.prettyItems, layOut_cons (o := '[') (c := ']') rfl rfl]
    exact .array hds
  | .object [], _ => by
    rw [Document.writePretty, Document.prettyMembers, layOut_nil (o := '\x7b') (c := '\x7d') rfl rfl]
    exact .object (.nil blank_nil)
  | .object ((k, d) :: ms), h => by
    have hms := SpellsMembers.written (k := k) (leads_breakLine (depth + 1)) blank_nil blank_space
      (spells_pretty (depth + 1) d h.1) (spells_prettyMembers depth ms h.2)
    rw [Document.writePretty, Document.prettyMembers, layOut_cons (o := '\x7b') (c := '\x7d') rfl rfl,
      prettyMember_toList, List.append_assoc]
    exact .object hms

/-- The items behind the first one. -/
theorem spells_prettyItems (depth : Nat) : ∀ ds : List Document, Document.FiniteItems ds →
    SpellsItems false (lineParts depth (Document.prettyItems (depth + 1) ds) ']')
      (Document.rereadItems ds)
  | [], _ => .nil (blank_breakLine depth)
  | d :: ds, h => by
    have hds := SpellsItems.cons (leads_comma_breakLine (depth + 1)) (spells_pretty (depth + 1) d h.1)
      (spells_prettyItems depth ds h.2)
    simpa [lineParts, Document.prettyItems, Document.rereadItems] using hds

/-- The members behind the first one. -/
theorem spells_prettyMembers (depth : Nat) : ∀ ms : List (String × Document),
    Document.FiniteMembers ms →
      SpellsMembers false (lineParts depth (Document.prettyMembers (depth + 1) ms) '\x7d')
        (Document.rereadMembers ms)
  | [], _ => .nil (blank_breakLine depth)
  | (k, d) :: ms, h => by
    have hms := SpellsMembers.written (k := k) (leads_comma_breakLine (depth + 1)) blank_nil blank_space
      (spells_pretty (depth + 1) d h.1) (spells_prettyMembers depth ms h.2)
    simpa [lineParts, Document.prettyMembers, Document.rereadMembers, prettyMember_toList] using hms

end

/-- A document that was read, doubles apart, is read again from its text over several lines. -/
theorem Document.Kept.parse_pretty {d : Document} (h : d.Kept nestingLimit)
    (hintegral : d.integral = true) : Document.parse (d.writePretty 0 ++ "\n") = .ok d := by
  obtain ⟨hfinite, hreread⟩ := (h.whole hintegral).reread
  have hspells := spells_pretty 0 d hfinite
  rw [hreread] at hspells
  have htext : (d.writePretty 0 ++ "\n").toList = [] ++ ((d.writePretty 0).toList ++ ['\n']) := by
    rw [String.toList_append]
    rfl
  have hnewline : Blank ['\n'] := List.forall_mem_singleton.2 rfl
  have hparse := decodeText_spells hspells blank_nil hnewline htext h.nesting_le
    fun _ => Node.document_of_holds
  rwa [h.sorted_eq] at hparse

end RuleTree.Json
