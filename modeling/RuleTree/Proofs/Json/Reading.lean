import RuleTree.Json.Decode
import RuleTree.Proofs.Json.Spelling

/-! Reading what was written. A spelling that nests no deeper than brackets may be opened is read as a node that
holds the spelled document, and one that nests deeper as a node that breaks off. -/

namespace RuleTree.Json

/-! ### Nodes that hold a document -/

mutual

/-- The node has the parts of the document, in their order, whatever their places. -/
inductive Node.Holds : Node → Document → Prop
  | null {start stop : Mark} : Node.Holds (.mk start stop .null) .null
  | flag {start stop : Mark} {b : Bool} : Node.Holds (.mk start stop (.flag b)) (.flag b)
  | number {start stop : Mark} {n : Number} : Node.Holds (.mk start stop (.number n)) (.number n)
  | text {start stop : Mark} {s : String} : Node.Holds (.mk start stop (.text s)) (.text s)
  | array {start stop : Mark} {items : Items} {ds : List Document} :
      Items.Hold items ds → Node.Holds (.mk start stop (.array items)) (.array ds)
  | object {start stop : Mark} {lead : Node} {members : Members} {ms : List (String × Document)} :
      Members.Hold members ms → Node.Holds (.mk start stop (.object lead members)) (.object ms)

inductive Items.Hold : Items → List Document → Prop
  | nil {close : Close} : Items.Hold (.nil close) []
  | cons {close : Close} {head : Node} {tail : Items} {d : Document} {ds : List Document} :
      Node.Holds head d → Items.Hold tail ds → Items.Hold (.cons close head tail) (d :: ds)

inductive Members.Hold : Members → List (String × Document) → Prop
  | nil {close : Close} : Members.Hold (.nil close) []
  | cons {close afterKey : Close} {key : String} {value : Node} {tail : Members} {d : Document}
      {ms : List (String × Document)} :
      Node.Holds value d → Members.Hold tail ms →
        Members.Hold (.cons close key afterKey value tail) ((key, d) :: ms)

end

/-! ### Nodes that break off -/

mutual

/-- The node follows the document up to some bracket that could not be opened. Members behind a broken one do
not matter. -/
inductive Node.Breaks : Node → Document → Prop
  | array {start stop : Mark} {items : Items} {ds : List Document} :
      Items.Break items ds → Node.Breaks (.mk start stop (.array items)) (.array ds)
  | object {start stop : Mark} {lead : Node} {members : Members} {ms : List (String × Document)} :
      Members.Break members ms → Node.Breaks (.mk start stop (.object lead members)) (.object ms)

inductive Items.Break : Items → List Document → Prop
  | bad {close : Close} {f : Fault} {ds : List Document} : Items.Break (.bad close f) ds
  | head {close : Close} {head : Node} {tail : Items} {d : Document} {ds : List Document} :
      Node.Breaks head d → Items.Break (.cons close head tail) (d :: ds)
  | tail {close : Close} {head : Node} {tail : Items} {d : Document} {ds : List Document} :
      Node.Holds head d → Items.Break tail ds → Items.Break (.cons close head tail) (d :: ds)

inductive Members.Break : Members → List (String × Document) → Prop
  | bad {close : Close} {f : Fault} {ms : List (String × Document)} : Members.Break (.bad close f) ms
  | head {close afterKey : Close} {key : String} {value : Node} {tail : Members} {d : Document}
      {ms : List (String × Document)} :
      Node.Breaks value d → Members.Break (.cons close key afterKey value tail) ((key, d) :: ms)
  | tail {close afterKey : Close} {key : String} {value : Node} {tail : Members} {d : Document}
      {ms : List (String × Document)} :
      Node.Holds value d → Members.Break tail ms →
        Members.Break (.cons close key afterKey value tail) ((key, d) :: ms)

end

mutual

/-- How many brackets of the document are open at once. -/
def Document.nesting : Document → Nat
  | .array items => 1 + Document.nestingItems items
  | .object members => 1 + Document.nestingMembers members
  | _ => 0

def Document.nestingItems : List Document → Nat
  | [] => 0
  | d :: rest => max d.nesting (Document.nestingItems rest)

def Document.nestingMembers : List (String × Document) → Nat
  | [] => 0
  | (_, d) :: rest => max d.nesting (Document.nestingMembers rest)

end

mutual

/-- The document as it is kept: members of objects in ascending order, the last of a key. -/
def Document.sorted : Document → Document
  | .array items => .array (Document.sortedItems items)
  | .object members => .object (ofMembers (Document.sortedMembers members))
  | d => d

def Document.sortedItems : List Document → List Document
  | [] => []
  | d :: rest => d.sorted :: Document.sortedItems rest

def Document.sortedMembers : List (String × Document) → List (String × Document)
  | [] => []
  | (k, d) :: rest => (k, d.sorted) :: Document.sortedMembers rest

end

theorem Node.text_of_holds {n : Node} {s : String} (h : n.Holds (.text s)) : n.text = .ok s := by
  cases h
  rfl

mutual

theorem Node.document_of_holds : ∀ {n : Node} {d : Document}, n.Holds d → n.document = .ok d.sorted
  | _, _, .null | _, _, .flag | _, _, .number | _, _, .text => rfl
  | _, _, .array h => by
    rw [Node.document, Content.document, Items.documents_of_hold h]
    rfl
  | _, _, .object h => by
    rw [Node.document, Content.document, Members.documents_of_hold h]
    rfl

theorem Items.documents_of_hold : ∀ {items : Items} {ds : List Document}, items.Hold ds →
    items.documents = .ok (Document.sortedItems ds)
  | _, _, .nil => rfl
  | _, _, .cons hd hds => by
    rw [Items.documents, Node.document_of_holds hd, Items.documents_of_hold hds]
    rfl

theorem Members.documents_of_hold : ∀ {members : Members} {ms : List (String × Document)},
    members.Hold ms → members.documents = .ok (Document.sortedMembers ms)
  | _, _, .nil => rfl
  | _, _, .cons hd hms => by
    rw [Members.documents, Node.document_of_holds hd, Members.documents_of_hold hms]
    rfl

end

/-! ### Between the parts of a bracket -/

theorem nextItem_stop (first : Bool) {c : Cursor} {ws rest : List Char} (hws : Blank ws)
    (hc : c.rest = ws ++ ']' :: rest) :
    ∃ behind, nextItem first c = .stop behind ∧ behind.rest = rest := by
  have hskip := Cursor.skipSpace_blank hws (by decide) hc
  refine ⟨c.skipSpace.next, ?_, Cursor.next_rest_of_cons hskip⟩
  rw [nextItem, hskip]
  rfl

theorem nextItem_part {first : Bool} {c : Cursor} {lead more : List Char} {ch : Char}
    (hlead : Leads first lead) (hspace : Cursor.isSpace ch = false) (hclose : ch ≠ ']')
    (hc : c.rest = lead ++ ch :: more) :
    ∃ front, nextItem first c = .part front ∧ front.rest = ch :: more := by
  cases first with
  | true =>
    have hskip := Cursor.skipSpace_blank hlead hspace hc
    refine ⟨c.skipSpace, ?_, hskip⟩
    rw [nextItem, hskip]
    simp only [if_true]
  | false =>
    obtain ⟨ws, ws', hws, hws', rfl⟩ := hlead
    rw [List.append_assoc] at hc
    have hcomma := Cursor.skipSpace_blank hws (by decide) hc
    have hnext : c.skipSpace.next.rest = ws' ++ ch :: more := Cursor.next_rest_of_cons hcomma
    have hskip := Cursor.skipSpace_blank hws' hspace hnext
    refine ⟨c.skipSpace.next.skipSpace, ?_, hskip⟩
    have hcommaClose : ',' ≠ ']' := by decide
    simp only [nextItem, hcomma, hskip, Bool.false_eq_true, if_false, if_true]
    split
    · next h => cases h
    · next h => exact absurd (List.cons.inj h).1 hclose
    · rfl

theorem nextMember_stop (first : Bool) {c : Cursor} {ws rest : List Char} (hws : Blank ws)
    (hc : c.rest = ws ++ '\x7d' :: rest) :
    ∃ behind, nextMember first c = .stop behind ∧ behind.rest = rest := by
  have hskip := Cursor.skipSpace_blank hws (by decide) hc
  refine ⟨c.skipSpace.next, ?_, Cursor.next_rest_of_cons hskip⟩
  rw [nextMember, hskip]
  rfl

theorem nextMember_part {first : Bool} {c : Cursor} {lead more : List Char}
    (hlead : Leads first lead) (hc : c.rest = lead ++ '"' :: more) :
    ∃ front, nextMember first c = .part front ∧ front.rest = '"' :: more := by
  cases first with
  | true =>
    have hskip := Cursor.skipSpace_blank hlead (by decide) hc
    refine ⟨c.skipSpace, ?_, hskip⟩
    rw [nextMember, hskip]
    rfl
  | false =>
    obtain ⟨ws, ws', hws, hws', rfl⟩ := hlead
    rw [List.append_assoc] at hc
    have hcomma := Cursor.skipSpace_blank hws (by decide) hc
    have hnext : c.skipSpace.next.rest = ws' ++ '"' :: more := Cursor.next_rest_of_cons hcomma
    have hskip := Cursor.skipSpace_blank hws' (by decide) hnext
    refine ⟨c.skipSpace.next.skipSpace, ?_, hskip⟩
    simp only [nextMember, hcomma, hskip]
    rfl

theorem expectColon_blank {c : Cursor} {ws more : List Char} (hws : Blank ws)
    (hc : c.rest = ws ++ ':' :: more) :
    ∃ front, expectColon c = .ok front ∧ front.rest = more := by
  have hskip := Cursor.skipSpace_blank hws (by decide) hc
  refine ⟨c.skipSpace.next, ?_, Cursor.next_rest_of_cons hskip⟩
  rw [expectColon, hskip]
  rfl

/-! ### Scalars -/

/-- Reading gave a node that holds the document, and stands before `rest`. -/
def Reads (result : Node × Option Cursor) (d : Document) (rest : List Char) : Prop :=
  ∃ n behind, result = (n, some behind) ∧ behind.rest = rest ∧ Node.Holds n d

section

variable {fuel depth : Nat} {c : Cursor} {rest : List Char}

theorem Reads.scalar {start : Mark} {broken : Fault → Content} {content : Content} {behind : Cursor}
    {d : Document} (hrest : behind.rest = rest)
    (hd : ∀ start stop, Node.Holds (.mk start stop content) d) :
    Reads (Node.scalar start broken (.ok (content, behind))) d rest :=
  ⟨_, behind, rfl, hrest, hd _ _⟩

theorem Reads.word {start : Mark} {word : List Char} {content : Content} {d : Document}
    (hc : c.rest = word ++ rest) (hd : ∀ start stop, Node.Holds (.mk start stop content) d) :
    Reads (Node.scalar start .bad ((expectWord c word).map fun c => (content, c))) d rest := by
  obtain ⟨behind, hword, hrest⟩ := expectWord_append word hc
  rw [hword]
  exact .scalar hrest hd

theorem reads_null (hc : c.skipSpace.rest = 'n' :: 'u' :: 'l' :: 'l' :: rest) :
    Reads (Node.read (fuel + 1) depth c) .null rest := by
  have hnext : c.skipSpace.next.rest = ['u', 'l', 'l'] ++ rest := Cursor.next_rest_of_cons hc
  simp only [Node.read, hc]
  exact .word hnext fun _ _ => .null

theorem reads_true (hc : c.skipSpace.rest = 't' :: 'r' :: 'u' :: 'e' :: rest) :
    Reads (Node.read (fuel + 1) depth c) (.flag true) rest := by
  have hnext : c.skipSpace.next.rest = ['r', 'u', 'e'] ++ rest := Cursor.next_rest_of_cons hc
  simp only [Node.read, hc]
  exact .word hnext fun _ _ => .flag

theorem reads_false (hc : c.skipSpace.rest = 'f' :: 'a' :: 'l' :: 's' :: 'e' :: rest) :
    Reads (Node.read (fuel + 1) depth c) (.flag false) rest := by
  have hnext : c.skipSpace.next.rest = ['a', 'l', 's', 'e'] ++ rest := Cursor.next_rest_of_cons hc
  simp only [Node.read, hc]
  exact .word hnext fun _ _ => .flag

theorem reads_text {t : List Char} {s : String} (ht : Takes readText Anywhere t s)
    (hc : c.skipSpace.rest = '"' :: (t ++ rest)) : Reads (Node.read (fuel + 1) depth c) (.text s) rest := by
  obtain ⟨behind, hread, hrest⟩ := ht c.skipSpace.next rest (Cursor.next_rest_of_cons hc) trivial
  simp only [Node.read, hc, hread]
  exact .scalar hrest fun _ _ => .text

theorem reads_number {t : List Char} {n : Number} (hn : Takes readNumeral Delimits t n)
    (hc : c.skipSpace.rest = t ++ rest) (h : Delimits rest) :
    Reads (Node.read (fuel + 1) depth c) (.number n) rest := by
  obtain ⟨behind, hread, hrest⟩ := hn c.skipSpace rest hc h
  obtain ⟨ch, more, hch, hnumeral, -⟩ := hn.numeral_head
  rw [hch, List.cons_append] at hc
  have hother : ch ≠ 'n' ∧ ch ≠ 't' ∧ ch ≠ 'f' ∧ ch ≠ '"' ∧ ch ≠ '[' ∧ ch ≠ '\x7b' := by
    refine ⟨?_, ?_, ?_, ?_, ?_, ?_⟩ <;> rintro rfl <;> revert hnumeral <;> decide
  obtain ⟨hn, ht, hf, hquote, hlist, hobject⟩ := hother
  simp only [Node.read, hc, hread, hnumeral, if_true]
  exact .scalar hrest fun _ _ => .number

/-! ### Brackets -/

/-- Where no more brackets may be opened than `depth`, reading gives a node that holds the document or breaks
off. -/
structure Meets (depth : Nat) (result : Node × Option Cursor) (d : Document) (rest : List Char) :
    Prop where
  whole : d.nesting ≤ depth → Reads result d rest
  broken : depth < d.nesting → result.1.Breaks d

theorem Reads.meets {result : Node × Option Cursor} {d : Document} (h : Reads result d rest)
    (hscalar : d.nesting = 0) : Meets depth result d rest :=
  ⟨fun _ => h, fun hdepth => absurd hdepth (by omega)⟩

structure MeetsItems (depth : Nat) (result : Items × Option Cursor) (ds : List Document)
    (rest : List Char) : Prop where
  whole : Document.nestingItems ds ≤ depth → ∃ items behind, result = (items, some behind) ∧
    behind.rest = rest ∧ Items.Hold items ds
  broken : depth < Document.nestingItems ds → result.1.Break ds

structure MeetsMembers (depth : Nat) (result : Members × Option Cursor)
    (ms : List (String × Document)) (rest : List Char) : Prop where
  whole : Document.nestingMembers ms ≤ depth → ∃ members behind, result = (members, some behind) ∧
    behind.rest = rest ∧ Members.Hold members ms
  broken : depth < Document.nestingMembers ms → result.1.Break ms

theorem meets_array {ds : List Document} {more : List Char} (hc : c.skipSpace.rest = '[' :: more)
    (hitems : ∀ inner, MeetsItems inner (Items.read fuel inner true c.skipSpace.next) ds rest) :
    Meets depth (Node.read (fuel + 1) depth c) (.array ds) rest := by
  have hnesting : (Document.array ds).nesting = 1 + Document.nestingItems ds := rfl
  cases depth with
  | zero =>
    refine ⟨fun hdepth => absurd hdepth (by omega), fun _ => ?_⟩
    simp only [Node.read, hc]
    exact .array .bad
  | succ inner =>
    refine ⟨fun hdepth => ?_, fun hdepth => ?_⟩
    · obtain ⟨items, behind, hread, hrest, hhold⟩ := (hitems inner).whole (by omega)
      simp only [Node.read, hc, hread]
      exact ⟨_, behind, rfl, hrest, .array hhold⟩
    · have hbreak := (hitems inner).broken (by omega)
      simp only [Node.read, hc]
      exact .array hbreak

theorem meets_object {ms : List (String × Document)} {more : List Char}
    (hc : c.skipSpace.rest = '\x7b' :: more)
    (hmembers : ∀ inner,
      MeetsMembers inner (Members.read fuel inner true c.skipSpace.next) ms rest) :
    Meets depth (Node.read (fuel + 1) depth c) (.object ms) rest := by
  have hnesting : (Document.object ms).nesting = 1 + Document.nestingMembers ms := rfl
  cases depth with
  | zero =>
    refine ⟨fun hdepth => absurd hdepth (by omega), fun _ => ?_⟩
    simp only [Node.read, hc]
    exact .object .bad
  | succ inner =>
    refine ⟨fun hdepth => ?_, fun hdepth => ?_⟩
    · obtain ⟨members, behind, hread, hrest, hhold⟩ := (hmembers inner).whole (by omega)
      simp only [Node.read, hc, hread]
      exact ⟨_, behind, rfl, hrest, .object hhold⟩
    · have hbreak := (hmembers inner).broken (by omega)
      simp only [Node.read, hc]
      exact .object hbreak

theorem meetsItems_stop {first : Bool} {ws : List Char} (hws : Blank ws)
    (hc : c.rest = ws ++ ']' :: rest) :
    MeetsItems depth (Items.read (fuel + 1) depth first c) [] rest := by
  obtain ⟨behind, hstop, hrest⟩ := nextItem_stop first hws hc
  refine ⟨fun _ => ?_, fun hdepth => absurd hdepth (Nat.not_lt_zero depth)⟩
  simp only [Items.read, hstop]
  exact ⟨_, behind, rfl, hrest, .nil⟩

/-- A list breaks off in the first item that does; the items before it are whole. -/
theorem meetsItems_part {first : Bool} {front : Cursor} {d : Document} {ds : List Document}
    {u : List Char} (hpart : nextItem first c = .part front)
    (hhead : Meets depth (Node.read fuel depth front) d u)
    (htail : ∀ behind : Cursor, behind.rest = u →
      MeetsItems depth (Items.read fuel depth false behind) ds rest) :
    MeetsItems depth (Items.read (fuel + 1) depth first c) (d :: ds) rest := by
  have hnesting : Document.nestingItems (d :: ds) = max d.nesting (Document.nestingItems ds) := rfl
  refine ⟨fun hdepth => ?_, fun hdepth => ?_⟩
  · obtain ⟨head, behind, hread, hu, hhold⟩ := hhead.whole (by omega)
    obtain ⟨tail, stop, hreadTail, hrest, hholdTail⟩ := (htail behind hu).whole (by omega)
    simp only [Items.read, hpart, hread, hreadTail]
    exact ⟨_, stop, rfl, hrest, .cons hhold hholdTail⟩
  · by_cases hdeep : depth < d.nesting
    · have hbreaks := hhead.broken hdeep
      simp only [Items.read, hpart]
      split <;> exact .head hbreaks
    · obtain ⟨head, behind, hread, hu, hhold⟩ := hhead.whole (by omega)
      have hbreak := (htail behind hu).broken (by omega)
      simp only [Items.read, hpart, hread]
      exact .tail hhold hbreak

theorem meetsMembers_stop {first : Bool} {ws : List Char} (hws : Blank ws)
    (hc : c.rest = ws ++ '\x7d' :: rest) :
    MeetsMembers depth (Members.read (fuel + 1) depth first c) [] rest := by
  obtain ⟨behind, hstop, hrest⟩ := nextMember_stop first hws hc
  refine ⟨fun _ => ?_, fun hdepth => absurd hdepth (Nat.not_lt_zero depth)⟩
  simp only [Members.read, hstop]
  exact ⟨_, behind, rfl, hrest, .nil⟩

theorem meetsMembers_part {first : Bool} {front behindKey value : Cursor} {k : String}
    {d : Document} {ms : List (String × Document)} {u : List Char}
    (hpart : nextMember first c = .part front) (hkey : readText front.next = .ok (k, behindKey))
    (hcolon : expectColon behindKey = .ok value)
    (hvalue : Meets depth (Node.read fuel depth value) d u)
    (htail : ∀ behind : Cursor, behind.rest = u →
      MeetsMembers depth (Members.read fuel depth false behind) ms rest) :
    MeetsMembers depth (Members.read (fuel + 1) depth first c) ((k, d) :: ms) rest := by
  have hnesting : Document.nestingMembers ((k, d) :: ms) =
      max d.nesting (Document.nestingMembers ms) := rfl
  refine ⟨fun hdepth => ?_, fun hdepth => ?_⟩
  · obtain ⟨node, behind, hread, hu, hhold⟩ := hvalue.whole (by omega)
    obtain ⟨tail, stop, hreadTail, hrest, hholdTail⟩ := (htail behind hu).whole (by omega)
    simp only [Members.read, hpart, hkey, hcolon, hread, hreadTail]
    exact ⟨_, stop, rfl, hrest, .cons hhold hholdTail⟩
  · by_cases hdeep : depth < d.nesting
    · have hbreaks := hvalue.broken hdeep
      simp only [Members.read, hpart, hkey, hcolon]
      split <;> exact .head hbreaks
    · obtain ⟨node, behind, hread, hu, hhold⟩ := hvalue.whole (by omega)
      have hbreak := (htail behind hu).broken (by omega)
      simp only [Members.read, hpart, hkey, hcolon, hread]
      exact .tail hhold hbreak

end

/-! ### Spellings -/

theorem Spells.skipSpace {t ws rest : List Char} {d : Document} {c : Cursor} (h : Spells t d)
    (hws : Blank ws) (hc : c.rest = ws ++ (t ++ rest)) : c.skipSpace.rest = t ++ rest := by
  obtain ⟨ch, more, rfl, hspace, -⟩ := h.head
  exact Cursor.skipSpace_blank hws hspace hc

theorem Spells.nextItem_part {first : Bool} {t lead rest : List Char} {d : Document} {c : Cursor}
    (h : Spells t d) (hlead : Leads first lead) (hc : c.rest = lead ++ (t ++ rest)) :
    ∃ front, nextItem first c = .part front ∧ front.rest = t ++ rest := by
  obtain ⟨ch, more, rfl, hspace, hclose⟩ := h.head
  exact Json.nextItem_part hlead hspace hclose hc

theorem Spells.length_pos {t : List Char} {d : Document} (h : Spells t d) : 0 < t.length := by
  obtain ⟨ch, more, rfl, -, -⟩ := h.head
  exact Nat.succ_pos _

mutual

/-- A value takes two units of fuel for each character from its own on: the bracket around a part takes
one more than the part. -/
theorem meets_spells : ∀ (d : Document) {t : List Char}, Spells t d →
    ∀ {fuel depth : Nat} {c : Cursor} {ws rest : List Char}, Blank ws → c.rest = ws ++ (t ++ rest) →
      Delimits rest → 2 * (t.length + rest.length) < fuel →
      Meets depth (Node.read fuel depth c) d rest
  | .null, _, h, fuel + 1, _, _, _, _, hws, hc, _, _ => by
    have hskip := h.skipSpace hws hc
    cases h
    exact (reads_null hskip).meets rfl
  | .flag b, _, h, fuel + 1, _, _, _, _, hws, hc, _, _ => by
    have hskip := h.skipSpace hws hc
    cases h with
    | yes => exact (reads_true hskip).meets rfl
    | no => exact (reads_false hskip).meets rfl
  | .number n, _, h, fuel + 1, _, _, _, _, hws, hc, hrest, _ => by
    have hskip := h.skipSpace hws hc
    cases h with
    | number hn => exact (reads_number hn hskip hrest).meets rfl
  | .text s, _, h, fuel + 1, _, _, _, _, hws, hc, _, _ => by
    have hskip := h.skipSpace hws hc
    cases h with
    | text ht => exact (reads_text ht hskip).meets rfl
  | .array ds, _, h, fuel + 1, depth, c, ws, rest, hws, hc, _, hfuel => by
    have hskip := h.skipSpace hws hc
    cases h with
    | array hitems =>
      rw [List.length_cons] at hfuel
      apply meets_array hskip
      intro inner
      exact meetsItems_spells ds hitems (Cursor.next_rest_of_cons hskip) (by omega)
  | .object ms, _, h, fuel + 1, depth, c, ws, rest, hws, hc, _, hfuel => by
    have hskip := h.skipSpace hws hc
    cases h with
    | object hmembers =>
      rw [List.length_cons] at hfuel
      apply meets_object hskip
      intro inner
      exact meetsMembers_spells ms hmembers (Cursor.next_rest_of_cons hskip) (by omega)

theorem meetsItems_spells : ∀ (ds : List Document) {first : Bool} {t : List Char},
    SpellsItems first t ds → ∀ {fuel depth : Nat} {c : Cursor} {rest : List Char},
      c.rest = t ++ rest → 2 * (t.length + rest.length) + 1 < fuel →
      MeetsItems depth (Items.read fuel depth first c) ds rest
  | [], first, _, h, fuel + 1, depth, c, rest, hc, _ => by
    cases h with
    | nil hws =>
      rw [List.append_assoc] at hc
      exact meetsItems_stop hws hc
  | d :: ds, first, _, h, fuel + 1, depth, c, rest, hc, hfuel => by
    cases h with
    | @cons _ lead t u _ _ hlead hd hds =>
      rw [List.length_append, List.length_append] at hfuel
      rw [List.append_assoc, List.append_assoc] at hc
      have hpos := hd.length_pos
      obtain ⟨front, hpart, hfront⟩ := hd.nextItem_part hlead hc
      have hhead : Meets depth (Node.read fuel depth front) d (u ++ rest) := by
        apply meets_spells d hd blank_nil hfront (hds.delimits rest)
        rw [List.length_append]
        omega
      apply meetsItems_part hpart hhead
      intro behind hbehind
      exact meetsItems_spells ds hds hbehind (by omega)

theorem meetsMembers_spells : ∀ (ms : List (String × Document)) {first : Bool} {t : List Char},
    SpellsMembers first t ms → ∀ {fuel depth : Nat} {c : Cursor} {rest : List Char},
      c.rest = t ++ rest → 2 * (t.length + rest.length) + 1 < fuel →
      MeetsMembers depth (Members.read fuel depth first c) ms rest
  | [], first, _, h, fuel + 1, depth, c, rest, hc, _ => by
    cases h with
    | nil hws =>
      rw [List.append_assoc] at hc
      exact meetsMembers_stop hws hc
  | (k, d) :: ms, first, _, h, fuel + 1, depth, c, rest, hc, hfuel => by
    cases h with
    | @cons _ lead key ws ws' t u _ _ _ hlead hk hws hws' hd hms =>
      simp only [List.length_append, List.length_cons] at hfuel
      simp only [List.append_assoc, List.cons_append] at hc
      have hpos := hd.length_pos
      obtain ⟨front, hpart, hfront⟩ := nextMember_part hlead hc
      obtain ⟨behindKey, hkey, hbehindKey⟩ := hk front.next _ (Cursor.next_rest_of_cons hfront) trivial
      obtain ⟨value, hcolon, hvalue⟩ := expectColon_blank hws hbehindKey
      have hnode : Meets depth (Node.read fuel depth value) d (u ++ rest) := by
        apply meets_spells d hd hws' hvalue (hms.delimits rest)
        rw [List.length_append]
        omega
      apply meetsMembers_part hpart hkey hcolon hnode
      intro behind hbehind
      exact meetsMembers_spells ms hms hbehind (by omega)

end

/-! ### Whole texts -/

/-- A text that spells a document between space is read as a node that holds the document. -/
theorem reads_spells {text : String} {ws t ws' : List Char} {d : Document} (h : Spells t d) (hws : Blank ws)
    (hws' : Blank ws') (htext : text.toList = ws ++ (t ++ ws')) (hdepth : d.nesting ≤ nestingLimit) :
    Reads (Node.read (2 * text.length + 2) nestingLimit (.ofText text)) d ws' := by
  have hdelimits : Delimits ws' := by
    cases ws' with
    | nil => exact delimits_nil
    | cons c ws' => exact delimits_of_isSpace (hws' c List.mem_cons_self) _
  have hfuel : 2 * (t.length + ws'.length) < 2 * text.length + 2 := by
    rw [← String.length_toList, htext, List.length_append, List.length_append]
    omega
  have hstart : (Cursor.ofText text).rest = ws ++ (t ++ ws') := htext
  exact (meets_spells d h hws hstart hdelimits hfuel).whole hdepth

/-- A text that spells a document between space is decoded as any node that holds the document is. -/
theorem decodeText_spells {α : Type} {decode : Node → Except Fault α} {text : String}
    {ws t ws' : List Char} {d : Document} {a : α} (h : Spells t d) (hws : Blank ws) (hws' : Blank ws')
    (htext : text.toList = ws ++ (t ++ ws')) (hdepth : d.nesting ≤ nestingLimit)
    (hdecode : ∀ n : Node, n.Holds d → decode n = .ok a) : decodeText decode text = .ok a := by
  obtain ⟨n, behind, hread, hrest, hn⟩ := reads_spells h hws hws' htext hdepth
  have hend : behind.skipSpace.rest = [] := by
    rw [Cursor.skipSpace_rest, hrest, ← List.append_nil ws', List.dropWhile_append_of_pos hws']
    rfl
  rw [decodeText, hread]
  simp only [bind, Except.bind, hdecode n hn, hend]
  rfl

theorem decodeText_write {α : Type} {decode : Node → Except Fault α} {d : Document} {a : α}
    (hwhole : d.Whole) (hdepth : d.nesting ≤ nestingLimit)
    (hdecode : ∀ n : Node, n.Holds d → decode n = .ok a) : decodeText decode d.write = .ok a := by
  have htext : d.write.toList = [] ++ (d.write.toList ++ []) := by rw [List.append_nil]; rfl
  exact decodeText_spells (spells_write hwhole) blank_nil blank_nil htext hdepth hdecode

/-- A written text gives its document back, with the members of objects in order. -/
theorem Document.parse_write {d : Document} (hwhole : d.Whole) (hdepth : d.nesting ≤ nestingLimit) :
    Document.parse d.write = .ok d.sorted :=
  decodeText_write hwhole hdepth fun _ => Node.document_of_holds

end RuleTree.Json
