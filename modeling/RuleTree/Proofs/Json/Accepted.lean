import RuleTree.Proofs.Json.Nodes

/-! Which texts are read as documents: just those that spell one within the limit of nesting, with space before it and
behind it. So space at the end of a text does not matter, and texts that stand between the brackets of an array, with
commas between them, are read as its items. -/

namespace RuleTree.Json

/-! ### Between the parts of a bracket -/

theorem exists_blank (c : Cursor) : ∃ ws, Blank ws ∧ c.rest = ws ++ c.skipSpace.rest := by
  refine ⟨c.rest.takeWhile Cursor.isSpace, fun ch hch => List.mem_takeWhile_imp hch, ?_⟩
  rw [Cursor.skipSpace_rest, List.takeWhile_append_dropWhile]

theorem blank_of_skipSpace {c : Cursor} (h : c.skipSpace.rest = []) : Blank c.rest := by
  obtain ⟨ws, hws, hc⟩ := exists_blank c
  rwa [hc, h, List.append_nil]

theorem nextItem_eq_stop {first : Bool} {c behind : Cursor} (h : nextItem first c = .stop behind) :
    ∃ ws, Blank ws ∧ c.rest = ws ++ ']' :: behind.rest := by
  obtain ⟨ws, hws, hc⟩ := exists_blank c
  unfold nextItem at h
  dsimp only at h
  split at h
  · cases h
  · next more hclose =>
    cases h
    exact ⟨ws, hws, by rw [Cursor.next_rest_of_cons hclose, hc, hclose]⟩
  · split at h
    · cases h
    · split at h
      · split at h <;> cases h
      · cases h

/-- An item stands behind what leads to it. -/
theorem nextItem_leads {first : Bool} {c front : Cursor} (h : nextItem first c = .part front) :
    front.skipSpace.rest = front.rest ∧ ∃ lead, Leads first lead ∧ c.rest = lead ++ front.rest := by
  obtain ⟨ws, hws, hc⟩ := exists_blank c
  unfold nextItem at h
  dsimp only at h
  split at h
  · cases h
  · cases h
  · next ch more _ hrest =>
    cases first with
    | true =>
      cases h
      exact ⟨c.skipSpace_idem, ws, hws, hc⟩
    | false =>
      simp only [Bool.false_eq_true, if_false] at h
      split at h
      · next hcomma =>
        obtain ⟨ws', hws', hnext⟩ := exists_blank c.skipSpace.next
        split at h
        · cases h
        · cases h
        · cases h
          refine ⟨c.skipSpace.next.skipSpace_idem, ws ++ ',' :: ws', ⟨ws, ws', hws, hws', rfl⟩, ?_⟩
          rw [Cursor.next_rest_of_cons hrest] at hnext
          rw [hc, hrest, hcomma, hnext, List.append_assoc, List.cons_append]
      · cases h

theorem nextMember_eq_stop {first : Bool} {c behind : Cursor} (h : nextMember first c = .stop behind) :
    ∃ ws, Blank ws ∧ c.rest = ws ++ '\x7d' :: behind.rest := by
  obtain ⟨ws, hws, hc⟩ := exists_blank c
  unfold nextMember at h
  dsimp only at h
  split at h
  · cases h
  · next more hclose =>
    cases h
    exact ⟨ws, hws, by rw [Cursor.next_rest_of_cons hclose, hc, hclose]⟩
  · split at h
    · split at h <;> cases h
    · split at h
      · split at h <;> cases h
      · cases h

/-- A member stands behind what leads to it, with the quote of its key. -/
theorem nextMember_leads {first : Bool} {c front : Cursor} (h : nextMember first c = .part front) :
    ∃ lead, Leads first lead ∧ c.rest = lead ++ '"' :: front.next.rest := by
  obtain ⟨ws, hws, hc⟩ := exists_blank c
  unfold nextMember at h
  dsimp only at h
  split at h
  · cases h
  · cases h
  · next ch more _ hrest =>
    cases first with
    | true =>
      simp only [if_true] at h
      split at h
      · next hquote =>
        cases h
        exact ⟨ws, hws, by rw [Cursor.next_rest_of_cons hrest, hc, hrest, hquote]⟩
      · cases h
    | false =>
      simp only [Bool.false_eq_true, if_false] at h
      split at h
      · next hcomma =>
        obtain ⟨ws', hws', hnext⟩ := exists_blank c.skipSpace.next
        split at h
        · cases h
        · next key hkey =>
          cases h
          refine ⟨ws ++ ',' :: ws', ⟨ws, ws', hws, hws', rfl⟩, ?_⟩
          rw [Cursor.next_rest_of_cons hrest, hkey] at hnext
          rw [Cursor.next_rest_of_cons hkey, hc, hrest, hcomma, hnext, List.append_assoc, List.cons_append]
        · cases h
        · cases h
      · cases h

theorem expectColon_eq_ok {c front : Cursor} (h : expectColon c = .ok front) :
    ∃ ws, Blank ws ∧ c.rest = ws ++ ':' :: front.rest := by
  obtain ⟨ws, hws, hc⟩ := exists_blank c
  unfold expectColon at h
  dsimp only at h
  split at h
  · cases h
  · next more hcolon =>
    cases h
    exact ⟨ws, hws, by rw [Cursor.next_rest_of_cons hcolon, hc, hcolon]⟩
  · cases h

/-! ### What was read spells what is held -/

theorem Node.not_holds_bad {start stop : Mark} {f : Fault} {d : Document} :
    ¬ (Node.mk start stop (.bad f)).Holds d := nofun

theorem Node.not_holds_badText {start stop : Mark} {f : Fault} {d : Document} :
    ¬ (Node.mk start stop (.badText f)).Holds d := nofun

theorem Node.holds_scalar {α : Type} {start : Mark} {broken : Fault → Content}
    {content : α → Content × Cursor} {r : Except Fault α} {n : Node} {stop : Option Cursor} {d : Document}
    (h : Node.scalar start broken (r.map content) = (n, stop))
    (hbroken : ∀ f, ¬ (Node.mk start none (broken f)).Holds d) (hn : n.Holds d) :
    ∃ a, r = .ok a ∧ stop = some (content a).2 ∧
      (Node.mk start (some (content a).2.place) (content a).1).Holds d := by
  cases r with
  | ok a =>
    cases h
    exact ⟨a, rfl, rfl, hn⟩
  | error f =>
    cases h
    exact absurd hn (hbroken f)

theorem spells_word {c behind : Cursor} {ch : Char} {word more : List Char} {d : Document}
    (hc : c.rest = ch :: more) (hword : expectWord c.next word = .ok behind) (hd : Spells (ch :: word) d)
    (hnesting : d.nesting = 0) (depth : Nat) :
    ∃ t after, some behind = some after ∧ c.rest = t ++ after.rest ∧ Spells t d ∧ d.nesting ≤ depth := by
  have hrest := expectWord_eq_ok hword
  rw [Cursor.next_rest_of_cons hc] at hrest
  exact ⟨ch :: word, behind, rfl, by rw [hc, hrest]; rfl, hd, hnesting ▸ Nat.zero_le depth⟩

mutual

theorem Node.spells_read : ∀ (fuel depth : Nat) (c : Cursor) {n : Node} {stop : Option Cursor}
    {d : Document}, Node.read fuel depth c = (n, stop) → n.Holds d →
      ∃ t behind, stop = some behind ∧ c.skipSpace.rest = t ++ behind.rest ∧ Spells t d ∧
        d.nesting ≤ depth
  | 0, _, _, _, _, _, h, hn => by
    cases h
    cases hn
  | fuel + 1, depth, c, n, stop, d, h, hn => by
    unfold Node.read at h
    dsimp only at h
    split at h
    · cases h
      cases hn
    · next more hc =>
      obtain ⟨behind, hword, rfl, hd⟩ := Node.holds_scalar h (fun _ => Node.not_holds_bad) hn
      cases hd
      exact spells_word hc hword .null rfl depth
    · next more hc =>
      obtain ⟨behind, hword, rfl, hd⟩ := Node.holds_scalar h (fun _ => Node.not_holds_bad) hn
      cases hd
      exact spells_word hc hword .yes rfl depth
    · next more hc =>
      obtain ⟨behind, hword, rfl, hd⟩ := Node.holds_scalar h (fun _ => Node.not_holds_bad) hn
      cases hd
      exact spells_word hc hword .no rfl depth
    · next more hc =>
      obtain ⟨⟨s, behind⟩, hread, rfl, hd⟩ := Node.holds_scalar h (fun _ => Node.not_holds_badText) hn
      cases hd
      obtain ⟨t, ht, -, htakes⟩ := readText_takes hread
      rw [Cursor.next_rest_of_cons hc] at ht
      exact ⟨'"' :: t, behind, rfl, by rw [hc, ht]; rfl, .text htakes, Nat.zero_le depth⟩
    · next more hc =>
      cases depth with
      | zero =>
        cases h
        cases hn with
        | array hitems => cases hitems
      | succ depth =>
        cases h
        cases hn with
        | array hitems =>
          obtain ⟨t, behind, hstop, ht, hspells, hnesting⟩ :=
            Items.spells_read fuel depth true c.skipSpace.next rfl hitems
          rw [Cursor.next_rest_of_cons hc] at ht
          refine ⟨'[' :: t, behind, hstop, by rw [hc, ht]; rfl, .array hspells, ?_⟩
          rw [Document.nesting]
          omega
    · next more hc =>
      cases depth with
      | zero =>
        cases h
        cases hn with
        | object hmembers => cases hmembers
      | succ depth =>
        cases h
        cases hn with
        | object hmembers =>
          obtain ⟨t, behind, hstop, ht, hspells, hnesting⟩ :=
            Members.spells_read fuel depth true c.skipSpace.next rfl hmembers
          rw [Cursor.next_rest_of_cons hc] at ht
          refine ⟨'\x7b' :: t, behind, hstop, by rw [hc, ht]; rfl, .object hspells, ?_⟩
          rw [Document.nesting]
          omega
    · split at h
      · obtain ⟨⟨m, behind⟩, hread, rfl, hd⟩ := Node.holds_scalar h (fun _ => Node.not_holds_bad) hn
        cases hd
        obtain ⟨d, u, -, -, hsplit, htakes⟩ := readNumeral_takes hread
        exact ⟨d :: u, behind, rfl, hsplit, .number htakes, Nat.zero_le depth⟩
      · cases h
        cases hn

theorem Items.spells_read : ∀ (fuel depth : Nat) (first : Bool) (c : Cursor) {items : Items}
    {stop : Option Cursor} {ds : List Document}, Items.read fuel depth first c = (items, stop) →
      items.Hold ds → ∃ t behind, stop = some behind ∧ c.rest = t ++ behind.rest ∧
        SpellsItems first t ds ∧ Document.nestingItems ds ≤ depth
  | 0, _, _, _, _, _, _, h, hitems => by
    cases h
    cases hitems
  | fuel + 1, depth, first, c, items, stop, ds, h, hitems => by
    unfold Items.read at h
    split at h
    · next behind hend =>
      cases h
      cases hitems
      obtain ⟨ws, hws, hc⟩ := nextItem_eq_stop hend
      exact ⟨ws ++ [']'], behind, rfl, by rw [hc]; simp, .nil hws, Nat.zero_le depth⟩
    · cases h
      cases hitems
    · next front hpart =>
      obtain ⟨hfront, lead, hlead, hc⟩ := nextItem_leads hpart
      cases hhead : Node.read fuel depth front with
      | mk head stop' =>
        rw [hhead] at h
        dsimp only at h
        split at h
        · next behind =>
          cases h
          cases hitems with
          | cons hd hds =>
            obtain ⟨t, _, ⟨⟩, ht, hspells, hnesting⟩ := Node.spells_read fuel depth front hhead hd
            obtain ⟨u, after, hstop, hu, hspells', hnesting'⟩ :=
              Items.spells_read fuel depth false behind rfl hds
            rw [hfront] at ht
            refine ⟨lead ++ (t ++ u), after, hstop, by rw [hc, ht, hu]; simp,
              .cons hlead hspells hspells', max_le hnesting hnesting'⟩
        · cases h
          cases hitems with
          | cons _ hds => cases hds

theorem Members.spells_read : ∀ (fuel depth : Nat) (first : Bool) (c : Cursor) {members : Members}
    {stop : Option Cursor} {ms : List (String × Document)},
      Members.read fuel depth first c = (members, stop) → members.Hold ms →
        ∃ t behind, stop = some behind ∧ c.rest = t ++ behind.rest ∧ SpellsMembers first t ms ∧
          Document.nestingMembers ms ≤ depth
  | 0, _, _, _, _, _, _, h, hmembers => by
    cases h
    cases hmembers
  | fuel + 1, depth, first, c, members, stop, ms, h, hmembers => by
    unfold Members.read at h
    split at h
    · next behind hend =>
      cases h
      cases hmembers
      obtain ⟨ws, hws, hc⟩ := nextMember_eq_stop hend
      exact ⟨ws ++ ['\x7d'], behind, rfl, by rw [hc]; simp, .nil hws, Nat.zero_le depth⟩
    · cases h
      cases hmembers
    · next front hpart =>
      obtain ⟨lead, hlead, hc⟩ := nextMember_leads hpart
      split at h
      · cases h
        cases hmembers
      · next key behindKey hkey =>
        obtain ⟨k, hk, -, htakes⟩ := readText_takes hkey
        dsimp only at h
        split at h
        · cases h
          cases hmembers with
          | cons _ hms => cases hms
        · next value hcolon =>
          obtain ⟨ws, hws, hbehindKey⟩ := expectColon_eq_ok hcolon
          obtain ⟨ws', hws', hvalue⟩ := exists_blank value
          cases hnode : Node.read fuel depth value with
          | mk node stop' =>
            rw [hnode] at h
            dsimp only at h
            split at h
            · cases h
              cases hmembers with
              | cons _ hms => cases hms
            · next behind hbehind =>
              cases h
              cases hmembers with
              | cons hd hms =>
                obtain ⟨t, _, rfl, ht, hspells, hnesting⟩ := Node.spells_read fuel depth value hnode hd
                cases hbehind
                obtain ⟨u, after, hstop, hu, hspells', hnesting'⟩ :=
                  Members.spells_read fuel depth false behind rfl hms
                refine ⟨lead ++ '"' :: (k ++ (ws ++ ':' :: (ws' ++ (t ++ u)))), after, hstop, ?_,
                  .cons hlead htakes hws hws' hspells hspells', max_le hnesting hnesting'⟩
                rw [hc, hk, hbehindKey, hvalue, ht, hu]
                simp

end

/-! ### Whole texts -/

/-- The text spells the document, with space before it and behind it. -/
def SpellsText (text : List Char) (d : Document) : Prop :=
  ∃ ws t ws', text = ws ++ (t ++ ws') ∧ Blank ws ∧ Blank ws' ∧ Spells t d

theorem spellsText_of_holds {text : String} {raw : Document} (h : (Node.ofText text).Holds raw)
    (hend : EndsWithValue text) : SpellsText text.toList raw ∧ raw.nesting ≤ nestingLimit := by
  obtain ⟨behind, hstop, hend⟩ := hend
  obtain ⟨t, _, hstop', ht, hspells, hnesting⟩ := Node.spells_read _ _ _ rfl h
  cases hstop.symm.trans hstop'
  obtain ⟨ws, hws, hc⟩ := exists_blank (.ofText text)
  refine ⟨⟨ws, t, behind.rest, ?_, hws, blank_of_skipSpace hend, hspells⟩, hnesting⟩
  rw [← ht, ← hc]
  rfl

theorem SpellsText.holds {text : String} {raw : Document} (h : SpellsText text.toList raw)
    (hnesting : raw.nesting ≤ nestingLimit) : (Node.ofText text).Holds raw := by
  obtain ⟨ws, t, ws', htext, hws, hws', hspells⟩ := h
  obtain ⟨n, behind, hread, -, hn⟩ := reads_spells hspells hws hws' htext hnesting
  rwa [Node.ofText, hread]

/-- A text is read as a document just where it spells one, the members of objects then being put in order. -/
theorem Document.parse_eq_ok_iff_spells {text : String} {d : Document} :
    Document.parse text = .ok d ↔
      ∃ raw, SpellsText text.toList raw ∧ raw.nesting ≤ nestingLimit ∧ d = raw.sorted := by
  constructor
  · intro h
    obtain ⟨⟨raw, hraw, hd⟩, hend⟩ := Document.parse_eq_ok_iff.1 h
    obtain ⟨hspells, hnesting⟩ := spellsText_of_holds hraw hend
    exact ⟨raw, hspells, hnesting, hd⟩
  · rintro ⟨raw, ⟨ws, t, ws', htext, hws, hws', hspells⟩, hnesting, rfl⟩
    exact decodeText_spells hspells hws hws' htext hnesting fun _ => Node.document_of_holds

/-! ### Space at the end -/

theorem SpellsItems.last : ∀ {first : Bool} {t : List Char} {ds : List Document}, SpellsItems first t ds →
    t.getLast? = some ']'
  | _, _, _, .nil _ => List.getLast?_concat
  | _, _, _, .cons _ _ hds => by
    have hlast := SpellsItems.last hds
    rw [List.getLast?_append, List.getLast?_append, hlast]
    rfl

theorem SpellsMembers.last : ∀ {first : Bool} {t : List Char} {ms : List (String × Document)},
    SpellsMembers first t ms → t.getLast? = some '\x7d'
  | _, _, _, .nil _ => List.getLast?_concat
  | _, _, _, .cons _ _ _ _ _ hms => by
    have hlast := SpellsMembers.last hms
    simp [List.getLast?_append, List.getLast?_cons, hlast]

/-- A spelling ends in a character that is not space. -/
theorem Spells.last {t : List Char} {d : Document} (h : Spells t d) :
    ∃ ch, t.getLast? = some ch ∧ Cursor.isSpace ch = false := by
  cases h with
  | null | yes | no => exact ⟨_, rfl, by decide⟩
  | number hn =>
    obtain ⟨ch, u, ht, -, hsolid⟩ := hn.numeral_head
    obtain ⟨last, hlast⟩ : ∃ last, t.getLast? = some last := by
      rw [ht]
      exact ⟨_, List.getLast?_cons⟩
    exact ⟨last, hlast, hsolid last (List.mem_of_getLast? hlast)⟩
  | text ht => exact ⟨'"', by rw [List.getLast?_cons, ht.text_last]; rfl, rfl⟩
  | array hds => exact ⟨']', by rw [List.getLast?_cons, hds.last]; rfl, rfl⟩
  | object hms => exact ⟨'\x7d', by rw [List.getLast?_cons, hms.last]; rfl, rfl⟩

theorem spellsText_append_space {text sp : List Char} {d : Document} (hsp : Blank sp) :
    SpellsText (text ++ sp) d ↔ SpellsText text d := by
  constructor
  · rintro ⟨ws, t, ws', htext, hws, hws', hspells⟩
    rw [← List.append_assoc] at htext
    rcases List.append_eq_append_iff.1 htext with ⟨left, hleft, hsplit⟩ | ⟨more, hmore, hsplit⟩
    · -- the value would reach into the space
      obtain ⟨ch, hlast, hspace⟩ := hspells.last
      cases left using List.reverseRecOn with
      | nil => exact ⟨ws, t, [], by rw [← List.append_assoc, List.append_nil, hleft, List.append_nil],
          hws, blank_nil, hspells⟩
      | append_singleton left e =>
        have hend := congrArg List.getLast? hleft
        rw [List.getLast?_append, hlast, ← List.append_assoc, List.getLast?_concat] at hend
        cases hend
        have hblank := hsp ch (by rw [hsplit]; simp)
        rw [hspace] at hblank
        cases hblank
    · refine ⟨ws, t, more, by rw [hmore, List.append_assoc], hws, fun ch hch => ?_, hspells⟩
      exact hws' ch (by rw [hsplit]; exact List.mem_append_left _ hch)
  · rintro ⟨ws, t, ws', rfl, hws, hws', hspells⟩
    exact ⟨ws, t, ws' ++ sp, by simp, hws, List.forall_mem_append.2 ⟨hws', hsp⟩, hspells⟩

theorem Document.parse_append_space {text text' : String} {sp : List Char} {d : Document} (hsp : Blank sp)
    (h : text'.toList = text.toList ++ sp) : Document.parse text' = .ok d ↔ Document.parse text = .ok d := by
  rw [Document.parse_eq_ok_iff_spells, Document.parse_eq_ok_iff_spells, h]
  simp only [spellsText_append_space hsp]

/-! ### Arrays of texts -/

/-- The text is read as the document, and opens no more brackets at once than `depth`, not even for members that
later ones of their key replace. -/
structure ParsesWithin (depth : Nat) (text : String) (d : Document) : Prop where
  parse : Document.parse text = .ok d
  nesting : ∃ raw, (Node.ofText text).Holds raw ∧ raw.nesting ≤ depth

theorem parsesWithin_iff_spells {depth : Nat} {text : String} {d : Document} (hdepth : depth ≤ nestingLimit) :
    ParsesWithin depth text d ↔
      ∃ raw, SpellsText text.toList raw ∧ raw.nesting ≤ depth ∧ d = raw.sorted := by
  constructor
  · rintro ⟨hparse, raw, hraw, hnesting⟩
    obtain ⟨hdocument, hend⟩ := decodeText_eq_ok_iff.1 hparse
    rw [Node.document_of_holds hraw] at hdocument
    cases hdocument
    exact ⟨raw, (spellsText_of_holds hraw hend).1, hnesting, rfl⟩
  · rintro ⟨raw, hspells, hnesting, rfl⟩
    have hlimit := hnesting.trans hdepth
    exact ⟨Document.parse_eq_ok_iff_spells.2 ⟨raw, hspells, hlimit, rfl⟩, raw, hspells.holds hlimit, hnesting⟩

/-- A written text nests as its document does. -/
theorem Document.parsesWithin_write {d : Document} {depth : Nat} (hwhole : d.Whole) (hnesting : d.nesting ≤ depth)
    (hdepth : depth ≤ nestingLimit) : ParsesWithin depth d.write d.sorted := by
  have htext : d.write.toList = [] ++ (d.write.toList ++ []) := by simp
  exact (parsesWithin_iff_spells hdepth).2
    ⟨d, ⟨[], _, [], htext, blank_nil, blank_nil, spells_write hwhole⟩, hnesting, rfl⟩

theorem spellsItems_parts {texts : List String} {ds : List Document}
    (h : List.Forall₂ (fun text d => SpellsText text.toList d) texts ds) {sp : List Char} (hsp : Blank sp) :
    SpellsItems false (sp ++ commaParts texts ']') ds := by
  induction h generalizing sp with
  | nil => exact .nil hsp
  | @cons text d texts ds htext _ ih =>
    obtain ⟨ws, t, ws', htext, hws, hws', hspells⟩ := htext
    have hlead : Leads false (sp ++ ',' :: ws) := ⟨sp, ws, hsp, hws, rfl⟩
    have hds := SpellsItems.cons hlead hspells (ih hws')
    simpa [commaParts, htext] using hds

/-- Texts between brackets spell the documents that they spell alone. -/
theorem spells_writeArray {texts : List String} {ds : List Document}
    (h : List.Forall₂ (fun text d => SpellsText text.toList d) texts ds) :
    Spells (writeArray texts).toList (.array ds) := by
  cases h with
  | nil => exact .array (.nil blank_nil)
  | cons htext hrest =>
    obtain ⟨ws, t, ws', htext, hws, hws', hspells⟩ := htext
    have hlead : Leads true ws := hws
    have hds := SpellsItems.cons hlead hspells (spellsItems_parts hrest hws')
    rw [writeArray_cons, htext, List.append_assoc, List.append_assoc]
    exact .array hds

theorem exists_spelled {depth : Nat} (hdepth : depth ≤ nestingLimit) {texts : List String}
    {docs : List Document} (h : List.Forall₂ (ParsesWithin depth) texts docs) :
    ∃ raws, List.Forall₂ (fun text raw => SpellsText text.toList raw) texts raws ∧
      Document.nestingItems raws ≤ depth ∧ docs = Document.sortedItems raws := by
  induction h with
  | nil => exact ⟨[], .nil, Nat.zero_le depth, rfl⟩
  | cons htext _ ih =>
    obtain ⟨raw, hspells, hnesting, rfl⟩ := (parsesWithin_iff_spells hdepth).1 htext
    obtain ⟨raws, hraws, hnesting', rfl⟩ := ih
    exact ⟨raw :: raws, .cons hspells hraws, max_le hnesting hnesting', rfl⟩

/-- An array of texts is read as the array of their documents, where one more bracket may be opened. -/
theorem Document.parse_writeArray {texts : List String} {docs : List Document} {depth : Nat}
    (h : List.Forall₂ (ParsesWithin depth) texts docs) (hdepth : depth < nestingLimit) :
    Document.parse (writeArray texts) = .ok (.array docs) := by
  obtain ⟨raws, hraws, hnesting, rfl⟩ := exists_spelled hdepth.le h
  have hwhole : (Document.array raws).nesting ≤ nestingLimit := by
    rw [Document.nesting]
    omega
  have htext : (writeArray texts).toList = [] ++ ((writeArray texts).toList ++ []) := by simp
  exact Document.parse_eq_ok_iff_spells.2
    ⟨.array raws, ⟨[], _, [], htext, blank_nil, blank_nil, spells_writeArray hraws⟩, hwhole, rfl⟩

end RuleTree.Json
