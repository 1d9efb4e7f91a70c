import Mathlib.Data.List.DropRight
import RuleTree.Proofs.Json.Reading
import RuleTree.Proofs.Outcome

/-! What decoding may rely on. A node that decodes to a document holds one, a finished document is held by its
node, and a list that goes on does not look closed. -/

namespace RuleTree.Json

/-! ### Outcomes of decoding -/

@[simp] theorem placeAt_eq_ok_iff {α : Type} {m : Mark} {r : Except Fault α} {a : α} :
    placeAt m r = .ok a ↔ r = .ok a := by
  cases r <;> simp [placeAt, Except.mapError]

@[simp] theorem Node.refuse_ne_ok {α : Type} (expected : String) (n : Node) (a : α) :
    (n.refuse expected : Except Fault α) ≠ .ok a := by
  obtain ⟨start, stop, content⟩ := n
  cases content <;> simp [Node.refuse]

theorem Node.text_eq_ok {n : Node} {s : String} (h : n.text = .ok s) : n.Holds (.text s) := by
  obtain ⟨start, stop, content⟩ := n
  cases content with
  | text t =>
    cases h
    exact .text
  | _ => simp [Node.text, Node.content] at h

theorem Node.text_eq_ok_iff {n : Node} {d : Document} {s : String} (hn : n.Holds d) :
    n.text = .ok s ↔ d = .text s := by
  constructor
  · intro h
    have hs := Node.text_eq_ok h
    cases hn <;> cases hs
    rfl
  · rintro rfl
    exact Node.text_of_holds hn

mutual

/-- A node that decodes to a document holds its members in the order of the text. -/
theorem Node.exists_holds : ∀ {n : Node} {d : Document}, n.document = .ok d →
    ∃ raw, n.Holds raw ∧ d = raw.sorted
  | .mk start stop content, d, h => by
    cases content with
    | null | flag | number | text =>
      cases h
      exact ⟨_, by constructor, rfl⟩
    | array items =>
      rw [Node.document, Content.document, bind_eq_ok_iff] at h
      obtain ⟨ds, hds, ⟨⟩⟩ := h
      obtain ⟨raws, hraws, rfl⟩ := Items.exists_hold hds
      exact ⟨.array raws, .array hraws, rfl⟩
    | object lead members =>
      rw [Node.document, Content.document, bind_eq_ok_iff] at h
      obtain ⟨ms, hms, ⟨⟩⟩ := h
      obtain ⟨raws, hraws, rfl⟩ := Members.exists_hold hms
      exact ⟨.object raws, .object hraws, rfl⟩
    | badText f | absent f | bad f => cases h

theorem Items.exists_hold : ∀ {items : Items} {ds : List Document}, items.documents = .ok ds →
    ∃ raws, items.Hold raws ∧ ds = Document.sortedItems raws
  | .nil _, _, h => by
    cases h
    exact ⟨[], .nil, rfl⟩
  | .bad _ _, _, h => by cases h
  | .cons _ head tail, ds, h => by
    rw [Items.documents, bind_eq_ok_iff] at h
    obtain ⟨d, hd, h⟩ := h
    obtain ⟨rest, hrest, ⟨⟩⟩ := bind_eq_ok_iff.1 h
    obtain ⟨raw, hraw, rfl⟩ := Node.exists_holds hd
    obtain ⟨raws, hraws, rfl⟩ := Items.exists_hold hrest
    exact ⟨raw :: raws, .cons hraw hraws, rfl⟩

theorem Members.exists_hold : ∀ {members : Members} {ms : List (String × Document)},
    members.documents = .ok ms → ∃ raws, members.Hold raws ∧ ms = Document.sortedMembers raws
  | .nil _, _, h => by
    cases h
    exact ⟨[], .nil, rfl⟩
  | .bad _ _, _, h => by cases h
  | .cons _ key _ value tail, ms, h => by
    rw [Members.documents, bind_eq_ok_iff] at h
    obtain ⟨d, hd, h⟩ := h
    obtain ⟨rest, hrest, ⟨⟩⟩ := bind_eq_ok_iff.1 h
    obtain ⟨raw, hraw, rfl⟩ := Node.exists_holds hd
    obtain ⟨raws, hraws, rfl⟩ := Members.exists_hold hrest
    exact ⟨(key, raw) :: raws, .cons hraw hraws, rfl⟩

end

mutual

/-- A finished document is held by its node. -/
theorem Node.holds_ofDocument : ∀ d : Document, (Node.ofDocument d).Holds d
  | .null | .flag _ | .number _ | .text _ => by constructor
  | .array items => .array (Items.hold_ofDocuments items.length items)
  | .object members => .object (Members.hold_ofDocuments members)

theorem Items.hold_ofDocuments (length : Nat) : ∀ ds : List Document,
    (Items.ofDocuments length ds).Hold ds
  | [] => .nil
  | d :: rest => .cons (Node.holds_ofDocument d) (Items.hold_ofDocuments length rest)

theorem Members.hold_ofDocuments : ∀ ms : List (String × Document),
    (Members.ofDocuments ms).Hold ms
  | [] => .nil
  | (_, d) :: rest => .cons (Node.holds_ofDocument d) (Members.hold_ofDocuments rest)

end

/-! ### Lists that go on -/

/-- Nothing but the end of a list lets its bracket close. -/
def Items.StaysOpen : Items → Prop
  | .nil _ => True
  | items => items.close.fault.isSome = true

mutual

/-- Behind the items of every list, its bracket closes at the end alone. -/
def Node.ClosesLast : Node → Prop
  | .mk _ _ content => content.ClosesLast

def Content.ClosesLast : Content → Prop
  | .array items => items.ClosesLast
  | .object _ members => members.ClosesLast
  | _ => True

def Items.ClosesLast : Items → Prop
  | .cons _ head tail => head.ClosesLast ∧ tail.StaysOpen ∧ tail.ClosesLast
  | _ => True

def Members.ClosesLast : Members → Prop
  | .cons _ _ _ value tail => value.ClosesLast ∧ tail.ClosesLast
  | _ => True

end

mutual

theorem Node.closesLast_ofDocument : ∀ d : Document, (Node.ofDocument d).ClosesLast
  | .null | .flag _ | .number _ | .text _ => trivial
  | .array items => (Items.closesLast_ofDocuments items.length items).2
  | .object members => Members.closesLast_ofDocuments members

theorem Items.closesLast_ofDocuments (length : Nat) : ∀ ds : List Document,
    (Items.ofDocuments length ds).StaysOpen ∧ (Items.ofDocuments length ds).ClosesLast
  | [] => ⟨trivial, trivial⟩
  | d :: rest => ⟨rfl, Node.closesLast_ofDocument d, Items.closesLast_ofDocuments length rest⟩

theorem Members.closesLast_ofDocuments : ∀ ms : List (String × Document),
    (Members.ofDocuments ms).ClosesLast
  | [] => trivial
  | (_, d) :: rest => ⟨Node.closesLast_ofDocument d, Members.closesLast_ofDocuments rest⟩

end

/-- A list stays open where it is not at its end. -/
theorem closeList_fault {c : Cursor} (h : c.skipSpace.rest.head? ≠ some ']') :
    (closeList c).fault.isSome = true := by
  unfold closeList
  dsimp only
  split
  · rfl
  · next hclose => exact absurd (by rw [hclose]; rfl) h
  · rfl
  · rfl

theorem Cursor.skipSpace_idem (c : Cursor) : c.skipSpace.skipSpace.rest = c.skipSpace.rest := by
  rw [skipSpace_rest, skipSpace_rest, List.dropWhile_idempotent]

theorem nextItem_bad {first : Bool} {c : Cursor} {f : Fault} (h : nextItem first c = .bad f) :
    c.skipSpace.rest.head? ≠ some ']' := by
  intro hclose
  obtain ⟨more, hmore⟩ := List.head?_eq_some_iff.1 hclose
  unfold nextItem at h
  dsimp only at h
  rw [hmore] at h
  cases h

/-- An item begins neither where the list stands at its end nor there itself with the end. -/
theorem nextItem_eq_part {first : Bool} {c front : Cursor} (h : nextItem first c = .part front) :
    c.skipSpace.rest.head? ≠ some ']' ∧ front.skipSpace.rest.head? ≠ some ']' := by
  unfold nextItem at h
  dsimp only at h
  split at h
  · cases h
  · cases h
  · next ch more hclose hrest =>
    have hhead : c.skipSpace.rest.head? ≠ some ']' := by
      rw [hrest]
      simpa using hclose
    refine ⟨hhead, ?_⟩
    cases first with
    | true =>
      cases h
      rwa [Cursor.skipSpace_idem]
    | false =>
      simp only [Bool.false_eq_true, if_false] at h
      split at h
      · split at h
        · cases h
        · cases h
        · next hend =>
          cases h
          rw [Cursor.skipSpace_idem]
          intro hbracket
          obtain ⟨more, hmore⟩ := List.head?_eq_some_iff.1 hbracket
          exact hend more hmore
      · cases h

theorem Node.closesLast_scalar {α : Type} {start : Mark} {broken : Fault → Content}
    {content : α → Content × Cursor} {r : Except Fault α} (hbroken : ∀ f, (broken f).ClosesLast)
    (hcontent : ∀ a, (content a).1.ClosesLast) :
    (Node.scalar start broken (r.map content)).1.ClosesLast := by
  cases r with
  | ok a => exact hcontent a
  | error f => exact hbroken f

mutual

theorem Node.closesLast_read : ∀ (fuel depth : Nat) (c : Cursor),
    (Node.read fuel depth c).1.ClosesLast
  | 0, _, _ => trivial
  | fuel + 1, depth, c => by
    unfold Node.read
    dsimp only
    split
    · trivial
    · exact Node.closesLast_scalar (fun _ => trivial) fun _ => trivial
    · exact Node.closesLast_scalar (fun _ => trivial) fun _ => trivial
    · exact Node.closesLast_scalar (fun _ => trivial) fun _ => trivial
    · exact Node.closesLast_scalar (fun _ => trivial) fun _ => trivial
    · cases depth with
      | zero => trivial
      | succ depth => exact (Items.closesLast_read fuel depth true c.skipSpace.next).2
    · cases depth with
      | zero => trivial
      | succ depth => exact Members.closesLast_read fuel depth true c.skipSpace.next
    · split
      · exact Node.closesLast_scalar (fun _ => trivial) fun _ => trivial
      · trivial

theorem Items.closesLast_read : ∀ (fuel depth : Nat) (first : Bool) (c : Cursor),
    (Items.read fuel depth first c).1.StaysOpen ∧ (Items.read fuel depth first c).1.ClosesLast
  | 0, _, _, _ => ⟨rfl, trivial⟩
  | fuel + 1, depth, first, c => by
    cases h : nextItem first c with
    | stop behind =>
      simp only [Items.read, h]
      exact ⟨trivial, trivial⟩
    | bad f =>
      simp only [Items.read, h]
      exact ⟨closeList_fault (nextItem_bad h), trivial⟩
    | part front =>
      obtain ⟨hend, hfront⟩ := nextItem_eq_part h
      have hhead := Node.closesLast_read fuel depth front
      simp only [Items.read, h]
      split
      · next behind _ =>
        exact ⟨closeList_fault hend, hhead, Items.closesLast_read fuel depth false behind⟩
      · exact ⟨closeList_fault hend, hhead, closeList_fault hfront, trivial⟩

theorem Members.closesLast_read : ∀ (fuel depth : Nat) (first : Bool) (c : Cursor),
    (Members.read fuel depth first c).1.ClosesLast
  | 0, _, _, _ => trivial
  | fuel + 1, depth, first, c => by
    unfold Members.read
    split
    · trivial
    · trivial
    · next front h =>
      split
      · trivial
      · next key behindKey hkey =>
        dsimp only
        split
        · exact ⟨trivial, trivial⟩
        · next value hcolon =>
          have hvalue := Node.closesLast_read fuel depth value
          split
          · exact ⟨hvalue, trivial⟩
          · next behind hbehind => exact ⟨hvalue, Members.closesLast_read fuel depth false behind⟩

end

/-! ### Whole texts -/

/-- The value at the front of a text, as it is met. -/
def Node.ofText (text : String) : Node :=
  (Node.read (2 * text.length + 2) nestingLimit (.ofText text)).1

/-- Nothing but space follows the value of the text. -/
def EndsWithValue (text : String) : Prop :=
  ∃ c, (Node.read (2 * text.length + 2) nestingLimit (.ofText text)).2 = some c ∧
    c.skipSpace.rest = []

theorem Node.closesLast_ofText (text : String) : (Node.ofText text).ClosesLast :=
  Node.closesLast_read _ _ _

/-- Every decoder asks the same of a text beside what it asks of the value. -/
theorem decodeText_eq_ok_iff {α : Type} {decode : Node → Except Fault α} {text : String} {a : α} :
    decodeText decode text = .ok a ↔ decode (Node.ofText text) = .ok a ∧ EndsWithValue text := by
  unfold decodeText Node.ofText EndsWithValue
  obtain ⟨n, stop⟩ := Node.read (2 * text.length + 2) nestingLimit (.ofText text)
  rw [bind_eq_ok_iff]
  cases stop with
  | none => simp [throw, throwThe, MonadExceptOf.throw]
  | some c =>
    simp only [Option.some.injEq, exists_eq_left', List.isEmpty_iff]
    generalize c.skipSpace = behind
    split
    · next hend => simp [hend, pure, Except.pure]
    · next hend => simp [hend, throw, throwThe, MonadExceptOf.throw]

theorem Document.parse_eq_ok_iff {text : String} {d : Document} :
    Document.parse text = .ok d ↔
      (∃ raw, (Node.ofText text).Holds raw ∧ d = raw.sorted) ∧ EndsWithValue text := by
  rw [Document.parse, decodeText_eq_ok_iff]
  refine and_congr_left fun _ => ⟨Node.exists_holds, ?_⟩
  rintro ⟨raw, hraw, rfl⟩
  exact Node.document_of_holds hraw

end RuleTree.Json
