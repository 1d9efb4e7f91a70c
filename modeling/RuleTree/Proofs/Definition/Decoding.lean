import RuleTree.Proofs.Definition.Grammar
import RuleTree.Proofs.Json.Nodes

/-! Decoding accepts the descriptions and builds what they denote. -/

namespace RuleTree

open Json

/-! ### Leaves -/

theorem Operator.decode_eq_ok_iff {n : Node} {d : Document} {op : Operator} (hn : n.Holds d) :
    Operator.decode n = .ok op ↔ Operator.Named d op := by
  unfold decode Named
  simp only [bind_eq_ok_iff, Node.text_eq_ok_iff hn, ← parse?_eq_some_iff]
  refine exists_congr fun s => and_congr_right fun _ => ?_
  cases Operator.parse? s <;> simp [pure, Except.pure, throw, throwThe, MonadExceptOf.throw]

theorem Connective.decode_eq_ok_iff {n : Node} {d : Document} {c : Connective} (hn : n.Holds d) :
    Connective.decode n = .ok c ↔ Connective.Named d c := by
  unfold decode Named
  simp only [bind_eq_ok_iff, Node.text_eq_ok_iff hn, ← parse?_eq_some_iff]
  refine exists_congr fun s => and_congr_right fun _ => ?_
  cases Connective.parse? s <;> simp [pure, Except.pure, throw, throwThe, MonadExceptOf.throw]

mutual

theorem Operand.ofDocument?_eq_some_iff : ∀ (d : Document) {o : Operand},
    Operand.ofDocument? d.sorted = some o ↔ Operand.Described d o
  | .null, o => by
    constructor
    · rintro ⟨⟩
      exact .null
    · rintro ⟨⟩
      rfl
  | .flag b, o => by
    constructor
    · rintro ⟨⟩
      exact .flag
    · rintro ⟨⟩
      rfl
  | .number n, o => by
    constructor
    · rintro ⟨⟩
      exact .number
    · rintro ⟨⟩
      rfl
  | .text s, o => by
    constructor
    · rintro ⟨⟩
      exact .text
    · rintro ⟨⟩
      rfl
  | .array ds, o => by
    rw [Document.sorted, Operand.ofDocument?, Option.map_eq_some_iff]
    constructor
    · rintro ⟨os, hos, rfl⟩
      exact .list ((Operand.ofDocuments?_eq_some_iff ds).1 hos)
    · rintro ⟨h⟩
      exact ⟨_, (Operand.ofDocuments?_eq_some_iff ds).2 ‹_›, rfl⟩
  | .object ms, o => by
    constructor <;> rintro ⟨⟩

theorem Operand.ofDocuments?_eq_some_iff : ∀ (ds : List Document) {os : List Operand},
    Operand.ofDocuments? (Document.sortedItems ds) = some os ↔ List.Forall₂ Operand.Described ds os
  | [], os => by simp [Document.sortedItems, Operand.ofDocuments?, eq_comm]
  | d :: rest, os => by
    simp only [Document.sortedItems, Operand.ofDocuments?, List.forall₂_cons_left_iff,
      Option.bind_eq_bind, Option.bind_eq_some_iff, Operand.ofDocument?_eq_some_iff d,
      Operand.ofDocuments?_eq_some_iff rest, Option.pure_def, Option.some.injEq]
    grind

end

theorem Operand.decode_eq_ok_iff {n : Node} {d : Document} {o : Operand} (hn : n.Holds d) :
    Operand.decode n = .ok o ↔ Operand.Described d o := by
  rw [decode, Node.document_of_holds hn, ← ofDocument?_eq_some_iff]
  simp only [bind, Except.bind]
  cases Operand.ofDocument? d.sorted <;>
    simp [pure, Except.pure, throw, throwThe, MonadExceptOf.throw]

/-! ### Members by name -/

/-- A member found at most once among the given values: what it is then, if `a?` is what it was. -/
def Fills {α : Type} (R : Document → α → Prop) (a? : Option α) : List Document → Option α → Prop
  | [], b? => b? = a?
  | d :: rest, b? => a? = none ∧ ∃ a, R d a ∧ Fills R (some a) rest b?

theorem fills_none_iff {α : Type} {R : Document → α → Prop} {ds : List Document} {b? : Option α} :
    Fills R none ds b? ↔ ds = [] ∧ b? = none ∨ ∃ d a, ds = [d] ∧ R d a ∧ b? = some a := by
  cases ds with
  | nil => simp [Fills]
  | cons d rest =>
    cases rest with
    | nil => simp [Fills]
    | cons d' rest => simp [Fills]

namespace Slot

theorem given_cons (s : Slot) (k : String) (d : Document) (ms : List (String × Document)) :
    s.given ((k, d) :: ms) = if k ∈ s.names then d :: s.given ms else s.given ms := by
  by_cases h : k ∈ s.names <;> simp [given, h]

variable {α : Type} (R : Document → α → Prop) (s : Slot) (ms : List (String × Document)) (a : α)

/-- A member without default has to be given. -/
theorem takes_iff_fills (hs : s.default? = none) :
    (∃ d, s.Takes ms d ∧ R d a) ↔ Fills R none (s.given ms) (some a) := by
  simp [fills_none_iff, Takes, hs]

/-- A member with a default is what is given, or the default. -/
theorem takes_iff_fills_getD {e : Document} {b : α} (hs : s.default? = some e)
    (he : ∀ a, R e a ↔ a = b) :
    (∃ d, s.Takes ms d ∧ R d a) ↔ ∃ a?, Fills R none (s.given ms) a? ∧ a?.getD b = a := by
  simp only [fills_none_iff, Takes, hs]
  constructor
  · rintro ⟨d, hd | ⟨hnone, ⟨⟩⟩, ha⟩
    · exact ⟨some a, .inr ⟨d, a, hd, ha, rfl⟩, rfl⟩
    · exact ⟨none, .inl ⟨hnone, rfl⟩, ((he a).1 ha).symm⟩
  · rintro ⟨_, ⟨hnone, rfl⟩ | ⟨d, a', hd, ha, rfl⟩, rfl⟩
    · exact ⟨e, .inr ⟨hnone, rfl⟩, (he b).2 rfl⟩
    · exact ⟨d, .inl hd, ha⟩

end Slot

theorem RuleMember.ofKey?_eq_some_iff {k : String} {m : RuleMember} :
    ofKey? k = some m ↔ k ∈ m.slot.names := by
  unfold ofKey?
  split <;> cases m <;> simp_all [slot, connectiveSlot]

/-! ### Rules -/

/-- The document is this very text. -/
def IsText (d : Document) (s : String) : Prop := d = .text s

/-- What is read of a rule once the members of an object are read as well. -/
structure PartialRule.Takes (p : PartialRule) (ms : List (String × Document)) (q : PartialRule) :
    Prop where
  field : Fills IsText p.field? (RuleMember.field.slot.given ms) q.field?
  operator : Fills Operator.Named p.operator? (RuleMember.operator.slot.given ms) q.operator?
  operand : Fills Operand.Described p.operand? (RuleMember.operand.slot.given ms) q.operand?
  connective :
    Fills Connective.Named p.connective? (RuleMember.connective.slot.given ms) q.connective?

theorem PartialRule.takes_iff {p q : PartialRule} {ms : List (String × Document)} :
    p.Takes ms q ↔ Fills IsText p.field? (RuleMember.field.slot.given ms) q.field? ∧
      Fills Operator.Named p.operator? (RuleMember.operator.slot.given ms) q.operator? ∧
      Fills Operand.Described p.operand? (RuleMember.operand.slot.given ms) q.operand? ∧
      Fills Connective.Named p.connective? (RuleMember.connective.slot.given ms) q.connective? :=
  ⟨fun h => ⟨h.field, h.operator, h.operand, h.connective⟩, fun h => ⟨h.1, h.2.1, h.2.2.1, h.2.2.2⟩⟩

/-- What is read of a rule is this rule, with the defaults for what is missing. -/
structure PartialRule.Makes (p : PartialRule) (r : Rule) : Prop where
  field : p.field? = some r.field
  operator : p.operator? = some r.operator
  operand : p.operand?.getD .null = r.operand
  connective : p.connective?.getD .and = r.connective

theorem PartialRule.toRule_eq_ok_iff {p : PartialRule} {stop : Mark} {r : Rule} :
    p.toRule stop = .ok r ↔ p.Makes r := by
  obtain ⟨field?, operator?, operand?, connective?⟩ := p
  obtain ⟨field, operator, operand, connective⟩ := r
  constructor
  · intro h
    cases field? <;> cases operator? <;> cases h
    exact ⟨rfl, rfl, rfl, rfl⟩
  · rintro ⟨⟨⟩, ⟨⟩, hoperand, hconnective⟩
    dsimp only at hoperand hconnective
    subst hoperand hconnective
    rfl

theorem PartialRule.takes_cons_none {p q : PartialRule} {k : String} {d : Document}
    {ms : List (String × Document)} (hk : RuleMember.ofKey? k = none) :
    p.Takes ((k, d) :: ms) q ↔ p.Takes ms q := by
  have hslot (m : RuleMember) : k ∉ m.slot.names := by
    rw [← RuleMember.ofKey?_eq_some_iff, hk]
    nofun
  simp [PartialRule.takes_iff, Slot.given_cons, hslot]

/-- A known member is read by its own decoder, unless it was read before. -/
theorem PartialRule.takes_cons_some {p q : PartialRule} {k : String} {d : Document} {n : Node}
    {m : RuleMember} {ms : List (String × Document)} (hk : RuleMember.ofKey? k = some m)
    (hn : n.Holds d) :
    p.Takes ((k, d) :: ms) q ↔ p.has m = false ∧ ∃ p', p.put n m = .ok p' ∧ p'.Takes ms q := by
  have hslot (m' : RuleMember) : k ∈ m'.slot.names ↔ m' = m := by
    rw [← RuleMember.ofKey?_eq_some_iff, hk, Option.some.injEq, eq_comm]
  simp only [PartialRule.takes_iff, Slot.given_cons, hslot]
  cases m with
  | field =>
    simp [Fills, put, has, bind_eq_ok_iff, Node.text_eq_ok_iff hn, IsText, pure, Except.pure]
    grind
  | operator =>
    simp [Fills, put, has, bind_eq_ok_iff, Operator.decode_eq_ok_iff hn, pure, Except.pure]
    grind
  | operand =>
    simp [Fills, put, has, bind_eq_ok_iff, Operand.decode_eq_ok_iff hn, pure, Except.pure]
    grind
  | connective =>
    simp [Fills, put, has, bind_eq_ok_iff, Connective.decode_eq_ok_iff hn, pure, Except.pure]
    grind

theorem Rule.decodeMembers_eq_ok_iff {members : Members} {ms : List (String × Document)}
    (h : members.Hold ms) {p : PartialRule} {r : Rule} :
    Rule.decodeMembers p members = .ok r ↔ ∃ q, p.Takes ms q ∧ q.Makes r := by
  induction ms generalizing members p with
  | nil =>
    cases h
    rw [Rule.decodeMembers, PartialRule.toRule_eq_ok_iff]
    constructor
    · exact fun hr => ⟨p, ⟨rfl, rfl, rfl, rfl⟩, hr⟩
    · rintro ⟨⟨f, op, o, c⟩, ⟨⟨⟩, ⟨⟩, ⟨⟩, ⟨⟩⟩, hr⟩
      exact hr
  | cons m ms ih =>
    cases h with
    | cons hvalue htail =>
      rw [Rule.decodeMembers]
      split
      · next hkey =>
        simp only [PartialRule.takes_cons_none hkey]
        exact ih htail
      · next m hkey =>
        simp only [PartialRule.takes_cons_some hkey hvalue]
        split
        · next hhas => simp [hhas]
        · next hhas =>
          simp only [bind_eq_ok_iff, placeAt_eq_ok_iff, ih htail]
          grind

theorem Rule.described_object_iff {ms : List (String × Document)} {r : Rule} :
    Rule.Described (.object ms) r ↔ ∃ q, PartialRule.Takes {} ms q ∧ q.Makes r := by
  have hfield := Slot.takes_iff_fills IsText RuleMember.field.slot ms r.field rfl
  have hoperator :=
    Slot.takes_iff_fills Operator.Named RuleMember.operator.slot ms r.operator rfl
  have hoperand := Slot.takes_iff_fills_getD Operand.Described RuleMember.operand.slot ms r.operand
    rfl fun _ => operand_described_null
  have hconnective := Slot.takes_iff_fills_getD Connective.Named RuleMember.connective.slot ms
    r.connective rfl fun _ => connective_named_and
  constructor
  · rintro ⟨⟨hgives⟩, hop, hvalue, hword⟩
    simp only [slots, List.forall₂_cons, List.forall₂_nil_left_iff, and_true] at hgives
    obtain ⟨h₁, h₂, h₃, h₄⟩ := hgives
    have hf := hfield.1 ⟨_, h₁, rfl⟩
    have ho := hoperator.1 ⟨_, h₂, hop⟩
    obtain ⟨o?, hv, hvr⟩ := hoperand.1 ⟨_, h₃, hvalue⟩
    obtain ⟨c?, hc, hcr⟩ := hconnective.1 ⟨_, h₄, hword⟩
    exact ⟨⟨some r.field, some r.operator, o?, c?⟩, ⟨hf, ho, hv, hc⟩, ⟨rfl, rfl, hvr, hcr⟩⟩
  · rintro ⟨q, hq, hr⟩
    obtain ⟨_, h₁, rfl⟩ := hfield.2 (hr.field ▸ hq.field)
    obtain ⟨op, h₂, hop⟩ := hoperator.2 (hr.operator ▸ hq.operator)
    obtain ⟨value, h₃, hvalue⟩ := hoperand.2 ⟨_, hq.operand, hr.operand⟩
    obtain ⟨word, h₄, hword⟩ := hconnective.2 ⟨_, hq.connective, hr.connective⟩
    exact ⟨.object (.cons h₁ (.cons h₂ (.cons h₃ (.cons h₄ .nil)))), hop, hvalue, hword⟩

/-- A list that stays open is finished only at its end. -/
theorem Items.finish_eq_ok_iff {items : Items} (h : items.StaysOpen) :
    items.finish = .ok () ↔ ∃ close, items = .nil close := by
  cases items with
  | nil close => simp [Items.finish]
  | bad close f =>
    obtain ⟨fault, hfault⟩ := Option.isSome_iff_exists.1 h
    simp [Items.finish, hfault]
  | cons close head tail =>
    obtain ⟨fault, hfault⟩ := Option.isSome_iff_exists.1 h
    simp [Items.finish, hfault]

@[simp] theorem Items.finish_nil (close : Close) : (Items.nil close).finish = .ok () := rfl

@[simp] theorem Items.next?_nil {α : Type} {decode : Node → Except Fault α} (close : Close) :
    (Items.nil close).next? decode = .ok (none, .nil close) := rfl

/-- What is read next is the first item, decoded, and the rest stays. -/
theorem Items.next?_cons_eq_ok_iff {α : Type} {decode : Node → Except Fault α} {close : Close} {head : Node}
    {tail rest : Items} {a? : Option α} :
    (Items.cons close head tail).next? decode = .ok (a?, rest) ↔
      ∃ a, decode head = .ok a ∧ some a = a? ∧ tail = rest := by
  simp only [Items.next?, bind_eq_ok_iff, placeAt_eq_ok_iff, pure, Except.pure, Except.ok.injEq, Prod.mk.injEq]

theorem Items.require_eq_ok_iff {α : Type} {items : Items} {index : Nat} {expected : String} {a? : Option α}
    {a : α} : items.require index expected a? = .ok a ↔ a? = some a := by
  cases a? <;> simp [Items.require]

theorem Rule.decodeItems_eq_ok_iff {items : Items} {ds : List Document} (h : items.Hold ds)
    (hlast : items.ClosesLast) {r : Rule} :
    Rule.decodeItems items = .ok r ↔ Rule.Described (.array ds) r := by
  obtain ⟨field, operator, operand, connective⟩ := r
  have htext (d : Document) : d = .text field ↔ .text field = d := eq_comm
  have hnull (o : Operand) : Operand.null = o ↔ o = .null := eq_comm
  have hand (c : Connective) : Connective.and = c ↔ c = .and := eq_comm
  rw [Rule.described_iff]
  simp only [gives_array_iff, Rule.slots, RuleMember.slot, connectiveSlot]
  simp only [Rule.decodeItems, bind_eq_ok_iff, Items.require_eq_ok_iff, Prod.exists, pure, Except.pure]
  -- one case for each number of items
  obtain _ | ⟨h₁, _ | ⟨h₂, _ | ⟨h₃, _ | ⟨h₄, _ | @⟨_, _, _, _, _, h₅, h⟩⟩⟩⟩⟩ := h
  · simp
  · simp [Items.next?_cons_eq_ok_iff]
  · simp [Items.next?_cons_eq_ok_iff, Node.text_eq_ok_iff h₁, Operator.decode_eq_ok_iff h₂,
      operand_described_null, connective_named_and, htext, hnull, hand]
  · simp [Items.next?_cons_eq_ok_iff, Node.text_eq_ok_iff h₁, Operator.decode_eq_ok_iff h₂,
      Operand.decode_eq_ok_iff h₃, connective_named_and, htext, hand]
  · simp [Items.next?_cons_eq_ok_iff, Node.text_eq_ok_iff h₁, Operator.decode_eq_ok_iff h₂,
      Operand.decode_eq_ok_iff h₃, Connective.decode_eq_ok_iff h₄, htext]
  · obtain ⟨-, -, -, -, -, -, -, hopen, -⟩ := hlast
    simp [Items.next?_cons_eq_ok_iff, Items.finish_eq_ok_iff hopen]

theorem Rule.decode_eq_ok_iff {n : Node} {d : Document} (hn : n.Holds d) (hlast : n.ClosesLast)
    {r : Rule} : Rule.decode n = .ok r ↔ Rule.Described d r := by
  cases hn with
  | array h => exact Rule.decodeItems_eq_ok_iff h hlast
  | object h => exact (Rule.decodeMembers_eq_ok_iff h).trans Rule.described_object_iff.symm
  | _ =>
    constructor
    · intro h
      simp [Rule.decode, Node.content] at h
    · rintro ⟨⟨⟩⟩

theorem Rule.decodeAll_eq_ok_iff {items : Items} {ds : List Document} (h : items.Hold ds)
    (hlast : items.ClosesLast) {rules : List Rule} :
    items.decodeAll Rule.decode = .ok rules ↔ List.Forall₂ Rule.Described ds rules := by
  induction ds generalizing items rules with
  | nil =>
    cases h
    simp [Items.decodeAll, eq_comm]
  | cons d ds ih =>
    cases h with
    | cons hd hds =>
      obtain ⟨hhead, -, htail⟩ := hlast
      simp only [Items.decodeAll, bind_eq_ok_iff, placeAt_eq_ok_iff, Rule.decode_eq_ok_iff hd hhead,
        ih hds htail, List.forall₂_cons_left_iff, pure, Except.pure, Except.ok.injEq]
      grind

theorem Rule.decodeList_eq_ok_iff {n : Node} {d : Document} (hn : n.Holds d) (hlast : n.ClosesLast)
    {rules : List Rule} : n.list Rule.decode = .ok rules ↔ Listed Rule.Described d rules := by
  unfold Listed
  cases hn with
  | array h => simpa [Node.list, Node.content] using Rule.decodeAll_eq_ok_iff h hlast
  | _ => simp [Node.list, Node.content]

/-! ### Groups -/

theorem GroupMember.ofKey?_eq_some_iff {k : String} {m : GroupMember} :
    ofKey? k = some m ↔ k ∈ m.slot.names := by
  unfold ofKey?
  split <;> cases m <;> simp_all [slot, connectiveSlot]

/-- What is read of a group once the members of an object are read as well. -/
def PartialGroup.Takes (p : PartialGroup) (ms : List (String × Document)) (q : PartialGroup) : Prop :=
  Fills (Listed Rule.Described) p.rules? (GroupMember.rules.slot.given ms) q.rules? ∧
    Fills (Listed Group.Described) p.groups? (GroupMember.groups.slot.given ms) q.groups? ∧
    Fills Connective.Named p.connective? (GroupMember.connective.slot.given ms) q.connective?

theorem PartialGroup.takes_cons_none {p q : PartialGroup} {k : String} {d : Document}
    {ms : List (String × Document)} (hk : GroupMember.ofKey? k = none) :
    p.Takes ((k, d) :: ms) q ↔ p.Takes ms q := by
  have hslot (m : GroupMember) : k ∉ m.slot.names := by
    rw [← GroupMember.ofKey?_eq_some_iff, hk]
    nofun
  simp [Takes, Slot.given_cons, hslot]

/-- What one member adds. -/
def PartialGroup.Adds (p : PartialGroup) (d : Document) (q : PartialGroup) : GroupMember → Prop
  | .rules => ∃ rules, Listed Rule.Described d rules ∧ q = { p with rules? := some rules }
  | .groups => ∃ groups, Listed Group.Described d groups ∧ q = { p with groups? := some groups }
  | .connective => ∃ c, Connective.Named d c ∧ q = { p with connective? := some c }

/-- A known member is read unless it was read before. -/
theorem PartialGroup.takes_cons_some {p q : PartialGroup} {k : String} {d : Document}
    {m : GroupMember} {ms : List (String × Document)} (hk : GroupMember.ofKey? k = some m) :
    p.Takes ((k, d) :: ms) q ↔ p.has m = false ∧ ∃ p', p.Adds d p' m ∧ p'.Takes ms q := by
  have hslot (m' : GroupMember) : k ∈ m'.slot.names ↔ m' = m := by
    rw [← GroupMember.ofKey?_eq_some_iff, hk, Option.some.injEq, eq_comm]
  simp only [Takes, Slot.given_cons, hslot]
  cases m with
  | rules =>
    simp [Fills, has, Adds]
    grind
  | groups =>
    simp [Fills, has, Adds]
    grind
  | connective =>
    simp [Fills, has, Adds]
    grind

theorem Group.described_object_iff {ms : List (String × Document)} {g : Group} :
    Group.Described (.object ms) g ↔ ∃ q, PartialGroup.Takes {} ms q ∧ q.toGroup = g := by
  have hrules := Slot.takes_iff_fills_getD (Listed Rule.Described) GroupMember.rules.slot ms g.rules
    rfl fun _ => listed_nil
  have hgroups := Slot.takes_iff_fills_getD (Listed Group.Described) GroupMember.groups.slot ms
    g.groups rfl fun _ => listed_nil
  have hconnective := Slot.takes_iff_fills_getD Connective.Named GroupMember.connective.slot ms
    g.connective rfl fun _ => connective_named_and
  rw [Group.described_iff]
  constructor
  · rintro ⟨rs, gs, word, ⟨hgives⟩, hrs, hgs, hword⟩
    simp only [slots, List.forall₂_cons, List.forall₂_nil_left_iff, and_true] at hgives
    obtain ⟨h₁, h₂, h₃⟩ := hgives
    obtain ⟨rules?, hr, hrget⟩ := hrules.1 ⟨_, h₁, hrs⟩
    obtain ⟨groups?, hg, hgget⟩ := hgroups.1 ⟨_, h₂, hgs⟩
    obtain ⟨c?, hc, hcget⟩ := hconnective.1 ⟨_, h₃, hword⟩
    refine ⟨⟨rules?, groups?, c?⟩, ⟨hr, hg, hc⟩, ?_⟩
    rw [PartialGroup.toGroup, hrget, hgget, hcget]
    cases g
    rfl
  · rintro ⟨q, ⟨hr, hg, hc⟩, rfl⟩
    obtain ⟨rs, h₁, hrs⟩ := hrules.2 ⟨_, hr, rfl⟩
    obtain ⟨gs, h₂, hgs⟩ := hgroups.2 ⟨_, hg, rfl⟩
    obtain ⟨word, h₃, hword⟩ := hconnective.2 ⟨_, hc, rfl⟩
    exact ⟨rs, gs, word, .object (.cons h₁ (.cons h₂ (.cons h₃ .nil))), hrs, hgs, hword⟩

mutual

theorem Group.decode_eq_ok_iff : ∀ (d : Document) {n : Node} {g : Group}, n.Holds d →
    n.ClosesLast → (Group.decode n = .ok g ↔ Group.Described d g)
  | .null, _, g, hn, _ | .flag _, _, g, hn, _ | .number _, _, g, hn, _ | .text _, _, g, hn, _ => by
    cases hn
    constructor
    · intro h
      simp [Group.decode] at h
    · rintro ⟨⟨⟩⟩
  | .array ds, _, g, hn, hlast => by
    cases hn with
    | array h => exact Group.decodeItems_eq_ok_iff ds h hlast
  | .object ms, _, g, hn, hlast => by
    cases hn with
    | object h =>
      rw [Group.decode, Group.decodeMembers_eq_ok_iff ms h hlast, Group.described_object_iff]

theorem Group.decodeList_eq_ok_iff : ∀ (d : Document) {n : Node} {gs : List Group}, n.Holds d →
    n.ClosesLast → (Group.decodeList n = .ok gs ↔ Listed Group.Described d gs)
  | .null, _, gs, hn, _ | .flag _, _, gs, hn, _ | .number _, _, gs, hn, _ | .text _, _, gs, hn, _
  | .object _, _, gs, hn, _ => by
    cases hn
    simp [Group.decodeList, Listed]
  | .array ds, _, gs, hn, hlast => by
    cases hn with
    | array h =>
      rw [Group.decodeList, Group.decodeAll_eq_ok_iff ds h hlast]
      simp [Listed]

theorem Group.decodeAll_eq_ok_iff : ∀ (ds : List Document) {items : Items} {gs : List Group},
    items.Hold ds → items.ClosesLast →
    (Group.decodeAll items = .ok gs ↔ List.Forall₂ Group.Described ds gs)
  | [], _, gs, h, _ => by
    cases h
    simp [Group.decodeAll, eq_comm]
  | d :: ds, _, gs, h, hlast => by
    cases h with
    | cons hd hds =>
      obtain ⟨hhead, -, htail⟩ := hlast
      simp only [Group.decodeAll, bind_eq_ok_iff, placeAt_eq_ok_iff,
        Group.decode_eq_ok_iff d hd hhead, Group.decodeAll_eq_ok_iff ds hds htail,
        List.forall₂_cons_left_iff, pure, Except.pure, Except.ok.injEq]
      grind

theorem Group.decodeItems_eq_ok_iff : ∀ (ds : List Document) {items : Items} {g : Group},
    items.Hold ds → items.ClosesLast →
    (Group.decodeItems items = .ok g ↔ Group.Described (.array ds) g)
  | [], _, .mk rules groups c, h, _ => by
    have hand (c : Connective) : Connective.and = c ↔ c = .and := eq_comm
    cases h
    rw [Group.decodeItems, Group.described_iff]
    simp [gives_array_iff, Group.slots, GroupMember.slot, connectiveSlot, listed_nil,
      connective_named_and, Group.rules, Group.groups, Group.connective, Group.empty, hand]
  | [d₁], _, .mk rules groups c, h, hlast => by
    have hand (c : Connective) : Connective.and = c ↔ c = .and := eq_comm
    obtain _ | ⟨h₁, _ | _⟩ := h
    obtain ⟨hlast₁, -⟩ := hlast
    rw [Group.decodeItems, Group.described_iff]
    simp [gives_array_iff, Group.slots, GroupMember.slot, connectiveSlot, listed_nil,
      bind_eq_ok_iff, connective_named_and, Group.rules, Group.groups, Group.connective, pure,
      Except.pure, Rule.decodeList_eq_ok_iff h₁ hlast₁, hand]
  | d₁ :: d₂ :: ds, _, .mk rules groups c, h, hlast => by
    have hand (c : Connective) : Connective.and = c ↔ c = .and := eq_comm
    obtain _ | ⟨h₁, _ | ⟨h₂, h⟩⟩ := h
    obtain ⟨hlast₁, -, hlast₂, -, hlast⟩ := hlast
    have hrules (rules : List Rule) := @Rule.decodeList_eq_ok_iff _ _ h₁ hlast₁ rules
    have hgroups (gs : List Group) := @Group.decodeList_eq_ok_iff d₂ _ gs h₂ hlast₂
    rw [Group.described_iff]
    -- two items, three, and more than there are members
    obtain _ | ⟨h₃, _ | @⟨_, _, _, _, _, h₄, h⟩⟩ := h
    · simp [Group.decodeItems, gives_array_iff, Group.slots, GroupMember.slot, connectiveSlot,
        bind_eq_ok_iff, connective_named_and, Group.rules, Group.groups, Group.connective, pure,
        Except.pure, hrules, hgroups, hand]
    · simp [Group.decodeItems, gives_array_iff, Group.slots, GroupMember.slot, connectiveSlot,
        bind_eq_ok_iff, Connective.decode_eq_ok_iff h₃, Group.rules, Group.groups,
        Group.connective, pure, Except.pure, hrules, hgroups, Items.next?_cons_eq_ok_iff]
    · obtain ⟨-, hopen, -⟩ := hlast
      simp [Group.decodeItems, gives_array_iff, Group.slots, bind_eq_ok_iff, pure, Except.pure,
        Items.next?_cons_eq_ok_iff, Items.finish_eq_ok_iff hopen]

theorem Group.decodeMembers_eq_ok_iff : ∀ (ms : List (String × Document)) {members : Members}
    {p : PartialGroup} {g : Group}, members.Hold ms → members.ClosesLast →
    (Group.decodeMembers p members = .ok g ↔ ∃ q, p.Takes ms q ∧ q.toGroup = g)
  | [], _, p, g, h, _ => by
    cases h
    rw [Group.decodeMembers, Except.ok.injEq]
    constructor
    · exact fun hg => ⟨p, ⟨rfl, rfl, rfl⟩, hg⟩
    · rintro ⟨⟨rules, groups, connective⟩, ⟨⟨⟩, ⟨⟩, ⟨⟩⟩, hg⟩
      exact hg
  | (k, d) :: ms, _, p, g, h, hlast => by
    cases h with
    | cons hd hms =>
      obtain ⟨hhead, htail⟩ := hlast
      have hrest (p : PartialGroup) := @Group.decodeMembers_eq_ok_iff ms _ p g hms htail
      have hrules (rules : List Rule) := @Rule.decodeList_eq_ok_iff _ _ hd hhead rules
      have hgroups (gs : List Group) := @Group.decodeList_eq_ok_iff d _ gs hd hhead
      have hconnective (c : Connective) := @Connective.decode_eq_ok_iff _ _ c hd
      rw [Group.decodeMembers]
      split
      · next hkey =>
        simp only [PartialGroup.takes_cons_none hkey]
        exact hrest p
      · next m hkey =>
        simp only [PartialGroup.takes_cons_some hkey]
        split
        · next hhas => simp [hhas]
        · next hhas =>
          cases m <;> simp only [bind_eq_ok_iff, placeAt_eq_ok_iff, hrules, hgroups, hconnective,
            hrest, PartialGroup.Adds] <;> grind

end

/-! ### Whole definitions -/

theorem Group.ofDocument_eq_ok_iff {d : Document} {groups : List Group} :
    Group.ofDocument d = .ok groups ↔
      d = .array [] ∧ groups = [] ∨ Definition.Described d groups := by
  have hlist := @Group.decodeList_eq_ok_iff d _ groups (Node.holds_ofDocument d)
    (Node.closesLast_ofDocument d)
  have hgroup (g : Group) := @Group.decode_eq_ok_iff d _ g (Node.holds_ofDocument d)
    (Node.closesLast_ofDocument d)
  unfold Group.ofDocument decodeDocument
  cases d with
  | array ds =>
    dsimp only
    rw [hlist]
    constructor
    · rintro ⟨_, ⟨⟩, hds⟩
      cases hds with
      | nil => exact .inl ⟨rfl, rfl⟩
      | cons hd hds => exact .inr (.list (.cons hd hds) nofun)
    · rintro (⟨⟨⟩, rfl⟩ | ⟨hds, -⟩)
      · exact ⟨[], rfl, .nil⟩
      · exact ⟨ds, rfl, hds⟩
  | object ms =>
    simp only [map_eq_ok_iff, hgroup]
    constructor
    · rintro ⟨g, hg, rfl⟩
      exact .inr (.single hg)
    · rintro (⟨⟨⟩, -⟩ | hd)
      cases hd with
      | single hg => exact ⟨_, hg, rfl⟩
  | null | flag | number | text =>
    simp only [map_eq_ok_iff, hgroup]
    constructor
    · rintro ⟨_, ⟨⟨⟩⟩, -⟩
    · rintro (⟨⟨⟩, -⟩ | ⟨⟨⟩⟩)

theorem Definition.Described.ne_nil {d : Document} {groups : List Group}
    (h : Definition.Described d groups) : d ≠ .array [] ∧ groups ≠ [] := by
  cases h with
  | single hg => exact ⟨nofun, nofun⟩
  | list hds hne =>
    refine ⟨?_, hne⟩
    rintro ⟨⟩
    cases hds
    exact hne rfl

theorem parseGroups_eq_ok_iff {text : String} {groups : List Group} :
    parseGroups text = .ok groups ↔
      ∃ d, Document.parse text = .ok d ∧ Definition.Described d groups := by
  simp only [parseGroups, bind_eq_ok_iff, mapError_eq_ok_iff]
  refine exists_congr fun d => and_congr_right fun _ => ?_
  constructor
  · rintro ⟨read, hread, h⟩
    split at h
    · simp [throw, throwThe, MonadExceptOf.throw] at h
    · next hne =>
      cases h
      obtain ⟨-, rfl⟩ | hd := Group.ofDocument_eq_ok_iff.1 hread
      · exact absurd rfl hne
      · exact hd
  · intro hd
    refine ⟨groups, Group.ofDocument_eq_ok_iff.2 (.inr hd), ?_⟩
    simp [hd.ne_nil.2, pure, Except.pure]

theorem parseGroups_ne_nil {text : String} {groups : List Group} (h : parseGroups text = .ok groups) :
    groups ≠ [] := by
  obtain ⟨d, -, hd⟩ := parseGroups_eq_ok_iff.1 h
  exact hd.ne_nil.2

theorem parseGroups_eq_empty_iff {text : String} {d : Document} (h : Document.parse text = .ok d) :
    parseGroups text = .error .empty ↔ d = .array [] := by
  have hparse : parseGroups text = (Group.ofDocument d).mapError .json >>= fun groups =>
      if groups.isEmpty then .error .empty else .ok groups := by
    rw [parseGroups, h]
    rfl
  rw [hparse]
  constructor
  · intro hempty
    cases hread : Group.ofDocument d with
    | error f => simp [hread, Except.mapError, bind, Except.bind] at hempty
    | ok groups =>
      obtain ⟨hd, -⟩ | hd := Group.ofDocument_eq_ok_iff.1 hread
      · exact hd
      · simp [hread, Except.mapError, bind, Except.bind, hd.ne_nil.2] at hempty
  · rintro rfl
    rfl

/-- A definition is accepted exactly if it describes groups, and gives them in their order. A list of no
groups has an error of its own. -/
theorem parseGroups_accepts {text : String} {d : Document} (h : Document.parse text = .ok d) :
    (∀ groups, parseGroups text = .ok groups ↔ Definition.Described d groups) ∧
      (parseGroups text = .error .empty ↔ d = .array []) ∧
      ((∃ f, parseGroups text = .error (.json f)) ↔
        d ≠ .array [] ∧ ∀ groups, ¬ Definition.Described d groups) := by
  have hok (groups : List Group) :
      parseGroups text = .ok groups ↔ Definition.Described d groups := by
    simp [parseGroups_eq_ok_iff, h]
  have hempty := parseGroups_eq_empty_iff h
  refine ⟨hok, hempty, ?_⟩
  simp only [← hok, ← hempty, ne_eq]
  cases parseGroups text with
  | ok groups => simp
  | error e => cases e <;> simp

/-- Members stand in any order and under any of their names, one of them is given twice and one unknown; a
rule and three groups are lists. -/
theorem parseGroups_accepts_nested :
    let listed : Document := .array [.text "a", .text " IN ", .array [.null, .array []], .text "||"]
    let named : Document :=
      .object [("op", .text "<>"), ("field", .text "x"), ("note", .object []), ("field", .text "b")]
    let d : Document := .array [.object [("logic", .text " Or "),
      ("children", .array [.array [.array [listed, named]]])], .array []]
    Document.parse d.write = .ok d.sorted ∧ parseGroups d.write = .ok
      [.mk [] [.mk [⟨"a", .memberOf, .list [.null, .list []], .or⟩, ⟨"b", .notEqual, .null, .and⟩] []
        .and] .or, .empty .and] := by
  intro listed named d
  have hwhole : d.Whole := by
    simp [d, listed, named, Document.Whole, Document.WholeItems, Document.WholeMembers]
  have hparse : Document.parse d.write = .ok d.sorted := Document.parse_write hwhole (by decide)
  have hsorted : d.sorted = .array [.object [("children", .array [.array [.array [listed,
      .object [("field", .text "b"), ("note", .object []), ("op", .text "<>")]]]]),
      ("logic", .text " Or ")], .array []] := by
    have h₁ : ¬ ("logic" : String) < "children" ∧ ("children" : String) < "logic" := by decide
    have h₂ : ("field" : String) < "op" ∧ ¬ ("note" : String) < "field" ∧ ("note" : String) < "op" := by
      decide
    simp [d, listed, named, Document.sorted, Document.sortedItems, Document.sortedMembers, ofMembers,
      insertMember, h₁, h₂]
  have hand : Connective.Named (.text "and") .and := ⟨_, rfl, by decide⟩
  have hlisted : Rule.Described listed ⟨"a", .memberOf, .list [.null, .list []], .or⟩ :=
    .mk (.array (by decide) .nil) ⟨_, rfl, by decide⟩
      (.list (.cons .null (.cons (.list .nil) .nil))) ⟨_, rfl, by decide⟩
  have hnamed : Rule.Described
      (.object [("field", .text "b"), ("note", .object []), ("op", .text "<>")])
      ⟨"b", .notEqual, .null, .and⟩ :=
    .mk (.object (.cons (.inl rfl) (.cons (.inl rfl)
      (.cons (.inr ⟨rfl, rfl⟩) (.cons (.inr ⟨rfl, rfl⟩) .nil))))) ⟨_, rfl, by decide⟩ .null hand
  have hchild : Group.Described (.array [.array [listed, _]]) (.mk [_, _] [] .and) :=
    .mk (.array (by decide) (.cons rfl (.cons rfl .nil))) (.cons hlisted (.cons hnamed .nil)) .nil
      hand
  have hlast : Group.Described (.array []) (.empty .and) :=
    .mk (.array (by decide) (.cons rfl (.cons rfl (.cons rfl .nil)))) .nil .nil hand
  refine ⟨hparse, ((parseGroups_accepts hparse).1 _).2 ?_⟩
  have hor : Connective.Named (.text " Or ") .or := ⟨_, rfl, by decide⟩
  rw [hsorted]
  refine .list (.cons (.mk ?_ .nil (.cons hchild .nil) hor) (.cons hlast .nil)) nofun
  exact .object (.cons (.inr ⟨rfl, rfl⟩) (.cons (.inl rfl) (.cons (.inl rfl) .nil)))

end RuleTree
