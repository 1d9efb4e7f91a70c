import RuleTree.Definition.Reader
import RuleTree.Proofs.Json.Nodes

/-! What trees that come from a text have in common: their integers have the narrowest kind, their doubles are
finite, and no operand is a timestamp. -/

namespace RuleTree

open Json

/-! ### Nodes -/

mutual

/-- Every number in the node is one that a text can hold. -/
def Json.Node.Legible : Node → Prop
  | .mk _ _ content => content.Legible

def Json.Content.Legible : Content → Prop
  | .number n => n.Legible
  | .array items => items.Legible
  | .object _ members => members.Legible
  | _ => True

def Json.Items.Legible : Items → Prop
  | .cons _ head tail => head.Legible ∧ tail.Legible
  | _ => True

def Json.Members.Legible : Members → Prop
  | .cons _ _ _ value tail => value.Legible ∧ tail.Legible
  | _ => True

end

theorem Json.Node.legible_scalar {α : Type} {start : Mark} {broken : Fault → Content}
    {content : α → Content × Cursor} {r : Except Fault α} (hbroken : ∀ f, (broken f).Legible)
    (hcontent : ∀ a, r = .ok a → (content a).1.Legible) :
    (Node.scalar start broken (r.map content)).1.Legible := by
  cases r with
  | ok a => exact hcontent a rfl
  | error f => exact hbroken f

mutual

theorem Json.Node.legible_read : ∀ (fuel depth : Nat) (c : Cursor),
    (Node.read fuel depth c).1.Legible
  | 0, _, _ => trivial
  | fuel + 1, depth, c => by
    unfold Node.read
    dsimp only
    split
    · trivial
    · exact Node.legible_scalar (fun _ => trivial) fun _ _ => trivial
    · exact Node.legible_scalar (fun _ => trivial) fun _ _ => trivial
    · exact Node.legible_scalar (fun _ => trivial) fun _ _ => trivial
    · exact Node.legible_scalar (fun _ => trivial) fun _ _ => trivial
    · cases depth with
      | zero => trivial
      | succ depth => exact Items.legible_read fuel depth true c.skipSpace.next
    · cases depth with
      | zero => trivial
      | succ depth => exact Members.legible_read fuel depth true c.skipSpace.next
    · split
      · exact Node.legible_scalar (fun _ => trivial) fun _ h => legible_readNumeral h
      · trivial

theorem Json.Items.legible_read : ∀ (fuel depth : Nat) (first : Bool) (c : Cursor),
    (Items.read fuel depth first c).1.Legible
  | 0, _, _, _ => trivial
  | fuel + 1, depth, first, c => by
    unfold Items.read
    split
    · trivial
    · trivial
    · next front h =>
      have hhead := Node.legible_read fuel depth front
      dsimp only
      split
      · next behind _ => exact ⟨hhead, Items.legible_read fuel depth false behind⟩
      · exact ⟨hhead, trivial⟩

theorem Json.Members.legible_read : ∀ (fuel depth : Nat) (first : Bool) (c : Cursor),
    (Members.read fuel depth first c).1.Legible
  | 0, _, _, _ => trivial
  | fuel + 1, depth, first, c => by
    unfold Members.read
    split
    · trivial
    · trivial
    · next front h =>
      split
      · trivial
      · next key behindKey hkey =>
        dsimp only
        split
        · exact ⟨trivial, trivial⟩
        · next value hcolon =>
          have hvalue := Node.legible_read fuel depth value
          split
          · exact ⟨hvalue, trivial⟩
          · next behind hbehind => exact ⟨hvalue, Members.legible_read fuel depth false behind⟩

end

/-! ### Operands -/

mutual

/-- The operand is one that a text can hold. -/
def Operand.Legible : Operand → Prop
  | .number n => n.Legible
  | .timestamp _ => False
  | .list items => Operand.LegibleItems items
  | _ => True

def Operand.LegibleItems : List Operand → Prop
  | [] => True
  | o :: rest => o.Legible ∧ Operand.LegibleItems rest

end

mutual

theorem Operand.legible_of_holds : ∀ {d : Document} {n : Node} {o : Operand}, n.Holds d →
    n.Legible → Operand.ofDocument? d.sorted = some o → o.Legible
  | .null, _, _, _, _, ho | .flag _, _, _, _, _, ho | .text _, _, _, _, _, ho => by
    cases ho
    trivial
  | .number _, _, _, hn, hlegible, ho => by
    cases ho
    cases hn
    exact hlegible
  | .array ds, _, _, hn, hlegible, ho => by
    cases hn with
    | array hitems =>
      rw [Document.sorted, Operand.ofDocument?, Option.map_eq_some_iff] at ho
      obtain ⟨os, hos, rfl⟩ := ho
      exact Operand.legible_of_hold hitems hlegible hos
  | .object _, _, _, _, _, ho => by cases ho

theorem Operand.legible_of_hold : ∀ {ds : List Document} {items : Items} {os : List Operand},
    items.Hold ds → items.Legible → Operand.ofDocuments? (Document.sortedItems ds) = some os →
    Operand.LegibleItems os
  | [], _, _, _, _, hos => by
    cases hos
    trivial
  | d :: ds, _, _, hitems, hlegible, hos => by
    cases hitems with
    | cons hd hds =>
      simp only [Document.sortedItems, Operand.ofDocuments?, Option.bind_eq_bind,
        Option.bind_eq_some_iff, Option.pure_def, Option.some.injEq] at hos
      obtain ⟨o, ho, os, hos, rfl⟩ := hos
      exact ⟨Operand.legible_of_holds hd hlegible.1 ho, Operand.legible_of_hold hds hlegible.2 hos⟩

end

theorem Operand.legible_decode {n : Node} {o : Operand} (hn : n.Legible)
    (h : Operand.decode n = .ok o) : o.Legible := by
  rw [Operand.decode, bind_eq_ok_iff] at h
  obtain ⟨d, hd, h⟩ := h
  obtain ⟨raw, hraw, rfl⟩ := Node.exists_holds hd
  split at h
  · next ho =>
    cases h
    exact Operand.legible_of_holds hraw hn ho
  · cases h

/-! ### Rules -/

/-- What is there of a rule so far can come from a text. -/
def PartialRule.Legible (r : PartialRule) : Prop := ∀ o, r.operand? = some o → o.Legible

theorem PartialRule.legible_put {r r' : PartialRule} {n : Node} {m : RuleMember} (hr : r.Legible)
    (hn : n.Legible) (h : r.put n m = .ok r') : r'.Legible := by
  cases m with
  | operand =>
    obtain ⟨o, ho, ⟨⟩⟩ := bind_eq_ok_iff.1 h
    rintro _ ⟨⟩
    exact Operand.legible_decode hn ho
  | field | operator | connective =>
    obtain ⟨_, -, ⟨⟩⟩ := bind_eq_ok_iff.1 h
    exact hr

theorem Operand.legible_getD {o? : Option Operand} (h : ∀ o, o? = some o → o.Legible) :
    (o?.getD .null).Legible := by
  cases o? with
  | none => trivial
  | some o => exact h o rfl

theorem PartialRule.legible_toRule {p : PartialRule} {stop : Mark} {r : Rule} (hp : p.Legible)
    (h : p.toRule stop = .ok r) : r.operand.Legible := by
  unfold toRule at h
  split at h
  · split at h
    · cases h
      exact Operand.legible_getD hp
    · cases h
  · cases h

theorem Rule.legible_decodeMembers : ∀ {members : Members} {p : PartialRule} {r : Rule},
    p.Legible → members.Legible → Rule.decodeMembers p members = .ok r → r.operand.Legible
  | .nil _, _, _, hp, _, h => PartialRule.legible_toRule hp h
  | .bad _ _, _, _, _, _, h => by cases h
  | .cons _ key _ value tail, p, r, hp, hmembers, h => by
    rw [Rule.decodeMembers] at h
    split at h
    · exact Rule.legible_decodeMembers hp hmembers.2 h
    · split at h
      · cases h
      · obtain ⟨q, hq, htail⟩ := bind_eq_ok_iff.1 h
        have hput := PartialRule.legible_put hp hmembers.1 (placeAt_eq_ok_iff.1 hq)
        exact Rule.legible_decodeMembers hput hmembers.2 htail

/-- Taking an item off a list leaves what can come from a text. -/
theorem Json.Items.legible_next? {α : Type} {decode : Node → Except Fault α} {items tail : Items}
    {a? : Option α} (hitems : items.Legible) (h : items.next? decode = .ok (a?, tail)) :
    tail.Legible ∧ ∀ a, a? = some a → ∃ n : Node, n.Legible ∧ decode n = .ok a := by
  cases items with
  | nil close =>
    cases h
    exact ⟨trivial, fun _ h => nomatch h⟩
  | bad close f => cases h
  | cons close head rest =>
    obtain ⟨a, ha, ⟨⟩⟩ := bind_eq_ok_iff.1 h
    refine ⟨hitems.2, ?_⟩
    rintro _ ⟨⟩
    exact ⟨head, hitems.1, placeAt_eq_ok_iff.1 ha⟩

theorem Rule.legible_decodeItems {items : Items} {r : Rule} (hitems : items.Legible)
    (h : Rule.decodeItems items = .ok r) : r.operand.Legible := by
  rw [Rule.decodeItems] at h
  obtain ⟨⟨field?, items₁⟩, h₁, h⟩ := bind_eq_ok_iff.1 h
  obtain ⟨field, -, h⟩ := bind_eq_ok_iff.1 h
  obtain ⟨⟨operator?, items₂⟩, h₂, h⟩ := bind_eq_ok_iff.1 h
  obtain ⟨operator, -, h⟩ := bind_eq_ok_iff.1 h
  obtain ⟨⟨operand?, items₃⟩, h₃, h⟩ := bind_eq_ok_iff.1 h
  obtain ⟨⟨connective?, items₄⟩, -, h⟩ := bind_eq_ok_iff.1 h
  obtain ⟨_, -, ⟨⟩⟩ := bind_eq_ok_iff.1 h
  have hitems₁ := (Items.legible_next? hitems h₁).1
  have hitems₂ := (Items.legible_next? hitems₁ h₂).1
  apply Operand.legible_getD
  intro o ho
  obtain ⟨n, hn, hdecode⟩ := (Items.legible_next? hitems₂ h₃).2 o ho
  exact Operand.legible_decode hn hdecode

theorem Rule.legible_decode {n : Node} {r : Rule} (hn : n.Legible) (h : Rule.decode n = .ok r) :
    r.operand.Legible := by
  obtain ⟨start, stop, content⟩ := n
  cases content with
  | array items => exact Rule.legible_decodeItems hn h
  | object lead members => exact Rule.legible_decodeMembers (by rintro _ ⟨⟩) hn h
  | _ => simp [Rule.decode, Node.content] at h

/-- What a list is decoded to has what its items give. -/
theorem Json.Items.legible_decodeAll {α : Type} {decode : Node → Except Fault α} {P : α → Prop}
    (hdecode : ∀ {n : Node} {a : α}, n.Legible → decode n = .ok a → P a) :
    ∀ {items : Items} {as : List α}, items.Legible → items.decodeAll decode = .ok as →
      ∀ a ∈ as, P a
  | .nil _, _, _, h => by
    cases h
    exact fun _ h => nomatch h
  | .bad _ _, _, _, h => by cases h
  | .cons _ head tail, _, hitems, h => by
    obtain ⟨a, ha, h⟩ := bind_eq_ok_iff.1 h
    obtain ⟨rest, hrest, ⟨⟩⟩ := bind_eq_ok_iff.1 h
    rw [List.forall_mem_cons]
    exact ⟨hdecode hitems.1 (placeAt_eq_ok_iff.1 ha), Items.legible_decodeAll hdecode hitems.2 hrest⟩

theorem Rule.legible_list {n : Node} {rules : List Rule} (hn : n.Legible)
    (h : n.list Rule.decode = .ok rules) : ∀ r ∈ rules, r.operand.Legible := by
  obtain ⟨start, stop, content⟩ := n
  cases content with
  | array items => exact Items.legible_decodeAll Rule.legible_decode hn h
  | _ => simp [Node.list, Node.content] at h

/-! ### Groups -/

mutual

/-- The rules of the tree are such that a text can hold them. -/
def Group.Legible : Group → Prop
  | .mk rules groups _ => (∀ r ∈ rules, r.operand.Legible) ∧ Group.LegibleAll groups

def Group.LegibleAll : List Group → Prop
  | [] => True
  | g :: rest => g.Legible ∧ Group.LegibleAll rest

end

/-- What is there of a group so far can come from a text. -/
structure PartialGroup.Legible (p : PartialGroup) : Prop where
  rules : ∀ r ∈ p.rules?.getD [], r.operand.Legible
  groups : Group.LegibleAll (p.groups?.getD [])

mutual

theorem Group.legible_decode : ∀ {n : Node} {g : Group}, n.Legible → Group.decode n = .ok g →
    g.Legible
  | .mk _ _ (.array items), _, hn, h =>
    have hitems : items.Legible := hn
    Group.legible_decodeItems hitems h
  | .mk _ _ (.object _ members), _, hn, h =>
    have hmembers : members.Legible := hn
    have hempty : PartialGroup.Legible {} := ⟨List.forall_mem_nil _, trivial⟩
    Group.legible_decodeMembers hempty hmembers h
  | .mk _ _ .null, _, _, h | .mk _ _ (.flag _), _, _, h | .mk _ _ (.number _), _, _, h
  | .mk _ _ (.text _), _, _, h | .mk _ _ (.badText _), _, _, h | .mk _ _ (.absent _), _, _, h
  | .mk _ _ (.bad _), _, _, h => by simp [Group.decode] at h

theorem Group.legible_decodeList : ∀ {n : Node} {groups : List Group}, n.Legible →
    Group.decodeList n = .ok groups → Group.LegibleAll groups
  | .mk _ _ (.array items), _, hn, h =>
    have hitems : items.Legible := hn
    Group.legible_decodeAll hitems h
  | .mk _ _ (.object _ _), _, _, h | .mk _ _ .null, _, _, h | .mk _ _ (.flag _), _, _, h
  | .mk _ _ (.number _), _, _, h | .mk _ _ (.text _), _, _, h | .mk _ _ (.badText _), _, _, h
  | .mk _ _ (.absent _), _, _, h | .mk _ _ (.bad _), _, _, h => by simp [Group.decodeList] at h

theorem Group.legible_decodeAll : ∀ {items : Items} {groups : List Group}, items.Legible →
    Group.decodeAll items = .ok groups → Group.LegibleAll groups
  | .nil _, _, _, h => by
    cases h
    trivial
  | .bad _ _, _, _, h => by cases h
  | .cons _ head tail, _, hitems, h => by
    rw [Group.decodeAll] at h
    obtain ⟨g, hg, h⟩ := bind_eq_ok_iff.1 h
    obtain ⟨gs, hgs, ⟨⟩⟩ := bind_eq_ok_iff.1 h
    exact ⟨Group.legible_decode hitems.1 (placeAt_eq_ok_iff.1 hg),
      Group.legible_decodeAll hitems.2 hgs⟩

theorem Group.legible_decodeItems : ∀ {items : Items} {g : Group}, items.Legible →
    Group.decodeItems items = .ok g → g.Legible
  | .nil _, _, _, h => by
    cases h
    exact ⟨List.forall_mem_nil _, trivial⟩
  | .bad _ _, _, _, h => by cases h
  | .cons _ first tail, _, hitems, h => by
    rw [Group.decodeItems] at h
    obtain ⟨rules, hrules, h⟩ := bind_eq_ok_iff.1 h
    have hlegible := Rule.legible_list hitems.1 (placeAt_eq_ok_iff.1 hrules)
    cases tail with
    | nil =>
      cases h
      exact ⟨hlegible, trivial⟩
    | bad => cases h
    | cons _ second tail =>
      obtain ⟨groups, hgroups, h⟩ := bind_eq_ok_iff.1 h
      have hsecond := Group.legible_decodeList hitems.2.1 (placeAt_eq_ok_iff.1 hgroups)
      obtain ⟨⟨connective, tail'⟩, -, h⟩ := bind_eq_ok_iff.1 h
      obtain ⟨_, -, ⟨⟩⟩ := bind_eq_ok_iff.1 h
      exact ⟨hlegible, hsecond⟩

theorem Group.legible_decodeMembers : ∀ {members : Members} {p : PartialGroup} {g : Group},
    p.Legible → members.Legible → Group.decodeMembers p members = .ok g → g.Legible
  | .nil _, _, _, hp, _, h => by
    cases h
    exact ⟨hp.rules, hp.groups⟩
  | .bad _ _, _, _, _, _, h => by cases h
  | .cons _ key _ value tail, p, g, hp, hmembers, h => by
    rw [Group.decodeMembers] at h
    split at h
    · exact Group.legible_decodeMembers hp hmembers.2 h
    · next m hkey =>
      split at h
      · cases h
      · cases m with
        | rules =>
          obtain ⟨rules, hrules, h⟩ := bind_eq_ok_iff.1 h
          have hp' : PartialGroup.Legible { p with rules? := some rules } :=
            ⟨Rule.legible_list hmembers.1 (placeAt_eq_ok_iff.1 hrules), hp.groups⟩
          exact Group.legible_decodeMembers hp' hmembers.2 h
        | groups =>
          obtain ⟨groups, hgroups, h⟩ := bind_eq_ok_iff.1 h
          have hp' : PartialGroup.Legible { p with groups? := some groups } :=
            ⟨hp.rules, Group.legible_decodeList hmembers.1 (placeAt_eq_ok_iff.1 hgroups)⟩
          exact Group.legible_decodeMembers hp' hmembers.2 h
        | connective =>
          obtain ⟨c, -, h⟩ := bind_eq_ok_iff.1 h
          have hp' : PartialGroup.Legible { p with connective? := some c } := ⟨hp.rules, hp.groups⟩
          exact Group.legible_decodeMembers hp' hmembers.2 h

end

/-- A tree that is read from a text holds what texts can hold. -/
theorem Group.legible_parse {text : String} {g : Group} (h : Group.parse text = .ok g) :
    g.Legible := by
  rw [Group.parse, mapError_eq_ok_iff, decodeText_eq_ok_iff] at h
  exact Group.legible_decode (Node.legible_read _ _ _) h.1

end RuleTree
