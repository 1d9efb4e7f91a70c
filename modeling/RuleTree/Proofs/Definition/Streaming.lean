import RuleTree.Proofs.Definition.Decoding
import RuleTree.Proofs.Definition.Sorting

/-! Decoding a definition as its text is read, and from the document that the text holds. The one takes the
members in the order of the text and passes over those that it does not know, the other reads everything first.
Where every member is known and no object repeats a key, both accept the same texts and build the same groups. -/

namespace RuleTree

open Json

/-! ### Known members -/

/-- What a place of a definition is for. -/
inductive Role where
  | groups
  | group
  | rules
  | rule
  | other

namespace Role

/-- What the item of a list is for. -/
def item : Role → Nat → Role
  | groups, _ => group
  | rules, _ => rule
  | group, 0 => rules
  | group, 1 => groups
  | _, _ => other

/-- What the member of an object is for, if it is known there. -/
def member? : Role → String → Option Role
  | group, key => (GroupMember.ofKey? key).map fun
    | .rules => rules
    | .groups => groups
    | .connective => other
  | rule, key => (RuleMember.ofKey? key).map fun _ => other
  | _, _ => some other

end Role

mutual

/-- Does every object that stands where a group or a rule does have known members only? -/
def Json.Node.knows (role : Role) : Node → Bool
  | .mk _ _ content => content.knows role

def Json.Content.knows (role : Role) : Content → Bool
  | .array items => items.knows role 0
  | .object _ members => members.knows role
  | _ => true

def Json.Items.knows (role : Role) (index : Nat) : Items → Bool
  | .cons _ head tail => head.knows (role.item index) && tail.knows role (index + 1)
  | _ => true

def Json.Members.knows (role : Role) : Members → Bool
  | .cons _ key _ value tail => (role.member? key).any value.knows && tail.knows role
  | _ => true

end

/-! ### Keys -/

def Json.Members.keys : Members → List String
  | .cons _ key _ _ tail => key :: tail.keys
  | _ => []

mutual

/-- Does no object repeat a key? -/
def Json.Node.keyedOnce : Node → Bool
  | .mk _ _ content => content.keyedOnce

def Json.Content.keyedOnce : Content → Bool
  | .array items => items.keyedOnce
  | .object _ members => members.keyedOnce
  | _ => true

def Json.Items.keyedOnce : Items → Bool
  | .cons _ head tail => head.keyedOnce && tail.keyedOnce
  | _ => true

def Json.Members.keyedOnce : Members → Bool
  | .cons _ key _ value tail => !tail.keys.contains key && value.keyedOnce && tail.keyedOnce
  | _ => true

end

theorem Json.Members.Hold.keys_eq {members : Members} {ms : List (String × Document)}
    (h : members.Hold ms) : members.keys = ms.map Prod.fst := by
  induction ms generalizing members with
  | nil =>
    cases h
    rfl
  | cons m ms ih =>
    cases h with
    | cons _ htail => rw [Members.keys, ih htail, List.map_cons]

mutual

theorem Json.Node.Holds.keyedOnce : ∀ {d : Document} {n : Node}, n.Holds d → n.keyedOnce = true →
    d.KeyedOnce
  | .null, _, _, _ | .flag _, _, _, _ | .number _, _, _, _ | .text _, _, _, _ => trivial
  | .array _, _, h, honce => by
    cases h with
    | array hitems => exact Items.Hold.keyedOnce hitems honce
  | .object _, _, h, honce => by
    cases h with
    | object hmembers => exact Members.Hold.keyedOnce hmembers honce

theorem Json.Items.Hold.keyedOnce : ∀ {ds : List Document} {items : Items}, items.Hold ds →
    items.keyedOnce = true → Document.KeyedOnceItems ds
  | [], _, _, _ => trivial
  | _ :: _, _, h, honce => by
    cases h with
    | cons hd hds =>
      rw [Items.keyedOnce, Bool.and_eq_true] at honce
      exact ⟨Node.Holds.keyedOnce hd honce.1, Items.Hold.keyedOnce hds honce.2⟩

theorem Json.Members.Hold.keyedOnce : ∀ {ms : List (String × Document)} {members : Members},
    members.Hold ms → members.keyedOnce = true →
    (ms.map Prod.fst).Nodup ∧ Document.KeyedOnceMembers ms
  | [], _, _, _ => ⟨.nil, trivial⟩
  | (k, _) :: _, _, h, honce => by
    cases h with
    | @cons _ _ _ _ tail _ _ hd hms =>
      simp only [Members.keyedOnce, Bool.and_eq_true, Bool.not_eq_true', List.contains_eq_mem,
        decide_eq_false_iff_not, hms.keys_eq] at honce
      obtain ⟨⟨hkey, hvalue⟩, htail⟩ := honce
      obtain ⟨hnodup, hrest⟩ := Members.Hold.keyedOnce hms htail
      exact ⟨List.nodup_cons.2 ⟨hkey, hnodup⟩, Node.Holds.keyedOnce hd hvalue, hrest⟩

end

/-! ### Decoding reads everything -/

/-- Whatever the decoder accepts is a document. -/
def ReadsAll {α : Type} (decode : Node → Except Fault α) : Prop :=
  ∀ {n a}, decode n = .ok a → ∃ d, n.Holds d

theorem Json.Node.readsAll_text : ReadsAll Node.text := fun h => ⟨_, Node.text_eq_ok h⟩

theorem Operator.readsAll : ReadsAll Operator.decode := by
  intro n op h
  rw [Operator.decode, bind_eq_ok_iff] at h
  obtain ⟨s, hs, -⟩ := h
  exact Node.readsAll_text hs

theorem Connective.readsAll : ReadsAll Connective.decode := by
  intro n c h
  rw [Connective.decode, bind_eq_ok_iff] at h
  obtain ⟨s, hs, -⟩ := h
  exact Node.readsAll_text hs

theorem Operand.readsAll : ReadsAll Operand.decode := by
  intro n o h
  rw [Operand.decode, bind_eq_ok_iff] at h
  obtain ⟨d, hd, -⟩ := h
  obtain ⟨raw, hraw, -⟩ := Node.exists_holds hd
  exact ⟨raw, hraw⟩

theorem Json.Items.next?_eq_ok {α : Type} {decode : Node → Except Fault α} (hall : ReadsAll decode)
    {items tail : Items} {a? : Option α} (h : items.next? decode = .ok (a?, tail))
    (hlast : items.ClosesLast) :
    tail.StaysOpen ∧ tail.ClosesLast ∧ ∀ ds, tail.Hold ds → ∃ ds, items.Hold ds := by
  cases items with
  | nil close =>
    cases h
    exact ⟨trivial, trivial, fun ds hds => ⟨ds, hds⟩⟩
  | bad close f => cases h
  | cons close head rest =>
    obtain ⟨-, hopen, htail⟩ := hlast
    obtain ⟨a, ha, rfl, rfl⟩ := Items.next?_cons_eq_ok_iff.1 h
    obtain ⟨d, hd⟩ := hall ha
    exact ⟨hopen, htail, fun ds hds => ⟨d :: ds, .cons hd hds⟩⟩

theorem PartialRule.put_reads {p q : PartialRule} {n : Node} {m : RuleMember}
    (h : p.put n m = .ok q) : ∃ d, n.Holds d := by
  cases m <;> obtain ⟨a, ha, -⟩ := bind_eq_ok_iff.1 h
  · exact Node.readsAll_text ha
  · exact Operator.readsAll ha
  · exact Operand.readsAll ha
  · exact Connective.readsAll ha

theorem Rule.exists_hold_members : ∀ {members : Members} {p : PartialRule} {r : Rule},
    Rule.decodeMembers p members = .ok r → members.knows .rule = true → ∃ ms, members.Hold ms
  | .nil _, _, _, _, _ => ⟨[], .nil⟩
  | .bad _ _, _, _, h, _ => by cases h
  | .cons _ key _ value tail, p, r, h, hknows => by
    rw [Members.knows, Bool.and_eq_true] at hknows
    rw [Rule.decodeMembers] at h
    split at h
    · next hkey => simp [Role.member?, hkey] at hknows
    · next m hkey =>
      split at h
      · cases h
      · obtain ⟨q, hq, htail⟩ := bind_eq_ok_iff.1 h
        obtain ⟨d, hd⟩ := PartialRule.put_reads (placeAt_eq_ok_iff.1 hq)
        obtain ⟨ms, hms⟩ := Rule.exists_hold_members htail hknows.2
        exact ⟨(key, d) :: ms, .cons hd hms⟩

theorem Rule.exists_hold_items {items : Items} {r : Rule} (h : Rule.decodeItems items = .ok r)
    (hlast : items.ClosesLast) : ∃ ds, items.Hold ds := by
  rw [Rule.decodeItems] at h
  obtain ⟨⟨field?, items₁⟩, h₁, h⟩ := bind_eq_ok_iff.1 h
  obtain ⟨field, -, h⟩ := bind_eq_ok_iff.1 h
  obtain ⟨⟨operator?, items₂⟩, h₂, h⟩ := bind_eq_ok_iff.1 h
  obtain ⟨operator, -, h⟩ := bind_eq_ok_iff.1 h
  obtain ⟨⟨operand, items₃⟩, h₃, h⟩ := bind_eq_ok_iff.1 h
  obtain ⟨⟨connective, items₄⟩, h₄, h⟩ := bind_eq_ok_iff.1 h
  obtain ⟨_, hfinish, -⟩ := bind_eq_ok_iff.1 h
  obtain ⟨-, hlast₁, hback₁⟩ := Items.next?_eq_ok Node.readsAll_text h₁ hlast
  obtain ⟨-, hlast₂, hback₂⟩ := Items.next?_eq_ok Operator.readsAll h₂ hlast₁
  obtain ⟨-, hlast₃, hback₃⟩ := Items.next?_eq_ok Operand.readsAll h₃ hlast₂
  obtain ⟨hopen₄, -, hback₄⟩ := Items.next?_eq_ok Connective.readsAll h₄ hlast₃
  obtain ⟨close, rfl⟩ := (Items.finish_eq_ok_iff hopen₄).1 hfinish
  obtain ⟨ds₃, hds₃⟩ := hback₄ [] .nil
  obtain ⟨ds₂, hds₂⟩ := hback₃ ds₃ hds₃
  obtain ⟨ds₁, hds₁⟩ := hback₂ ds₂ hds₂
  exact hback₁ ds₁ hds₁

theorem Rule.exists_holds {n : Node} {r : Rule} (h : Rule.decode n = .ok r)
    (hknows : n.knows .rule = true) (hlast : n.ClosesLast) : ∃ d, n.Holds d := by
  obtain ⟨start, stop, content⟩ := n
  cases content with
  | array items =>
    obtain ⟨ds, hds⟩ := Rule.exists_hold_items h hlast
    exact ⟨.array ds, .array hds⟩
  | object lead members =>
    obtain ⟨ms, hms⟩ := Rule.exists_hold_members h hknows
    exact ⟨.object ms, .object hms⟩
  | _ => simp [Rule.decode, Node.content] at h

theorem Rule.exists_hold_all : ∀ {items : Items} {rules : List Rule} {index : Nat},
    items.decodeAll Rule.decode = .ok rules → items.knows .rules index = true →
    items.ClosesLast → ∃ ds, items.Hold ds
  | .nil _, _, _, _, _, _ => ⟨[], .nil⟩
  | .bad _ _, _, _, h, _, _ => by cases h
  | .cons _ head tail, _, index, h, hknows, hlast => by
    rw [Items.knows, Bool.and_eq_true] at hknows
    obtain ⟨hhead, -, htail⟩ := hlast
    obtain ⟨r, hr, h⟩ := bind_eq_ok_iff.1 h
    obtain ⟨rs, hrs, -⟩ := bind_eq_ok_iff.1 h
    obtain ⟨d, hd⟩ := Rule.exists_holds (placeAt_eq_ok_iff.1 hr) hknows.1 hhead
    obtain ⟨ds, hds⟩ := Rule.exists_hold_all hrs hknows.2 htail
    exact ⟨d :: ds, .cons hd hds⟩

theorem Rule.exists_holds_list {n : Node} {rules : List Rule} (h : n.list Rule.decode = .ok rules)
    (hknows : n.knows .rules = true) (hlast : n.ClosesLast) : ∃ d, n.Holds d := by
  obtain ⟨start, stop, content⟩ := n
  cases content with
  | array items =>
    obtain ⟨ds, hds⟩ := Rule.exists_hold_all h hknows hlast
    exact ⟨.array ds, .array hds⟩
  | _ => simp [Node.list, Node.content] at h

mutual

theorem Group.exists_holds : ∀ {n : Node} {g : Group}, Group.decode n = .ok g →
    n.knows .group = true → n.ClosesLast → ∃ d, n.Holds d
  | .mk start stop (.array items), _, h, hknows, hlast =>
    let ⟨ds, hds⟩ := Group.exists_hold_items h hknows hlast
    ⟨.array ds, .array hds⟩
  | .mk start stop (.object _ members), _, h, hknows, hlast =>
    let ⟨ms, hms⟩ := Group.exists_hold_members h hknows hlast
    ⟨.object ms, .object hms⟩
  | .mk start stop .null, _, h, _, _ | .mk start stop (.flag _), _, h, _, _
  | .mk start stop (.number _), _, h, _, _ | .mk start stop (.text _), _, h, _, _
  | .mk start stop (.badText _), _, h, _, _ | .mk start stop (.absent _), _, h, _, _
  | .mk start stop (.bad _), _, h, _, _ => by simp [Group.decode] at h

theorem Group.exists_holds_list : ∀ {n : Node} {groups : List Group},
    Group.decodeList n = .ok groups → n.knows .groups = true → n.ClosesLast → ∃ d, n.Holds d
  | .mk start stop (.array items), _, h, hknows, hlast =>
    let ⟨ds, hds⟩ := Group.exists_hold_all h hknows hlast
    ⟨.array ds, .array hds⟩
  | .mk start stop (.object _ _), _, h, _, _ | .mk start stop .null, _, h, _, _
  | .mk start stop (.flag _), _, h, _, _ | .mk start stop (.number _), _, h, _, _
  | .mk start stop (.text _), _, h, _, _ | .mk start stop (.badText _), _, h, _, _
  | .mk start stop (.absent _), _, h, _, _ | .mk start stop (.bad _), _, h, _, _ => by
    simp [Group.decodeList] at h

theorem Group.exists_hold_all : ∀ {items : Items} {groups : List Group} {index : Nat},
    Group.decodeAll items = .ok groups → items.knows .groups index = true → items.ClosesLast →
    ∃ ds, items.Hold ds
  | .nil _, _, _, _, _, _ => ⟨[], .nil⟩
  | .bad _ _, _, _, h, _, _ => by cases h
  | .cons _ head tail, _, _, h, hknows, hlast => by
    rw [Items.knows, Bool.and_eq_true] at hknows
    obtain ⟨hhead, -, htail⟩ := hlast
    rw [Group.decodeAll] at h
    obtain ⟨g, hg, h⟩ := bind_eq_ok_iff.1 h
    obtain ⟨gs, hgs, -⟩ := bind_eq_ok_iff.1 h
    obtain ⟨d, hd⟩ := Group.exists_holds (placeAt_eq_ok_iff.1 hg) hknows.1 hhead
    obtain ⟨ds, hds⟩ := Group.exists_hold_all hgs hknows.2 htail
    exact ⟨d :: ds, .cons hd hds⟩

theorem Group.exists_hold_items : ∀ {items : Items} {g : Group},
    Group.decodeItems items = .ok g → items.knows .group 0 = true → items.ClosesLast →
    ∃ ds, items.Hold ds
  | .nil _, _, _, _, _ => ⟨[], .nil⟩
  | .bad _ _, _, h, _, _ => by cases h
  | .cons _ first tail, _, h, hknows, hlast => by
    rw [Items.knows, Bool.and_eq_true] at hknows
    obtain ⟨hfirst, -, htail⟩ := hlast
    rw [Group.decodeItems] at h
    obtain ⟨rules, hrules, h⟩ := bind_eq_ok_iff.1 h
    obtain ⟨d₁, hd₁⟩ := Rule.exists_holds_list (placeAt_eq_ok_iff.1 hrules) hknows.1 hfirst
    cases tail with
    | nil => exact ⟨[d₁], .cons hd₁ .nil⟩
    | bad => cases h
    | cons _ second tail =>
      have hknows₂ := hknows.2
      rw [Items.knows, Bool.and_eq_true] at hknows₂
      obtain ⟨hsecond, -, htail⟩ := htail
      obtain ⟨groups, hgroups, h⟩ := bind_eq_ok_iff.1 h
      obtain ⟨d₂, hd₂⟩ := Group.exists_holds_list (placeAt_eq_ok_iff.1 hgroups) hknows₂.1 hsecond
      obtain ⟨⟨connective, tail'⟩, hnext, h⟩ := bind_eq_ok_iff.1 h
      obtain ⟨_, hfinish, -⟩ := bind_eq_ok_iff.1 h
      obtain ⟨hopen, -, hback⟩ := Items.next?_eq_ok Connective.readsAll hnext htail
      obtain ⟨close, rfl⟩ := (Items.finish_eq_ok_iff hopen).1 hfinish
      obtain ⟨ds, hds⟩ := hback [] .nil
      exact ⟨d₁ :: d₂ :: ds, .cons hd₁ (.cons hd₂ hds)⟩

theorem Group.exists_hold_members : ∀ {members : Members} {p : PartialGroup} {g : Group},
    Group.decodeMembers p members = .ok g → members.knows .group = true → members.ClosesLast →
    ∃ ms, members.Hold ms
  | .nil _, _, _, _, _, _ => ⟨[], .nil⟩
  | .bad _ _, _, _, h, _, _ => by cases h
  | .cons _ key _ value tail, p, g, h, hknows, hlast => by
    rw [Members.knows, Bool.and_eq_true] at hknows
    obtain ⟨hvalue, htail⟩ := hlast
    obtain ⟨hknows, hknows'⟩ := hknows
    rw [Group.decodeMembers] at h
    split at h
    · next hkey => simp [Role.member?, hkey] at hknows
    · next m hkey =>
      simp only [Role.member?, hkey] at hknows
      split at h
      · cases h
      · have hread : ∃ d, value.Holds d := by
          cases m with
          | rules =>
            obtain ⟨rules, hrules, -⟩ := bind_eq_ok_iff.1 h
            exact Rule.exists_holds_list (placeAt_eq_ok_iff.1 hrules) hknows hvalue
          | groups =>
            obtain ⟨groups, hgroups, -⟩ := bind_eq_ok_iff.1 h
            exact Group.exists_holds_list (placeAt_eq_ok_iff.1 hgroups) hknows hvalue
          | connective =>
            obtain ⟨c, hc, -⟩ := bind_eq_ok_iff.1 h
            exact Connective.readsAll (placeAt_eq_ok_iff.1 hc)
        have hrest : ∃ ms, tail.Hold ms := by
          cases m <;> obtain ⟨_, -, h⟩ := bind_eq_ok_iff.1 h <;>
            exact Group.exists_hold_members h hknows' htail
        obtain ⟨d, hd⟩ := hread
        obtain ⟨ms, hms⟩ := hrest
        exact ⟨(key, d) :: ms, .cons hd hms⟩

end

/-! ### Both ways of reading -/

theorem Group.decode_eq_ok_iff_sorted {n : Node} {g : Group} (hknows : n.knows .group = true)
    (hlast : n.ClosesLast) (honce : n.keyedOnce = true) :
    Group.decode n = .ok g ↔ ∃ d, n.Holds d ∧ Group.Described d.sorted g := by
  constructor
  · intro h
    obtain ⟨d, hd⟩ := Group.exists_holds h hknows hlast
    refine ⟨d, hd, (Group.described_sorted g (hd.keyedOnce honce)).2 ?_⟩
    exact (Group.decode_eq_ok_iff d hd hlast).1 h
  · rintro ⟨d, hd, h⟩
    exact (Group.decode_eq_ok_iff d hd hlast).2 ((Group.described_sorted g (hd.keyedOnce honce)).1 h)

theorem Group.decodeList_eq_ok_iff_sorted {n : Node} {groups : List Group}
    (hknows : n.knows .groups = true) (hlast : n.ClosesLast)
    (honce : n.keyedOnce = true) : Group.decodeList n = .ok groups ↔
      ∃ d, n.Holds d ∧ Listed Group.Described d.sorted groups := by
  have hsorted {d : Document} (hd : n.Holds d) :
      Listed Group.Described d.sorted groups ↔ Listed Group.Described d groups :=
    listed_sorted (hd.keyedOnce honce) fun _ hds => Group.described_sortedItems groups hds
  constructor
  · intro h
    obtain ⟨d, hd⟩ := Group.exists_holds_list h hknows hlast
    exact ⟨d, hd, (hsorted hd).2 ((Group.decodeList_eq_ok_iff d hd hlast).1 h)⟩
  · rintro ⟨d, hd, h⟩
    exact (Group.decodeList_eq_ok_iff d hd hlast).2 ((hsorted hd).1 h)

theorem parseGroups_eq_ok_iff_holds {text : String} {groups : List Group} :
    parseGroups text = .ok groups ↔
      (∃ d, (Node.ofText text).Holds d ∧ Definition.Described d.sorted groups) ∧
        EndsWithValue text := by
  simp only [parseGroups_eq_ok_iff, Document.parse_eq_ok_iff]
  grind

def Json.Node.isObject (n : Node) : Bool :=
  match n.content with
  | .object .. => true
  | _ => false

def Json.Node.isArray (n : Node) : Bool :=
  match n.content with
  | .array _ => true
  | _ => false

theorem Json.Node.Holds.of_isObject {n : Node} {d : Document} (h : n.Holds d)
    (hobject : n.isObject = true) : ∃ ms, d = .object ms := by
  cases h with
  | object => exact ⟨_, rfl⟩
  | _ => simp [Node.isObject, Node.content] at hobject

theorem Json.Node.Holds.of_isArray {n : Node} {d : Document} (h : n.Holds d)
    (harray : n.isArray = true) : ∃ ds, d = .array ds := by
  cases h with
  | array => exact ⟨_, rfl⟩
  | _ => simp [Node.isArray, Node.content] at harray

theorem Definition.described_object_iff {ms : List (String × Document)} {g : Group} :
    Definition.Described (.object ms) [g] ↔ Group.Described (.object ms) g := by
  constructor
  · rintro ⟨h⟩
    assumption
  · exact .single

theorem Definition.described_array_iff {ds : List Document} {groups : List Group} :
    Definition.Described (.array ds) groups ↔
      Listed Group.Described (.array ds) groups ∧ groups ≠ [] := by
  constructor
  · rintro ⟨h, hne⟩
    exact ⟨⟨ds, rfl, h⟩, hne⟩
  · rintro ⟨⟨_, ⟨⟩, h⟩, hne⟩
    exact .list h hne

/-- Reading a definition in one pass over its text and reading it from the document that the text holds agree,
where no object repeats a key and all members of groups and rules are known. -/
theorem parseGroups_iff_streaming {text : String}
    (honce : (Node.ofText text).keyedOnce = true) :
    ((Node.ofText text).isObject = true → (Node.ofText text).knows .group = true →
      ∀ g, parseGroups text = .ok [g] ↔ Group.parse text = .ok g) ∧
    ((Node.ofText text).isArray = true → (Node.ofText text).knows .groups = true →
      ∀ groups, parseGroups text = .ok groups ↔
        decodeText Group.decodeList text = .ok groups ∧ groups ≠ []) := by
  have hlast := Node.closesLast_ofText text
  constructor
  · intro hobject hknows g
    rw [parseGroups_eq_ok_iff_holds, Group.parse, mapError_eq_ok_iff, decodeText_eq_ok_iff,
      Group.decode_eq_ok_iff_sorted hknows hlast honce]
    refine and_congr_left fun _ => exists_congr fun d => and_congr_right fun hd => ?_
    obtain ⟨ms, rfl⟩ := hd.of_isObject hobject
    exact Definition.described_object_iff
  · intro harray hknows groups
    have hread : (∃ d, (Node.ofText text).Holds d ∧ Definition.Described d.sorted groups) ↔
        (∃ d, (Node.ofText text).Holds d ∧ Listed Group.Described d.sorted groups) ∧
          groups ≠ [] := by
      rw [← exists_and_right]
      refine exists_congr fun d => ?_
      rw [and_assoc]
      refine and_congr_right fun hd => ?_
      obtain ⟨ds, rfl⟩ := hd.of_isArray harray
      exact Definition.described_array_iff
    rw [parseGroups_eq_ok_iff_holds, decodeText_eq_ok_iff,
      Group.decodeList_eq_ok_iff_sorted hknows hlast honce, hread]
    exact and_right_comm

/-- Groups and rules are lists and objects, their members stand in other orders than that of the alphabet, and
some numbers are doubles. -/
theorem parseGroups_iff_streaming_nested :
    let object := "\x7b\"rules\":[\x7b\"value\":-0,\"op\":\">\",\"field\":\"b\"\x7d],\"groups\":[[[[\"a\",\"in\"]],[],\"or\"]]\x7d"
    let list := "[\x7b\"logic\":\"||\",\"children\":[]\x7d,[]]"
    ((Node.ofText object).keyedOnce = true ∧ (Node.ofText object).isObject = true ∧
      (Node.ofText object).knows .group = true ∧
      ∃ g, Group.parse object = .ok g ∧ parseGroups object = .ok [g]) ∧
    (Node.ofText list).keyedOnce = true ∧ (Node.ofText list).isArray = true ∧
      (Node.ofText list).knows .groups = true ∧
      ∃ groups, decodeText Group.decodeList list = .ok groups ∧ groups.length = 2 ∧
        parseGroups list = .ok groups := by
  intro object list
  have hobject : (Node.ofText object).keyedOnce = true ∧ (Node.ofText object).isObject = true ∧
      (Node.ofText object).knows .group = true := by decide +kernel
  have hlist : (Node.ofText list).keyedOnce = true ∧ (Node.ofText list).isArray = true ∧
      (Node.ofText list).knows .groups = true := by decide +kernel
  have hone : (Group.parse object).toOption.isSome = true := by decide +kernel
  have htwo : (decodeText Group.decodeList list).toOption.map List.length = some 2 := by
    decide +kernel
  refine ⟨⟨hobject.1, hobject.2.1, hobject.2.2, ?_⟩, hlist.1, hlist.2.1, hlist.2.2, ?_⟩
  · obtain ⟨g, hg⟩ := Option.isSome_iff_exists.1 hone
    have hread := toOption_eq_some_iff.1 hg
    have hiff := (parseGroups_iff_streaming hobject.1).1 hobject.2.1 hobject.2.2 g
    exact ⟨g, hread, hiff.2 hread⟩
  · obtain ⟨groups, hgroups, hlength⟩ := Option.map_eq_some_iff.1 htwo
    have hread := toOption_eq_some_iff.1 hgroups
    have hne : groups ≠ [] := List.ne_nil_of_length_pos (by omega)
    have hiff := (parseGroups_iff_streaming hlist.1).2 hlist.2.1 hlist.2.2 groups
    exact ⟨groups, hread, hlength, hiff.2 ⟨hread, hne⟩⟩

end RuleTree
