import RuleTree.Proofs.Definition.Legible
import RuleTree.Proofs.Definition.RoundTrip
import RuleTree.Proofs.Definition.Streaming
import RuleTree.Proofs.Json.Limit

/-! Saving what was loaded, and loading it again. A saved tree is loaded if and only if its text nests no deeper
than texts are read, and then its numbers are what their texts are read as. -/

namespace RuleTree

open Json

/-! ### Numbers read back -/

theorem Number.Legible.canonical {n : Number} (h : n.Legible) : n.canonical = n := by
  cases h with
  | integer hi => exact (canonical_eq_ofInt (toInt?_ofInt hi)).2
  | real => rfl

theorem Number.reread_canonical (n : Number) : n.canonical.reread = n.reread := by
  cases n with
  | signed | real => rfl
  | unsigned n =>
    have hvalue : (Number.unsigned n).toInt? = some (n.toNat : Int) := rfl
    obtain ⟨hword, hcanonical⟩ := canonical_eq_ofInt hvalue
    rw [hcanonical, reread_of_toInt? hvalue, reread_of_toInt? (toInt?_ofInt hword)]

/-- An integer is read back in its narrowest kind. -/
theorem Number.reread_eq_canonical {n : Number} {i : Int} (h : n.toInt? = some i) : n.reread = n.canonical := by
  rw [reread_of_toInt? h, ← (canonical_eq_ofInt h).2]

theorem Number.finite_canonical (n : Number) : n.canonical.finite = n.finite := by
  cases n with
  | signed | real => rfl
  | unsigned n =>
    obtain ⟨hword, hcanonical⟩ := canonical_eq_ofInt (n := .unsigned n) rfl
    rw [hcanonical, finite_of_toInt? (toInt?_ofInt hword)]
    rfl

theorem Number.legible_reread {n : Number} (h : n.finite = true) : n.reread.Legible :=
  (numeral_reread h).legible

/-- An integer that comes from a text is read back as it is. -/
theorem Number.Legible.reread_eq {n : Number} {i : Int} (h : n.Legible) (hi : n.toInt? = some i) :
    n.reread = n := by
  rw [reread_eq_canonical hi, h.canonical]

/-! ### Trees read back -/

mutual

/-- The operand with every number as it is read back; a timestamp is read back as a number. -/
def Operand.reread : Operand → Operand
  | .number n => .number n.reread
  | .timestamp t => .number t.toNumber
  | .list items => .list (Operand.rereadItems items)
  | o => o

def Operand.rereadItems : List Operand → List Operand
  | [] => []
  | o :: rest => o.reread :: Operand.rereadItems rest

end

def Rule.reread (r : Rule) : Rule := { r with operand := r.operand.reread }

mutual

def Group.reread : Group → Group
  | .mk rules groups connective => .mk (rules.map Rule.reread) (Group.rereadAll groups) connective

def Group.rereadAll : List Group → List Group
  | [] => []
  | g :: rest => g.reread :: Group.rereadAll rest

end

mutual

/-- Are all numbers of the operand finite? -/
def Operand.finite : Operand → Bool
  | .number n => n.finite
  | .list items => Operand.finiteItems items
  | _ => true

def Operand.finiteItems : List Operand → Bool
  | [] => true
  | o :: rest => o.finite && Operand.finiteItems rest

end

mutual

/-- Are all numbers in the rules of the tree finite? -/
def Group.finite : Group → Bool
  | .mk rules groups _ => rules.all (fun r => r.operand.finite) && Group.finiteAll groups

def Group.finiteAll : List Group → Bool
  | [] => true
  | g :: rest => g.finite && Group.finiteAll rest

end

/-! ### Documents of trees read back -/

mutual

/-- The document of an operand can be written, and is read back as that of the operand read back. -/
theorem Operand.document_reread : ∀ {o : Operand}, o.finite = true →
    o.document.Finite ∧ o.document.reread = o.reread.document ∧ o.reread.canonical = o.reread
  | .null, _ | .flag _, _ | .text _, _ => ⟨trivial, rfl, rfl⟩
  | .number n, h => by
    have hcanonical := (Number.legible_reread h).canonical
    refine ⟨(Number.finite_canonical n).trans h, ?_, ?_⟩
    · rw [Operand.document, Document.reread, Number.reread_canonical, Operand.reread,
        Operand.document, hcanonical]
    · rw [Operand.reread, Operand.canonical, hcanonical]
  | .timestamp t, _ => by
    refine ⟨rfl, ?_, rfl⟩
    rw [Operand.document, Document.reread, Number.reread_eq_canonical rfl]
    rfl
  | .list items, h => by
    have hitems : Operand.finiteItems items = true := h
    obtain ⟨hfinite, hdocument, hcanonical⟩ := Operand.documents_reread hitems
    refine ⟨hfinite, ?_, ?_⟩
    · rw [Operand.document, Document.reread, hdocument, Operand.reread, Operand.document]
    · rw [Operand.reread, Operand.canonical, hcanonical]

theorem Operand.documents_reread : ∀ {os : List Operand}, Operand.finiteItems os = true →
    Document.FiniteItems (Operand.documents os) ∧
      Document.rereadItems (Operand.documents os) = Operand.documents (Operand.rereadItems os) ∧
      Operand.canonicalItems (Operand.rereadItems os) = Operand.rereadItems os
  | [], _ => ⟨trivial, rfl, rfl⟩
  | o :: rest, h => by
    rw [Operand.finiteItems, Bool.and_eq_true] at h
    obtain ⟨hfinite, hdocument, hcanonical⟩ := Operand.document_reread h.1
    obtain ⟨hfinite', hdocument', hcanonical'⟩ := Operand.documents_reread h.2
    refine ⟨⟨hfinite, hfinite'⟩, ?_, ?_⟩
    · rw [Operand.documents, Document.rereadItems, hdocument, hdocument', Operand.rereadItems,
        Operand.documents]
    · rw [Operand.rereadItems, Operand.canonicalItems, hcanonical, hcanonical']

end

theorem Rule.document_reread {r : Rule} (h : r.operand.finite = true) :
    r.document.Finite ∧ r.document.reread = r.reread.document ∧ r.reread.canonical = r.reread := by
  obtain ⟨hfinite, hdocument, hcanonical⟩ := Operand.document_reread h
  refine ⟨⟨trivial, trivial, hfinite, trivial, trivial⟩, ?_, ?_⟩
  · simp only [Rule.document, Rule.reread, Document.reread, Document.rereadMembers, hdocument]
  · simp only [Rule.canonical, Rule.reread, hcanonical]

theorem Rule.documents_reread {rules : List Rule} (h : ∀ r ∈ rules, r.operand.finite = true) :
    Document.FiniteItems (rules.map Rule.document) ∧
      Document.rereadItems (rules.map Rule.document) = (rules.map Rule.reread).map Rule.document ∧
      (rules.map Rule.reread).map Rule.canonical = rules.map Rule.reread := by
  induction rules with
  | nil => exact ⟨trivial, rfl, rfl⟩
  | cons r rest ih =>
    rw [List.forall_mem_cons] at h
    obtain ⟨hfinite, hdocument, hcanonical⟩ := Rule.document_reread h.1
    obtain ⟨hfinite', hdocument', hcanonical'⟩ := ih h.2
    refine ⟨⟨hfinite, hfinite'⟩, ?_, ?_⟩
    · simp only [List.map_cons, Document.rereadItems, hdocument, hdocument']
    · simp only [List.map_cons, hcanonical, hcanonical']

mutual

theorem Group.document_reread : ∀ {g : Group}, g.finite = true →
    g.document.Finite ∧ g.document.reread = g.reread.document ∧ g.reread.canonical = g.reread
  | .mk rules groups c, h => by
    rw [Group.finite, Bool.and_eq_true, List.all_eq_true] at h
    obtain ⟨hfinite, hdocument, hcanonical⟩ := Rule.documents_reread h.1
    obtain ⟨hfinite', hdocument', hcanonical'⟩ := Group.documents_reread h.2
    refine ⟨⟨hfinite, hfinite', trivial, trivial⟩, ?_, ?_⟩
    · simp only [Group.document, Group.reread, Document.reread, Document.rereadMembers, hdocument,
        hdocument']
    · rw [Group.reread, Group.canonical, hcanonical, hcanonical']

theorem Group.documents_reread : ∀ {gs : List Group}, Group.finiteAll gs = true →
    Document.FiniteItems (Group.documents gs) ∧
      Document.rereadItems (Group.documents gs) = Group.documents (Group.rereadAll gs) ∧
      Group.canonicalAll (Group.rereadAll gs) = Group.rereadAll gs
  | [], _ => ⟨trivial, rfl, rfl⟩
  | g :: rest, h => by
    rw [Group.finiteAll, Bool.and_eq_true] at h
    obtain ⟨hfinite, hdocument, hcanonical⟩ := Group.document_reread h.1
    obtain ⟨hfinite', hdocument', hcanonical'⟩ := Group.documents_reread h.2
    refine ⟨⟨hfinite, hfinite'⟩, ?_, ?_⟩
    · rw [Group.documents, Document.rereadItems, hdocument, hdocument', Group.rereadAll,
        Group.documents]
    · rw [Group.rereadAll, Group.canonicalAll, hcanonical, hcanonical']

end

/-! ### Trees that break off -/

theorem Operand.not_breaks {n : Node} {o : Operand} (h : Operand.decode n = .ok o) (d : Document) :
    ¬ n.Breaks d := by
  obtain ⟨d', hd'⟩ := Operand.readsAll h
  exact fun hbreaks => hbreaks.not_holds hd'

/-- A rule whose known members break off is not decoded. -/
theorem Rule.not_break_members : ∀ {members : Members} {ms : List (String × Document)}
    {p : PartialRule} {r : Rule}, Rule.decodeMembers p members = .ok r →
    (∀ m ∈ ms, (RuleMember.ofKey? m.1).isSome = true) → ¬ members.Break ms
  | .nil _, _, _, _, _, _, hbreak => by cases hbreak
  | .bad _ _, _, _, _, h, _, _ => by cases h
  | .cons _ key _ value tail, [], _, _, _, _, hbreak => by cases hbreak
  | .cons _ key _ value tail, (k, d) :: ms, p, r, h, hknown, hbreak => by
    rw [List.forall_mem_cons] at hknown
    have hkey : key = k := by cases hbreak <;> rfl
    obtain ⟨m, hm⟩ := Option.isSome_iff_exists.1 hknown.1
    rw [Rule.decodeMembers, hkey, hm] at h
    dsimp only at h
    split at h
    · cases h
    · obtain ⟨q, hq, htail⟩ := bind_eq_ok_iff.1 h
      obtain ⟨d', hd'⟩ := PartialRule.put_reads (placeAt_eq_ok_iff.1 hq)
      cases hbreak with
      | head hvalue => exact hvalue.not_holds hd'
      | tail _ hrest => exact Rule.not_break_members htail hknown.2 hrest

theorem Rule.not_breaks {n : Node} {r : Rule} (h : Rule.decode n = .ok r) (r' : Rule) :
    ¬ n.Breaks r'.document := by
  intro hbreaks
  rw [Rule.document] at hbreaks
  cases hbreaks with
  | object hbreak => exact Rule.not_break_members h (by simp [RuleMember.ofKey?]) hbreak

theorem Rule.not_break_all : ∀ {items : Items} {rules : List Rule},
    items.decodeAll Rule.decode = .ok rules →
    ∀ rules' : List Rule, ¬ items.Break (rules'.map Rule.document)
  | .nil _, _, _, _, hbreak => by cases hbreak
  | .bad _ _, _, h, _, _ => by cases h
  | .cons _ head tail, _, h, rules', hbreak => by
    obtain ⟨r, hr, h⟩ := bind_eq_ok_iff.1 h
    obtain ⟨rs, hrs, -⟩ := bind_eq_ok_iff.1 h
    cases rules' with
    | nil => cases hbreak
    | cons r' rest =>
      cases hbreak with
      | head hhead => exact Rule.not_breaks (placeAt_eq_ok_iff.1 hr) r' hhead
      | tail _ htail => exact Rule.not_break_all hrs rest htail

theorem Rule.not_breaks_list {n : Node} {rules : List Rule} (h : n.list Rule.decode = .ok rules)
    (rules' : List Rule) : ¬ n.Breaks (.array (rules'.map Rule.document)) := by
  intro hbreaks
  cases hbreaks with
  | array hbreak => exact Rule.not_break_all h rules' hbreak

/-- The member of a group is decoded. -/
def GroupMember.Decodes (value : Node) : GroupMember → Prop
  | rules => ∃ rules, value.list Rule.decode = .ok rules
  | groups => ∃ groups, Group.decodeList value = .ok groups
  | connective => ∃ c, Connective.decode value = .ok c

theorem Group.decodeMembers_cons {p : PartialGroup} {m : GroupMember} {close afterKey : Close}
    {key : String} {value : Node} {tail : Members} {g : Group} (hkey : GroupMember.ofKey? key = some m)
    (h : Group.decodeMembers p (.cons close key afterKey value tail) = .ok g) :
    m.Decodes value ∧ ∃ q, Group.decodeMembers q tail = .ok g := by
  rw [Group.decodeMembers, hkey] at h
  dsimp only at h
  split at h
  · cases h
  · cases m <;>
    · obtain ⟨a, ha, h⟩ := bind_eq_ok_iff.1 h
      exact ⟨⟨a, placeAt_eq_ok_iff.1 ha⟩, _, h⟩

mutual

/-- A node that follows the document of a group and breaks off is not decoded as a group. -/
theorem Group.not_breaks : ∀ (g : Group) {n : Node} {g' : Group}, Group.decode n = .ok g' →
    ¬ n.Breaks g.document
  | .mk rules groups c, n, g', h, hbreaks => by
    have hrules : GroupMember.ofKey? "rules" = some .rules := rfl
    have hgroups : GroupMember.ofKey? "groups" = some .groups := rfl
    have hconnective : GroupMember.ofKey? "logical_operation" = some .connective := rfl
    rw [Group.document] at hbreaks
    cases hbreaks with
    | object hmembers =>
      rw [Group.decode] at h
      cases hmembers with
      | bad => cases h
      | head hvalue =>
        obtain ⟨⟨rs, hrs⟩, -⟩ := Group.decodeMembers_cons hrules h
        exact Rule.not_breaks_list hrs rules hvalue
      | tail _ hmembers =>
        obtain ⟨-, q, h⟩ := Group.decodeMembers_cons hrules h
        cases hmembers with
        | bad => cases h
        | head hvalue =>
          obtain ⟨⟨gs, hgs⟩, -⟩ := Group.decodeMembers_cons hgroups h
          cases hvalue with
          | array hitems => exact Group.not_break_all groups hgs hitems
        | tail _ hmembers =>
          obtain ⟨-, q, h⟩ := Group.decodeMembers_cons hgroups h
          cases hmembers with
          | bad => cases h
          | head hvalue => cases hvalue
          | tail _ hmembers =>
            obtain ⟨-, q, h⟩ := Group.decodeMembers_cons hconnective h
            cases hmembers
            cases h

theorem Group.not_break_all : ∀ (gs : List Group) {items : Items} {gs' : List Group},
    Group.decodeAll items = .ok gs' → ¬ items.Break (Group.documents gs)
  | [], _, _, h, hbreak => by
    cases hbreak
    cases h
  | g :: rest, items, gs', h, hbreak => by
    cases hbreak with
    | bad => cases h
    | head hhead =>
      rw [Group.decodeAll] at h
      obtain ⟨g', hg', -⟩ := bind_eq_ok_iff.1 h
      exact Group.not_breaks g (placeAt_eq_ok_iff.1 hg') hhead
    | tail _ htail =>
      rw [Group.decodeAll] at h
      obtain ⟨g', -, h⟩ := bind_eq_ok_iff.1 h
      obtain ⟨gs', hgs', -⟩ := bind_eq_ok_iff.1 h
      exact Group.not_break_all rest hgs' htail

end

/-! ### Loading a saved tree -/

/-- A saved tree of finite numbers is loaded if and only if its text nests no deeper than texts are read. -/
theorem Group.parse_json_iff {g : Group} (h : g.finite = true) (g' : Group) :
    Group.parse g.json = .ok g' ↔ g.document.nesting ≤ nestingLimit ∧ g' = g.reread := by
  obtain ⟨hfinite, hdocument, hcanonical⟩ := Group.document_reread h
  have hdecode (n : Node) (hn : n.Holds g.document.reread) : Group.decode n = .ok g.reread := by
    rw [hdocument] at hn
    rw [Group.decode_of_holds g.reread hn, hcanonical]
  have hbreaks (n : Node) (hn : n.Breaks g.document.reread) (g' : Group) :
      Group.decode n ≠ .ok g' := by
    rw [hdocument] at hn
    exact fun hg' => Group.not_breaks g.reread hg' hn
  rw [Group.parse, mapError_eq_ok_iff, Group.json_eq_write,
    decodeText_write_iff hfinite hdecode hbreaks, Document.nesting_reread]

/-! ### Trees that come from a text -/

mutual

theorem Operand.Legible.finite : ∀ {o : Operand}, o.Legible → o.finite = true
  | .null, _ | .flag _, _ | .text _, _ => rfl
  | .number _, h => Number.Legible.finite h
  | .list items, h =>
    have hitems : Operand.LegibleItems items := h
    Operand.LegibleItems.finite hitems

theorem Operand.LegibleItems.finite : ∀ {os : List Operand}, Operand.LegibleItems os →
    Operand.finiteItems os = true
  | [], _ => rfl
  | o :: rest, h => by
    rw [Operand.finiteItems, Operand.Legible.finite h.1, Operand.LegibleItems.finite h.2]
    rfl

end

mutual

theorem Group.Legible.finite : ∀ {g : Group}, g.Legible → g.finite = true
  | .mk rules groups c, h => by
    rw [Group.finite, Group.LegibleAll.finite h.2, Bool.and_true, List.all_eq_true]
    exact fun r hr => (h.1 r hr).finite

theorem Group.LegibleAll.finite : ∀ {gs : List Group}, Group.LegibleAll gs →
    Group.finiteAll gs = true
  | [], _ => rfl
  | g :: rest, h => by
    rw [Group.finiteAll, Group.Legible.finite h.1, Group.LegibleAll.finite h.2]
    rfl

end

mutual

/-- The numbers of an operand, at every depth. -/
def Operand.numbers : Operand → List Number
  | .number n => [n]
  | .list items => Operand.numbersItems items
  | _ => []

def Operand.numbersItems : List Operand → List Number
  | [] => []
  | o :: rest => o.numbers ++ Operand.numbersItems rest

end

mutual

/-- The numbers in the rules of a tree. -/
def Group.numbers : Group → List Number
  | .mk rules groups _ => rules.flatMap (fun r => r.operand.numbers) ++ Group.numbersAll groups

def Group.numbersAll : List Group → List Number
  | [] => []
  | g :: rest => g.numbers ++ Group.numbersAll rest

end

def Number.double? : Number → Option Binary64
  | .real x => some x
  | _ => none

def Operand.doubles (o : Operand) : List Binary64 := o.numbers.filterMap Number.double?

def Group.doubles (g : Group) : List Binary64 := g.numbers.filterMap Number.double?

mutual

theorem Operand.Legible.numbers : ∀ {o : Operand}, o.Legible → ∀ n ∈ o.numbers, n.Legible
  | .null, _ | .flag _, _ | .text _, _ => List.forall_mem_nil _
  | .number _, h => List.forall_mem_singleton.2 h
  | .list items, h =>
    have hitems : Operand.LegibleItems items := h
    Operand.LegibleItems.numbers hitems

theorem Operand.LegibleItems.numbers : ∀ {os : List Operand}, Operand.LegibleItems os →
    ∀ n ∈ Operand.numbersItems os, n.Legible
  | [], _ => List.forall_mem_nil _
  | _ :: _, h => List.forall_mem_append.2 ⟨Operand.Legible.numbers h.1, Operand.LegibleItems.numbers h.2⟩

end

mutual

theorem Group.Legible.numbers : ∀ {g : Group}, g.Legible → ∀ n ∈ g.numbers, n.Legible
  | .mk rules _ _, h => by
    refine List.forall_mem_append.2 ⟨fun n hn => ?_, Group.LegibleAll.numbers h.2⟩
    obtain ⟨r, hr, hn⟩ := List.mem_flatMap.1 hn
    exact (h.1 r hr).numbers n hn

theorem Group.LegibleAll.numbers : ∀ {gs : List Group}, Group.LegibleAll gs →
    ∀ n ∈ Group.numbersAll gs, n.Legible
  | [], _ => List.forall_mem_nil _
  | _ :: _, h => List.forall_mem_append.2 ⟨Group.Legible.numbers h.1, Group.LegibleAll.numbers h.2⟩

end

/-- The double is read back as a double that equals it. -/
def Binary64.ReadsBack (x : Binary64) : Prop := (Number.real x).reread.same (.real x) = true

mutual

/-- Only the doubles of an operand that comes from a text may differ when it is read back. -/
theorem Operand.same_reread_iff : ∀ {o : Operand}, o.Legible →
    (o.reread.same o = true ↔ ∀ x ∈ o.doubles, x.ReadsBack)
  | .null, _ | .flag _, _ | .text _, _ => by
    simp [Operand.reread, Operand.same, Operand.doubles, Operand.numbers]
  | .number (.signed n), h => by
    have hreread : (Number.signed n).reread = .signed n := Number.Legible.reread_eq h rfl
    simp [Operand.reread, Operand.same, Operand.doubles, Operand.numbers, Number.double?, hreread, Number.same]
  | .number (.unsigned n), h => by
    have hreread : (Number.unsigned n).reread = .unsigned n := Number.Legible.reread_eq h rfl
    simp [Operand.reread, Operand.same, Operand.doubles, Operand.numbers, Number.double?, hreread, Number.same]
  | .number (.real x), _ => by
    simp [Operand.reread, Operand.same, Operand.doubles, Operand.numbers, Number.double?, Binary64.ReadsBack]
  | .list items, h => by
    have hitems : Operand.LegibleItems items := h
    rw [Operand.reread, Operand.same, Operand.sameItems_reread_iff hitems, Operand.doubles, Operand.numbers]

theorem Operand.sameItems_reread_iff : ∀ {os : List Operand}, Operand.LegibleItems os →
    (Operand.sameItems (Operand.rereadItems os) os = true ↔
      ∀ x ∈ (Operand.numbersItems os).filterMap Number.double?, x.ReadsBack)
  | [], _ => by simp [Operand.rereadItems, Operand.sameItems, Operand.numbersItems]
  | o :: rest, h => by
    rw [Operand.rereadItems, Operand.sameItems, Operand.numbersItems, List.filterMap_append, Bool.and_eq_true,
      List.forall_mem_append, Operand.same_reread_iff h.1, Operand.sameItems_reread_iff h.2, Operand.doubles]

end

theorem Rule.same_reread_iff {r : Rule} (h : r.operand.Legible) :
    r.reread.same r = true ↔ ∀ x ∈ r.operand.doubles, x.ReadsBack := by
  rw [← Operand.same_reread_iff h]
  simp [Rule.same, Rule.reread]

theorem Rule.sameAll_reread_iff {rules : List Rule} (h : ∀ r ∈ rules, r.operand.Legible) :
    ((rules.map Rule.reread).zip rules).all (fun (a, b) => a.same b) = true ↔
      ∀ x ∈ (rules.flatMap fun r => r.operand.numbers).filterMap Number.double?, x.ReadsBack := by
  induction rules with
  | nil => simp
  | cons r rest ih =>
    rw [List.forall_mem_cons] at h
    rw [List.map_cons, List.zip_cons_cons, List.all_cons, List.flatMap_cons, List.filterMap_append, Bool.and_eq_true,
      List.forall_mem_append, Rule.same_reread_iff h.1, ih h.2, Operand.doubles]

mutual

theorem Group.same_reread_iff : ∀ {g : Group}, g.Legible →
    (g.reread.same g = true ↔ ∀ x ∈ g.doubles, x.ReadsBack)
  | .mk rules groups c, h => by
    have hlength : ((rules.map Rule.reread).length == rules.length) = true := by simp
    have hconnective : (c == c) = true := by simp
    rw [Group.reread, Group.same, Group.doubles, Group.numbers, List.filterMap_append, hlength, hconnective,
      Bool.and_true, Bool.true_and, Bool.and_eq_true, List.forall_mem_append, Rule.sameAll_reread_iff h.1,
      Group.sameAll_reread_iff h.2]

theorem Group.sameAll_reread_iff : ∀ {gs : List Group}, Group.LegibleAll gs →
    (Group.sameAll (Group.rereadAll gs) gs = true ↔
      ∀ x ∈ (Group.numbersAll gs).filterMap Number.double?, x.ReadsBack)
  | [], _ => by simp [Group.rereadAll, Group.sameAll, Group.numbersAll]
  | g :: rest, h => by
    rw [Group.rereadAll, Group.sameAll, Group.numbersAll, List.filterMap_append, Bool.and_eq_true,
      List.forall_mem_append, Group.same_reread_iff h.1, Group.sameAll_reread_iff h.2, Group.doubles]

end

/-- A tree that was loaded from a text and is saved is loaded again if and only if its saved text nests no deeper
than texts are read. What is loaded is the tree with its numbers as they are read back: an integer as it is, so that it
is the same as the tree exactly when every double in it is read back as one that equals it. -/
theorem Group.reload_iff {text : String} {g : Group} (h : Group.parse text = .ok g) :
    (∀ g', Group.parse g.json = .ok g' ↔ g.document.nesting ≤ 127 ∧ g' = g.reread) ∧
      (∀ n ∈ g.numbers, ∀ i, n.toInt? = some i → n.reread = n) ∧
      (g.reread.same g = true ↔ ∀ x ∈ g.doubles, x.ReadsBack) := by
  have hlegible := Group.legible_parse h
  exact ⟨Group.parse_json_iff hlegible.finite, fun n hn _ hi => (hlegible.numbers n hn).reread_eq hi,
    Group.same_reread_iff hlegible⟩

/-- A half and an integer come back as they were. -/
theorem Group.reload_iff_half :
    ∃ g, Group.parse "[[[\"a\",\"in\",[0.5,7]]],[[]]]" = .ok g ∧
      g.numbers = [.real ⟨0x3fe0000000000000⟩, .signed 7] ∧ g.doubles = [⟨0x3fe0000000000000⟩] ∧
      (Number.signed 7).reread = .signed 7 ∧ g.reread.same g = true ∧ Group.parse g.json = .ok g.reread := by
  have hread : (Group.parse "[[[\"a\",\"in\",[0.5,7]]],[[]]]").toOption.map
      (fun g => (g.numbers, decide (g.document.nesting ≤ 127))) =
        some ([.real ⟨0x3fe0000000000000⟩, .signed 7], true) := by decide +kernel
  have hback : Binary64.ReadsBack ⟨0x3fe0000000000000⟩ := by
    unfold Binary64.ReadsBack
    decide +kernel
  obtain ⟨g, hg, hpair⟩ := Option.map_eq_some_iff.1 hread
  obtain ⟨hnumbers, hdepth⟩ := Prod.mk.inj hpair
  have hdoubles : g.doubles = [⟨0x3fe0000000000000⟩] := by
    rw [Group.doubles, hnumbers]
    rfl
  have hparse := toOption_eq_some_iff.1 hg
  obtain ⟨hload, hintegers, hsame⟩ := Group.reload_iff hparse
  refine ⟨g, hparse, hnumbers, hdoubles, hintegers _ (by simp [hnumbers]) 7 rfl, hsame.2 ?_,
    (hload g.reread).2 ⟨of_decide_eq_true hdepth, rfl⟩⟩
  rw [hdoubles, List.forall_mem_singleton]
  exact hback

/-- A group in a group, and so on. -/
def Group.nested : Nat → Group
  | 0 => .empty .and
  | k + 1 => .mk [] [Group.nested k] .and

/-- Nested groups as lists that leave out what they may. -/
def Group.nestedList : Nat → Document
  | 0 => .array []
  | k + 1 => .array [.array [], .array [Group.nestedList k]]

theorem Group.whole_nestedList : ∀ k, (Group.nestedList k).Whole
  | 0 => trivial
  | k + 1 => ⟨trivial, ⟨Group.whole_nestedList k, trivial⟩, trivial⟩

theorem Group.nesting_nestedList (k : Nat) : (Group.nestedList k).nesting = 2 * k + 1 := by
  induction k with
  | zero => rfl
  | succ k ih =>
    simp only [nestedList, Document.nesting, Document.nestingItems, ih]
    omega

/-- The saved form opens one bracket more than the list, for the rules of the innermost group. -/
theorem Group.nesting_nested (k : Nat) : (Group.nested k).document.nesting = 2 * k + 2 := by
  induction k with
  | zero => rfl
  | succ k ih =>
    simp only [nested, Group.document, Group.documents, Document.nesting, Document.nestingItems,
      Document.nestingMembers, List.map_nil, ih]
    omega

theorem Group.finite_nested : ∀ k, (Group.nested k).finite = true
  | 0 => rfl
  | k + 1 => by
    rw [nested, Group.finite, Group.finiteAll, Group.finite_nested k]
    rfl

theorem Group.decode_nestedList : ∀ (k : Nat) {n : Node}, n.Holds (Group.nestedList k) →
    Group.decode n = .ok (Group.nested k)
  | 0, _, h => by
    rw [nestedList] at h
    cases h with
    | array hitems =>
      cases hitems
      rfl
  | k + 1, _, h => by
    rw [nestedList] at h
    cases h with
    | array hitems =>
      obtain _ | ⟨hrules, _ | ⟨hgroups, _ | _⟩⟩ := hitems
      have hrules' := @Rule.decodeList_of_holds [] _ hrules
      cases hgroups with
      | array hgroups =>
        obtain _ | ⟨hgroup, _ | _⟩ := hgroups
        have hgroup' := Group.decode_nestedList k hgroup
        rw [Group.decode, Group.decodeItems, hrules']
        simp only [Group.decodeList, Group.decodeAll, hgroup', placeAt]
        rfl

/-- A double may be read back as another one, and a tree that a text of 127 open brackets holds may be saved to a
text with one bracket more. -/
theorem Group.reload_fails :
    (∃ g, Group.parse "[[[\"a\",\"=\",1e-24]]]" = .ok g ∧
      ∃ g', Group.parse g.json = .ok g' ∧ g'.same g = false) ∧
    ∃ g, Group.parse (Group.nestedList 63).write = .ok g ∧ ∀ g', Group.parse g.json ≠ .ok g' := by
  constructor
  · have hread : (Group.parse "[[[\"a\",\"=\",1e-24]]]").toOption.map
        (fun g => (g.doubles, decide (g.document.nesting ≤ 127))) =
          some ([⟨0x3af357c299a88ea8⟩], true) := by decide +kernel
    have hother : ¬ Binary64.ReadsBack ⟨0x3af357c299a88ea8⟩ := by
      unfold Binary64.ReadsBack
      decide +kernel
    obtain ⟨g, hg, hpair⟩ := Option.map_eq_some_iff.1 hread
    obtain ⟨hdoubles, hdepth⟩ := Prod.mk.inj hpair
    have hparse := toOption_eq_some_iff.1 hg
    have hlegible := Group.legible_parse hparse
    have hload := (Group.parse_json_iff hlegible.finite _).2 ⟨of_decide_eq_true hdepth, rfl⟩
    refine ⟨g, hparse, g.reread, hload, ?_⟩
    rw [← Bool.not_eq_true, Group.same_reread_iff hlegible, hdoubles, List.forall_mem_singleton]
    exact hother
  · have hload : Group.parse (Group.nestedList 63).write = .ok (Group.nested 63) := by
      have hdepth : (Group.nestedList 63).nesting ≤ nestingLimit := by
        rw [Group.nesting_nestedList]
        decide
      rw [Group.parse, decodeText_write (Group.whole_nestedList 63) hdepth
        fun _ => Group.decode_nestedList 63]
      rfl
    refine ⟨_, hload, fun g' hg' => ?_⟩
    have hdepth := ((Group.parse_json_iff (Group.finite_nested 63) g').1 hg').1
    rw [Group.nesting_nested] at hdepth
    exact absurd hdepth (by decide)

end RuleTree
