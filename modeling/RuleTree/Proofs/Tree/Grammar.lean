import RuleTree.Proofs.Tree.Formula

/-! Reading a shown tree. Connectives bind alike and from left to right, so parentheses alone say how a text is
read: no text has two readings, as long as the texts of rules have neither parentheses nor connectives in them. -/

namespace RuleTree

/-- A text without parentheses and without the words of connectives. -/
structure Plain (s : String) : Prop where
  opening : '(' ∉ s.toList
  closing : ')' ∉ s.toList
  words : ∀ c : Connective, ¬ c.display.toList <:+: s.toList

mutual

/-- Atoms with connectives between them, joined from left to right. -/
inductive ReadsExpr : String → Formula String → Prop
  | atom {s : String} {e : Formula String} (h : ReadsAtom s e) : ReadsExpr s e
  | join {s t : String} {e f : Formula String} (c : Connective) (hs : ReadsExpr s e) (ht : ReadsAtom t f) :
      ReadsExpr (s ++ " " ++ c.display ++ " " ++ t) (.join c e f)

/-- The word for truth, the text of a rule, or an expression in parentheses. -/
inductive ReadsAtom : String → Formula String → Prop
  | top : ReadsAtom "TRUE" .top
  | rule (r : Rule) (h : Plain r.display) : ReadsAtom r.display (.leaf r.display)
  | parens {s : String} {e : Formula String} (h : ReadsExpr s e) : ReadsAtom ("(" ++ s ++ ")") e

end

/-! ### Nesting -/

/-- Parentheses opened in the text and not closed. -/
def level (cs : List Char) : Int := cs.count '(' - cs.count ')'

theorem level_append (cs ds : List Char) : level (cs ++ ds) = level cs + level ds := by
  simp only [level, List.count_append]
  omega

theorem level_eq_zero {cs : List Char} (hopen : '(' ∉ cs) (hclose : ')' ∉ cs) : level cs = 0 := by
  simp [level, List.count_eq_zero.2 hopen, List.count_eq_zero.2 hclose]

/-- Every parenthesis is closed, and none before it is opened. -/
structure Balanced (cs : List Char) : Prop where
  whole : level cs = 0
  front : ∀ {us vs : List Char}, cs = us ++ vs → 0 ≤ level us

theorem balanced_of_not_mem {cs : List Char} (hopen : '(' ∉ cs) (hclose : ')' ∉ cs) : Balanced cs where
  whole := level_eq_zero hopen hclose
  front := by
    rintro us vs rfl
    rw [level_eq_zero (fun h => hopen (List.mem_append_left _ h)) fun h =>
      hclose (List.mem_append_left _ h)]

theorem Balanced.append {cs ds : List Char} (hc : Balanced cs) (hd : Balanced ds) : Balanced (cs ++ ds) where
  whole := by rw [level_append, hc.whole, hd.whole, Int.add_zero]
  front := by
    intro us vs h
    obtain ⟨ms, rfl, hds⟩ | ⟨ms, hcs, -⟩ := List.append_eq_append_iff.1 h
    · have hfront := hd.front hds
      rw [level_append, hc.whole]
      omega
    · exact hc.front hcs

theorem level_open (cs : List Char) : level ('(' :: cs) = 1 + level cs :=
  level_append ['('] cs

theorem level_blank (cs : List Char) : level (' ' :: cs) = level cs :=
  (level_append [' '] cs).trans (Int.zero_add _)

theorem level_close (cs : List Char) : level (cs ++ [')']) = level cs - 1 :=
  level_append cs [')']

/-- What stands before some place in a text in parentheses: nothing, the whole, or an open parenthesis and
what stands before a place in the text. -/
theorem parens_eq_append {cs us vs : List Char} (h : '(' :: (cs ++ [')']) = us ++ vs) :
    us = [] ∨ vs = [] ∨ ∃ ms ns, us = '(' :: ms ∧ cs = ms ++ ns := by
  cases us with
  | nil => exact .inl rfl
  | cons u ms =>
    obtain ⟨rfl, htail⟩ := List.cons_eq_cons.1 h
    obtain ⟨_ | ⟨d, ds⟩, rfl, hclose⟩ | ⟨ns, rfl, -⟩ := List.append_eq_append_iff.1 htail
    · exact .inr (.inr ⟨cs, [], by rw [List.append_nil], (List.append_nil cs).symm⟩)
    · obtain ⟨-, hnil⟩ := List.cons_eq_cons.1 hclose
      exact .inr (.inl (List.append_eq_nil_iff.1 hnil.symm).2)
    · exact .inr (.inr ⟨ms, ns, rfl, rfl⟩)

theorem Balanced.parens {cs : List Char} (h : Balanced cs) : Balanced ('(' :: (cs ++ [')'])) := by
  have hwhole : level ('(' :: (cs ++ [')'])) = 0 := by
    rw [level_open, level_close, h.whole]
    rfl
  refine ⟨hwhole, fun {us vs} hsplit => ?_⟩
  obtain rfl | rfl | ⟨ms, ns, rfl, hcs⟩ := parens_eq_append hsplit
  · exact le_refl 0
  · rw [List.append_nil] at hsplit
    rw [← hsplit, hwhole]
  · have hfront := h.front hcs
    rw [level_open]
    omega

/-! ### Words of connectives -/

/-- The text has no word of a connective outside of parentheses. -/
def Unjoined (cs : List Char) : Prop :=
  ∀ (c : Connective) (us vs : List Char), cs = us ++ (c.display.toList ++ vs) → level us ≠ 0

theorem unjoined_of_not_infix {cs : List Char}
    (h : ∀ c : Connective, ¬ c.display.toList <:+: cs) : Unjoined cs := by
  rintro c us vs rfl
  exact absurd (List.append_assoc us _ vs ▸ List.infix_append us c.display.toList vs) (h c)

theorem Balanced.unjoined_parens {cs : List Char} (h : Balanced cs) : Unjoined ('(' :: (cs ++ [')'])) := by
  intro c us vs hsplit
  obtain rfl | hnil | ⟨ms, ns, rfl, hcs⟩ := parens_eq_append hsplit
  · cases c <;> cases hsplit
  · cases c <;> cases hnil
  · have hfront := h.front hcs
    rw [level_open]
    omega

theorem Plain.balanced {s : String} (h : Plain s) : Balanced s.toList :=
  balanced_of_not_mem h.opening h.closing

theorem Plain.unjoined {s : String} (h : Plain s) : Unjoined s.toList :=
  unjoined_of_not_infix h.words

theorem plain_true : Plain "TRUE" := ⟨by decide, by decide, fun c => by cases c <;> decide⟩

mutual

theorem ReadsExpr.balanced : ∀ {s : String} {e : Formula String}, ReadsExpr s e → Balanced s.toList
  | _, _, .atom h => h.balanced
  | _, _, .join c hs ht => by
    have hword : Balanced (" " ++ c.display ++ " ").toList := by
      cases c <;> exact balanced_of_not_mem (by decide) (by decide)
    have happend := hs.balanced.append (hword.append ht.balanced)
    simpa only [String.toList_append, List.append_assoc] using happend

theorem ReadsAtom.balanced : ∀ {s : String} {e : Formula String}, ReadsAtom s e → Balanced s.toList
  | _, _, .top => plain_true.balanced
  | _, _, .rule _ h => h.balanced
  | _, _, .parens h => by
    simp only [String.toList_append]
    exact h.balanced.parens

end

theorem ReadsAtom.unjoined {s : String} {e : Formula String} (h : ReadsAtom s e) : Unjoined s.toList := by
  cases h with
  | top => exact plain_true.unjoined
  | rule _ h => exact h.unjoined
  | parens h =>
    simp only [String.toList_append]
    exact h.balanced.unjoined_parens

/-! ### One reading -/

theorem Rule.display_ne_true (r : Rule) : r.display ≠ "TRUE" := by
  intro h
  have hblank : ' ' ∈ r.display.toList := by
    unfold display
    split <;> simp
  rw [h] at hblank
  exact absurd hblank (by decide)

theorem Plain.ne_parens {t : String} (h : Plain t) (s : String) : t ≠ "(" ++ s ++ ")" := by
  rintro rfl
  exact h.opening (by simp)

theorem toList_joined (c : Connective) (s t : String) :
    (s ++ " " ++ c.display ++ " " ++ t).toList =
      s.toList ++ ' ' :: (c.display.toList ++ ' ' :: t.toList) := by
  simp only [String.toList_append, List.append_assoc]
  rfl

theorem Unjoined.ne_joined {cs ds es : List Char} (h : Unjoined cs) (hd : level ds = 0)
    (c : Connective) : cs ≠ ds ++ ' ' :: (c.display.toList ++ es) := by
  rintro rfl
  refine h c (ds ++ [' ']) es (by rw [List.append_assoc]; rfl) ?_
  rw [level_append, hd]
  rfl

/-- What follows the word of a connective is not joined further, be it by letters of that word. -/
theorem Unjoined.ne_later {ts : List Char} (h : Unjoined ts) {ms : List Char} (hm : level ms = 0)
    (c c' : Connective) (es : List Char) :
    c.display.toList ++ ' ' :: ts ≠ ms ++ ' ' :: (c'.display.toList ++ es) := by
  intro heq
  have hnext : ' ' :: ts ≠ ' ' :: (c'.display.toList ++ es) := fun heq =>
    h c' [] es (List.cons_eq_cons.1 heq).2 rfl
  -- the later blank stands right behind the word, further on, or inside it, where no blank is
  obtain ⟨_ | ⟨k, ks⟩, rfl, hks⟩ | ⟨_ | ⟨k, ks⟩, hword, hks⟩ := List.append_eq_append_iff.1 heq
  · exact hnext hks
  · obtain ⟨rfl, hts⟩ := List.cons_eq_cons.1 hks
    have hword : level c.display.toList = 0 := by cases c <;> rfl
    rw [level_append, hword, Int.zero_add, level_blank] at hm
    exact h.ne_joined hm c' hts
  · exact hnext hks.symm
  · obtain ⟨rfl, -⟩ := List.cons_eq_cons.1 hks
    have hblank : ' ' ∈ c.display.toList := hword ▸ List.mem_append_right _ List.mem_cons_self
    cases c <;> exact absurd hblank (by decide)

theorem word_inj {c c' : Connective} {ts ts' : List Char}
    (h : c.display.toList ++ ' ' :: ts = c'.display.toList ++ ' ' :: ts') : c = c' ∧ ts = ts' := by
  cases c <;> cases c' <;> simp_all [Connective.display]

/-- The last connective outside of parentheses splits a text in one way. -/
theorem joined_inj {c c' : Connective} {ss ss' ts ts' : List Char} (hs : level ss = 0)
    (hs' : level ss' = 0) (ht : Unjoined ts) (ht' : Unjoined ts')
    (h : ss ++ ' ' :: (c.display.toList ++ ' ' :: ts) = ss' ++ ' ' :: (c'.display.toList ++ ' ' :: ts')) :
    ss = ss' ∧ c = c' ∧ ts = ts' := by
  -- one left side starts with the other; were it longer, the right side of the other would be joined
  obtain ⟨_ | ⟨m, ms⟩, rfl, hms⟩ | ⟨_ | ⟨m, ms⟩, rfl, hms⟩ := List.append_eq_append_iff.1 h
  · obtain ⟨hc, hts⟩ := word_inj (List.cons_eq_cons.1 hms).2
    exact ⟨(List.append_nil ss).symm, hc, hts⟩
  · obtain ⟨rfl, htail⟩ := List.cons_eq_cons.1 hms
    rw [level_append, hs, Int.zero_add, level_blank] at hs'
    exact absurd htail (ht.ne_later hs' c c' _)
  · obtain ⟨hc, hts⟩ := word_inj (List.cons_eq_cons.1 hms).2
    exact ⟨List.append_nil ss', hc.symm, hts.symm⟩
  · obtain ⟨rfl, htail⟩ := List.cons_eq_cons.1 hms
    rw [level_append, hs', Int.zero_add, level_blank] at hs
    exact absurd htail (ht'.ne_later hs c' c _)

-- both readings come with their texts, equal by hypothesis: an appended text is no index to match on
mutual

theorem ReadsExpr.unique : ∀ {s s' : String} {e e' : Formula String}, ReadsExpr s e → ReadsExpr s' e' →
    s = s' → e = e'
  | _, _, _, _, .atom h, .atom h', hs => h.unique h' hs
  | _, _, _, _, .atom h, .join c hs' _, hs => by
    subst hs
    exact absurd (toList_joined c _ _) (h.unjoined.ne_joined hs'.balanced.whole c)
  | _, _, _, _, .join c hs _, .atom h', heq => by
    subst heq
    exact absurd (toList_joined c _ _) (h'.unjoined.ne_joined hs.balanced.whole c)
  | _, _, _, _, .join c hs ht, .join c' hs' ht', heq => by
    have hlist := congrArg String.toList heq
    rw [toList_joined, toList_joined] at hlist
    obtain ⟨hss, rfl, hts⟩ :=
      joined_inj hs.balanced.whole hs'.balanced.whole ht.unjoined ht'.unjoined hlist
    rw [hs.unique hs' (String.toList_inj.1 hss), ht.unique ht' (String.toList_inj.1 hts)]

theorem ReadsAtom.unique : ∀ {s s' : String} {e e' : Formula String}, ReadsAtom s e → ReadsAtom s' e' →
    s = s' → e = e'
  | _, _, _, _, .top, .top, _ => rfl
  | _, _, _, _, .rule r _, .rule r' _, heq => congrArg Formula.leaf heq
  | _, _, _, _, .parens h, .parens h', heq => h.unique h' (by simpa using heq)
  | _, _, _, _, .top, .rule r _, heq => absurd heq.symm r.display_ne_true
  | _, _, _, _, .rule r _, .top, heq => absurd heq r.display_ne_true
  | _, _, _, _, .top, .parens _, heq => absurd heq (plain_true.ne_parens _)
  | _, _, _, _, .parens _, .top, heq => absurd heq.symm (plain_true.ne_parens _)
  | _, _, _, _, .rule _ h, .parens _, heq => absurd heq (h.ne_parens _)
  | _, _, _, _, .parens _, .rule _ h, heq => absurd heq.symm (h.ne_parens _)

end

end RuleTree
