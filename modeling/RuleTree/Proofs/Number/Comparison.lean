import RuleTree.Number

/-! When numbers are ordered, and what of a number its order depends on. Only a NaN is unordered, since no
integer rounds to one, and an integer counts by its value, whichever kind holds it. -/

namespace RuleTree

namespace Binary64

theorem magnitudeBits_ofMagnitude (negative : Bool) (m : Nat) :
    (ofMagnitude negative m).magnitudeBits = m % (1 <<< 63) := by
  have hword : (1 <<< 63 : Nat) = 9223372036854775808 := rfl
  unfold magnitudeBits ofMagnitude
  rw [UInt64.toNat_ofNat', hword]
  split <;> omega

theorem isNaN_ofUnits (negative : Bool) (n d : Nat) : (ofUnits negative n d).isNaN = false := by
  have hword : (1 <<< 63 : Nat) = 9223372036854775808 := rfl
  have htop : (2047 <<< 52 : Nat) = 9218868437227405312 := rfl
  unfold ofUnits infinity
  dsimp only
  split
  · next h =>
    rw [htop] at h
    rw [isNaN, magnitudeBits_ofMagnitude, hword, htop, decide_eq_false_iff_not]
    omega
  · rw [isNaN, magnitudeBits_ofMagnitude]
    rfl

/-- The two compare alike with any double: one is the other, or both are zeros. -/
structure SameValue (x y : Binary64) : Prop where
  isNaN : x.isNaN = y.isNaN
  signedUnits : x.signedUnits = y.signedUnits

theorem SameValue.refl (x : Binary64) : x.SameValue x := ⟨rfl, rfl⟩

theorem compare_congr {x x' y y' : Binary64} (hx : x.SameValue x') (hy : y.SameValue y') :
    x.compare y = x'.compare y' := by
  rw [compare, compare, hx.isNaN, hx.signedUnits, hy.isNaN, hy.signedUnits]

theorem equal_iff {x y : Binary64} :
    x.equal y = true ↔ x.isNaN = false ∧ y.isNaN = false ∧ x.signedUnits = y.signedUnits := by
  rw [equal, compare]
  cases x.isNaN <;> cases y.isNaN <;> simp

theorem equal_comm (x y : Binary64) : x.equal y = y.equal x := by
  rw [Bool.eq_iff_iff, equal_iff, equal_iff, eq_comm (a := x.signedUnits), and_left_comm]

theorem SameValue.of_equal {x y : Binary64} (h : x.equal y = true) : x.SameValue y := by
  obtain ⟨hx, hy, hunits⟩ := equal_iff.1 h
  exact ⟨hx.trans hy.symm, hunits⟩

end Binary64

namespace Number

def isNaN : Number → Bool
  | real x => x.isNaN
  | _ => false

theorem isNaN_toReal (n : Number) : n.toReal.isNaN = n.isNaN := by
  cases n with
  | signed n => exact Binary64.isNaN_ofUnits _ _ _
  | unsigned n => exact Binary64.isNaN_ofUnits _ _ _
  | real x => rfl

theorem isNaN_of_toInt? {n : Number} {i : Int} (h : n.toInt? = some i) : n.isNaN = false := by
  cases n with
  | signed | unsigned => rfl
  | real => cases h

/-- A comparison has no outcome exactly when one side is a NaN. -/
theorem compare_eq_none_iff (a b : Number) :
    a.compare b = none ↔ a.isNaN = true ∨ b.isNaN = true := by
  unfold compare
  split
  · next i j ha hb => simp [isNaN_of_toInt? ha, isNaN_of_toInt? hb]
  · rw [Binary64.compare_eq_none_iff, isNaN_toReal, isNaN_toReal]

/-- An integer rounds by its value, whichever kind holds it. -/
theorem toReal_of_toInt? {n : Number} {i : Int} (h : n.toInt? = some i) : n.toReal = .ofInt i := by
  cases n with
  | signed n => cases h; rfl
  | unsigned n => cases h; rfl
  | real => cases h

/-- The same integer in whatever kind, or doubles of the same value. -/
structure SameValue (m n : Number) : Prop where
  toInt? : m.toInt? = n.toInt?
  toReal : m.toReal.SameValue n.toReal

theorem SameValue.refl (n : Number) : n.SameValue n := ⟨rfl, .refl _⟩

theorem SameValue.of_toInt? {m n : Number} {i : Int} (hm : m.toInt? = some i)
    (hn : n.toInt? = some i) : m.SameValue n := by
  refine ⟨hm.trans hn.symm, ?_⟩
  rw [toReal_of_toInt? hm, toReal_of_toInt? hn]
  exact .refl _

theorem SameValue.of_equal {x y : Binary64} (h : x.equal y = true) : (real x).SameValue (real y) :=
  ⟨rfl, .of_equal h⟩

theorem compare_congr {a a' b b' : Number} (ha : a.SameValue a') (hb : b.SameValue b') :
    a.compare b = a'.compare b' := by
  unfold compare
  rw [ha.toInt?, hb.toInt?, Binary64.compare_congr ha.toReal hb.toReal]

end Number

end RuleTree
