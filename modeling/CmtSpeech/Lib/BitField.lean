import Mathlib.Algebra.Ring.Nat
import Mathlib.Data.Nat.Notation
import Mathlib.Order.Basic
import Mathlib.Tactic.TypeStar

/-!
# Bit fields of a word

A field is a range of bits of a word.  A message format is a list of fields without a
common bit: what is put into one of them can be got back from it, and does not show in
any other.

## Main definitions

* `BitField` — a range of bits, `BitField.get`, `BitField.put`.
* `BitField.Disjoint` — two fields have no bit in common.

## Main results

* `BitField.getLsbD_put` — the bits of a word after `put`.
* `BitField.get_put`, `BitField.get_put_of_disjoint` — reading what has been put.
* `BitField.get_eq_iff` — what a field holds, bit by bit.
-/

/-- The `width` bits of a word from bit `pos` on. -/
structure BitField where
  pos : ℕ
  width : ℕ
  deriving DecidableEq, Repr

namespace BitField

variable {n m : ℕ} (f g : BitField)

/-- The number a word holds in the field; what the other fields hold does not matter. -/
def get (w : BitVec n) : ℕ := (w.extractLsb' f.pos f.width).toNat

/-- The bits of the field, all of them set: in a word of `n` bits nothing else is. -/
def mask (n : ℕ) : BitVec n := (BitVec.allOnes f.width).setWidth n <<< f.pos

/-- Put `v`, cut to the width of the field, into a word. -/
def put (v : BitVec m) (w : BitVec n) : BitVec n :=
  (w &&& ~~~f.mask n) ||| (v.setWidth f.width).setWidth n <<< f.pos

/-- What is left of `v` in a field of `width` bits. -/
def lowBits (width : ℕ) (v : BitVec m) : BitVec m := BitVec.ofNat m (v.toNat % 2 ^ width)

/-- The fields have no bit in common: one ends before the other starts, on either side. -/
def Disjoint : Prop := f.pos + f.width ≤ g.pos ∨ g.pos + g.width ≤ f.pos

instance : Decidable (f.Disjoint g) := inferInstanceAs (Decidable (_ ∨ _))

/-- A value that fits is left as it is by cutting it to the width. -/
theorem lowBits_of_lt {width : ℕ} {v : BitVec m} (hv : v.toNat < 2 ^ width) :
    lowBits width v = v := by
  rw [lowBits, Nat.mod_eq_of_lt hv, BitVec.ofNat_toNat, BitVec.setWidth_eq]

/-- `put` changes the bits of the field and no other. -/
theorem getLsbD_put (v : BitVec m) (w : BitVec n) {i : ℕ} (hi : i < n) :
    (f.put v w).getLsbD i =
      if f.pos ≤ i ∧ i < f.pos + f.width then v.getLsbD (i - f.pos) else w.getLsbD i := by
  unfold put mask
  by_cases hp : f.pos ≤ i
  · by_cases hw : i < f.pos + f.width
    · have hsub : i - f.pos < f.width := by omega
      simp [hp, hw, hi, hsub, Nat.not_lt.mpr hp]
    · have hsub : ¬ i - f.pos < f.width := by omega
      simp [hp, hw, hi, hsub, Nat.not_lt.mpr hp]
  · simp [hp, hi, Nat.lt_of_not_le hp]

/-- A field holds `v`, cut to its width, iff its bits are the low bits of `v`. -/
theorem get_eq_iff {v : BitVec m} {w : BitVec n} :
    f.get w = v.toNat % 2 ^ f.width ↔ ∀ i < f.width, w.getLsbD (f.pos + i) = v.getLsbD i := by
  rw [get, ← BitVec.toNat_setWidth, BitVec.toNat_inj]
  constructor
  · intro h i hi
    have hbit := congrArg (fun x => x.getLsbD i) h
    simpa [hi, BitVec.getLsbD_extractLsb'] using hbit
  · intro h
    ext i hi
    simp [h i hi]

/-- A value is what a field holds iff its low bits are the bits of the field, and no
other bit is set. -/
theorem eq_ofNat_get_iff {v : BitVec m} {w : BitVec n} :
    v = BitVec.ofNat m (f.get w) ↔
      ∀ i < m, v.getLsbD i = (decide (i < f.width) && w.getLsbD (f.pos + i)) := by
  have hget : BitVec.ofNat m (f.get w) = (w.extractLsb' f.pos f.width).setWidth m := by
    apply BitVec.eq_of_toNat_eq
    rw [BitVec.toNat_setWidth, BitVec.toNat_ofNat]
    rfl
  rw [hget]
  constructor
  · intro h i hi
    rw [h]
    simp [hi, BitVec.getLsbD_extractLsb']
  · intro h
    ext i hi
    rw [← BitVec.getLsbD_eq_getElem, h i hi]
    simp [BitVec.getLsbD_extractLsb']

theorem get_put (hf : f.pos + f.width ≤ n) (v : BitVec m) (w : BitVec n) :
    f.get (f.put v w) = v.toNat % 2 ^ f.width := by
  refine f.get_eq_iff.mpr ?_
  intro i hi
  rw [getLsbD_put _ _ _ (by omega), if_pos (by omega), Nat.add_sub_cancel_left]

theorem get_put_of_disjoint {f g : BitField} (h : f.Disjoint g) (v : BitVec m) (w : BitVec n) :
    f.get (g.put v w) = f.get w := by
  unfold get
  congr 1
  ext i hi
  simp only [BitVec.getElem_extractLsb']
  by_cases hn : f.pos + i < n
  · rw [getLsbD_put _ _ _ hn, if_neg (by unfold Disjoint at h; omega)]
  · rw [BitVec.getLsbD_of_ge _ _ (by omega), BitVec.getLsbD_of_ge _ _ (by omega)]

end BitField
