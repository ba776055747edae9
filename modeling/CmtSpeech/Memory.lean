import CmtSpeech.Codec
import CmtSpeech.Nokiamodem

/-!
# Octets in memory

What the loops over octets leave behind, inside the area they write and outside it.

* `Cmd.octet` — the octets of a 32-bit word, by address.
* `swappedOctet` — where an octet comes from when the halves of each word are exchanged.

## Main results

* `load_memcpy`, `load_memcpy_outside`
* `load_privInplaceHalfwordSwap`, `load_privInplaceHalfwordSwap_outside`
-/

namespace CmtSpeech

namespace Ptr

theorem add_add (p : Ptr) (a b : ℕ) : (p.add a).add b = p.add (a + b) := by
  cases p with
  | null => rfl
  | mmap off => exact congrArg Ptr.mmap (Nat.add_assoc off a b)
  | dlswap off => exact congrArg Ptr.dlswap (Nat.add_assoc off a b)

theorem add_ne_null {p : Ptr} (hp : p ≠ .null) (a : ℕ) : p.add a ≠ .null := by
  cases p with
  | null => exact absurd rfl hp
  | mmap off => exact Ptr.noConfusion
  | dlswap off => exact Ptr.noConfusion

theorem add_inj {p : Ptr} (hp : p ≠ .null) {a b : ℕ} : p.add a = p.add b ↔ a = b := by
  cases p with
  | null => exact absurd rfl hp
  | mmap off => simp [Ptr.add]
  | dlswap off => simp [Ptr.add]

theorem add_zero (p : Ptr) : p.add 0 = p := by
  cases p <;> rfl

end Ptr

/-- The octet of a word at offset `o` in memory: the machine has the low octet first. -/
def Cmd.octet (c : Cmd) : ℕ → BitVec 8
  | 0 => c.byte3
  | 1 => c.byte2
  | 2 => c.byte1
  | _ => c.byte0

namespace DriverState

variable (d : DriverState)

theorem load_store_self {p : Ptr} (hp : p ≠ .null) (b : BitVec 8) : (d.store p b).load p = b := by
  cases p with
  | null => exact absurd rfl hp
  | mmap off => simp [load, store]
  | dlswap off => simp [load, store]

theorem load_store_of_ne {p q : Ptr} (h : q ≠ p) (b : BitVec 8) :
    (d.store p b).load q = d.load q := by
  cases p with
  | null => rfl
  | mmap off =>
    cases q with
    | mmap off' =>
      have hne : off' ≠ off := fun he => h (congrArg Ptr.mmap he)
      simp [load, store, hne]
    | _ => rfl
  | dlswap off =>
    cases q with
    | dlswap off' =>
      have hne : off' ≠ off := fun he => h (congrArg Ptr.dlswap he)
      simp [load, store, hne]
    | _ => rfl

/-! ### Words -/

theorem load_store4_outside {p q : Ptr} (h : ∀ o < 4, q ≠ p.add o) (c : Cmd) :
    (d.store4 p c).load q = d.load q := by
  have h₀ : q ≠ p := by simpa [Ptr.add_zero] using h 0 (by decide)
  rw [store4, load_store_of_ne _ (h 3 (by decide)), load_store_of_ne _ (h 2 (by decide)),
    load_store_of_ne _ (h 1 (by decide)), load_store_of_ne _ h₀]

/-- What is stored is loaded, unless the pointer is NULL, where nothing is stored. -/
theorem load4_store4 {p : Ptr} (hp : p ≠ .null) (c : Cmd) : (d.store4 p c).load4 p = c := by
  cases p with
  | null => exact absurd rfl hp
  | mmap off => simp [load4, store4, load, store, Ptr.add]
  | dlswap off => simp [load4, store4, load, store, Ptr.add]

theorem octet_load4 (p : Ptr) {o : ℕ} (ho : o < 4) : (d.load4 p).octet o = d.load (p.add o) := by
  interval_cases o
  · rw [Ptr.add_zero]
    rfl
  · rfl
  · rfl
  · rfl

theorem load_store4 {p : Ptr} (hp : p ≠ .null) (c : Cmd) {o : ℕ} (ho : o < 4) :
    (d.store4 p c).load (p.add o) = c.octet o := by
  rw [← octet_load4 _ p ho, load4_store4 d hp]

/-! ### Copying -/

theorem load_memcpy_outside {dst q : Ptr} (src : Ptr) {n : ℕ} (h : ∀ o < n, q ≠ dst.add o) :
    (d.memcpy dst src n).load q = d.load q := by
  induction n with
  | zero => rfl
  | succ n ih =>
    rw [memcpy, load_store_of_ne _ (h n (Nat.lt_succ_self n))]
    exact ih fun o ho => h o (Nat.lt_succ_of_lt ho)

/-- Between areas that do not meet, a copy can be read off the source. -/
theorem load_memcpy {dst src : Ptr} (hdst : dst ≠ .null) {n o : ℕ}
    (hsep : ∀ i < n, ∀ j < n, src.add i ≠ dst.add j) (ho : o < n) :
    (d.memcpy dst src n).load (dst.add o) = d.load (src.add o) := by
  induction n with
  | zero => exact absurd ho (Nat.not_lt_zero o)
  | succ n ih =>
    rw [memcpy]
    rcases Nat.lt_succ_iff_lt_or_eq.mp ho with hlt | rfl
    · have hsep' : ∀ i < n, ∀ j < n, src.add i ≠ dst.add j := fun i hi j hj =>
        hsep i (Nat.lt_succ_of_lt hi) j (Nat.lt_succ_of_lt hj)
      rw [load_store_of_ne _ (fun he => hlt.ne ((Ptr.add_inj hdst).mp he)), ih hsep' hlt]
    · rw [load_store_self _ (Ptr.add_ne_null hdst o)]
      exact load_memcpy_outside d src fun j hj => hsep o ho j (Nat.lt_succ_of_lt hj)

end DriverState

/-! ### Exchanging the halves of words -/

/-- The octet that comes to offset `o` when the halves of each word are exchanged. -/
def swappedOctet (o : ℕ) : ℕ := o / 4 * 4 + (o % 4 + 2) % 4

theorem swappedOctet_swappedOctet (o : ℕ) : swappedOctet (swappedOctet o) = o := by
  unfold swappedOctet
  omega

theorem swappedOctet_lt {n o : ℕ} (h : o < 4 * n) : swappedOctet o < 4 * n := by
  unfold swappedOctet
  omega

theorem ofWord_swapped (c : Cmd) :
    Cmd.ofWord (c.word <<< 16 ||| c.word >>> 16) = ⟨c.byte2, c.byte3, c.byte0, c.byte1⟩ := by
  rw [Cmd.ofWord, Cmd.mk.injEq]
  refine ⟨?_, ?_, ?_, ?_⟩ <;>
  · ext i hi
    interval_cases i <;> simp [Cmd.getElem_word]

theorem octet_ofWord_swapped (c : Cmd) {o : ℕ} (ho : o < 4) :
    (Cmd.ofWord (c.word <<< 16 ||| c.word >>> 16)).octet o = c.octet (swappedOctet o) := by
  rw [ofWord_swapped]
  interval_cases o <;> rfl

section
variable (d : DriverState)

theorem load_inplaceHalfwordSwapLoop_outside {p q : Ptr} {n : ℕ}
    (h : ∀ o < 4 * n, q ≠ p.add o) : (inplaceHalfwordSwapLoop n p d).load q = d.load q := by
  induction n generalizing p d with
  | zero => rfl
  | succ n ih =>
    rw [inplaceHalfwordSwapLoop]
    rw [ih, DriverState.load_store4_outside]
    · exact fun o ho => h o (by omega)
    · intro o ho
      rw [Ptr.add_add]
      exact h (4 + o) (by omega)

/-- A loop over `n` words swaps the halfwords of each, so that an octet comes from two places on
or back. -/
theorem load_inplaceHalfwordSwapLoop {p : Ptr} (hp : p ≠ .null) {n o : ℕ} (ho : o < 4 * n) :
    (inplaceHalfwordSwapLoop n p d).load (p.add o) = d.load (p.add (swappedOctet o)) := by
  induction n generalizing p d o with
  | zero => exact absurd ho (by omega)
  | succ n ih =>
    rw [inplaceHalfwordSwapLoop]
    by_cases hfirst : o < 4
    · -- the word swapped first, which the others leave alone
      rw [load_inplaceHalfwordSwapLoop_outside, DriverState.load_store4 d hp _ hfirst,
        octet_ofWord_swapped _ hfirst, DriverState.octet_load4]
      · unfold swappedOctet
        omega
      · intro o' _
        rw [Ptr.add_add, Ne, Ptr.add_inj hp]
        omega
    -- The octet lies in a later word, which the first store does not touch.
    · obtain ⟨o', rfl⟩ : ∃ o', o = 4 + o' := ⟨o - 4, by omega⟩
      have hshift : swappedOctet (4 + o') = 4 + swappedOctet o' := by
        unfold swappedOctet
        omega
      rw [← Ptr.add_add, ih _ (Ptr.add_ne_null hp 4) (by omega), Ptr.add_add, hshift]
      refine DriverState.load_store4_outside d ?_ _
      intro i hi
      rw [Ne, Ptr.add_inj hp]
      omega

/-- **The octets of a buffer** after `priv_inplace_halfword_swap`. -/
theorem load_privInplaceHalfwordSwap {p : Ptr} (hp : p ≠ .null) {n : ℤ} {o : ℕ}
    (ho : o < 4 * (n / 4).toNat) :
    (privInplaceHalfwordSwap p n d).load (p.add o) = d.load (p.add (swappedOctet o)) :=
  load_inplaceHalfwordSwapLoop d hp ho

theorem load_privInplaceHalfwordSwap_outside {p q : Ptr} {n : ℤ}
    (h : ∀ o < 4 * (n / 4).toNat, q ≠ p.add o) :
    (privInplaceHalfwordSwap p n d).load q = d.load q :=
  load_inplaceHalfwordSwapLoop_outside d h

end

end CmtSpeech
