import CmtSpeech.Memory
import CmtSpeech.System

/-!
# The sample swap

`priv_inplace_halfword_swap` walks over the words of a payload and exchanges the halves of each,
so that every octet moves by two places within its word.

* `OnlyOctets.eq_of_load` — the octets are all that a change of the memory can show in.

## Main results

* `privInplaceHalfwordSwap_privInplaceHalfwordSwap` — swapping twice changes nothing.
* `ulPayload_swappedBack` — an uplink frame reaches the modem as the application has made it.
* `privInplaceHalfwordSwap_octets`
-/

namespace CmtSpeech

/-! ### The whole memory -/

/-- A change of the memory that shows in no octet is none. -/
theorem OnlyOctets.eq_of_load {d d' : DriverState} (h : OnlyOctets d d')
    (hload : ∀ q, d'.load q = d.load q) : d' = d := by
  obtain ⟨bytes, swap, rfl⟩ := h
  have hbytes : bytes = d.buf.bytes := by
    funext off
    exact hload (.mmap off)
  have hswap : swap = d.dlswapbuf := by
    funext off
    exact hload (.dlswap off)
  rw [hbytes, hswap]

/-! ### Swapping -/

/-- A place within a word is moved by two, around the word of four octets. -/
theorem swappedOctet_word {j : ℕ} (hj : j < 4) (k : ℕ) :
    swappedOctet (4 * k + j) = 4 * k + (j + 2) % 4 := by
  unfold swappedOctet
  omega

section
variable (d : DriverState) {p : Ptr} (n : ℤ)

/-- Every octet is in the area of the words, or it is not. -/
theorem swapped_cases (p q : Ptr) :
    (∃ o < 4 * (n / 4).toNat, q = p.add o) ∨ ∀ o < 4 * (n / 4).toNat, q ≠ p.add o := by
  by_cases h : ∃ o < 4 * (n / 4).toNat, q = p.add o
  · exact Or.inl h
  · refine Or.inr ?_
    intro o ho heq
    exact h ⟨o, ho, heq⟩

/-- Swapping twice changes nothing, so that the modem's swap undoes ours. -/
theorem privInplaceHalfwordSwap_privInplaceHalfwordSwap (hp : p ≠ .null) :
    privInplaceHalfwordSwap p n (privInplaceHalfwordSwap p n d) = d := by
  have honly := (onlyOctets_privInplaceHalfwordSwap d p n).trans
    (onlyOctets_privInplaceHalfwordSwap (privInplaceHalfwordSwap p n d) p n)
  apply honly.eq_of_load
  intro q
  rcases swapped_cases n p q with ⟨o, ho, rfl⟩ | hq
  · rw [load_privInplaceHalfwordSwap _ hp ho,
      load_privInplaceHalfwordSwap _ hp (swappedOctet_lt ho), swappedOctet_swappedOctet]
  · rw [load_privInplaceHalfwordSwap_outside _ hq, load_privInplaceHalfwordSwap_outside _ hq]

/-- A payload that another memory has received, swapped back there. -/
theorem load_swappedBack {d' : DriverState} {p' : Ptr} (hp : p ≠ .null) (hp' : p' ≠ .null)
    (hsent : ∀ o < 4 * (n / 4).toNat,
      d'.load (p'.add o) = (privInplaceHalfwordSwap p n d).load (p.add o))
    {o : ℕ} (ho : o < 4 * (n / 4).toNat) :
    (privInplaceHalfwordSwap p' n d').load (p'.add o) = d.load (p.add o) := by
  have ho' := swappedOctet_lt ho
  rw [load_privInplaceHalfwordSwap d' hp' ho, hsent _ ho', load_privInplaceHalfwordSwap d hp ho',
    swappedOctet_swappedOctet]

end

/-! ### An uplink frame -/

section
variable {m : Machine} (k : Kernel) {i : Fin ulSlots}

/-- What a frame that is sent does to the payload; the header comes before it. -/
theorem load_ulBufferSend_payload (hs : m.bcstate.sampleLayout = sampleLayoutSwappedLe)
    (hdata : (m.buf.ulbufdesc i).bd.data ≠ .null)
    (hpayload : (m.buf.ulbufdesc i).bd.payload = (m.buf.ulbufdesc i).bd.data.add dataHeaderLen)
    (o : ℕ) :
    (ulBufferSend k i m).2.d.load ((m.buf.ulbufdesc i).bd.payload.add o) =
      (privInplaceHalfwordSwap (m.buf.ulbufdesc i).bd.payload (m.buf.ulbufdesc i).bd.pcount
        m.d).load ((m.buf.ulbufdesc i).bd.payload.add o) := by
  generalize hbd : (m.buf.ulbufdesc i).bd = bd at hdata hpayload ⊢
  -- After the swap only the header is stored, in front of the payload.
  have hd : ∃ header, (ulBufferSend k i m).2.d =
      (privInplaceHalfwordSwap bd.payload bd.pcount m.d).store4 bd.data header := by
    unfold ulBufferSend
    simp only [hbd, if_pos hs]
    split
    · exact ⟨_, rfl⟩
    · split
      · exact ⟨_, rfl⟩
      · exact ⟨_, rfl⟩
  obtain ⟨header, hd⟩ := hd
  rw [hd, hpayload, Ptr.add_add]
  apply DriverState.load_store4_outside
  intro o' ho' heq
  have hoff := (Ptr.add_inj hdata).mp heq
  rw [dataHeaderLen] at hoff
  omega

/-- The application's payload is what the modem has after swapping the frame back. -/
theorem ulPayload_swappedBack (hs : m.bcstate.sampleLayout = sampleLayoutSwappedLe)
    (hdata : (m.buf.ulbufdesc i).bd.data ≠ .null)
    (hpayload : (m.buf.ulbufdesc i).bd.payload = (m.buf.ulbufdesc i).bd.data.add dataHeaderLen)
    {d' : DriverState} {p' : Ptr} (hp' : p' ≠ .null)
    (hsent : ∀ o < 4 * ((m.buf.ulbufdesc i).bd.pcount / 4).toNat, d'.load (p'.add o) =
      (ulBufferSend k i m).2.d.load ((m.buf.ulbufdesc i).bd.payload.add o))
    {o : ℕ} (ho : o < 4 * ((m.buf.ulbufdesc i).bd.pcount / 4).toNat) :
    (privInplaceHalfwordSwap p' (m.buf.ulbufdesc i).bd.pcount d').load (p'.add o) =
      m.d.load ((m.buf.ulbufdesc i).bd.payload.add o) := by
  have hp : (m.buf.ulbufdesc i).bd.payload ≠ .null := by
    rw [hpayload]
    exact Ptr.add_ne_null hdata _
  refine load_swappedBack m.d _ hp hp' ?_ ho
  intro o ho
  rw [hsent o ho, load_ulBufferSend_payload k hs hdata hpayload]

end

/-- **The sample swap**: octet `j` of a word comes from octet `j + 2` modulo 4 of the same word,
no octet is changed but the first `n`, swapping twice restores the memory, and what has been
swapped, sent and swapped back is what it was. -/
theorem privInplaceHalfwordSwap_octets (d : DriverState) {p : Ptr} (hp : p ≠ .null) {n : ℤ}
    (hn : 0 ≤ n) (h4 : n % 4 = 0) :
    (∀ k j : ℕ, k < n / 4 → j < 4 →
        (privInplaceHalfwordSwap p n d).load (p.add (4 * k + j)) =
          d.load (p.add (4 * k + (j + 2) % 4))) ∧
      (∀ q, (∀ o : ℕ, o < n → q ≠ p.add o) →
        (privInplaceHalfwordSwap p n d).load q = d.load q) ∧
      privInplaceHalfwordSwap p n (privInplaceHalfwordSwap p n d) = d ∧
      ∀ (d' : DriverState) (p' : Ptr), p' ≠ .null →
        (∀ o : ℕ, o < n →
          d'.load (p'.add o) = (privInplaceHalfwordSwap p n d).load (p.add o)) →
        ∀ o : ℕ, o < n → (privInplaceHalfwordSwap p' n d').load (p'.add o) = d.load (p.add o) := by
  -- `n` is a multiple of 4, so the loop covers exactly `n` octets.
  have hwords (o : ℕ) : o < 4 * (n / 4).toNat ↔ (o : ℤ) < n := by omega
  refine ⟨?_, ?_, privInplaceHalfwordSwap_privInplaceHalfwordSwap d n hp, ?_⟩
  · intro k j hk hj
    rw [load_privInplaceHalfwordSwap d hp (by omega), swappedOctet_word hj]
  · intro q hq
    apply load_privInplaceHalfwordSwap_outside
    intro o ho
    exact hq o ((hwords o).mp ho)
  · intro d' p' hp' hsent o ho
    apply load_swappedBack d n hp hp'
    · intro o ho
      exact hsent o ((hwords o).mp ho)
    · exact (hwords o).mpr ho

/-- Memory that holds the address of each octet. -/
def numberedMemory : DriverState :=
  { Machine.zeroed.d with
    buf := { Machine.zeroed.d.buf with bytes := fun off => BitVec.ofNat 8 off } }

/-- Two words at an address that is no multiple of 8. -/
theorem privInplaceHalfwordSwap_octets_two :
    (privInplaceHalfwordSwap (.mmap 4) 8 numberedMemory).load (.mmap 9) = 11 ∧
      (privInplaceHalfwordSwap (.mmap 4) 8 numberedMemory).load (.mmap 12) = 12 ∧
      privInplaceHalfwordSwap (.mmap 4) 8 (privInplaceHalfwordSwap (.mmap 4) 8 numberedMemory) =
        numberedMemory := by
  obtain ⟨hin, hout, htwice, -⟩ := privInplaceHalfwordSwap_octets numberedMemory
    (show Ptr.mmap 4 ≠ .null from Ptr.noConfusion) (show (0 : ℤ) ≤ 8 by decide) (by decide)
  refine ⟨(hin 1 1 (by decide) (by decide)).trans (by decide), ?_, htwice⟩
  refine (hout (.mmap 12) ?_).trans (by decide)
  intro o ho heq
  have hoff : 12 = 4 + o := Ptr.mmap.inj heq
  omega

end CmtSpeech
