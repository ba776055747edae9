import CmtSpeech.BufConfig

/-!
# Finding a buffer by its memory

`cmtspeech_dl_buffer_find_with_data` and `cmtspeech_dl_buffer_find_with_payload` go through the
downlink descriptors for the one with a pointer the application has, and return the first.  This is
the buffer the pointer is from as long as no two descriptors point at the same memory, which
depends on the offsets the driver announces, and on the private copy of them that is used when an
`SSI_CONFIG_RESP` changes the sample layout.

* `dlBufferFindWithData`, `dlBufferFindWithPayload`
* `PointsApart` — pointers at different memory.
* `MergesSlots` — the steps after which two descriptors point at the same memory.

## Main result

* `findsSlots_iff`
-/

namespace CmtSpeech

/-! ### The two functions -/

section
variable (b : BufState)

/-- `cmtspeech_dl_buffer_find_with_data`: the first descriptor with that pointer to its data. -/
def dlBufferFindWithData (data : Ptr) : Option (Fin dlSlots) :=
  Fin.find? fun i => (b.dlbufdesc i).bd.data = data

/-- `cmtspeech_dl_buffer_find_with_payload`: the first descriptor with that pointer to its
payload. -/
def dlBufferFindWithPayload (payload : Ptr) : Option (Fin dlSlots) :=
  Fin.find? fun i => (b.dlbufdesc i).bd.payload = payload

/-- Every downlink buffer that has memory is found by it.  The application passes back a pointer
only, and the index of the descriptor is looked up from that. -/
def FindsSlots : Prop :=
  ∀ i, (b.dlbufdesc i).bd.data ≠ .null →
    dlBufferFindWithData b (b.dlbufdesc i).bd.data = some i ∧
      dlBufferFindWithPayload b (b.dlbufdesc i).bd.payload = some i

/-- The payload comes after the header, so that two buffers with the same payload have the same
memory. -/
def PayloadsFollow : Prop :=
  ∀ i, (b.dlbufdesc i).bd.payload = (b.dlbufdesc i).bd.data.add dataHeaderLen

end

/-! ### Pointers -/

/-- No two of the pointers are the same, but for null pointers.  A lookup takes the first
descriptor that fits, so this is when it takes the right one. -/
def PointsApart {n : ℕ} (p : Fin n → Ptr) : Prop := ∀ i j, p i ≠ .null → p i = p j → i = j

theorem Ptr.add_injective (n : ℕ) : Function.Injective (Ptr.add · n) := by
  intro p q h
  cases p with
  | null => cases q <;> first | rfl | cases h
  | mmap off =>
    cases q with
    | mmap off' =>
      have := Ptr.mmap.inj h
      rw [Nat.add_right_cancel this]
    | _ => cases h
  | dlswap off =>
    cases q with
    | dlswap off' =>
      have := Ptr.dlswap.inj h
      rw [Nat.add_right_cancel this]
    | _ => cases h

/-- The first of the pointers that are the same as one of them is this one, if they are apart. -/
theorem pointsApart_iff {n : ℕ} (p : Fin n → Ptr) :
    PointsApart p ↔ ∀ i, p i ≠ .null → Fin.find? (fun j => (p j = p i : Bool)) = some i := by
  constructor
  · intro h i hi
    rw [Fin.find?_eq_some_iff]
    refine ⟨decide_eq_true rfl, fun j hj => decide_eq_false fun heq => ?_⟩
    exact absurd (h i j hi heq.symm) hj.ne'
  · intro h i j hi heq
    have hfi := h i hi
    have hfj := h j (heq ▸ hi)
    rw [heq] at hfi
    exact Option.some.inj (hfi.symm.trans hfj)

theorem pointsApart_mmap {n : ℕ} (off : Fin n → ℕ) :
    PointsApart (fun i => Ptr.mmap (off i)) ↔ Function.Injective off := by
  constructor
  · exact fun h i j heq => h i j nofun (congrArg Ptr.mmap heq)
  · exact fun h i j _ heq => h (Ptr.mmap.inj heq)

/-- Slots one after another are apart, as long as they are not empty. -/
theorem pointsApart_dlswap {n size : ℕ} (h : 0 < size) :
    PointsApart (fun i : Fin n => Ptr.dlswap (i * size)) := by
  intro i j _ heq
  exact Fin.ext (Nat.eq_of_mul_eq_mul_right h (Ptr.dlswap.inj heq))

/-- Both functions find every buffer if the frames are apart. -/
theorem findsSlots_iff_pointsApart {b : BufState} (h : PayloadsFollow b) :
    FindsSlots b ↔ PointsApart fun i => (b.dlbufdesc i).bd.data := by
  have hpay : ∀ i, dlBufferFindWithPayload b (b.dlbufdesc i).bd.payload =
      dlBufferFindWithData b (b.dlbufdesc i).bd.data := by
    intro i
    unfold dlBufferFindWithPayload dlBufferFindWithData
    congr 1
    funext j
    rw [h i, h j, decide_eq_decide]
    exact (Ptr.add_injective dataHeaderLen).eq_iff
  rw [pointsApart_iff]
  refine forall_congr' fun i => imp_congr_right fun _ => ?_
  rw [hpay, and_self]
  exact Iff.rfl

/-! ### One operation -/

/-- The steps after which two descriptors point at the same memory. -/
inductive MergesSlots (m : Machine) (k : Kernel) (op : Op) : Prop
  /-- A layout is configured for a request, and the driver announces an offset twice. -/
  | start (h : ComesToReply m.buf op) (hz : op.requestedSlotSize m.buf ≠ 0)
      (hc : k.configBufs 1 = 0) (ha : ¬ Function.Injective (k.configArea 1).rxOffsets)
  /-- A layout is configured for a test ramp, and the driver announces an offset twice. -/
  | relay (h : Relays m.buf.slotSize op) (hc : k.configBufs (op.rampCall m) = 0)
      (ha : ¬ Function.Injective (k.configArea (op.rampCall m)).rxOffsets)
  /-- An `SSI_CONFIG_RESP` makes new descriptors from the copy, which has an offset twice. -/
  | moveDl {slotbuf : Fin dlSlots → Ptr} (h : MovesDl m op slotbuf)
      (hs : ∀ i, slotbuf i = .mmap (m.d.rxOffsets i)) (ha : ¬ Function.Injective m.d.rxOffsets)

section
variable {m : Machine} {k : Kernel} {op : Op}

theorem MergesSlots.not_rewritesNothing (h : MergesSlots m k op) : ¬ RewritesNothing m op := by
  intro hn
  cases h with
  | start h => exact hn.comes h
  | relay h => exact hn.relays h
  | moveDl h => exact hn.moves _ h

theorem not_merges (h : ResetsBuffers m.bcstate op ∨ Postpones m.buf op) :
    ¬ MergesSlots m k op := by
  intro hm
  cases hm with
  | start hc => exact h.elim hc.rewrites_nothing.1 hc.rewrites_nothing.2.2.1
  | relay hr => exact h.elim hr.exclusive.1 hr.exclusive.2
  | moveDl hd => exact h.elim hd.exclusive.1 hd.exclusive.2.2

theorem merges_iff_of_reply (h : ComesToReply m.buf op) :
    MergesSlots m k op ↔ op.requestedSlotSize m.buf ≠ 0 ∧ k.configBufs 1 = 0 ∧
      ¬ Function.Injective (k.configArea 1).rxOffsets := by
  constructor
  · intro hm
    cases hm with
    | start _ hz hc ha => exact ⟨hz, hc, ha⟩
    | relay hr => exact absurd hr h.rewrites_nothing.2.1
    | moveDl hd => exact absurd hd (h.rewrites_nothing.2.2.2 _)
  · rintro ⟨hz, hc, ha⟩
    exact .start h hz hc ha

theorem merges_iff_of_relays (h : Relays m.buf.slotSize op) :
    MergesSlots m k op ↔ k.configBufs (op.rampCall m) = 0 ∧
      ¬ Function.Injective (k.configArea (op.rampCall m)).rxOffsets := by
  constructor
  · intro hm
    cases hm with
    | start hc => exact absurd h hc.rewrites_nothing.2.1
    | relay _ hc ha => exact ⟨hc, ha⟩
    | moveDl hd => exact absurd h hd.exclusive.2.1
  · rintro ⟨hc, ha⟩
    exact .relay h hc ha

theorem MovesDl.unique {slotbuf slotbuf' : Fin dlSlots → Ptr} (h : MovesDl m op slotbuf)
    (h' : MovesDl m op slotbuf') : slotbuf' = slotbuf := by
  cases h
  cases h'
  rfl

/-- The frames are in the swap buffer or where the copy of the offsets puts them. -/
theorem MovesDl.cases {slotbuf : Fin dlSlots → Ptr} (h : MovesDl m op slotbuf) :
    (∀ i, slotbuf i = .dlswap (i * m.buf.slotSize)) ∧ 0 < m.buf.slotSize ∨
      ∀ i, slotbuf i = .mmap (m.d.rxOffsets i) := by
  cases h with
  | @ssiConfigResp cmd hc hr hz hp hs =>
    unfold DriverState.dlSlotbuf
    by_cases hl : m.bcstate.layoutAfter (msgDecodeSsiConfigResp cmd) = sampleLayoutSwappedLe
    · exact .inl ⟨fun _ => if_pos hl, hz⟩
    · exact .inr fun _ => if_neg hl

theorem merges_iff_of_movesDl {slotbuf : Fin dlSlots → Ptr} (h : MovesDl m op slotbuf) :
    MergesSlots m k op ↔ ¬ PointsApart slotbuf := by
  have hinv (hm : MergesSlots m k op) :
      (∀ i, slotbuf i = .mmap (m.d.rxOffsets i)) ∧ ¬ Function.Injective m.d.rxOffsets := by
    cases hm with
    | start hc => exact absurd h (hc.rewrites_nothing.2.2.2 _)
    | relay hr => exact absurd hr h.exclusive.2.1
    | moveDl hd hs ha =>
      rw [h.unique hd] at hs
      exact ⟨hs, ha⟩
  rcases h.cases with ⟨hs, hz⟩ | hs
  · refine iff_of_false (fun hm => ?_) (not_not.mpr ?_)
    · have hptr := (hs 0).symm.trans ((hinv hm).1 0)
      cases hptr
    · rw [funext hs]
      exact pointsApart_dlswap hz
  · rw [funext hs, pointsApart_mmap]
    exact ⟨fun hm => (hinv hm).2, .moveDl h hs⟩

end

/-- The layouts of the descriptors decide what is found. -/
theorem finds_congr {b b' : BufState} (hp : PayloadsFollow b)
    (h : ∀ i, b'.layout (.dl i) = b.layout (.dl i)) :
    PayloadsFollow b' ∧ (FindsSlots b' ↔ FindsSlots b) := by
  have hdata : ∀ i, (b'.dlbufdesc i).bd.data = (b.dlbufdesc i).bd.data :=
    fun i => congrArg Layout.data (h i)
  have hpay : ∀ i, (b'.dlbufdesc i).bd.payload = (b.dlbufdesc i).bd.payload :=
    fun i => congrArg Layout.payload (h i)
  have hp' : PayloadsFollow b' := by
    intro i
    rw [hpay, hdata]
    exact hp i
  refine ⟨hp', ?_⟩
  rw [findsSlots_iff_pointsApart hp, findsSlots_iff_pointsApart hp', funext hdata]

theorem finds_of_layout {b : BufState} {slotbuf : Fin dlSlots → Ptr} {n : ℕ}
    (h : ∀ i : Fin dlSlots, b.layout (.dl i) = .of (slotbuf i) n i) :
    PayloadsFollow b ∧ (FindsSlots b ↔ PointsApart slotbuf) := by
  have hdata : ∀ i, (b.dlbufdesc i).bd.data = slotbuf i := fun i => congrArg Layout.data (h i)
  have hp : PayloadsFollow b := by
    intro i
    rw [hdata]
    exact congrArg Layout.payload (h i)
  refine ⟨hp, ?_⟩
  rw [findsSlots_iff_pointsApart hp, funext hdata]

theorem finds_reset :
    PayloadsFollow privResetBufStateToDisconnected ∧ FindsSlots privResetBufStateToDisconnected :=
  ⟨fun _ => rfl, fun _ h => absurd rfl h⟩

/-- One step keeps the slots apart, unless it is one of those that merge them. -/
theorem finds_next {m : Machine} {i : Step} (hp : PayloadsFollow m.buf) (hf : FindsSlots m.buf) :
    PayloadsFollow (nokiamodem.next m i).1.buf ∧
      (FindsSlots (nokiamodem.next m i).1.buf ↔ ¬ MergesSlots m i.1 i.2) := by
  have hout := dataOutcome m i
  generalize (nokiamodem.next m i).2.filter Obs.dataPath = o at hout
  generalize (nokiamodem.next m i).1.buf = b' at hout ⊢
  -- Descriptors that stay are found as before, and the step merges none.
  have hkept (h : ∀ i, b'.layout (.dl i) = m.buf.layout (.dl i)) (hno : ¬ MergesSlots m i.1 i.2) :
      PayloadsFollow b' ∧ (FindsSlots b' ↔ ¬ MergesSlots m i.1 i.2) := by
    obtain ⟨hp', hiff⟩ := finds_congr hp h
    exact ⟨hp', iff_of_true (hiff.mpr hf) hno⟩
  have hreset (hno : ¬ MergesSlots m i.1 i.2) :
      PayloadsFollow privResetBufStateToDisconnected ∧
        (FindsSlots privResetBufStateToDisconnected ↔ ¬ MergesSlots m i.1 i.2) :=
    ⟨finds_reset.1, iff_of_true finds_reset.2 hno⟩
  cases hout with
  | keep hk _ hn => exact hkept (fun i => hk.layout _) fun hm => hm.not_rewritesNothing hn
  | postpone hpost hb => exact hkept (fun i => hb.layout _) (not_merges (.inr hpost))
  | stop hc hz => exact hreset fun hm => ((merges_iff_of_reply hc).mp hm).1 hz
  | start hc hz hconf hb =>
    obtain ⟨hp', hiff⟩ := finds_of_layout hb.dl
    rw [merges_iff_of_reply hc, and_iff_right hz, and_iff_right hconf, not_not, hiff]
    exact ⟨hp', pointsApart_mmap _⟩
  | refuse hc hconf => exact hreset fun hm => hconf ((merges_iff_of_reply hc).mp hm).2.1
  | reset hr => exact hreset (not_merges (.inl hr))
  | relay hr hconf hb =>
    obtain ⟨hp', hiff⟩ := finds_of_layout hb.dl
    rw [merges_iff_of_relays hr, and_iff_right hconf, not_not, hiff]
    exact ⟨hp', pointsApart_mmap _⟩
  | relayRefused hr hconf =>
    exact hkept (fun _ => rfl) fun hm => hconf ((merges_iff_of_relays hr).mp hm).1
  | @moveDl slotbuf hm =>
    obtain ⟨hp', hiff⟩ := finds_of_layout (b := m.buf.movedDl slotbuf) fun _ => rfl
    rw [merges_iff_of_movesDl hm, not_not]
    exact ⟨hp', hiff⟩

/-- **A buffer is found by its memory**: throughout a run from `cmtspeech_open` both functions find
every downlink buffer, by the start of the frame and by its payload, if and only if no step makes
two descriptors point at the same memory. -/
theorem findsSlots_iff {m : Machine} (hm : nokiamodem.init m) (is : List Step) :
    nokiamodem.Always (fun m => FindsSlots m.buf) m is ↔
      nokiamodem.Along (fun m i => ¬ MergesSlots m i.1 i.2) m is := by
  have hopen : m.buf = privResetBufStateToDisconnected := by
    obtain ⟨area, old, rfl⟩ := hm
    rfl
  refine nokiamodem.always_iff_along (I := fun m => PayloadsFollow m.buf) (P := fun _ _ => True)
    (fun m i hp hf _ _ => (finds_next hp hf).1) (fun m i hp hf _ => (finds_next hp hf).2) ?_ ?_
    (Lts.along_true _ _ _)
  · rw [hopen]
    exact finds_reset.1
  · rw [hopen]
    exact finds_reset.2

/-- A call with a stream, as an instance: every descriptor is found in it. -/
theorem findsSlots_fresh :
    nokiamodem.Always (fun m => FindsSlots m.buf) .fresh
        [(.accepting, .stateChangeCallStatus true),
          (.accepting, .recv (msgEncodeSsiConfigResp 1 0)),
          (.accepting, .recv (speechConfigReqMsg true))] ↔
      nokiamodem.Along (fun m i => ¬ MergesSlots m i.1 i.2) .fresh
        [(.accepting, .stateChangeCallStatus true),
          (.accepting, .recv (msgEncodeSsiConfigResp 1 0)),
          (.accepting, .recv (speechConfigReqMsg true))] :=
  findsSlots_iff init_fresh _

end CmtSpeech
