import CmtSpeech.BufConfig

/-!
# The swap buffer

`cmtspeech_open` allocates room for `DL_SLOTS` frames of the larger speech frame.  The slot
size is not always that of a speech frame, though: a test ramp sets it as well, and the
frames are moved into the swap buffer later, by an `SSI_CONFIG_RESP`.

* `BufState.SwapFits` — the frames in the swap buffer end before it does.
* `BufState.Swap` — either all frames are there, one after the other, or none is.
* `Overcommits` — the steps that break this.

## Main result

* `swapFits_iff`
-/

namespace CmtSpeech

/-- The pointer is into `dlswapbuf`, the copy of the downlink frames that is made to swap their
samples. -/
def Ptr.InDlswap : Ptr → Prop
  | .dlswap _ => True
  | _ => False

instance : DecidablePred Ptr.InDlswap
  | .dlswap _ => isTrue trivial
  | .null => isFalse id
  | .mmap _ => isFalse id

/-- The frames that lie in the swap buffer end before it does.  It is allocated once, for slots of
the largest speech frame. -/
def BufState.SwapFits (b : BufState) : Prop :=
  ∀ i : Fin dlSlots, (b.layout (.dl i)).data.InDlswap →
    i * b.slotSize + (b.layout (.dl i)).size ≤ dlSlots * maxSlotSize

instance : DecidablePred BufState.SwapFits := fun b =>
  inferInstanceAs (Decidable (∀ i : Fin dlSlots, (b.layout (.dl i)).data.InDlswap →
    i * b.slotSize + (b.layout (.dl i)).size ≤ dlSlots * maxSlotSize))

/-- Either no frame lies in the swap buffer, or all do, for a slot size that fits.  The first is
so while the samples are in order, the second while they are swapped. -/
inductive BufState.Swap (b : BufState) : Prop
  | away (h : ∀ i, ¬ (b.layout (.dl i)).data.InDlswap)
  | within {n : ℕ} (hn : n ≤ maxSlotSize)
    (h : ∀ i : Fin dlSlots, b.layout (.dl i) = .of (.dlswap (i * n)) n i)

/-- The steps that over-commit the swap buffer.  Both are about a test ramp, for only a ramp has
slots that are larger than a speech frame. -/
inductive Overcommits (m : Machine) (k : Kernel) (op : Op) : Prop
  /-- An `SSI_CONFIG_RESP` moves frames there that are larger than a speech frame. -/
  | moveDl {slotbuf : Fin dlSlots → Ptr} (h : MovesDl m op slotbuf)
    (hs : (slotbuf 0).InDlswap) (hz : maxSlotSize < m.buf.slotSize)
  /-- The driver refuses the layout of a test ramp, and the frames stay there for a slot size
  that is too large. -/
  | relay (h : Relays m.buf.slotSize op) (hc : k.configBufs (op.rampCall m) ≠ 0)
    {i : Fin dlSlots} (hi : (m.buf.layout (.dl i)).data.InDlswap)
    (hz : dlSlots * maxSlotSize < i * op.rampSlotSize + (m.buf.layout (.dl i)).size)

/-! ### Layouts -/

/-- A speech frame is no larger than the largest slot. -/
theorem speechConfigSlotSize_le (req : SpeechConfigReq) :
    speechConfigSlotSize req ≤ maxSlotSize := by
  rw [speechConfigSlotSize]
  split
  · split
    · decide
    · split
      · exact le_rfl
      · exact Nat.zero_le _
  · exact Nat.zero_le _

theorem Postpones.requestedSlotSize_le {b : BufState} {op : Op} (h : Postpones b op) :
    op.requestedSlotSize b ≤ maxSlotSize := by
  obtain ⟨cmd, rfl, -, -⟩ := h.word
  exact speechConfigSlotSize_le _

/-- All frames are moved to the same buffer: to the swap buffer one after another, or out of it. -/
theorem MovesDl.dlswap_or {m : Machine} {op : Op} {slotbuf : Fin dlSlots → Ptr}
    (h : MovesDl m op slotbuf) :
    (∀ i : Fin dlSlots, slotbuf i = .dlswap (i * m.buf.slotSize)) ∨
      ∀ i, ¬ (slotbuf i).InDlswap := by
  cases h with
  | @ssiConfigResp cmd _ _ _ _ _ =>
    by_cases hs : m.bcstate.layoutAfter (msgDecodeSsiConfigResp cmd) = sampleLayoutSwappedLe
    · exact Or.inl fun i => if_pos hs
    · refine Or.inr fun i hi => ?_
      rw [DriverState.dlSlotbuf, if_neg hs] at hi
      exact hi

namespace BufState

variable {b b' : BufState}

theorem Swap.congr (h : b.Swap) (hl : ∀ s, b'.layout s = b.layout s) : b'.Swap := by
  cases h with
  | away h => exact .away fun i => by rw [hl]; exact h i
  | within hn h => exact .within hn fun i => (hl _).trans (h i)

theorem swap_reset : privResetBufStateToDisconnected.Swap := .away fun _ => id

theorem LaidOut.swap {area : MmapArea} {n : ℕ} (h : b.LaidOut area n) : b.Swap :=
  .away fun i hi => by
    rw [h.dl i] at hi
    exact hi

/-- Descriptors that are not there need no room in the swap buffer. -/
theorem swapFits_away (h : ∀ i, ¬ (b.layout (.dl i)).data.InDlswap) : b.SwapFits :=
  fun i hi => absurd hi (h i)

theorem swapFits_reset : privResetBufStateToDisconnected.SwapFits := swapFits_away fun _ => id

theorem LaidOut.swapFits {area : MmapArea} {n : ℕ} (h : b.LaidOut area n) : b.SwapFits :=
  swapFits_away fun i hi => by
    rw [h.dl i] at hi
    exact hi

/-- Slot sizes of speech frames fit, whenever they come. -/
theorem Swap.swapFits (h : b.Swap) (hz : b.slotSize ≤ maxSlotSize) : b.SwapFits := by
  cases h with
  | away h => exact swapFits_away h
  | @within n hn h =>
    intro i _
    have hi : (i : ℕ) ≤ 2 := Nat.le_of_lt_succ i.isLt
    have hmul : (i : ℕ) * b.slotSize ≤ 2 * maxSlotSize := Nat.mul_le_mul hi hz
    have hsize : (b.layout (.dl i)).size = (n : ℤ) := by
      rw [h i]
      rfl
    rw [hsize]
    norm_cast
    have hslots : dlSlots * maxSlotSize = 2 * maxSlotSize + maxSlotSize := by decide
    omega

/-- After frames have been moved there, they fit exactly when they are no larger. -/
theorem swapFits_movedDl {slotbuf : Fin dlSlots → Ptr}
    (h : ∀ i : Fin dlSlots, slotbuf i = .dlswap (i * b.slotSize)) :
    (b.movedDl slotbuf).SwapFits ↔ b.slotSize ≤ maxSlotSize := by
  have hlay (i : Fin dlSlots) :
      (b.movedDl slotbuf).layout (.dl i) = .of (.dlswap (i * b.slotSize)) b.slotSize i := by
    show Layout.of (slotbuf i) b.slotSize i = _
    rw [h i]
  constructor
  · intro hf
    -- the last slot ends where the buffer does
    have hlast := hf 2 (by rw [hlay]; trivial)
    rw [hlay] at hlast
    have hlast' : 2 * (b.slotSize : ℤ) + b.slotSize ≤ 3 * maxSlotSize := hlast
    omega
  · intro hz
    exact Swap.swapFits (.within hz hlay) hz

theorem swapFits_resized (b : BufState) (n : ℕ) :
    (b.resized n).SwapFits ↔ ∀ i : Fin dlSlots, (b.layout (.dl i)).data.InDlswap →
      i * n + (b.layout (.dl i)).size ≤ dlSlots * maxSlotSize := Iff.rfl

end BufState

/-! ### One step -/

section
variable {m : Machine} {i : Step}

theorem swap_next (h : m.buf.Swap) (hc : ¬ Overcommits m i.1 i.2) :
    (nokiamodem.next m i).1.buf.Swap := by
  have hout := dataOutcome m i
  generalize (nokiamodem.next m i).2.filter Obs.dataPath = o at hout
  generalize (nokiamodem.next m i).1.buf = b' at hout ⊢
  cases hout with
  | keep hk _ _ => exact h.congr hk.layout
  | postpone _ hb _ => exact h.congr hb.layout
  | start _ _ _ hb _ => exact hb.swap
  | relay _ _ hb _ => exact hb.swap
  | relayRefused _ _ => exact h.congr fun s => by cases s <;> rfl
  | moveDl hm =>
    rcases hm.dlswap_or with hs | hs
    · have hz : m.buf.slotSize ≤ maxSlotSize := by
        by_contra hz
        refine hc (.moveDl hm ?_ (not_le.mp hz))
        rw [hs]
        trivial
      refine .within hz fun j => ?_
      rw [← hs j]
      rfl
    · exact .away hs
  | stop | refuse | reset => exact BufState.swap_reset

theorem swapFits_next (h : m.buf.Swap) (hf : m.buf.SwapFits) (hc : ¬ Overcommits m i.1 i.2) :
    (nokiamodem.next m i).1.buf.SwapFits := by
  have hout := dataOutcome m i
  generalize (nokiamodem.next m i).2.filter Obs.dataPath = o at hout
  generalize (nokiamodem.next m i).1.buf = b' at hout ⊢
  cases hout with
  | keep hk hz _ =>
    intro j hj
    rw [hk.layout] at hj ⊢
    rw [hz]
    exact hf j hj
  | postpone hp hb hz => exact (h.congr hb.layout).swapFits (hz.trans_le hp.requestedSlotSize_le)
  | start _ _ _ hb _ => exact hb.swapFits
  | relay _ _ hb _ => exact hb.swapFits
  -- The size has been set, and the layout was refused: the old slots may not fit in it.
  | relayRefused hr hconf =>
    rw [BufState.swapFits_resized]
    exact fun j hj => not_lt.mp fun hlt => hc (.relay hr hconf hj hlt)
  | moveDl hm =>
    rcases hm.dlswap_or with hs | hs
    · rw [BufState.swapFits_movedDl hs]
      by_contra hz
      refine hc (.moveDl hm ?_ (not_le.mp hz))
      rw [hs]
      trivial
    · exact BufState.swapFits_away hs
  | stop | refuse | reset => exact BufState.swapFits_reset

/-- The other steps break it: a step after which the slots fit has not overcommitted the buffer. -/
theorem not_overcommits_of_next (hf : (nokiamodem.next m i).1.buf.SwapFits) :
    ¬ Overcommits m i.1 i.2 := by
  obtain ⟨k, op⟩ := i
  have hbuf : (nokiamodem.next m (k, op)).1.buf = (op.run k m.begin).buf := rfl
  rw [hbuf] at hf
  rintro (@⟨slotbuf, hm, hs, hz⟩ | @⟨hr, hconf, j, hj, hz⟩)
  · rw [buf_of_movesDl k hm] at hf
    rcases hm.dlswap_or with hin | hout
    · exact absurd ((BufState.swapFits_movedDl hin).mp hf) (not_le.mpr hz)
    · exact hout 0 hs
  · rw [(rampOutcome_of_relays hr).buf_refused hconf, BufState.swapFits_resized] at hf
    exact absurd (hf j hj) (not_le.mpr hz)

end

/-- **The frames in the swap buffer end before it does**, throughout a run from
`cmtspeech_open`, if and only if no frames larger than a speech frame are moved there, and no
test ramp that the driver refuses leaves frames there for a slot size that is too large. -/
theorem swapFits_iff {m : Machine} (hm : nokiamodem.init m) (is : List Step) :
    nokiamodem.Always (fun m => m.buf.SwapFits) m is ↔
      nokiamodem.Along (fun m i => ¬ Overcommits m i.1 i.2) m is := by
  have hswap : m.buf.Swap ∧ m.buf.SwapFits := by
    obtain ⟨area, old, rfl⟩ := hm
    exact ⟨BufState.swap_reset, BufState.swapFits_reset⟩
  refine nokiamodem.always_iff_along (I := fun m => m.buf.Swap) (P := fun _ _ => True) ?_ ?_
    hswap.1 hswap.2 (nokiamodem.along_true m is)
  · intro m i h _ _ hc
    exact swap_next h hc
  · intro m i h hf _
    exact ⟨not_overcommits_of_next, swapFits_next h hf⟩

/-- The modem pings with a ramp of 200 words, and then answers with a swapped layout. -/
def longRampRun : List Step :=
  [(.accepting, .stateChangeCallStatus true),
    (.accepting, .recv (msgEncodeTestRampPing
      { domain := 1, replydomain := 1, rampstart := 0, ramplen := 200 })),
    (.accepting, .recv (msgEncodeSsiConfigResp 1 0))]

/-- A run with slots in the mapped area first, which the answer then moves. -/
theorem swapFits_movedSlots :
    nokiamodem.Always (fun m => m.buf.SwapFits) Machine.fresh longRampRun ↔
      nokiamodem.Along (fun m i => ¬ Overcommits m i.1 i.2) Machine.fresh longRampRun :=
  swapFits_iff init_fresh longRampRun

/-- The driver has room for such slots, and the swap buffer has not. -/
theorem swapFits_longRamp :
    nokiamodem.init Machine.fresh ∧
      (∀ i ∈ longRampRun, i.1.WritesSucceed ∧ i.1.IoctlsSucceed) ∧
      (dlSlots + ulSlots) * (nokiamodem.exec Machine.fresh longRampRun).buf.slotSize ≤ 4096 ∧
      ¬ nokiamodem.Always (fun m => m.buf.SwapFits) Machine.fresh longRampRun := by
  refine ⟨init_fresh, ?_, ?_, ?_⟩
  · simp only [longRampRun, List.forall_mem_cons, accepting_writesSucceed,
      accepting_ioctlsSucceed]
    simp
  · decide +kernel
  · intro h
    have hend := h longRampRun List.prefix_rfl
    exact absurd hend (by decide +kernel)

end CmtSpeech
