import CmtSpeech.Effects
import CmtSpeech.Held
import Mathlib.Data.Finset.Card
import Mathlib.Data.Fintype.Basic

/-!
# Who owns a buffer

`BUF_LOCKED` says that the application has a buffer.  The uplink looks at the mark before it
gives a buffer out and not before it sends one; the downlink looks at it before it takes a
buffer back and not before it gives one out.

* `Exclusive` — a buffer is given out only while it is free.
* `HandsOutHeld` — the calls that give out a downlink buffer that is held.
* `SendsHeld` — a frame is sent only from a buffer that is held.
* `SendsUnheld` — the calls that send one that is not.

## Main results

* `exclusive_iff`
* `sendsHeld_iff`
-/

namespace CmtSpeech

/-! ### Buffers given out -/

/-- The position `cmtspeech_dl_buffer_acquire` reads at: the application's, or the driver's
after an overrun. -/
def dlPosition (m : Machine) : Option ℤ :=
  if m.buf.rxPtrAppl < 0 then none
  else if m.d.rollingRxPtr = true then
    if privRxPtrAvail m = m.d.buf.rxPtrBoundary - 1 then none
    else if privRxHwDelay m ≥ dlSlots then some m.buf.rxPtrHw
    else some m.buf.rxPtrAppl
  else some m.buf.rxPtrAppl

section
variable (m : Machine) (buf : Bool)

theorem dlBufferAcquire_acquire_result (slot : Fin dlSlots) :
    (dlBufferAcquire.acquire buf m slot).1.toOption =
      if m.buf.Invalid (.dl slot) ∨ buf = false then none else some slot := by
  have hflags : ((privBumpRxPtrAppl m).buf.dlbufdesc slot).flags = m.buf.flags (.dl slot) := rfl
  unfold dlBufferAcquire.acquire
  dsimp only
  rw [hflags]
  split
  · next hv =>
    have hinv : m.buf.Invalid (.dl slot) := hv
    rw [if_pos (Or.inl hinv)]
    rfl
  · next hv =>
    have hinv : ¬ m.buf.Invalid (.dl slot) := hv
    split
    · next hb =>
      rw [if_pos (Or.inr hb)]
      rfl
    · next hb =>
      rw [if_neg (not_or.mpr ⟨hinv, hb⟩)]
      rfl

/-- A downlink buffer is given out when there is a position and its descriptor is valid. -/
theorem dlBufferAcquire_result :
    (dlBufferAcquire buf m).1.toOption = (dlPosition m).bind fun p =>
      if m.buf.Invalid (.dl (dlSlotOf p)) ∨ buf = false then none else some (dlSlotOf p) := by
  have hne : -enodata ≠ -epipe := by decide
  unfold dlBufferAcquire dlPosition privRxApplSlot
  by_cases hp : m.buf.rxPtrAppl < 0
  · rw [if_pos hp, if_pos hp]
    rfl
  · rw [if_neg hp, if_neg hp]
    by_cases hr : m.d.rollingRxPtr = true
    · rw [if_pos hr, if_pos hr]
      by_cases ha : privRxPtrAvail m = m.d.buf.rxPtrBoundary - 1
      · rw [if_pos ha, if_pos ha]
        dsimp only
        rw [if_neg hne]
        rfl
      · rw [if_neg ha, if_neg ha]
        by_cases hd : privRxHwDelay m ≥ dlSlots
        · rw [if_pos hd, if_pos hd]
          dsimp only
          -- resynchronising moves the position alone
          exact dlBufferAcquire_acquire_result _ buf _
        · rw [if_neg hd, if_neg hd]
          exact dlBufferAcquire_acquire_result m buf _
    · rw [if_neg hr, if_neg hr]
      exact dlBufferAcquire_acquire_result m buf _

theorem acquired_dl_iff (s : Slot) :
    (Op.dlBufferAcquire buf).acquired m = some s ↔ buf = true ∧
      ∃ p, dlPosition m = some p ∧ ¬ m.buf.Invalid (.dl (dlSlotOf p)) ∧ s = .dl (dlSlotOf p) := by
  have hres : (Op.dlBufferAcquire buf).acquired m = ((dlPosition m).bind fun p =>
      if m.buf.Invalid (.dl (dlSlotOf p)) ∨ buf = false then none else some (dlSlotOf p)).map
        Slot.dl := congrArg (Option.map Slot.dl) (dlBufferAcquire_result m.begin buf)
  rw [hres]
  cases hpos : dlPosition m with
  | none => simp
  | some p =>
    rw [Option.bind_some]
    split
    · next h =>
      refine iff_of_false (by simp) ?_
      rintro ⟨hb, q, hq, hv, -⟩
      cases hq
      -- Refused: the slot is not valid, or there is no place for the buffer.
      rcases h with h | h
      · exact hv h
      · exact Bool.false_ne_true (h.symm.trans hb)
    · next h =>
      obtain ⟨hv, hb⟩ := not_or.mp h
      rw [Option.map_some, Option.some.injEq]
      constructor
      · rintro rfl
        exact ⟨Bool.eq_true_of_not_eq_false hb, p, rfl, hv, rfl⟩
      · rintro ⟨-, q, hq, -, rfl⟩
        cases hq
        rfl

/-- The uplink gives out its next slot when that is free. -/
theorem free_of_acquired_ul {s : Slot} (h : (Op.ulBufferAcquire buf).acquired m = some s) :
    (∃ i, s = .ul i ∧ m.buf.ulSlotApp = some i) ∧ ¬ m.buf.Locked s := by
  have hres : (ulBufferAcquire buf m.begin).1.toOption.map Slot.ul = some s := h
  unfold ulBufferAcquire at hres
  split at hres
  · cases hres
  · split at hres
    · cases hres
    · next slot hs =>
      dsimp only at hres
      split at hres
      · cases hres
      · split at hres
        · cases hres
        · next hl =>
          split at hres
          · cases hres
          · cases hres
            exact ⟨⟨slot, rfl, hs⟩, hl⟩

end

/-- A call that gives out a downlink buffer that is held.  The position to read from goes around
the slots whether or not they were given back, and only `BUF_INVALID` is looked at. -/
def HandsOutHeld (m : Machine) (op : Op) : Prop :=
  op = .dlBufferAcquire true ∧ ∃ p, dlPosition m = some p ∧
    ¬ m.buf.Invalid (.dl (dlSlotOf p)) ∧ m.buf.Locked (.dl (dlSlotOf p))

theorem handsOutHeld_iff (m : Machine) (op : Op) :
    HandsOutHeld m op ↔ ∃ s, op.acquired m = some s ∧ m.buf.Locked s := by
  constructor
  · rintro ⟨rfl, p, hp, hv, hl⟩
    exact ⟨_, (acquired_dl_iff m true _).mpr ⟨rfl, p, hp, hv, rfl⟩, hl⟩
  · rintro ⟨s, ha, hl⟩
    cases op with
    | dlBufferAcquire buf =>
      obtain ⟨rfl, p, hp, hv, rfl⟩ := (acquired_dl_iff m buf s).mp ha
      exact ⟨rfl, p, hp, hv, hl⟩
    | ulBufferAcquire buf => exact absurd hl (free_of_acquired_ul m buf ha).2
    | _ => cases ha

/-- Buffers are given out one at a time: none is given out while the application holds it, and so
none twice before it is given back. -/
structure Exclusive (m : Machine) (is : List Step) : Prop where
  /-- What is given out was free. -/
  free : ∀ pre i post s, is = pre ++ i :: post →
    i.2.acquired (nokiamodem.exec m pre) = some s → ¬ (nokiamodem.exec m pre).buf.Locked s
  /-- While the data path is all that is at work, a buffer is not given out again before it is
  given back. -/
  once : ∀ p₁ a p₂ a' p₃ s, is = p₁ ++ a :: (p₂ ++ a' :: p₃) →
    a.2.acquired (nokiamodem.exec m p₁) = some s →
    (∀ j ∈ p₂, j.2.Transfers ∧ ¬ j.2.Releases s) →
      a'.2.acquired (nokiamodem.exec m (p₁ ++ a :: p₂)) ≠ some s

/-- The data path leaves a held buffer alone: it gives out and takes back, and lays out nothing. -/
theorem Op.Transfers.not_disturbs {op : Op} (h : op.Transfers) (m : Machine) :
    ¬ Disturbs m op := by
  obtain ⟨h₁, h₂, -, h₄⟩ := h.rewrites_nothing m
  intro hd
  cases hd with
  | reset hs h => exact h₁ h
  | relay hs h => exact h₂ h
  | dropDl hs h => exact h₄ _ h
  | moveDl hs h hl => exact h₄ _ h

theorem locked_of_transfers {m : Machine} (hi : m.buf.Indexed) {s : Slot} (hs : m.buf.Locked s)
    {js : List Step} (hj : ∀ j ∈ js, j.2.Transfers ∧ ¬ j.2.Releases s) :
    (nokiamodem.exec m js).buf.Locked s := by
  refine (staysPut_of_along hi hs (fun j hm => (hj j hm).2) ?_).locked
  have hall := (nokiamodem.along_forall (fun j : Step => j.2.Transfers) m js).mpr
    fun j hm => (hj j hm).1
  exact hall.mono fun m i h => h.not_disturbs m

/-- **A buffer is given out only while it is free**, throughout a run from `cmtspeech_open`, if
and only if no call gives out a downlink buffer at a position whose buffer is held. -/
theorem exclusive_iff {m : Machine} (hm : nokiamodem.init m) (is : List Step) :
    Exclusive m is ↔ nokiamodem.Along (fun m i => ¬ HandsOutHeld m i.2) m is := by
  rw [Lts.along_iff_forall_split]
  have hfree : (∀ pre i post, is = pre ++ i :: post →
      ¬ HandsOutHeld (nokiamodem.exec m pre) i.2) ↔
      ∀ pre i post s, is = pre ++ i :: post →
        i.2.acquired (nokiamodem.exec m pre) = some s →
          ¬ (nokiamodem.exec m pre).buf.Locked s := by
    simp only [handsOutHeld_iff, not_exists, not_and]
    exact ⟨fun h pre i post s heq => h pre i post heq s,
      fun h pre i post heq s => h pre i post s heq⟩
  rw [hfree]
  refine ⟨fun h => h.free, fun h => ⟨h, ?_⟩⟩
  intro p₁ a p₂ a' p₃ s heq ha hj ha'
  refine h (p₁ ++ a :: p₂) a' p₃ s (by simp [heq]) ha' ?_
  have hidx : (nokiamodem.exec m (p₁ ++ [a])).buf.Indexed :=
    buf_reachable indexed_reset (fun _ _ hs => hs.indexed) ⟨m, _, hm, rfl⟩
  have hl : (nokiamodem.exec m (p₁ ++ [a])).buf.Locked s := by
    rw [Lts.exec_append]
    exact locked_of_acquired ha
  have hlast := locked_of_transfers hidx hl hj
  rwa [← Lts.exec_append, List.append_assoc] at hlast

/-- The driver announces the frame at position `p`, and the application takes a buffer. -/
def frameTaken (p : BitVec 8) : List Step :=
  [(.accepting, .recv (privMsgEncodeDriverMessage csRxDataReceived p)),
    (.accepting, .dlBufferAcquire true)]

/-- The application keeps its three downlink buffers when the fourth frame arrives. -/
def allHeldRun : List Step :=
  [(.accepting, .stateChangeCallStatus true), (.accepting, .recv (msgEncodeSsiConfigResp 1 0)),
    (.accepting, .recv (speechConfigReqMsg true))] ++
    frameTaken 0 ++ frameTaken 1 ++ frameTaken 2 ++ frameTaken 0

/-- A run that gives out four buffers: the first three are free when they are given out, and
the fourth is the first one again. -/
theorem exclusive_fourTaken :
    Exclusive Machine.fresh allHeldRun ↔
      nokiamodem.Along (fun m i => ¬ HandsOutHeld m i.2) Machine.fresh allHeldRun :=
  exclusive_iff init_fresh allHeldRun

/-- The first buffer is given out again, while the application holds it. -/
theorem exclusive_allHeld :
    nokiamodem.init Machine.fresh ∧
      (∀ i ∈ allHeldRun, i.1.WritesSucceed ∧ i.1.IoctlsSucceed) ∧
      ¬ Exclusive Machine.fresh allHeldRun := by
  refine ⟨init_fresh, ?_, ?_⟩
  · simp only [allHeldRun, frameTaken, List.cons_append, List.nil_append, List.forall_mem_cons,
      accepting_writesSucceed, accepting_ioctlsSucceed]
    simp
  · intro h
    refine h.free (allHeldRun.take 10) (.accepting, .dlBufferAcquire true) [] (.dl 0) rfl ?_ ?_
    · decide +kernel
    · decide +kernel

/-! ### Frames sent -/

/-- The frames sent: an uplink buffer handed to the driver, whatever it answers. -/
def Obs.isFrame : Obs → Bool
  | .writeData _ _ => true
  | _ => false

/-- The frames the operation in progress has sent. -/
def Machine.frames (m : Machine) : List Obs := m.out.filter Obs.isFrame

/-- `CS_TX_DATA_READY` for uplink buffer `j`, which is what sending a frame comes to. -/
def txDataReady (j : Fin ulSlots) : Cmd :=
  privMsgEncodeDriverMessage csTxDataReady (BitVec.ofNat 8 j)

theorem txDataReady_injective : Function.Injective txDataReady := by decide

/-- The buffer whose frame an operation sends.  The index is read from the descriptor, and not the
argument of the call. -/
inductive Sends (m : Machine) : Op → Fin ulSlots → Prop
  | release {i : Fin ulSlots} (hp : m.buf.speechConfigRespPend = false)
      (he : m.buf.ulErrors < maxUlErrorsPause) (hs : m.bcstate.protoState = .activeDlul) :
    Sends m (.ulBufferRelease (some i)) (m.buf.ulbufdesc i).bd.index

/-- The relation "sends the same frames": only the sending of a frame itself is outside of it. -/
theorem aside_frames : Aside fun m m' => m'.frames = m.frames where
  refl _ := rfl
  trans h h' := h'.trans h
  modBc _ _ := rfl
  wake _ _ := rfl
  setWakeline _ _ _ := by simp [Machine.frames, Obs.isFrame]
  write _ _ _ _ := by simp [Machine.frames, Obs.isFrame]
  posted _ _ _ := by simp [Machine.frames, Obs.isFrame]
  timing := trivial
  ssi _ _ := trivial
  callStatus _ _ := by simp [Machine.frames, Obs.isFrame]
  modBuf _ _ := rfl
  octets _ _ _ := rfl
  version _ := rfl
  configBufs _ _ _ _ := by simp [Machine.frames, Obs.isFrame]
  features _ _ _ := rfl
  count _ _ := rfl

section
variable (k : Kernel) (m : Machine)

/-- Only a release sends a frame; whatever else is called, the frames sent are those before. -/
theorem frames_run {op : Op} (h : ∀ i, op ≠ .ulBufferRelease (some i)) :
    (op.run k m).frames = m.frames := by
  refine aside_frames.run k m op ?_ ?_ ?_ (fun i hi => absurd hi (h i)) fun _ _ => rfl
  · intro cmd _
    simp [Machine.frames, Obs.isFrame]
  · intro cmd _ m e
    show (m.out ++ [Obs.queued e]).filter Obs.isFrame = _
    simp [Machine.frames, Obs.isFrame]
  · intro _ m
    rw [privDequeueControlEvent]
    split <;> rfl

theorem frames_ulBufferSend (i : Fin ulSlots) :
    ∃ w, (ulBufferSend k i m).2.frames =
      m.frames ++ [.writeData (txDataReady (m.buf.ulbufdesc i).bd.index) w] := by
  refine ⟨k.write m.tick, ?_⟩
  unfold ulBufferSend
  dsimp only
  generalize hm : m.modD _ = m₁
  have ht : m₁.tick = m.tick := by rw [← hm, Machine.modD_tick]
  have hw (msg : Cmd) :
      (privWriteData k msg m₁).2.frames = m.frames ++ [.writeData msg (k.write m.tick)] := by
    rw [privWriteData, Machine.frames, Machine.syscall_out, List.filter_append, ht, ← hm]
    rfl
  split
  · exact hw _
  · split
    · exact hw _
    · exact hw _

/-- A release sends its own frame, or none: it is the one of the buffer's index. -/
theorem frames_ulBufferRelease (i : Fin ulSlots) :
    (∃ j w, Sends m (.ulBufferRelease (some i)) j ∧
        (ulBufferRelease k (some i) m.begin).2.frames = [.writeData (txDataReady j) w]) ∨
      (∀ j, ¬ Sends m (.ulBufferRelease (some i)) j) ∧
        (ulBufferRelease k (some i) m.begin).2.frames = [] := by
  unfold ulBufferRelease
  dsimp only
  split
  -- A pending reply is made in place of sending the frame.
  · next hp =>
    refine Or.inr ⟨?_, apart_privDrvbufLayoutChangeBufferReleased aside_frames.apart k m.begin _⟩
    rintro j ⟨hp', -, -⟩
    exact Bool.false_ne_true (hp'.symm.trans hp)
  · next hp =>
    unfold ulBufferSubmit
    split
    · next he =>
      refine Or.inr ⟨?_, by split <;> rfl⟩
      rintro j ⟨-, he', -⟩
      exact absurd he' (not_lt.mpr he)
    · next he =>
      split
      · next hs =>
        obtain ⟨w, hw⟩ := frames_ulBufferSend k m.begin i
        exact Or.inl ⟨_, w, .release (Bool.eq_false_of_not_eq_true hp) (not_le.mp he) hs, hw⟩
      · next hs =>
        refine Or.inr ⟨?_, rfl⟩
        rintro j ⟨-, -, hs'⟩
        exact hs hs'

end

/-- The frame a step sends is that of the buffer given back; there is no other way to send one. -/
theorem frames_next (m : Machine) (i : Step) :
    (∃ j w, Sends m i.2 j ∧
        (nokiamodem.next m i).2.filter Obs.isFrame = [.writeData (txDataReady j) w]) ∨
      (∀ j, ¬ Sends m i.2 j) ∧ (nokiamodem.next m i).2.filter Obs.isFrame = [] := by
  obtain ⟨k, op⟩ := i
  by_cases h : ∃ i, op = .ulBufferRelease (some i)
  · obtain ⟨i, rfl⟩ := h
    exact frames_ulBufferRelease k m i
  · refine Or.inr ⟨?_, frames_run k m.begin (not_exists.mp h)⟩
    rintro j ⟨-, -, -⟩
    exact h ⟨_, rfl⟩

/-- A call that sends the frame of an uplink buffer that is not held: the release does not ask
whether the buffer was given out. -/
def SendsUnheld (m : Machine) (op : Op) : Prop := ∃ j, Sends m op j ∧ ¬ m.buf.Locked (.ul j)

/-- The uplink buffers held: those given out and not given back, by their own marks. -/
def BufState.ulHeld (b : BufState) : Finset (Fin ulSlots) :=
  Finset.univ.filter fun j => b.Locked (.ul j)

theorem BufState.mem_ulHeld {b : BufState} {j : Fin ulSlots} : j ∈ b.ulHeld ↔ b.Locked (.ul j) := by
  simp [BufState.ulHeld]

/-- A call that gives out an uplink buffer: it was acquired, and not refused. -/
def Op.acquiresUl (m : Machine) (i : Step) : Bool :=
  match i.2.acquired m with
  | some (.ul _) => true
  | _ => false

section
variable {m : Machine} (hi : m.buf.Indexed) (i : Step)
include hi

/-- An uplink buffer that is held after a step is new, or it was held and stays. -/
theorem mem_ulHeld_next {j : Fin ulSlots} (hj : j ∈ (nokiamodem.next m i).1.buf.ulHeld) :
    i.2.acquired m = some (.ul j) ∨ j ∈ m.buf.ulHeld ∧ ¬ i.2.Releases (.ul j) := by
  rw [BufState.mem_ulHeld] at hj
  rw [BufState.mem_ulHeld]
  exact locked_next hi i hj

/-- Only a successful acquire adds to the buffers held. -/
theorem card_ulHeld_next :
    (nokiamodem.next m i).1.buf.ulHeld.card ≤ m.buf.ulHeld.card + (Op.acquiresUl m i).toNat := by
  by_cases ha : ∃ j, i.2.acquired m = some (.ul j)
  · obtain ⟨j, ha⟩ := ha
    have hsub : (nokiamodem.next m i).1.buf.ulHeld ⊆ insert j m.buf.ulHeld := by
      intro t ht
      rcases mem_ulHeld_next hi i ht with ha' | ⟨ht, -⟩
      · cases ha.symm.trans ha'
        exact Finset.mem_insert_self _ _
      · exact Finset.mem_insert_of_mem ht
    have hone : Op.acquiresUl m i = true := by rw [Op.acquiresUl, ha]
    rw [hone, Bool.toNat_true]
    exact (Finset.card_le_card hsub).trans (Finset.card_insert_le _ _)
  · have hsub : (nokiamodem.next m i).1.buf.ulHeld ⊆ m.buf.ulHeld := by
      intro t ht
      exact ((mem_ulHeld_next hi i ht).resolve_left fun ha' => ha ⟨t, ha'⟩).1
    exact (Finset.card_le_card hsub).trans (Nat.le_add_right _ _)

/-- The buffer sent leaves the ones held, so that each frame takes one from their number. -/
theorem card_ulHeld_sent {j : Fin ulSlots} (hsend : Sends m i.2 j) (hl : m.buf.Locked (.ul j)) :
    (nokiamodem.next m i).1.buf.ulHeld.card + 1 ≤ m.buf.ulHeld.card := by
  have hnone : i.2.acquired m = none := by
    obtain ⟨k, op⟩ := i
    cases hsend
    rfl
  have hrel : i.2.Releases (.ul j) := by
    refine (released_iff hi hl i.2).mp ?_
    obtain ⟨k, op⟩ := i
    cases hsend
    rfl
  have hmem : j ∈ m.buf.ulHeld := BufState.mem_ulHeld.mpr hl
  -- What is held after the release was held before, and `j` no longer is.
  have hsub : (nokiamodem.next m i).1.buf.ulHeld ⊆ m.buf.ulHeld.erase j := by
    intro t ht
    rcases mem_ulHeld_next hi i ht with ha | ⟨ht, hr⟩
    · rw [hnone] at ha
      cases ha
    · refine Finset.mem_erase.mpr ⟨?_, ht⟩
      rintro rfl
      exact hr hrel
  have hcard := Finset.card_le_card hsub
  have hpos : 0 < m.buf.ulHeld.card := Finset.card_pos.mpr ⟨j, hmem⟩
  rw [Finset.card_erase_of_mem hmem] at hcard
  omega

end

/-- What is sent is taken from what is held, and only a successful acquire adds to that. -/
theorem frames_le_next {m : Machine} (hi : m.buf.Indexed) (i : Step) (h : ¬ SendsUnheld m i.2) :
    (nokiamodem.next m i).2.countP Obs.isFrame + (nokiamodem.next m i).1.buf.ulHeld.card ≤
      m.buf.ulHeld.card + (Op.acquiresUl m i).toNat := by
  rw [List.countP_eq_length_filter]
  rcases frames_next m i with ⟨j, w, hsend, hout⟩ | ⟨-, hout⟩
  · have hl : m.buf.Locked (.ul j) := not_not.mp fun hl => h ⟨j, hsend, hl⟩
    have hcard := card_ulHeld_sent hi i hsend hl
    rw [hout, List.length_singleton]
    omega
  · rw [hout, List.length_nil, Nat.zero_add]
    exact card_ulHeld_next hi i

/-- A run from `cmtspeech_open` sends no more frames than it gives out buffers. -/
theorem frames_le_trace {m : Machine} (hm : nokiamodem.init m) {is : List Step}
    (h : nokiamodem.Along (fun m i => ¬ SendsUnheld m i.2) m is) :
    (nokiamodem.trace m is).countP Obs.isFrame ≤ nokiamodem.countSteps Op.acquiresUl m is := by
  obtain ⟨area, old, rfl⟩ := hm
  have hall := nokiamodem.countP_trace_le (I := fun m => m.buf.Indexed)
    (C := fun m i => ¬ SendsUnheld m i.2) (A := Op.acquiresUl)
    (w := fun m => m.buf.ulHeld.card) (p := Obs.isFrame) indexed_next
    (fun m i hi hc => frames_le_next hi i hc) indexed_reset h
  have hempty : (cmtspeechOpen area old).buf.ulHeld.card = 0 := by
    rw [Finset.card_eq_zero, Finset.eq_empty_iff_forall_notMem]
    intro j hj
    exact answered_reset.free _ (BufState.mem_ulHeld.mp hj)
  rw [hempty] at hall
  omega

/-- Frames are sent from buffers that are held. -/
structure SendsHeld (m : Machine) (is : List Step) : Prop where
  /-- Every frame is that of a buffer held when it is sent. -/
  held : ∀ pre i post msg w, is = pre ++ i :: post →
    .writeData msg w ∈ (nokiamodem.next (nokiamodem.exec m pre) i).2 →
      ∃ j, msg = txDataReady j ∧ (nokiamodem.exec m pre).buf.Locked (.ul j)
  /-- So no more frames are sent than buffers were given out. -/
  count : ∀ pre, pre <+: is →
    (nokiamodem.trace m pre).countP Obs.isFrame ≤ nokiamodem.countSteps Op.acquiresUl m pre

/-- **Only acquired buffers are sent** throughout a run from `cmtspeech_open`, if and only if
no call sends the frame of a buffer that is not held. -/
theorem sendsHeld_iff {m : Machine} (hm : nokiamodem.init m) (is : List Step) :
    SendsHeld m is ↔ nokiamodem.Along (fun m i => ¬ SendsUnheld m i.2) m is := by
  rw [Lts.along_iff_forall_split]
  have hmemf {m : Machine} {i : Step} {msg : Cmd} {w : WriteRes} :
      Obs.writeData msg w ∈ (nokiamodem.next m i).2 ↔
        Obs.writeData msg w ∈ (nokiamodem.next m i).2.filter Obs.isFrame := by
    simp [Obs.isFrame]
  constructor
  · rintro h pre i post rfl ⟨j, hsend, hl⟩
    rcases frames_next (nokiamodem.exec m pre) i with ⟨j', w, hsend', hout⟩ | ⟨hno, -⟩
    · obtain ⟨t, ht, hlt⟩ := h.held pre i post (txDataReady j') w rfl (by
        rw [hmemf, hout]
        exact List.mem_singleton_self _)
      cases txDataReady_injective ht
      -- a call sends one frame
      have heq : j' = j := by
        obtain ⟨k, op⟩ := i
        cases hsend
        cases hsend'
        rfl
      exact hl (heq ▸ hlt)
    · exact hno j hsend
  · intro h
    refine ⟨?_, ?_⟩
    · intro pre i post msg w heq hw
      rw [hmemf] at hw
      rcases frames_next (nokiamodem.exec m pre) i with ⟨j, w', hsend, hout⟩ | ⟨-, hout⟩
      · rw [hout, List.mem_singleton] at hw
        cases hw
        exact ⟨j, rfl, not_not.mp fun hl => h pre i post heq ⟨j, hsend, hl⟩⟩
      · rw [hout] at hw
        cases hw
    · rintro pre ⟨post, heq⟩
      apply frames_le_trace hm
      rw [Lts.along_iff_forall_split]
      rintro p₁ i p₂ rfl
      exact h p₁ i (p₂ ++ post) (by simp [← heq])

/-- A frame given out and sent, as an instance: the release finds the slot locked. -/
theorem sendsHeld_fresh :
    SendsHeld Machine.fresh (heldBufferRun ++ [(.accepting, .ulBufferRelease (some 0))]) ↔
      nokiamodem.Along (fun m i => ¬ SendsUnheld m i.2) Machine.fresh
        (heldBufferRun ++ [(.accepting, .ulBufferRelease (some 0))]) :=
  sendsHeld_iff init_fresh _

/-- The application releases a buffer twice, and each time a frame is sent. -/
def releasedTwiceRun : List Step :=
  heldBufferRun ++
    [(.accepting, .ulBufferRelease (some 0)), (.accepting, .ulBufferRelease (some 0))]

/-- Two frames are sent for one acquired buffer: the second release does not look whether the slot
is locked. -/
theorem sendsHeld_releasedTwice :
    nokiamodem.init Machine.fresh ∧
      (∀ i ∈ releasedTwiceRun, i.1.WritesSucceed ∧ i.1.IoctlsSucceed) ∧
      (nokiamodem.trace Machine.fresh releasedTwiceRun).countP Obs.isFrame = 2 ∧
      nokiamodem.countSteps Op.acquiresUl Machine.fresh releasedTwiceRun = 1 ∧
      ¬ SendsHeld Machine.fresh releasedTwiceRun := by
  have htwo : (nokiamodem.trace Machine.fresh releasedTwiceRun).countP Obs.isFrame = 2 := by
    decide +kernel
  have hone : nokiamodem.countSteps Op.acquiresUl Machine.fresh releasedTwiceRun = 1 := by
    decide +kernel
  refine ⟨init_fresh, ?_, htwo, hone, ?_⟩
  · simp only [releasedTwiceRun, heldBufferRun, List.cons_append, List.nil_append,
      List.forall_mem_cons, accepting_writesSucceed, accepting_ioctlsSucceed]
    simp
  · intro h
    have hle := h.count releasedTwiceRun List.prefix_rfl
    omega

end CmtSpeech
