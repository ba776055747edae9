import CmtSpeech.BufConfig
import CmtSpeech.Ownership
import CmtSpeech.ReplyOnce

/-!
# The frames that are given out

The slot size and the descriptors change at different times: the slot size when a request
arrives, the descriptors when it is answered.  In between the descriptors are marked invalid,
and this mark is all that keeps a stale one from the application.

* `BufState.InStep` — a descriptor that is not marked fits the slot size.
* `BufState.Usable` — what the application may expect of a buffer.
* `BufState.OutOfUse` — no buffer is held, and none can be given out.

## Main results

* `acquired_usable`
* `configFailure_contained`
-/

namespace CmtSpeech

/-! ### Descriptors and the slot size -/

/-- The value of `type` for 16-bit linear samples. -/
abbrev bufferTypePcmS16Le : ℤ := 0

/-- The position of a slot in its array of descriptors, whichever direction it is for. -/
def Slot.index : Slot → ℕ
  | .ul i => i
  | .dl i => i

/-- How many slots the array has: the two directions have different numbers. -/
def Slot.slots : Slot → ℕ
  | .ul _ => ulSlots
  | .dl _ => dlSlots

theorem Slot.index_lt (s : Slot) : s.index < s.slots := by
  cases s with
  | ul i => exact i.isLt
  | dl i => exact i.isLt

/-- The type of the samples, as the descriptor of the slot tells it to the application. -/
def BufState.type (b : BufState) : Slot → ℤ
  | .ul i => (b.ulbufdesc i).bd.type
  | .dl i => (b.dlbufdesc i).bd.type

/-- All buffers are for 16-bit linear samples.  Nothing sets another type, whatever the modem asks
for. -/
def BufState.Linear (b : BufState) : Prop := ∀ s, b.type s = bufferTypePcmS16Le

theorem linear_reset : privResetBufStateToDisconnected.Linear := by
  intro s
  cases s <;> rfl

theorem BufState.Linear.updateUl {b b' : BufState} (h : b.Linear) {i : Fin ulSlots}
    {d : BufDesc ulSlots} (hu : b'.ulbufdesc = Function.update b.ulbufdesc i d)
    (hd : b'.dlbufdesc = b.dlbufdesc) (ht : d.bd.type = (b.ulbufdesc i).bd.type) : b'.Linear := by
  intro s
  cases s with
  | ul j =>
    rw [BufState.type, hu]
    by_cases hj : j = i
    · subst hj
      rw [Function.update_self, ht]
      exact h (.ul j)
    · rw [Function.update_of_ne hj]
      exact h (.ul j)
  | dl j =>
    rw [BufState.type, hd]
    exact h (.dl j)

theorem BufState.Linear.updateDl {b b' : BufState} (h : b.Linear) {i : Fin dlSlots}
    {d : BufDesc dlSlots} (hd : b'.dlbufdesc = Function.update b.dlbufdesc i d)
    (hu : b'.ulbufdesc = b.ulbufdesc) (ht : d.bd.type = (b.dlbufdesc i).bd.type) : b'.Linear := by
  intro s
  cases s with
  | ul j =>
    rw [BufState.type, hu]
    exact h (.ul j)
  | dl j =>
    rw [BufState.type, hd]
    by_cases hj : j = i
    · subst hj
      rw [Function.update_self, ht]
      exact h (.dl j)
    · rw [Function.update_of_ne hj]
      exact h (.dl j)

/-- No elementary change makes a buffer for other samples. -/
theorem BufStep.linear {b b' : BufState} (h : BufStep b b') (hb : b.Linear) : b'.Linear := by
  have hmap (slot : Slot) (f : BitVec 4 → BitVec 4) : (b.mapFlags slot f).Linear := by
    cases slot with
    | ul i => exact hb.updateUl rfl rfl rfl
    | dl i => exact hb.updateDl rfl rfl rfl
  cases h with
  | reset => exact linear_reset
  | layOut area h =>
    intro s
    cases s <;> rfl
  | moveDl slotbuf h =>
    intro s
    cases s with
    | ul i => exact hb (.ul i)
    | dl i => rfl
  | acquireDl i frameFlags spcFlags reserved0 h => exact hb.updateDl rfl rfl rfl
  | acquireUl i h hl hs => exact hb.updateUl rfl rfl rfl
  | release slot => exact hmap slot _
  | overrun i => exact hmap (.dl i) _
  | reportOverrun i => exact hmap (.dl i) _
  | fillUl i frameFlags => exact hb.updateUl rfl rfl rfl
  | fillDl i frameFlags => exact hb.updateDl rfl rfl rfl
  -- The rest writes positions and counts, and no descriptor.
  | _ =>
    intro s
    cases s with
    | ul i => exact hb (.ul i)
    | dl i => exact hb (.dl i)

theorem NoTestRamp.not_relays {op : Op} (h : NoTestRamp op) (slotSize : ℕ) :
    ¬ Relays slotSize op := by
  intro hr
  match op, h, hr with
  | .checkPending true (some cmd), h, hr => exact h hr.1
  | .testDataRampReq _ _, h, _ => exact h

/-- A descriptor that may be given out fits the slot size. -/
def BufState.InStep (b : BufState) : Prop :=
  ∀ s, ¬ b.Invalid s → ∃ p, b.layout s = .of p b.slotSize s.index

namespace BufState.InStep

theorem of_invalid {b : BufState} (h : ∀ s, b.Invalid s) : b.InStep :=
  fun s hv => absurd (h s) hv

theorem reset : privResetBufStateToDisconnected.InStep :=
  of_invalid fun s => invalid_invalidate _ s

theorem of_laidOut {b : BufState} {area : MmapArea} {n : ℕ} (h : b.LaidOut area n) :
    b.InStep := by
  intro s _
  rw [h.slotSize]
  cases s with
  | ul i => exact ⟨_, h.ul i⟩
  | dl i => exact ⟨_, h.dl i⟩

/-- One operation: the slot size changes with the descriptors, or they are marked. -/
theorem next {m : Machine} (h : m.buf.InStep) {i : Step} (hn : NoTestRamp i.2) :
    (nokiamodem.next m i).1.buf.InStep := by
  have hout := dataOutcome m i
  have hramp := hn.not_relays m.buf.slotSize
  generalize (nokiamodem.next m i).2.filter Obs.dataPath = o at hout
  generalize (nokiamodem.next m i).1.buf = b' at hout ⊢
  cases hout with
  | keep hk hz _ =>
    intro s hv
    rw [hk.layout, hz]
    exact h s fun hi => hv ((hk.invalid s).mpr hi)
  | postpone _ hb _ => exact of_invalid hb.invalid
  | start _ _ _ hb _ => exact of_laidOut hb
  | relay hr => exact absurd hr hramp
  | relayRefused hr => exact absurd hr hramp
  | moveDl hm =>
    intro s hv
    cases s with
    | ul j => exact h (.ul j) hv
    | dl j => exact ⟨_, rfl⟩
  | stop | refuse | reset => exact reset

end BufState.InStep

/-- What the application may expect of a buffer it is given. -/
structure BufState.Usable (b : BufState) (s : Slot) : Prop where
  slotSize : 0 < b.slotSize
  type : b.type s = bufferTypePcmS16Le
  count : (b.layout s).count = b.slotSize
  size : (b.layout s).size = b.slotSize
  pcount : (b.layout s).pcount = b.slotSize - dataHeaderLen
  payload : (b.layout s).payload = (b.layout s).data.add dataHeaderLen
  index : (b.layout s).index = s.index
  index_lt : (b.layout s).index < s.slots

/-- The slot a call goes for: the next uplink slot, or the slot of the downlink frame that is
wanted. -/
def Selected (m : Machine) : Slot → Prop
  | .ul i => m.buf.ulSlotApp = some i
  | .dl i => ∃ p, dlPosition m = some p ∧ i = dlSlotOf p

theorem selected_of_acquired {m : Machine} {op : Op} {s : Slot} (h : op.acquired m = some s) :
    Selected m s := by
  cases op with
  | dlBufferAcquire buf =>
    obtain ⟨-, p, hp, -, rfl⟩ := (acquired_dl_iff m buf s).mp h
    exact ⟨p, hp, rfl⟩
  | ulBufferAcquire buf =>
    obtain ⟨⟨i, rfl, hi⟩, -⟩ := free_of_acquired_ul m buf h
    exact hi
  | _ => cases h

/-- What the calls give out is in use afterwards: locked, valid, and laid out for the slot size. -/
theorem usable_of_acquired {m : Machine} (hseal : m.buf.Sealed) (hlin : m.buf.Linear)
    (hstep : m.buf.InStep) {i : Step} {s : Slot} (h : i.2.acquired m = some s) :
    (nokiamodem.next m i).1.buf.Usable s := by
  have hk := keeps_of_acquired h
  have hv : ¬ (nokiamodem.next m i).1.buf.Invalid s :=
    fun hi => hk.valid s h ((hk.invalid s).mp hi)
  have hn : NoTestRamp i.2 := by
    obtain ⟨k, op⟩ := i
    cases op with
    | dlBufferAcquire buf => trivial
    | ulBufferAcquire buf => trivial
    | _ => cases h
  -- A descriptor that is not marked is laid out for the slot size; `p` is where its slot begins.
  obtain ⟨p, hp⟩ := hstep.next hn s hv
  refine ⟨?_, ?_, ?_, ?_, ?_, ?_, ?_, ?_⟩
  · -- without a slot size every descriptor is marked
    refine Nat.pos_of_ne_zero fun hz => hv ?_
    obtain ⟨-, hul, hdl⟩ := sealed_next m i hseal hz
    cases s with
    | ul j => exact hul j
    | dl j => exact hdl j
  · exact next_buf_invariant (I := BufState.Linear) (fun _ _ hs => hs.linear) m i hlin s
  · rw [hp]
    rfl
  · rw [hp]
    rfl
  · rw [hp]
    rfl
  · rw [hp]
    rfl
  · rw [hp]
    rfl
  · rw [hp]
    exact s.index_lt

/-- **Every buffer that is given out is usable**, in every run without test ramps. -/
theorem acquired_usable {m : Machine} (hm : nokiamodem.init m) {is : List Step}
    (hn : ∀ i ∈ is, NoTestRamp i.2) (i : Step) {s : Slot}
    (ha : i.2.acquired (nokiamodem.exec m is) = some s) :
    Selected (nokiamodem.exec m is) s ∧
      (nokiamodem.next (nokiamodem.exec m is) i).1.buf.Usable s := by
  have hreach : nokiamodem.Reachable (nokiamodem.exec m is) := ⟨m, is, hm, rfl⟩
  have hinit : m.buf.InStep := by
    obtain ⟨area, old, rfl⟩ := hm
    exact .reset
  have hstep : (nokiamodem.exec m is).buf.InStep :=
    nokiamodem.exec_invariant (I := fun m => m.buf.InStep) (P := fun _ i => NoTestRamp i.2)
      (fun _ _ h hn => h.next hn) hinit ((nokiamodem.along_forall _ m is).mpr hn)
  refine ⟨selected_of_acquired ha, usable_of_acquired (sealed_reachable hreach) ?_ hstep ha⟩
  exact buf_reachable linear_reset (fun _ _ hs => hs.linear) hreach

/-- An uplink buffer, as an instance: the first one of a call, from the fresh driver. -/
theorem acquired_usable_fresh :
    Selected (nokiamodem.exec Machine.fresh (heldBufferRun.take 4)) (.ul 0) ∧
      (nokiamodem.next (nokiamodem.exec Machine.fresh (heldBufferRun.take 4))
        (.accepting, .ulBufferAcquire true)).1.buf.Usable (.ul 0) := by
  refine acquired_usable init_fresh ?_ (.accepting, .ulBufferAcquire true) (by decide)
  simp only [heldBufferRun, List.take_succ_cons, List.take_zero, List.forall_mem_cons, NoTestRamp]
  exact ⟨trivial, by decide, by decide, by decide, by simp⟩

/-! ### A configuration that fails -/

/-- There is no slot size, no buffer is held, and none can be given out.  So the library is left
by a layout that the driver has refused. -/
structure BufState.OutOfUse (b : BufState) : Prop where
  slotSize : b.slotSize = 0
  invalid : ∀ s, b.Invalid s
  free : ∀ s, ¬ b.Locked s

theorem outOfUse_reset : privResetBufStateToDisconnected.OutOfUse :=
  ⟨rfl, BufState.invalid_invalidate _, answered_reset.free⟩

/-- It stays like that until the driver takes a slot size. -/
theorem BufState.OutOfUse.next {m : Machine} (h : m.buf.OutOfUse) {i : Step}
    (hn : NoTestRamp i.2) (hc : ∀ n, n ≠ 0 → .configBufs n 0 ∉ (nokiamodem.next m i).2) :
    (nokiamodem.next m i).1.buf.OutOfUse := by
  have hout := dataOutcome m i
  have hmem (n : ℕ) (hz : n ≠ 0) :
      .configBufs n 0 ∉ (nokiamodem.next m i).2.filter Obs.dataPath :=
    fun hm => hc n hz (List.mem_filter.mp hm).1
  have hramp := hn.not_relays m.buf.slotSize
  generalize (nokiamodem.next m i).2.filter Obs.dataPath = o at hout hmem
  generalize (nokiamodem.next m i).1.buf = b' at hout ⊢
  cases hout with
  | keep hk hz _ =>
    refine ⟨hz.trans h.slotSize, fun s => (hk.invalid s).mpr (h.invalid s), ?_⟩
    intro s hs
    rcases (hk.locked s).mp hs with ha | ⟨hl, -⟩
    · exact hk.valid s ha (h.invalid s)
    · exact h.free s hl
  -- A request is postponed only while a buffer is held, and none is.
  | postpone hp =>
    obtain ⟨cmd, -, -, hl⟩ := hp.word
    exact absurd ((BufState.privLockedBufdescs_eq_zero_iff _).mpr h.free) hl
  | start _ hz _ _ _ => exact absurd List.mem_cons_self (hmem _ hz)
  | relay hr => exact absurd hr hramp
  | relayRefused hr => exact absurd hr hramp
  | moveDl hm => exact absurd h.slotSize hm.slotSize_pos.ne'
  | stop | refuse | reset => exact outOfUse_reset

/-- A run of such steps leaves the buffers out of use until a layout succeeds. -/
theorem BufState.OutOfUse.exec {m : Machine} (h : m.buf.OutOfUse) {is : List Step}
    (hn : ∀ i ∈ is, NoTestRamp i.2)
    (hc : ∀ n, n ≠ 0 → .configBufs n 0 ∉ nokiamodem.trace m is) :
    (nokiamodem.exec m is).buf.OutOfUse := by
  induction is generalizing m with
  | nil => exact h
  | cons i is ih =>
    have hnext := h.next (hn i List.mem_cons_self) fun n hz hm =>
      hc n hz (List.mem_append_left _ hm)
    exact ih hnext (fun j hj => hn j (List.mem_cons_of_mem i hj)) fun n hz hm =>
      hc n hz (List.mem_append_right _ hm)

/-- The failure of a configuration is reported, and no buffer is given out until another one
succeeds. -/
structure FailureContained (m : Machine) (i : Step) : Prop where
  /-- The reply carries result 1, and is tried once. -/
  reports : replies (nokiamodem.next m i).2 = 1 ∧
    ∀ msg w, .write msg w ∈ (nokiamodem.next m i).2 → (Obs.write msg w).isReply = true →
      msg = msgEncodeSpeechConfigResp 1
  /-- Whatever follows. -/
  refuses : ∀ js, (∀ j ∈ js, NoTestRamp j.2) →
    (∀ n, n ≠ 0 → .configBufs n 0 ∉ nokiamodem.trace (nokiamodem.next m i).1 js) →
      ∀ op : Op, op.acquired (nokiamodem.exec (nokiamodem.next m i).1 js) = none

/-- **A configuration that fails is contained**: a `SPEECH_CONFIG_REQ` that is being answered
when it does is answered with a failure, and no buffer is given out afterwards.  This rests on
no invariant, so it holds in every state. -/
theorem configFailure_contained (m : Machine) {i : Step} (hc : ComesToReply m.buf i.2)
    {n : ℕ} {r : ℤ} (hf : .configBufs n r ∈ (nokiamodem.next m i).2) (hr : r ≠ 0) :
    FailureContained m i := by
  obtain ⟨h₁, h₂, h₃, h₄⟩ := hc.rewrites_nothing
  have hout := dataOutcome m i
  have hmem {o : Obs} (ho : o.dataPath = true) :
      o ∈ (nokiamodem.next m i).2 ↔ o ∈ (nokiamodem.next m i).2.filter Obs.dataPath := by
    simp [ho]
  have hreply {msg : Cmd} {w : WriteRes} (hw : (Obs.write msg w).isReply = true) :
      (Obs.write msg w).dataPath = true := hw
  rw [hmem rfl] at hf
  suffices h : replies (nokiamodem.next m i).2 = 1 ∧
      (∀ msg w, .write msg w ∈ (nokiamodem.next m i).2.filter Obs.dataPath →
        msg = msgEncodeSpeechConfigResp 1) ∧ (nokiamodem.next m i).1.buf.OutOfUse by
    obtain ⟨hone, hmsg, hdown⟩ := h
    refine ⟨⟨hone, fun msg w hw hr => hmsg msg w ((hmem (hreply hr)).mp hw)⟩, ?_⟩
    intro js hjs hno op
    exact acquired_of_invalid (hdown.exec hjs hno).invalid op
  rw [← replies_filter]
  generalize (nokiamodem.next m i).2.filter Obs.dataPath = o at hout hf ⊢
  generalize (nokiamodem.next m i).1.buf = b' at hout ⊢
  cases hout with
  | keep _ _ hnc => exact absurd hc hnc.comes
  | postpone hp => exact absurd hp h₃
  -- a driver that takes the layout has failed nothing
  | stop => simp_all
  | start => simp_all
  | refuse _ hconf r' =>
    refine ⟨?_, ?_, outOfUse_reset⟩
    · simp [replies, Obs.isReply]
    · intro msg w hw
      simp only [List.mem_cons, Obs.write.injEq, reduceCtorEq, List.not_mem_nil, or_false,
        false_or] at hw
      exact hw.1
  | reset hr => exact absurd hr h₁
  | relay hr => exact absurd hr h₂
  | relayRefused hr => exact absurd hr h₂
  | moveDl hm => exact absurd hm (h₄ _)

/-- A driver that takes no layout: `CS_CONFIG_BUFS` fails and everything else succeeds. -/
def Kernel.layoutless : Kernel := { Kernel.accepting with configBufs := fun _ => -1 }

/-- A request that the driver has no layout for, as an instance. -/
theorem configFailure_contained_fresh :
    FailureContained (nokiamodem.exec Machine.fresh (heldBufferRun.take 2))
      (.layoutless, .recv (speechConfigReqMsg true)) := by
  refine configFailure_contained (n := 324) (r := -1) _ ⟨?_, ?_⟩ ?_ ?_
  · decide
  · decide
  · decide
  · decide

end CmtSpeech
