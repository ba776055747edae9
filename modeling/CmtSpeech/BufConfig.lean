import CmtSpeech.Held
import CmtSpeech.StateReports

/-!
# What an operation makes of the buffers

`DataStep` leaves open what a new configuration looks like, and what the driver is asked
for.  Here every operation is followed to the end: the calls of the data path it makes, with
the driver's answers, and the buffers it leaves behind.

* `BufState.configured` — the buffers after `CS_CONFIG_BUFS`.
* `BufState.LaidOut` — fresh descriptors for a slot size.
* `ReplyOutcome` — the reply to a `SPEECH_CONFIG_REQ`.
* `DataOutcome` — everything one operation can do, one constructor for each way.

## Main result

* `dataOutcome`
-/

namespace CmtSpeech

open Protocol

/-! ### Asking the driver -/

/-- The buffers after `priv_setup_driver_bufconfig`: `res` is the driver's answer, and `area`
the mapped area it leaves. -/
def BufState.configured (b : BufState) (area : MmapArea) (res : ℤ) : BufState :=
  if b.slotSize = 0 then privResetBufStateToDisconnected
  else if res = 0 then (b.resized b.slotSize).laidOut area
  else b.resized b.slotSize

/-- Fresh descriptors for slots of size `n`, all free: every one points to the offset that the
driver has given its slot in `area`, and carries its own index. -/
structure BufState.LaidOut (b : BufState) (area : MmapArea) (n : ℕ) : Prop where
  slotSize : b.slotSize = n
  ul : ∀ i : Fin ulSlots, b.layout (.ul i) = .of (.mmap (area.txOffsets i)) n i
  dl : ∀ i : Fin dlSlots, b.layout (.dl i) = .of (.mmap (area.rxOffsets i)) n i
  free : ∀ s, ¬ b.Locked s

theorem laidOut_laidOut (b : BufState) (area : MmapArea) :
    (b.laidOut area).LaidOut area b.slotSize where
  slotSize := rfl
  ul _ := rfl
  dl _ := rfl
  free s := BufState.not_locked_of_flags (by cases s <;> rfl)

/-- Marking the slots invalid leaves the layouts: the descriptors still point to where the driver
has laid them out. -/
theorem BufState.LaidOut.invalidate {b : BufState} {area : MmapArea} {n : ℕ}
    (h : b.LaidOut area n) : (privInvalidateBufferSlots b).LaidOut area n where
  slotSize := h.slotSize
  ul := h.ul
  dl := h.dl
  free s hs := h.free s ((BufState.locked_invalidate b s).mp hs)

theorem invalidate_twice (b : BufState) :
    privInvalidateBufferSlots (privInvalidateBufferSlots b) = privInvalidateBufferSlots b := by
  simp [privInvalidateBufferSlots, BitVec.or_assoc]

theorem invalidate_reset :
    privInvalidateBufferSlots privResetBufStateToDisconnected = privResetBufStateToDisconnected :=
  invalidate_twice _

theorem configured_of_zero {b : BufState} (h : b.slotSize = 0) (area : MmapArea) (res : ℤ) :
    b.configured area res = privResetBufStateToDisconnected := if_pos h

theorem configured_of_ne {b : BufState} (h : b.slotSize ≠ 0) (area : MmapArea) {res : ℤ}
    (hr : res = 0) : b.configured area res = (b.resized b.slotSize).laidOut area := by
  rw [BufState.configured, if_neg h, if_pos hr]

theorem configured_of_refused {b : BufState} (h : b.slotSize ≠ 0) (area : MmapArea) {res : ℤ}
    (hr : res ≠ 0) : b.configured area res = b.resized b.slotSize := by
  rw [BufState.configured, if_neg h, if_neg hr]

/-- What `priv_setup_driver_bufconfig` asks for, and what it leaves behind. -/
structure Configures (k : Kernel) (m m' : Machine) : Prop where
  buf : m'.buf = m.buf.configured (k.configArea (m.tick + 1)) (k.configBufs (m.tick + 1))
  log : m'.dataLog = m.dataLog ++ [.configBufs m.buf.slotSize (k.configBufs (m.tick + 1))]
  area : m'.d.buf = k.configArea (m.tick + 1)

section
variable (k : Kernel) (m : Machine)

/-- The part of `priv_setup_driver_bufconfig` after the old state has been dealt with. -/
theorem privSetupDriverBufconfigV2api_exact :
    (privSetupDriverBufconfigV2api k m).2.buf =
        (if k.configBufs (m.tick + 1) = 0 ∧ m.buf.slotSize > 0 then
          m.buf.laidOut (k.configArea (m.tick + 1)) else m.buf) ∧
      (privSetupDriverBufconfigV2api k m).2.out =
        m.out ++ [.configBufs m.buf.slotSize (k.configBufs (m.tick + 1))] ∧
      (privSetupDriverBufconfigV2api k m).2.d.buf = k.configArea (m.tick + 1) := by
  have hfst : (ioctlConfigBufs k m.buf.slotSize (ioctlGetIfVersion k m).2).1 =
      k.configBufs (m.tick + 1) := rfl
  simp only [privSetupDriverBufconfigV2api, hfst]
  by_cases hc : k.configBufs (m.tick + 1) = 0
  · rw [if_pos hc]
    -- the version of the interface matters to the read pointer alone
    generalize hm : (if (ioctlGetIfVersion k m).1 > 0 then _ else _) = m₁
    have hb : m₁.buf = m.buf := by rw [← hm]; split <;> rfl
    have ho : m₁.out = m.out ++ [.configBufs m.buf.slotSize (k.configBufs (m.tick + 1))] := by
      rw [← hm]
      split <;> rfl
    have hd : m₁.d.buf = k.configArea (m.tick + 1) := by rw [← hm]; split <;> rfl
    rw [hb]
    by_cases hz : m.buf.slotSize > 0
    · rw [if_pos hz, if_pos ⟨hc, hz⟩]
      refine ⟨?_, ho, hd⟩
      rw [← hb, ← hd]
      rfl
    · rw [if_neg hz, if_neg fun h => hz h.2]
      exact ⟨hb, ho, hd⟩
  · rw [if_neg hc, if_neg fun h => hc h.1]
    exact ⟨rfl, rfl, rfl⟩

theorem configures_privSetupDriverBufconfig : Configures k m (privSetupDriverBufconfig k m).2 := by
  unfold privSetupDriverBufconfig
  -- `m₁` is the machine once the slots have been cut to the new size; the driver sees it.
  generalize hm : m.modBuf _ = m₁
  have hz : m₁.buf.slotSize = m.buf.slotSize := by
    rw [← hm, Machine.modBuf_buf]
    split
    · next hz => exact hz.symm
    · rfl
  have ht : m₁.tick = m.tick := by rw [← hm, Machine.modBuf_tick]
  have ho : m₁.out = m.out := by rw [← hm, Machine.modBuf_out]
  obtain ⟨hbuf, hout, harea⟩ := privSetupDriverBufconfigV2api_exact k m₁
  rw [ht] at hbuf hout harea
  refine ⟨?_, ?_, harea⟩
  · rw [hbuf, hz]
    -- Without a slot size the buffers are taken down, and the answer of the driver is not used.
    by_cases h0 : m.buf.slotSize = 0
    · rw [if_neg fun h => h.2.ne' h0, configured_of_zero h0, ← hm, Machine.modBuf_buf, if_pos h0]
    · have hb : m₁.buf = m.buf.resized m.buf.slotSize := by
        rw [← hm, Machine.modBuf_buf, if_neg h0]
        rfl
      by_cases hc : k.configBufs (m.tick + 1) = 0
      · rw [if_pos ⟨hc, Nat.pos_of_ne_zero h0⟩, configured_of_ne h0 _ hc, hb]
      · rw [if_neg fun h => hc h.1, configured_of_refused h0 _ hc, hb]
  · rw [Machine.dataLog, hout, hz, ho, List.filter_append]
    rfl

theorem dataLog_privInitializeAfterPeerReset :
    ∃ r, (privInitializeAfterPeerReset k m).dataLog = m.dataLog ++ [.configBufs 0 r] := by
  obtain ⟨r, hr⟩ := dataLog_privSetupDriverBufconfig k
    (m.modBuf fun b => { b with slotSize := 0 })
  refine ⟨r, Eq.trans ?_ hr⟩
  unfold privInitializeAfterPeerReset
  generalize (privSetupDriverBufconfig k _).2 = m₁
  have hwake : Quiet (m₁.modBc BcState.privResetStateToDisconnected)
      (privResetWakelineState k (m₁.modBc BcState.privResetStateToDisconnected)) :=
    .of_obs rfl rfl rfl rfl
  exact hwake.log

/-! ### The reply -/

/-- The reply to a `SPEECH_CONFIG_REQ`, from the buffers `b` on, with the first calls of an
operation. -/
inductive ReplyOutcome (k : Kernel) (b : BufState) : List Obs → BufState → Prop
  | accepted (hc : k.configBufs 1 = 0) :
    ReplyOutcome k b [.configBufs b.slotSize 0, .write (msgEncodeSpeechConfigResp 0) (k.write 2)]
      ({ b with speechConfigRespPend := false }.configured (k.configArea 1) 0)
  | refused (hc : k.configBufs 1 ≠ 0) (r : ℤ) :
    ReplyOutcome k b
      [.configBufs b.slotSize (k.configBufs 1), .write (msgEncodeSpeechConfigResp 1) (k.write 2),
        .configBufs 0 r]
      privResetBufStateToDisconnected

theorem privSetupAndSendSpeechConfigReply_outcome (ht : m.tick = 0) :
    ∃ o, (privSetupAndSendSpeechConfigReply k m).2.dataLog = m.dataLog ++ o ∧
      ReplyOutcome k m.buf o (privSetupAndSendSpeechConfigReply k m).2.buf := by
  obtain ⟨hbuf, hlog, -⟩ := configures_privSetupDriverBufconfig k
    (m.modBuf fun b => { b with speechConfigRespPend := false })
  obtain ⟨htick, hfst⟩ := privSetupDriverBufconfig_tick k
    (m.modBuf fun b => { b with speechConfigRespPend := false })
  rw [Machine.modBuf_tick, ht, Nat.zero_add] at hbuf hlog htick hfst
  rw [privSetupAndSendSpeechConfigReply]
  generalize privSetupDriverBufconfig k
    (m.modBuf fun b => { b with speechConfigRespPend := false }) = c at hbuf hlog htick hfst ⊢
  have hlog' : c.2.dataLog = m.dataLog ++ [.configBufs m.buf.slotSize (k.configBufs 1)] := hlog
  -- The reply is the second call of the kernel, after CS_CONFIG_BUFS, whatever it reports.
  have hwrite (result : BitVec 8) :
      (privWrite k (msgEncodeSpeechConfigResp result) c.2).2.dataLog =
        m.dataLog ++ [.configBufs m.buf.slotSize (k.configBufs 1),
          .write (msgEncodeSpeechConfigResp result) (k.write 2)] := by
    rw [dataLog_privWrite_resp, hlog', htick, List.append_assoc]
    rfl
  by_cases hc : c.1 = 0
  · have hconf : k.configBufs 1 = 0 := hfst.symm.trans hc
    rw [if_neg (not_not.mpr hc)]
    refine ⟨[.configBufs m.buf.slotSize 0, .write (msgEncodeSpeechConfigResp 0) (k.write 2)], ?_,
      ?_⟩
    · rw [if_pos hc, hwrite, hconf]
    · rw [if_pos hc, buf_privWrite, hbuf, hconf]
      exact .accepted hconf
  -- The driver has refused: error reply, then a reset, which takes the buffers down.
  · rw [if_pos hc, if_neg hc]
    have hconf : k.configBufs 1 ≠ 0 := hfst ▸ hc
    obtain ⟨r, hr⟩ := dataLog_privSendReset k
      ((privWrite k (msgEncodeSpeechConfigResp 1) c.2).2.modBuf privInvalidateBufferSlots)
    refine ⟨[.configBufs m.buf.slotSize (k.configBufs 1),
      .write (msgEncodeSpeechConfigResp 1) (k.write 2), .configBufs 0 r], ?_, ?_⟩
    · refine hr.trans ?_
      have hmod : ((privWrite k (msgEncodeSpeechConfigResp 1) c.2).2.modBuf
          privInvalidateBufferSlots).dataLog =
          (privWrite k (msgEncodeSpeechConfigResp 1) c.2).2.dataLog := rfl
      rw [hmod, hwrite, List.append_assoc]
      rfl
    · rw [buf_privSendReset]
      exact .refused hconf r

end

/-! ### The slot size -/

namespace Protocol

variable {k : Kernel} {v v' : View} {o : List Obs} {op : Op}

theorem SetupReply.replies_ne (h : SetupReply k v o v') : replies o ≠ 0 := by
  cases h with
  | ok n hc hr => cases hr <;> simp [replies, Obs.isReply]
  | failed n hc hr hs => cases hr <;> simp [replies, Obs.isReply]

theorem SsiResp.slotSize {resp : SsiConfigResp} (h : SsiResp k resp v o v')
    (hr : resp.result = ssiConfigResSuccess) : v'.slotSize = v.slotSize := by
  cases h with
  | reconnect _ hp hc hq => exact hq.slotSize
  | redisconnect _ hp hc hq => exact hq.slotSize
  | errorPending hn => exact absurd hr hn
  | error hn => exact absurd hr hn
  | _ => rfl

theorem Recv.slotSize {cmd : Cmd} (h : Recv k cmd v o v') (hs : ¬ SpeechConfigReqWord cmd)
    (h₁ : ¬ ResetsBuffers v.bc (.recv cmd)) (h₂ : ¬ Relays v.slotSize (.recv cmd)) :
    v'.slotSize = v.slotSize := by
  have hramp (hd : msgGetDomain cmd = domainControl) (ht : msgGetType cmd = testRampPing) :
      v.slotSize = testSlotSize (msgDecodeTestRampPing cmd).ramplen :=
    not_not.mp fun hz => h₂ ⟨⟨hd, ht⟩, hz⟩
  cases h with
  | control hd e h tstamp he =>
    cases h with
    | speechConfig ht h => exact absurd ⟨hd, ht⟩ hs
    | ssiResp ht h =>
      have hr := not_not.mp fun hr => h₁ (Or.inr ⟨⟨hd, ht⟩, hr⟩)
      exact (afterSsiResp_slotSize _).trans (h.slotSize hr)
    | resetReq ht h => exact absurd (Or.inl ⟨1, Or.inl ⟨hd, ht, rfl⟩⟩) h₁
    | resetRespConnect ht hp h => exact h.slotSize
    | _ => rfl
  | testRampNoBufs hd ht n hc => exact (hramp hd ht).symm
  | testRamp hd ht h => cases h <;> exact (hramp hd ht).symm
  | csError hd ht e he => exact absurd (Or.inl ⟨0, Or.inr ⟨hd, ht, rfl⟩⟩) h₁
  | _ => rfl

/-- Unless the buffers are configured anew, the slot size stays. -/
theorem ProtoStep.slotSize (h : ProtoStep k op v o v') (hr : replies o = 0)
    (hs : ∀ cmd, op = .recv cmd → ¬ SpeechConfigReqWord cmd) (h₁ : ¬ ResetsBuffers v.bc op)
    (h₂ : ¬ Relays v.slotSize op) : v'.slotSize = v.slotSize := by
  cases h with
  | recv h => exact h.slotSize (hs _ rfl) h₁ h₂
  | callStatus h =>
    cases h with
    | disconnect _ hs h => exact h.slotSize
    | connect hs h => exact h.slotSize
    | reset hs h => exact absurd hs h₁
    | crashed hs hc hi h => exact h.slotSize
    | _ => rfl
  | error h => exact absurd trivial h₁
  | sendTiming h => exact h.slotSize
  | sendSsi h => exact h.slotSize
  | testReq h => cases h <;> exact (not_not.mp h₂).symm
  | dlReleaseReply hp h => exact absurd hr h.replies_ne
  | ulReleaseReply hp h => exact absurd hr h.replies_ne
  | _ => rfl

/-- A request that is put off is marked, and sets the slot size it will be answered for. -/
theorem ProtoStep.postponed {cmd : Cmd} (h : ProtoStep k (.recv cmd) v o v')
    (hc : SpeechConfigReqWord cmd) (hr : replies o = 0) :
    v' = { speechRequested (msgDecodeSpeechConfigReq cmd) v with respPend := true } := by
  obtain ⟨o₁, e, rfl, hreq⟩ := h.recv_inv.speechConfig_inv k hc.1 hc.2
  cases hreq with
  | now h =>
    have hpos := Nat.pos_of_ne_zero h.replies_ne
    rw [← List.singleton_append, replies_append, replies_append] at hr
    omega
  | defer => rfl

end Protocol

theorem replies_visible (out : List Obs) : replies (out.filter Obs.visible) = replies out := by
  rw [replies, List.countP_filter, replies]
  refine List.countP_congr ?_
  intro o _
  cases o <;> simp [Obs.isReply, Obs.visible]

/-! ### Every operation -/

/-- The slot size a reply is made for: that of the request, if the operation reads one, and
otherwise the one that the deferred request has left. -/
def Op.requestedSlotSize (b : BufState) : Op → ℕ
  | .checkPending _ (some cmd) => speechConfigSlotSize (msgDecodeSpeechConfigReq cmd)
  | _ => b.slotSize

/-- The slot size of a test ramp, from the word or the call that asks for it. -/
def Op.rampSlotSize : Op → ℕ
  | .checkPending _ (some cmd) => testSlotSize (msgDecodeTestRampPing cmd).ramplen
  | .testDataRampReq _ ramplen => testSlotSize ramplen
  | _ => 0

/-- Which system call of a test ramp is `CS_CONFIG_BUFS`.  For a ramp that the modem asks for it
comes after the line has been raised, if the line was down. -/
def Op.rampCall (m : Machine) : Op → ℕ
  | .checkPending _ _ => if m.d.wakelineUsers = 0 then 2 else 1
  | _ => 1

/-- None of the ways that rewrite descriptors: the operation makes no reply, does not reset the
buffers, relays no test ramp, puts off no reply and moves no downlink frames.  What is left can
only lock and unlock buffers. -/
structure RewritesNothing (m : Machine) (op : Op) : Prop where
  comes : ¬ ComesToReply m.buf op
  resets : ¬ ResetsBuffers m.bcstate op
  relays : ¬ Relays m.buf.slotSize op
  postpones : ¬ Postpones m.buf op
  moves : ∀ slotbuf, ¬ MovesDl m op slotbuf

/-- What one operation does to the buffers, and its part in the data path.  There are these ways
and no others, with the layouts that the driver was asked for and the replies that were written;
every invariant of the buffers is a case analysis of them. -/
inductive DataOutcome (k : Kernel) (m : Machine) (op : Op) : List Obs → BufState → Prop
  | keep {b' : BufState} (h : Keeps m op b') (hz : b'.slotSize = m.buf.slotSize)
      (hn : RewritesNothing m op) : DataOutcome k m op [] b'
  | postpone {b' : BufState} (h : Postpones m.buf op) (hb : m.buf.Postponed b')
      (hz : b'.slotSize = op.requestedSlotSize m.buf) : DataOutcome k m op [] b'
  -- a reply for slot size 0 resets the buffers
  | stop (h : ComesToReply m.buf op) (hz : op.requestedSlotSize m.buf = 0)
      (hc : k.configBufs 1 = 0) :
    DataOutcome k m op [.configBufs 0 0, .write (msgEncodeSpeechConfigResp 0) (k.write 2)]
      privResetBufStateToDisconnected
  | start {b' : BufState} (h : ComesToReply m.buf op) (hz : op.requestedSlotSize m.buf ≠ 0)
      (hc : k.configBufs 1 = 0) (hb : b'.LaidOut (k.configArea 1) (op.requestedSlotSize m.buf))
      (hp : b'.speechConfigRespPend = false) :
    DataOutcome k m op
      [.configBufs (op.requestedSlotSize m.buf) 0,
        .write (msgEncodeSpeechConfigResp 0) (k.write 2)] b'
  | refuse (h : ComesToReply m.buf op) (hc : k.configBufs 1 ≠ 0) (r : ℤ) :
    DataOutcome k m op
      [.configBufs (op.requestedSlotSize m.buf) (k.configBufs 1),
        .write (msgEncodeSpeechConfigResp 1) (k.write 2), .configBufs 0 r]
      privResetBufStateToDisconnected
  | reset (h : ResetsBuffers m.bcstate op) (r : ℤ) :
    DataOutcome k m op [.configBufs 0 r] privResetBufStateToDisconnected
  | relay {b' : BufState} (h : Relays m.buf.slotSize op) (hc : k.configBufs (op.rampCall m) = 0)
      (hb : b'.LaidOut (k.configArea (op.rampCall m)) op.rampSlotSize)
      (hp : b'.speechConfigRespPend = m.buf.speechConfigRespPend) :
    DataOutcome k m op [.configBufs op.rampSlotSize 0] b'
  -- the slot size is the new one, and the descriptors are the old ones
  | relayRefused (h : Relays m.buf.slotSize op) (hc : k.configBufs (op.rampCall m) ≠ 0) :
    DataOutcome k m op [.configBufs op.rampSlotSize (k.configBufs (op.rampCall m))]
      (m.buf.resized op.rampSlotSize)
  | moveDl {slotbuf : Fin dlSlots → Ptr} (h : MovesDl m op slotbuf) :
    DataOutcome k m op [] (m.buf.movedDl slotbuf)

section
variable {k : Kernel} {m : Machine} {op : Op}

/-- A reply of the operation, after which the slots may be marked invalid. -/
theorem ReplyOutcome.outcome {b b₁ b' : BufState} {o : List Obs} (h : ReplyOutcome k b o b₁)
    (hz : b.slotSize = op.requestedSlotSize m.buf) (hc : ComesToReply m.buf op)
    (hb : b' = b₁ ∨ b' = privInvalidateBufferSlots b₁) : DataOutcome k m op o b' := by
  have hreset (h : b₁ = privResetBufStateToDisconnected) :
      b' = privResetBufStateToDisconnected := by
    rcases hb with hb | hb
    · rw [hb, h]
    · rw [hb, h, invalidate_reset]
  -- A deferred reply that fails invalidates the slots too; after a reset there are none to
  -- invalidate.
  cases h with
  | accepted hconf =>
    rw [hz]
    by_cases h0 : b.slotSize = 0
    · rw [hreset (configured_of_zero (by exact h0) _ _), ← hz, h0]
      exact .stop hc (hz.symm.trans h0) hconf
    · have hlaid := laidOut_laidOut
        (BufState.resized { b with speechConfigRespPend := false } b.slotSize) (k.configArea 1)
      rw [configured_of_ne (by exact h0) _ rfl] at hb
      refine .start hc (hz ▸ h0) hconf ?_ ?_
      · rw [← hz]
        rcases hb with rfl | rfl
        · exact hlaid
        · exact hlaid.invalidate
      · rcases hb with rfl | rfl <;> rfl
  | refused hconf r =>
    rw [hreset rfl, hz]
    exact .refuse hc hconf r

/-- Giving back the last buffer makes the reply, with the outcomes of a reply that is made at
once. -/
theorem outcome_privDrvbufLayoutChangeBufferReleased {slot : Slot}
    (hz : op.requestedSlotSize m.buf = m.buf.slotSize) (hc : ComesToReply m.buf op)
    (hlast : privLockedBufdescs (m.buf.unlock slot) = 0) :
    DataOutcome k m op (privDrvbufLayoutChangeBufferReleased k slot m.begin).dataLog
      (privDrvbufLayoutChangeBufferReleased k slot m.begin).buf := by
  obtain ⟨o, hlog, hout⟩ := privSetupAndSendSpeechConfigReply_outcome k
    (m.begin.modBuf fun b => b.mapFlags slot (· &&& ~~~bufLocked)) rfl
  have hsize : (m.begin.modBuf fun b => b.mapFlags slot (· &&& ~~~bufLocked)).buf.slotSize =
      op.requestedSlotSize m.buf := by
    rw [hz]
    cases slot <;> rfl
  unfold privDrvbufLayoutChangeBufferReleased
  dsimp only
  rw [if_pos (by exact hlast)]
  split
  · rw [show Machine.dataLog (Machine.modBuf _ privInvalidateBufferSlots) = _ from hlog]
    exact hout.outcome hsize hc (Or.inr rfl)
  · rw [hlog]
    exact hout.outcome hsize hc (Or.inl rfl)

/-- A known control message is handled, and its event queued. -/
theorem queues_handleInboundControlMessage (k : Kernel) (m : Machine) {cmd : Cmd}
    (hd : msgGetDomain cmd = domainControl) (hu : ¬ UnknownType (msgGetType cmd))
    (ht : msgGetType cmd ≠ testRampPing) :
    ∃ e, (handleInboundControlMessage k cmd m).2.2 =
      (privQueueControlEvent e (handleCommandBackend k cmd (bcHandleCommand k cmd m).2.1
        (bcHandleCommand k cmd m).2.2).2).2 := by
  obtain ⟨hr, -⟩ := control_event k hu ht m
  rw [handleInboundControlMessage, if_pos hd, if_neg (not_not.mpr hr), if_pos ht]
  exact ⟨_, rfl⟩

/-- The release of the last buffer, when it is a downlink buffer. -/
theorem run_lastDlBuffer (k : Kernel) {i : Fin dlSlots}
    (hc : ComesToReply m.buf (.dlBufferRelease i)) :
    (Op.dlBufferRelease i).run k m.begin =
      privDrvbufLayoutChangeBufferReleased k (.dl (m.buf.dlbufdesc i).bd.index) m.begin := by
  obtain ⟨hl, hp, -⟩ := hc
  rw [Op.run, dlBufferRelease]
  dsimp only
  split
  · next hz => exact absurd hz hl
  · exact congrArg Prod.snd (if_pos hp)

/-- The release of the last buffer, when it is an uplink buffer. -/
theorem run_lastUlBuffer (k : Kernel) {i : Fin ulSlots}
    (hc : ComesToReply m.buf (.ulBufferRelease (some i))) :
    (Op.ulBufferRelease (some i)).run k m.begin =
      privDrvbufLayoutChangeBufferReleased k (.ul (m.buf.ulbufdesc i).bd.index) m.begin := by
  rw [Op.run, ulBufferRelease]
  exact congrArg Prod.snd (if_pos hc.1)

/-- The outcome of an operation that comes to the reply. -/
theorem outcome_of_comesToReply (hc : ComesToReply m.buf op) :
    DataOutcome k m op (op.run k m.begin).dataLog (op.run k m.begin).buf := by
  match op, hc with
  | .checkPending true (some cmd), hc =>
    obtain ⟨⟨hd, ht⟩, hfree⟩ := hc
    have hend := quiet_handleInboundControlMessage k (m.begin.emit (.recv cmd)) hd
      (by rw [ht]; decide)
    have htick : (bcHandleCommand k cmd (m.begin.emit (.recv cmd))).2.2.tick = 0 := by
      rw [bcHandleCommand_speechConfigReq k _ ht]
      rfl
    -- The common code has set the pending flag and touched no buffer.
    have hm₁ : Quiet m.begin (bcHandleCommand k cmd (m.begin.emit (.recv cmd))).2.2 := by
      refine (DataStep.quiet_recv m cmd).trans (quiet_bcHandleCommand k _ ?_)
      rw [ht]
      exact fun h => absurd h (by decide)
    rw [handleCommandBackend_speechConfigReq k _ _ ht] at hend
    have hrun : Op.run k m.begin (.checkPending true (some cmd)) =
        (handleInboundControlMessage k cmd (m.begin.emit (.recv cmd))).2.2 := rfl
    rw [hrun, hend.log, hend.buf]
    generalize (bcHandleCommand k cmd (m.begin.emit (.recv cmd))).2.2 = m₁ at hm₁ htick
    rw [privHandleSpeechConfig]
    generalize hm₂ : m₁.modBuf _ = m₂
    -- No buffer is held, so the reply is made at once.
    have hfree₂ : privLockedBufdescs m₂.buf = 0 := by
      have hdesc : privLockedBufdescs m₂.buf = privLockedBufdescs m₁.buf := by
        rw [← hm₂]
        rfl
      rw [hdesc, hm₁.buf]
      exact hfree
    rw [if_pos hfree₂]
    obtain ⟨o, hlog, hout⟩ := privSetupAndSendSpeechConfigReply_outcome k m₂
      (by rw [← hm₂]; exact htick)
    have hnil : m₂.dataLog = [] := by
      rw [← hm₂]
      exact hm₁.log
    rw [hlog, hnil, List.nil_append]
    refine hout.outcome ?_ ⟨⟨hd, ht⟩, hfree⟩ (Or.inl rfl)
    rw [← hm₂]
    rfl
  | .dlBufferRelease i, hc =>
    rw [run_lastDlBuffer k hc]
    exact outcome_privDrvbufLayoutChangeBufferReleased rfl hc hc.2.2
  | .ulBufferRelease (some i), hc =>
    rw [run_lastUlBuffer k hc]
    exact outcome_privDrvbufLayoutChangeBufferReleased rfl hc hc.2

theorem quiet_privHandleSsiConfigResp (k : Kernel) (h : m.buf.slotSize = 0) :
    Quiet m (privHandleSsiConfigResp k m) := by
  unfold privHandleSsiConfigResp
  split
  · exact quiet_privReleaseWakeline k m _
  · rw [if_neg (by omega)]
    exact .refl m

/-- A reset asks the driver once, for slot size 0. -/
theorem dataLog_of_resetsBuffers (k : Kernel) (h : ResetsBuffers m.bcstate op) :
    ∃ r, (op.run k m.begin).dataLog = [.configBufs 0 r] := by
  have hrecv (cmd : Cmd) : (m.begin.emit (.recv cmd)).dataLog = [] :=
    (DataStep.quiet_recv m cmd).log
  match op, h with
  -- A RESET_CONN_REQ is answered before the buffers are reset; the answer is no data-path call.
  | .checkPending true (some cmd), .inl ⟨c, .inl ⟨hd, ht, _⟩⟩ =>
    have hend := quiet_handleInboundControlMessage k (m.begin.emit (.recv cmd)) hd
      (by rw [ht]; decide)
    rw [bcHandleCommand_resetConnReq k _ ht, handleCommandBackend_resetConnReq k _ _ ht] at hend
    have hw : Quiet ((m.begin.emit (.recv cmd)).modBc BcState.privResetStateToDisconnected) _ :=
      quiet_privWrite k _ (@notReply_of_type msgEncodeResetConnResp (by decide))
    obtain ⟨r, hr⟩ := dataLog_privInitializeAfterPeerReset k _
    exact ⟨r, (hend.log.trans hr).trans (congrArg (· ++ _) (hw.log.trans (hrecv cmd)))⟩
  | .checkPending true (some cmd), .inl ⟨c, .inr ⟨hd, ht, _⟩⟩ =>
    obtain ⟨r, hr⟩ := dataLog_privInitializeAfterPeerReset k (m.begin.emit (.recv cmd))
    refine ⟨r, ?_⟩
    rw [hrecv, List.nil_append] at hr
    rw [Op.run, CmtSpeech.checkPending, if_neg (by decide), handleInboundControlMessage,
      if_neg (by rw [hd]; decide), if_pos hd]
    dsimp only
    rw [if_neg (by rw [ht]; decide), if_pos ht, handleCsError, ← hr]
    exact (quiet_privQueueControlEvent _ _).log
  | .checkPending true (some cmd), .inr ⟨⟨hd, ht⟩, hr⟩ =>
    have hend := quiet_handleInboundControlMessage k (m.begin.emit (.recv cmd)) hd
      (by rw [ht]; decide)
    rw [bcHandleCommand_ssiConfigResp k _ ht, handleCommandBackend_ssiConfigResp k _ _ ht] at hend
    -- An SSI_CONFIG_RESP that reports an error ends in `stateChangeError`, from any `privState`.
    obtain ⟨m₁, hm, heq⟩ : ∃ m₁ : Machine, m₁.dataLog = [] ∧
        bcHandleSsiConfigResp k (msgDecodeSsiConfigResp cmd) (m.begin.emit (.recv cmd)) =
          (stateChangeError k m₁).2 := by
      rw [bcHandleSsiConfigResp, if_neg hr]
      refine ⟨_, ?_, rfl⟩
      split <;> exact hrecv cmd
    dsimp only at hend
    rw [heq] at hend
    obtain ⟨r, hlog⟩ := dataLog_privSendReset k m₁
    have hz : (stateChangeError k m₁).2.buf.slotSize = 0 := by
      rw [stateChangeError, buf_privSendReset]
      rfl
    exact ⟨r, (hend.log.trans (quiet_privHandleSsiConfigResp k hz).log).trans
      (hlog.trans (congrArg (· ++ _) hm))⟩
  | .stateChangeError, _ => exact dataLog_privSendReset k m.begin
  | .stateChangeCallStatus true, hs =>
    have hs' : m.bcstate.protoState = .invalid ∨ m.bcstate.protoState = .testRampPingActive := hs
    have h₁ : m.bcstate.protoState ≠ .disconnected := by rcases hs' with hs | hs <;> simp [hs]
    have h₂ : m.bcstate.protoState ≠ .connected := by rcases hs' with hs | hs <;> simp [hs]
    obtain ⟨r, hlog⟩ := dataLog_privSendReset k (m.begin.emit (.callStatus true))
    refine ⟨r, ?_⟩
    rw [Op.run, bcStateChangeCallStatus, if_neg (by simp), bcCallStarted, if_neg (by exact h₁),
      if_neg (by exact fun h => h₂ h.1), if_pos (by exact hs')]
    exact hlog

/-- A test ramp that needs a new layout: the driver is asked for it, and the descriptors are its
own or stay. -/
structure RampOutcome (k : Kernel) (m : Machine) (op : Op) (m' : Machine) : Prop where
  log : m'.dataLog = [.configBufs op.rampSlotSize (k.configBufs (op.rampCall m))]
  buf : m'.buf = ({ m.buf with slotSize := op.rampSlotSize } : BufState).configured
    (k.configArea (op.rampCall m)) (k.configBufs (op.rampCall m))
  slotSize_ne : op.rampSlotSize ≠ 0

theorem rampOutcome (ramplen : BitVec 8) {m₁ m' : Machine}
    (hn : op.rampSlotSize = testSlotSize ramplen)
    (hne : m.buf.slotSize ≠ testSlotSize ramplen) (h₁ : Quiet m.begin m₁)
    (ht : m₁.tick + 1 = op.rampCall m)
    (h : Quiet (privInitBufconfigForTestRampPing k ramplen m₁).2 m') : RampOutcome k m op m' := by
  have hb : m₁.buf = m.buf := h₁.buf
  rw [privInitBufconfigForTestRampPing, if_pos (by rw [hb]; exact hne)] at h
  obtain ⟨hbuf, hlog, -⟩ := configures_privSetupDriverBufconfig k
    (m₁.modBuf fun b => { b with slotSize := testSlotSize ramplen })
  rw [Machine.modBuf_tick, ht] at hbuf hlog
  refine ⟨?_, ?_, ?_⟩
  · rw [h.log, hlog, hn]
    exact congrArg (· ++ _) h₁.log
  · rw [h.buf, hbuf, Machine.modBuf_buf, hb, hn]
  · rw [hn]
    simp [testSlotSize, dataHeaderLen]

theorem rampOutcome_of_relays (h : Relays m.buf.slotSize op) :
    RampOutcome k m op (op.run k m.begin) := by
  match op, h with
  | .checkPending true (some cmd), ⟨⟨hd, ht⟩, hz⟩ =>
    obtain ⟨m₁, h₁, htick, hp⟩ := ramp_privHandleTestRampPing k (m.begin.emit (.recv cmd)) cmd
    have hend := quiet_handleInboundControlMessage k (m.begin.emit (.recv cmd)) hd
      (by rw [ht]; decide)
    rw [bcHandleCommand_testRampPing k _ ht, handleCommandBackend_testRampPing k _ _ ht] at hend
    refine rampOutcome (msgDecodeTestRampPing cmd).ramplen rfl hz
      ((DataStep.quiet_recv m cmd).trans h₁) ?_ (hp.trans hend)
    rw [htick, tick_privAcquireWakeline, Op.rampCall]
    show 0 + (if m.d.wakelineUsers = 0 then 1 else 0) + 1 = _
    split <;> rfl
  | .testDataRampReq rampstart ramplen, hz =>
    exact rampOutcome ramplen rfl hz (.refl m.begin) rfl
      (data_testDataRampReq k m.begin rampstart ramplen)

/-- The driver refuses: the slot size is the new one, and the descriptors are the old ones. -/
theorem RampOutcome.buf_refused {m' : Machine} (h : RampOutcome k m op m')
    (hc : k.configBufs (op.rampCall m) ≠ 0) : m'.buf = m.buf.resized op.rampSlotSize := by
  have hz : ({ m.buf with slotSize := op.rampSlotSize } : BufState).slotSize ≠ 0 :=
    h.slotSize_ne
  rw [h.buf, configured_of_refused hz _ hc]
  rfl

theorem outcome_of_relays (h : Relays m.buf.slotSize op) :
    DataOutcome k m op (op.run k m.begin).dataLog (op.run k m.begin).buf := by
  have hout := rampOutcome_of_relays (k := k) h
  by_cases hc : k.configBufs (op.rampCall m) = 0
  · have hz : ({ m.buf with slotSize := op.rampSlotSize } : BufState).slotSize ≠ 0 :=
      hout.slotSize_ne
    rw [hout.log, hout.buf, configured_of_ne hz _ hc, hc]
    exact .relay h hc (laidOut_laidOut (BufState.resized _ op.rampSlotSize) _) rfl
  · rw [hout.log, hout.buf_refused hc]
    exact .relayRefused h hc

end

theorem MovesDl.slotSize_pos {m : Machine} {op : Op} {slotbuf : Fin dlSlots → Ptr}
    (h : MovesDl m op slotbuf) : 0 < m.buf.slotSize := by
  cases h with
  | ssiConfigResp _ _ hz _ _ => exact hz

/-- A `SPEECH_CONFIG_REQ` is neither a reset nor a test ramp nor an `SSI_CONFIG_RESP`. -/
theorem SpeechConfigReqWord.rewrites_nothing {cmd : Cmd} (h : SpeechConfigReqWord cmd)
    (m : Machine) : ¬ ResetsBuffers m.bcstate (.recv cmd) ∧
      ¬ Relays m.buf.slotSize (.recv cmd) ∧ ∀ slotbuf, ¬ MovesDl m (.recv cmd) slotbuf := by
  obtain ⟨hd, ht⟩ := h
  have hne {type : ℕ} (h : msgGetType cmd = type) (hn : speechConfigReq ≠ type) : False :=
    hn (ht.symm.trans h)
  refine ⟨?_, fun hr => hne hr.1.2 (by decide), ?_⟩
  · rintro (⟨c, ⟨-, h, -⟩ | ⟨hi, -⟩⟩ | ⟨⟨-, h⟩, -⟩)
    · exact hne h (by decide)
    · exact absurd (hd.symm.trans hi) (by decide)
    · exact hne h (by decide)
  · rintro slotbuf ⟨⟨-, h⟩, -⟩
    exact hne h (by decide)

/-- An operation that comes to the reply does nothing else to the descriptors. -/
theorem ComesToReply.rewrites_nothing {m : Machine} {op : Op} (h : ComesToReply m.buf op) :
    ¬ ResetsBuffers m.bcstate op ∧ ¬ Relays m.buf.slotSize op ∧ ¬ Postpones m.buf op ∧
      ∀ slotbuf, ¬ MovesDl m op slotbuf := by
  match op, h with
  | .checkPending true (some cmd), h =>
    obtain ⟨h₁, h₂, h₃⟩ := h.1.rewrites_nothing m
    exact ⟨h₁, h₂, fun hp => hp.2 h.2, h₃⟩
  | .dlBufferRelease i, _ => exact ⟨id, id, id, fun _ hm => nomatch hm⟩
  | .ulBufferRelease (some i), _ => exact ⟨id, id, id, fun _ hm => nomatch hm⟩

/-- An `SSI_CONFIG_RESP` that moves the frames does nothing else to the descriptors. -/
theorem MovesDl.exclusive {m : Machine} {op : Op} {slotbuf : Fin dlSlots → Ptr}
    (h : MovesDl m op slotbuf) :
    ¬ ResetsBuffers m.bcstate op ∧ ¬ Relays m.buf.slotSize op ∧ ¬ Postpones m.buf op := by
  cases h with
  | ssiConfigResp hw hr _ _ _ =>
    obtain ⟨hd, ht⟩ := hw
    refine ⟨?_, fun h => absurd (ht.symm.trans h.1.2) (by decide),
      fun h => absurd (ht.symm.trans h.1.2) (by decide)⟩
    rintro (⟨c, ⟨-, h, -⟩ | ⟨h, -⟩⟩ | ⟨-, hn⟩)
    · exact absurd (ht.symm.trans h) (by decide)
    · exact absurd (hd.symm.trans h) (by decide)
    · exact hn hr

/-- A test ramp does nothing else to the descriptors. -/
theorem Relays.exclusive {m : Machine} {op : Op} (h : Relays m.buf.slotSize op) :
    ¬ ResetsBuffers m.bcstate op ∧ ¬ Postpones m.buf op := by
  match op, h with
  | .checkPending true (some cmd), ⟨⟨hd, ht⟩, _⟩ =>
    refine ⟨?_, fun h => absurd (ht.symm.trans h.1.2) (by decide)⟩
    rintro (⟨c, ⟨-, h, -⟩ | ⟨h, -⟩⟩ | ⟨⟨-, h⟩, -⟩)
    · exact absurd (ht.symm.trans h) (by decide)
    · exact absurd (hd.symm.trans h) (by decide)
    · exact absurd (ht.symm.trans h) (by decide)
  | .testDataRampReq _ _, _ => exact ⟨id, id⟩

/-- **What one operation makes of the buffers**, and its calls of the data path. -/
theorem dataOutcome (m : Machine) (i : Step) :
    DataOutcome i.1 m i.2 ((nokiamodem.next m i).2.filter Obs.dataPath)
      (nokiamodem.next m i).1.buf := by
  obtain ⟨k, op⟩ := i
  show DataOutcome k m op (op.run k m.begin).dataLog (op.run k m.begin).buf
  have hproto : ProtoStep k op _ _ _ := nokiamodem_refines m (k, op)
  have hreplies : (op.run k m.begin).dataLog = [] →
      replies (nokiamodem.visible Obs.visible m (k, op)) = 0 := by
    intro hnil
    rw [Lts.visible, replies_visible, ← replies_filter]
    exact congrArg replies hnil
  by_cases hc : ComesToReply m.buf op
  · exact outcome_of_comesToReply hc
  by_cases h₁ : ResetsBuffers m.bcstate op
  · obtain ⟨r, hr⟩ := dataLog_of_resetsBuffers k h₁
    rw [hr, buf_of_resetsBuffers k h₁]
    exact .reset h₁ r
  by_cases h₂ : Relays m.buf.slotSize op
  · exact outcome_of_relays h₂
  by_cases h₃ : Postpones m.buf op
  · obtain ⟨cmd, rfl, hw, hl⟩ := h₃.word
    rcases data_speechConfigReq k m hw with ⟨hz, -, -⟩ | ⟨-, hlog, hb⟩
    · exact absurd hz hl
    · rw [hlog]
      exact .postpone h₃ hb (congrArg View.slotSize (hproto.postponed hw (hreplies hlog)))
  by_cases h₄ : ∃ slotbuf, MovesDl m op slotbuf
  · obtain ⟨slotbuf, h₄⟩ := h₄
    rw [buf_of_movesDl k h₄]
    cases h₄ with
    | ssiConfigResp hw hr hz hp hs =>
      rw [(data_ssiConfigResp k m hw hr).1]
      exact .moveDl (.ssiConfigResp hw hr hz hp hs)
  -- nothing is configured, so the descriptors are kept
  have hstep := dataStep m (k, op)
  have hslot : (op.run k m.begin).dataLog = [] →
      (op.run k m.begin).buf.slotSize = m.buf.slotSize := by
    intro hnil
    refine hproto.slotSize (hreplies hnil) ?_ h₁ h₂
    rintro cmd rfl hw
    by_cases hz : privLockedBufdescs m.buf = 0
    · exact hc ⟨hw, hz⟩
    · exact h₃ ⟨hw, hz⟩
  have hlog : (nokiamodem.next m (k, op)).2.filter Obs.dataPath = (op.run k m.begin).dataLog := rfl
  have hbuf : (nokiamodem.next m (k, op)).1.buf = (op.run k m.begin).buf := rfl
  rw [hlog, hbuf] at hstep
  generalize (op.run k m.begin).dataLog = o at hstep hslot ⊢
  generalize (op.run k m.begin).buf = b' at hstep hslot ⊢
  cases hstep with
  | keep h hn => exact .keep h (hslot rfl) ⟨hn, h₁, h₂, h₃, not_exists.mp h₄⟩
  | postpone h hb => exact absurd h h₃
  | reply h ho hb => exact absurd h hc
  | reset h => exact absurd h h₁
  | relay h hl => exact absurd h h₂
  | moveDl h => exact absurd ⟨_, h⟩ h₄

end CmtSpeech
