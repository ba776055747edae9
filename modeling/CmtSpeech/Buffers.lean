import CmtSpeech.Effects
import Mathlib.Logic.Relation

/-!
# What can happen to the buffers

The buffer state of the backend as a relation: every operation changes it by a series of
elementary changes.  Which of them an operation makes, and in which order, is hidden, so
the relation is the place to prove invariants of the buffer state alone.

* `BufStep` — the elementary changes.
* `BufRun` — a series of them.
* `Quiet` — the data path is left alone.

## Main results

* `Op.run_buf` — every operation is a series of elementary changes.
* `buf_reachable` — an invariant of the elementary changes holds in every reachable state.
-/

namespace CmtSpeech

/-! ### Elementary changes -/

/-- The descriptors laid out by the driver for the slot size in force. -/
def BufState.laidOut (b : BufState) (area : MmapArea) : BufState :=
  { b with
    ulbufdesc := fun i =>
      privInitializeBufferDescriptor (b.ulbufdesc i) (.mmap (area.txOffsets i)) b.slotSize 0 i 0
    dlbufdesc := fun i =>
      privInitializeBufferDescriptor (b.dlbufdesc i) (.mmap (area.rxOffsets i)) b.slotSize 0 i 0 }

/-- The buffer state for a slot size other than 0, before the driver is asked. -/
def BufState.resized (b : BufState) (slotSize : ℕ) : BufState :=
  { b with
    slotSize := slotSize, ulErrors := 0, rxPtrHw := -1, rxPtrAppl := -1, ulSlotApp := some 0 }

/-- An elementary change of the buffer state.  The functions of the backend are sequences of
these, so that what each of them keeps holds in every state that can be reached. -/
inductive BufStep (b : BufState) : BufState → Prop
  | reset : BufStep b privResetBufStateToDisconnected
  | configure (rate length : BitVec 8) :
    BufStep b { b with confSampleRate := rate, confDataLength := length }
  | resize (slotSize : ℕ) (h : slotSize ≠ 0) : BufStep b (b.resized slotSize)
  | layOut (area : MmapArea) (h : b.slotSize ≠ 0) : BufStep b (b.laidOut area)
  | moveDl (slotbuf : Fin dlSlots → Ptr) (h : b.slotSize ≠ 0) :
    BufStep b
      { b with
        dlbufdesc := fun i =>
          privInitializeBufferDescriptor (b.dlbufdesc i) (slotbuf i) b.slotSize
            (b.dlbufdesc i).bd.frameFlags i 0 }
  | defer (slotSize : ℕ) :
    BufStep b (privInvalidateBufferSlots
      { b with slotSize := slotSize, speechConfigRespPend := true })
  | answer : BufStep b { b with speechConfigRespPend := false }
  | invalidate : BufStep b (privInvalidateBufferSlots b)
  | acquireDl (i : Fin dlSlots) (frameFlags : ℤ) (spcFlags reserved0 : BitVec 8)
      (h : (b.dlbufdesc i).flags &&& bufInvalid = 0) :
    BufStep b
      { b with
        dlbufdesc := Function.update b.dlbufdesc i
          { bd :=
              { (b.dlbufdesc i).bd with
                frameFlags := frameFlags, spcFlags := spcFlags, reserved0 := reserved0 }
            flags := (b.dlbufdesc i).flags ||| bufLocked } }
  | acquireUl (i : Fin ulSlots) (h : (b.ulbufdesc i).flags &&& bufInvalid = 0)
      (hl : (b.ulbufdesc i).flags &&& bufLocked = 0) (hs : b.ulSlotApp = some i) :
    BufStep b
      { b with
        ulbufdesc := Function.update b.ulbufdesc i
          { bd := { (b.ulbufdesc i).bd with frameFlags := 0 }
            flags := (b.ulbufdesc i).flags ||| bufLocked }
        ulSlotApp := some (i + 1) }
  | release (slot : Slot) : BufStep b (b.mapFlags slot (· &&& ~~~bufLocked))
  | overrun (i : Fin dlSlots) : BufStep b (b.mapFlags (.dl i) (· ||| bufXrun))
  | reportOverrun (i : Fin dlSlots) : BufStep b (b.mapFlags (.dl i) (· &&& ~~~bufXrun))
  | fillUl (i : Fin ulSlots) (frameFlags : ℤ) :
    BufStep b
      { b with
        ulbufdesc := Function.update b.ulbufdesc i
          { b.ulbufdesc i with bd := { (b.ulbufdesc i).bd with frameFlags := frameFlags } } }
  | fillDl (i : Fin dlSlots) (frameFlags : ℤ) :
    BufStep b
      { b with
        dlbufdesc := Function.update b.dlbufdesc i
          { b.dlbufdesc i with bd := { (b.dlbufdesc i).bd with frameFlags := frameFlags } } }
  | receive (rxPtrHw rxPtrAppl : ℤ) :
    BufStep b { b with rxPtrHw := rxPtrHw, rxPtrAppl := rxPtrAppl }
  | countErrors (ulErrors : ℕ) : BufStep b { b with ulErrors := ulErrors }

/-- A series of elementary changes, which is what any call does to the buffers. -/
abbrev BufRun : BufState → BufState → Prop := Relation.ReflTransGen BufStep

theorem BufRun.of_eq {b b' : BufState} (h : b' = b) : BufRun b b' := h ▸ .refl

/-- What every elementary change preserves, a series of them preserves. -/
theorem BufRun.invariant {I : BufState → Prop} (hstep : ∀ b b', BufStep b b' → I b → I b')
    {b b' : BufState} (h : BufRun b b') (hb : I b) : I b' := by
  induction h with
  | refl => exact hb
  | tail _ hs ih => exact hstep _ _ hs ih

/-! ### The protocol layer leaves the data path alone -/

/-- A `SPEECH_CONFIG_RESP` is written, in full or not. -/
def Obs.isReply : Obs → Bool
  | .write msg _ => msgGetDomain msg = domainControl ∧ msgGetType msg = speechConfigResp
  | _ => false

/-- The observations that belong to the data path: the driver is asked for a layout, or a
request for one is answered. -/
def Obs.dataPath : Obs → Bool
  | .configBufs _ _ => true
  | o => o.isReply

/-- The data path part of what the operation in progress has done: the layouts the driver was
asked for, and the replies. -/
def Machine.dataLog (m : Machine) : List Obs := m.out.filter Obs.dataPath

/-- `m'` comes after `m`, with the data path left alone: neither the descriptors nor the places of
the frames have changed, and nothing of the data path has been logged. -/
structure Quiet (m m' : Machine) : Prop where
  buf : m'.buf = m.buf
  log : m'.dataLog = m.dataLog
  rxOffsets : m'.d.rxOffsets = m.d.rxOffsets

namespace Quiet

variable {m m' m'' : Machine}

theorem refl (m : Machine) : Quiet m m := ⟨rfl, rfl, rfl⟩

theorem trans (h : Quiet m m') (h' : Quiet m' m'') : Quiet m m'' :=
  ⟨h'.buf.trans h.buf, h'.log.trans h.log, h'.rxOffsets.trans h.rxOffsets⟩

theorem modBc (m : Machine) (f : BcState → BcState) : Quiet m (m.modBc f) := ⟨rfl, rfl, rfl⟩

theorem modD (m : Machine) {f : DriverState → DriverState}
    (h : (f m.d).rxOffsets = m.d.rxOffsets) : Quiet m (m.modD f) := ⟨rfl, rfl, h⟩

/-- Recording something that is not of the data path. -/
theorem of_obs {o : Obs} (ho : o.dataPath = false) (hb : m'.buf = m.buf)
    (hd : m'.d.rxOffsets = m.d.rxOffsets) (hout : m'.out = m.out ++ [o]) : Quiet m m' := by
  refine ⟨hb, ?_, hd⟩
  rw [Machine.dataLog, hout, List.filter_append, List.filter_singleton, ho]
  exact List.append_nil _

end Quiet

/-- A message other than `SPEECH_CONFIG_RESP`. -/
def NotReply (msg : Cmd) : Prop := ∀ res, (Obs.write msg res).isReply = false

theorem notReply_of_type {msg : Cmd} (h : msgGetType msg ≠ speechConfigResp) : NotReply msg := by
  intro res
  exact decide_eq_false fun hr => h hr.2

theorem notReply_of_domain {msg : Cmd} (h : msgGetDomain msg ≠ domainControl) : NotReply msg := by
  intro res
  exact decide_eq_false fun hr => h hr.1

section
variable (k : Kernel) (m : Machine)

/-- The protocol layer is quiet, apart from the reply. -/
theorem talks_quiet : Talks NotReply Quiet where
  refl := .refl
  trans := .trans
  modBc := .modBc
  wake _ _ := ⟨rfl, rfl, rfl⟩
  setWakeline _ _ _ := .of_obs rfl rfl rfl rfl
  write _ msg res hm := .of_obs (o := .write msg res) (hm res) rfl rfl rfl
  posted _ _ _ := .of_obs rfl rfl rfl rfl
  timing := notReply_of_type (by decide)
  ssi s b := notReply_of_type (by rw [ssiConfigRequest, msgGetType_ssiConfigReq]; decide)

theorem quiet_privAcquireWakeline (id : BitVec 3) : Quiet m (privAcquireWakeline k id m).2 :=
  talks_privAcquireWakeline talks_quiet k m id

theorem quiet_privReleaseWakeline (id : BitVec 3) : Quiet m (privReleaseWakeline k id m).2 :=
  talks_privReleaseWakeline talks_quiet k m id

theorem quiet_privWrite_sysWrite (msg : Cmd) :
    Quiet (sysWrite k msg m).2 (privWrite k msg m).2 := talks_privWrite_sysWrite talks_quiet k m msg

theorem quiet_privWrite {msg : Cmd} (hm : NotReply msg) : Quiet m (privWrite k msg m).2 :=
  talks_privWrite talks_quiet k m hm

theorem quiet_sendSsi (b : Bool) : Quiet m (sendSsiConfigRequest k (bcPostCommand k) b m).2 :=
  talks_sendSsi talks_quiet k m b

theorem quiet_sendTiming : Quiet m (sendTimingRequest k (bcPostCommand k) m).2 :=
  talks_sendTiming talks_quiet k m

theorem quiet_privQueueControlEvent (e : Event) : Quiet m (privQueueControlEvent e m).2 :=
  .of_obs rfl rfl rfl rfl

@[simp] theorem buf_privAcquireWakeline (id : BitVec 3) :
    (privAcquireWakeline k id m).2.buf = m.buf := (quiet_privAcquireWakeline k m id).buf

@[simp] theorem buf_privReleaseWakeline (id : BitVec 3) :
    (privReleaseWakeline k id m).2.buf = m.buf := (quiet_privReleaseWakeline k m id).buf

/-- The buffers are left alone by the reply too, and by whatever its post-processing sends. -/
theorem buf_privWrite (msg : Cmd) : (privWrite k msg m).2.buf = m.buf :=
  (quiet_privWrite_sysWrite k m msg).buf

theorem buf_sendSsi (b : Bool) : (sendSsiConfigRequest k (bcPostCommand k) b m).2.buf = m.buf :=
  (quiet_sendSsi k m b).buf

theorem buf_sendTiming : (sendTimingRequest k (bcPostCommand k) m).2.buf = m.buf :=
  (quiet_sendTiming k m).buf

theorem buf_privQueueControlEvent (e : Event) : (privQueueControlEvent e m).2.buf = m.buf := rfl

/-! ### Configuration -/

/-- Configuring the buffers for slot size 0 leaves the descriptors alone. -/
theorem privSetupDriverBufconfigV2api_buf {m : Machine} (h : m.buf.slotSize = 0) :
    (privSetupDriverBufconfigV2api k m).2.buf = m.buf := by
  have hz : ¬ m.buf.slotSize > 0 := by omega
  simp only [privSetupDriverBufconfigV2api]
  split
  · split
    · exact (congrArg (fun r : ℤ × Machine => r.2.buf) (if_neg hz)).trans rfl
    · exact (congrArg (fun r : ℤ × Machine => r.2.buf) (if_neg hz)).trans rfl
  · rfl

/-- For another slot size the descriptors are laid out, if the driver accepts. -/
theorem bufRun_privSetupDriverBufconfigV2api {m : Machine} (h : m.buf.slotSize ≠ 0) :
    BufRun m.buf (privSetupDriverBufconfigV2api k m).2.buf := by
  have hz : m.buf.slotSize > 0 := Nat.pos_of_ne_zero h
  have hlay (area : MmapArea) : BufRun m.buf (m.buf.laidOut area) := .single (.layOut area h)
  simp only [privSetupDriverBufconfigV2api]
  split
  · split
    · exact (congrArg (fun r : ℤ × Machine => r.2.buf) (if_pos hz)).symm ▸ hlay _
    · exact (congrArg (fun r : ℤ × Machine => r.2.buf) (if_pos hz)).symm ▸ hlay _
  · exact .refl

/-- Tearing the data path down resets the whole buffer state, also when the driver refuses. -/
theorem buf_tearDown :
    (privSetupDriverBufconfig k (m.modBuf fun b => { b with slotSize := 0 })).2.buf =
      privResetBufStateToDisconnected := by
  rw [privSetupDriverBufconfig, privSetupDriverBufconfigV2api_buf]
  · rfl
  · rfl

/-- Configuring the buffers for a slot size chosen just before. -/
theorem bufRun_privSetupDriverBufconfig {m : Machine} {b : BufState}
    (h : m.buf = { b with slotSize := m.buf.slotSize }) :
    BufRun b (privSetupDriverBufconfig k m).2.buf := by
  by_cases hz : m.buf.slotSize = 0
  · -- slot size 0 takes the branch that tears the path down
    have hm : m = m.modBuf fun b => { b with slotSize := 0 } := by
      rw [← hz]
      rfl
    rw [hm, buf_tearDown]
    exact .single .reset
  · have hm : (m.modBuf fun b =>
        if b.slotSize = 0 then privResetBufStateToDisconnected
        else { b with ulErrors := 0, rxPtrHw := -1, rxPtrAppl := -1, ulSlotApp := some 0 }).buf =
        b.resized m.buf.slotSize := by
      rw [Machine.modBuf_buf, if_neg hz, h]
      rfl
    refine .head (.resize m.buf.slotSize hz) ?_
    rw [privSetupDriverBufconfig, ← hm]
    exact bufRun_privSetupDriverBufconfigV2api k (by rw [hm]; exact hz)

@[simp] theorem buf_privSendReset : (privSendReset k m).2.buf = privResetBufStateToDisconnected :=
  buf_tearDown k _

@[simp] theorem buf_privInitializeAfterPeerReset :
    (privInitializeAfterPeerReset k m).buf = privResetBufStateToDisconnected :=
  buf_tearDown k m

theorem bufRun_privSetupAndSendSpeechConfigReply {m : Machine} {b : BufState}
    (h : m.buf = { b with slotSize := m.buf.slotSize }) :
    BufRun b (privSetupAndSendSpeechConfigReply k m).2.buf := by
  have hc : BufRun b (privSetupDriverBufconfig k
      (m.modBuf fun b => { b with speechConfigRespPend := false })).2.buf := by
    refine .head .answer (bufRun_privSetupDriverBufconfig k ?_)
    rw [Machine.modBuf_buf, h]
  rw [privSetupAndSendSpeechConfigReply]
  split
  · rw [buf_privSendReset]
    exact .single .reset
  · rw [buf_privWrite]
    exact hc

theorem bufRun_privDrvbufLayoutChangeBufferReleased (slot : Slot) :
    BufRun m.buf (privDrvbufLayoutChangeBufferReleased k slot m).buf := by
  have h : BufRun m.buf (privSetupAndSendSpeechConfigReply k
      (m.modBuf fun b => b.mapFlags slot (· &&& ~~~bufLocked))).2.buf :=
    .head (.release slot) (bufRun_privSetupAndSendSpeechConfigReply k rfl)
  rw [privDrvbufLayoutChangeBufferReleased]
  split
  · dsimp only
    split
    · exact h.tail .invalidate
    · exact h
  · exact .single (.release slot)

theorem bufRun_privHandleSpeechConfig (req : SpeechConfigReq) :
    BufRun m.buf (privHandleSpeechConfig k req m).buf := by
  have hconf : BufStep m.buf _ := .configure
    (if req.speechDataStream ≠ 0 then req.sampleRate else m.buf.confSampleRate)
    (if req.speechDataStream ≠ 0 then dataLength20ms else m.buf.confDataLength)
  rw [privHandleSpeechConfig]
  generalize hm : m.modBuf _ = m₁
  split
  · refine .head hconf (bufRun_privSetupAndSendSpeechConfigReply k ?_)
    rw [← hm]
    rfl
  · rw [← hm]
    exact .head hconf (.single (.defer (speechConfigSlotSize req)))

theorem bufRun_privInitBufconfigForTestRampPing (ramplen : BitVec 8) :
    BufRun m.buf (privInitBufconfigForTestRampPing k ramplen m).2.buf := by
  rw [privInitBufconfigForTestRampPing]
  split
  · exact bufRun_privSetupDriverBufconfig k rfl
  · exact .refl

/-! ### Inbound words -/

/-- The common code touches the buffers only when it asks for a reset. -/
theorem bufRun_bcHandleCommand (cmd : Cmd) :
    BufRun m.buf (bcHandleCommand k cmd m).2.2.buf := by
  apply bcHandleCommand_rule (P := fun m' => BufRun m.buf m'.buf) k
  · intro f
    exact .refl
  · intro b f g
    exact .of_eq (buf_sendSsi k (m.modBc f) b)
  · intro _ _ f
    rw [stateChangeError, buf_privSendReset]
    exact .single .reset

theorem bufRun_privHandleSsiConfigResp : BufRun m.buf (privHandleSsiConfigResp k m).buf := by
  unfold privHandleSsiConfigResp
  split
  · exact .of_eq (buf_privReleaseWakeline k m _)
  · split
    · next h => exact .single (.moveDl _ (by omega))
    · exact .refl

/-- A `TEST_RAMP_PING` is quiet before and after it asks for its layout. -/
theorem ramp_privHandleTestRampPing (cmd : Cmd) : ∃ m₁, Quiet m m₁ ∧
    m₁.tick = (privAcquireWakeline k wakelineTestRampPing m).2.tick ∧
      Quiet (privInitBufconfigForTestRampPing k (msgDecodeTestRampPing cmd).ramplen m₁).2
        (privHandleTestRampPing k cmd m).2 :=
  talks_privHandleTestRampPing talks_quiet k m (fun _ _ hd => .modD _ hd.same.rxOffsets)
    (notReply_of_domain (by decide)) cmd

/-- Of a `TEST_RAMP_PING` only the layout matters to the data path. -/
theorem data_privHandleTestRampPing (cmd : Cmd) : ∃ m₁, Quiet m m₁ ∧
    Quiet (privInitBufconfigForTestRampPing k (msgDecodeTestRampPing cmd).ramplen m₁).2
      (privHandleTestRampPing k cmd m).2 := by
  obtain ⟨m₁, h₁, -, h⟩ := ramp_privHandleTestRampPing k m cmd
  exact ⟨m₁, h₁, h⟩

theorem bufRun_privHandleTestRampPing (cmd : Cmd) :
    BufRun m.buf (privHandleTestRampPing k cmd m).2.buf := by
  obtain ⟨m₁, h₁, hp⟩ := data_privHandleTestRampPing k m cmd
  rw [hp.buf, ← h₁.buf]
  exact bufRun_privInitBufconfigForTestRampPing k m₁ _

theorem bufRun_handleCommandBackend (cmd : Cmd) (event : Event) :
    BufRun m.buf (handleCommandBackend k cmd event m).2.buf := by
  unfold handleCommandBackend
  dsimp only
  repeat' split
  · rw [privHandleResetConnReq, buf_privInitializeAfterPeerReset]
    exact .single .reset
  · exact .of_eq (buf_privReleaseWakeline k m _)
  · exact bufRun_privHandleSsiConfigResp k m
  · exact bufRun_privHandleSpeechConfig k m _
  · exact .refl
  · exact bufRun_privHandleTestRampPing k m cmd
  · exact .refl

theorem bufRun_markXrun (c : Machine → Bool) (slot : Fin dlSlots) (r : BitVec 4 × Machine) :
    BufRun r.2.buf (markXrun c slot r).2.buf := by
  unfold markXrun
  split
  · exact .single (.overrun slot)
  · exact .refl

theorem bufRun_handleInboundRxDataReceived (cmd : Cmd) :
    BufRun m.buf (handleInboundRxDataReceived cmd m).2.buf := by
  unfold handleInboundRxDataReceived
  dsimp only
  refine .tail ?_ (.countErrors 0)
  refine .trans ?_ (bufRun_markXrun _ _ _)
  refine .trans ?_ (bufRun_markXrun _ _ _)
  refine .trans ?_ (bufRun_markXrun _ _ _)
  exact .single (.receive _ _)

theorem bufRun_handleInboundControlMessage (cmd : Cmd) :
    BufRun m.buf (handleInboundControlMessage k cmd m).2.2.buf := by
  have h := bufRun_bcHandleCommand k m cmd
  have hc := h.trans (bufRun_handleCommandBackend k (bcHandleCommand k cmd m).2.2 cmd
    (bcHandleCommand k cmd m).2.1)
  unfold handleInboundControlMessage
  dsimp only
  split
  · split
    · exact h
    · split
      · rw [buf_privQueueControlEvent]
        exact hc
      · exact hc
  · split
    · split
      · exact bufRun_handleInboundRxDataReceived m cmd
      · split
        · rw [handleCsError, buf_privQueueControlEvent, buf_privInitializeAfterPeerReset]
          exact .single .reset
        · exact .refl
    · exact .refl

theorem bufRun_checkPending (flags : Bool) (word : Option Cmd) :
    BufRun m.buf (checkPending k flags word m).2.2.buf := by
  cases flags with
  | false => exact .refl
  | true =>
    cases word with
    | none => exact .refl
    | some cmd => exact bufRun_handleInboundControlMessage k (m.emit (.recv cmd)) cmd

/-! ### Calls of the application -/

theorem bufRun_bcStateChangeCallStatus (b : Bool) :
    BufRun m.buf (bcStateChangeCallStatus k b m).2.buf := by
  unfold bcStateChangeCallStatus
  dsimp only
  rw [Machine.modBc_buf, ← Machine.emit_buf m (.callStatus b)]
  generalize m.emit (.callStatus b) = m₁
  split
  · apply bcCallTerminated_rule (P := fun m' => BufRun m₁.buf m'.buf) k
    · intro f
      exact .refl
    · exact .of_eq (buf_sendSsi k m₁ false)
  · apply bcCallStarted_rule (P := fun m' => BufRun m₁.buf m'.buf) k
    · intro f
      exact .refl
    · intro f
      exact .of_eq (buf_sendSsi k _ true)
    · intro _ f
      rw [Machine.modBc_buf, stateChangeError, buf_privSendReset]
      exact .single .reset

theorem bufRun_testDataRampReq (rampstart ramplen : BitVec 8) :
    BufRun m.buf (testDataRampReq k rampstart ramplen m).2.buf := by
  have hc := bufRun_privInitBufconfigForTestRampPing k m ramplen
  unfold testDataRampReq
  dsimp only
  split
  · exact hc
  · split
    · exact (buf_privAcquireWakeline k _ _).symm ▸ hc
    · unfold bcTestDataRampReq
      dsimp only
      have hw (msg : Cmd) : BufRun m.buf (privWrite k msg
          (privAcquireWakeline k wakelineTestRampPing
            (privInitBufconfigForTestRampPing k ramplen m).2).2).2.buf := by
        rw [buf_privWrite, buf_privAcquireWakeline]
        exact hc
      split
      · exact (buf_privAcquireWakeline k _ _).symm ▸ hc
      · split <;> exact hw _

theorem buf_copyDlFrame (slot : Fin dlSlots) (bd : Buffer dlSlots) :
    (copyDlFrame slot bd m).buf = m.buf := by
  obtain ⟨d, -, heq⟩ := copyDlFrame_eq slot bd m
  rw [heq, Machine.modD_buf]

theorem bufRun_dlBufferAcquire_acquire (b : Bool) (slot : Fin dlSlots) :
    BufRun m.buf (dlBufferAcquire.acquire b m slot).2.buf := by
  have hptr : BufStep m.buf (privBumpRxPtrAppl m).buf := .receive _ _
  refine .head hptr ?_
  unfold dlBufferAcquire.acquire
  dsimp only
  split
  · exact .refl
  · next hv =>
    split
    · exact .refl
    · have hacq := BufStep.acquireDl (b := (privBumpRxPtrAppl m).buf) slot
      split <;> exact (buf_copyDlFrame _ _ _).symm ▸ .single (hacq _ _ _ (not_not.mp hv))

theorem bufRun_dlBufferAcquire (b : Bool) : BufRun m.buf (dlBufferAcquire b m).2.buf := by
  unfold dlBufferAcquire
  split
  · exact .refl
  · split
    · split
      · have hptr : BufStep m.buf (m.modBuf fun b => { b with rxPtrAppl := b.rxPtrHw }).buf :=
          .receive _ _
        exact .head hptr (bufRun_dlBufferAcquire_acquire _ b _)
      · exact .refl
    · exact bufRun_dlBufferAcquire_acquire m b _

theorem bufRun_dlBufferRelease (i : Fin dlSlots) :
    BufRun m.buf (dlBufferRelease k i m).2.buf := by
  unfold dlBufferRelease
  dsimp only
  split
  · exact .refl
  · split
    · exact bufRun_privDrvbufLayoutChangeBufferReleased k m _
    · have hrel : BufStep m.buf (m.modBuf fun b =>
          b.mapFlags (.dl (m.buf.dlbufdesc i).bd.index) (· &&& ~~~bufLocked)).buf :=
        .release (.dl (m.buf.dlbufdesc i).bd.index)
      split
      · exact .tail (.single hrel) (.reportOverrun _)
      · exact .single hrel

theorem bufRun_ulBufferAcquire (b : Bool) : BufRun m.buf (ulBufferAcquire b m).2.buf := by
  unfold ulBufferAcquire
  split
  · exact .refl
  · split
    · exact .refl
    · next slot hs =>
      dsimp only
      split
      · exact .refl
      · next hv =>
        split
        · exact .refl
        · next hl =>
          split
          · exact .refl
          · exact .single (.acquireUl slot (not_not.mp hv) (not_not.mp hl) hs)

theorem bufRun_ulBufferSend (i : Fin ulSlots) : BufRun m.buf (ulBufferSend k i m).2.buf := by
  unfold ulBufferSend
  dsimp only
  generalize hm : m.modD _ = m₁
  have hb : m₁.buf = m.buf := by rw [← hm, Machine.modD_buf]
  rw [← hb]
  split
  · exact .refl
  · split
    · exact .single (.countErrors _)
    · exact .single (.countErrors _)

theorem bufRun_ulBufferSubmit (i : Fin ulSlots) :
    BufRun m.buf (ulBufferSubmit k i m).2.buf := by
  unfold ulBufferSubmit
  split
  · split <;> exact .refl
  · split
    · exact bufRun_ulBufferSend k m i
    · exact .refl

theorem bufRun_ulBufferRelease (buf : Option (Fin ulSlots)) :
    BufRun m.buf (ulBufferRelease k buf m).2.buf := by
  cases buf with
  | none => exact .refl
  | some i =>
    unfold ulBufferRelease
    dsimp only
    split
    · exact bufRun_privDrvbufLayoutChangeBufferReleased k m _
    · -- the lock is dropped whatever became of the frame
      exact (bufRun_ulBufferSubmit k m i).tail (.release (.ul (m.buf.ulbufdesc i).bd.index))

/-! ### Operations -/

/-- Every operation changes the buffers by elementary changes. -/
theorem Op.run_buf (op : Op) : BufRun m.buf (op.run k m).buf := by
  cases op with
  | checkPending flags word => exact bufRun_checkPending k m flags word
  | readEvent =>
    refine .of_eq ?_
    rw [Op.run, CmtSpeech.readEvent, privDequeueControlEvent]
    split <;> rfl
  | setWbPreference b =>
    refine .of_eq ?_
    rw [Op.run, CmtSpeech.setWbPreference]
    split <;> rfl
  | stateChangeCallStatus b => exact bufRun_bcStateChangeCallStatus k m b
  | stateChangeCallConnect b => exact .refl
  | stateChangeError =>
    rw [Op.run, CmtSpeech.stateChangeError, buf_privSendReset]
    exact .single .reset
  | sendTimingRequest => exact .of_eq (buf_sendTiming k m)
  | sendSsiConfigRequest b => exact .of_eq (buf_sendSsi k m b)
  | testDataRampReq rampstart ramplen => exact bufRun_testDataRampReq k m rampstart ramplen
  | dlBufferAcquire b => exact bufRun_dlBufferAcquire m b
  | dlBufferRelease i => exact bufRun_dlBufferRelease k m i
  | ulBufferAcquire b => exact bufRun_ulBufferAcquire m b
  | ulBufferRelease buf => exact bufRun_ulBufferRelease k m buf
  | fillBuffer slot frameFlags payload =>
    cases slot with
    | ul i => exact .single (.fillUl i frameFlags)
    | dl i => exact .single (.fillDl i frameFlags)
  | driver area => exact .refl

end

/-- What the elementary changes preserve, every step preserves. -/
theorem next_buf_invariant {I : BufState → Prop} (hstep : ∀ b b', BufStep b b' → I b → I b')
    (m : Machine) (i : Step) (h : I m.buf) : I (nokiamodem.next m i).1.buf :=
  (Op.run_buf i.1 m.begin i.2).invariant hstep h

/-- What a new instance satisfies and the elementary changes preserve holds of the buffers
in every reachable state. -/
theorem buf_reachable {I : BufState → Prop} (hinit : I privResetBufStateToDisconnected)
    (hstep : ∀ b b', BufStep b b' → I b → I b') {m : Machine} (h : nokiamodem.Reachable m) :
    I m.buf := by
  refine nokiamodem.reachable_invariant (I := fun m => I m.buf) ?_ ?_ h
  · rintro _ ⟨area, old, rfl⟩
    exact hinit
  · intro m i hm
    exact next_buf_invariant hstep m i hm

end CmtSpeech
