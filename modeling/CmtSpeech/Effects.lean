import CmtSpeech.System

/-!
# Rules for what the functions of the backend do

The functions of the backend change an instance in a few elementary ways.  A relation
between instances that can be chained and allows these allows every function built from
them, so a fact of the form "this is left alone" needs only the elementary changes.

* `Talks W R` — `R` allows what the protocol layer does: its own state, the users of the
  wakeline, and messages of `W` to the modem.
* `Apart R` — `R` allows everything but reading a word, queueing and reading events, sending
  frames and counting what became of them.
* `Aside R` — `R` allows the counting as well.

## Main results

* `talks_bcPostCommand`, `talks_privWrite` — sending a message.
* `apart_handleCommandBackend` — handling a message.
* `Apart.run`, `Aside.run` — an operation.
-/

namespace CmtSpeech

/-! ### The protocol layer -/

/-- `R` can be chained, and allows the changes of the protocol layer with messages of `W`.  Such a
relation holds between the states before and after each function of the common code, so that what
the code leaves alone is proved for all of it at once. -/
structure Talks (W : Cmd → Prop) (R : Machine → Machine → Prop) : Prop where
  refl : ∀ m, R m m
  trans : ∀ {m m' m''}, R m m' → R m' m'' → R m m''
  modBc : ∀ (m : Machine) f, R m (m.modBc f)
  wake : ∀ (m : Machine) (f : BitVec 3 → BitVec 3),
    R m (m.modD fun d => { d with wakelineUsers := f d.wakelineUsers })
  setWakeline : ∀ (m : Machine) status res, R m (m.syscall (.setWakeline status res))
  write : ∀ (m : Machine) msg res, W msg → R m (m.syscall (.write msg res))
  posted : ∀ (m : Machine) msg s, R m (m.emit (.posted msg s))
  timing : W msgEncodeNewTimingConfigReq
  ssi : ∀ s b, W (ssiConfigRequest s b)

section
variable {W : Cmd → Prop} {R : Machine → Machine → Prop} (h : Talks W R) (k : Kernel)
  (m : Machine)
include h

theorem talks_privAcquireWakeline (id : BitVec 3) : R m (privAcquireWakeline k id m).2 := by
  unfold privAcquireWakeline
  refine h.trans ?_ (h.wake _ (· ||| id))
  split
  · exact h.setWakeline m true _
  · exact h.refl m

theorem talks_privReleaseWakeline (id : BitVec 3) : R m (privReleaseWakeline k id m).2 := by
  have hw := h.wake m (· &&& ~~~id)
  simp only [privReleaseWakeline]
  split
  · split
    · exact h.trans hw (h.setWakeline _ false _)
    · exact hw
  · exact h.refl m

theorem talks_privResetWakelineState : R m (privResetWakelineState k m) :=
  h.trans (h.setWakeline m false _) (h.wake _ fun _ => 0)

theorem talks_sysWrite {msg : Cmd} (hm : W msg) : R m (sysWrite k msg m).2 :=
  h.write m msg _ hm

/-- After the write itself, a message is what its post-processing does. -/
theorem talks_bcWriteCommand_sysWrite {post : Post} (hp : ∀ cmd m, R m (post cmd m))
    (msg : Cmd) : R (sysWrite k msg m).2 (bcWriteCommand k post msg m).2 := by
  have hend (m' : Machine) (s : BcState) :
      R m' ((m'.modBc BcState.written).emit (.posted msg s)) :=
    h.trans (h.modBc m' _) (h.posted _ msg s)
  unfold bcWriteCommand
  dsimp only
  split
  · split
    · exact h.trans (hp msg _) (hend _ _)
    · exact hend _ _
  · exact h.modBc _ _

theorem talks_bcWriteCommand {post : Post} (hp : ∀ cmd m, R m (post cmd m)) {msg : Cmd}
    (hm : W msg) : R m (bcWriteCommand k post msg m).2 :=
  h.trans (talks_sysWrite h k m hm) (talks_bcWriteCommand_sysWrite h k m hp msg)

theorem talks_sendTimingRequest {post : Post} (hp : ∀ cmd m, R m (post cmd m)) :
    R m (sendTimingRequest k post m).2 := by
  have hw := talks_bcWriteCommand h k m hp h.timing
  rw [sendTimingRequest, bcSendTimingRequest]
  split
  · exact hw
  · dsimp only
    exact h.trans hw (h.modBc _ _)

theorem talks_sendSsiConfigRequest {post : Post} (hp : ∀ cmd m, R m (post cmd m)) (b : Bool) :
    R m (sendSsiConfigRequest k post b m).2 := by
  have ha : R m (if b then (privAcquireWakeline k wakelineCall m).2 else m) := by
    split
    · exact talks_privAcquireWakeline h k m _
    · exact h.refl m
  unfold sendSsiConfigRequest
  refine h.trans ha ?_
  generalize (if b then (privAcquireWakeline k wakelineCall m).2 else m) = m₁
  unfold bcSendSsiConfigRequest
  split
  · exact h.refl m₁
  · generalize hm : m₁.modBc _ = m₂
    have hw : R m₁ (bcWriteCommand k post (ssiConfigRequest m₂.bcstate b) m₂).2 :=
      h.trans (hm ▸ h.modBc m₁ _) (talks_bcWriteCommand h k m₂ hp (h.ssi _ b))
    dsimp only
    split
    · dsimp only
      exact h.trans hw (h.modBc _ _)
    · exact hw

theorem talks_postCommandBody {post : Post} (hp : ∀ cmd m, R m (post cmd m)) (cmd : Cmd) :
    R m (postCommandBody k post cmd m) := by
  apply postCommandBody_rule (P := R m) k
  · exact h.modBc m
  · intro f
    exact h.trans (h.modBc m f) (talks_sendTimingRequest h k _ hp)
  · intro f
    exact h.trans (h.modBc m f) (talks_sendSsiConfigRequest h k _ hp false)

theorem talks_bcPostCommand (cmd : Cmd) : R m (bcPostCommand k cmd m) :=
  talks_postCommandBody h k m (fun _ m => talks_postCommandBody h k m (fun _ m => h.refl m) _) cmd

/-- Any message, from its write on: what follows the write are changes of the common state, and
nested sends. -/
theorem talks_privWrite_sysWrite (msg : Cmd) :
    R (sysWrite k msg m).2 (privWrite k msg m).2 :=
  talks_bcWriteCommand_sysWrite h k m (fun _ m => talks_bcPostCommand h k m _) msg

theorem talks_privWrite {msg : Cmd} (hm : W msg) : R m (privWrite k msg m).2 :=
  h.trans (talks_sysWrite h k m hm) (talks_privWrite_sysWrite h k m msg)

theorem talks_sendSsi (b : Bool) : R m (sendSsiConfigRequest k (bcPostCommand k) b m).2 :=
  talks_sendSsiConfigRequest h k m (fun _ m => talks_bcPostCommand h k m _) b

theorem talks_sendTiming : R m (sendTimingRequest k (bcPostCommand k) m).2 :=
  talks_sendTimingRequest h k m fun _ m => talks_bcPostCommand h k m _

/-- A `TEST_RAMP_PING`, before and after it asks for its layout. -/
theorem talks_privHandleTestRampPing (ho : ∀ (m : Machine) d, OnlyOctets m.d d →
      R m (m.modD fun _ => d))
    (hw : W (privMsgEncodeDriverMessage csTxDataReady 0)) (cmd : Cmd) :
    ∃ m₁, R m m₁ ∧ m₁.tick = (privAcquireWakeline k wakelineTestRampPing m).2.tick ∧
      R (privInitBufconfigForTestRampPing k (msgDecodeTestRampPing cmd).ramplen m₁).2
        (privHandleTestRampPing k cmd m).2 := by
  unfold privHandleTestRampPing
  dsimp only
  generalize hm : ((privAcquireWakeline k wakelineTestRampPing m).2.modD _) = m₁
  refine ⟨m₁, ?_, by rw [← hm, Machine.modD_tick], ?_⟩
  · rw [← hm]
    exact h.trans (talks_privAcquireWakeline h k m _) (ho _ _ (onlyOctets_store4 _ _ _))
  generalize privInitBufconfigForTestRampPing k (msgDecodeTestRampPing cmd).ramplen m₁ = c
  split
  · exact h.refl _
  · generalize hm₂ : c.2.modD _ = m₂
    have h₂ : R c.2 m₂ := hm₂ ▸ ho _ _ (onlyOctets_generateRamp _ _ _ _)
    have hend := h.trans h₂ (talks_privWrite h k m₂ hw)
    split <;> exact hend

/-- A test ramp of the application, after it has asked for its layout. -/
theorem talks_testDataRampReq {rampstart ramplen : BitVec 8}
    (hw : W (msgEncodeTestRampPing
      ⟨BitVec.ofNat 8 domainControl, BitVec.ofNat 8 domainData, rampstart, ramplen⟩)) :
    R (privInitBufconfigForTestRampPing k ramplen m).2
      (testDataRampReq k rampstart ramplen m).2 := by
  unfold testDataRampReq
  dsimp only
  have ha := talks_privAcquireWakeline h k (privInitBufconfigForTestRampPing k ramplen m).2
    wakelineTestRampPing
  split
  · exact h.refl _
  · split
    · exact ha
    · unfold bcTestDataRampReq
      split
      · exact ha
      · have hend := h.trans ha (talks_privWrite h k _ hw)
        dsimp only
        split
        · exact hend
        · dsimp only
          exact h.trans hend (h.modBc _ _)

end

/-! ### The rest of the backend -/

/-- The driver announces a downlink frame: `CS_RX_DATA_RECEIVED` in the domain of the driver. -/
def RxDataWord (cmd : Cmd) : Prop :=
  msgGetDomain cmd = domainInternal ∧ msgGetType cmd = csRxDataReceived

instance (cmd : Cmd) : Decidable (RxDataWord cmd) := inferInstanceAs (Decidable (_ ∧ _))

/-- `R` can be chained, and allows every elementary change but those of the event queue and
of the driver, the words read, and what counts the frames the application sends; asking the
driver for a layout is one change. -/
structure Apart (R : Machine → Machine → Prop) : Prop extends Talks (fun _ => True) R where
  callStatus : ∀ (m : Machine) b, R m (m.emit (.callStatus b))
  modBuf : ∀ (m : Machine) f, (f m.buf).ulErrors = m.buf.ulErrors → R m (m.modBuf f)
  octets : ∀ (m : Machine) d, OnlyOctets m.d d → R m (m.modD fun _ => d)
  setup : ∀ k m, R m (privSetupDriverBufconfig k m).2

/-- `R` can be chained, and allows every elementary change but those of the event queue and
of the driver, the words read, and the frames the application sends. -/
structure Aside (R : Machine → Machine → Prop) : Prop extends Talks (fun _ => True) R where
  callStatus : ∀ (m : Machine) b, R m (m.emit (.callStatus b))
  modBuf : ∀ (m : Machine) f, R m (m.modBuf f)
  octets : ∀ (m : Machine) d, OnlyOctets m.d d → R m (m.modD fun _ => d)
  version : ∀ m : Machine, R m { m with tick := m.tick + 1 }
  configBufs : ∀ (m : Machine) n res area,
    R m ((m.syscall (.configBufs n res)).modD fun d => { d with buf := area })
  features : ∀ (m : Machine) rolling offset,
    R m (m.modD fun d => { d with rollingRxPtr := rolling, tstampRxCtrlOffset := offset })
  count : ∀ (m : Machine) n, R m { m with ulCounter := n }

section
variable {R : Machine → Machine → Prop} (h : Aside R) (k : Kernel) (m : Machine)
include h

theorem aside_privSetupDriverBufconfig : R m (privSetupDriverBufconfig k m).2 := by
  unfold privSetupDriverBufconfig
  generalize hm : m.modBuf _ = m₁
  refine h.trans (hm ▸ h.modBuf m _) ?_
  have hc : R m₁ (ioctlConfigBufs k m₁.buf.slotSize (ioctlGetIfVersion k m₁).2).2 :=
    h.trans (h.version m₁) (h.configBufs _ _ _ _)
  have hlay (m' : Machine) (offset : ℕ) : R m' ((privInitializeTxBufferDescriptorsMmap 0
      (privInitializeRxBufferDescriptorsMmap 0 m')).modD fun d =>
        { d with tstampRxCtrlOffset := offset }) :=
    h.trans (h.trans (h.modBuf m' _) (h.modBuf _ _)) (h.features _ _ _)
  -- From version 1 on the interface has positions that run on; it is asked before the buffers.
  have hroll : R m₁ (if (ioctlGetIfVersion k m₁).1 > 0 then
      (ioctlConfigBufs k m₁.buf.slotSize (ioctlGetIfVersion k m₁).2).2.modD fun d =>
        { d with rollingRxPtr := true }
      else (ioctlConfigBufs k m₁.buf.slotSize (ioctlGetIfVersion k m₁).2).2) := by
    split
    · exact h.trans hc (h.features _ true _)
    · exact hc
  unfold privSetupDriverBufconfigV2api
  dsimp only
  split
  · generalize (if (ioctlGetIfVersion k m₁).1 > 0 then _ else _) = m₂ at hroll ⊢
    split
    · dsimp only
      exact h.trans hroll (hlay m₂ _)
    · exact hroll
  · exact hc

/-- What allows the parts of a new layout allows the whole. -/
theorem Aside.apart : Apart R where
  toTalks := h.toTalks
  callStatus := h.callStatus
  modBuf m f _ := h.modBuf m f
  octets := h.octets
  setup := aside_privSetupDriverBufconfig h

end

section
variable {R : Machine → Machine → Prop} (h : Apart R) (k : Kernel) (m : Machine)
include h

theorem apart_privWrite (msg : Cmd) : R m (privWrite k msg m).2 :=
  talks_privWrite h.toTalks k m trivial

theorem apart_privSendReset : R m (privSendReset k m).2 := by
  have hdown (m' : Machine) (hm : R m m') :
      R m (privSetupDriverBufconfig k (m'.modBuf fun b => { b with slotSize := 0 })).2 :=
    h.trans (h.trans hm (h.modBuf m' _ rfl)) (h.setup k _)
  have ha := talks_privAcquireWakeline h.toTalks k m wakelineReset
  have hw := h.trans ha (apart_privWrite h k _ msgEncodeResetConnReq)
  unfold privSendReset
  dsimp only
  split
  · split
    · exact hdown _ (h.trans hw (talks_privReleaseWakeline h.toTalks k _ _))
    · exact hdown _ hw
  · exact hdown _ ha

/-! ### Reconfiguration and resets -/

theorem apart_privSetupAndSendSpeechConfigReply :
    R m (privSetupAndSendSpeechConfigReply k m).2 := by
  have hc := h.trans (h.modBuf m (fun b => { b with speechConfigRespPend := false }) rfl)
    (h.setup k _)
  have hw (msg : Cmd) := h.trans hc (apart_privWrite h k _ msg)
  rw [privSetupAndSendSpeechConfigReply]
  split
  · exact h.trans (h.trans (hw _) (h.modBuf _ _ rfl)) (apart_privSendReset h k _)
  · exact hw _

theorem apart_privDrvbufLayoutChangeBufferReleased (slot : Slot) :
    R m (privDrvbufLayoutChangeBufferReleased k slot m) := by
  have hf := h.modBuf m (fun b => b.mapFlags slot (· &&& ~~~bufLocked))
    (BufState.mapFlags_ulErrors m.buf slot _)
  have hr := h.trans hf (apart_privSetupAndSendSpeechConfigReply h k _)
  unfold privDrvbufLayoutChangeBufferReleased
  dsimp only
  split
  · split
    · exact h.trans hr (h.modBuf _ _ rfl)
    · exact hr
  · exact hf

theorem apart_privHandleSpeechConfig (req : SpeechConfigReq) :
    R m (privHandleSpeechConfig k req m) := by
  rw [privHandleSpeechConfig]
  generalize hm : m.modBuf _ = m₁
  have hb : R m m₁ := hm ▸ h.modBuf m _ rfl
  split
  · exact h.trans hb (apart_privSetupAndSendSpeechConfigReply h k m₁)
  · exact h.trans hb (h.modBuf _ _ rfl)

theorem apart_privInitializeAfterPeerReset : R m (privInitializeAfterPeerReset k m) := by
  have hdown := h.trans (h.modBuf m (fun b => { b with slotSize := 0 }) rfl)
    (h.setup k _)
  exact h.trans (h.trans hdown (h.modBc _ _)) (talks_privResetWakelineState h.toTalks k _)

theorem apart_privInitBufconfigForTestRampPing (ramplen : BitVec 8) :
    R m (privInitBufconfigForTestRampPing k ramplen m).2 := by
  rw [privInitBufconfigForTestRampPing]
  split
  · exact h.trans (h.modBuf m _ rfl) (h.setup k _)
  · exact h.refl m

theorem apart_privHandleTestRampPing (cmd : Cmd) : R m (privHandleTestRampPing k cmd m).2 := by
  unfold privHandleTestRampPing
  dsimp only
  generalize hm : (privAcquireWakeline k wakelineTestRampPing m).2.modD _ = m₁
  have h₁ : R m m₁ := by
    rw [← hm]
    exact h.trans (talks_privAcquireWakeline h.toTalks k m _)
      (h.octets _ _ (onlyOctets_store4 _ _ _))
  have hc := h.trans h₁ (apart_privInitBufconfigForTestRampPing h k m₁
    (msgDecodeTestRampPing cmd).ramplen)
  split
  · exact hc
  · generalize hr : Machine.modD _ _ = m₂
    have h₂ : R m m₂ := hr ▸ h.trans hc (h.octets _ _ (onlyOctets_generateRamp _ _ _ _))
    have hw := h.trans h₂ (apart_privWrite h k m₂ (privMsgEncodeDriverMessage csTxDataReady 0))
    split <;> exact hw

/-! ### Inbound words -/

theorem apart_bcHandleCommand (cmd : Cmd) : R m (bcHandleCommand k cmd m).2.2 := by
  apply bcHandleCommand_rule (P := R m) k
  · exact h.modBc m
  · intro b f g
    exact h.trans (h.trans (h.modBc m f) (talks_sendSsi h.toTalks k _ b)) (h.modBc _ g)
  · intro _ _ f
    exact h.trans (h.modBc m f) (apart_privSendReset h k _)

theorem apart_handleCommandBackend (cmd : Cmd) (event : Event) :
    R m (handleCommandBackend k cmd event m).2 := by
  unfold handleCommandBackend
  dsimp only
  repeat' split
  · exact h.trans (apart_privWrite h k m _) (apart_privInitializeAfterPeerReset h k _)
  · exact talks_privReleaseWakeline h.toTalks k m _
  · unfold privHandleSsiConfigResp
    split
    · exact talks_privReleaseWakeline h.toTalks k m _
    · split
      · dsimp only
        exact h.modBuf m _ rfl
      · exact h.refl m
  · exact apart_privHandleSpeechConfig h k m _
  · exact h.refl m
  · exact apart_privHandleTestRampPing h k m cmd
  · exact h.refl m

/-- A word queues an event last, after all that the handlers do for it. -/
theorem apart_handleInboundControlMessage (hq : ∀ m e, R m (privQueueControlEvent e m).2)
    (cmd : Cmd) (hx : RxDataWord cmd → ∀ m, R m (handleInboundRxDataReceived cmd m).2) :
    R m (handleInboundControlMessage k cmd m).2.2 := by
  have hcom := apart_bcHandleCommand h k m cmd
  have hback := h.trans hcom (apart_handleCommandBackend h k _ cmd (bcHandleCommand k cmd m).2.1)
  unfold handleInboundControlMessage
  dsimp only
  split
  · split
    · exact hcom
    · split
      · exact h.trans hback (hq _ _)
      · exact hback
  · split
    · next hd =>
      split
      · next ht => exact hx ⟨hd, ht⟩ m
      · split
        · exact h.trans (apart_privInitializeAfterPeerReset h k m) (hq _ _)
        · exact h.refl m
    · exact h.refl m

/-! ### Calls of the application -/

theorem apart_bcStateChangeCallStatus (b : Bool) :
    R m (bcStateChangeCallStatus k b m).2 := by
  unfold bcStateChangeCallStatus
  dsimp only
  refine h.trans (h.trans (h.callStatus m b) ?_) (h.modBc _ _)
  generalize m.emit (.callStatus b) = m₁
  split
  · apply bcCallTerminated_rule (P := R m₁) k
    · exact h.modBc m₁
    · exact talks_sendSsi h.toTalks k m₁ false
  · apply bcCallStarted_rule (P := R m₁) k
    · exact h.modBc m₁
    · intro f
      exact h.trans (h.modBc m₁ f) (talks_sendSsi h.toTalks k _ true)
    · intro _ f
      exact h.trans (apart_privSendReset h k m₁) (h.modBc _ f)

theorem apart_testDataRampReq (rampstart ramplen : BitVec 8) :
    R m (testDataRampReq k rampstart ramplen m).2 := by
  have hc := apart_privInitBufconfigForTestRampPing h k m ramplen
  have ha := h.trans hc (talks_privAcquireWakeline h.toTalks k _ wakelineTestRampPing)
  unfold testDataRampReq
  dsimp only
  split
  · exact hc
  · split
    · exact ha
    · unfold bcTestDataRampReq
      have hw (msg : Cmd) := h.trans ha (apart_privWrite h k _ msg)
      dsimp only
      split
      · exact ha
      · split
        · exact hw _
        · dsimp only
          exact h.trans (hw _) (h.modBc _ _)

theorem apart_dlBufferAcquire_acquire (b : Bool) (slot : Fin dlSlots) :
    R m (dlBufferAcquire.acquire b m slot).2 := by
  have hbump : R m (privBumpRxPtrAppl m) := h.modBuf m _ rfl
  unfold dlBufferAcquire.acquire
  dsimp only
  split
  · exact hbump
  · split
    · exact hbump
    · generalize hm : Machine.modBuf (privBumpRxPtrAppl m) _ = m₁
      have hgive (bd : Buffer dlSlots) : R m (copyDlFrame slot bd m₁) := by
        obtain ⟨d, hd, heq⟩ := copyDlFrame_octets slot bd m₁
        exact h.trans (h.trans hbump (hm ▸ h.modBuf _ _ rfl)) (heq ▸ h.octets m₁ d hd)
      dsimp only
      split
      · exact h.trans (hgive _) (h.modBc _ _)
      · exact hgive _

theorem apart_dlBufferAcquire (b : Bool) : R m (dlBufferAcquire b m).2 := by
  unfold dlBufferAcquire
  split
  · exact h.refl m
  · split
    · split
      · exact h.trans (h.modBuf m _ rfl) (apart_dlBufferAcquire_acquire h _ b _)
      · exact h.refl m
    · exact apart_dlBufferAcquire_acquire h m b _

theorem apart_dlBufferRelease (i : Fin dlSlots) : R m (dlBufferRelease k i m).2 := by
  unfold dlBufferRelease
  dsimp only
  split
  · exact h.refl m
  · split
    · exact apart_privDrvbufLayoutChangeBufferReleased h k m _
    · split
      · dsimp only
        exact h.trans (h.modBuf m _ rfl) (h.modBuf _ _ rfl)
      · dsimp only
        exact h.modBuf m _ rfl

theorem apart_ulBufferAcquire (b : Bool) : R m (ulBufferAcquire b m).2 := by
  unfold ulBufferAcquire
  split
  · exact h.refl m
  · split
    · exact h.refl m
    · dsimp only
      split
      · exact h.refl m
      · split
        · exact h.refl m
        · split
          · exact h.refl m
          · dsimp only
            exact h.modBuf m _ rfl

/-- Sending the frame comes before the buffer is given back. -/
theorem apart_ulBufferRelease (buf : Option (Fin ulSlots))
    (hs : ∀ i, buf = some i → ∀ m, R m (ulBufferSend k i m).2) :
    R m (ulBufferRelease k buf m).2 := by
  cases buf with
  | none => exact h.refl m
  | some i =>
    have hsubmit : R m (ulBufferSubmit k i m).2 := by
      unfold ulBufferSubmit
      split
      · split <;> exact h.refl m
      · split
        · exact hs i rfl m
        · exact h.refl m
    unfold ulBufferRelease
    dsimp only
    split
    · exact apart_privDrvbufLayoutChangeBufferReleased h k m _
    · dsimp only
      exact h.trans hsubmit (h.modBuf _ _ rfl)

theorem apart_fillBuffer (slot : Slot) (frameFlags : ℤ) (payload : ℕ → BitVec 8) :
    R m (fillBuffer slot frameFlags payload m) := by
  cases slot with
  | ul i => exact h.trans (h.modBuf m _ rfl) (h.octets _ _ (onlyOctets_fillPayload _ _ _ _))
  | dl i => exact h.trans (h.modBuf m _ rfl) (h.octets _ _ (onlyOctets_fillPayload _ _ _ _))

/-- An operation, unless it is one of the few that do more. -/
theorem Apart.run (op : Op)
    (hw : ∀ cmd, op = .recv cmd → R m (m.emit (.recv cmd)))
    (hx : ∀ cmd, op = .recv cmd → RxDataWord cmd →
      ∀ m, R m (handleInboundRxDataReceived cmd m).2)
    (hq : ∀ cmd, op = .recv cmd → ∀ m e, R m (privQueueControlEvent e m).2)
    (hr : op = .readEvent → ∀ m, R m (privDequeueControlEvent m).2)
    (hs : ∀ i, op = .ulBufferRelease (some i) → ∀ m, R m (ulBufferSend k i m).2)
    (hd : ∀ area, op = .driver area → R m (m.modD fun d => { d with buf := area })) :
    R m (op.run k m) := by
  cases op with
  | checkPending flags word =>
    cases flags with
    | false => exact h.refl m
    | true =>
      cases word with
      | none => exact h.refl m
      | some cmd =>
        exact h.trans (hw cmd rfl)
          (apart_handleInboundControlMessage h k _ (hq cmd rfl) cmd (hx cmd rfl))
  -- The three relations that differ from use to use are hypotheses; the rest is the same for all.
  | readEvent => exact hr rfl m
  | setWbPreference b =>
    rw [Op.run, CmtSpeech.setWbPreference]
    split
    · exact h.refl m
    · dsimp only
      exact h.modBc m _
  | stateChangeCallStatus b => exact apart_bcStateChangeCallStatus h k m b
  | stateChangeCallConnect b => exact h.modBc m fun s => { s with callConnected := b }
  | stateChangeError => exact apart_privSendReset h k m
  | sendTimingRequest => exact talks_sendTiming h.toTalks k m
  | sendSsiConfigRequest b => exact talks_sendSsi h.toTalks k m b
  | testDataRampReq rampstart ramplen => exact apart_testDataRampReq h k m rampstart ramplen
  | dlBufferAcquire b => exact apart_dlBufferAcquire h m b
  | dlBufferRelease i => exact apart_dlBufferRelease h k m i
  | ulBufferAcquire b => exact apart_ulBufferAcquire h m b
  | ulBufferRelease buf =>
    exact apart_ulBufferRelease h k m buf fun i hi => hs i (congrArg Op.ulBufferRelease hi)
  | fillBuffer slot frameFlags payload => exact apart_fillBuffer h m slot frameFlags payload
  | driver area => exact hd area rfl

end

section
variable {R : Machine → Machine → Prop} (h : Aside R) (k : Kernel) (m : Machine)
include h

theorem aside_markXrun (c : Machine → Bool) (slot : Fin dlSlots) (r : BitVec 4 × Machine) :
    R r.2 (markXrun c slot r).2 := by
  unfold markXrun
  split
  · dsimp only
    exact h.modBuf _ _
  · exact h.refl _

theorem aside_handleInboundRxDataReceived (cmd : Cmd) :
    R m (handleInboundRxDataReceived cmd m).2 := by
  unfold handleInboundRxDataReceived
  dsimp only
  refine h.trans ?_ (h.modBuf _ _)
  refine h.trans ?_ (aside_markXrun h _ _ _)
  refine h.trans ?_ (aside_markXrun h _ _ _)
  refine h.trans ?_ (aside_markXrun h _ _ _)
  dsimp only
  exact h.modBuf m _

/-- A word queues an event last, after all that the handlers do for it. -/
theorem aside_handleInboundControlMessage (hq : ∀ m e, R m (privQueueControlEvent e m).2)
    (cmd : Cmd) : R m (handleInboundControlMessage k cmd m).2.2 :=
  apart_handleInboundControlMessage h.apart k m hq cmd fun _ m =>
    aside_handleInboundRxDataReceived h m cmd

/-- Sending the frame is one more change, after the header and the swap. -/
theorem aside_ulBufferSend (hs : ∀ (m : Machine) msg res, R m (m.syscall (.writeData msg res)))
    (i : Fin ulSlots) : R m (ulBufferSend k i m).2 := by
  unfold ulBufferSend
  dsimp only
  generalize hd : m.modD _ = m₁
  have ho : R m m₁ := by
    rw [← hd]
    refine h.octets m _ (.trans ?_ (onlyOctets_store4 _ _ _))
    split
    · exact onlyOctets_privInplaceHalfwordSwap _ _ _
    · exact .refl _
  have hw (msg : Cmd) : R m (privWriteData k msg m₁).2 := h.trans ho (hs m₁ msg _)
  split
  · exact h.trans (hw _) (h.count _ _)
  · split
    · dsimp only
      exact h.trans (hw _) (h.modBuf _ _)
    · dsimp only
      exact h.trans (hw _) (h.modBuf _ _)

/-- An operation, unless it is one of the few that do more. -/
theorem Aside.run (op : Op)
    (hw : ∀ cmd, op = .recv cmd → R m (m.emit (.recv cmd)))
    (hq : ∀ cmd, op = .recv cmd → ∀ m e, R m (privQueueControlEvent e m).2)
    (hr : op = .readEvent → ∀ m, R m (privDequeueControlEvent m).2)
    (hs : ∀ i, op = .ulBufferRelease (some i) →
      ∀ (m : Machine) msg res, R m (m.syscall (.writeData msg res)))
    (hd : ∀ area, op = .driver area → R m (m.modD fun d => { d with buf := area })) :
    R m (op.run k m) := by
  refine h.apart.run k m op hw ?_ hq hr (fun i hi m => aside_ulBufferSend h k m (hs i hi) i) hd
  intro cmd _ _ m
  exact aside_handleInboundRxDataReceived h m cmd

end

end CmtSpeech
