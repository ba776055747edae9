import CmtSpeech.Descriptors
import CmtSpeech.PeerReset

/-!
# What one operation does to the descriptors

Most operations leave layouts and marks alone, apart from the buffer they give out or take
back.  Four ways through the source rewrite descriptors: a reset, the layout of a test ramp,
the update of the downlink descriptors after an `SSI_CONFIG_RESP`, and the reply to a
`SPEECH_CONFIG_REQ`.  Only the last one first checks that no buffer is held.

* `ResetsBuffers`, `Relays`, `MovesDl`, `Postpones` — the operations that go these ways.
* `DataStep` — everything one operation can do, one constructor for each way.

## Main result

* `dataStep`
-/

namespace CmtSpeech

open Protocol

/-! ### Operations that rewrite the descriptors -/

/-- The operations that reset the buffer state: those with which the other side resets the
protocol, and those on which the library asks for a reset itself, for a request that was refused,
an error of the application, or a call that starts in a state which only a reset leaves. -/
def ResetsBuffers (s : BcState) : Op → Prop
  | .checkPending true (some cmd) =>
    (∃ c, PeerResetWord cmd c) ∨
      SsiConfigRespWord cmd ∧ (msgDecodeSsiConfigResp cmd).result ≠ ssiConfigResSuccess
  | .stateChangeError => True
  | .stateChangeCallStatus true => s.protoState = .invalid ∨ s.protoState = .testRampPingActive
  | _ => False

/-- The operations that ask the driver for the layout of a test ramp, when the slots in use are
not of that size already. -/
def Relays (slotSize : ℕ) : Op → Prop
  | .checkPending true (some cmd) =>
    TestRampWord cmd ∧
      slotSize ≠ dataHeaderLen + (msgDecodeTestRampPing cmd).ramplen.toNat * 4
  | .testDataRampReq _ ramplen => slotSize ≠ dataHeaderLen + ramplen.toNat * 4
  | _ => False

/-- The sample layout after an `SSI_CONFIG_RESP` that reports success. -/
def BcState.layoutAfter (s : BcState) (resp : SsiConfigResp) : ℤ :=
  if s.privState = .connecting then
    if (resp.layout.toNat : ℤ) = sampleLayoutNoPref then sampleLayoutSwappedLe
    else resp.layout.toNat
  else s.sampleLayout

/-- Where the downlink frames are for a sample layout. -/
def DriverState.dlSlotbuf (d : DriverState) (sampleLayout : ℤ) (slotSize : ℕ)
    (i : Fin dlSlots) : Ptr :=
  if sampleLayout = sampleLayoutSwappedLe then .dlswap (i * slotSize) else .mmap (d.rxOffsets i)

/-- The operations that make new downlink descriptors, with frames at `slotbuf`.  Only a
successful `SSI_CONFIG_RESP` does so, while there are slots: its layout decides whether the frames
are read where the driver puts them or from a swapped copy. -/
inductive MovesDl (m : Machine) : Op → (Fin dlSlots → Ptr) → Prop
  | ssiConfigResp {cmd : Cmd} (hc : SsiConfigRespWord cmd)
      (hr : (msgDecodeSsiConfigResp cmd).result = ssiConfigResSuccess)
      (hz : 0 < m.buf.slotSize) (hp : m.bcstate.privState ≠ .disconnecting)
      (hs : m.bcstate.protoState = .disconnected →
        m.bcstate.privState = .connecting ∨ m.bcstate.privState = .ssiConfigPend) :
    MovesDl m (.recv cmd)
      (m.d.dlSlotbuf (m.bcstate.layoutAfter (msgDecodeSsiConfigResp cmd)) m.buf.slotSize)

/-- The buffer state after that: the downlink descriptors anew, without locks and marks, and the
rest as it was. -/
def BufState.movedDl (b : BufState) (slotbuf : Fin dlSlots → Ptr) : BufState :=
  { b with
    dlbufdesc := fun i =>
      privInitializeBufferDescriptor (b.dlbufdesc i) (slotbuf i) b.slotSize
        (b.dlbufdesc i).bd.frameFlags i 0 }

/-- A `SPEECH_CONFIG_REQ` while the application holds buffers.  The layout cannot change under the
application, so the reply waits for it. -/
def Postpones (b : BufState) : Op → Prop
  | .checkPending true (some cmd) => SpeechConfigReqWord cmd ∧ privLockedBufdescs b ≠ 0
  | _ => False

theorem Postpones.word {b : BufState} {op : Op} (h : Postpones b op) :
    ∃ cmd, op = .checkPending true (some cmd) ∧ SpeechConfigReqWord cmd ∧
      privLockedBufdescs b ≠ 0 := by
  match op, h with
  | .checkPending true (some cmd), h => exact ⟨cmd, rfl, h.1, h.2⟩

/-- The descriptors when a reply is put off: none is given out any more, while those that are held
stay held and keep their layout, for the application still reads and writes through them. -/
structure BufState.Postponed (b b' : BufState) : Prop where
  layout : ∀ s, b'.layout s = b.layout s
  locked : ∀ s, b'.Locked s ↔ b.Locked s
  invalid : ∀ s, b'.Invalid s
  respPend : b'.speechConfigRespPend = true

theorem BufState.postponed (b : BufState) :
    b.Postponed (privInvalidateBufferSlots { b with speechConfigRespPend := true }) := by
  refine ⟨?_, ?_, invalid_invalidate _, rfl⟩
  · intro s
    cases s <;> rfl
  · intro s
    rw [locked_invalidate]
    cases s <;> exact Iff.rfl

theorem Marks.postponed {b b₁ b' : BufState} (h : Marks b b₁) (hp : b₁.Postponed b') :
    b.Postponed b' :=
  ⟨fun s => (hp.layout s).trans (h.layout s), fun s => (hp.locked s).trans (h.locked s),
    hp.invalid, hp.respPend⟩

/-- What one operation does to the descriptors, and its part in the data path: how many replies it
makes, and which buffers are held, free or out of use afterwards. -/
inductive DataStep (m : Machine) (op : Op) : List Obs → BufState → Prop
  | keep {b' : BufState} (h : Keeps m op b') (hn : ¬ ComesToReply m.buf op) : DataStep m op [] b'
  | postpone {b' : BufState} (h : Postpones m.buf op) (hb : m.buf.Postponed b') :
    DataStep m op [] b'
  | reply {o : List Obs} {b' : BufState} (h : ComesToReply m.buf op) (ho : replies o = 1)
      (hb : b'.Answered) : DataStep m op o b'
  | reset {o : List Obs} (h : ResetsBuffers m.bcstate op) :
    DataStep m op o privResetBufStateToDisconnected
  | relay {o : List Obs} {b' : BufState} (h : Relays m.buf.slotSize op)
      (hl : ∀ s, b'.Locked s → m.buf.Locked s) : DataStep m op o b'
  | moveDl {slotbuf : Fin dlSlots → Ptr} (h : MovesDl m op slotbuf) :
    DataStep m op [] (m.buf.movedDl slotbuf)

namespace DataStep

variable {m m' : Machine} {op : Op}

/-- An operation that leaves the data path alone, and neither gives out nor takes back a buffer,
is a step of the first kind. -/
theorem of_quiet (h : Quiet m.begin m') (ha : op.acquired m = none)
    (hr : op.released m.buf = none) (hn : ¬ ComesToReply m.buf op) :
    DataStep m op m'.dataLog m'.buf := by
  rw [h.log, h.buf]
  exact .keep ((Marks.refl m.buf).keeps ha hr) hn

theorem quiet_recv (m : Machine) (cmd : Cmd) : Quiet m.begin (m.begin.emit (.recv cmd)) :=
  .of_obs rfl rfl rfl rfl

/-- A word that leaves the data path alone and is no request: a step of the first kind. -/
theorem of_quiet_recv {cmd : Cmd} (h : Quiet (m.begin.emit (.recv cmd)) m')
    (hc : ¬ SpeechConfigReqWord cmd) : DataStep m (.recv cmd) m'.dataLog m'.buf := by
  exact .of_quiet ((quiet_recv m cmd).trans h) rfl rfl fun hr => hc hr.1

end DataStep

/-! ### Inbound words -/

namespace Protocol

variable {k : Kernel} {v v' : View} {o : List Obs} {resp : SsiConfigResp}

/-- Whether a successful response ends the connection, for the backend. -/
theorem SsiResp.disconnects_iff (h : SsiResp k resp v o v')
    (hr : resp.result = ssiConfigResSuccess) :
    (v'.bc.protoState = .disconnected ∧ v'.bc.privState ≠ .connecting) ↔
      v.bc.privState = .disconnecting ∨
        v.bc.protoState = .disconnected ∧ v.bc.privState ≠ .connecting ∧
          v.bc.privState ≠ .ssiConfigPend := by
  cases h with
  | connected _ hp => simp [hp]
  | disconnected _ hp => simp [hp]
  | reconnect _ hp hc hq => simp [hp]
  | redisconnect _ hp hc hq => simp [hp]
  | ignored _ h₁ h₂ h₃ => simp [h₁, h₂, h₃]
  | errorPending hn => exact absurd hr hn
  | error hn => exact absurd hr hn

theorem SendSsi.sampleLayout {b : Bool} (h : SendSsi k b v o v') :
    v'.bc.sampleLayout = v.bc.sampleLayout := by
  cases h <;> rfl

theorem SsiResp.sampleLayout (h : SsiResp k resp v o v') (hr : resp.result = ssiConfigResSuccess)
    (hd : v.bc.privState ≠ .disconnecting) : v'.bc.sampleLayout = v.bc.layoutAfter resp := by
  cases h with
  | connected _ hp => simp [BcState.layoutAfter, hp]
  | disconnected _ hp => exact absurd hp hd
  | reconnect _ hp hc hq => simp [BcState.layoutAfter, hp, hq.sampleLayout]
  | redisconnect _ hp hc hq => simp [BcState.layoutAfter, hp, hq.sampleLayout]
  | ignored _ h₁ h₂ h₃ => simp [BcState.layoutAfter, h₁]
  | errorPending hn => exact absurd hr hn
  | error hn => exact absurd hr hn

end Protocol

section
variable (k : Kernel) (m : Machine)

theorem quiet_bcHandleSsiConfigResp {resp : SsiConfigResp}
    (hr : resp.result = ssiConfigResSuccess) : Quiet m (bcHandleSsiConfigResp k resp m) := by
  apply bcHandleSsiConfigResp_rule k m (.modBc m)
  · intro b f
    exact (quiet_sendSsi k m b).trans (.modBc _ f)
  · intro hn
    exact absurd hr hn

/-- The common code reaches the data path only when it asks for a reset. -/
theorem quiet_bcHandleCommand {cmd : Cmd} (h : msgGetType cmd = ssiConfigResp →
    (msgDecodeSsiConfigResp cmd).result = ssiConfigResSuccess) :
    Quiet m (bcHandleCommand k cmd m).2.2 := by
  apply bcHandleCommand_rule k m (.modBc m)
  · intro b f g
    exact ((Quiet.modBc m f).trans (quiet_sendSsi k _ b)).trans (.modBc _ g)
  · intro ht hn
    exact absurd (h ht) hn

/-- After the backend has done its part, at most an event is queued. -/
theorem quiet_handleInboundControlMessage {cmd : Cmd} (hd : msgGetDomain cmd = domainControl)
    (hu : ¬ UnknownType (msgGetType cmd)) :
    Quiet (handleCommandBackend k cmd (bcHandleCommand k cmd m).2.1
      (bcHandleCommand k cmd m).2.2).2 (handleInboundControlMessage k cmd m).2.2 := by
  have h0 : (bcHandleCommand k cmd m).1 = 0 := by
    rcases knownType_cases hu with ht | ht | ht | ht | ht | ht | ht
    · rw [bcHandleCommand_speechConfigReq k m ht]
    · rw [bcHandleCommand_uplinkConfigNtf k m ht]
    · rw [bcHandleCommand_timingConfigNtf k m ht]
    · rw [bcHandleCommand_ssiConfigResp k m ht]
    · rw [bcHandleCommand_resetConnReq k m ht]
    · rw [bcHandleCommand_resetConnResp k m ht]
    · rw [bcHandleCommand_testRampPing k m ht]
  rw [handleInboundControlMessage, if_pos hd, if_neg (not_not.mpr h0)]
  dsimp only
  split
  · exact quiet_privQueueControlEvent _ _
  · exact .refl _

/-- The notifications, and the answer to a reset request. -/
theorem quiet_handleCommandBackend {cmd : Cmd} (e : Event)
    (ht : msgGetType cmd = uplinkConfigNtf ∨ msgGetType cmd = timingConfigNtf ∨
      msgGetType cmd = resetConnResp) : Quiet m (handleCommandBackend k cmd e m).2 := by
  rcases ht with ht | ht | ht
  · rw [handleCommandBackend_uplinkConfigNtf k e m ht]
    exact .refl m
  · rw [handleCommandBackend_timingConfigNtf k e m ht]
    exact .refl m
  · rw [handleCommandBackend_resetConnResp k e m ht]
    exact quiet_privReleaseWakeline k m _

/-- A `SPEECH_CONFIG_REQ` is answered when no buffer is held, and put off otherwise. -/
theorem data_speechConfigReq {cmd : Cmd} (hc : SpeechConfigReqWord cmd) :
    (privLockedBufdescs m.buf = 0 ∧
        replies (Machine.dataLog (Op.run k m.begin (.recv cmd))) = 1 ∧
        (Op.run k m.begin (.recv cmd)).buf.Answered) ∨
      (privLockedBufdescs m.buf ≠ 0 ∧ Machine.dataLog (Op.run k m.begin (.recv cmd)) = [] ∧
        m.buf.Postponed (Op.run k m.begin (.recv cmd)).buf) := by
  obtain ⟨hd, ht⟩ := hc
  -- The common code sets `privState` and leaves the data path alone.
  have hm₁ : Quiet m.begin (bcHandleCommand k cmd (m.begin.emit (.recv cmd))).2.2 := by
    refine (DataStep.quiet_recv m cmd).trans (quiet_bcHandleCommand k _ ?_)
    rw [ht]
    exact fun h => absurd h (by decide)
  have hend := quiet_handleInboundControlMessage k (m.begin.emit (.recv cmd)) hd
    (by rw [ht]; decide)
  rw [handleCommandBackend_speechConfigReq k _ _ ht] at hend
  have hrun : Op.run k m.begin (.recv cmd) =
      (handleInboundControlMessage k cmd (m.begin.emit (.recv cmd))).2.2 := rfl
  rw [hrun, hend.log, hend.buf]
  generalize (bcHandleCommand k cmd (m.begin.emit (.recv cmd))).2.2 = m₁ at hm₁
  rw [privHandleSpeechConfig]
  generalize hm₂ : m₁.modBuf _ = m₂
  have hmarks : Marks m.buf m₂.buf := by
    rw [← hm₂, Machine.modBuf_buf, hm₁.buf]
    exact .of_desc rfl rfl rfl
  have hlog : m₂.dataLog = [] := by
    rw [← hm₂]
    exact hm₁.log
  -- The new slot size does not change which descriptors are locked.
  have hfree : privLockedBufdescs m₂.buf = 0 ↔ privLockedBufdescs m.buf = 0 := by
    simp only [BufState.privLockedBufdescs_eq_zero_iff, hmarks.locked]
  split
  · next hz =>
    refine Or.inl ⟨hfree.mp hz, ?_, ?_⟩
    · rw [replies_privSetupAndSendSpeechConfigReply, hlog]
      rfl
    · exact answered_privSetupAndSendSpeechConfigReply k m₂
        ((BufState.privLockedBufdescs_eq_zero_iff _).mp hz)
  · next hz =>
    exact Or.inr ⟨fun h => hz (hfree.mpr h), hlog, hmarks.postponed m₂.buf.postponed⟩

theorem dataStep_speechConfigReq {cmd : Cmd} (hc : SpeechConfigReqWord cmd) :
    DataStep m (.recv cmd) (Machine.dataLog (Op.run k m.begin (.recv cmd)))
      (Op.run k m.begin (.recv cmd)).buf := by
  rcases data_speechConfigReq k m hc with ⟨hz, hr, hb⟩ | ⟨hz, hlog, hb⟩
  · exact .reply ⟨hc, hz⟩ hr hb
  · rw [hlog]
    exact .postpone ⟨hc, hz⟩ hb

/-- The operations of `ResetsBuffers` do reset the buffers. -/
theorem buf_of_resetsBuffers {m : Machine} {op : Op} (h : ResetsBuffers m.bcstate op) :
    (op.run k m.begin).buf = privResetBufStateToDisconnected := by
  match op, h with
  | .checkPending true (some cmd), .inl ⟨c, hw⟩ =>
    exact (handleInboundControlMessage_peerReset k hw (m.begin.emit (.recv cmd))).1
  | .checkPending true (some cmd), .inr ⟨⟨hd, ht⟩, hr⟩ =>
    have hend := quiet_handleInboundControlMessage k (m.begin.emit (.recv cmd)) hd
      (by rw [ht]; decide)
    refine hend.buf.trans ?_
    rw [bcHandleCommand_ssiConfigResp k _ ht, handleCommandBackend_ssiConfigResp k _ _ ht,
      bcHandleSsiConfigResp, if_neg hr]
    -- with slot size 0 the backend has nothing to add
    generalize hm₁ : (stateChangeError k _).2 = m₁
    have hb : m₁.buf = privResetBufStateToDisconnected := by
      rw [← hm₁, stateChangeError, buf_privSendReset]
    unfold privHandleSsiConfigResp
    split
    · rw [buf_privReleaseWakeline, hb]
    · rw [hb, if_neg (by decide), hb]
  | .stateChangeError, _ => exact buf_privSendReset k m.begin
  | .stateChangeCallStatus true, hs =>
    have hs' : m.bcstate.protoState = .invalid ∨ m.bcstate.protoState = .testRampPingActive := hs
    have h₁ : m.bcstate.protoState ≠ .disconnected := by rcases hs' with hs | hs <;> simp [hs]
    have h₂ : m.bcstate.protoState ≠ .connected := by rcases hs' with hs | hs <;> simp [hs]
    have hstart : bcCallStarted k (m.begin.emit (.callStatus true)) =
        (stateChangeError k (m.begin.emit (.callStatus true))).2.modBc fun s =>
          s.privStateChangeTo none .resetBeforeConnect := by
      rw [bcCallStarted, if_neg (by exact h₁), if_neg (by exact fun h => h₂ h.1),
        if_pos (by exact hs')]
    rw [Op.run, bcStateChangeCallStatus, if_neg (by simp), hstart]
    exact buf_privSendReset k _

/-- An `SSI_CONFIG_RESP` that reports success makes new downlink descriptors, or leaves the
data path alone. -/
theorem data_ssiConfigResp {cmd : Cmd} (hc : SsiConfigRespWord cmd)
    (hr : (msgDecodeSsiConfigResp cmd).result = ssiConfigResSuccess) :
    (Op.run k m.begin (.recv cmd)).dataLog = [] ∧
      ((∃ slotbuf, MovesDl m (.recv cmd) slotbuf) ∨ (Op.run k m.begin (.recv cmd)).buf = m.buf) ∧
      ∀ slotbuf, MovesDl m (.recv cmd) slotbuf →
        (Op.run k m.begin (.recv cmd)).buf = m.buf.movedDl slotbuf := by
  obtain ⟨hd, ht⟩ := hc
  have hend := quiet_handleInboundControlMessage k (m.begin.emit (.recv cmd)) hd
    (by rw [ht]; decide)
  rw [bcHandleCommand_ssiConfigResp k _ ht, handleCommandBackend_ssiConfigResp k _ _ ht] at hend
  obtain ⟨o, -, hssi⟩ := bcHandleSsiConfigResp_meets k (msgDecodeSsiConfigResp cmd)
    (m.begin.emit (.recv cmd))
  have hq := (DataStep.quiet_recv m cmd).trans
    (quiet_bcHandleSsiConfigResp k (m.begin.emit (.recv cmd)) hr)
  show (handleInboundControlMessage k cmd (m.begin.emit (.recv cmd))).2.2.dataLog = [] ∧
    (_ ∨ (handleInboundControlMessage k cmd (m.begin.emit (.recv cmd))).2.2.buf = m.buf) ∧
    ∀ slotbuf, _ → (handleInboundControlMessage k cmd (m.begin.emit (.recv cmd))).2.2.buf = _
  rw [hend.log, hend.buf]
  dsimp only at hssi ⊢
  generalize bcHandleSsiConfigResp k (msgDecodeSsiConfigResp cmd) (m.begin.emit (.recv cmd)) = m₁
    at hssi hq ⊢
  -- Whether the line is released is decided by the state that the common code has left.
  have hdis := hssi.disconnects_iff hr
  unfold privHandleSsiConfigResp
  split
  · next hn =>
    have hw := hq.trans (quiet_privReleaseWakeline k m₁ wakelineCall)
    refine ⟨hw.log, Or.inr hw.buf, ?_⟩
    rintro slotbuf ⟨-, -, -, hp, hs⟩
    rcases hdis.mp hn with h | ⟨h, h₁, h₂⟩
    · exact absurd h hp
    · exact absurd (hs h) (not_or.mpr ⟨h₁, h₂⟩)
  · next hn =>
    split
    · next hz =>
      have hz' : 0 < m.buf.slotSize := hq.buf ▸ hz
      have hp : m.bcstate.privState ≠ .disconnecting := fun h => hn (hdis.mpr (Or.inl h))
      -- The descriptors are built from the new layout and the offsets as they stood.
      have hlayout := hssi.sampleLayout hr hp
      refine ⟨hq.log, Or.inl ⟨_, .ssiConfigResp ⟨hd, ht⟩ hr hz' hp ?_⟩, ?_⟩
      · intro hs
        by_contra hpend
        obtain ⟨h₁, h₂⟩ := not_or.mp hpend
        exact hn (hdis.mpr (Or.inr ⟨hs, h₁, h₂⟩))
      · rintro slotbuf ⟨-, -, -, -, -⟩
        rw [privUpdateDlBufferDescriptors, Machine.modBuf_buf, hq.buf, hq.rxOffsets]
        rw [show m₁.bcstate.sampleLayout = _ from hlayout]
        rfl
    · next hz =>
      refine ⟨hq.log, Or.inr hq.buf, ?_⟩
      rintro slotbuf ⟨-, -, hz', -, -⟩
      rw [hq.buf] at hz
      exact absurd hz' hz

/-! ### The test ramp -/

/-- A test ramp asks for its layout, or finds it in force. -/
theorem data_testRamp {m : Machine} {ramplen : BitVec 8} {m₁ m' : Machine} (h₁ : Quiet m m₁)
    (h : Quiet (privInitBufconfigForTestRampPing k ramplen m₁).2 m') :
    m.buf.slotSize = dataHeaderLen + ramplen.toNat * 4 ∧ Quiet m m' ∨
      m.buf.slotSize ≠ dataHeaderLen + ramplen.toNat * 4 ∧
        (∃ n r, .configBufs n r ∈ m'.dataLog) ∧ ∀ s, m'.buf.Locked s → m.buf.Locked s := by
  rw [← h₁.buf]
  rw [privInitBufconfigForTestRampPing] at h
  split at h
  · next hz =>
    generalize hm₂ : m₁.modBuf _ = m₂ at h
    have hmarks : Marks m₁.buf m₂.buf := by
      rw [← hm₂]
      exact .of_desc rfl rfl rfl
    obtain ⟨r, hl⟩ := dataLog_privSetupDriverBufconfig k m₂
    refine Or.inr ⟨hz, ⟨m₂.buf.slotSize, r, ?_⟩, ?_⟩
    · rw [h.log, hl]
      exact List.mem_append_right _ List.mem_cons_self
    · intro s hs
      rw [h.buf] at hs
      exact (hmarks.locked s).mp ((privSetupDriverBufconfig_keeps k m₂).1 s hs)
  · next hz => exact Or.inl ⟨not_not.mp hz, h₁.trans h⟩

theorem data_testDataRampReq (rampstart ramplen : BitVec 8) :
    Quiet (privInitBufconfigForTestRampPing k ramplen m).2
      (testDataRampReq k rampstart ramplen m).2 := by
  refine talks_testDataRampReq talks_quiet k m (notReply_of_type ?_)
  rw [msgGetType_testRampMsg]
  decide

/-- The operations of `Relays` do ask the driver for a layout, and they lock no buffer. -/
theorem data_of_relays {m : Machine} {op : Op} (h : Relays m.buf.slotSize op) :
    (∃ n r, .configBufs n r ∈ (op.run k m.begin).dataLog) ∧
      ∀ s, (op.run k m.begin).buf.Locked s → m.buf.Locked s := by
  match op, h with
  | .checkPending true (some cmd), ⟨⟨hd, ht⟩, hz⟩ =>
    obtain ⟨m₁, h₁, hp⟩ := data_privHandleTestRampPing k (m.begin.emit (.recv cmd)) cmd
    have hend := quiet_handleInboundControlMessage k (m.begin.emit (.recv cmd)) hd
      (by rw [ht]; decide)
    rw [bcHandleCommand_testRampPing k _ ht, handleCommandBackend_testRampPing k _ _ ht] at hend
    exact ((data_testRamp k ((DataStep.quiet_recv m cmd).trans h₁)
      (hp.trans hend)).resolve_left fun hq => hz hq.1).2
  | .testDataRampReq rampstart ramplen, hz =>
    exact ((data_testRamp k (.refl m.begin)
      (data_testDataRampReq k m.begin rampstart ramplen)).resolve_left fun hq => hz hq.1).2

/-! ### Downlink data, and buffers taken back -/

theorem marks_markXrun (c : Machine → Bool) (slot : Fin dlSlots) (r : BitVec 4 × Machine) :
    Marks r.2.buf (markXrun c slot r).2.buf ∧ (markXrun c slot r).2.dataLog = r.2.dataLog := by
  unfold markXrun
  split
  · exact ⟨Marks.mapFlags r.2.buf (.dl slot) BufState.marks_of_xrun, rfl⟩
  · exact ⟨.refl _, rfl⟩

/-- A downlink frame touches no more than the overrun marks. -/
theorem marks_handleInboundRxDataReceived (cmd : Cmd) :
    Marks m.buf (handleInboundRxDataReceived cmd m).2.buf ∧
      (handleInboundRxDataReceived cmd m).2.dataLog = m.dataLog := by
  unfold handleInboundRxDataReceived
  dsimp only
  generalize hr : markXrun _ _ (markXrun _ _ _) = r
  have h : Marks m.buf r.2.buf ∧ r.2.dataLog = m.dataLog := by
    rw [← hr]
    constructor
    · refine .trans ?_ (marks_markXrun _ _ _).1
      refine .trans ?_ (marks_markXrun _ _ _).1
      refine .trans ?_ (marks_markXrun _ _ _).1
      exact .of_desc rfl rfl rfl
    · refine (marks_markXrun _ _ _).2.trans ?_
      refine (marks_markXrun _ _ _).2.trans ?_
      exact (marks_markXrun _ _ _).2
  exact ⟨h.1.trans (.of_desc rfl rfl rfl), h.2⟩

theorem marks_ulBufferSend (i : Fin ulSlots) :
    Marks m.buf (ulBufferSend k i m).2.buf ∧ (ulBufferSend k i m).2.dataLog = m.dataLog := by
  unfold ulBufferSend
  dsimp only
  generalize hm : m.modD _ = m₁
  have hb : m₁.buf = m.buf := by rw [← hm, Machine.modD_buf]
  have hlog (msg : Cmd) : (privWriteData k msg m₁).2.dataLog = m.dataLog := by
    rw [privWriteData, Machine.dataLog, Machine.syscall_out, List.filter_append, ← hm]
    exact List.append_nil _
  rw [← hb]
  split
  · exact ⟨.of_desc rfl rfl rfl, hlog _⟩
  · split
    · exact ⟨.of_desc rfl rfl rfl, hlog _⟩
    · exact ⟨.of_desc rfl rfl rfl, hlog _⟩

theorem marks_ulBufferSubmit (i : Fin ulSlots) :
    Marks m.buf (ulBufferSubmit k i m).2.buf ∧ (ulBufferSubmit k i m).2.dataLog = m.dataLog := by
  unfold ulBufferSubmit
  split
  · split <;> exact ⟨.refl _, rfl⟩
  · split
    · exact marks_ulBufferSend k m i
    · exact ⟨.refl _, rfl⟩

/-- A buffer taken back while a reply is put off: the reply is made with the last one, and before
that only the lock goes. -/
theorem dataStep_privDrvbufLayoutChangeBufferReleased {op : Op} {slot : Slot}
    (ha : op.acquired m = none) (hr : op.released m.buf = some slot)
    (hc : ComesToReply m.buf op ↔ privLockedBufdescs (m.buf.unlock slot) = 0) :
    DataStep m op (privDrvbufLayoutChangeBufferReleased k slot m.begin).dataLog
      (privDrvbufLayoutChangeBufferReleased k slot m.begin).buf := by
  unfold privDrvbufLayoutChangeBufferReleased
  generalize hm : m.begin.modBuf _ = m₁
  have hb : m₁.buf = m.buf.unlock slot := by
    rw [← hm]
    rfl
  have hlog : m₁.dataLog = [] := by
    rw [← hm]
    rfl
  dsimp only
  split
  -- The last buffer: the reply is made, and no descriptor is locked after it.
  · next hz =>
    have hfree := (BufState.privLockedBufdescs_eq_zero_iff _).mp hz
    have hans := answered_privSetupAndSendSpeechConfigReply k m₁ hfree
    have hrep : replies (privSetupAndSendSpeechConfigReply k m₁).2.dataLog = 1 := by
      rw [replies_privSetupAndSendSpeechConfigReply, hlog]
      rfl
    rw [hb] at hz
    split
    · refine .reply (hc.mpr hz) hrep ⟨fun s hs => hans.free s ?_, hans.respPend⟩
      exact (BufState.locked_invalidate _ s).mp hs
    · exact .reply (hc.mpr hz) hrep hans
  -- Another buffer is still held, so only the lock of this one is gone.
  · next hz =>
    rw [hlog, hb]
    rw [hb] at hz
    exact .keep ((Marks.refl _).keeps_released ha hr) fun h => hz (hc.mp h)

theorem dataStep_dlBufferRelease (i : Fin dlSlots) :
    DataStep m (.dlBufferRelease i) (dlBufferRelease k i m.begin).2.dataLog
      (dlBufferRelease k i m.begin).2.buf := by
  unfold dlBufferRelease
  dsimp only
  split
  · next hl =>
    have hfree : ¬ m.buf.Locked (.dl (m.buf.dlbufdesc i).bd.index) := not_not.mpr hl
    exact .keep ((Marks.unlock_of_not_locked hfree).keeps_released rfl rfl) fun h => h.1 hl
  · next hl =>
    split
    · next hp =>
      exact dataStep_privDrvbufLayoutChangeBufferReleased k m rfl rfl
        ⟨fun h => h.2.2, fun h => ⟨hl, hp, h⟩⟩
    · next hp =>
      have hn : ¬ ComesToReply m.buf (.dlBufferRelease i) := fun h => hp h.2.1
      have hfree := Marks.refl (m.buf.unlock (.dl (m.buf.dlbufdesc i).bd.index))
      split
      · have hxrun := hfree.trans (.mapFlags _ (.dl (m.buf.dlbufdesc i).bd.index)
          BufState.marks_of_unxrun)
        exact .keep (hxrun.keeps_released rfl rfl) hn
      · exact .keep (hfree.keeps_released rfl rfl) hn

theorem dataStep_ulBufferRelease (buf : Option (Fin ulSlots)) :
    DataStep m (.ulBufferRelease buf) (ulBufferRelease k buf m.begin).2.dataLog
      (ulBufferRelease k buf m.begin).2.buf := by
  cases buf with
  | none => exact .keep ((Marks.refl _).keeps rfl rfl) id
  | some i =>
    unfold ulBufferRelease
    dsimp only
    split
    · next hp =>
      exact dataStep_privDrvbufLayoutChangeBufferReleased k m rfl rfl
        ⟨fun h => h.2, fun h => ⟨hp, h⟩⟩
    · next hp =>
      obtain ⟨hmarks, hlog⟩ := marks_ulBufferSubmit k m.begin i
      have hfree := hmarks.unlock (.ul (m.buf.ulbufdesc i).bd.index)
      have hl : Machine.dataLog ((ulBufferSubmit k i m.begin).2.modBuf fun b =>
          b.mapFlags (.ul (m.buf.ulbufdesc i).bd.index) (· &&& ~~~bufLocked)) = [] := hlog
      rw [begin_buf, hl]
      exact .keep (Marks.keeps_released (m := m) hfree rfl rfl) fun h => hp h.1

/-! ### Every operation -/

/-- A call that starts or ends touches the data path only when it asks for a reset. -/
theorem quiet_bcStateChangeCallStatus {b : Bool}
    (h : ¬ ResetsBuffers m.bcstate (.stateChangeCallStatus b)) :
    Quiet m.begin (bcStateChangeCallStatus k b m.begin).2 := by
  have hcall : Quiet m.begin (m.begin.emit (.callStatus b)) := .of_obs rfl rfl rfl rfl
  unfold bcStateChangeCallStatus
  dsimp only
  refine (hcall.trans ?_).trans (.modBc _ _)
  split
  · apply bcCallTerminated_rule k (.modBc _)
    exact quiet_sendSsi k _ false
  · next hb =>
    apply bcCallStarted_rule k (.modBc _)
    · intro f
      exact (Quiet.modBc _ f).trans (quiet_sendSsi k _ true)
    · intro hs
      rw [not_not.mp hb] at h
      exact absurd hs h

theorem marks_fillBuffer (slot : Slot) (frameFlags : ℤ) (payload : ℕ → BitVec 8) :
    Marks m.buf (fillBuffer slot frameFlags payload m).buf ∧
      (fillBuffer slot frameFlags payload m).dataLog = m.dataLog := by
  have hid (b : BufState) (s : Slot) : Marks b (b.mapFlags s id) :=
    .mapFlags b s fun _ => ⟨rfl, rfl⟩
  cases slot with
  | ul i => exact ⟨(hid m.buf (.ul i)).trans (.updateUl rfl rfl rfl rfl rfl), rfl⟩
  | dl i => exact ⟨(hid m.buf (.dl i)).trans (.updateDl rfl rfl rfl rfl rfl), rfl⟩

theorem dataStep_recv_control {cmd : Cmd} (hd : msgGetDomain cmd = domainControl) :
    DataStep m (.recv cmd) (Op.run k m.begin (.recv cmd)).dataLog
      (Op.run k m.begin (.recv cmd)).buf := by
  by_cases hu : UnknownType (msgGetType cmd)
  · refine .of_quiet_recv ?_ fun hc => hu.ne (by decide) hc.2
    rw [Op.run, CmtSpeech.checkPending, if_neg (by decide), handleInboundControlMessage,
      if_pos hd, bcHandleCommand_unknown k _ hu, if_pos (by simp)]
    exact .refl _
  · have hend := quiet_handleInboundControlMessage k (m.begin.emit (.recv cmd)) hd hu
    have hcom (h : msgGetType cmd ≠ ssiConfigResp) :
        Quiet (m.begin.emit (.recv cmd)) (bcHandleCommand k cmd (m.begin.emit (.recv cmd))).2.2 :=
      quiet_bcHandleCommand k _ fun ht => absurd ht h
    -- The three messages that have no effect on the data path.
    have hntf {type : ℕ} (ht : msgGetType cmd = type) (hn : type ≠ speechConfigReq)
        (hs : type ≠ ssiConfigResp)
        (h : type = uplinkConfigNtf ∨ type = timingConfigNtf ∨ type = resetConnResp) :
        DataStep m (.recv cmd) (Op.run k m.begin (.recv cmd)).dataLog
          (Op.run k m.begin (.recv cmd)).buf := by
      subst ht
      exact .of_quiet_recv (((hcom hs).trans (quiet_handleCommandBackend k _ _ h)).trans hend)
        fun hc => hn hc.2
    rcases knownType_cases hu with ht | ht | ht | ht | ht | ht | ht
    · exact dataStep_speechConfigReq k m ⟨hd, ht⟩
    · exact hntf ht (by decide) (by decide) (Or.inl rfl)
    · exact hntf ht (by decide) (by decide) (Or.inr (Or.inl rfl))
    · by_cases hr : (msgDecodeSsiConfigResp cmd).result = ssiConfigResSuccess
      · obtain ⟨hlog, hbuf, hmoves⟩ := data_ssiConfigResp k m ⟨hd, ht⟩ hr
        rw [hlog]
        rcases hbuf with ⟨slotbuf, hm⟩ | hbuf
        · rw [hmoves slotbuf hm]
          exact .moveDl hm
        · rw [hbuf]
          refine .keep ((Marks.refl m.buf).keeps rfl rfl) ?_
          intro hc
          exact absurd (ht.symm.trans hc.1.2) (by decide)
      · have hreset : ResetsBuffers m.bcstate (.recv cmd) := Or.inr ⟨⟨hd, ht⟩, hr⟩
        rw [buf_of_resetsBuffers k hreset]
        exact .reset hreset
    · have hreset : ResetsBuffers m.bcstate (.recv cmd) := Or.inl ⟨1, Or.inl ⟨hd, ht, rfl⟩⟩
      rw [buf_of_resetsBuffers k hreset]
      exact .reset hreset
    · exact hntf ht (by decide) (by decide) (Or.inr (Or.inr rfl))
    · obtain ⟨m₁, h₁, hp⟩ := data_privHandleTestRampPing k (m.begin.emit (.recv cmd)) cmd
      rw [bcHandleCommand_testRampPing k _ ht, handleCommandBackend_testRampPing k _ _ ht] at hend
      rcases data_testRamp k h₁ (hp.trans hend) with ⟨-, hq⟩ | ⟨hz, -, hl⟩
      · refine .of_quiet_recv hq ?_
        intro hc
        exact absurd (ht.symm.trans hc.2) (by decide)
      · exact .relay ⟨⟨hd, ht⟩, hz⟩ hl

theorem dataStep_recv (cmd : Cmd) :
    DataStep m (.recv cmd) (Op.run k m.begin (.recv cmd)).dataLog
      (Op.run k m.begin (.recv cmd)).buf := by
  by_cases hd : msgGetDomain cmd = domainControl
  · exact dataStep_recv_control k m hd
  · have hc : ¬ SpeechConfigReqWord cmd := fun h => hd h.1
    by_cases hi : msgGetDomain cmd = domainInternal ∧ msgGetType cmd = csError
    -- CS_ERROR comes from the driver and resets as a request of the modem does.
    · have hreset : ResetsBuffers m.bcstate (.recv cmd) :=
        Or.inl ⟨0, Or.inr ⟨hi.1, hi.2, rfl⟩⟩
      rw [buf_of_resetsBuffers k hreset]
      exact .reset hreset
    · rw [Op.run, CmtSpeech.checkPending, if_neg (by decide), handleInboundControlMessage,
        if_neg hd]
      split
      · next hdom =>
        split
        · obtain ⟨hmarks, hlog⟩ :=
            marks_handleInboundRxDataReceived (m.begin.emit (.recv cmd)) cmd
          have hlog' :
              (handleInboundRxDataReceived cmd (m.begin.emit (.recv cmd))).2.dataLog = [] :=
            hlog.trans (DataStep.quiet_recv m cmd).log
          dsimp only
          rw [hlog']
          exact .keep (Marks.keeps (m := m) hmarks rfl rfl) fun h => hc h.1
        · split
          · next ht => exact absurd ⟨hdom, ht⟩ hi
          · exact .of_quiet_recv (.refl _) hc
      · exact .of_quiet_recv (.refl _) hc

end

/-- **What one operation does** to the descriptors, and on the data path. -/
theorem dataStep (m : Machine) (i : Step) :
    DataStep m i.2 ((nokiamodem.next m i).2.filter Obs.dataPath) (nokiamodem.next m i).1.buf := by
  obtain ⟨k, op⟩ := i
  show DataStep m op (op.run k m.begin).dataLog (op.run k m.begin).buf
  have hquiet {m' : Machine} (h : Quiet m.begin m') (ha : op.acquired m = none)
      (hr : op.released m.buf = none) (hn : ¬ ComesToReply m.buf op) :
      DataStep m op m'.dataLog m'.buf := .of_quiet h ha hr hn
  cases op with
  | checkPending flags word =>
    cases flags with
    | false => exact hquiet (.refl _) rfl rfl id
    | true =>
      cases word with
      | none => exact hquiet (.refl _) rfl rfl id
      | some cmd => exact dataStep_recv k m cmd
  | readEvent =>
    refine hquiet ?_ rfl rfl id
    rw [Op.run, CmtSpeech.readEvent, privDequeueControlEvent]
    split <;> exact ⟨rfl, rfl, rfl⟩
  | setWbPreference b =>
    refine hquiet ?_ rfl rfl id
    rw [Op.run, CmtSpeech.setWbPreference]
    split <;> exact ⟨rfl, rfl, rfl⟩
  | stateChangeCallStatus b =>
    by_cases hreset : ResetsBuffers m.bcstate (.stateChangeCallStatus b)
    · rw [buf_of_resetsBuffers k hreset]
      exact .reset hreset
    · exact hquiet (quiet_bcStateChangeCallStatus k m hreset) rfl rfl id
  | stateChangeCallConnect b => exact hquiet ⟨rfl, rfl, rfl⟩ rfl rfl id
  | stateChangeError =>
    have hreset : ResetsBuffers m.bcstate .stateChangeError := trivial
    rw [buf_of_resetsBuffers k hreset]
    exact .reset hreset
  | sendTimingRequest => exact hquiet (quiet_sendTiming k m.begin) rfl rfl id
  | sendSsiConfigRequest b => exact hquiet (quiet_sendSsi k m.begin b) rfl rfl id
  | testDataRampReq rampstart ramplen =>
    rcases data_testRamp k (.refl m.begin)
      (data_testDataRampReq k m.begin rampstart ramplen) with ⟨-, hq⟩ | ⟨hz, -, hl⟩
    · exact hquiet hq rfl rfl id
    · exact .relay hz hl
  | dlBufferAcquire b =>
    have h : Keeps m (.dlBufferAcquire b) _ ∧ _ :=
      (gives_dlBufferAcquire m.begin b).keeps rfl rfl
    rw [Op.run, h.2]
    exact .keep h.1 id
  | dlBufferRelease i => exact dataStep_dlBufferRelease k m i
  | ulBufferAcquire b =>
    have h : Keeps m (.ulBufferAcquire b) _ ∧ _ :=
      (gives_ulBufferAcquire m.begin b).keeps rfl rfl
    rw [Op.run, h.2]
    exact .keep h.1 id
  | ulBufferRelease buf => exact dataStep_ulBufferRelease k m buf
  | fillBuffer slot frameFlags payload =>
    obtain ⟨hmarks, hlog⟩ := marks_fillBuffer m.begin slot frameFlags payload
    rw [Op.run, hlog]
    exact .keep (Marks.keeps (m := m) hmarks rfl rfl) id
  | driver area => exact hquiet ⟨rfl, rfl, rfl⟩ rfl rfl id

/-- The operations of the data path: a downlink frame is announced, buffers go to the
application and back, and the driver and the application fill them. -/
def Op.Transfers : Op → Prop
  | .checkPending true (some cmd) =>
    msgGetDomain cmd = domainInternal ∧ msgGetType cmd = csRxDataReceived
  | .dlBufferAcquire _ | .dlBufferRelease _ | .ulBufferAcquire _ | .ulBufferRelease _
  | .fillBuffer _ _ _ | .driver _ => True
  | _ => False

/-- They rewrite no descriptor on their own, for they are none of the steps in which the layout
changes. -/
theorem Op.Transfers.rewrites_nothing {op : Op} (h : op.Transfers) (m : Machine) :
    ¬ ResetsBuffers m.bcstate op ∧ ¬ Relays m.buf.slotSize op ∧ ¬ Postpones m.buf op ∧
      ∀ slotbuf, ¬ MovesDl m op slotbuf := by
  have hne : domainInternal ≠ domainControl := by decide
  match op, h with
  | .checkPending true (some cmd), ⟨hd, ht⟩ =>
    have hc : msgGetDomain cmd ≠ domainControl := fun h => hne (hd.symm.trans h)
    refine ⟨?_, fun h => hc h.1.1, fun h => hc h.1.1, ?_⟩
    · rintro (⟨c, ⟨h, -⟩ | ⟨-, h, -⟩⟩ | ⟨⟨h, -⟩, -⟩)
      · exact hc h
      · exact absurd (ht.symm.trans h) (by decide)
      · exact hc h
    · rintro slotbuf ⟨h, -⟩
      exact hc h.1
  | .dlBufferAcquire _, _ | .dlBufferRelease _, _ | .ulBufferAcquire _, _
  | .ulBufferRelease _, _ | .fillBuffer _ _ _, _ | .driver _, _ =>
    exact ⟨id, id, id, fun _ hm => nomatch hm⟩

/-- Without a reply to come, no buffer taken back brings one about. -/
theorem Op.Transfers.not_comesToReply {op : Op} (h : op.Transfers) {b : BufState}
    (hp : b.speechConfigRespPend = false) : ¬ ComesToReply b op := by
  have hlast (s : Slot) : ¬ b.LastHeld s := by
    rintro ⟨hp', -⟩
    rw [hp] at hp'
    cases hp'
  match op, h with
  | .checkPending true (some cmd), ⟨hd, _⟩ =>
    rintro ⟨⟨hd', -⟩, -⟩
    exact absurd (hd.symm.trans hd') (by decide)
  | .dlBufferRelease i, _ => exact fun h => hlast _ h.2
  | .ulBufferRelease none, _ => exact id
  | .ulBufferRelease (some i), _ => exact hlast _
  | .dlBufferAcquire _, _ | .ulBufferAcquire _, _ | .fillBuffer _ _ _, _ | .driver _, _ => exact id

/-- Unless a buffer is taken back last, layouts and marks are kept. -/
theorem keeps_of_transfers {m : Machine} {i : Step} (h : i.2.Transfers)
    (hn : ¬ ComesToReply m.buf i.2) : Keeps m i.2 (nokiamodem.next m i).1.buf := by
  obtain ⟨h₁, h₂, h₃, h₄⟩ := h.rewrites_nothing m
  have hstep := dataStep m i
  generalize (nokiamodem.next m i).2.filter Obs.dataPath = o at hstep
  generalize (nokiamodem.next m i).1.buf = b' at hstep ⊢
  cases hstep with
  | keep hk _ => exact hk
  | postpone hp _ => exact absurd hp h₃
  | reply hr _ _ => exact absurd hr hn
  | reset hr => exact absurd hr h₁
  | relay hr _ => exact absurd hr h₂
  | moveDl hm => exact absurd hm (h₄ _)

/-- A call that gives out a buffer rewrites no descriptor. -/
theorem keeps_of_acquired {m : Machine} {i : Step} {s : Slot} (h : i.2.acquired m = some s) :
    Keeps m i.2 (nokiamodem.next m i).1.buf := by
  obtain ⟨k, op⟩ := i
  cases op with
  | dlBufferAcquire buf =>
    have hk : Keeps m (.dlBufferAcquire buf) _ ∧ _ :=
      (gives_dlBufferAcquire m.begin buf).keeps rfl rfl
    exact hk.1
  | ulBufferAcquire buf =>
    have hk : Keeps m (.ulBufferAcquire buf) _ ∧ _ :=
      (gives_ulBufferAcquire m.begin buf).keeps rfl rfl
    exact hk.1
  | _ => simp [Op.acquired] at h

end CmtSpeech
