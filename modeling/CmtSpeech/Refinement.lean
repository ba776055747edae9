import CmtSpeech.Protocol

/-!
# The backend refines the protocol

Every operation of the backend is a step of the protocol relation.  Each function has one
lemma, which says what its effect is on the view and the log; callers use the lemma and do
not unfold the function.

* `Machine.log` — the visible observations of the operation so far.
* `Meets` — what happened between two states is one of given outcomes.

## Main result

* `nokiamodem_refines` — `ProtoStep` describes every step of `nokiamodem`.
-/

namespace CmtSpeech

open Protocol

/-- What the operation in progress has done, as far as the protocol layer sees it. -/
def Machine.log (m : Machine) : List Obs := m.out.filter Obs.visible

/-- What happened from `m` to `m'` is one of the outcomes `R`, with the log as the witness of it.
Functions that meet their outcomes compose, one log after the other. -/
def Meets (R : List Obs → View → Prop) (m m' : Machine) : Prop :=
  ∃ o, m'.log = m.log ++ o ∧ R o m'.view

namespace Meets

variable {R S : List Obs → View → Prop} {m m' m'' : Machine}

theorem mono (h : Meets R m m') (hRS : ∀ o v, R o v → S o v) : Meets S m m' := by
  obtain ⟨o, hl, hr⟩ := h
  exact ⟨o, hl, hRS _ _ hr⟩

/-- Nothing visible happened: the log is the same, and the view may have changed with no
observation. -/
theorem silent (hl : m'.log = m.log) (hr : R [] m'.view) : Meets R m m' :=
  ⟨[], by rw [hl, List.append_nil], hr⟩

/-- Only the log of the earlier state matters for what a piece of code shows. -/
theorem of_log (hl : m.log = m'.log) (h : Meets R m m'') : Meets R m' m'' := by
  obtain ⟨o, hl', hr⟩ := h
  exact ⟨o, by rw [hl', hl], hr⟩

/-- Two pieces of code after each other: what they show is put together, the first part first. -/
theorem seq (h₁ : Meets R m m') (h₂ : Meets S m' m'') {T : List Obs → View → Prop}
    (hT : ∀ o₁ o₂ v, R o₁ m'.view → S o₂ v → T (o₁ ++ o₂) v) : Meets T m m'' := by
  obtain ⟨o₁, hl₁, hr⟩ := h₁
  obtain ⟨o₂, hl₂, hs⟩ := h₂
  exact ⟨o₁ ++ o₂, by rw [hl₂, hl₁, List.append_assoc], hT _ _ _ hr hs⟩

/-- A piece of code, then one that changes only the view. -/
theorem andThen (h : Meets R m m') (hl : m''.log = m'.log)
    (hS : ∀ o, R o m'.view → S o m''.view) : Meets S m m'' := by
  obtain ⟨o, hl', hr⟩ := h
  exact ⟨o, by rw [hl, hl'], hS _ hr⟩

end Meets

/-! ### Elementary updates -/

section
variable (m : Machine) (o : Obs) (fb : BcState → BcState) (fd : DriverState → DriverState)
  (ff : BufState → BufState)

@[simp] theorem log_modBc : (m.modBc fb).log = m.log := rfl
@[simp] theorem log_modD : (m.modD fd).log = m.log := rfl
@[simp] theorem log_modBuf : (m.modBuf ff).log = m.log := rfl

theorem log_emit (ho : o.visible = true) : (m.emit o).log = m.log ++ [o] := by
  simp [Machine.log, ho]

theorem log_syscall_visible (ho : o.visible = true) : (m.syscall o).log = m.log ++ [o] := by
  simp [Machine.log, ho]

theorem log_syscall_hidden (ho : o.visible = false) : (m.syscall o).log = m.log := by
  simp [Machine.log, ho]

@[simp] theorem view_emit : (m.emit o).view = m.view := rfl
@[simp] theorem view_syscall : (m.syscall o).view = m.view := rfl
@[simp] theorem view_modBc : (m.modBc fb).view = m.view.withBc (fb m.view.bc) := rfl
theorem view_bc : m.view.bc = m.bcstate := rfl

theorem view_modD (h : (fd m.d).wakelineUsers = m.d.wakelineUsers) : (m.modD fd).view = m.view := by
  simp [Machine.view, h]

theorem view_modBuf (h₁ : (ff m.buf).slotSize = m.buf.slotSize)
    (h₂ : (ff m.buf).speechConfigRespPend = m.buf.speechConfigRespPend) :
    (m.modBuf ff).view = m.view := by
  simp [Machine.view, h₁, h₂]

end

/-! ### The driver side -/

section
variable (k : Kernel)

@[simp] theorem log_privAcquireWakeline (id : BitVec 3) (m : Machine) :
    (privAcquireWakeline k id m).2.log = m.log := by
  rw [privAcquireWakeline, log_modD]
  split
  · exact log_syscall_hidden _ _ rfl
  · rfl

@[simp] theorem view_privAcquireWakeline (id : BitVec 3) (m : Machine) :
    (privAcquireWakeline k id m).2.view = m.view.acquire id := by
  unfold privAcquireWakeline
  split <;> rfl

/-- The wakeline can only fail to rise when the driver says so. -/
theorem privAcquireWakeline_res (id : BitVec 3) (m : Machine) :
    (privAcquireWakeline k id m).1 = 0 ∨
      m.view.wake = 0 ∧ ∃ n, (privAcquireWakeline k id m).1 = k.setWakeline n := by
  unfold privAcquireWakeline
  split
  · next h => exact Or.inr ⟨h, m.tick, rfl⟩
  · exact Or.inl rfl

@[simp] theorem log_privReleaseWakeline (id : BitVec 3) (m : Machine) :
    (privReleaseWakeline k id m).2.log = m.log := by
  simp only [privReleaseWakeline]
  split
  · split
    · exact log_syscall_hidden _ _ rfl
    · rfl
  · rfl

@[simp] theorem view_privReleaseWakeline (id : BitVec 3) (m : Machine) :
    (privReleaseWakeline k id m).2.view = m.view.release id := by
  simp only [privReleaseWakeline]
  split
  · split <;> rfl
  · next h => simp [Machine.view, View.release, not_not.mp h]

@[simp] theorem log_privResetWakelineState (m : Machine) :
    (privResetWakelineState k m).log = m.log :=
  log_syscall_hidden _ _ rfl

@[simp] theorem view_privResetWakelineState (m : Machine) :
    (privResetWakelineState k m).view = { m.view with wake := 0 } := rfl

/-- The effect of `priv_setup_driver_bufconfig_v2api` on the view and the log. -/
theorem privSetupDriverBufconfigV2api_spec (m : Machine) :
    (privSetupDriverBufconfigV2api k m).2.log = m.log ∧
      (privSetupDriverBufconfigV2api k m).2.view = m.view ∧
      ∃ n, (privSetupDriverBufconfigV2api k m).1 = k.configBufs n := by
  have hlog : (ioctlConfigBufs k m.buf.slotSize (ioctlGetIfVersion k m).2).2.log = m.log :=
    log_syscall_hidden _ _ rfl
  have hview : (ioctlConfigBufs k m.buf.slotSize (ioctlGetIfVersion k m).2).2.view = m.view := rfl
  simp only [privSetupDriverBufconfigV2api]
  refine ⟨?_, ?_, m.tick + 1, ?_⟩
  · rw [← hlog]
    split
    · split <;> split <;> rfl
    · rfl
  · rw [← hview]
    split
    · split <;> split <;> rfl
    · rfl
  · split
    · split <;> split <;> rfl
    · rfl

/-- The view after the buffers have been configured: slot size 0 tears the path down. -/
def View.configured (v : View) : View := if v.slotSize = 0 then v.tornDown else v

theorem privSetupDriverBufconfig_spec (m : Machine) :
    (privSetupDriverBufconfig k m).2.log = m.log ∧
      (privSetupDriverBufconfig k m).2.view = m.view.configured ∧
      ∃ n, (privSetupDriverBufconfig k m).1 = k.configBufs n := by
  unfold privSetupDriverBufconfig
  obtain ⟨hl, hv, hr⟩ := privSetupDriverBufconfigV2api_spec k
    (m.modBuf fun b =>
      if b.slotSize = 0 then privResetBufStateToDisconnected
      else { b with ulErrors := 0, rxPtrHw := -1, rxPtrAppl := -1, ulSlotApp := some 0 })
  refine ⟨hl, hv.trans ?_, hr⟩
  by_cases h : m.buf.slotSize = 0
  · simp [Machine.view, View.configured, h, View.tornDown, privResetBufStateToDisconnected,
      privInvalidateBufferSlots]
  · simp [Machine.view, View.configured, h]

@[simp] theorem log_privSetupDriverBufconfig (m : Machine) :
    (privSetupDriverBufconfig k m).2.log = m.log := (privSetupDriverBufconfig_spec k m).1

@[simp] theorem view_privSetupDriverBufconfig (m : Machine) :
    (privSetupDriverBufconfig k m).2.view = m.view.configured :=
  (privSetupDriverBufconfig_spec k m).2.1

theorem privSetupDriverBufconfig_res (m : Machine) :
    ∃ n, (privSetupDriverBufconfig k m).1 = k.configBufs n :=
  (privSetupDriverBufconfig_spec k m).2.2

/-- Tearing the data path down leaves the protocol alone, and no slot size. -/
theorem view_tearDown (m : Machine) :
    (privSetupDriverBufconfig k (m.modBuf fun b => { b with slotSize := 0 })).2.view =
      m.view.tornDown := by
  rw [view_privSetupDriverBufconfig]
  rfl

end

/-! ### Sending -/

section
variable (k : Kernel)

/-- A message that is written in full: the errors are cleared after the post-processing has run,
and the message is then posted. -/
theorem bcWriteCommand_full {post : Post} {msg : Cmd} {m : Machine}
    (hd : msgGetDomain msg ≠ domainInternal) (hw : (k.write m.tick).res = ctrlLen) :
    bcWriteCommand k post msg m =
      ((k.write m.tick).res,
        ((post msg (m.syscall (.write msg (k.write m.tick)))).modBc BcState.written).emit
          (.posted msg (post msg (m.syscall (.write msg (k.write m.tick)))).bcstate.written)) := by
  refine (if_pos hw).trans ?_
  simp only [if_pos hd]
  rfl

/-- A message that is not: an error is counted, and nothing is posted. -/
theorem bcWriteCommand_short {post : Post} {msg : Cmd} {m : Machine}
    (hw : (k.write m.tick).res ≠ ctrlLen) :
    bcWriteCommand k post msg m =
      ((k.write m.tick).res,
        (m.syscall (.write msg (k.write m.tick))).modBc BcState.unwritten) := if_neg hw

/-- The effect of writing a message that needs no post-processing. -/
theorem bcWriteCommand_leaf {post : Post} {msg : Cmd} (hp : ∀ m, post msg m = m) (m : Machine) :
    ((k.write m.tick).res = ctrlLen ∧ (bcWriteCommand k post msg m).1 = ctrlLen ∧
      (bcWriteCommand k post msg m).2.log =
        m.log ++ [.write msg (k.write m.tick), .posted msg m.view.bc.written] ∧
      (bcWriteCommand k post msg m).2.view = m.view.withBc m.view.bc.written) ∨
    ((k.write m.tick).res ≠ ctrlLen ∧ (bcWriteCommand k post msg m).1 = (k.write m.tick).res ∧
      (bcWriteCommand k post msg m).2.log = m.log ++ [.write msg (k.write m.tick)] ∧
      (bcWriteCommand k post msg m).2.view = m.view.withBc m.view.bc.unwritten) := by
  by_cases hw : (k.write m.tick).res = ctrlLen
  · have heq : bcWriteCommand k post msg m =
        ((k.write m.tick).res, ((m.syscall (.write msg (k.write m.tick))).modBc
          BcState.written).emit (.posted msg m.bcstate.written)) := by
      refine (if_pos hw).trans ?_
      simp only [hp, ite_self]
      rfl
    rw [heq]
    refine Or.inl ⟨hw, hw, ?_, rfl⟩
    rw [log_emit _ _ rfl, log_modBc, log_syscall_visible _ _ rfl, List.append_assoc]
    rfl
  · rw [bcWriteCommand_short k hw]
    exact Or.inr ⟨hw, rfl, by rw [log_modBc, log_syscall_visible _ _ rfl], rfl⟩

theorem bcPostCommand_leaf {msg : Cmd} (h₁ : msgGetType msg ≠ resetConnReq)
    (h₂ : msgGetType msg ≠ speechConfigResp) (m : Machine) : bcPostCommand k msg m = m :=
  postCommandBody_leaf k _ h₁ h₂ m

theorem privWrite_meets {msg : Cmd} (h₁ : msgGetType msg ≠ resetConnReq)
    (h₂ : msgGetType msg ≠ speechConfigResp) (m : Machine) :
    Meets (Send k msg m.view) m (privWrite k msg m).2 := by
  rcases bcWriteCommand_leaf k (bcPostCommand_leaf k h₁ h₂) m with
    ⟨hw, -, hl, hv⟩ | ⟨hw, -, hl, hv⟩
  · refine ⟨_, hl, ?_⟩
    rw [privWrite, hv]
    exact .full m.tick hw
  · refine ⟨_, hl, ?_⟩
    rw [privWrite, hv]
    exact .short m.tick hw

/-- How the post-processing has to treat the two requests it may send itself. -/
def LeafPost (post : Post) : Prop :=
  ∀ msg, msgGetType msg = newTimingConfigReq ∨ msgGetType msg = ssiConfigReq →
    ∀ m, post msg m = m

theorem leafPost_body (post : Post) : LeafPost (postCommandBody k post) := by
  intro msg h m
  have h₁ : msgGetType msg ≠ resetConnReq := by rcases h with h | h <;> rw [h] <;> decide
  have h₂ : msgGetType msg ≠ speechConfigResp := by rcases h with h | h <;> rw [h] <;> decide
  exact postCommandBody_leaf k post h₁ h₂ m

theorem leafPost_bcPostCommand : LeafPost (bcPostCommand k) := leafPost_body k _

variable {post : Post}

theorem sendTimingRequest_meets (hp : LeafPost post) (m : Machine) :
    Meets (SendTiming k m.view) m (sendTimingRequest k post m).2 := by
  rw [sendTimingRequest, bcSendTimingRequest]
  rcases bcWriteCommand_leaf k (hp _ (Or.inl msgGetType_newTimingConfigReq)) m with
    ⟨hw, hr, hl, hv⟩ | ⟨hw, hr, hl, hv⟩
  · rw [if_neg (not_not.mpr hr)]
    refine ⟨_, hl, ?_⟩
    rw [view_modBc, hv]
    exact .full m.tick hw
  · rw [if_pos (by rw [hr]; exact hw)]
    refine ⟨_, hl, ?_⟩
    rw [hv]
    exact .short m.tick hw

@[simp] theorem msgGetType_ssiConfigRequest (s : BcState) (b : Bool) :
    msgGetType (ssiConfigRequest s b) = ssiConfigReq := msgGetType_ssiConfigReq _ _ _

theorem bcSendSsiConfigRequest_meets (hp : LeafPost post) (b : Bool) (m : Machine) {v : View}
    (hv : m.view = ssiAcquire b v) :
    Meets (SendSsi k b v) m (bcSendSsiConfigRequest k post b m).2 := by
  have hbc : m.bcstate = v.bc := by
    rw [← view_bc, hv, ssiAcquire]
    cases b <;> rfl
  unfold bcSendSsiConfigRequest
  by_cases hr : b = false ∧ m.bcstate.privState = .disconnecting
  · -- refused before the mark is set
    rw [if_pos hr]
    refine .silent rfl ?_
    rw [hv, ssiAcquire, if_neg (by simp [hr.1])]
    exact .refused hr.1 (hbc ▸ hr.2)
  · rw [if_neg hr]
    have hr' : ¬ (b = false ∧ v.bc.privState = .disconnecting) := hbc ▸ hr
    set m₁ := m.modBc fun s => s.privStateChangeTo none (ssiPending b)
    -- The request carries the version, which the mark does not change.
    have hm : ssiConfigRequest m₁.bcstate b = ssiConfigRequest v.bc b := by rw [← hbc]; rfl
    have hv₁ : m₁.view = (ssiAcquire b v).withBc (v.bc.privStateChangeTo none (ssiPending b)) := by
      rw [← hv, ← hbc]; rfl
    dsimp only
    rcases bcWriteCommand_leaf k (hp _ (Or.inr (msgGetType_ssiConfigRequest m₁.bcstate b))) m₁ with
      ⟨hw, hs, hl, hv'⟩ | ⟨hw, hs, hl, hv'⟩
    · rw [if_neg (not_not.mpr hs)]
      refine ⟨_, hl, ?_⟩
      rw [hv', hv₁, hm]
      exact .full m₁.tick hw hr'
    · rw [if_pos (by rw [hs]; exact hw)]
      refine ⟨_, hl, ?_⟩
      rw [view_modBc, hv', hv₁, hm]
      exact .short m₁.tick hw hr'

theorem sendSsiConfigRequest_meets (hp : LeafPost post) (b : Bool) (m : Machine) :
    Meets (SendSsi k b m.view) m (sendSsiConfigRequest k post b m).2 := by
  unfold sendSsiConfigRequest
  cases b with
  | false => exact bcSendSsiConfigRequest_meets k hp false m rfl
  | true =>
    exact .of_log (log_privAcquireWakeline k _ m)
      (bcSendSsiConfigRequest_meets k hp true _ (view_privAcquireWakeline k _ m))

/-! ### Protocol reset -/

theorem bcPostCommand_resetConnReq (m : Machine) :
    bcPostCommand k msgEncodeResetConnReq m =
      m.modBc fun s => s.privStateChangeTo (some .invalid) .inSync := by
  rw [bcPostCommand, postCommandBody, if_pos (by simp), if_pos (by simp)]

theorem privSendReset_meets (m : Machine) : Meets (SendReset k m.view) m (privSendReset k m).2 := by
  unfold privSendReset
  dsimp only
  have hl₀ := log_privAcquireWakeline k wakelineReset m
  have hv₀ := view_privAcquireWakeline k wakelineReset m
  have hbc : (privAcquireWakeline k wakelineReset m).2.bcstate = m.view.bc := congrArg View.bc hv₀
  have hres := privAcquireWakeline_res k wakelineReset m
  generalize privAcquireWakeline k wakelineReset m = a at hl₀ hv₀ hbc hres ⊢
  -- the request is tried only when the line is up; the buffers are torn down in any case
  by_cases ha : a.1 = 0
  · rw [if_pos ha]
    by_cases hw : (k.write a.2.tick).res = ctrlLen
    · rw [privWrite, bcWriteCommand_full k (by simp) hw, bcPostCommand_resetConnReq,
        if_neg (by rw [hw]; exact (by decide : ¬ ctrlLen < 0))]
      refine ⟨[.write msgEncodeResetConnReq (k.write a.2.tick), .posted msgEncodeResetConnReq
        (m.view.bc.privStateChangeTo (some .invalid) .inSync).written], ?_, ?_⟩
      · rw [log_privSetupDriverBufconfig, log_modBuf, log_emit _ _ rfl, log_modBc, log_modBc,
          log_syscall_visible _ _ rfl, hl₀, List.append_assoc, Machine.modBc_bcstate,
          Machine.syscall_bcstate, hbc]
        rfl
      · rw [view_tearDown, view_emit, view_modBc, view_modBc, view_syscall, hv₀]
        exact .full a.2.tick hw
    · rw [privWrite, bcWriteCommand_short k hw]
      by_cases hn : (k.write a.2.tick).res < 0
      · rw [if_pos hn]
        refine ⟨[.write msgEncodeResetConnReq (k.write a.2.tick)], ?_, ?_⟩
        · rw [log_privSetupDriverBufconfig, log_modBuf, log_privReleaseWakeline, log_modBc,
            log_syscall_visible _ _ rfl, hl₀]
        · rw [view_tearDown, view_privReleaseWakeline, view_modBc, view_syscall, hv₀]
          exact .failed a.2.tick hw hn
      · rw [if_neg hn]
        refine ⟨[.write msgEncodeResetConnReq (k.write a.2.tick)], ?_, ?_⟩
        · rw [log_privSetupDriverBufconfig, log_modBuf, log_modBc, log_syscall_visible _ _ rfl, hl₀]
        · rw [view_tearDown, view_modBc, view_syscall, hv₀]
          exact .short a.2.tick hw (not_lt.mp hn)
  · rw [if_neg ha]
    obtain ⟨hz, n, hn⟩ := hres.resolve_left ha
    refine .silent ?_ ?_
    · rw [log_privSetupDriverBufconfig, log_modBuf, hl₀]
    · rw [view_tearDown, hv₀]
      exact .noLine n (hn ▸ ha) hz

/-! ### Answering a speech configuration -/

/-- A `SPEECH_CONFIG_RESP` with a one-bit result is decoded to the result it was made from. -/
theorem msgDecodeSpeechConfigResp_encode {r : BitVec 8} (hr : r = 0 ∨ r = 1) :
    msgDecodeSpeechConfigResp (msgEncodeSpeechConfigResp r) = r := by
  rcases hr with rfl | rfl <;> decide

theorem bcPostCommand_replyErr (m : Machine) :
    bcPostCommand k (msgEncodeSpeechConfigResp 1) m =
      m.modBc fun s => s.privStateChangeTo none .inSync := by
  rw [bcPostCommand, postCommandBody, if_pos (msgGetDomain_speechConfigResp 1),
    if_neg (by rw [msgGetType_speechConfigResp]; decide), if_pos (msgGetType_speechConfigResp 1),
    if_pos (by rw [msgDecodeSpeechConfigResp_encode (Or.inr rfl)]; decide)]

theorem bcPostCommand_replyOk (m : Machine) :
    Meets (Posted k m.view) m (bcPostCommand k (msgEncodeSpeechConfigResp 0) m) := by
  -- the messages sent from here need no post-processing themselves
  have hleaf : LeafPost (postCommandBody k fun _ m => m) := leafPost_body k _
  rw [bcPostCommand, postCommandBody, if_pos (msgGetDomain_speechConfigResp 0),
    if_neg (by rw [msgGetType_speechConfigResp]; decide), if_pos (msgGetType_speechConfigResp 0),
    if_neg (by rw [msgDecodeSpeechConfigResp_encode (Or.inl rfl)]; decide)]
  split
  · -- in `CONNECTED` only an activation is answered by a transition
    next hs =>
    split
    · next hp =>
      exact (Meets.of_log rfl (sendTimingRequest_meets k hleaf _)).mono
        fun o v' h => .start hs hp h
    · next hp =>
      exact .silent rfl (.keep (fun h => absurd h hp) fun _ => by simp [view_bc, hs])
  · next hs =>
    split
    · -- in the active states an activation leads from `ACTIVE_DLUL` only
      next hs' =>
      split
      · next hp =>
        split
        · next hs'' => exact .silent rfl (.restart hs'' hp)
        · next hs'' =>
          exact .silent rfl (.keep (fun _ => ⟨hs, hs''⟩) fun h => by simp [view_bc, hp] at h)
      · next hp =>
        split
        · next hp' =>
          dsimp only
          split
          · next hc =>
            exact (Meets.of_log rfl (sendSsiConfigRequest_meets k hleaf false _)).mono
              fun o v' h => .close hs' hp' (by simpa [view_bc] using hc) h
          · next hc => exact .silent rfl (.stop hs' hp' (by simpa [view_bc] using hc))
        · next hp' =>
          exact .silent rfl (.keep (fun h => absurd h hp) fun h => absurd h hp')
    · next hs' =>
      have hs'' := not_or.mp hs'
      exact .silent rfl (.keep (fun _ => ⟨hs, hs''.2⟩) fun _ => hs'')

theorem privWrite_replyOk_meets (m : Machine) :
    Meets (ReplyOk k m.view) m (privWrite k (msgEncodeSpeechConfigResp 0) m).2 := by
  by_cases hw : (k.write m.tick).res = ctrlLen
  · obtain ⟨o, hl, hp⟩ := bcPostCommand_replyOk k
      (m.syscall (.write (msgEncodeSpeechConfigResp 0) (k.write m.tick)))
    rw [privWrite, bcWriteCommand_full k (by simp) hw]
    refine ⟨_, ?_, .full m.tick hw hp⟩
    rw [log_emit _ _ rfl, log_modBc, hl, log_syscall_visible _ _ rfl]
    simp [view_bc]
  · rw [privWrite, bcWriteCommand_short k hw]
    exact ⟨_, log_syscall_visible _ _ rfl, .short m.tick hw⟩

theorem privWrite_replyErr_meets (m : Machine) :
    Meets (ReplyErr k m.view) m (privWrite k (msgEncodeSpeechConfigResp 1) m).2 := by
  by_cases hw : (k.write m.tick).res = ctrlLen
  · rw [privWrite, bcWriteCommand_full k (by simp) hw, bcPostCommand_replyErr]
    refine ⟨_, ?_, .full m.tick hw⟩
    rw [log_emit _ _ rfl, log_modBc, log_modBc, log_syscall_visible _ _ rfl]
    simp [view_bc]
  · rw [privWrite, bcWriteCommand_short k hw]
    exact ⟨_, log_syscall_visible _ _ rfl, .short m.tick hw⟩

/-- Marking the descriptors invalid is not visible. -/
@[simp] theorem view_invalidate (m : Machine) :
    (m.modBuf privInvalidateBufferSlots).view = m.view := rfl

/-- With no reply deferred, configuring the buffers is not visible. -/
theorem configured_of_not_respPend {v : View} (h : v.respPend = false) : v.configured = v := by
  obtain ⟨bc, wake, slotSize, respPend⟩ := v
  subst h
  unfold View.configured
  split
  · next hs =>
    subst hs
    rfl
  · rfl

theorem privSetupAndSendSpeechConfigReply_meets (m : Machine) :
    Meets (SetupReply k m.view) m (privSetupAndSendSpeechConfigReply k m).2 := by
  unfold privSetupAndSendSpeechConfigReply
  have hl₀ := log_privSetupDriverBufconfig k
    (m.modBuf fun b => { b with speechConfigRespPend := false })
  have hv₀ := view_privSetupDriverBufconfig k
    (m.modBuf fun b => { b with speechConfigRespPend := false })
  obtain ⟨n, hn⟩ := privSetupDriverBufconfig_res k
    (m.modBuf fun b => { b with speechConfigRespPend := false })
  rw [configured_of_not_respPend rfl] at hv₀
  generalize privSetupDriverBufconfig k
    (m.modBuf fun b => { b with speechConfigRespPend := false }) = c at hl₀ hv₀ hn ⊢
  -- a layout the driver does not take is reported to the modem and followed by a reset
  by_cases hc : c.1 = 0
  · simp only [if_pos hc, if_neg (not_not.mpr hc)]
    have h := privWrite_replyOk_meets k c.2
    rw [hv₀] at h
    exact (h.of_log hl₀).mono fun o v' hr => .ok n (hn ▸ hc) hr
  · simp only [if_neg hc, if_pos hc]
    have h₁ := privWrite_replyErr_meets k c.2
    rw [hv₀] at h₁
    have h₂ := privSendReset_meets k
      ((privWrite k (msgEncodeSpeechConfigResp 1) c.2).2.modBuf privInvalidateBufferSlots)
    rw [view_invalidate] at h₂
    exact (h₁.of_log hl₀).seq (h₂.of_log rfl) fun o₁ o₂ v' hr hs => .failed n (hn ▸ hc) hr hs

/-- The last step of a release with a deferred reply. -/
theorem privDrvbufLayoutChangeBufferReleased_meets (slot : Slot) (m : Machine) :
    Meets (fun o v' => o = [] ∧ v' = m.view ∨ SetupReply k m.view o v') m
      (privDrvbufLayoutChangeBufferReleased k slot m) := by
  have hv : (m.modBuf fun b => b.mapFlags slot (· &&& ~~~bufLocked)).view = m.view :=
    view_modBuf _ _ (by cases slot <;> rfl) (by cases slot <;> rfl)
  have h := privSetupAndSendSpeechConfigReply_meets k
    (m.modBuf fun b => b.mapFlags slot (· &&& ~~~bufLocked))
  rw [hv] at h
  rw [privDrvbufLayoutChangeBufferReleased]
  split
  · refine (h.of_log rfl).andThen (S := fun o v' => o = [] ∧ v' = m.view ∨ SetupReply k m.view o v')
      ?_ fun o hr => ?_
    · dsimp only
      split <;> rfl
    · dsimp only
      split
      · exact Or.inr hr
      · exact Or.inr hr
  · exact .silent rfl (Or.inl ⟨rfl, hv⟩)

theorem privHandleSpeechConfig_meets (req : SpeechConfigReq) (m : Machine) {v : View}
    (hv : m.view = v.withBc (v.bc.privStateChangeTo none (speechPending req))) :
    Meets (SpeechConfig k req v) m (privHandleSpeechConfig k req m) := by
  have hreq : speechRequested req v = { m.view with slotSize := speechConfigSlotSize req } := by
    rw [hv]
    rfl
  rw [privHandleSpeechConfig]
  generalize hm : m.modBuf _ = m₁
  have hl : m₁.log = m.log := by rw [← hm]; rfl
  have hv₁ : m₁.view = speechRequested req v := by rw [← hm, hreq]; rfl
  split
  · refine ((privSetupAndSendSpeechConfigReply_meets k m₁).of_log hl).mono ?_
    intro o v' hr
    exact .now (hv₁ ▸ hr)
  · refine .silent hl ?_
    have h : SpeechConfig k req v [] { speechRequested req v with respPend := true } := .defer
    rw [← hv₁] at h
    exact h

/-! ### Other inbound messages -/

theorem bcHandleSsiConfigResp_meets (resp : SsiConfigResp) (m : Machine) :
    Meets (SsiResp k resp m.view) m (bcHandleSsiConfigResp k resp m) := by
  -- A request sent from here has no post-processing of its own.
  have hleaf := leafPost_bcPostCommand k
  unfold bcHandleSsiConfigResp
  split
  · next hr =>
    split
    · next hp => exact .silent rfl (.connected hr hp)
    · next h₁ =>
      split
      · next hp => exact .silent rfl (.disconnected hr hp)
      · next h₂ =>
        split
        · next hp =>
          split
          · next hc =>
            exact (sendSsiConfigRequest_meets k hleaf true m).andThen rfl fun o hq =>
              .reconnect hr hp hc hq
          · next hc =>
            exact (sendSsiConfigRequest_meets k hleaf false m).andThen rfl fun o hq =>
              .redisconnect hr hp (by simpa [view_bc] using hc) hq
        · next h₃ => exact .silent rfl (.ignored hr h₁ h₂ h₃)
  · next hr =>
    dsimp only [stateChangeError]
    split
    · next hp =>
      exact (Meets.of_log rfl (privSendReset_meets k _)).mono fun o v' hs => .errorPending hr hp hs
    · next hp =>
      have hp' := not_or.mp hp
      exact (privSendReset_meets k m).mono fun o v' hs => .error hr hp'.1 hp'.2 hs

theorem view_privHandleSsiConfigResp (m : Machine) :
    (privHandleSsiConfigResp k m).view = afterSsiResp m.view := by
  rw [privHandleSsiConfigResp, afterSsiResp]
  split
  · next h => exact (view_privReleaseWakeline k _ m).trans (if_pos h).symm
  · next h =>
    refine Eq.trans ?_ (if_neg h).symm
    split <;> rfl

theorem log_privHandleSsiConfigResp (m : Machine) : (privHandleSsiConfigResp k m).log = m.log := by
  unfold privHandleSsiConfigResp
  split
  · exact log_privReleaseWakeline k _ m
  · split <;> rfl

/-- The effect of a peer reset does not depend on what the error counter was. -/
theorem privInitializeAfterPeerReset_spec (m : Machine) :
    (privInitializeAfterPeerReset k m).log = m.log ∧
      (privInitializeAfterPeerReset k m).view = afterPeerReset m.view := by
  unfold privInitializeAfterPeerReset
  constructor
  · rw [log_privResetWakelineState, log_modBc, log_privSetupDriverBufconfig, log_modBuf]
  · rw [view_privResetWakelineState, view_modBc, view_tearDown]
    rfl

theorem privQueueControlEvent_spec (event : Event) (m : Machine) :
    (privQueueControlEvent event m).2.log = m.log ++ [.queued event] ∧
      (privQueueControlEvent event m).2.view = m.view := by
  unfold privQueueControlEvent
  constructor
  · rw [log_modD, log_emit _ _ rfl]
  · exact view_modD _ _ rfl

/-! ### Inbound words -/

/-- An accepted control message other than the test ramp. -/
theorem control_meets {cmd : Cmd} (hu : ¬ UnknownType (msgGetType cmd))
    (hr : msgGetType cmd ≠ testRampPing) (m : Machine) :
    Meets (Control k cmd m.view) m
      (handleCommandBackend k cmd (bcHandleCommand k cmd m).2.1
        (bcHandleCommand k cmd m).2.2).2 := by
  rcases knownType_cases hu with ht | ht | ht | ht | ht | ht | ht
  · rw [bcHandleCommand_speechConfigReq k m ht, handleCommandBackend_speechConfigReq k _ _ ht]
    exact (Meets.of_log rfl (privHandleSpeechConfig_meets k _ _ rfl)).mono fun o v' h =>
      .speechConfig ht h
  · rw [bcHandleCommand_uplinkConfigNtf k m ht, handleCommandBackend_uplinkConfigNtf k _ _ ht]
    exact .silent rfl (.uplink ht)
  · rw [bcHandleCommand_timingConfigNtf k m ht, handleCommandBackend_timingConfigNtf k _ _ ht]
    exact .silent rfl (.timing ht)
  · rw [bcHandleCommand_ssiConfigResp k m ht, handleCommandBackend_ssiConfigResp k _ _ ht]
    exact (bcHandleSsiConfigResp_meets k _ m).andThen (log_privHandleSsiConfigResp k _)
      fun o h => view_privHandleSsiConfigResp k _ ▸ .ssiResp ht h
  -- The state is reset by the common code, and the buffers after the answer has been written.
  · rw [bcHandleCommand_resetConnReq k m ht, handleCommandBackend_resetConnReq k _ _ ht]
    have hw : Meets (Send k msgEncodeResetConnResp _) m (privWrite k msgEncodeResetConnResp
        (m.modBc BcState.privResetStateToDisconnected)).2 :=
      (privWrite_meets k (by simp) (by simp) _).of_log rfl
    have hs := privInitializeAfterPeerReset_spec k
      (privWrite k msgEncodeResetConnResp (m.modBc BcState.privResetStateToDisconnected)).2
    exact hw.andThen hs.1 fun o h => hs.2 ▸ .resetReq ht h
  · rw [bcHandleCommand_resetConnResp k m ht, handleCommandBackend_resetConnResp k _ _ ht]
    dsimp only [privHandleResetResponse]
    split
    · next hp =>
      -- A call was started while the reset was under way: its request is made now.
      have hq : Meets (SendSsi k true _) m (sendSsiConfigRequest k (bcPostCommand k) true
          (m.modBc BcState.privResetStateToDisconnected)).2 :=
        (sendSsiConfigRequest_meets k (leafPost_bcPostCommand k) true _).of_log rfl
      exact hq.andThen (log_privReleaseWakeline k _ _) fun o h =>
        view_privReleaseWakeline k _ _ ▸ .resetRespConnect ht hp h
    · next hp =>
      refine .silent (log_privReleaseWakeline k _ _) ?_
      exact view_privReleaseWakeline k _ _ ▸ .resetResp ht hp
  · exact absurd ht hr

/-- The event of an accepted control message, as far as it is complete. -/
theorem control_event {cmd : Cmd} (hu : ¬ UnknownType (msgGetType cmd))
    (hr : msgGetType cmd ≠ testRampPing) (m : Machine) :
    (bcHandleCommand k cmd m).1 = 0 ∧ ∃ tstamp,
      (handleCommandBackend k cmd (bcHandleCommand k cmd m).2.1
          (bcHandleCommand k cmd m).2.2).1 =
        newEvent (eventType cmd) (eventMsg cmd tstamp) m.bcstate := by
  rcases knownType_cases hu with ht | ht | ht | ht | ht | ht | ht
  · rw [bcHandleCommand_speechConfigReq k m ht, handleCommandBackend_speechConfigReq k _ _ ht]
    exact ⟨rfl, ⟨0, 0⟩, by simp [eventType, eventMsg, newEvent, ht]⟩
  · rw [bcHandleCommand_uplinkConfigNtf k m ht, handleCommandBackend_uplinkConfigNtf k _ _ ht]
    exact ⟨rfl, ⟨0, 0⟩, by simp [eventType, eventMsg, newEvent, ht]⟩
  · rw [bcHandleCommand_timingConfigNtf k m ht, handleCommandBackend_timingConfigNtf k _ _ ht]
    exact ⟨rfl, m.d.buf.timespec m.d.tstampRxCtrlOffset,
      by simp [eventType, eventMsg, newEvent, ht]⟩
  · rw [bcHandleCommand_ssiConfigResp k m ht, handleCommandBackend_ssiConfigResp k _ _ ht]
    exact ⟨rfl, ⟨0, 0⟩, by simp [eventType, eventMsg, newEvent, ht]⟩
  · rw [bcHandleCommand_resetConnReq k m ht, handleCommandBackend_resetConnReq k _ _ ht]
    exact ⟨rfl, ⟨0, 0⟩, by simp [eventType, eventMsg, newEvent, ht]⟩
  · rw [bcHandleCommand_resetConnResp k m ht, handleCommandBackend_resetConnResp k _ _ ht]
    exact ⟨rfl, ⟨0, 0⟩, by simp [eventType, eventMsg, newEvent, ht]⟩
  · exact absurd ht hr

/-! ### The test ramp -/

theorem privInitBufconfigForTestRampPing_spec (ramplen : BitVec 8) (m : Machine) :
    (privInitBufconfigForTestRampPing k ramplen m).2.log = m.log ∧
      (privInitBufconfigForTestRampPing k ramplen m).2.view =
        { m.view with slotSize := testSlotSize ramplen } ∧
      ((privInitBufconfigForTestRampPing k ramplen m).1 = 0 ∨
        ∃ n, (privInitBufconfigForTestRampPing k ramplen m).1 = k.configBufs n) := by
  unfold privInitBufconfigForTestRampPing
  dsimp only
  split
  · refine ⟨log_privSetupDriverBufconfig k _, ?_, Or.inr (privSetupDriverBufconfig_res k _)⟩
    rw [view_privSetupDriverBufconfig, View.configured, if_neg (by simp [Machine.view])]
    rfl
  · next h =>
    refine ⟨rfl, ?_, Or.inl rfl⟩
    simp [Machine.view, ← not_not.mp h]

/-- The effect of an inbound `TEST_RAMP_PING`: the line is marked, the slots are laid out, and the
ramp is sent back. -/
theorem privHandleTestRampPing_meets {cmd : Cmd} (hd : msgGetDomain cmd = domainControl)
    (ht : msgGetType cmd = testRampPing) (m : Machine) :
    Meets (fun o v' => Recv k cmd m.view (.recv cmd :: o) v') m
      (privHandleTestRampPing k cmd m).2 := by
  unfold privHandleTestRampPing
  dsimp only
  generalize hm : ((privAcquireWakeline k wakelineTestRampPing m).2.modD _) = m₁
  have hl : m₁.log = m.log := by rw [← hm, log_modD, log_privAcquireWakeline]
  have hv : m₁.view = m.view.acquire wakelineTestRampPing := by
    rw [← hm, view_modD _ _ (onlyOctets_store4 _ _ _).same.wakelineUsers, view_privAcquireWakeline]
  obtain ⟨hl', hv', hc⟩ := privInitBufconfigForTestRampPing_spec k
    (msgDecodeTestRampPing cmd).ramplen m₁
  generalize privInitBufconfigForTestRampPing k (msgDecodeTestRampPing cmd).ramplen m₁ = c
    at hl' hv' hc ⊢
  rw [hl] at hl'
  rw [hv] at hv'
  -- The layout may be refused; the line stays marked for the ramp then.
  split
  · next hneg =>
    obtain ⟨n, hn⟩ := hc.resolve_left (by omega)
    refine .silent hl' ?_
    rw [hv']
    exact .testRampNoBufs hd ht n (hn ▸ hneg)
  · generalize hm₂ : c.2.modD _ = m₂
    have hl₂ : m₂.log = m.log := by rw [← hm₂, log_modD, hl']
    have hv₂ : m₂.view = { m.view.acquire wakelineTestRampPing with
        slotSize := testSlotSize (msgDecodeTestRampPing cmd).ramplen } := by
      rw [← hm₂, view_modD _ _ (onlyOctets_generateRamp _ _ _ _).same.wakelineUsers, hv']
    have hw : Meets (Send k _ m₂.view) m₂
        (privWrite k (privMsgEncodeDriverMessage csTxDataReady 0) m₂).2 :=
      privWrite_meets k (by decide) (by decide) m₂
    rw [hv₂] at hw
    have := (hw.of_log hl₂).mono fun o v' h => Recv.testRamp hd ht h
    split <;> exact this

/-! ### Operations -/

@[simp] theorem view_mapFlags (slot : Slot) (f : BitVec 4 → BitVec 4) (m : Machine) :
    (m.modBuf fun b => b.mapFlags slot f).view = m.view := by
  cases slot <;> rfl

theorem markXrun_spec (c : Machine → Bool) (slot : Fin dlSlots) (r : BitVec 4 × Machine) :
    (markXrun c slot r).2.log = r.2.log ∧ (markXrun c slot r).2.view = r.2.view := by
  unfold markXrun
  split
  · exact ⟨rfl, view_mapFlags _ _ _⟩
  · exact ⟨rfl, rfl⟩

theorem handleInboundRxDataReceived_spec (cmd : Cmd) (m : Machine) :
    (handleInboundRxDataReceived cmd m).2.log = m.log ∧
      (handleInboundRxDataReceived cmd m).2.view = m.view := by
  unfold handleInboundRxDataReceived
  constructor
  · rw [log_modBuf, (markXrun_spec _ _ _).1, (markXrun_spec _ _ _).1, (markXrun_spec _ _ _).1]
    rfl
  · rw [view_modBuf _ _ rfl rfl, (markXrun_spec _ _ _).2, (markXrun_spec _ _ _).2,
      (markXrun_spec _ _ _).2]
    rfl


theorem handleInboundControlMessage_meets (cmd : Cmd) (m : Machine) :
    Meets (fun o v' => Recv k cmd m.view (.recv cmd :: o) v') m
      (handleInboundControlMessage k cmd m).2.2 := by
  unfold handleInboundControlMessage
  dsimp only
  split
  · next hd =>
    by_cases hu : UnknownType (msgGetType cmd)
    · rw [bcHandleCommand_unknown k m hu, if_pos (show (-1 : ℤ) ≠ 0 by decide)]
      exact .silent rfl (.unknown (Or.inl ⟨hd, hu⟩))
    · by_cases hr : msgGetType cmd = testRampPing
      · rw [bcHandleCommand_testRampPing k m hr, handleCommandBackend_testRampPing k _ _ hr,
          if_neg (show ¬ (0 : ℤ) ≠ 0 by decide), if_neg (not_not.mpr hr)]
        exact privHandleTestRampPing_meets k hd hr m
      · -- the event carries the state before, and the state after once it is queued
        obtain ⟨h₀, tstamp, h₁⟩ := control_event k hu hr m
        obtain ⟨o, hl, hc⟩ := control_meets k hu hr m
        rw [if_neg (not_not.mpr h₀), if_pos hr]
        generalize handleCommandBackend k cmd (bcHandleCommand k cmd m).2.1
          (bcHandleCommand k cmd m).2.2 = r at h₁ hl hc ⊢
        obtain ⟨hl', hv'⟩ := privQueueControlEvent_spec
          { r.1 with state := r.2.bcstate.protoState } r.2
        refine ⟨o ++ [.queued { r.1 with state := r.2.bcstate.protoState }], ?_, ?_⟩
        · rw [hl', hl, List.append_assoc]
        · rw [hv']
          exact .control hd _ hc tstamp (by rw [h₁]; exact ⟨rfl, rfl, rfl, rfl⟩)
  · next hd =>
    split
    · next hi =>
      split
      · next ht =>
        obtain ⟨hl, hv⟩ := handleInboundRxDataReceived_spec cmd m
        exact .silent hl (hv ▸ .data hi (by rw [ht]; decide))
      · split
        · next ht =>
          obtain ⟨hl, hv⟩ := privInitializeAfterPeerReset_spec k m
          unfold handleCsError
          obtain ⟨hl', hv'⟩ := privQueueControlEvent_spec
            { state := (privInitializeAfterPeerReset k m).bcstate.protoState
              prevState := m.bcstate.protoState, msgType := eventReset, msg := .resetDone 0 }
            (privInitializeAfterPeerReset k m)
          refine ⟨_, hl'.trans (congrArg (· ++ _) hl), ?_⟩
          rw [hv', hv]
          exact .csError hi ht _ ⟨rfl, rfl, rfl, congrArg (fun v => v.bc.protoState) hv⟩
        · next ht => exact .silent rfl (.data hi ht)
    · next hi => exact .silent rfl (.unknown (Or.inr ⟨hd, hi⟩))

theorem bcCallTerminated_meets (m : Machine) :
    Meets (CallStatus k false m.view) m (bcCallTerminated k m) := by
  unfold bcCallTerminated
  split
  · next h => exact .silent rfl (.blocked h)
  · next h₁ =>
    split
    · next h =>
      exact (sendSsiConfigRequest_meets k (leafPost_bcPostCommand k) false m).mono
        fun o v' hq => .disconnect h₁ h hq
    · next h₂ =>
      split
      · next h => exact .silent rfl (.postpone h₂ h)
      · next h₃ => exact .silent rfl (.noCall h₁ h₂ h₃)

theorem bcCallStarted_meets (m : Machine) :
    Meets (CallStatus k true m.view) m (bcCallStarted k m) := by
  have hleaf := leafPost_bcPostCommand k
  unfold bcCallStarted
  split
  · next h =>
    exact (sendSsiConfigRequest_meets k hleaf true m).mono fun o v' hq => .connect h hq
  · next h₁ =>
    split
    · next h => exact .silent rfl (.reconnect h.1 h.2)
    · next h₂ =>
      split
      · next h => exact (privSendReset_meets k m).andThen rfl fun o hs => .reset h hs
      · next h₃ =>
        split
        · next h₄ =>
          split
          · next h => exact .silent rfl (.already (Or.inr ⟨h₄, Or.inl h⟩))
          · next h₅ =>
            have hc : m.view.bc.callServerActive = false := by simpa [view_bc] using h₅
            split
            · next h =>
              exact ((sendSsiConfigRequest_meets k hleaf true _).of_log rfl).mono
                fun o v' hq => .crashed h₄ hc h hq
            · next h =>
              have hi : m.view.bc.ioErrors = 0 := by simpa [view_bc] using h
              exact .silent rfl (.already (Or.inr ⟨h₄, Or.inr hi⟩))
        · next h₄ =>
          -- the protocol states left are those of case 2.c)
          have hs : m.bcstate.protoState = .connected := by
            rcases hp : m.bcstate.protoState <;> simp_all
          exact .silent rfl (.already (Or.inl ⟨hs, fun h => h₂ ⟨hs, h⟩⟩))

theorem bcStateChangeCallStatus_meets (b : Bool) (m : Machine) :
    Meets (ProtoStep k (.stateChangeCallStatus b) m.view) m (bcStateChangeCallStatus k b m).2 := by
  have hcall : Meets (CallStatus k b m.view) (m.emit (.callStatus b))
      (if b ≠ true then bcCallTerminated k (m.emit (.callStatus b))
        else bcCallStarted k (m.emit (.callStatus b))) := by
    cases b with
    | false => exact bcCallTerminated_meets k _
    | true => exact bcCallStarted_meets k _
  obtain ⟨o, hl, hc⟩ := hcall
  refine ⟨.callStatus b :: o, ?_, .callStatus hc⟩
  rw [bcStateChangeCallStatus, log_modBc, hl, log_emit _ _ rfl, List.append_assoc]
  rfl

theorem setWbPreference_meets (b : Bool) (m : Machine) :
    Meets (ProtoStep k (.setWbPreference b) m.view) m (setWbPreference b m).2 := by
  unfold setWbPreference
  split
  · exact .silent rfl .setWbRefused
  · next h =>
    exact .silent rfl (.setWbPreference (v := m.view) (by simpa [view_bc] using h))

theorem msgGetType_testRampMsg (rampstart ramplen : BitVec 8) :
    msgGetType (testRampMsg rampstart ramplen) = testRampPing := by
  have : msgGetType (testRampMsg rampstart ramplen) =
    ((BitVec.ofNat 8 (testRampPing <<< 4) ||| BitVec.ofNat 8 domainControl) >>> 4).toNat := rfl
  rw [this]
  decide

theorem bcTestDataRampReq_meets (rampstart ramplen : BitVec 8) (m : Machine) {v : View}
    (hv : m.view =
      { v.acquire wakelineTestRampPing with slotSize := testSlotSize ramplen }) :
    Meets (TestReq k (testRampMsg rampstart ramplen) ramplen v) m
      (bcTestDataRampReq k (BitVec.ofNat 8 domainControl) (BitVec.ofNat 8 domainData) rampstart
        ramplen m).2 := by
  have hbc : m.bcstate = v.bc := by
    rw [← view_bc, hv]
    rfl
  unfold bcTestDataRampReq
  split
  · next hs => exact .silent rfl (hv ▸ .busy (hbc ▸ hs))
  · next hs =>
    have hs' : v.bc.protoState = .disconnected := hbc ▸ not_not.mp hs
    have ht := msgGetType_testRampMsg rampstart ramplen
    -- A TEST_RAMP_PING is not followed up.
    have hleaf (m : Machine) : bcPostCommand k (testRampMsg rampstart ramplen) m = m :=
      bcPostCommand_leaf k (by rw [ht]; decide) (by rw [ht]; decide) m
    rcases bcWriteCommand_leaf k hleaf m with ⟨hw, hr, hl, hv'⟩ | ⟨hw, hr, hl, hv'⟩
    · rw [if_neg (not_not.mpr hr)]
      refine ⟨_, hl, ?_⟩
      rw [view_modBc, hv', hv]
      exact .full hs' m.tick hw
    · rw [if_pos (by rw [hr]; exact hw)]
      refine ⟨_, hl, ?_⟩
      rw [hv', hv]
      exact .short hs' m.tick hw

theorem testDataRampReq_meets (rampstart ramplen : BitVec 8) (m : Machine) :
    Meets (TestReq k (testRampMsg rampstart ramplen) ramplen m.view) m
      (testDataRampReq k rampstart ramplen m).2 := by
  unfold testDataRampReq
  obtain ⟨hl, hv, hc⟩ := privInitBufconfigForTestRampPing_spec k ramplen m
  generalize privInitBufconfigForTestRampPing k ramplen m = c at hl hv hc ⊢
  dsimp only
  split
  · next hneg =>
    obtain ⟨n, hn⟩ := hc.resolve_left (by omega)
    exact .silent hl (hv ▸ .noBufs n (hn ▸ hneg))
  · have hl' := (log_privAcquireWakeline k wakelineTestRampPing c.2).trans hl
    have hv' := view_privAcquireWakeline k wakelineTestRampPing c.2
    have ha := privAcquireWakeline_res k wakelineTestRampPing c.2
    rw [hv] at hv'
    split
    · next hneg =>
      obtain ⟨-, n, hn⟩ := ha.resolve_left (by omega)
      exact .silent hl' (hv' ▸ .noLine n (hn ▸ hneg))
    · exact (bcTestDataRampReq_meets k rampstart ramplen _ hv').of_log hl'

theorem copyDlFrame_spec (slot : Fin dlSlots) (bd : Buffer dlSlots) (m : Machine) :
    (copyDlFrame slot bd m).log = m.log ∧ (copyDlFrame slot bd m).view = m.view := by
  obtain ⟨d, hd, heq⟩ := copyDlFrame_eq slot bd m
  rw [heq]
  exact ⟨rfl, view_modD _ _ hd.wakelineUsers⟩

theorem dlBufferAcquire_acquire_meets (b : Bool) (m : Machine) (slot : Fin dlSlots) :
    Meets (ProtoStep k (.dlBufferAcquire b) m.view) m (dlBufferAcquire.acquire b m slot).2 := by
  unfold dlBufferAcquire.acquire
  dsimp only
  split
  · exact .silent rfl .dlAcquire
  · split
    · exact .silent rfl .dlAcquire
    · generalize hm : copyDlFrame slot _ _ = m₁
      have hl : m₁.log = m.log := hm ▸ (copyDlFrame_spec _ _ _).1
      have hv : m₁.view = m.view := hm ▸ (copyDlFrame_spec _ _ _).2
      split
      · next hs =>
        refine .silent hl ?_
        rw [view_modBc, hv]
        exact .dlAcquireTest (hv ▸ hs)
      · exact .silent hl (hv ▸ .dlAcquire)

theorem dlBufferAcquire_meets (b : Bool) (m : Machine) :
    Meets (ProtoStep k (.dlBufferAcquire b) m.view) m (dlBufferAcquire b m).2 := by
  unfold dlBufferAcquire
  split
  · exact .silent rfl .dlAcquire
  · split
    · split
      · exact (dlBufferAcquire_acquire_meets k b _ _).of_log rfl
      · exact .silent rfl .dlAcquire
    · exact dlBufferAcquire_acquire_meets k b m _

theorem dlBufferRelease_meets (i : Fin dlSlots) (m : Machine) :
    Meets (ProtoStep k (.dlBufferRelease i) m.view) m (dlBufferRelease k i m).2 := by
  unfold dlBufferRelease
  dsimp only
  split
  · exact .silent rfl .dlRelease
  · split
    · next hp =>
      refine (privDrvbufLayoutChangeBufferReleased_meets k _ m).mono ?_
      intro o v' h
      rcases h with ⟨rfl, rfl⟩ | h
      · exact .dlRelease
      · exact .dlReleaseReply hp h
    · have h : ProtoStep k (.dlBufferRelease i) m.view [] m.view := .dlRelease
      split
      · exact .silent rfl h
      · exact .silent rfl h

theorem ulBufferAcquire_meets (b : Bool) (m : Machine) :
    Meets (ProtoStep k (.ulBufferAcquire b) m.view) m (ulBufferAcquire b m).2 := by
  have h : ProtoStep k (.ulBufferAcquire b) m.view [] m.view := .ulAcquire
  unfold ulBufferAcquire
  split
  · exact .silent rfl h
  · split
    · exact .silent rfl h
    · dsimp only
      split
      · exact .silent rfl h
      · split
        · exact .silent rfl h
        · split
          · exact .silent rfl h
          · exact .silent rfl h

theorem ulBufferSend_spec (i : Fin ulSlots) (m : Machine) :
    (ulBufferSend k i m).2.log = m.log ∧ (ulBufferSend k i m).2.view = m.view := by
  unfold ulBufferSend
  dsimp only
  generalize hm : m.modD _ = m₁
  have hv : m₁.view = m.view := by
    rw [← hm]
    refine view_modD _ _ ?_
    rw [(onlyOctets_store4 _ _ _).same.wakelineUsers]
    split
    · exact (onlyOctets_privInplaceHalfwordSwap _ _ _).same.wakelineUsers
    · rfl
  have hl : (m₁.syscall (.writeData (privMsgEncodeDriverMessage csTxDataReady
      (BitVec.ofNat 8 (m.buf.ulbufdesc i).bd.index)) (k.write m₁.tick))).log = m.log := by
    rw [log_syscall_hidden _ _ rfl, ← hm, log_modD]
  unfold privWriteData
  split
  · exact ⟨hl, hv⟩
  · split
    · exact ⟨hl, hv⟩
    · exact ⟨hl, hv⟩

theorem ulBufferSubmit_spec (i : Fin ulSlots) (m : Machine) :
    (ulBufferSubmit k i m).2.log = m.log ∧ (ulBufferSubmit k i m).2.view = m.view := by
  unfold ulBufferSubmit
  split
  · split <;> exact ⟨rfl, rfl⟩
  · split
    · exact ulBufferSend_spec k i m
    · exact ⟨rfl, rfl⟩

theorem ulBufferRelease_meets (buf : Option (Fin ulSlots)) (m : Machine) :
    Meets (ProtoStep k (.ulBufferRelease buf) m.view) m (ulBufferRelease k buf m).2 := by
  have h : ProtoStep k (.ulBufferRelease buf) m.view [] m.view := .ulRelease
  cases buf with
  | none => exact .silent rfl h
  | some i =>
    unfold ulBufferRelease
    dsimp only
    split
    · next hp =>
      refine (privDrvbufLayoutChangeBufferReleased_meets k _ m).mono ?_
      intro o v' h
      rcases h with ⟨rfl, rfl⟩ | h
      · exact .ulRelease
      · exact .ulReleaseReply hp h
    · obtain ⟨hl, hv⟩ := ulBufferSubmit_spec k i m
      refine .silent hl ?_
      rw [view_mapFlags, hv]
      exact h

theorem fillBuffer_spec (slot : Slot) (frameFlags : ℤ) (payload : ℕ → BitVec 8) (m : Machine) :
    (fillBuffer slot frameFlags payload m).log = m.log ∧
      (fillBuffer slot frameFlags payload m).view = m.view := by
  cases slot with
  | ul i => exact ⟨rfl, view_modD _ _ (onlyOctets_fillPayload _ _ _ _).same.wakelineUsers⟩
  | dl i => exact ⟨rfl, view_modD _ _ (onlyOctets_fillPayload _ _ _ _).same.wakelineUsers⟩

theorem readEvent_spec (m : Machine) :
    (readEvent m).2.log = m.log ∧ (readEvent m).2.view = m.view := by
  rw [readEvent, privDequeueControlEvent]
  split
  · exact ⟨rfl, rfl⟩
  · exact ⟨rfl, rfl⟩

theorem checkPending_meets (flags : Bool) (word : Option Cmd) (m : Machine) :
    Meets (ProtoStep k (.checkPending flags word) m.view) m (checkPending k flags word m).2.2 := by
  cases flags with
  | false => exact .silent rfl (.nothing (Or.inl rfl))
  | true =>
    cases word with
    | none => exact .silent rfl (.nothing (Or.inr rfl))
    | some cmd =>
      obtain ⟨o, hl, h⟩ := handleInboundControlMessage_meets k cmd (m.emit (.recv cmd))
      refine ⟨.recv cmd :: o, ?_, .recv h⟩
      rw [checkPending, if_neg (by decide), hl, log_emit _ _ rfl, List.append_assoc]
      rfl

/-! ### The main result -/

/-- Every operation is a step of the protocol relation. -/
theorem Op.run_meets (op : Op) (m : Machine) : Meets (ProtoStep k op m.view) m (op.run k m) := by
  cases op with
  | checkPending flags word => exact checkPending_meets k flags word m
  | readEvent =>
    obtain ⟨hl, hv⟩ := readEvent_spec m
    exact .silent hl (by rw [Op.run, hv]; exact .readEvent)
  | setWbPreference b => exact setWbPreference_meets k b m
  | stateChangeCallStatus b => exact bcStateChangeCallStatus_meets k b m
  | stateChangeCallConnect b => exact .silent rfl .callConnect
  | stateChangeError => exact (privSendReset_meets k m).mono fun _ _ => .error
  | sendTimingRequest =>
    exact (sendTimingRequest_meets k (leafPost_bcPostCommand k) m).mono fun _ _ => .sendTiming
  | sendSsiConfigRequest b =>
    exact (sendSsiConfigRequest_meets k (leafPost_bcPostCommand k) b m).mono fun _ _ => .sendSsi
  | testDataRampReq rampstart ramplen =>
    exact (testDataRampReq_meets k rampstart ramplen m).mono fun _ _ => .testReq
  | dlBufferAcquire b => exact dlBufferAcquire_meets k b m
  | dlBufferRelease i => exact dlBufferRelease_meets k i m
  | ulBufferAcquire b => exact ulBufferAcquire_meets k b m
  | ulBufferRelease buf => exact ulBufferRelease_meets k buf m
  | fillBuffer slot frameFlags payload =>
    obtain ⟨hl, hv⟩ := fillBuffer_spec slot frameFlags payload m
    exact .silent hl (by rw [Op.run, hv]; exact .fillBuffer)
  | driver area => exact .silent rfl .driver

end

/-- The protocol relation over steps: the operation and the kernel are those of the step. -/
def Protocol.Step (i : CmtSpeech.Step) (v : View) (o : List Obs) (v' : View) : Prop :=
  ProtoStep i.1 i.2 v o v'

/-- **The backend refines the protocol.** Each step of it, seen through the view and the visible
observations, is a step of the protocol. -/
theorem nokiamodem_refines : nokiamodem.Refines Machine.view Obs.visible Protocol.Step := by
  intro m i
  obtain ⟨o, hl, h⟩ := Op.run_meets i.1 i.2 m.begin
  have ho : nokiamodem.visible Obs.visible m i = o := hl
  rw [ho]
  exact h

end CmtSpeech
