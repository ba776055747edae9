import CmtSpeech.Driver

/-!
# The protocol state machine

`cmtspeech_backend_common.c`, with the three functions of the backend it calls
(`cmtspeech_send_timing_request`, `cmtspeech_send_ssi_config_request`,
`cmtspeech_state_change_error`).

Writing a message and post-processing it call each other: `bcWriteCommand` runs
`cmtspeech_bc_post_command`, and that may write again.  The functions on this cycle
take the post-processing as a parameter `post`; `postCommandBody` is the text of the
source over that parameter, and `bcPostCommand` closes the cycle after two rounds.
`bcPostCommand_fix` says that two are enough: it satisfies the equation of the source.

A function with many branches has a rule, such as `bcHandleCommand_rule`: a predicate holds
of the machine after it when it holds after each of the few things its branches do.

* `bcPostCommand`, `bcWriteCommand` — sending a message.
* `bcHandleCommand` — an inbound control message.
* `bcStateChangeCallStatus` — a call starts or ends.
-/

namespace CmtSpeech

/-! ### Changes of the protocol state -/

namespace BcState

/-- `priv_state_change_to`; `none` stands for a negative `newstate`. -/
def privStateChangeTo (s : BcState) (newstate : Option ProtoState) (priv : PrivState) :
    BcState :=
  { s with protoState := newstate.getD s.protoState, privState := priv }

/-- `priv_reset_state_to_disconnected`: no call, no layout and no errors, whatever there was
before. -/
def privResetStateToDisconnected (s : BcState) : BcState :=
  { s with
    callServerActive := false
    callConnected := false
    sampleLayout := -1
    ioErrors := 0 }.privStateChangeTo (some .disconnected) .inSync

/-- `cmtspeech_bc_open`: the state of an instance that has been opened, with the narrowband
version. -/
def bcOpen (s : BcState) : BcState :=
  { s.privResetStateToDisconnected with confProtoVersion := 1 }

/-- `cmtspeech_is_ssi_connection_enabled`: there is a connection, with or without speech. -/
def isSsiConnectionEnabled (s : BcState) : Bool :=
  s.protoState = .connected ∨ s.protoState = .activeDl ∨ s.protoState = .activeDlul

theorem isSsiConnectionEnabled_iff (s : BcState) :
    s.isSsiConnectionEnabled = true ↔
      s.protoState = .connected ∨ s.protoState = .activeDl ∨ s.protoState = .activeDlul :=
  decide_eq_true_iff

/-- `cmtspeech_is_active`: there is speech, in one direction or in both. -/
def isActive (s : BcState) : Bool :=
  s.protoState = .activeDl ∨ s.protoState = .activeDlul

theorem isActive_iff (s : BcState) :
    s.isActive = true ↔ s.protoState = .activeDl ∨ s.protoState = .activeDlul :=
  decide_eq_true_iff

/-- The state after a control message has been written in full, whatever it was: the errors before
it are forgotten. -/
def written (s : BcState) : BcState := { s with ioErrors := 0 }

/-- The state after a control write that failed or fell short.  The message itself is given up;
only the count shows it. -/
def unwritten (s : BcState) : BcState := { s with ioErrors := s.ioErrors + 1 }

section
variable (s : BcState) (n : Option ProtoState) (p : PrivState)

@[simp] theorem privStateChangeTo_callServerActive :
    (s.privStateChangeTo n p).callServerActive = s.callServerActive := rfl
@[simp] theorem privStateChangeTo_callConnected :
    (s.privStateChangeTo n p).callConnected = s.callConnected := rfl
@[simp] theorem privStateChangeTo_protoState :
    (s.privStateChangeTo n p).protoState = n.getD s.protoState := rfl
@[simp] theorem privStateChangeTo_privState : (s.privStateChangeTo n p).privState = p := rfl
@[simp] theorem privStateChangeTo_sampleLayout :
    (s.privStateChangeTo n p).sampleLayout = s.sampleLayout := rfl
@[simp] theorem privStateChangeTo_ioErrors :
    (s.privStateChangeTo n p).ioErrors = s.ioErrors := rfl
@[simp] theorem privStateChangeTo_confProtoVersion :
    (s.privStateChangeTo n p).confProtoVersion = s.confProtoVersion := rfl

@[simp] theorem privResetStateToDisconnected_callServerActive :
    s.privResetStateToDisconnected.callServerActive = false := rfl
@[simp] theorem privResetStateToDisconnected_protoState :
    s.privResetStateToDisconnected.protoState = .disconnected := rfl
@[simp] theorem privResetStateToDisconnected_privState :
    s.privResetStateToDisconnected.privState = .inSync := rfl
@[simp] theorem privResetStateToDisconnected_ioErrors :
    s.privResetStateToDisconnected.ioErrors = 0 := rfl
@[simp] theorem privResetStateToDisconnected_confProtoVersion :
    s.privResetStateToDisconnected.confProtoVersion = s.confProtoVersion := rfl

@[simp] theorem written_callServerActive : s.written.callServerActive = s.callServerActive := rfl
@[simp] theorem written_protoState : s.written.protoState = s.protoState := rfl
@[simp] theorem written_privState : s.written.privState = s.privState := rfl
@[simp] theorem written_ioErrors : s.written.ioErrors = 0 := rfl
@[simp] theorem written_confProtoVersion : s.written.confProtoVersion = s.confProtoVersion := rfl

@[simp] theorem unwritten_callServerActive :
    s.unwritten.callServerActive = s.callServerActive := rfl
@[simp] theorem unwritten_protoState : s.unwritten.protoState = s.protoState := rfl
@[simp] theorem unwritten_privState : s.unwritten.privState = s.privState := rfl
@[simp] theorem unwritten_ioErrors : s.unwritten.ioErrors = s.ioErrors + 1 := rfl
@[simp] theorem unwritten_confProtoVersion :
    s.unwritten.confProtoVersion = s.confProtoVersion := rfl

end

end BcState

/-! ### Sending -/

/-- What runs after a message has been written. -/
abbrev Post := Cmd → Machine → Machine

/-- `cmtspeech_bc_write_command`: the post-processing runs when the write is complete, and before
the errors are cleared. -/
def bcWriteCommand (k : Kernel) (post : Post) (msg : Cmd) (m : Machine) : ℤ × Machine :=
  let w := sysWrite k msg m
  if w.1.res = ctrlLen then
    let m := if msgGetDomain msg ≠ domainInternal then post msg w.2 else w.2
    let m := m.modBc BcState.written
    (w.1.res, m.emit (.posted msg m.bcstate))
  else (w.1.res, w.2.modBc BcState.unwritten)

/-- `cmtspeech_bc_send_timing_request`, which marks that a TIMING_CONFIG_NTF is awaited. -/
def bcSendTimingRequest (k : Kernel) (post : Post) (m : Machine) : ℤ × Machine :=
  let r := bcWriteCommand k post msgEncodeNewTimingConfigReq m
  if r.1 ≠ ctrlLen then (-1, r.2)
  else (0, r.2.modBc fun s => s.privStateChangeTo none .timing)

/-- The message `cmtspeech_bc_send_ssi_config_request` sends. -/
def ssiConfigRequest (s : BcState) (stateArg : Bool) : Cmd :=
  msgEncodeSsiConfigReq sampleLayoutInorderLe s.confProtoVersion (if stateArg then 1 else 0)

/-- `cmtspeech_bc_send_ssi_config_request`: the end of a connection is not asked for twice; the
mark of the request goes if it cannot be written. -/
def bcSendSsiConfigRequest (k : Kernel) (post : Post) (stateArg : Bool) (m : Machine) :
    ℤ × Machine :=
  if stateArg = false ∧ m.bcstate.privState = .disconnecting then (-1, m)
  else
    let m := m.modBc fun s =>
      s.privStateChangeTo none (if stateArg then .connecting else .disconnecting)
    let r := bcWriteCommand k post (ssiConfigRequest m.bcstate stateArg) m
    if r.1 ≠ ctrlLen then (-1, r.2.modBc fun s => s.privStateChangeTo none .inSync)
    else (0, r.2)

/-- `cmtspeech_send_timing_request` of the backend. -/
def sendTimingRequest (k : Kernel) (post : Post) (m : Machine) : ℤ × Machine :=
  bcSendTimingRequest k post m

/-- `cmtspeech_send_ssi_config_request` of the backend. -/
def sendSsiConfigRequest (k : Kernel) (post : Post) (state : Bool) (m : Machine) :
    ℤ × Machine :=
  bcSendSsiConfigRequest k post state
    (if state then (privAcquireWakeline k wakelineCall m).2 else m)

/-- The text of `cmtspeech_bc_post_command`; `post` is the function itself. -/
def postCommandBody (k : Kernel) (post : Post) (cmd : Cmd) (m : Machine) : Machine :=
  if msgGetDomain cmd = domainControl then
    if msgGetType cmd = resetConnReq then
      m.modBc fun s => s.privStateChangeTo (some .invalid) .inSync
    else if msgGetType cmd = speechConfigResp then
      if msgDecodeSpeechConfigResp cmd ≠ 0 then
        -- the transaction has failed, do not change the state
        m.modBc fun s => s.privStateChangeTo none .inSync
      else if m.bcstate.protoState = .connected then
        if m.bcstate.privState = .configActPend then
          (sendTimingRequest k post
            (m.modBc fun s => s.privStateChangeTo (some .activeDl) .inSync)).2
        else m
      else if m.bcstate.protoState = .activeDl ∨ m.bcstate.protoState = .activeDlul then
        if m.bcstate.privState = .configActPend then
          if m.bcstate.protoState = .activeDlul then
            m.modBc fun s => s.privStateChangeTo (some .activeDl) .inSync
          else m
        else if m.bcstate.privState = .configDeactPend then
          let m := m.modBc fun s => s.privStateChangeTo (some .connected) .inSync
          if m.bcstate.callServerActive ≠ true then (sendSsiConfigRequest k post false m).2
          else m
        else m
      else m
    else m
  else m

/-- `cmtspeech_bc_post_command`.  What it sends is post-processed in turn, which ends there. -/
def bcPostCommand (k : Kernel) : Post :=
  postCommandBody k (postCommandBody k fun _ m => m)

/-- `priv_write` of the nokiamodem backend: a write with the common post-processing. -/
def privWrite (k : Kernel) (msg : Cmd) (m : Machine) : ℤ × Machine :=
  bcWriteCommand k (bcPostCommand k) msg m

/-- Messages other than `RESET_CONN_REQ` and `SPEECH_CONFIG_RESP` need no
post-processing. -/
theorem postCommandBody_leaf (k : Kernel) (post : Post) {cmd : Cmd}
    (h₁ : msgGetType cmd ≠ resetConnReq) (h₂ : msgGetType cmd ≠ speechConfigResp) (m : Machine) :
    postCommandBody k post cmd m = m := by
  rw [postCommandBody, if_neg h₁, if_neg h₂, ite_self]

/-- What post-processing can do: move the state of the protocol, and then send a timing request
or disconnect. -/
theorem postCommandBody_rule (k : Kernel) {post : Post} {m : Machine} {P : Machine → Prop}
    (hbc : ∀ f, P (m.modBc f)) (htiming : ∀ f, P (sendTimingRequest k post (m.modBc f)).2)
    (hssi : ∀ f, P (sendSsiConfigRequest k post false (m.modBc f)).2) (cmd : Cmd) :
    P (postCommandBody k post cmd m) := by
  have hm : P m := hbc id
  unfold postCommandBody
  apply iteInduction _ fun _ => hm
  intro _
  apply iteInduction
  · intro _
    exact hbc _
  · intro _
    apply iteInduction _ fun _ => hm
    intro _
    apply iteInduction
    · intro _
      exact hbc _
    · intro _
      apply iteInduction
      · -- in `CONNECTED`
        intro _
        exact iteInduction (fun _ => htiming _) fun _ => hm
      · intro _
        apply iteInduction _ fun _ => hm
        -- in the active states
        intro _
        apply iteInduction
        · intro _
          exact iteInduction (fun _ => hbc _) fun _ => hm
        · intro _
          apply iteInduction _ fun _ => hm
          intro _
          exact iteInduction (fun _ => hssi _) fun _ => hbc _

/-- What is sent while post-processing does not depend on how it is post-processed
in turn, as long as the two ways agree on a timing and an SSI request. -/
theorem postCommandBody_congr (k : Kernel) {p q : Post}
    (h : ∀ cmd m, msgGetType cmd = newTimingConfigReq ∨ msgGetType cmd = ssiConfigReq →
      p cmd m = q cmd m) : postCommandBody k p = postCommandBody k q := by
  have hw : ∀ msg m, msgGetType msg = newTimingConfigReq ∨ msgGetType msg = ssiConfigReq →
      bcWriteCommand k p msg m = bcWriteCommand k q msg m := by
    intro msg m ht
    simp only [bcWriteCommand, h msg _ ht]
  have ht : ∀ m, sendTimingRequest k p m = sendTimingRequest k q m := by
    intro m
    simp only [sendTimingRequest, bcSendTimingRequest,
      hw _ m (Or.inl msgGetType_newTimingConfigReq)]
  have hr : ∀ s b m, bcWriteCommand k p (ssiConfigRequest s b) m =
      bcWriteCommand k q (ssiConfigRequest s b) m := by
    intro s b m
    exact hw _ m (Or.inr (msgGetType_ssiConfigReq _ _ _))
  have hs : ∀ b m, sendSsiConfigRequest k p b m = sendSsiConfigRequest k q b m := by
    intro b m
    simp only [sendSsiConfigRequest, bcSendSsiConfigRequest, hr]
  funext cmd m
  simp only [postCommandBody, ht, hs]

/-- **`bcPostCommand` satisfies the equation of the source.** -/
theorem bcPostCommand_fix (k : Kernel) : postCommandBody k (bcPostCommand k) = bcPostCommand k := by
  refine postCommandBody_congr k ?_
  intro cmd m h
  have h₁ : msgGetType cmd ≠ resetConnReq := by rcases h with h | h <;> rw [h] <;> decide
  have h₂ : msgGetType cmd ≠ speechConfigResp := by rcases h with h | h <;> rw [h] <;> decide
  rw [bcPostCommand, postCommandBody_leaf k _ h₁ h₂, postCommandBody_leaf k _ h₁ h₂]

/-! ### Protocol reset -/

/-- `priv_send_reset`: the buffers are torn down whether or not the request could be
sent. -/
def privSendReset (k : Kernel) (m : Machine) : ℤ × Machine :=
  let a := privAcquireWakeline k wakelineReset m
  let r :=
    if a.1 = 0 then
      let w := privWrite k msgEncodeResetConnReq a.2
      if w.1 < 0 then privReleaseWakeline k wakelineReset w.2 else w
    else a
  let m := r.2.modBuf fun b => { b with slotSize := 0 }
  (r.1, (privSetupDriverBufconfig k m).2)

/-- `cmtspeech_state_change_error` of the backend. -/
def stateChangeError (k : Kernel) (m : Machine) : ℤ × Machine := privSendReset k m

/-! ### Inbound control messages -/

/-- The branch of `cmtspeech_bc_handle_command` for `SSI_CONFIG_RESP`. -/
def bcHandleSsiConfigResp (k : Kernel) (resp : SsiConfigResp) (m : Machine) : Machine :=
  if resp.result = ssiConfigResSuccess then
    if m.bcstate.privState = .connecting then
      m.modBc fun s =>
        { s.privStateChangeTo (some .connected) .inSync with
          -- default to swapped configuration
          sampleLayout := if (resp.layout.toNat : ℤ) = sampleLayoutNoPref then sampleLayoutSwappedLe
            else resp.layout.toNat }
    else if m.bcstate.privState = .disconnecting then
      m.modBc BcState.privResetStateToDisconnected
    else if m.bcstate.privState = .ssiConfigPend then
      if m.bcstate.callServerActive then
        (sendSsiConfigRequest k (bcPostCommand k) true m).2.modBc fun s =>
          s.privStateChangeTo (some .disconnected) .connecting
      else
        (sendSsiConfigRequest k (bcPostCommand k) false m).2.modBc fun s =>
          s.privStateChangeTo (some .connected) .disconnecting
    else m
  else
    -- do not reset internal state unless it was set for SSI_CONFIG_REQ
    let m :=
      if m.bcstate.privState = .connecting ∨ m.bcstate.privState = .disconnecting then
        m.modBc fun s => s.privStateChangeTo none .inSync
      else m
    (stateChangeError k m).2

/-- The branch of `cmtspeech_bc_handle_command` for `TIMING_CONFIG_NTF`. -/
def bcHandleTimingConfigNtf (s : BcState) : BcState :=
  -- legacy firmware that does not send UPLINK_CONFIG_NTF
  let s := if s.protoState = .activeDl then s.privStateChangeTo (some .activeDlul) .inSync else s
  if s.privState = .timing then s.privStateChangeTo none .inSync else s

/-- What a `TIMING_CONFIG_NTF` does: it starts the uplink, ends a timing transaction, or
does nothing. -/
theorem bcHandleTimingConfigNtf_cases (s : BcState) :
    (s.protoState = .activeDl ∧
      bcHandleTimingConfigNtf s = s.privStateChangeTo (some .activeDlul) .inSync) ∨
    (s.protoState ≠ .activeDl ∧ s.privState = .timing ∧
      bcHandleTimingConfigNtf s = s.privStateChangeTo none .inSync) ∨
    (s.protoState ≠ .activeDl ∧ bcHandleTimingConfigNtf s = s) := by
  unfold bcHandleTimingConfigNtf
  by_cases hs : s.protoState = .activeDl
  · exact Or.inl ⟨hs, by simp [hs]⟩
  · by_cases hp : s.privState = .timing
    · exact Or.inr (Or.inl ⟨hs, hp, by simp [hs, hp]⟩)
    · exact Or.inr (Or.inr ⟨hs, by simp [hs, hp]⟩)

/-- `cmtspeech_bc_handle_command`: the result, the event and the new state. -/
def bcHandleCommand (k : Kernel) (inbuf : Cmd) (m : Machine) : ℤ × Event × Machine :=
  let type := msgGetType inbuf
  let event : Event :=
    { state := m.bcstate.protoState, prevState := m.bcstate.protoState, msgType := type
      msg := .none }
  if type = speechConfigReq then
    let req := msgDecodeSpeechConfigReq inbuf
    (0, { event with msg := .speechConfigReq req false },
      m.modBc fun s => s.privStateChangeTo none
        (if req.speechDataStream ≠ 0 then .configActPend else .configDeactPend))
  else if type = uplinkConfigNtf then
    (0, event, m.modBc fun s =>
      if s.protoState = .activeDl then s.privStateChangeTo (some .activeDlul) .inSync else s)
  else if type = timingConfigNtf then
    let t := msgDecodeTimingConfigNtf inbuf
    (0, { event with msg := .timingConfigNtf t.1 t.2 ⟨0, 0⟩ }, m.modBc bcHandleTimingConfigNtf)
  else if type = ssiConfigResp then
    let resp := msgDecodeSsiConfigResp inbuf
    (0, { event with msg := .ssiConfigResp resp 0 }, bcHandleSsiConfigResp k resp m)
  else if type = resetConnReq then
    (0, { event with msgType := eventReset, msg := .resetDone 1 },
      m.modBc BcState.privResetStateToDisconnected)
  else if type = resetConnResp then
    let cachedPrivState := m.bcstate.privState
    let m := m.modBc BcState.privResetStateToDisconnected
    (0, { event with msgType := eventReset, msg := .resetDone 0 },
      if cachedPrivState = .resetBeforeConnect then
        (sendSsiConfigRequest k (bcPostCommand k) true m).2
      else m)
  else if type = testRampPing then (0, event, m)
  else (-1, event, m)

/-- The types of control messages `cmtspeech_bc_handle_command` does not accept: those that only
the library itself sends, and numbers that are no message type. -/
def UnknownType (type : ℕ) : Prop :=
  type = ssiConfigReq ∨ type = newTimingConfigReq ∨ type = speechConfigResp ∨
    8 < type ∧ type ≠ testRampPing

instance (type : ℕ) : Decidable (UnknownType type) := inferInstanceAs (Decidable (_ ∨ _))

theorem UnknownType.ne {type t : ℕ} (h : UnknownType type) (ht : ¬ UnknownType t) :
    type ≠ t := by
  intro heq
  exact ht (heq ▸ h)

/-- The types of control messages `cmtspeech_bc_handle_command` accepts. -/
theorem knownType_cases {type : ℕ} (h : ¬ UnknownType type) :
    type = speechConfigReq ∨ type = uplinkConfigNtf ∨ type = timingConfigNtf ∨
      type = ssiConfigResp ∨ type = resetConnReq ∨ type = resetConnResp ∨ type = testRampPing := by
  simp only [UnknownType, ssiConfigReq, newTimingConfigReq, speechConfigResp, testRampPing] at h
  simp only [speechConfigReq, uplinkConfigNtf, timingConfigNtf, ssiConfigResp, resetConnReq,
    resetConnResp, testRampPing]
  omega

/-- The event `cmtspeech_bc_handle_command` starts from. -/
def newEvent (type : ℕ) (msg : EventMsg) (s : BcState) : Event :=
  { state := s.protoState, prevState := s.protoState, msgType := type, msg := msg }

section
variable (k : Kernel) {cmd : Cmd} (m : Machine)

theorem bcHandleCommand_speechConfigReq (h : msgGetType cmd = speechConfigReq) :
    bcHandleCommand k cmd m =
      (0,
        newEvent speechConfigReq (.speechConfigReq (msgDecodeSpeechConfigReq cmd) false) m.bcstate,
        m.modBc fun s => s.privStateChangeTo none
          (if (msgDecodeSpeechConfigReq cmd).speechDataStream ≠ 0 then .configActPend
            else .configDeactPend)) := by
  simp [bcHandleCommand, newEvent, h]

theorem bcHandleCommand_uplinkConfigNtf (h : msgGetType cmd = uplinkConfigNtf) :
    bcHandleCommand k cmd m =
      (0, newEvent uplinkConfigNtf .none m.bcstate,
        m.modBc fun s =>
          if s.protoState = .activeDl then s.privStateChangeTo (some .activeDlul) .inSync
          else s) := by
  simp [bcHandleCommand, newEvent, h]

theorem bcHandleCommand_timingConfigNtf (h : msgGetType cmd = timingConfigNtf) :
    bcHandleCommand k cmd m =
      (0, newEvent timingConfigNtf (.timingConfigNtf (msgDecodeTimingConfigNtf cmd).1
          (msgDecodeTimingConfigNtf cmd).2 ⟨0, 0⟩) m.bcstate,
        m.modBc bcHandleTimingConfigNtf) := by
  simp [bcHandleCommand, newEvent, h]

theorem bcHandleCommand_ssiConfigResp (h : msgGetType cmd = ssiConfigResp) :
    bcHandleCommand k cmd m =
      (0, newEvent ssiConfigResp (.ssiConfigResp (msgDecodeSsiConfigResp cmd) 0) m.bcstate,
        bcHandleSsiConfigResp k (msgDecodeSsiConfigResp cmd) m) := by
  simp [bcHandleCommand, newEvent, h]

theorem bcHandleCommand_resetConnReq (h : msgGetType cmd = resetConnReq) :
    bcHandleCommand k cmd m =
      (0, newEvent eventReset (.resetDone 1) m.bcstate,
        m.modBc BcState.privResetStateToDisconnected) := by
  simp [bcHandleCommand, newEvent, h]

theorem bcHandleCommand_resetConnResp (h : msgGetType cmd = resetConnResp) :
    bcHandleCommand k cmd m =
      (0, newEvent eventReset (.resetDone 0) m.bcstate,
        if m.bcstate.privState = .resetBeforeConnect then
          (sendSsiConfigRequest k (bcPostCommand k) true
            (m.modBc BcState.privResetStateToDisconnected)).2
        else m.modBc BcState.privResetStateToDisconnected) := by
  simp [bcHandleCommand, newEvent, h]

theorem bcHandleCommand_testRampPing (h : msgGetType cmd = testRampPing) :
    bcHandleCommand k cmd m = (0, newEvent testRampPing .none m.bcstate, m) := by
  simp [bcHandleCommand, newEvent, h]

theorem bcHandleCommand_unknown (h : UnknownType (msgGetType cmd)) :
    bcHandleCommand k cmd m = (-1, newEvent (msgGetType cmd) .none m.bcstate, m) := by
  have h₁ : msgGetType cmd ≠ speechConfigReq := h.ne (by decide)
  have h₂ : msgGetType cmd ≠ uplinkConfigNtf := h.ne (by decide)
  have h₃ : msgGetType cmd ≠ timingConfigNtf := h.ne (by decide)
  have h₄ : msgGetType cmd ≠ ssiConfigResp := h.ne (by decide)
  have h₅ : msgGetType cmd ≠ resetConnReq := h.ne (by decide)
  have h₆ : msgGetType cmd ≠ resetConnResp := h.ne (by decide)
  have h₇ : msgGetType cmd ≠ testRampPing := h.ne (by decide)
  simp [bcHandleCommand, newEvent, h₁, h₂, h₃, h₄, h₅, h₆, h₇]

/-- What an `SSI_CONFIG_RESP` can do: a reset follows only when it reports an error. -/
theorem bcHandleSsiConfigResp_rule {resp : SsiConfigResp} {P : Machine → Prop}
    (hbc : ∀ f, P (m.modBc f))
    (hssi : ∀ b f, P ((sendSsiConfigRequest k (bcPostCommand k) b m).2.modBc f))
    (herror : resp.result ≠ ssiConfigResSuccess → ∀ f, P (stateChangeError k (m.modBc f)).2) :
    P (bcHandleSsiConfigResp k resp m) := by
  unfold bcHandleSsiConfigResp
  -- The branches in the order of the source: CONNECTING, DISCONNECTING, SSI_CONFIG_PEND.
  apply iteInduction
  · intro _
    apply iteInduction
    · intro _
      exact hbc _
    · intro _
      apply iteInduction
      · intro _
        exact hbc _
      · intro _
        apply iteInduction
        · intro _
          exact iteInduction (fun _ => hssi true _) fun _ => hssi false _
        · intro _
          exact hbc id
  -- An error: a pending request is forgotten first, and the modem is reset either way.
  · intro hr
    dsimp only
    split
    · exact herror hr _
    · exact herror hr id

/-- What `cmtspeech_bc_handle_command` can do: set fields of the common state, send an SSI
request, and, for a response that reports an error, ask for a reset.  What holds after each of
them holds after the call. -/
theorem bcHandleCommand_rule {P : Machine → Prop} (hbc : ∀ f, P (m.modBc f))
    (hssi : ∀ b f g, P ((sendSsiConfigRequest k (bcPostCommand k) b (m.modBc f)).2.modBc g))
    (herror : msgGetType cmd = ssiConfigResp →
      (msgDecodeSsiConfigResp cmd).result ≠ ssiConfigResSuccess →
      ∀ f, P (stateChangeError k (m.modBc f)).2) : P (bcHandleCommand k cmd m).2.2 := by
  by_cases hu : UnknownType (msgGetType cmd)
  · rw [bcHandleCommand_unknown k m hu]
    exact hbc id
  · rcases knownType_cases hu with ht | ht | ht | ht | ht | ht | ht
    · rw [bcHandleCommand_speechConfigReq k m ht]
      dsimp only
      exact hbc _
    · rw [bcHandleCommand_uplinkConfigNtf k m ht]
      dsimp only
      exact hbc _
    · rw [bcHandleCommand_timingConfigNtf k m ht]
      dsimp only
      exact hbc _
    · rw [bcHandleCommand_ssiConfigResp k m ht]
      exact bcHandleSsiConfigResp_rule k m hbc (fun b => hssi b id) (herror ht)
    · rw [bcHandleCommand_resetConnReq k m ht]
      dsimp only
      exact hbc _
    · rw [bcHandleCommand_resetConnResp k m ht]
      exact iteInduction (fun _ => hssi true _ id) fun _ => hbc _
    · rw [bcHandleCommand_testRampPing k m ht]
      exact hbc id

end

/-! ### Calls of the application -/

/-- The branch of `cmtspeech_bc_state_change_call_status` for a call that ended. -/
def bcCallTerminated (k : Kernel) (m : Machine) : Machine :=
  -- case 1.a): SPEECH_CONFIG_RESP has not yet been sent
  if m.bcstate.privState = .configDeactPend then
    m.modBc fun s => { s with ioErrors := s.ioErrors + 1 }
  -- case 1.b-i): CONNECTED
  else if m.bcstate.protoState = .connected then
    (sendSsiConfigRequest k (bcPostCommand k) false m).2
  -- case 1.b-i): CONNECTING, wait until the previous transaction completes
  else if m.bcstate.privState = .connecting then
    m.modBc fun s => s.privStateChangeTo none .ssiConfigPend
  else m

/-- The branch of `cmtspeech_bc_state_change_call_status` for a call that started. -/
def bcCallStarted (k : Kernel) (m : Machine) : Machine :=
  -- case 2.a-i): DISCONNECTED
  if m.bcstate.protoState = .disconnected then
    (sendSsiConfigRequest k (bcPostCommand k) true m).2
  -- case 2.a-ii): DISCONNECTING
  else if m.bcstate.protoState = .connected ∧ m.bcstate.privState = .disconnecting then
    m.modBc fun s => s.privStateChangeTo none .ssiConfigPend
  -- case 2.b): continue by performing a reset
  else if m.bcstate.protoState = .invalid ∨ m.bcstate.protoState = .testRampPingActive then
    (stateChangeError k m).2.modBc fun s => s.privStateChangeTo none .resetBeforeConnect
  -- case 2.d)
  else if m.bcstate.protoState = .activeDl ∨ m.bcstate.protoState = .activeDlul then
    if m.bcstate.callServerActive then m
    else if m.bcstate.ioErrors > 0 then
      (sendSsiConfigRequest k (bcPostCommand k) true
        (m.modBc BcState.privResetStateToDisconnected)).2
    else m
  else m

/-- `cmtspeech_bc_state_change_call_status`: it returns 0 whatever has become of the requests it
makes. -/
def bcStateChangeCallStatus (k : Kernel) (serverState : Bool) (m : Machine) : ℤ × Machine :=
  let m := m.emit (.callStatus serverState)
  let m := if serverState ≠ true then bcCallTerminated k m else bcCallStarted k m
  (0, m.modBc fun s => { s with callServerActive := serverState })

/-- What a call that ends can do: set fields of the common state, or ask for the end of the
connection. -/
theorem bcCallTerminated_rule (k : Kernel) {m : Machine} {P : Machine → Prop}
    (hbc : ∀ f, P (m.modBc f)) (hssi : P (sendSsiConfigRequest k (bcPostCommand k) false m).2) :
    P (bcCallTerminated k m) := by
  unfold bcCallTerminated
  apply iteInduction
  · intro _
    exact hbc _
  · intro _
    apply iteInduction
    · intro _
      exact hssi
    · intro _
      exact iteInduction (fun _ => hbc _) fun _ => hbc id

/-- What a call that starts can do: set fields of the common state, ask for a connection, or ask
for a reset where one is needed before it. -/
theorem bcCallStarted_rule (k : Kernel) {m : Machine} {P : Machine → Prop}
    (hbc : ∀ f, P (m.modBc f))
    (hssi : ∀ f, P (sendSsiConfigRequest k (bcPostCommand k) true (m.modBc f)).2)
    (hreset : m.bcstate.protoState = .invalid ∨ m.bcstate.protoState = .testRampPingActive →
      ∀ f, P ((stateChangeError k m).2.modBc f)) :
    P (bcCallStarted k m) := by
  have hm : P m := hbc id
  unfold bcCallStarted
  -- The cases of the source: DISCONNECTED, DISCONNECTING, reset or ramp, a call still active.
  apply iteInduction
  · intro _
    exact hssi id
  · intro _
    apply iteInduction
    · intro _
      exact hbc _
    · intro _
      apply iteInduction
      · intro hs
        exact hreset hs _
      · intro _
        apply iteInduction _ fun _ => hm
        intro _
        apply iteInduction
        · intro _
          exact hm
        · intro _
          exact iteInduction (fun _ => hssi _) fun _ => hm

/-- `cmtspeech_bc_state_change_call_connect`: the status is kept, and nothing is sent. -/
def bcStateChangeCallConnect (connectState : Bool) (m : Machine) : ℤ × Machine :=
  (0, m.modBc fun s => { s with callConnected := connectState })

/-- `cmtspeech_set_wb_preference`: the version is for the next connection, and is refused while
there is one. -/
def setWbPreference (enabled : Bool) (m : Machine) : ℤ × Machine :=
  if m.bcstate.isSsiConnectionEnabled then (-1, m)
  else (0, m.modBc fun s => { s with confProtoVersion := if enabled then 2 else 1 })

/-- `cmtspeech_bc_test_data_ramp_req`: a ramp can only be asked for without a connection. -/
def bcTestDataRampReq (k : Kernel) (channel replychannel rampstart ramplen : BitVec 8)
    (m : Machine) : ℤ × Machine :=
  if m.bcstate.protoState ≠ .disconnected then (-1, m)
  else
    let msg := msgEncodeTestRampPing ⟨channel, replychannel, rampstart, ramplen⟩
    let r := bcWriteCommand k (bcPostCommand k) msg m
    if r.1 ≠ ctrlLen then (-1, r.2)
    else (0, r.2.modBc fun s => s.privStateChangeTo (some .testRampPingActive) .inSync)

/-- `cmtspeech_bc_test_sequence_received`: the ramp has come back, and the test is over. -/
def bcTestSequenceReceived (s : BcState) : BcState :=
  s.privStateChangeTo (some .disconnected) .inSync

end CmtSpeech
