import CmtSpeech.DummyBackend

/-!
# The client of the dummy backend

The calls of the application (`cmtspeech_dummy.c`).  A call runs at the same time as the thread
that stands for the modem, so it is told by the protocol state, which is the client's own, and by
what it does to the things that the thread sees too, one after the other.

* `Effect` — what a call, or the thread, does to the things both see.
* `ClientCall` — a call in progress: the protocol state, and the effects so far.
* `ClientCall.bcHandleCommand`, `ClientCall.bcStateChangeCallStatus` and the others — the common
  code, as in `Dummy.bcHandleCommand`, with the messages it writes to the pipe of the thread.
* `ClientCall.readEvent`, `ClientCall.stateChangeCallStatus` and the others — the functions of
  the backend.

## Main results

* `ClientCall.bcHandleCommand_eq` — the protocol state is that of `Dummy.bcHandleCommand`.
* `ClientCall.bcStateChangeCallStatus_common` — and, after a change of the call status, that of
  the other backend.
* `ClientCall.readEvent_process` — with its effects, `cmtspeech_read_event` is `Dummy.process`.
-/

namespace CmtSpeech

abbrev dummyExitRequest : ℕ := 0x04

/-- The values of the field `thread_running`, in the order in which the thread goes through them. -/
inductive ThreadRunning where
  | notStarted
  | started
  | running
  | exitReq
  | terminated
  deriving DecidableEq, Repr

/-- `thread_running >= THREAD_EXIT_REQ`: the thread is to stop, or has stopped. -/
def ThreadRunning.exitRequested (r : ThreadRunning) : Bool := r = .exitReq ∨ r = .terminated

/-- `cmtspeech_msg_encode_dummy_internal_message`; `none` stands for the result `-1`. -/
def msgEncodeDummyInternalMessage (len : ℤ) (type : BitVec 8) : Option Cmd :=
  if len < 4 then none
  else some ⟨type <<< 4 ||| BitVec.ofNat 8 domainInternal, 0, 0, 0⟩

/-- What a call, or the thread, does to the things both see.  The two run at the same time, so the
effects of one can come between those of the other. -/
inductive Effect where
  /-- A message is written to the pipe of the thread. -/
  | threadWrite (msg : Cmd)
  /-- A message is written to the control pipe. -/
  | controlWrite (msg : Cmd)
  /-- `priv_change_state` -/
  | changeState (newState : DummyState)
  | setDlActive (dlActive : Bool)
  | setThreadRunning (threadRunning : ThreadRunning)
  deriving DecidableEq, Repr

/-- A call in progress: the protocol state, and what has been done so far. -/
structure ClientCall where
  bcstate : BcState
  effects : List Effect

namespace ClientCall

/-- Update the protocol state of the call in progress. -/
def modBc (x : ClientCall) (f : BcState → BcState) : ClientCall :=
  { x with bcstate := f x.bcstate }

/-- One effect more, to be done after those that are to be done already. -/
def emit (x : ClientCall) (e : Effect) : ClientCall := { x with effects := x.effects ++ [e] }

section
variable (x : ClientCall) (f : BcState → BcState) (e : Effect)

@[simp] theorem modBc_bcstate : (x.modBc f).bcstate = f x.bcstate := rfl
@[simp] theorem emit_bcstate : (x.emit e).bcstate = x.bcstate := rfl
@[simp] theorem emit_effects : (x.emit e).effects = x.effects ++ [e] := rfl

end

/-! ### The common code -/

section
variable (res : ℤ)

/-- `cmtspeech_bc_write_command`, on the pipe of the thread; `post` is what runs after a message
has been written, and `res` what `write` returns. -/
def bcWriteCommand (post : Cmd → ClientCall → ClientCall) (msg : Cmd) (x : ClientCall) :
    ℤ × ClientCall :=
  if res = ctrlLen then
    let x := x.emit (.threadWrite msg)
    (res, (if msgGetDomain msg ≠ domainInternal then post msg x else x).modBc BcState.written)
  else (res, x.modBc BcState.unwritten)

/-- `cmtspeech_bc_send_timing_request`, which is all that `cmtspeech_send_timing_request` does. -/
def bcSendTimingRequest (post : Cmd → ClientCall → ClientCall) (x : ClientCall) :
    ℤ × ClientCall :=
  let r := bcWriteCommand res post msgEncodeNewTimingConfigReq x
  if r.1 ≠ ctrlLen then (-1, r.2)
  else (0, r.2.modBc fun s => s.privStateChangeTo none .timing)

/-- `cmtspeech_bc_send_ssi_config_request`, which is all that `cmtspeech_send_ssi_config_request`
does. -/
def bcSendSsiConfigRequest (post : Cmd → ClientCall → ClientCall) (stateArg : Bool)
    (x : ClientCall) : ℤ × ClientCall :=
  if stateArg = false ∧ x.bcstate.privState = .disconnecting then (-1, x)
  else
    let x := x.modBc fun s =>
      s.privStateChangeTo none (if stateArg then .connecting else .disconnecting)
    let r := bcWriteCommand res post (ssiConfigRequest x.bcstate stateArg) x
    if r.1 ≠ ctrlLen then (-1, r.2.modBc fun s => s.privStateChangeTo none .inSync)
    else (0, r.2)

/-- The text of `cmtspeech_bc_post_command`; `post` is the function itself. -/
def postCommandBody (post : Cmd → ClientCall → ClientCall) (cmd : Cmd) (x : ClientCall) :
    ClientCall :=
  if msgGetDomain cmd = domainControl then
    if msgGetType cmd = resetConnReq then
      x.modBc fun s => s.privStateChangeTo (some .invalid) .inSync
    else if msgGetType cmd = speechConfigResp then
      if msgDecodeSpeechConfigResp cmd ≠ 0 then
        x.modBc fun s => s.privStateChangeTo none .inSync
      else if x.bcstate.protoState = .connected then
        if x.bcstate.privState = .configActPend then
          (bcSendTimingRequest res post
            (x.modBc fun s => s.privStateChangeTo (some .activeDl) .inSync)).2
        else x
      else if x.bcstate.protoState = .activeDl ∨ x.bcstate.protoState = .activeDlul then
        if x.bcstate.privState = .configActPend then
          if x.bcstate.protoState = .activeDlul then
            x.modBc fun s => s.privStateChangeTo (some .activeDl) .inSync
          else x
        else if x.bcstate.privState = .configDeactPend then
          let x := x.modBc fun s => s.privStateChangeTo (some .connected) .inSync
          if x.bcstate.callServerActive ≠ true then (bcSendSsiConfigRequest res post false x).2
          else x
        else x
      else x
    else x
  else x

/-- `cmtspeech_bc_post_command`: the messages written there need no post-processing in turn. -/
def bcPostCommand : Cmd → ClientCall → ClientCall :=
  postCommandBody res (postCommandBody res fun _ x => x)

/-- `cmtspeech_state_change_error`: not implemented. -/
def stateChangeError (x : ClientCall) : ℤ × ClientCall := (-1, x)

/-- The branch of `cmtspeech_bc_handle_command` for `SSI_CONFIG_RESP`. -/
def bcHandleSsiConfigResp (resp : SsiConfigResp) (x : ClientCall) : ClientCall :=
  if resp.result = ssiConfigResSuccess then
    if x.bcstate.privState = .connecting then
      x.modBc fun s =>
        { s.privStateChangeTo (some .connected) .inSync with
          sampleLayout := if (resp.layout.toNat : ℤ) = sampleLayoutNoPref then sampleLayoutSwappedLe
            else resp.layout.toNat }
    else if x.bcstate.privState = .disconnecting then
      x.modBc BcState.privResetStateToDisconnected
    else if x.bcstate.privState = .ssiConfigPend then
      if x.bcstate.callServerActive then
        (bcSendSsiConfigRequest res (bcPostCommand res) true x).2.modBc fun s =>
          s.privStateChangeTo (some .disconnected) .connecting
      else
        (bcSendSsiConfigRequest res (bcPostCommand res) false x).2.modBc fun s =>
          s.privStateChangeTo (some .connected) .disconnecting
    else x
  else
    (stateChangeError
      (if x.bcstate.privState = .connecting ∨ x.bcstate.privState = .disconnecting then
        x.modBc fun s => s.privStateChangeTo none .inSync
      else x)).2

/-- `cmtspeech_bc_handle_command`: the result, the event and the new state. -/
def bcHandleCommand (inbuf : Cmd) (x : ClientCall) : ℤ × Event × ClientCall :=
  let type := msgGetType inbuf
  let event := newEvent type .none x.bcstate
  if type = speechConfigReq then
    let req := msgDecodeSpeechConfigReq inbuf
    (0, { event with msg := .speechConfigReq req false },
      x.modBc fun s => s.privStateChangeTo none
        (if req.speechDataStream ≠ 0 then .configActPend else .configDeactPend))
  else if type = uplinkConfigNtf then
    (0, event, x.modBc fun s =>
      if s.protoState = .activeDl then s.privStateChangeTo (some .activeDlul) .inSync else s)
  else if type = timingConfigNtf then
    let t := msgDecodeTimingConfigNtf inbuf
    (0, { event with msg := .timingConfigNtf t.1 t.2 ⟨0, 0⟩ }, x.modBc bcHandleTimingConfigNtf)
  else if type = ssiConfigResp then
    let resp := msgDecodeSsiConfigResp inbuf
    (0, { event with msg := .ssiConfigResp resp 0 }, bcHandleSsiConfigResp res resp x)
  else if type = resetConnReq then
    (0, { event with msgType := eventReset, msg := .resetDone 1 },
      x.modBc BcState.privResetStateToDisconnected)
  else if type = resetConnResp then
    (0, { event with msgType := eventReset, msg := .resetDone 0 },
      if x.bcstate.privState = .resetBeforeConnect then
        (bcSendSsiConfigRequest res (bcPostCommand res) true
          (x.modBc BcState.privResetStateToDisconnected)).2
      else x.modBc BcState.privResetStateToDisconnected)
  else if type = testRampPing then (0, event, x)
  else (-1, event, x)

/-- The branch of `cmtspeech_bc_state_change_call_status` for a call that ended. -/
def bcCallTerminated (x : ClientCall) : ClientCall :=
  if x.bcstate.privState = .configDeactPend then
    x.modBc fun s => { s with ioErrors := s.ioErrors + 1 }
  else if x.bcstate.protoState = .connected then
    (bcSendSsiConfigRequest res (bcPostCommand res) false x).2
  else if x.bcstate.privState = .connecting then
    x.modBc fun s => s.privStateChangeTo none .ssiConfigPend
  else x

/-- The branch of `cmtspeech_bc_state_change_call_status` for a call that started. -/
def bcCallStarted (x : ClientCall) : ClientCall :=
  if x.bcstate.protoState = .disconnected then
    (bcSendSsiConfigRequest res (bcPostCommand res) true x).2
  else if x.bcstate.protoState = .connected ∧ x.bcstate.privState = .disconnecting then
    x.modBc fun s => s.privStateChangeTo none .ssiConfigPend
  else if x.bcstate.protoState = .invalid ∨ x.bcstate.protoState = .testRampPingActive then
    (stateChangeError x).2.modBc fun s => s.privStateChangeTo none .resetBeforeConnect
  else if x.bcstate.protoState = .activeDl ∨ x.bcstate.protoState = .activeDlul then
    if x.bcstate.callServerActive then x
    else if x.bcstate.ioErrors > 0 then
      (bcSendSsiConfigRequest res (bcPostCommand res) true
        (x.modBc BcState.privResetStateToDisconnected)).2
    else x
  else x

/-- `cmtspeech_bc_state_change_call_status`, as it is linked into the dummy backend. -/
def bcStateChangeCallStatus (serverState : Bool) (x : ClientCall) : ℤ × ClientCall :=
  let x := if serverState ≠ true then bcCallTerminated res x else bcCallStarted res x
  (0, x.modBc fun s => { s with callServerActive := serverState })

/-- `cmtspeech_bc_state_change_call_connect`, as it is linked into the dummy backend. -/
def bcStateChangeCallConnect (connectState : Bool) (x : ClientCall) : ℤ × ClientCall :=
  (0, x.modBc fun s => { s with callConnected := connectState })

/-- `cmtspeech_set_wb_preference`: the version of the next connection, refused while there is
one. -/
def setWbPreference (enabled : Bool) (x : ClientCall) : ℤ × ClientCall :=
  if x.bcstate.isSsiConnectionEnabled then (-1, x)
  else (0, x.modBc fun s => { s with confProtoVersion := if enabled then 2 else 1 })

/-- `cmtspeech_bc_test_data_ramp_req`: it is written to the thread, which does not answer it. -/
def bcTestDataRampReq (channel replychannel rampstart ramplen : BitVec 8) (x : ClientCall) :
    ℤ × ClientCall :=
  if x.bcstate.protoState ≠ .disconnected then (-1, x)
  else
    let msg := msgEncodeTestRampPing ⟨channel, replychannel, rampstart, ramplen⟩
    let r := bcWriteCommand res (bcPostCommand res) msg x
    if r.1 ≠ ctrlLen then (-1, r.2)
    else (0, r.2.modBc fun s => s.privStateChangeTo (some .testRampPingActive) .inSync)

end

/-! ### The functions of the backend -/

/-- `priv_emit_speech_config_req`; `controlWrite` says whether the message gets into the pipe. -/
def privEmitSpeechConfigReq (controlWrite : Bool) (speechData userConnect : BitVec 8)
    (x : ClientCall) : ClientCall :=
  if controlWrite then x.emit (.controlWrite (Dummy.speechConfigReqMsg speechData userConnect))
  else x

/-- `cmtspeech_read_event`, for the message `msg` in the buffer: the result, the event and what
it does. -/
def readEvent (k : DummyKernel) (msg : Cmd) (x : ClientCall) : ℤ × Event × ClientCall :=
  let h := bcHandleCommand k.threadWrite msg x
  let event := h.2.1
  let x := h.2.2
  let x :=
    if event.msgType = ssiConfigResp then
      -- enable the downlink
      if x.bcstate.protoState = .connected then privEmitSpeechConfigReq k.controlWrite 1 1 x
      else x
    else if event.msgType = speechConfigReq then
      (bcPostCommand k.threadWrite (msgEncodeSpeechConfigResp 0) x).emit (.setDlActive true)
    else x
  let event := { event with state := x.bcstate.protoState }
  (h.1, event,
    if event.state = .connected ∧ event.prevState = .disconnected then
      x.emit (.changeState .mediaFlowing)
    else x)

/-- `cmtspeech_state_change_call_status`; `callServerStatus` is the field of that name, which is
`status` afterwards. -/
def stateChangeCallStatus (k : DummyKernel) (callServerStatus status : Bool) (x : ClientCall) :
    ℤ × ClientCall :=
  let r := bcStateChangeCallStatus k.threadWrite status x
  let x := if status then r.2 else r.2.emit (.setDlActive false)
  (r.1,
    if callServerStatus ≠ status then
      if status then x.emit (.changeState .initialized)
      else
        let x := x.emit (.changeState .terminating)
        if x.bcstate.protoState = .activeDl ∨ x.bcstate.protoState = .activeDlul then
          privEmitSpeechConfigReq k.controlWrite 0 0 x
        else x
    else x)

/-- `cmtspeech_state_change_call_connect`: `dl_active` is set with the connect state. -/
def stateChangeCallConnect (state : Bool) (x : ClientCall) : ℤ × ClientCall :=
  bcStateChangeCallConnect state (x.emit (.setDlActive state))

/-- `cmtspeech_test_data_ramp_req`, on the two channels that the common code expects. -/
def testDataRampReq (k : DummyKernel) (rampstart ramplen : BitVec 8) (x : ClientCall) :
    ℤ × ClientCall :=
  bcTestDataRampReq k.threadWrite (BitVec.ofNat 8 domainControl) (BitVec.ofNat 8 domainData)
    rampstart ramplen x

/-- `cmtspeech_close`, until it waits for the thread: the thread has been started by then. -/
def close (x : ClientCall) : ClientCall :=
  let x := x.emit (.setThreadRunning .exitReq)
  match msgEncodeDummyInternalMessage ctrlLen (BitVec.ofNat 8 dummyExitRequest) with
  | some msg => x.emit (.threadWrite msg)
  | none => x

/-! ### The protocol state

The messages that are written do not move the protocol state: with the effects left out, the
common code is that of `Dummy`. -/

section
variable (res : ℤ) {post : Cmd → ClientCall → ClientCall} {post' : Cmd → BcState → BcState}

theorem bcWriteCommand_bcstate (h : ∀ cmd x, (post cmd x).bcstate = post' cmd x.bcstate)
    (msg : Cmd) (x : ClientCall) :
    (bcWriteCommand res post msg x).1 = (Dummy.bcWriteCommand res post' msg x.bcstate).1 ∧
      (bcWriteCommand res post msg x).2.bcstate =
        (Dummy.bcWriteCommand res post' msg x.bcstate).2 := by
  unfold bcWriteCommand Dummy.bcWriteCommand
  by_cases hres : res = ctrlLen
  · rw [if_pos hres, if_pos hres]
    refine ⟨rfl, ?_⟩
    show BcState.written (ClientCall.bcstate _) = _
    by_cases hd : msgGetDomain msg ≠ domainInternal
    · rw [if_pos hd, if_pos hd, h]
      rfl
    · rw [if_neg hd, if_neg hd]
      rfl
  · rw [if_neg hres, if_neg hres]
    exact ⟨rfl, rfl⟩

theorem bcSendTimingRequest_bcstate (h : ∀ cmd x, (post cmd x).bcstate = post' cmd x.bcstate)
    (x : ClientCall) :
    (bcSendTimingRequest res post x).2.bcstate =
      (Dummy.bcSendTimingRequest res post' x.bcstate).2 := by
  obtain ⟨hfst, hsnd⟩ := bcWriteCommand_bcstate res h msgEncodeNewTimingConfigReq x
  unfold bcSendTimingRequest Dummy.bcSendTimingRequest
  dsimp only
  rw [hfst]
  split
  · exact hsnd
  · exact congrArg (BcState.privStateChangeTo · none .timing) hsnd

theorem bcSendSsiConfigRequest_bcstate (h : ∀ cmd x, (post cmd x).bcstate = post' cmd x.bcstate)
    (stateArg : Bool) (x : ClientCall) :
    (bcSendSsiConfigRequest res post stateArg x).2.bcstate =
      (Dummy.bcSendSsiConfigRequest res post' stateArg x.bcstate).2 := by
  unfold bcSendSsiConfigRequest Dummy.bcSendSsiConfigRequest
  split
  · rfl
  · generalize (if stateArg then PrivState.connecting else .disconnecting) = p
    obtain ⟨hfst, hsnd⟩ := bcWriteCommand_bcstate res h
      (ssiConfigRequest (x.bcstate.privStateChangeTo none p) stateArg)
      (x.modBc fun s => s.privStateChangeTo none p)
    simp only [modBc_bcstate, hfst]
    split
    · exact congrArg (BcState.privStateChangeTo · none .inSync) hsnd
    · exact hsnd

theorem postCommandBody_bcstate (h : ∀ cmd x, (post cmd x).bcstate = post' cmd x.bcstate)
    (cmd : Cmd) (x : ClientCall) :
    (postCommandBody res post cmd x).bcstate = Dummy.postCommandBody res post' cmd x.bcstate := by
  have htiming := bcSendTimingRequest_bcstate res h
    (x.modBc fun s => s.privStateChangeTo (some .activeDl) .inSync)
  have hssi := bcSendSsiConfigRequest_bcstate res h false
    (x.modBc fun s => s.privStateChangeTo (some .connected) .inSync)
  rw [modBc_bcstate] at htiming hssi
  unfold postCommandBody Dummy.postCommandBody
  dsimp only
  rw [← htiming, ← hssi]
  split_ifs with _ _ _ _ _ _ _ _ _ _ h₁ h₂ h₂
  all_goals first | rfl | exact absurd h₂ h₁ | exact absurd h₁ h₂

theorem bcPostCommand_bcstate (cmd : Cmd) (x : ClientCall) :
    (bcPostCommand res cmd x).bcstate = Dummy.bcPostCommand res cmd x.bcstate :=
  postCommandBody_bcstate res (postCommandBody_bcstate res fun _ _ => rfl) cmd x

theorem bcHandleSsiConfigResp_bcstate (resp : SsiConfigResp) (x : ClientCall) :
    (bcHandleSsiConfigResp res resp x).bcstate =
      Dummy.bcHandleSsiConfigResp res resp x.bcstate := by
  have hssi (b : Bool) := bcSendSsiConfigRequest_bcstate res
    (bcPostCommand_bcstate res) b x
  unfold bcHandleSsiConfigResp Dummy.bcHandleSsiConfigResp stateChangeError Dummy.stateChangeError
  dsimp only
  rw [← hssi, ← hssi]
  split_ifs <;> rfl

/-- The result, the event and the protocol state are those of `Dummy.bcHandleCommand`. -/
theorem bcHandleCommand_eq (inbuf : Cmd) (x : ClientCall) :
    ((bcHandleCommand res inbuf x).1, (bcHandleCommand res inbuf x).2.1,
        (bcHandleCommand res inbuf x).2.2.bcstate) =
      Dummy.bcHandleCommand res inbuf x.bcstate := by
  have hssi := bcSendSsiConfigRequest_bcstate res
    (bcPostCommand_bcstate res) true (x.modBc BcState.privResetStateToDisconnected)
  have hresp := bcHandleSsiConfigResp_bcstate res (msgDecodeSsiConfigResp inbuf) x
  rw [modBc_bcstate] at hssi
  unfold bcHandleCommand Dummy.bcHandleCommand
  dsimp only
  rw [← hssi, ← hresp]
  split_ifs <;> simp [*]

/-- An SSI request leaves the protocol state that it leaves in the other backend. -/
theorem sendSsiConfigRequest_common {k : Kernel} (hk : ∀ n, (k.write n).res = res) (state : Bool)
    {x : ClientCall} {m : Machine} (hx : x.bcstate = m.bcstate) :
    (bcSendSsiConfigRequest res (bcPostCommand res) state x).2.bcstate =
      (sendSsiConfigRequest k (CmtSpeech.bcPostCommand k) state m).2.bcstate := by
  rw [bcSendSsiConfigRequest_bcstate res (bcPostCommand_bcstate res), hx,
    Dummy.sendSsiConfigRequest_common hk (Dummy.bcPostCommand_common hk)]

theorem bcCallTerminated_common {k : Kernel} (hk : ∀ n, (k.write n).res = res)
    {x : ClientCall} {m : Machine} (hx : x.bcstate = m.bcstate) :
    (bcCallTerminated res x).bcstate = (CmtSpeech.bcCallTerminated k m).bcstate := by
  have hssi := sendSsiConfigRequest_common res hk false hx
  unfold bcCallTerminated CmtSpeech.bcCallTerminated
  rw [hx]
  split_ifs
  · simp only [modBc_bcstate, Machine.modBc_bcstate, hx]
  · exact hssi
  · simp only [modBc_bcstate, Machine.modBc_bcstate, hx]
  · exact hx

theorem bcCallStarted_common {k : Kernel} (hk : ∀ n, (k.write n).res = res)
    {x : ClientCall} {m : Machine} (hx : x.bcstate = m.bcstate)
    (hs : m.bcstate.protoState ≠ .invalid ∧ m.bcstate.protoState ≠ .testRampPingActive) :
    (bcCallStarted res x).bcstate = (CmtSpeech.bcCallStarted k m).bcstate := by
  have hreset : (x.modBc BcState.privResetStateToDisconnected).bcstate =
      (m.modBc BcState.privResetStateToDisconnected).bcstate := by
    rw [modBc_bcstate, Machine.modBc_bcstate, hx]
  have hno : ¬ (m.bcstate.protoState = .invalid ∨ m.bcstate.protoState = .testRampPingActive) :=
    not_or.mpr hs
  unfold bcCallStarted CmtSpeech.bcCallStarted
  rw [hx, if_neg hno, if_neg hno]
  split_ifs
  · exact sendSsiConfigRequest_common res hk true hx
  · simp only [modBc_bcstate, Machine.modBc_bcstate, hx]
  · exact hx
  · exact sendSsiConfigRequest_common res hk true hreset
  · exact hx
  · exact hx

/-- **Both backends take the call status in the same way**, unless a call starts in `INVALID` or
in `TEST_RAMP_PING_ACTIVE`: there the other backend sends a reset first, and this one cannot. -/
theorem bcStateChangeCallStatus_common {k : Kernel} (hk : ∀ n, (k.write n).res = res)
    {serverState : Bool} {x : ClientCall} {m : Machine} (hx : x.bcstate = m.bcstate)
    (hs : serverState = true →
      m.bcstate.protoState ≠ .invalid ∧ m.bcstate.protoState ≠ .testRampPingActive) :
    (bcStateChangeCallStatus res serverState x).2.bcstate =
      (CmtSpeech.bcStateChangeCallStatus k serverState m).2.bcstate := by
  have hx' : x.bcstate = (m.emit (.callStatus serverState)).bcstate := hx
  unfold bcStateChangeCallStatus CmtSpeech.bcStateChangeCallStatus
  dsimp only
  rw [modBc_bcstate, Machine.modBc_bcstate]
  cases serverState with
  | false => rw [if_pos (by decide), if_pos (by decide), bcCallTerminated_common res hk hx']
  | true =>
    rw [if_neg (by decide), if_neg (by decide), bcCallStarted_common res hk hx' (hs rfl)]

end

/-! ### Writing to the pipe of the thread -/

section
variable (res : ℤ) (post : Cmd → ClientCall → ClientCall) (msg : Cmd) (x : ClientCall)

/-- A message goes to the pipe of the thread, if the pipe takes it.  This is all that writing a
message comes to that needs no post-processing. -/
def asks : ClientCall :=
  if res = ctrlLen then (x.emit (.threadWrite msg)).modBc BcState.written
  else x.modBc BcState.unwritten

/-- Messages other than `RESET_CONN_REQ` and `SPEECH_CONFIG_RESP` need no post-processing. -/
theorem bcWriteCommand_leaf {msg : Cmd} (h₁ : msgGetType msg ≠ resetConnReq)
    (h₂ : msgGetType msg ≠ speechConfigResp) :
    bcWriteCommand res (postCommandBody res post) msg x = (res, x.asks res msg) := by
  have hpost (x : ClientCall) : postCommandBody res post msg x = x := by
    rw [postCommandBody, if_neg h₁, if_neg h₂, ite_self]
  unfold bcWriteCommand asks
  by_cases hres : res = ctrlLen
  · rw [if_pos hres, if_pos hres]
    dsimp only
    rw [hpost, ite_self]
  · rw [if_neg hres, if_neg hres]

/-- A timing request: one message to the thread, and the mark that an answer is awaited; nothing
of both when the write fails. -/
theorem bcSendTimingRequest_eq :
    (bcSendTimingRequest res (postCommandBody res post) x).2 =
      if res = ctrlLen then
        (x.emit (.threadWrite msgEncodeNewTimingConfigReq)).modBc fun s =>
          s.written.privStateChangeTo none .timing
      else x.modBc BcState.unwritten := by
  have h₁ : msgGetType msgEncodeNewTimingConfigReq ≠ resetConnReq := by decide
  have h₂ : msgGetType msgEncodeNewTimingConfigReq ≠ speechConfigResp := by decide
  unfold bcSendTimingRequest
  rw [bcWriteCommand_leaf res post x h₁ h₂, asks]
  by_cases hres : res = ctrlLen
  · simp only [hres, ne_eq, not_true_eq_false, if_false, if_true]
    rfl
  · simp only [hres, ne_eq, not_false_eq_true, if_false, if_true]

/-- An SSI request that is not sent twice: one message to the thread, and the mark of the request;
a write that fails leaves IN_SYNC. -/
theorem bcSendSsiConfigRequest_eq {stateArg : Bool}
    (h : stateArg = true ∨ x.bcstate.privState ≠ .disconnecting) :
    (bcSendSsiConfigRequest res (postCommandBody res post) stateArg x).2 =
      if res = ctrlLen then
        (x.emit (.threadWrite (ssiConfigRequest x.bcstate stateArg))).modBc fun s =>
          (s.privStateChangeTo none (if stateArg then .connecting else .disconnecting)).written
      else x.modBc fun s => s.unwritten.privStateChangeTo none .inSync := by
  -- The one refusal of the function, the end of a connection that is being ended, is excluded.
  have hneg : ¬ (stateArg = false ∧ x.bcstate.privState = .disconnecting) := by
    rintro ⟨hf, hp⟩
    rcases h with h | h
    · exact absurd (h.symm.trans hf) (by decide)
    · exact h hp
  have h₁ (s : BcState) : msgGetType (ssiConfigRequest s stateArg) ≠ resetConnReq := by
    rw [ssiConfigRequest, msgGetType_ssiConfigReq]
    decide
  have h₂ (s : BcState) : msgGetType (ssiConfigRequest s stateArg) ≠ speechConfigResp := by
    rw [ssiConfigRequest, msgGetType_ssiConfigReq]
    decide
  unfold bcSendSsiConfigRequest
  rw [if_neg hneg]
  dsimp only
  rw [bcWriteCommand_leaf res post _ (h₁ _) (h₂ _), asks]
  by_cases hres : res = ctrlLen
  · simp only [hres, ne_eq, not_true_eq_false, if_false, if_true]
    rfl
  · simp only [hres, ne_eq, not_false_eq_true, if_false, if_true]
    rfl

end

/-- The common code does nothing the thread sees but to write to its pipe. -/
def OnlyAsks (x y : ClientCall) : Prop :=
  ∃ msgs : List Cmd, y.effects = x.effects ++ msgs.map .threadWrite

namespace OnlyAsks

variable {x y : ClientCall}

theorem of_eq (h : y.effects = x.effects) : OnlyAsks x y :=
  ⟨[], by rw [List.map_nil, List.append_nil, h]⟩

theorem of_emit {msg : Cmd} (h : y.effects = x.effects ++ [.threadWrite msg]) : OnlyAsks x y :=
  ⟨[msg], h⟩

theorem modBc (h : OnlyAsks x y) (f : BcState → BcState) : OnlyAsks x (y.modBc f) := h

variable (res : ℤ) (post : Cmd → ClientCall → ClientCall)

theorem bcSendTimingRequest (x : ClientCall) (f : BcState → BcState) :
    OnlyAsks x (bcSendTimingRequest res (postCommandBody res post) (x.modBc f)).2 := by
  rw [bcSendTimingRequest_eq]
  split
  · exact of_emit rfl
  · exact of_eq rfl

theorem bcSendSsiConfigRequest (stateArg : Bool) (x : ClientCall) (f : BcState → BcState) :
    OnlyAsks x (bcSendSsiConfigRequest res (postCommandBody res post) stateArg (x.modBc f)).2 := by
  by_cases h : stateArg = true ∨ (x.modBc f).bcstate.privState ≠ .disconnecting
  · rw [bcSendSsiConfigRequest_eq res post _ h]
    split
    · exact of_emit rfl
    · exact of_eq rfl
  · have hpend : stateArg = false ∧ (x.modBc f).bcstate.privState = .disconnecting := by
      simpa using h
    unfold ClientCall.bcSendSsiConfigRequest
    rw [if_pos hpend]
    exact of_eq rfl

theorem bcPostCommand (cmd : Cmd) (x : ClientCall) : OnlyAsks x (bcPostCommand res cmd x) := by
  unfold ClientCall.bcPostCommand
  rw [postCommandBody]
  dsimp only
  split_ifs
  any_goals exact of_eq rfl
  · exact bcSendTimingRequest res _ x _
  · exact bcSendSsiConfigRequest res _ false x _

theorem bcHandleSsiConfigResp (resp : SsiConfigResp) (x : ClientCall) :
    OnlyAsks x (bcHandleSsiConfigResp res resp x) := by
  unfold ClientCall.bcHandleSsiConfigResp stateChangeError
  dsimp only
  split_ifs
  any_goals exact of_eq rfl
  · exact (bcSendSsiConfigRequest res _ true x id).modBc _
  · exact (bcSendSsiConfigRequest res _ false x id).modBc _

theorem bcHandleCommand (inbuf : Cmd) (x : ClientCall) :
    OnlyAsks x (bcHandleCommand res inbuf x).2.2 := by
  unfold ClientCall.bcHandleCommand
  dsimp only
  split_ifs
  any_goals exact of_eq rfl
  · exact bcHandleSsiConfigResp res _ x
  · exact bcSendSsiConfigRequest res _ true x _

end OnlyAsks

end ClientCall

/-! ### The effects of `cmtspeech_read_event` -/

/-- What an effect does to the fields of `Dummy`. -/
def Dummy.perform (d : Dummy) : Effect → Dummy
  | .controlWrite msg => { d with controlPipe := d.controlPipe ++ [msg] }
  | .changeState newState => d.privChangeState newState
  | .setDlActive dlActive => { d with dlActive }
  | .threadWrite _ => d
  | .setThreadRunning _ => d

/-- The fields of `Dummy` when the effects of a call have taken place. -/
def Dummy.after (d : Dummy) (x : ClientCall) : Dummy :=
  { x.effects.foldl perform d with bcstate := x.bcstate }

theorem Dummy.after_emit (d : Dummy) (x : ClientCall) (e : Effect) :
    d.after (x.emit e) = (d.after x).perform e := by
  rw [after, ClientCall.emit_effects, List.foldl_append]
  cases e <;> rfl

/-- Messages to the thread do not show in the queue: they go through the other pipe. -/
theorem Dummy.after_asks (d : Dummy) {x y : ClientCall} (h : x.OnlyAsks y) :
    d.after y = { d.after x with bcstate := y.bcstate } := by
  obtain ⟨msgs, heffects⟩ := h
  have hasks (d : Dummy) : (msgs.map Effect.threadWrite).foldl perform d = d := by
    clear heffects
    induction msgs with
    | nil => rfl
    | cons msg msgs ih => exact ih
  rw [after, heffects, List.foldl_append, hasks]
  rfl

/-- **`cmtspeech_read_event` is `Dummy.process`**, when its effects take place at once. -/
theorem ClientCall.readEvent_process (d : Dummy) (k : DummyKernel) (msg : Cmd) :
    ((readEvent k msg ⟨d.bcstate, []⟩).1, (readEvent k msg ⟨d.bcstate, []⟩).2.1,
        d.after (readEvent k msg ⟨d.bcstate, []⟩).2.2) = d.process k msg := by
  have hhandle := bcHandleCommand_eq k.threadWrite msg ⟨d.bcstate, []⟩
  have hasks := d.after_asks (OnlyAsks.bcHandleCommand k.threadWrite msg ⟨d.bcstate, []⟩)
  unfold readEvent Dummy.process Dummy.emits
  dsimp only at hhandle ⊢
  rw [← hhandle]
  dsimp only
  generalize bcHandleCommand k.threadWrite msg ⟨d.bcstate, []⟩ = h at hasks ⊢
  obtain ⟨res, event, x⟩ := h
  have hx : d.after x = { d with bcstate := x.bcstate } := hasks
  -- what comes before the state of the backend changes
  have hend {y : ClientCall} {d' : Dummy} (hy : d.after y = d') (event : Event) :
      (res, { event with state := y.bcstate.protoState },
        d.after (if y.bcstate.protoState = .connected ∧ event.prevState = .disconnected then
          y.emit (.changeState .mediaFlowing) else y)) =
      (res, { event with state := d'.bcstate.protoState },
        if d'.bcstate.protoState = .connected ∧ event.prevState = .disconnected then
          d'.privChangeState .mediaFlowing else d') := by
    subst hy
    show _ = (res, { event with state := y.bcstate.protoState },
      if y.bcstate.protoState = .connected ∧ event.prevState = .disconnected then
        (d.after y).privChangeState .mediaFlowing else d.after y)
    split
    · rw [Dummy.after_emit]
      rfl
    · rfl
  refine hend ?_ event
  dsimp only
  by_cases hssi : event.msgType = ssiConfigResp
  · have hne : ¬ event.msgType = speechConfigReq := by
      rw [hssi]
      decide
    rw [if_pos hssi, if_neg hne]
    unfold privEmitSpeechConfigReq
    by_cases hconn : x.bcstate.protoState = .connected
    · rw [if_pos hconn]
      by_cases hk : k.controlWrite
      · rw [if_pos hk, if_pos ⟨hssi, hconn, hk⟩, Dummy.after_emit, hx]
        rfl
      · rw [if_neg hk, if_neg (fun h => hk h.2.2), List.append_nil, hx]
    · rw [if_neg hconn, if_neg (fun h => hconn h.2.1), List.append_nil, hx]
  · rw [if_neg hssi]
    by_cases hspeech : event.msgType = speechConfigReq
    · rw [if_pos hspeech, if_pos hspeech, if_neg (fun h => hssi h.1), List.append_nil,
        Dummy.after_emit, d.after_asks (OnlyAsks.bcPostCommand k.threadWrite _ x),
        bcPostCommand_bcstate, hx]
      rfl
    · rw [if_neg hspeech, if_neg hspeech, if_neg (fun h => hssi h.1), List.append_nil, hx]

end CmtSpeech
