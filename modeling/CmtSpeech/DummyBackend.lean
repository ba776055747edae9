import CmtSpeech.BackendCommon
import CmtSpeech.Lib.Lts
import CmtSpeech.Memory

/-!
# The dummy backend

`cmtspeech_dummy.c`, a backend in user space: a thread stands for the modem, and sends its control
messages through a pipe.  `cmtspeech_check_pending` moves them to the buffer `pubbuf`, from where
`cmtspeech_read_event` takes them.  The common code of `cmtspeech_backend_common.c` touches no
more than the protocol state here, since messages to the modem go to another pipe.

* `Dummy` — `struct cmtspeech_dummy_s`, as far as the event functions use it.
* `Dummy.checkPending`, `Dummy.readEvent`
* `dummyBackend` — the backend as a transition system.

The thread and the other calls of the application stand aside: what they may change is the
operation `elsewhere`.

## Main result

* `Dummy.bcHandleCommand_common` — the common code, written down here for a backend that is no
  more than a protocol state, does to that state what it does in `BackendCommon`.
-/

namespace CmtSpeech

abbrev salMsgBuffer : ℕ := 256

abbrev dummyDlDataAvail : ℕ := 0x01

abbrev codecInfoGsmHr : BitVec 8 := 6
abbrev cellularInfoGsm : BitVec 8 := 0x01
abbrev dataFormatS16linpcm : BitVec 8 := 0x01

/-- The values of the field `state` of `struct dummy_state_s`. -/
inductive DummyState where
  /-- The call server is not active. -/
  | idle
  /-- The call has been activated on the side of the modem. -/
  | initialized
  /-- At least uplink frames are being sent. -/
  | mediaFlowing
  /-- Call termination has started. -/
  | terminating
  deriving DecidableEq, Repr

/-- `struct cmtspeech_dummy_s`, as far as the event functions use it. -/
structure Dummy where
  bcstate : BcState
  state : DummyState
  dlActive : Bool
  /-- The messages in the pipe `control_pipes`, the oldest one first. -/
  controlPipe : List Cmd
  pubbuf : ℕ → BitVec 8
  pubbufWrite : ℕ
  pubbufRead : ℕ

/-- What the system calls of one `cmtspeech_read_event` return; none makes two writes to a pipe. -/
structure DummyKernel where
  /-- The octets written to the pipe of the thread, or a negative value. -/
  threadWrite : ℤ
  /-- Whether a message gets into the control pipe. -/
  controlWrite : Bool

namespace Dummy

/-! ### The common code -/

section
variable (res : ℤ)

/-- `cmtspeech_bc_write_command`; `post` is what runs after a message has been written, and `res`
what `write` returns. -/
def bcWriteCommand (post : Cmd → BcState → BcState) (msg : Cmd) (s : BcState) : ℤ × BcState :=
  if res = ctrlLen then
    (res, (if msgGetDomain msg ≠ domainInternal then post msg s else s).written)
  else (res, s.unwritten)

/-- `cmtspeech_bc_send_timing_request`, which is all that `cmtspeech_send_timing_request` does. -/
def bcSendTimingRequest (post : Cmd → BcState → BcState) (s : BcState) : ℤ × BcState :=
  let r := bcWriteCommand res post msgEncodeNewTimingConfigReq s
  if r.1 ≠ ctrlLen then (-1, r.2) else (0, r.2.privStateChangeTo none .timing)

/-- `cmtspeech_bc_send_ssi_config_request`, which is all that `cmtspeech_send_ssi_config_request`
does. -/
def bcSendSsiConfigRequest (post : Cmd → BcState → BcState) (stateArg : Bool) (s : BcState) :
    ℤ × BcState :=
  if stateArg = false ∧ s.privState = .disconnecting then (-1, s)
  else
    let s := s.privStateChangeTo none (if stateArg then .connecting else .disconnecting)
    let r := bcWriteCommand res post (ssiConfigRequest s stateArg) s
    if r.1 ≠ ctrlLen then (-1, r.2.privStateChangeTo none .inSync) else (0, r.2)

/-- The text of `cmtspeech_bc_post_command`; `post` is the function itself. -/
def postCommandBody (post : Cmd → BcState → BcState) (cmd : Cmd) (s : BcState) : BcState :=
  if msgGetDomain cmd = domainControl then
    if msgGetType cmd = resetConnReq then s.privStateChangeTo (some .invalid) .inSync
    else if msgGetType cmd = speechConfigResp then
      if msgDecodeSpeechConfigResp cmd ≠ 0 then s.privStateChangeTo none .inSync
      else if s.protoState = .connected then
        if s.privState = .configActPend then
          (bcSendTimingRequest res post (s.privStateChangeTo (some .activeDl) .inSync)).2
        else s
      else if s.protoState = .activeDl ∨ s.protoState = .activeDlul then
        if s.privState = .configActPend then
          if s.protoState = .activeDlul then s.privStateChangeTo (some .activeDl) .inSync else s
        else if s.privState = .configDeactPend then
          let s := s.privStateChangeTo (some .connected) .inSync
          if s.callServerActive ≠ true then (bcSendSsiConfigRequest res post false s).2 else s
        else s
      else s
    else s
  else s

/-- `cmtspeech_bc_post_command`: the messages written there need no post-processing in turn. -/
def bcPostCommand : Cmd → BcState → BcState :=
  postCommandBody res (postCommandBody res fun _ s => s)

/-- `cmtspeech_state_change_error`: not implemented. -/
def stateChangeError (s : BcState) : ℤ × BcState := (-1, s)

/-- The branch of `cmtspeech_bc_handle_command` for `SSI_CONFIG_RESP`. -/
def bcHandleSsiConfigResp (resp : SsiConfigResp) (s : BcState) : BcState :=
  if resp.result = ssiConfigResSuccess then
    if s.privState = .connecting then
      { s.privStateChangeTo (some .connected) .inSync with
        sampleLayout := if (resp.layout.toNat : ℤ) = sampleLayoutNoPref then sampleLayoutSwappedLe
          else resp.layout.toNat }
    else if s.privState = .disconnecting then s.privResetStateToDisconnected
    else if s.privState = .ssiConfigPend then
      if s.callServerActive then
        (bcSendSsiConfigRequest res (bcPostCommand res) true s).2.privStateChangeTo
          (some .disconnected) .connecting
      else
        (bcSendSsiConfigRequest res (bcPostCommand res) false s).2.privStateChangeTo
          (some .connected) .disconnecting
    else s
  else
    (stateChangeError
      (if s.privState = .connecting ∨ s.privState = .disconnecting then
        s.privStateChangeTo none .inSync
      else s)).2

/-- `cmtspeech_bc_handle_command`: the result, the event and the new state. -/
def bcHandleCommand (inbuf : Cmd) (s : BcState) : ℤ × Event × BcState :=
  let type := msgGetType inbuf
  let event := newEvent type .none s
  if type = speechConfigReq then
    let req := msgDecodeSpeechConfigReq inbuf
    (0, { event with msg := .speechConfigReq req false },
      s.privStateChangeTo none
        (if req.speechDataStream ≠ 0 then .configActPend else .configDeactPend))
  else if type = uplinkConfigNtf then
    (0, event,
      if s.protoState = .activeDl then s.privStateChangeTo (some .activeDlul) .inSync else s)
  else if type = timingConfigNtf then
    let t := msgDecodeTimingConfigNtf inbuf
    (0, { event with msg := .timingConfigNtf t.1 t.2 ⟨0, 0⟩ }, bcHandleTimingConfigNtf s)
  else if type = ssiConfigResp then
    let resp := msgDecodeSsiConfigResp inbuf
    (0, { event with msg := .ssiConfigResp resp 0 }, bcHandleSsiConfigResp res resp s)
  else if type = resetConnReq then
    (0, { event with msgType := eventReset, msg := .resetDone 1 }, s.privResetStateToDisconnected)
  else if type = resetConnResp then
    (0, { event with msgType := eventReset, msg := .resetDone 0 },
      if s.privState = .resetBeforeConnect then
        (bcSendSsiConfigRequest res (bcPostCommand res) true s.privResetStateToDisconnected).2
      else s.privResetStateToDisconnected)
  else if type = testRampPing then (0, event, s)
  else (-1, event, s)

end

/-! ### One common code for both backends

`cmtspeech_backend_common.c` is compiled into both libraries, and was written down above once more,
for a backend whose only state is the protocol state.  What it does to that state is the same in
both, as long as `write` returns the same; the wakeline does not matter to it.  The backends
themselves differ in `cmtspeech_state_change_error`, which only an `SSI_CONFIG_RESP` with an error
comes to. -/

section
variable {k : Kernel} {res : ℤ} {post : Post} {post' : Cmd → BcState → BcState}

theorem bcWriteCommand_common (hk : ∀ n, (k.write n).res = res)
    (h : ∀ cmd m, (post cmd m).bcstate = post' cmd m.bcstate) (msg : Cmd) (m : Machine) :
    (CmtSpeech.bcWriteCommand k post msg m).1 = (bcWriteCommand res post' msg m.bcstate).1 ∧
      (CmtSpeech.bcWriteCommand k post msg m).2.bcstate =
        (bcWriteCommand res post' msg m.bcstate).2 := by
  unfold CmtSpeech.bcWriteCommand bcWriteCommand sysWrite
  dsimp only
  rw [hk]
  by_cases hres : res = ctrlLen
  · rw [if_pos hres, if_pos hres]
    refine ⟨rfl, ?_⟩
    show BcState.written (Machine.bcstate _) = _
    by_cases hd : msgGetDomain msg ≠ domainInternal
    · rw [if_pos hd, if_pos hd, h, Machine.syscall_bcstate]
    · rw [if_neg hd, if_neg hd, Machine.syscall_bcstate]
  · rw [if_neg hres, if_neg hres]
    exact ⟨rfl, rfl⟩

theorem sendTimingRequest_common (hk : ∀ n, (k.write n).res = res)
    (h : ∀ cmd m, (post cmd m).bcstate = post' cmd m.bcstate) (m : Machine) :
    (CmtSpeech.sendTimingRequest k post m).2.bcstate =
      (bcSendTimingRequest res post' m.bcstate).2 := by
  obtain ⟨hfst, hsnd⟩ := bcWriteCommand_common hk h msgEncodeNewTimingConfigReq m
  unfold CmtSpeech.sendTimingRequest CmtSpeech.bcSendTimingRequest bcSendTimingRequest
  dsimp only
  rw [hfst]
  split
  · exact hsnd
  · exact congrArg (BcState.privStateChangeTo · none .timing) hsnd

/-- The backend takes the wakeline first, which the dummy backend does not have. -/
theorem sendSsiConfigRequest_common (hk : ∀ n, (k.write n).res = res)
    (h : ∀ cmd m, (post cmd m).bcstate = post' cmd m.bcstate) (state : Bool) (m : Machine) :
    (CmtSpeech.sendSsiConfigRequest k post state m).2.bcstate =
      (bcSendSsiConfigRequest res post' state m.bcstate).2 := by
  -- The line is raised for the call and changes no field of the common state.
  have hline (m : Machine) : (privAcquireWakeline k wakelineCall m).2.bcstate = m.bcstate := by
    unfold privAcquireWakeline
    dsimp only
    split <;> rfl
  -- A write that is short takes `privState` back to IN_SYNC, in both texts.
  have hbc (m : Machine) : (CmtSpeech.bcSendSsiConfigRequest k post state m).2.bcstate =
      (bcSendSsiConfigRequest res post' state m.bcstate).2 := by
    unfold CmtSpeech.bcSendSsiConfigRequest bcSendSsiConfigRequest
    split
    · rfl
    · generalize (if state then PrivState.connecting else .disconnecting) = p
      obtain ⟨hfst, hsnd⟩ := bcWriteCommand_common hk h
        (ssiConfigRequest (m.bcstate.privStateChangeTo none p) state)
        (m.modBc fun s => s.privStateChangeTo none p)
      simp only [Machine.modBc_bcstate] at hfst hsnd
      simp only [Machine.modBc_bcstate, hfst]
      split
      · exact congrArg (BcState.privStateChangeTo · none .inSync) hsnd
      · exact hsnd
  unfold CmtSpeech.sendSsiConfigRequest
  rw [hbc]
  split
  · rw [hline]
  · rfl

theorem postCommandBody_common (hk : ∀ n, (k.write n).res = res)
    (h : ∀ cmd m, (post cmd m).bcstate = post' cmd m.bcstate) (cmd : Cmd) (m : Machine) :
    (CmtSpeech.postCommandBody k post cmd m).bcstate =
      postCommandBody res post' cmd m.bcstate := by
  have htiming := sendTimingRequest_common hk h
    (m.modBc fun s => s.privStateChangeTo (some .activeDl) .inSync)
  have hssi := sendSsiConfigRequest_common hk h false
    (m.modBc fun s => s.privStateChangeTo (some .connected) .inSync)
  rw [Machine.modBc_bcstate] at htiming hssi
  unfold CmtSpeech.postCommandBody postCommandBody
  dsimp only
  rw [← htiming, ← hssi]
  split_ifs with _ _ _ _ _ _ _ _ _ _ h₁ h₂ h₂
  all_goals first | rfl | exact absurd h₂ h₁ | exact absurd h₁ h₂

theorem bcPostCommand_common (hk : ∀ n, (k.write n).res = res) (cmd : Cmd) (m : Machine) :
    (CmtSpeech.bcPostCommand k cmd m).bcstate = bcPostCommand res cmd m.bcstate :=
  postCommandBody_common hk (postCommandBody_common hk fun _ _ => rfl) cmd m

theorem bcHandleSsiConfigResp_common (hk : ∀ n, (k.write n).res = res) {resp : SsiConfigResp}
    (hresp : resp.result = ssiConfigResSuccess) (m : Machine) :
    (CmtSpeech.bcHandleSsiConfigResp k resp m).bcstate =
      bcHandleSsiConfigResp res resp m.bcstate := by
  have hssi (state : Bool) :=
    sendSsiConfigRequest_common hk (bcPostCommand_common hk) state m
  unfold CmtSpeech.bcHandleSsiConfigResp bcHandleSsiConfigResp
  rw [if_pos hresp, if_pos hresp, ← hssi, ← hssi]
  split_ifs <;> rfl

/-- **Both backends handle a message in the same way**: the result, the event and the protocol
state are the same, unless an `SSI_CONFIG_RESP` reports an error. -/
theorem bcHandleCommand_common (hk : ∀ n, (k.write n).res = res) {inbuf : Cmd}
    (hresp : msgGetType inbuf = ssiConfigResp →
      (msgDecodeSsiConfigResp inbuf).result = ssiConfigResSuccess) (m : Machine) :
    ((CmtSpeech.bcHandleCommand k inbuf m).1, (CmtSpeech.bcHandleCommand k inbuf m).2.1,
        (CmtSpeech.bcHandleCommand k inbuf m).2.2.bcstate) =
      bcHandleCommand res inbuf m.bcstate := by
  have hssi := sendSsiConfigRequest_common hk (bcPostCommand_common hk) true
    (m.modBc BcState.privResetStateToDisconnected)
  have hssiResp (ht : msgGetType inbuf = ssiConfigResp) :=
    bcHandleSsiConfigResp_common hk (hresp ht) m
  rw [Machine.modBc_bcstate] at hssi
  unfold CmtSpeech.bcHandleCommand bcHandleCommand newEvent
  dsimp only
  rw [← hssi]
  split_ifs <;> simp [*]

end

/-! ### Events -/

variable (d : Dummy)

/-- The message in `pubbuf` at `p`, as the four octets lie there. -/
def load (p : ℕ) : Cmd := ⟨d.pubbuf (p + 3), d.pubbuf (p + 2), d.pubbuf (p + 1), d.pubbuf p⟩

/-- `read` of a message to `pubbuf` at `p`, whether the index is moved on after it or not. -/
def store (p : ℕ) (msg : Cmd) : Dummy :=
  { d with pubbuf := fun q => if p ≤ q ∧ q < p + 4 then msg.octet (q - p) else d.pubbuf q }

/-- `priv_change_state`: a state that is the same is left alone. -/
def privChangeState (newState : DummyState) : Dummy := { d with state := newState }

/-- The message of `priv_emit_speech_config_req`. -/
def speechConfigReqMsg (speechData userConnect : BitVec 8) : Cmd :=
  msgEncodeSpeechConfigReq
    { speechDataStream := speechData, callUserConnectingInd := userConnect
      codecInfo := codecInfoGsmHr, cellularInfo := cellularInfoGsm, sampleRate := sampleRate8khz
      dataFormat := dataFormatS16linpcm }

/-- The buffer is full: `cmtspeech_check_pending` does not read the pipe, and leaves the messages
there until `cmtspeech_read_event` has made room.  One slot of the buffer stays empty. -/
def Full : Prop := (d.pubbufWrite + dataHeaderLen) % salMsgBuffer = d.pubbufRead

instance : Decidable d.Full := inferInstanceAs (Decidable (_ = _))

/-- What `cmtspeech_check_pending` reads from the pipe, which is one message at most. -/
def takes : List Cmd := if d.Full then [] else d.controlPipe.take 1

/-- `cmtspeech_check_pending`: the result, the flags if the caller wants them, and the new state.
The pipe is read in messages of four octets, so that there is one or none. -/
def checkPending (flags : Bool) : ℤ × Option (BitVec 4) × Dummy :=
  let answer (f : BitVec 4) : Option (BitVec 4) := if flags then some f else none
  if d.Full then (1, answer eventControl, d)
  else
    match d.controlPipe with
    | [] => (0, answer 0, d)
    | msg :: rest =>
      let d := { d.store d.pubbufWrite msg with controlPipe := rest }
      if msgGetDomain msg = domainControl then
        (1, answer eventControl,
          { d with pubbufWrite := (d.pubbufWrite + dataHeaderLen) % salMsgBuffer })
      else if msgGetDomain msg = domainInternal ∧ msgGetType msg = dummyDlDataAvail then
        (1, answer eventDlData, d)
      else (1, answer 0, d)

/-- The messages `cmtspeech_read_event` writes to the control pipe, after the common code has
handled a message. -/
def emits (k : DummyKernel) (event : Event) (s : BcState) : List Cmd :=
  if event.msgType = ssiConfigResp ∧ s.protoState = .connected ∧ k.controlWrite then
    [speechConfigReqMsg 1 1]
  else []

/-- The part of `cmtspeech_read_event` between reading a message and moving on to the next slot of
the buffer. -/
def process (k : DummyKernel) (msg : Cmd) : ℤ × Event × Dummy :=
  let h := bcHandleCommand k.threadWrite msg d.bcstate
  let event := h.2.1
  let d := { d with bcstate := h.2.2, controlPipe := d.controlPipe ++ emits k event h.2.2 }
  let d :=
    if event.msgType = speechConfigReq then
      { d with
        bcstate := bcPostCommand k.threadWrite (msgEncodeSpeechConfigResp 0) d.bcstate
        dlActive := true }
    else d
  let event := { event with state := d.bcstate.protoState }
  (h.1, event,
    if event.state = .connected ∧ event.prevState = .disconnected then
      d.privChangeState .mediaFlowing
    else d)

/-- `cmtspeech_read_event`: the result, the event and the new state. -/
def readEvent (k : DummyKernel) : ℤ × Event × Dummy :=
  let r := d.process k (d.load d.pubbufRead)
  (r.1, r.2.1, { r.2.2 with pubbufRead := (r.2.2.pubbufRead + 4) % salMsgBuffer })

/-- `cmtspeech_open`: `d` is what the allocated memory held before. -/
def cmtspeechOpen : Dummy :=
  { d with
    bcstate := d.bcstate.bcOpen, state := .idle, controlPipe := [], pubbufWrite := 0
    pubbufRead := 0 }

end Dummy

/-! ### Runs -/

/-- An operation of the client, or one of the parties it does not know of. -/
inductive DummyOp where
  | checkPending (flags : Bool)
  | readEvent (k : DummyKernel)
  /-- The thread and the other calls change the state, and write messages to the control pipe. -/
  | elsewhere (bcstate : BcState) (state : DummyState) (dlActive : Bool) (msgs : List Cmd)

/-- What is seen of the messages: where they come from, when they are taken, and what came of
them. -/
inductive DummyObs where
  /-- A message comes into the control pipe. -/
  | came (msg : Cmd)
  /-- A message is read from the control pipe. -/
  | took (msg : Cmd)
  /-- `cmtspeech_read_event` has processed a message. -/
  | processed (msg : Cmd) (res : ℤ)

/-- What an operation does, as it is seen from the control pipe and from `pubbuf`. -/
def DummyOp.obs (d : Dummy) : DummyOp → List DummyObs
  | .checkPending _ => d.takes.map .took
  | .readEvent k =>
    let msg := d.load d.pubbufRead
    let h := Dummy.bcHandleCommand k.threadWrite msg d.bcstate
    .processed msg h.1 :: (Dummy.emits k h.2.1 h.2.2).map .came
  | .elsewhere _ _ _ msgs => msgs.map .came

/-- The state after an operation, of which the queue is the client's own. -/
def DummyOp.run (d : Dummy) : DummyOp → Dummy
  | .checkPending flags => (d.checkPending flags).2.2
  | .readEvent k => (d.readEvent k).2.2
  | .elsewhere bcstate state dlActive msgs =>
    { d with bcstate, state, dlActive, controlPipe := d.controlPipe ++ msgs }

/-- The dummy backend as a transition system, from `cmtspeech_open` on.  What comes into the
control pipe is not restricted, so that nothing depends on the thread. -/
def dummyBackend : Lts Dummy DummyOp DummyObs where
  init d := ∃ old : Dummy, d = old.cmtspeechOpen
  next d op := (op.run d, op.obs d)

end CmtSpeech
