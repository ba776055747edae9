import CmtSpeech.System

/-!
# What the protocol can do

The protocol layer of the backend as a relation.  A `View` keeps the protocol state, the
wakeline users, the slot size and whether a reply is deferred; buffers, memory and the
event queue are hidden, and so is the reason why a reply is deferred or a configuration
fails.  For each function of the source that sends or reacts to messages there is one
relation, with one constructor for each way it can go; `k` are the kernel's answers.

* `View`, `Obs.visible` — the state and the observations at this level.
* `SendTiming`, `SendSsi`, `SendReset` — the requests of the library.
* `Posted`, `SetupReply`, `SpeechConfig` — answering `SPEECH_CONFIG_REQ`.
* `SsiResp`, `Recv` — inbound words.
* `CallStatus` — a call starts or ends.
* `ProtoStep` — one operation.
-/

namespace CmtSpeech

/-- The state of the protocol layer: the protocol state, the users of the line, the slot size, and
whether a reply is deferred.  Nothing else decides what is sent and where the state goes. -/
structure View where
  bc : BcState
  wake : BitVec 3
  slotSize : ℕ
  respPend : Bool

/-- What the protocol layer sees of an instance, with the contents of buffers and the positions of
the streams left out. -/
def Machine.view (m : Machine) : View where
  bc := m.bcstate
  wake := m.d.wakelineUsers
  slotSize := m.buf.slotSize
  respPend := m.buf.speechConfigRespPend

/-- Observations other than the driver calls of the data path, which the relations below do not
tell. -/
def Obs.visible : Obs → Bool
  | .recv _ | .callStatus _ | .write _ _ | .posted _ _ | .queued _ => true
  | .writeData _ _ | .setWakeline _ _ | .configBufs _ _ => false

namespace View

/-- Another protocol state, with the rest of the view as it is. -/
def withBc (v : View) (s : BcState) : View := { v with bc := s }

/-- Record a user of the wakeline; to record it twice is no different from once. -/
def acquire (v : View) (id : BitVec 3) : View := { v with wake := v.wake ||| id }

/-- Forget a user of the wakeline, whether it was one or not. -/
def release (v : View) (id : BitVec 3) : View := { v with wake := v.wake &&& ~~~id }

/-- The data path torn down: no slots, and no answer that would be owed. -/
def tornDown (v : View) : View := { v with slotSize := 0, respPend := false }

section
variable (v : View) (s : BcState) (id : BitVec 3)

@[simp] theorem withBc_bc : (v.withBc s).bc = s := rfl
@[simp] theorem withBc_wake : (v.withBc s).wake = v.wake := rfl
@[simp] theorem withBc_slotSize : (v.withBc s).slotSize = v.slotSize := rfl
@[simp] theorem withBc_respPend : (v.withBc s).respPend = v.respPend := rfl

@[simp] theorem acquire_bc : (v.acquire id).bc = v.bc := rfl
@[simp] theorem acquire_wake : (v.acquire id).wake = v.wake ||| id := rfl
@[simp] theorem acquire_slotSize : (v.acquire id).slotSize = v.slotSize := rfl
@[simp] theorem acquire_respPend : (v.acquire id).respPend = v.respPend := rfl

@[simp] theorem release_bc : (v.release id).bc = v.bc := rfl
@[simp] theorem release_wake : (v.release id).wake = v.wake &&& ~~~id := rfl
@[simp] theorem release_slotSize : (v.release id).slotSize = v.slotSize := rfl
@[simp] theorem release_respPend : (v.release id).respPend = v.respPend := rfl

@[simp] theorem tornDown_bc : v.tornDown.bc = v.bc := rfl
@[simp] theorem tornDown_wake : v.tornDown.wake = v.wake := rfl
@[simp] theorem tornDown_slotSize : v.tornDown.slotSize = 0 := rfl
@[simp] theorem tornDown_respPend : v.tornDown.respPend = false := rfl

end

end View

namespace Protocol

variable (k : Kernel)

/-! ### Requests -/

/-- A message that needs no post-processing.  It is written in full, which clears the count of
errors, or it falls short, which adds to it; nothing else in the protocol state changes. -/
inductive Send (msg : Cmd) (v : View) : List Obs → View → Prop
  | full (n : ℕ) (hw : (k.write n).res = ctrlLen) :
    Send msg v [.write msg (k.write n), .posted msg v.bc.written] (v.withBc v.bc.written)
  | short (n : ℕ) (hw : (k.write n).res ≠ ctrlLen) :
    Send msg v [.write msg (k.write n)] (v.withBc v.bc.unwritten)

/-- `cmtspeech_send_timing_request`: the transaction is pending only if the request was written in
full. -/
inductive SendTiming (v : View) : List Obs → View → Prop
  | full (n : ℕ) (hw : (k.write n).res = ctrlLen) :
    SendTiming v
      [.write msgEncodeNewTimingConfigReq (k.write n),
        .posted msgEncodeNewTimingConfigReq v.bc.written]
      (v.withBc (v.bc.written.privStateChangeTo none .timing))
  | short (n : ℕ) (hw : (k.write n).res ≠ ctrlLen) :
    SendTiming v [.write msgEncodeNewTimingConfigReq (k.write n)] (v.withBc v.bc.unwritten)

/-- The mark of an `SSI_CONFIG_REQ` in flight. -/
abbrev ssiPending (b : Bool) : PrivState := if b then .connecting else .disconnecting

/-- Raise the wakeline for an activation; a deactivation leaves the line to its answer. -/
def ssiAcquire (b : Bool) (v : View) : View := if b then v.acquire wakelineCall else v

@[simp] theorem ssiPending_true : ssiPending true = .connecting := rfl
@[simp] theorem ssiPending_false : ssiPending false = .disconnecting := rfl
@[simp] theorem ssiAcquire_true (v : View) : ssiAcquire true v = v.acquire wakelineCall := rfl
@[simp] theorem ssiAcquire_false (v : View) : ssiAcquire false v = v := rfl

@[simp] theorem ssiAcquire_bc (b : Bool) (v : View) : (ssiAcquire b v).bc = v.bc := by
  cases b <;> rfl

@[simp] theorem ssiAcquire_slotSize (b : Bool) (v : View) :
    (ssiAcquire b v).slotSize = v.slotSize := by
  cases b <;> rfl

@[simp] theorem ssiAcquire_respPend (b : Bool) (v : View) :
    (ssiAcquire b v).respPend = v.respPend := by
  cases b <;> rfl

/-- `cmtspeech_send_ssi_config_request`: refused while a disconnection is pending, and otherwise
pending in `priv_state` if it was written in full.  The line is taken for a request to connect
before anything is written. -/
inductive SendSsi (b : Bool) (v : View) : List Obs → View → Prop
  | refused (hb : b = false) (hp : v.bc.privState = .disconnecting) : SendSsi b v [] v
  | full (n : ℕ) (hw : (k.write n).res = ctrlLen)
      (hr : ¬ (b = false ∧ v.bc.privState = .disconnecting)) :
    SendSsi b v
      [.write (ssiConfigRequest v.bc b) (k.write n),
        .posted (ssiConfigRequest v.bc b) (v.bc.privStateChangeTo none (ssiPending b)).written]
      ((ssiAcquire b v).withBc (v.bc.privStateChangeTo none (ssiPending b)).written)
  | short (n : ℕ) (hw : (k.write n).res ≠ ctrlLen)
      (hr : ¬ (b = false ∧ v.bc.privState = .disconnecting)) :
    SendSsi b v [.write (ssiConfigRequest v.bc b) (k.write n)]
      ((ssiAcquire b v).withBc (v.bc.unwritten.privStateChangeTo none .inSync))

/-- `priv_send_reset`: nothing is sent if the line cannot be raised, and the protocol is `INVALID`
only if the request was written in full; the buffers are torn down in every case. -/
inductive SendReset (v : View) : List Obs → View → Prop
  -- nothing is sent, and the protocol state stays
  | noLine (n : ℕ) (hl : k.setWakeline n ≠ 0) (hv : v.wake = 0) :
    SendReset v [] (v.acquire wakelineReset).tornDown
  | full (n : ℕ) (hw : (k.write n).res = ctrlLen) :
    SendReset v
      [.write msgEncodeResetConnReq (k.write n),
        .posted msgEncodeResetConnReq (v.bc.privStateChangeTo (some .invalid) .inSync).written]
      ((v.acquire wakelineReset).withBc
        (v.bc.privStateChangeTo (some .invalid) .inSync).written).tornDown
  | short (n : ℕ) (hw : (k.write n).res ≠ ctrlLen) (hn : 0 ≤ (k.write n).res) :
    SendReset v [.write msgEncodeResetConnReq (k.write n)]
      ((v.acquire wakelineReset).withBc v.bc.unwritten).tornDown
  -- a write that falls short keeps the line, one that fails lets it go
  | failed (n : ℕ) (hw : (k.write n).res ≠ ctrlLen) (hn : (k.write n).res < 0) :
    SendReset v [.write msgEncodeResetConnReq (k.write n)]
      (((v.acquire wakelineReset).withBc v.bc.unwritten).release wakelineReset).tornDown

/-! ### What a request leaves alone

The protocol state, the slot size and the deferred reply; a reset tears the last two down
whether or not it could be sent. -/

section
variable {k} {v v' : View} {o : List Obs}

theorem Send.protoState {msg : Cmd} (h : Send k msg v o v') :
    v'.bc.protoState = v.bc.protoState := by
  cases h <;> rfl

theorem Send.privState {msg : Cmd} (h : Send k msg v o v') : v'.bc.privState = v.bc.privState := by
  cases h <;> rfl

theorem SendTiming.protoState (h : SendTiming k v o v') : v'.bc.protoState = v.bc.protoState := by
  cases h <;> rfl

theorem SendTiming.slotSize (h : SendTiming k v o v') : v'.slotSize = v.slotSize := by
  cases h <;> rfl

theorem SendTiming.respPend (h : SendTiming k v o v') : v'.respPend = v.respPend := by
  cases h <;> rfl

theorem SendSsi.protoState {b : Bool} (h : SendSsi k b v o v') :
    v'.bc.protoState = v.bc.protoState := by
  cases h <;> rfl

theorem SendSsi.callServerActive {b : Bool} (h : SendSsi k b v o v') :
    v'.bc.callServerActive = v.bc.callServerActive := by
  cases h <;> rfl

theorem SendSsi.slotSize {b : Bool} (h : SendSsi k b v o v') : v'.slotSize = v.slotSize := by
  cases h with
  | refused hb hp => rfl
  | full n hw hr => exact ssiAcquire_slotSize b v
  | short n hw hr => exact ssiAcquire_slotSize b v

theorem SendSsi.respPend {b : Bool} (h : SendSsi k b v o v') : v'.respPend = v.respPend := by
  cases h with
  | refused hb hp => rfl
  | full n hw hr => exact ssiAcquire_respPend b v
  | short n hw hr => exact ssiAcquire_respPend b v

theorem SendReset.respPend (h : SendReset k v o v') : v'.respPend = false := by
  cases h <;> rfl

end

/-! ### Answering a speech configuration -/

/-- What follows a `SPEECH_CONFIG_RESP` that reports success: the stream starts, starts again or
stops by what `priv_state` says of the request, and a stop for which no call is left goes on to
disconnect. -/
inductive Posted (v : View) : List Obs → View → Prop
  | start {o : List Obs} {v' : View} (hs : v.bc.protoState = .connected)
      (hp : v.bc.privState = .configActPend)
      (ht : SendTiming k (v.withBc (v.bc.privStateChangeTo (some .activeDl) .inSync)) o v') :
    Posted v o v'
  | restart (hs : v.bc.protoState = .activeDlul) (hp : v.bc.privState = .configActPend) :
    Posted v [] (v.withBc (v.bc.privStateChangeTo (some .activeDl) .inSync))
  | stop (hs : v.bc.protoState = .activeDl ∨ v.bc.protoState = .activeDlul)
      (hp : v.bc.privState = .configDeactPend) (hc : v.bc.callServerActive = true) :
    Posted v [] (v.withBc (v.bc.privStateChangeTo (some .connected) .inSync))
  | close {o : List Obs} {v' : View}
      (hs : v.bc.protoState = .activeDl ∨ v.bc.protoState = .activeDlul)
      (hp : v.bc.privState = .configDeactPend) (hc : v.bc.callServerActive = false)
      (hq : SendSsi k false (v.withBc (v.bc.privStateChangeTo (some .connected) .inSync)) o v') :
    Posted v o v'
  -- the pairs of states without a branch in the source, pending ones among them
  | keep
      (ha : v.bc.privState = .configActPend →
        v.bc.protoState ≠ .connected ∧ v.bc.protoState ≠ .activeDlul)
      (hd : v.bc.privState = .configDeactPend →
        v.bc.protoState ≠ .activeDl ∧ v.bc.protoState ≠ .activeDlul) :
    Posted v [] v

/-- Writing `SPEECH_CONFIG_RESP` with result 0.  The state moves in the post-processing, and so
only if the reply was written in full. -/
inductive ReplyOk (v : View) : List Obs → View → Prop
  | full (n : ℕ) (hw : (k.write n).res = ctrlLen) {o : List Obs} {v' : View}
      (hp : Posted k v o v') :
    ReplyOk v
      (.write (msgEncodeSpeechConfigResp 0) (k.write n) ::
        (o ++ [.posted (msgEncodeSpeechConfigResp 0) v'.bc.written]))
      (v'.withBc v'.bc.written)
  | short (n : ℕ) (hw : (k.write n).res ≠ ctrlLen) :
    ReplyOk v [.write (msgEncodeSpeechConfigResp 0) (k.write n)] (v.withBc v.bc.unwritten)

/-- Writing `SPEECH_CONFIG_RESP` with result 1.  The state stays, and the request counts as
answered once the reply is written in full. -/
inductive ReplyErr (v : View) : List Obs → View → Prop
  | full (n : ℕ) (hw : (k.write n).res = ctrlLen) :
    ReplyErr v
      [.write (msgEncodeSpeechConfigResp 1) (k.write n),
        .posted (msgEncodeSpeechConfigResp 1) (v.bc.privStateChangeTo none .inSync).written]
      (v.withBc (v.bc.privStateChangeTo none .inSync).written)
  | short (n : ℕ) (hw : (k.write n).res ≠ ctrlLen) :
    ReplyErr v [.write (msgEncodeSpeechConfigResp 1) (k.write n)] (v.withBc v.bc.unwritten)

/-- `priv_setup_and_send_speech_config_reply`: the driver decides about the layout, and so about
the reply; after one that reports failure, the library resets the protocol. -/
inductive SetupReply (v : View) : List Obs → View → Prop
  | ok (n : ℕ) (hc : k.configBufs n = 0) {o : List Obs} {v' : View}
      (hr : ReplyOk k { v with respPend := false } o v') : SetupReply v o v'
  | failed (n : ℕ) (hc : k.configBufs n ≠ 0) {o₁ o₂ : List Obs} {v₁ v' : View}
      (hr : ReplyErr k { v with respPend := false } o₁ v₁) (hs : SendReset k v₁ o₂ v') :
    SetupReply v (o₁ ++ o₂) v'

section
variable {k} {v v' : View} {o : List Obs}

theorem ReplyErr.protoState (h : ReplyErr k v o v') : v'.bc.protoState = v.bc.protoState := by
  cases h <;> rfl

theorem ReplyErr.wake (h : ReplyErr k v o v') : v'.wake = v.wake := by
  cases h <;> rfl

/-- No reply is deferred once the reply has been tried. -/
theorem SetupReply.respPend (h : SetupReply k v o v') : v'.respPend = false := by
  cases h with
  | ok n hc hr =>
    cases hr with
    | full n hw hp =>
      cases hp with
      | start hs hp ht => exact ht.respPend
      | close hs hp hc hq => exact hq.respPend
      | _ => rfl
    | short n hw => rfl
  | failed n hc hr hs => exact hs.respPend

end

/-- The mark of a `SPEECH_CONFIG_REQ` that has not been answered. -/
abbrev speechPending (req : SpeechConfigReq) : PrivState :=
  if req.speechDataStream ≠ 0 then .configActPend else .configDeactPend

theorem speechPending_cases (req : SpeechConfigReq) :
    speechPending req = .configActPend ∨ speechPending req = .configDeactPend := by
  rw [speechPending]
  split
  · exact Or.inl rfl
  · exact Or.inr rfl

/-- A `SPEECH_CONFIG_REQ` has been read: its answer is pending, and the slots fit the request. -/
def speechRequested (req : SpeechConfigReq) (v : View) : View :=
  { v with
    bc := v.bc.privStateChangeTo none (speechPending req)
    slotSize := speechConfigSlotSize req }

/-- Handling a `SPEECH_CONFIG_REQ`: it is answered now, or, while the application holds buffers,
by the call that gives the last of them back. -/
inductive SpeechConfig (req : SpeechConfigReq) (v : View) : List Obs → View → Prop
  | now {o : List Obs} {v' : View} (hr : SetupReply k (speechRequested req v) o v') :
    SpeechConfig req v o v'
  | defer : SpeechConfig req v [] { speechRequested req v with respPend := true }

/-! ### Other inbound messages -/

/-- The branch of `cmtspeech_bc_handle_command` for `SSI_CONFIG_RESP`.  What a response does
depends on the request that was pending; a response that reports an error makes the library reset
the protocol. -/
inductive SsiResp (resp : SsiConfigResp) (v : View) : List Obs → View → Prop
  | connected (hr : resp.result = ssiConfigResSuccess) (hp : v.bc.privState = .connecting) :
    SsiResp resp v []
      (v.withBc
        { v.bc.privStateChangeTo (some .connected) .inSync with
          sampleLayout := if (resp.layout.toNat : ℤ) = sampleLayoutNoPref then sampleLayoutSwappedLe
            else resp.layout.toNat })
  | disconnected (hr : resp.result = ssiConfigResSuccess)
      (hp : v.bc.privState = .disconnecting) :
    SsiResp resp v [] (v.withBc v.bc.privResetStateToDisconnected)
  -- the states of the next two are set whatever became of the request
  | reconnect (hr : resp.result = ssiConfigResSuccess) (hp : v.bc.privState = .ssiConfigPend)
      (hc : v.bc.callServerActive = true) {o : List Obs} {v' : View}
      (hq : SendSsi k true v o v') :
    SsiResp resp v o (v'.withBc (v'.bc.privStateChangeTo (some .disconnected) .connecting))
  | redisconnect (hr : resp.result = ssiConfigResSuccess)
      (hp : v.bc.privState = .ssiConfigPend) (hc : v.bc.callServerActive = false)
      {o : List Obs} {v' : View} (hq : SendSsi k false v o v') :
    SsiResp resp v o (v'.withBc (v'.bc.privStateChangeTo (some .connected) .disconnecting))
  | ignored (hr : resp.result = ssiConfigResSuccess) (h₁ : v.bc.privState ≠ .connecting)
      (h₂ : v.bc.privState ≠ .disconnecting) (h₃ : v.bc.privState ≠ .ssiConfigPend) :
    SsiResp resp v [] v
  | errorPending (hr : resp.result ≠ ssiConfigResSuccess)
      (hp : v.bc.privState = .connecting ∨ v.bc.privState = .disconnecting)
      {o : List Obs} {v' : View}
      (hs : SendReset k (v.withBc (v.bc.privStateChangeTo none .inSync)) o v') :
    SsiResp resp v o v'
  | error (hr : resp.result ≠ ssiConfigResSuccess) (h₁ : v.bc.privState ≠ .connecting)
      (h₂ : v.bc.privState ≠ .disconnecting) {o : List Obs} {v' : View}
      (hs : SendReset k v o v') :
    SsiResp resp v o v'

/-- `priv_handle_ssi_config_resp`, as far as the view sees it: the line is let go after a
disconnection. -/
def afterSsiResp (v : View) : View :=
  if v.bc.protoState = .disconnected ∧ v.bc.privState ≠ .connecting then v.release wakelineCall
  else v

@[simp] theorem afterSsiResp_bc (v : View) : (afterSsiResp v).bc = v.bc := by
  unfold afterSsiResp
  split <;> rfl

/-- `priv_initialize_after_peer_reset`, as far as the view sees it: disconnected, with no data
path and nobody on the wakeline. -/
def afterPeerReset (v : View) : View :=
  { (v.withBc v.bc.privResetStateToDisconnected).tornDown with wake := 0 }

/-- The slot size for a test ramp: a header and four octets for each step of the ramp. -/
abbrev testSlotSize (ramplen : BitVec 8) : ℕ := dataHeaderLen + ramplen.toNat * 4

/-- What an accepted control message other than `TEST_RAMP_PING` does before its event is queued:
one case for each message type, with the messages that are sent in turn. -/
inductive Control (cmd : Cmd) (v : View) : List Obs → View → Prop
  | speechConfig (ht : msgGetType cmd = speechConfigReq) {o : List Obs} {v' : View}
      (h : SpeechConfig k (msgDecodeSpeechConfigReq cmd) v o v') : Control cmd v o v'
  | uplink (ht : msgGetType cmd = uplinkConfigNtf) :
    Control cmd v []
      (v.withBc (if v.bc.protoState = .activeDl then
        v.bc.privStateChangeTo (some .activeDlul) .inSync else v.bc))
  | timing (ht : msgGetType cmd = timingConfigNtf) :
    Control cmd v [] (v.withBc (bcHandleTimingConfigNtf v.bc))
  | ssiResp (ht : msgGetType cmd = ssiConfigResp) {o : List Obs} {v' : View}
      (h : SsiResp k (msgDecodeSsiConfigResp cmd) v o v') : Control cmd v o (afterSsiResp v')
  | resetReq (ht : msgGetType cmd = resetConnReq) {o : List Obs} {v' : View}
      (h : Send k msgEncodeResetConnResp (v.withBc v.bc.privResetStateToDisconnected) o v') :
    Control cmd v o (afterPeerReset v')
  | resetResp (ht : msgGetType cmd = resetConnResp)
      (hp : v.bc.privState ≠ .resetBeforeConnect) :
    Control cmd v [] ((v.withBc v.bc.privResetStateToDisconnected).release wakelineReset)
  | resetRespConnect (ht : msgGetType cmd = resetConnResp)
      (hp : v.bc.privState = .resetBeforeConnect) {o : List Obs} {v' : View}
      (h : SendSsi k true (v.withBc v.bc.privResetStateToDisconnected) o v') :
    Control cmd v o (v'.release wakelineReset)

/-- The type of the event queued for a control message. -/
def eventType (cmd : Cmd) : ℕ :=
  if msgGetType cmd = resetConnReq ∨ msgGetType cmd = resetConnResp then eventReset
  else msgGetType cmd

/-- The contents of the event queued for a control message; `tstamp` is the driver's. -/
def eventMsg (cmd : Cmd) (tstamp : Timespec) : EventMsg :=
  if msgGetType cmd = speechConfigReq then .speechConfigReq (msgDecodeSpeechConfigReq cmd) true
  else if msgGetType cmd = timingConfigNtf then
    .timingConfigNtf (msgDecodeTimingConfigNtf cmd).1 (msgDecodeTimingConfigNtf cmd).2 tstamp
  else if msgGetType cmd = ssiConfigResp then .ssiConfigResp (msgDecodeSsiConfigResp cmd) 0
  else if msgGetType cmd = resetConnReq then .resetDone 1
  else if msgGetType cmd = resetConnResp then .resetDone 0
  else .none

/-- The event queued for a word that takes the protocol state from `s` to `t`.  Both states are in
the event, so that the application can tell the transition. -/
structure Reports (e : Event) (type : ℕ) (msg : EventMsg) (s t : ProtoState) : Prop where
  msgType : e.msgType = type
  msg : e.msg = msg
  prevState : e.prevState = s
  state : e.state = t

/-- The effect of a word on the protocol layer: an event is queued for the control messages and
for errors of the driver, and the other words leave the protocol state alone. -/
inductive Recv (cmd : Cmd) (v : View) : List Obs → View → Prop
  | control (hd : msgGetDomain cmd = domainControl) {o : List Obs} {v' : View} (e : Event)
      (h : Control k cmd v o v')
      (tstamp : Timespec)
      (he : Reports e (eventType cmd) (eventMsg cmd tstamp) v.bc.protoState v'.bc.protoState) :
    Recv cmd v (.recv cmd :: (o ++ [.queued e])) v'
  | testRampNoBufs (hd : msgGetDomain cmd = domainControl) (ht : msgGetType cmd = testRampPing)
      (n : ℕ) (hc : k.configBufs n < 0) :
    Recv cmd v [.recv cmd]
      { v.acquire wakelineTestRampPing with
        slotSize := testSlotSize (msgDecodeTestRampPing cmd).ramplen }
  | testRamp (hd : msgGetDomain cmd = domainControl) (ht : msgGetType cmd = testRampPing)
      {o : List Obs} {v' : View}
      (h : Send k (privMsgEncodeDriverMessage csTxDataReady 0)
        { v.acquire wakelineTestRampPing with
          slotSize := testSlotSize (msgDecodeTestRampPing cmd).ramplen } o v') :
    Recv cmd v (.recv cmd :: o) v'
  | csError (hd : msgGetDomain cmd = domainInternal) (ht : msgGetType cmd = csError) (e : Event)
      (he : Reports e eventReset (.resetDone 0) v.bc.protoState .disconnected) :
    Recv cmd v [.recv cmd, .queued e] (afterPeerReset v)
  | data (hd : msgGetDomain cmd = domainInternal) (ht : msgGetType cmd ≠ csError) :
    Recv cmd v [.recv cmd] v
  | unknown
      (h : msgGetDomain cmd = domainControl ∧ UnknownType (msgGetType cmd) ∨
        msgGetDomain cmd ≠ domainControl ∧ msgGetDomain cmd ≠ domainInternal) :
    Recv cmd v [.recv cmd] v

/-- An accepted control message other than `TEST_RAMP_PING` is handled by `Control`. -/
theorem Recv.control_inv {cmd : Cmd} {v v' : View} {o : List Obs} (h : Recv k cmd v o v')
    (hd : msgGetDomain cmd = domainControl) (hu : ¬ UnknownType (msgGetType cmd))
    (ht : msgGetType cmd ≠ testRampPing) :
    ∃ o₁ e, o = .recv cmd :: (o₁ ++ [.queued e]) ∧ Control k cmd v o₁ v' ∧
      ∃ tstamp, Reports e (eventType cmd) (eventMsg cmd tstamp) v.bc.protoState
        v'.bc.protoState := by
  have hne : domainControl ≠ domainInternal := by decide
  cases h with
  | control hd' e h tstamp he => exact ⟨_, e, rfl, h, tstamp, he⟩
  | testRampNoBufs hd' ht' n hc => exact absurd ht' ht
  | testRamp hd' ht' h => exact absurd ht' ht
  | csError hd' ht' e he => exact absurd (hd.symm.trans hd') hne
  | data hd' ht' => exact absurd (hd.symm.trans hd') hne
  | unknown h =>
    rcases h with ⟨-, hu'⟩ | ⟨hd', -⟩
    · exact absurd hu' hu
    · exact absurd hd hd'

theorem Control.speechConfig_inv {cmd : Cmd} {v v' : View} {o : List Obs}
    (h : Control k cmd v o v') (ht : msgGetType cmd = speechConfigReq) :
    SpeechConfig k (msgDecodeSpeechConfigReq cmd) v o v' := by
  cases h with
  | speechConfig _ h => exact h
  | _ => simp_all

theorem Control.ssiResp_inv {cmd : Cmd} {v v' : View} {o : List Obs}
    (h : Control k cmd v o v') (ht : msgGetType cmd = ssiConfigResp) :
    ∃ v₁, SsiResp k (msgDecodeSsiConfigResp cmd) v o v₁ ∧ v' = afterSsiResp v₁ := by
  cases h with
  | ssiResp _ h => exact ⟨_, h, rfl⟩
  | _ => simp_all

theorem Control.resetResp_inv {cmd : Cmd} {v v' : View} {o : List Obs}
    (h : Control k cmd v o v') (ht : msgGetType cmd = resetConnResp)
    (hp : v.bc.privState = .resetBeforeConnect) :
    ∃ v₁, SendSsi k true (v.withBc v.bc.privResetStateToDisconnected) o v₁ ∧
      v' = v₁.release wakelineReset := by
  cases h with
  | resetRespConnect _ _ h => exact ⟨_, h, rfl⟩
  | resetResp _ hp' => exact absurd hp hp'
  | _ => simp_all

/-- A `SPEECH_CONFIG_REQ` is handled by `SpeechConfig`. -/
theorem Recv.speechConfig_inv {cmd : Cmd} {v v' : View} {o : List Obs} (h : Recv k cmd v o v')
    (hd : msgGetDomain cmd = domainControl) (ht : msgGetType cmd = speechConfigReq) :
    ∃ o₁ e, o = .recv cmd :: (o₁ ++ [.queued e]) ∧
      SpeechConfig k (msgDecodeSpeechConfigReq cmd) v o₁ v' := by
  obtain ⟨o₁, e, ho, hc, -⟩ := h.control_inv k hd (by rw [ht]; decide) (by rw [ht]; decide)
  exact ⟨o₁, e, ho, hc.speechConfig_inv k ht⟩

/-- An `SSI_CONFIG_RESP` is handled by `SsiResp`, and by the backend. -/
theorem Recv.ssiResp_inv {cmd : Cmd} {v v' : View} {o : List Obs} (h : Recv k cmd v o v')
    (hd : msgGetDomain cmd = domainControl) (ht : msgGetType cmd = ssiConfigResp) :
    ∃ o₁ e v₁, o = .recv cmd :: (o₁ ++ [.queued e]) ∧
      SsiResp k (msgDecodeSsiConfigResp cmd) v o₁ v₁ ∧ v' = afterSsiResp v₁ := by
  obtain ⟨o₁, e, ho, hc, -⟩ := h.control_inv k hd (by rw [ht]; decide) (by rw [ht]; decide)
  obtain ⟨v₁, h, hv⟩ := hc.ssiResp_inv k ht
  exact ⟨o₁, e, v₁, ho, h, hv⟩

/-! ### Calls of the application -/

/-- `cmtspeech_bc_state_change_call_status` up to the update of `call_server_active`. -/
inductive CallStatus : Bool → View → List Obs → View → Prop
  | blocked {v : View} (hp : v.bc.privState = .configDeactPend) :
    CallStatus false v [] (v.withBc { v.bc with ioErrors := v.bc.ioErrors + 1 })
  | disconnect {v : View} (h₁ : v.bc.privState ≠ .configDeactPend)
      (hs : v.bc.protoState = .connected) {o : List Obs} {v' : View} (h : SendSsi k false v o v') :
    CallStatus false v o v'
  | postpone {v : View} (hs : v.bc.protoState ≠ .connected) (hp : v.bc.privState = .connecting) :
    CallStatus false v [] (v.withBc (v.bc.privStateChangeTo none .ssiConfigPend))
  | noCall {v : View} (h₁ : v.bc.privState ≠ .configDeactPend)
      (hs : v.bc.protoState ≠ .connected) (h₂ : v.bc.privState ≠ .connecting) :
    CallStatus false v [] v
  | connect {v : View} (hs : v.bc.protoState = .disconnected) {o : List Obs} {v' : View}
      (h : SendSsi k true v o v') : CallStatus true v o v'
  | reconnect {v : View} (hs : v.bc.protoState = .connected)
      (hp : v.bc.privState = .disconnecting) :
    CallStatus true v [] (v.withBc (v.bc.privStateChangeTo none .ssiConfigPend))
  | reset {v : View} (hs : v.bc.protoState = .invalid ∨ v.bc.protoState = .testRampPingActive)
      {o : List Obs} {v' : View} (h : SendReset k v o v') :
    CallStatus true v o (v'.withBc (v'.bc.privStateChangeTo none .resetBeforeConnect))
  | crashed {v : View} (hs : v.bc.protoState = .activeDl ∨ v.bc.protoState = .activeDlul)
      (hc : v.bc.callServerActive = false) (hi : 0 < v.bc.ioErrors) {o : List Obs} {v' : View}
      (h : SendSsi k true (v.withBc v.bc.privResetStateToDisconnected) o v') :
    CallStatus true v o v'
  | already {v : View}
      (h : v.bc.protoState = .connected ∧ v.bc.privState ≠ .disconnecting ∨
        (v.bc.protoState = .activeDl ∨ v.bc.protoState = .activeDlul) ∧
          (v.bc.callServerActive = true ∨ v.bc.ioErrors = 0)) :
    CallStatus true v [] v

/-- `cmtspeech_test_data_ramp_req`; `msg` is the request.  Buffers and line are asked for before
the state is looked at, so that a refusal can come after either. -/
inductive TestReq (msg : Cmd) (ramplen : BitVec 8) (v : View) : List Obs → View → Prop
  | noBufs (n : ℕ) (hc : k.configBufs n < 0) :
    TestReq msg ramplen v [] { v with slotSize := testSlotSize ramplen }
  | noLine (n : ℕ) (hl : k.setWakeline n < 0) :
    TestReq msg ramplen v []
      { v.acquire wakelineTestRampPing with slotSize := testSlotSize ramplen }
  | busy (hs : v.bc.protoState ≠ .disconnected) :
    TestReq msg ramplen v []
      { v.acquire wakelineTestRampPing with slotSize := testSlotSize ramplen }
  | full (hs : v.bc.protoState = .disconnected) (n : ℕ) (hw : (k.write n).res = ctrlLen) :
    TestReq msg ramplen v [.write msg (k.write n), .posted msg v.bc.written]
      { v.acquire wakelineTestRampPing with
        slotSize := testSlotSize ramplen
        bc := v.bc.written.privStateChangeTo (some .testRampPingActive) .inSync }
  | short (hs : v.bc.protoState = .disconnected) (n : ℕ) (hw : (k.write n).res ≠ ctrlLen) :
    TestReq msg ramplen v [.write msg (k.write n)]
      { v.acquire wakelineTestRampPing with
        slotSize := testSlotSize ramplen
        bc := v.bc.unwritten }

/-- The `TEST_RAMP_PING` that `cmtspeech_test_data_ramp_req` sends. -/
abbrev testRampMsg (rampstart ramplen : BitVec 8) : Cmd :=
  msgEncodeTestRampPing
    ⟨BitVec.ofNat 8 domainControl, BitVec.ofNat 8 domainData, rampstart, ramplen⟩

/-- One operation, as the protocol layer sees it.  It is told by the states before and after it
and by what is written in between, with the outcome of each system call a choice of the kernel;
what the buffers contain does not matter. -/
inductive ProtoStep : Op → View → List Obs → View → Prop
  | recv {cmd : Cmd} {v v' : View} {o : List Obs} (h : Recv k cmd v o v') :
    ProtoStep (.recv cmd) v o v'
  | nothing {flags : Bool} {word : Option Cmd} {v : View} (h : flags = false ∨ word = none) :
    ProtoStep (.checkPending flags word) v [] v
  | readEvent {v : View} : ProtoStep .readEvent v [] v
  | setWbPreference {b : Bool} {v : View} (h : v.bc.isSsiConnectionEnabled = false) :
    ProtoStep (.setWbPreference b) v []
      (v.withBc { v.bc with confProtoVersion := if b then 2 else 1 })
  | setWbRefused {b : Bool} {v : View} : ProtoStep (.setWbPreference b) v [] v
  | callStatus {b : Bool} {v v' : View} {o : List Obs} (h : CallStatus k b v o v') :
    ProtoStep (.stateChangeCallStatus b) v (.callStatus b :: o)
      (v'.withBc { v'.bc with callServerActive := b })
  | callConnect {b : Bool} {v : View} :
    ProtoStep (.stateChangeCallConnect b) v [] (v.withBc { v.bc with callConnected := b })
  | error {v v' : View} {o : List Obs} (h : SendReset k v o v') :
    ProtoStep .stateChangeError v o v'
  | sendTiming {v v' : View} {o : List Obs} (h : SendTiming k v o v') :
    ProtoStep .sendTimingRequest v o v'
  | sendSsi {b : Bool} {v v' : View} {o : List Obs} (h : SendSsi k b v o v') :
    ProtoStep (.sendSsiConfigRequest b) v o v'
  | testReq {rampstart ramplen : BitVec 8} {v v' : View} {o : List Obs}
      (h : TestReq k (testRampMsg rampstart ramplen) ramplen v o v') :
    ProtoStep (.testDataRampReq rampstart ramplen) v o v'
  | dlAcquire {b : Bool} {v : View} : ProtoStep (.dlBufferAcquire b) v [] v
  | dlAcquireTest {b : Bool} {v : View} (hs : v.bc.protoState = .testRampPingActive) :
    ProtoStep (.dlBufferAcquire b) v [] (v.withBc (bcTestSequenceReceived v.bc))
  | dlRelease {i : Fin dlSlots} {v : View} : ProtoStep (.dlBufferRelease i) v [] v
  | dlReleaseReply {i : Fin dlSlots} {v v' : View} {o : List Obs} (hp : v.respPend = true)
      (h : SetupReply k v o v') : ProtoStep (.dlBufferRelease i) v o v'
  | ulAcquire {b : Bool} {v : View} : ProtoStep (.ulBufferAcquire b) v [] v
  | ulRelease {buf : Option (Fin ulSlots)} {v : View} : ProtoStep (.ulBufferRelease buf) v [] v
  | ulReleaseReply {buf : Option (Fin ulSlots)} {v v' : View} {o : List Obs}
      (hp : v.respPend = true) (h : SetupReply k v o v') : ProtoStep (.ulBufferRelease buf) v o v'
  | fillBuffer {slot : Slot} {flags : ℤ} {payload : ℕ → BitVec 8} {v : View} :
    ProtoStep (.fillBuffer slot flags payload) v [] v
  | driver {area : MmapArea} {v : View} : ProtoStep (.driver area) v [] v

theorem ProtoStep.recv_inv {cmd : Cmd} {v v' : View} {o : List Obs}
    (h : ProtoStep k (.recv cmd) v o v') : Recv k cmd v o v' := by
  cases h with
  | recv h => exact h
  | nothing h => simp at h

end Protocol

end CmtSpeech
