import CmtSpeech.DummySystem

/-!
# The protocol between the client and the thread

The client of the dummy backend and its thread talk in a few messages.  The rules here say which
ones there are, how each side takes them, and what it says in turn; the functions of the source
follow the rules.

* `Request`, `Reply` — the messages, in either direction.
* `Request.answers` — what the thread says to a message.
* `Reacts` — what the client does with a message.
* `StatusCall`, `Calls` — what a call of the application does.

## Main results

* `handleInboundControlMessage_cmd`, `ClientCall.readEvent_reacts`
* `ClientCall.says_stateChangeCallStatus` and the others
-/

namespace CmtSpeech

/-! ### Messages -/

/-- A message of the client.  The thread gets no other ones, as is proved of the client. -/
inductive Request where
  | ssiConfigReq (version : BitVec 8) (on : Bool)
  | newTimingConfigReq
  | testRampPing (rampstart ramplen : BitVec 8)
  | exitRequest
  deriving DecidableEq, Repr

/-- A message of the thread, other than that a frame is there, or one the client has put to the
control pipe in the name of the thread. -/
inductive Reply where
  | ssiConfigResp
  | uplinkConfigNtf
  | timingConfigNtf
  | speechConfigReq (on : Bool)
  deriving DecidableEq, Repr

/-- The message on the wire, as the encoders of the library make it. -/
def Request.cmd : Request → Cmd
  | .ssiConfigReq version on =>
    msgEncodeSsiConfigReq sampleLayoutInorderLe version (if on then 1 else 0)
  | .newTimingConfigReq => msgEncodeNewTimingConfigReq
  | .testRampPing rampstart ramplen => msgEncodeTestRampPing ⟨1, 2, rampstart, ramplen⟩
  | .exitRequest => ⟨0x40, 0, 0, 0⟩

/-- The message on the wire, with the values that the thread always gives. -/
def Reply.cmd : Reply → Cmd
  | .ssiConfigResp => msgEncodeSsiConfigResp sampleLayoutInorderLe 0
  | .uplinkConfigNtf => msgEncodeUplinkConfigNtf
  | .timingConfigNtf => msgEncodeTimingConfigNtf 5 0
  | .speechConfigReq true => Dummy.speechConfigReqMsg 1 1
  | .speechConfigReq false => Dummy.speechConfigReqMsg 0 0

theorem Reply.domain_cmd (p : Reply) : msgGetDomain p.cmd = domainControl := by
  cases p with
  | speechConfigReq on => cases on <;> decide
  | _ => decide

theorem msgGetType_rampPing (rampstart ramplen : BitVec 8) :
    msgGetType (Request.testRampPing rampstart ramplen).cmd = testRampPing := by
  show ((BitVec.ofNat 8 (testRampPing <<< 4) ||| (1 : BitVec 8)) >>> 4).toNat = testRampPing
  decide

theorem msgGetDomain_rampPing (rampstart ramplen : BitVec 8) :
    msgGetDomain (Request.testRampPing rampstart ramplen).cmd = domainControl := by
  show ((BitVec.ofNat 8 (testRampPing <<< 4) ||| (1 : BitVec 8)) &&& 0xf).toNat = domainControl
  decide

/-! ### The thread -/

namespace Request

/-- What `handle_inbound_control_message` returns. -/
def result : Request → ℤ
  | .ssiConfigReq _ _ => ctrlLen
  | .newTimingConfigReq => ctrlLen
  | .testRampPing _ _ => -1
  | .exitRequest => 0

/-- What the thread says, when the backend is in `state`. -/
def answers (state : DummyState) : Request → List Reply
  | .ssiConfigReq _ _ => [.ssiConfigResp]
  | .newTimingConfigReq =>
    (if state = .mediaFlowing then [.uplinkConfigNtf] else []) ++ [.timingConfigNtf]
  | .testRampPing _ _ => []
  | .exitRequest => []

/-- What the thread does to the state of the backend. -/
def changes : Request → List Effect
  | .ssiConfigReq _ false => [.changeState .idle]
  | _ => []

end Request

/-- The thread answers as it should: what the source computes from the octets of a request is what
`Request` says of it. -/
theorem handleInboundControlMessage_cmd (state : DummyState) (r : Request) :
    Dummy.handleInboundControlMessage state r.cmd =
      (r.result, (r.answers state).map (fun p => .controlWrite p.cmd) ++ r.changes) := by
  unfold Dummy.handleInboundControlMessage
  cases r with
  | ssiConfigReq version on =>
    have hdomain : msgGetDomain (Request.ssiConfigReq version on).cmd = domainControl :=
      msgGetDomain_ssiConfigReq _ _ _
    have htype : msgGetType (Request.ssiConfigReq version on).cmd = ssiConfigReq :=
      msgGetType_ssiConfigReq _ _ _
    have hstate : (msgDecodeSsiConfigReq (Request.ssiConfigReq version on).cmd).state =
        if on then 1 else 0 := msgDecodeSsiConfigReq_state _ _ _
    rw [if_pos hdomain, if_pos htype, hstate]
    cases on <;> rfl
  | newTimingConfigReq =>
    rw [if_pos (by decide), if_neg (by decide), if_pos (by decide)]
    unfold Request.answers Request.changes
    split <;> rfl
  | testRampPing rampstart ramplen =>
    have htype := msgGetType_rampPing rampstart ramplen
    rw [if_pos (msgGetDomain_rampPing rampstart ramplen), if_neg (by rw [htype]; decide),
      if_neg (by rw [htype]; decide), if_neg (by rw [htype]; decide)]
    rfl
  | exitRequest => rfl

/-! ### The client -/

/-- The messages to the thread among the effects of a call, in the order in which they are
written. -/
def asked (effects : List Effect) : List Cmd :=
  effects.filterMap fun
    | .threadWrite msg => some msg
    | _ => none

/-- The messages to the control pipe among the effects of a call, or of the thread: the client
puts messages there for itself to read. -/
def told (effects : List Effect) : List Cmd :=
  effects.filterMap fun
    | .controlWrite msg => some msg
    | _ => none

/-- What the client puts to the control pipe itself. -/
def emitted (k : DummyKernel) (on : Bool) : List Reply :=
  if k.controlWrite then [.speechConfigReq on] else []

/-- An SSI transaction is in progress: the client has asked for a connection or for the end of
one, and the thread has not answered, or its answer has not been read. -/
def PrivState.SsiWaits (p : PrivState) : Prop :=
  p = .connecting ∨ p = .disconnecting ∨ p = .ssiConfigPend

instance (p : PrivState) : Decidable p.SsiWaits := inferInstanceAs (Decidable (_ ∨ _))

/-- What `cmtspeech_read_event` does with a message: the protocol state, what goes to the thread,
and what goes to the control pipe. -/
inductive Reacts (k : DummyKernel) (s : BcState) :
    Reply → BcState → List Request → List Reply → Prop
  | uplinkStarts (h : s.protoState = .activeDl) :
    Reacts k s .uplinkConfigNtf (s.privStateChangeTo (some .activeDlul) .inSync) [] []
  | uplinkLate (h : s.protoState ≠ .activeDl) : Reacts k s .uplinkConfigNtf s [] []
  | timing : Reacts k s .timingConfigNtf (bcHandleTimingConfigNtf s) [] []
  | connects (h : s.privState = .connecting) :
    Reacts k s .ssiConfigResp
      { s.privStateChangeTo (some .connected) .inSync with sampleLayout := 2 } [] (emitted k true)
  | disconnects (h : s.privState = .disconnecting) :
    Reacts k s .ssiConfigResp s.privResetStateToDisconnected [] []
  | reopens (h : s.privState = .ssiConfigPend) (hc : s.callServerActive = true)
      (hk : k.threadWrite = ctrlLen) :
    Reacts k s .ssiConfigResp (s.privStateChangeTo (some .disconnected) .connecting).written
      [.ssiConfigReq s.confProtoVersion true] []
  | reopenFails (h : s.privState = .ssiConfigPend) (hc : s.callServerActive = true)
      (hk : k.threadWrite ≠ ctrlLen) :
    Reacts k s .ssiConfigResp (s.privStateChangeTo (some .disconnected) .connecting).unwritten [] []
  | recloses (h : s.privState = .ssiConfigPend) (hc : s.callServerActive = false)
      (hk : k.threadWrite = ctrlLen) :
    Reacts k s .ssiConfigResp (s.privStateChangeTo (some .connected) .disconnecting).written
      [.ssiConfigReq s.confProtoVersion false] (emitted k true)
  | recloseFails (h : s.privState = .ssiConfigPend) (hc : s.callServerActive = false)
      (hk : k.threadWrite ≠ ctrlLen) :
    Reacts k s .ssiConfigResp (s.privStateChangeTo (some .connected) .disconnecting).unwritten []
      (emitted k true)
  | ssiLate (h : ¬ s.privState.SsiWaits) :
    Reacts k s .ssiConfigResp s [] (if s.protoState = .connected then emitted k true else [])
  | speechStarts (h : s.protoState = .connected) (hk : k.threadWrite = ctrlLen) :
    Reacts k s (.speechConfigReq true) (s.privStateChangeTo (some .activeDl) .timing).written
      [.newTimingConfigReq] []
  | speechStartFails (h : s.protoState = .connected) (hk : k.threadWrite ≠ ctrlLen) :
    Reacts k s (.speechConfigReq true) (s.privStateChangeTo (some .activeDl) .inSync).unwritten
      [] []
  | uplinkStops (h : s.protoState = .activeDlul) :
    Reacts k s (.speechConfigReq true) (s.privStateChangeTo (some .activeDl) .inSync) [] []
  | speechKept (h₁ : s.protoState ≠ .connected) (h₂ : s.protoState ≠ .activeDlul) :
    Reacts k s (.speechConfigReq true) (s.privStateChangeTo none .configActPend) [] []
  | speechStops (h : s.protoState = .activeDl ∨ s.protoState = .activeDlul)
      (hc : s.callServerActive = true) :
    Reacts k s (.speechConfigReq false) (s.privStateChangeTo (some .connected) .inSync) [] []
  | hangsUp (h : s.protoState = .activeDl ∨ s.protoState = .activeDlul)
      (hc : s.callServerActive = false) (hk : k.threadWrite = ctrlLen) :
    Reacts k s (.speechConfigReq false)
      (s.privStateChangeTo (some .connected) .disconnecting).written
      [.ssiConfigReq s.confProtoVersion false] []
  | hangUpFails (h : s.protoState = .activeDl ∨ s.protoState = .activeDlul)
      (hc : s.callServerActive = false) (hk : k.threadWrite ≠ ctrlLen) :
    Reacts k s (.speechConfigReq false) (s.privStateChangeTo (some .connected) .inSync).unwritten
      [] []
  | speechStopsLate (h₁ : s.protoState ≠ .activeDl) (h₂ : s.protoState ≠ .activeDlul) :
    Reacts k s (.speechConfigReq false) (s.privStateChangeTo none .configDeactPend) [] []

/-- A call of `cmtspeech_read_event` takes the message `p` as the rules say: it succeeds, the
protocol state moves by a rule, and what it asks and tells is what the rule says. -/
def Obeys (k : DummyKernel) (s : BcState) (p : Reply) (r : ℤ × Event × ClientCall) : Prop :=
  r.1 = 0 ∧ ∃ reqs reps, Reacts k s p r.2.2.bcstate reqs reps ∧
    asked r.2.2.effects = reqs.map Request.cmd ∧ told r.2.2.effects = reps.map Reply.cmd

namespace ClientCall

section
variable (res : ℤ) {cmd : Cmd} (x : ClientCall)

theorem bcHandleCommand_speechConfigReq (h : msgGetType cmd = speechConfigReq) :
    bcHandleCommand res cmd x =
      (0,
        newEvent speechConfigReq (.speechConfigReq (msgDecodeSpeechConfigReq cmd) false) x.bcstate,
        x.modBc fun s => s.privStateChangeTo none
          (if (msgDecodeSpeechConfigReq cmd).speechDataStream ≠ 0 then .configActPend
            else .configDeactPend)) := by
  simp [bcHandleCommand, newEvent, h]

theorem bcHandleCommand_uplinkConfigNtf (h : msgGetType cmd = uplinkConfigNtf) :
    bcHandleCommand res cmd x =
      (0, newEvent uplinkConfigNtf .none x.bcstate, x.modBc fun s =>
        if s.protoState = .activeDl then s.privStateChangeTo (some .activeDlul) .inSync
        else s) := by
  simp [bcHandleCommand, newEvent, h]

theorem bcHandleCommand_timingConfigNtf (h : msgGetType cmd = timingConfigNtf) :
    bcHandleCommand res cmd x =
      (0, newEvent timingConfigNtf (.timingConfigNtf (msgDecodeTimingConfigNtf cmd).1
          (msgDecodeTimingConfigNtf cmd).2 ⟨0, 0⟩) x.bcstate,
        x.modBc bcHandleTimingConfigNtf) := by
  simp [bcHandleCommand, newEvent, h]

theorem bcHandleCommand_ssiConfigResp (h : msgGetType cmd = ssiConfigResp) :
    bcHandleCommand res cmd x =
      (0, newEvent ssiConfigResp (.ssiConfigResp (msgDecodeSsiConfigResp cmd) 0) x.bcstate,
        bcHandleSsiConfigResp res (msgDecodeSsiConfigResp cmd) x) := by
  simp [bcHandleCommand, newEvent, h]

end

/-- A message other than an `SSI_CONFIG_RESP` or a `SPEECH_CONFIG_REQ`. -/
theorem readEvent_other {k : DummyKernel} {msg : Cmd} {x y : ClientCall} {res : ℤ} {type : ℕ}
    {eventMsg : EventMsg}
    (h : bcHandleCommand k.threadWrite msg x = (res, newEvent type eventMsg x.bcstate, y))
    (h₁ : type ≠ ssiConfigResp) (h₂ : type ≠ speechConfigReq)
    (h₃ : ¬ (y.bcstate.protoState = .connected ∧ x.bcstate.protoState = .disconnected)) :
    (readEvent k msg x).1 = res ∧ (readEvent k msg x).2.2 = y := by
  unfold readEvent
  rw [h]
  simp only [newEvent, h₁, h₂, h₃, if_false, and_self]

variable (k : DummyKernel) (s : BcState)

/-- With nothing done but that the protocol state changes. -/
theorem follows_of_eq {p : Reply} {s' : BcState} {r : ℤ × Event × ClientCall}
    (h : r.1 = 0 ∧ r.2.2 = ⟨s', []⟩) (hr : Reacts k s p s' [] []) : Obeys k s p r := by
  obtain ⟨hres, hcall⟩ := h
  refine ⟨hres, [], [], ?_, ?_, ?_⟩
  · rwa [hcall]
  · rw [hcall]
    rfl
  · rw [hcall]
    rfl

theorem follows_uplinkConfigNtf :
    Obeys k s .uplinkConfigNtf (readEvent k Reply.uplinkConfigNtf.cmd ⟨s, []⟩) := by
  have hhandle := bcHandleCommand_uplinkConfigNtf k.threadWrite ⟨s, []⟩
    (show msgGetType Reply.uplinkConfigNtf.cmd = uplinkConfigNtf by decide)
  by_cases hs : s.protoState = .activeDl
  · simp only [modBc, if_pos hs] at hhandle
    exact follows_of_eq k s (readEvent_other hhandle (by decide) (by decide) (by simp))
      (.uplinkStarts hs)
  · simp only [modBc, if_neg hs] at hhandle
    refine follows_of_eq k s (readEvent_other hhandle (by decide) (by decide) ?_) (.uplinkLate hs)
    rintro ⟨h, h'⟩
    exact absurd (h.symm.trans h') (by decide)

theorem follows_timingConfigNtf :
    Obeys k s .timingConfigNtf (readEvent k Reply.timingConfigNtf.cmd ⟨s, []⟩) := by
  have hhandle := bcHandleCommand_timingConfigNtf k.threadWrite ⟨s, []⟩
    (show msgGetType Reply.timingConfigNtf.cmd = timingConfigNtf by decide)
  refine follows_of_eq k s (readEvent_other hhandle (by decide) (by decide) ?_) .timing
  rintro ⟨h, h'⟩
  have hs : s.protoState = .disconnected := h'
  have hs' : (bcHandleTimingConfigNtf s).protoState = .connected := h
  rcases bcHandleTimingConfigNtf_cases s with ⟨hd, -⟩ | ⟨-, -, heq⟩ | ⟨-, heq⟩
  · exact absurd (hs.symm.trans hd) (by decide)
  · rw [heq, BcState.privStateChangeTo_protoState, Option.getD_none, hs] at hs'
    exact absurd hs' (by decide)
  · rw [heq, hs] at hs'
    exact absurd hs' (by decide)

/-- The last thing `cmtspeech_read_event` may do tells the other side nothing. -/
theorem changeState_quiet (x : ClientCall) (c : Prop) [Decidable c] (newState : DummyState) :
    (if c then x.emit (.changeState newState) else x).bcstate = x.bcstate ∧
      asked (if c then x.emit (.changeState newState) else x).effects = asked x.effects ∧
      told (if c then x.emit (.changeState newState) else x).effects = told x.effects := by
  split
  · simp [asked, told]
  · exact ⟨rfl, rfl, rfl⟩

/-- An `SSI_CONFIG_RESP`: the client asks for speech if the link is up. -/
theorem readEvent_ssi {k : DummyKernel} {msg : Cmd} {x y : ClientCall} {res : ℤ}
    {eventMsg : EventMsg}
    (h : bcHandleCommand k.threadWrite msg x =
      (res, newEvent ssiConfigResp eventMsg x.bcstate, y)) :
    (readEvent k msg x).1 = res ∧ (readEvent k msg x).2.2.bcstate = y.bcstate ∧
      asked (readEvent k msg x).2.2.effects = asked y.effects ∧
      told (readEvent k msg x).2.2.effects = told y.effects ++
        (if y.bcstate.protoState = .connected then emitted k true else []).map Reply.cmd := by
  unfold readEvent
  rw [h]
  simp only [newEvent, if_true, changeState_quiet]
  refine ⟨trivial, ?_⟩
  unfold privEmitSpeechConfigReq emitted
  by_cases hc : y.bcstate.protoState = .connected
  · by_cases hk : k.controlWrite
    · simp [hc, hk, asked, told, Reply.cmd]
    · simp [hc, hk]
  · simp [hc]

theorem follows_ssiConfigResp :
    Obeys k s .ssiConfigResp (readEvent k Reply.ssiConfigResp.cmd ⟨s, []⟩) := by
  have hhandle := bcHandleCommand_ssiConfigResp k.threadWrite ⟨s, []⟩
    (show msgGetType Reply.ssiConfigResp.cmd = ssiConfigResp by decide)
  have hresp : msgDecodeSsiConfigResp Reply.ssiConfigResp.cmd = ⟨2, 0⟩ := by decide
  rw [hresp] at hhandle
  obtain ⟨hres, hbc, hasked, htold⟩ := readEvent_ssi hhandle
  unfold Obeys
  rw [hbc, hasked, htold]
  refine ⟨hres, ?_⟩
  unfold bcHandleSsiConfigResp
  rw [if_pos rfl]
  -- The thread reports success each time, so only the first half of the handler is left.
  by_cases h₁ : s.privState = .connecting
  · rw [if_pos h₁]
    exact ⟨[], _, .connects h₁, rfl, rfl⟩
  rw [if_neg h₁]
  by_cases h₂ : s.privState = .disconnecting
  · rw [if_pos h₂]
    exact ⟨[], _, .disconnects h₂, rfl, rfl⟩
  rw [if_neg h₂]
  by_cases h₃ : s.privState = .ssiConfigPend
  · rw [if_pos h₃]
    unfold bcPostCommand
    cases hc : s.callServerActive with
    | true =>
      rw [if_pos rfl, bcSendSsiConfigRequest_eq _ _ _ (Or.inl rfl)]
      by_cases hk : k.threadWrite = ctrlLen
      · rw [if_pos hk]
        exact ⟨_, _, .reopens h₃ hc hk, rfl, rfl⟩
      · rw [if_neg hk]
        exact ⟨_, _, .reopenFails h₃ hc hk, rfl, rfl⟩
    | false =>
      have hne : s.privState ≠ .disconnecting := h₂
      rw [if_neg (by decide), bcSendSsiConfigRequest_eq _ _ _ (Or.inr hne)]
      by_cases hk : k.threadWrite = ctrlLen
      · rw [if_pos hk]
        exact ⟨_, _, .recloses h₃ hc hk, rfl, rfl⟩
      · rw [if_neg hk]
        exact ⟨_, _, .recloseFails h₃ hc hk, rfl, rfl⟩
  · rw [if_neg h₃]
    refine ⟨[], _, .ssiLate ?_, rfl, rfl⟩
    rintro (h | h | h)
    · exact h₁ h
    · exact h₂ h
    · exact h₃ h

/-- A `SPEECH_CONFIG_REQ`: the reply is not written, but post-processed as if it were. -/
theorem readEvent_speech {k : DummyKernel} {msg : Cmd} {x y : ClientCall} {res : ℤ}
    {eventMsg : EventMsg}
    (h : bcHandleCommand k.threadWrite msg x =
      (res, newEvent speechConfigReq eventMsg x.bcstate, y)) :
    let z := bcPostCommand k.threadWrite (msgEncodeSpeechConfigResp 0) y
    (readEvent k msg x).1 = res ∧ (readEvent k msg x).2.2.bcstate = z.bcstate ∧
      asked (readEvent k msg x).2.2.effects = asked z.effects ∧
      told (readEvent k msg x).2.2.effects = told z.effects := by
  have hne : ¬ speechConfigReq = ssiConfigResp := by decide
  unfold readEvent
  rw [h]
  simp only [newEvent, hne, if_true, if_false, changeState_quiet]
  simp [asked, told]

/-- What the reply to a `SPEECH_CONFIG_REQ(1)` brings about. -/
theorem bcPostCommand_act (res : ℤ) (s : BcState) :
    bcPostCommand res (msgEncodeSpeechConfigResp 0) ⟨s.privStateChangeTo none .configActPend, []⟩ =
      if s.protoState = .connected then
        (bcSendTimingRequest res (postCommandBody res fun _ x => x)
          ⟨s.privStateChangeTo (some .activeDl) .inSync, []⟩).2
      else if s.protoState = .activeDlul then ⟨s.privStateChangeTo (some .activeDl) .inSync, []⟩
      else ⟨s.privStateChangeTo none .configActPend, []⟩ := by
  unfold bcPostCommand
  rw [postCommandBody, if_pos (by decide), if_neg (by decide), if_pos (by decide),
    if_neg (by decide)]
  cases hs : s.protoState <;> simp [BcState.privStateChangeTo, modBc, hs]

/-- What the reply to a `SPEECH_CONFIG_REQ(0)` brings about. -/
theorem bcPostCommand_deact (res : ℤ) (s : BcState) :
    bcPostCommand res (msgEncodeSpeechConfigResp 0)
        ⟨s.privStateChangeTo none .configDeactPend, []⟩ =
      if s.protoState = .activeDl ∨ s.protoState = .activeDlul then
        if s.callServerActive then ⟨s.privStateChangeTo (some .connected) .inSync, []⟩
        else
          (bcSendSsiConfigRequest res (postCommandBody res fun _ x => x) false
            ⟨s.privStateChangeTo (some .connected) .inSync, []⟩).2
      else ⟨s.privStateChangeTo none .configDeactPend, []⟩ := by
  unfold bcPostCommand
  rw [postCommandBody, if_pos (by decide), if_neg (by decide), if_pos (by decide),
    if_neg (by decide)]
  cases hs : s.protoState <;> cases hc : s.callServerActive <;>
    simp [BcState.privStateChangeTo, modBc, hs, hc]

theorem follows_speechConfigReq_true :
    Obeys k s (.speechConfigReq true) (readEvent k (Reply.speechConfigReq true).cmd ⟨s, []⟩) := by
  have hhandle := bcHandleCommand_speechConfigReq k.threadWrite ⟨s, []⟩
    (show msgGetType (Reply.speechConfigReq true).cmd = speechConfigReq by decide)
  have hreq : (msgDecodeSpeechConfigReq (Reply.speechConfigReq true).cmd).speechDataStream ≠ 0 := by
    decide
  simp only [modBc, if_pos hreq] at hhandle
  obtain ⟨hres, hbc, hasked, htold⟩ := readEvent_speech hhandle
  unfold Obeys
  rw [hbc, hasked, htold, bcPostCommand_act]
  refine ⟨hres, ?_⟩
  -- What follows a reply of success to the request: the timing is asked for, from CONNECTED.
  by_cases h₁ : s.protoState = .connected
  · rw [if_pos h₁, bcSendTimingRequest_eq]
    by_cases hk : k.threadWrite = ctrlLen
    · rw [if_pos hk]
      exact ⟨_, _, .speechStarts h₁ hk, rfl, rfl⟩
    · rw [if_neg hk]
      exact ⟨_, _, .speechStartFails h₁ hk, rfl, rfl⟩
  rw [if_neg h₁]
  by_cases h₂ : s.protoState = .activeDlul
  · rw [if_pos h₂]
    exact ⟨_, _, .uplinkStops h₂, rfl, rfl⟩
  · rw [if_neg h₂]
    exact ⟨_, _, .speechKept h₁ h₂, rfl, rfl⟩

theorem follows_speechConfigReq_false :
    Obeys k s (.speechConfigReq false)
      (readEvent k (Reply.speechConfigReq false).cmd ⟨s, []⟩) := by
  have hhandle := bcHandleCommand_speechConfigReq k.threadWrite ⟨s, []⟩
    (show msgGetType (Reply.speechConfigReq false).cmd = speechConfigReq by decide)
  have hreq :
      ¬ (msgDecodeSpeechConfigReq (Reply.speechConfigReq false).cmd).speechDataStream ≠ 0 := by
    decide
  simp only [modBc, if_neg hreq] at hhandle
  obtain ⟨hres, hbc, hasked, htold⟩ := readEvent_speech hhandle
  unfold Obeys
  rw [hbc, hasked, htold, bcPostCommand_deact]
  refine ⟨hres, ?_⟩
  -- The speech ends.  A call that has been ended meanwhile takes the connection down, too.
  by_cases h : s.protoState = .activeDl ∨ s.protoState = .activeDlul
  · rw [if_pos h]
    cases hc : s.callServerActive with
    | true =>
      rw [if_pos rfl]
      exact ⟨_, _, .speechStops h hc, rfl, rfl⟩
    | false =>
      rw [if_neg (by decide), bcSendSsiConfigRequest_eq _ _ _ (Or.inr PrivState.noConfusion)]
      by_cases hk : k.threadWrite = ctrlLen
      · rw [if_pos hk]
        exact ⟨_, _, .hangsUp h hc hk, rfl, rfl⟩
      · rw [if_neg hk]
        exact ⟨_, _, .hangUpFails h hc hk, rfl, rfl⟩
  · obtain ⟨h₁, h₂⟩ := not_or.mp h
    rw [if_neg h]
    exact ⟨_, _, .speechStopsLate h₁ h₂, rfl, rfl⟩

/-- **The client keeps to the rules**: it reads every message of the thread without an error. -/
theorem readEvent_reacts (p : Reply) : Obeys k s p (readEvent k p.cmd ⟨s, []⟩) := by
  cases p with
  | ssiConfigResp => exact follows_ssiConfigResp k s
  | uplinkConfigNtf => exact follows_uplinkConfigNtf k s
  | timingConfigNtf => exact follows_timingConfigNtf k s
  | speechConfigReq on =>
    cases on with
    | true => exact follows_speechConfigReq_true k s
    | false => exact follows_speechConfigReq_false k s

end ClientCall

/-! ### Calls of the application -/

/-- What `cmtspeech_bc_state_change_call_status` does, before it notes the status. -/
inductive StatusCall (res : ℤ) (s : BcState) : Bool → BcState → List Request → Prop
  | blocked (h : s.privState = .configDeactPend) :
    StatusCall res s false { s with ioErrors := s.ioErrors + 1 } []
  | closes (h : s.protoState = .connected) (hp : s.privState ≠ .disconnecting)
      (hres : res = ctrlLen) :
    StatusCall res s false (s.privStateChangeTo none .disconnecting).written
      [.ssiConfigReq s.confProtoVersion false]
  | closeFails (h : s.protoState = .connected) (hp : s.privState ≠ .disconnecting)
      (hres : res ≠ ctrlLen) :
    StatusCall res s false (s.privStateChangeTo none .inSync).unwritten []
  | closesLater (h : s.protoState ≠ .connected) (hp : s.privState = .connecting) :
    StatusCall res s false (s.privStateChangeTo none .ssiConfigPend) []
  | opens (h : s.protoState = .disconnected) (hres : res = ctrlLen) :
    StatusCall res s true (s.privStateChangeTo none .connecting).written
      [.ssiConfigReq s.confProtoVersion true]
  | openFails (h : s.protoState = .disconnected) (hres : res ≠ ctrlLen) :
    StatusCall res s true (s.privStateChangeTo none .inSync).unwritten []
  | opensLater (h : s.protoState = .connected) (hp : s.privState = .disconnecting) :
    StatusCall res s true (s.privStateChangeTo none .ssiConfigPend) []
  | needsReset (h : s.protoState = .invalid ∨ s.protoState = .testRampPingActive) :
    StatusCall res s true (s.privStateChangeTo none .resetBeforeConnect) []
  | restarts (h : s.protoState = .activeDl ∨ s.protoState = .activeDlul)
      (hc : s.callServerActive = false) (hio : 0 < s.ioErrors) (hres : res = ctrlLen) :
    StatusCall res s true
      (s.privResetStateToDisconnected.privStateChangeTo none .connecting).written
      [.ssiConfigReq s.confProtoVersion true]
  | restartFails (h : s.protoState = .activeDl ∨ s.protoState = .activeDlul)
      (hc : s.callServerActive = false) (hio : 0 < s.ioErrors) (hres : res ≠ ctrlLen) :
    StatusCall res s true
      (s.privResetStateToDisconnected.privStateChangeTo none .inSync).unwritten []
  | none (status : Bool) : StatusCall res s status s []

namespace ClientCall

/-- A call that has only messages for the thread. -/
def asking (s : BcState) (reqs : List Request) : ClientCall :=
  ⟨s, reqs.map fun r => .threadWrite r.cmd⟩

variable (res : ℤ) (s : BcState)

theorem bcCallTerminated_cases :
    ∃ s' reqs, bcCallTerminated res ⟨s, []⟩ = asking s' reqs ∧ StatusCall res s false s' reqs := by
  unfold bcCallTerminated bcPostCommand
  dsimp only
  by_cases h₁ : s.privState = .configDeactPend
  · rw [if_pos h₁]
    exact ⟨_, [], rfl, .blocked h₁⟩
  rw [if_neg h₁]
  by_cases h₂ : s.protoState = .connected
  · rw [if_pos h₂]
    -- The end has been asked for before: the function refuses a second request.
    by_cases hp : s.privState = .disconnecting
    · unfold bcSendSsiConfigRequest
      rw [if_pos ⟨rfl, hp⟩]
      exact ⟨_, [], rfl, .none false⟩
    · rw [bcSendSsiConfigRequest_eq _ _ _ (Or.inr hp)]
      by_cases hres : res = ctrlLen
      · rw [if_pos hres]
        exact ⟨_, [_], rfl, .closes h₂ hp hres⟩
      · rw [if_neg hres]
        exact ⟨_, [], rfl, .closeFails h₂ hp hres⟩
  rw [if_neg h₂]
  by_cases h₃ : s.privState = .connecting
  · rw [if_pos h₃]
    exact ⟨_, [], rfl, .closesLater h₂ h₃⟩
  · rw [if_neg h₃]
    exact ⟨_, [], rfl, .none false⟩

theorem bcCallStarted_cases :
    ∃ s' reqs, bcCallStarted res ⟨s, []⟩ = asking s' reqs ∧ StatusCall res s true s' reqs := by
  unfold bcCallStarted bcPostCommand
  dsimp only
  by_cases h₁ : s.protoState = .disconnected
  · rw [if_pos h₁, bcSendSsiConfigRequest_eq _ _ _ (Or.inl rfl)]
    by_cases hres : res = ctrlLen
    · rw [if_pos hres]
      exact ⟨_, [_], rfl, .opens h₁ hres⟩
    · rw [if_neg hres]
      exact ⟨_, [], rfl, .openFails h₁ hres⟩
  rw [if_neg h₁]
  by_cases h₂ : s.protoState = .connected ∧ s.privState = .disconnecting
  · rw [if_pos h₂]
    exact ⟨_, [], rfl, .opensLater h₂.1 h₂.2⟩
  rw [if_neg h₂]
  by_cases h₃ : s.protoState = .invalid ∨ s.protoState = .testRampPingActive
  · rw [if_pos h₃]
    exact ⟨_, [], rfl, .needsReset h₃⟩
  rw [if_neg h₃]
  by_cases h₄ : s.protoState = .activeDl ∨ s.protoState = .activeDlul
  · rw [if_pos h₄]
    cases hc : s.callServerActive with
    | true =>
      rw [if_pos rfl]
      exact ⟨_, [], rfl, .none true⟩
    | false =>
      rw [if_neg (by decide)]
      -- A speech that goes on without a call: only after failed writes is it taken for a crash.
      by_cases hio : 0 < s.ioErrors
      · rw [if_pos hio, bcSendSsiConfigRequest_eq _ _ _ (Or.inl rfl)]
        by_cases hres : res = ctrlLen
        · rw [if_pos hres]
          exact ⟨_, [_], rfl, .restarts h₄ hc hio hres⟩
        · rw [if_neg hres]
          exact ⟨_, [], rfl, .restartFails h₄ hc hio hres⟩
      · rw [if_neg hio]
        exact ⟨_, [], rfl, .none true⟩
  · rw [if_neg h₄]
    exact ⟨_, [], rfl, .none true⟩

end ClientCall

/-- What a call of the application does, other than to read an event: the protocol state it
leaves, the requests it sends to the thread, and what it puts in the control pipe itself. -/
inductive Calls (s : BcState) : BcState → List Request → List Reply → Prop
  | status {res : ℤ} {status : Bool} {s' : BcState} {reqs : List Request}
      (h : StatusCall res s status s' reqs) :
    Calls s { s' with callServerActive := status } reqs []
  | hangUp {res : ℤ} {s' : BcState} {reqs : List Request} (h : StatusCall res s false s' reqs)
      (ha : s'.protoState = .activeDl ∨ s'.protoState = .activeDlul) :
    Calls s { s' with callServerActive := false } reqs [.speechConfigReq false]
  | connect (state : Bool) : Calls s { s with callConnected := state } [] []
  | preference (h : s.isSsiConnectionEnabled = false) (version : BitVec 8) :
    Calls s { s with confProtoVersion := version } [] []
  | ramp (h : s.protoState = .disconnected) (rampstart ramplen : BitVec 8) :
    Calls s (s.written.privStateChangeTo (some .testRampPingActive) .inSync)
      [.testRampPing rampstart ramplen] []
  | rampFails (h : s.protoState = .disconnected) : Calls s s.unwritten [] []
  | close : Calls s s [.exitRequest] []
  | none : Calls s s [] []

/-- A call says to either side what the rules allow.  With this the calls can be forgotten: only
the conversation is left. -/
def Says (s : BcState) (x : ClientCall) : Prop :=
  ∃ reqs reps, Calls s x.bcstate reqs reps ∧
    asked x.effects = reqs.map Request.cmd ∧ told x.effects = reps.map Reply.cmd

theorem asked_append (xs ys : List Effect) : asked (xs ++ ys) = asked xs ++ asked ys :=
  List.filterMap_append ..

theorem told_append (xs ys : List Effect) : told (xs ++ ys) = told xs ++ told ys :=
  List.filterMap_append ..

theorem asked_requests (reqs : List Request) :
    asked (reqs.map fun r => .threadWrite r.cmd) = reqs.map Request.cmd := by
  induction reqs with
  | nil => rfl
  | cons r reqs ih => exact congrArg (r.cmd :: ·) ih

theorem told_requests (reqs : List Request) :
    told (reqs.map fun r => .threadWrite r.cmd) = [] := by
  induction reqs with
  | nil => rfl
  | cons r reqs ih => exact ih

namespace ClientCall

variable (k : DummyKernel) (s : BcState)

theorem bcStateChangeCallStatus_cases (res : ℤ) (status : Bool) :
    ∃ s' reqs, (bcStateChangeCallStatus res status ⟨s, []⟩).2 =
        asking { s' with callServerActive := status } reqs ∧
      StatusCall res s status s' reqs := by
  unfold bcStateChangeCallStatus
  cases status with
  | true =>
    obtain ⟨s', reqs, heq, hstatus⟩ := bcCallStarted_cases res s
    rw [if_neg (by decide), heq]
    exact ⟨s', reqs, rfl, hstatus⟩
  | false =>
    obtain ⟨s', reqs, heq, hstatus⟩ := bcCallTerminated_cases res s
    rw [if_pos (by decide), heq]
    exact ⟨s', reqs, rfl, hstatus⟩

/-- Other effects tell neither side anything, so that a call with them says what it says without. -/
theorem says_append {x : ClientCall} (effects : List Effect) {reqs : List Request}
    {reps : List Reply} {s s' : BcState} (hcalls : Calls s s' reqs reps)
    (hx : x = ⟨s', (reqs.map fun r => .threadWrite r.cmd) ++ effects⟩)
    (hasked : asked effects = []) (htold : told effects = reps.map Reply.cmd) : Says s x := by
  subst hx
  refine ⟨reqs, reps, hcalls, ?_, ?_⟩
  · rw [asked_append, asked_requests, hasked, List.append_nil]
  · rw [told_append, told_requests, htold, List.nil_append]

theorem says_stateChangeCallStatus (callServerStatus status : Bool) :
    Says s (stateChangeCallStatus k callServerStatus status ⟨s, []⟩).2 := by
  obtain ⟨s', reqs, heq, hstatus⟩ := bcStateChangeCallStatus_cases s k.threadWrite status
  unfold stateChangeCallStatus
  dsimp only
  rw [heq]
  cases status with
  | true =>
    cases callServerStatus with
    | true => exact says_append [] (.status hstatus) (by simp [asking]) rfl rfl
    | false => exact says_append [.changeState .initialized] (.status hstatus) rfl rfl rfl
  | false =>
    cases callServerStatus with
    | false => exact says_append [.setDlActive false] (.status hstatus) rfl rfl rfl
    | true =>
      -- The backend plays the modem: with speech in progress it asks for its end.
      by_cases ha : s'.protoState = .activeDl ∨ s'.protoState = .activeDlul
      · cases hk : k.controlWrite with
        | true =>
          refine says_append [.setDlActive false, .changeState .terminating,
            .controlWrite (Reply.speechConfigReq false).cmd] (.hangUp hstatus ha) ?_ rfl rfl
          simp [asking, privEmitSpeechConfigReq, ha, emit, Reply.cmd]
        | false =>
          refine says_append [.setDlActive false, .changeState .terminating] (.status hstatus)
            ?_ rfl rfl
          simp [asking, privEmitSpeechConfigReq, emit]
      · refine says_append [.setDlActive false, .changeState .terminating] (.status hstatus)
          ?_ rfl rfl
        simp [asking, ha, emit]

theorem says_stateChangeCallConnect (state : Bool) :
    Says s (stateChangeCallConnect state ⟨s, []⟩).2 :=
  ⟨[], [], .connect state, rfl, rfl⟩

theorem says_setWbPreference (enabled : Bool) : Says s (setWbPreference enabled ⟨s, []⟩).2 := by
  unfold setWbPreference
  dsimp only
  cases h : s.isSsiConnectionEnabled with
  | true => exact ⟨[], [], .none, rfl, rfl⟩
  | false => exact ⟨[], [], .preference h _, rfl, rfl⟩

theorem says_testDataRampReq (rampstart ramplen : BitVec 8) :
    Says s (testDataRampReq k rampstart ramplen ⟨s, []⟩).2 := by
  have hcmd : msgEncodeTestRampPing ⟨BitVec.ofNat 8 domainControl, BitVec.ofNat 8 domainData,
      rampstart, ramplen⟩ = (Request.testRampPing rampstart ramplen).cmd := rfl
  have htype := msgGetType_rampPing rampstart ramplen
  unfold testDataRampReq bcTestDataRampReq bcPostCommand
  dsimp only
  by_cases h : s.protoState = .disconnected
  · rw [if_neg (not_not.mpr h), hcmd, bcWriteCommand_leaf _ _ _ (by rw [htype]; decide)
      (by rw [htype]; decide), asks]
    by_cases hk : k.threadWrite = ctrlLen
    · rw [if_pos hk, if_neg (not_not.mpr hk)]
      exact ⟨[.testRampPing rampstart ramplen], [], .ramp h _ _, rfl, rfl⟩
    · rw [if_neg hk, if_pos hk]
      exact ⟨[], [], .rampFails h, rfl, rfl⟩
  · rw [if_pos h]
    exact ⟨[], [], .none, rfl, rfl⟩

theorem says_close : Says s (close ⟨s, []⟩) := ⟨[.exitRequest], [], .close, rfl, rfl⟩

end ClientCall

end CmtSpeech
