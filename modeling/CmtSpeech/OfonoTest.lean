import CmtSpeech.BufConfig
import CmtSpeech.LinkUpdown
import CmtSpeech.ReplyOnce

/-!
# The call client

`cmtspeech_ofono_test.c`, built for PulseAudio: a client that learns from D-Bus whether there is a
call, and lets the library and the audio streams carry its speech.  It reads a word in each pass of
its main loop, and takes what that does to the protocol state from the event.

* `Streams` — the streams, and what the client knows about the call.
* `OfonoCtx`, `testMainloopPass`, `testHandleDbusOfono` — the client.
* `ofonoTest` — the client with the library as a transition system.
* `Keeping` — the library while the client has at most one of its buffers.

## Main result

* `ofonoTest_answers`
-/

namespace CmtSpeech

open Protocol

/-! ### The client -/

/-- The streams of `struct test_ctx`, and what it says about them. -/
structure Streams where
  /-- The stream that records is open. -/
  source : Bool
  /-- The stream that plays is open. -/
  sink : Bool
  ulActive : Bool
  dlActive : Bool
  deriving DecidableEq, Repr

/-- Why the client exits, which it does at once and for good. -/
inductive Exit where
  /-- The stream that records is open without an uplink, or the other way round. -/
  | wrongSource
  /-- A frame comes in, and no stream is open to play it. -/
  | noSink
  /-- A call of PulseAudio fails. -/
  | audio
  /-- The assertion for a transition that is not known. -/
  | assertion
  deriving DecidableEq, Repr

/-- `struct test_ctx`, with the library its field `cmtspeech` stands for, and the variables of
`test_mainloop`. -/
structure OfonoCtx extends Streams where
  lib : Machine
  callServerStatus : Bool
  first : Bool
  /-- There is something to read from the library, as far as `poll` has said. -/
  cmtRevents : Bool
  /-- The same for D-Bus. -/
  dbusRevents : Bool
  /-- D-Bus has been among the two that were polled. -/
  dbusPolled : Bool
  exit : Option Exit

/-- What one call of `test_handle_cmtspeech_data_upload` meets. -/
structure UploadEnv where
  /-- The mapped area as the driver has left it. -/
  area : MmapArea
  /-- What has been recorded. -/
  payload : ℕ → BitVec 8
  /-- The kernel's answers in `cmtspeech_ul_buffer_release`. -/
  kernel : Kernel
  /-- The latency is known, and what is too much of it can be dropped. -/
  latency : Bool

/-- What one call of `test_handle_cmtspeech_data_download` meets. -/
structure DownloadEnv where
  area : MmapArea
  kernel : Kernel
  latency : Bool

/-- What one pass of `test_mainloop` meets: what `poll` and PulseAudio return, the word from the
modem, and the kernel of each call. -/
structure PassEnv where
  /-- There is a connection to D-Bus. -/
  dbusFd : Bool
  cmtRevents : Bool
  dbusRevents : Bool
  /-- The upload before anything is read. -/
  top : UploadEnv
  /-- What the driver delivers. -/
  word : Option Cmd
  /-- The kernel's answers in `cmtspeech_check_pending`. -/
  pending : Kernel
  /-- The upload after the first word. -/
  first : UploadEnv
  download : DownloadEnv
  /-- What is on the stack where the event goes. -/
  event : Event
  newSink : Bool
  newSource : Bool
  /-- The upload after the event. -/
  after : UploadEnv

namespace OfonoCtx

variable (ctx : OfonoCtx)

/-- The library is called, with what the kernel answers; of the client nothing else changes. -/
def call (k : Kernel) (op : Op) : OfonoCtx × List Obs :=
  ({ ctx with lib := (nokiamodem.next ctx.lib (k, op)).1 }, (nokiamodem.next ctx.lib (k, op)).2)

/-- The client goes on, unless it has exited: after that nothing more is done. -/
def andThen (r : OfonoCtx × List Obs) (f : OfonoCtx → OfonoCtx × List Obs) : OfonoCtx × List Obs :=
  if r.1.exit = none then ((f r.1).1, r.2 ++ (f r.1).2) else r

/-- `start_sink`: the stream that plays is opened, or the client exits. -/
def startSink (ok : Bool) : OfonoCtx :=
  if ok then { ctx with sink := true } else { ctx with sink := false, exit := some .audio }

/-- `start_source`: the stream that records is opened, or the client exits. -/
def startSource (ok : Bool) : OfonoCtx :=
  if ok then { ctx with source := true } else { ctx with source := false, exit := some .audio }

/-- What follows in `test_handle_cmtspeech_data_upload` when the frame has been sent. -/
def checkLatency (ok : Bool) : OfonoCtx := if ok then ctx else { ctx with exit := some .audio }

/-- `test_handle_cmtspeech_data_upload`: a frame that was recorded goes into an uplink buffer. -/
def testHandleCmtspeechDataUpload (env : UploadEnv) : OfonoCtx × List Obs :=
  let activeUl : Bool := ctx.lib.bcstate.protoState = .activeDlul
  if ctx.source ≠ activeUl then ({ ctx with exit := some .wrongSource }, [])
  else if ctx.source then
    let c := (ctx.call env.kernel (.driver env.area)).1
    match (ulBufferAcquire true c.lib.begin).1 with
    | .error _ =>
      let r := c.call env.kernel (.ulBufferAcquire true)
      (r.1.checkLatency env.latency, r.2)
    | .ok i =>
      let r := c.call env.kernel (.ulBufferAcquire true)
      let f := r.1.call env.kernel (.fillBuffer (.ul i) 0 env.payload)
      let s := f.1.call env.kernel (.ulBufferRelease (some i))
      (s.1.checkLatency env.latency, r.2 ++ f.2 ++ s.2)
  else (ctx, [])

/-- `test_handle_cmtspeech_data_download`: a frame that came in is played, and its buffer given
back. -/
def testHandleCmtspeechDataDownload (env : DownloadEnv) : OfonoCtx × List Obs :=
  if ctx.lib.bcstate.isActive = true then
    let c := (ctx.call env.kernel (.driver env.area)).1
    let r := c.call env.kernel (.dlBufferAcquire true)
    match (dlBufferAcquire true c.lib.begin).1 with
    | .error _ => r
    | .ok i =>
      if ctx.sink = false then ({ r.1 with exit := some .noSink }, r.2)
      else if env.latency = false then ({ r.1 with exit := some .audio }, r.2)
      else
        let s := r.1.call env.kernel (.dlBufferRelease i)
        (s.1, r.2 ++ s.2)
  else (ctx, [])

/-- What `test_handle_cmtspeech_control` makes of a transition. -/
def follow (tr : StateTransition) (newSink newSource : Bool) : OfonoCtx :=
  match tr with
  | .tr3DlStart =>
    let c := { ctx with dlActive := true }.startSink newSink
    if c.exit = none ∧ c.ulActive then c.startSource newSource else c
  | .tr4DlulStop =>
    { ctx with source := false, sink := false, dlActive := false, ulActive := false }
  | .tr11UlStop => { ctx with ulActive := false, source := false }
  | .tr12UlStart =>
    let c := { ctx with ulActive := true }
    if c.dlActive then c.startSource newSource else c
  | .invalid | .tr1Connected | .tr2Disconnected | .tr5ParamUpdate | .tr6TimingUpdate
  | .tr7TimingUpdate | .tr10Reset => ctx
  | .tr0NoChange => { ctx with exit := some .assertion }

/-- `test_handle_cmtspeech_control`; on an empty queue the event stays what it is. -/
def testHandleCmtspeechControl (env : PassEnv) : OfonoCtx × List Obs :=
  let event := (readEvent ctx.lib.begin).1.getD env.event
  let r := ctx.call env.pending .readEvent
  (r.1.follow (eventToStateTransition event) env.newSink env.newSource, r.2)

/-- `poll`, which is left out while the client records. -/
def poll (env : PassEnv) : OfonoCtx :=
  if ctx.source then { ctx with dbusPolled := env.dbusFd }
  else
    { ctx with
      cmtRevents := env.cmtRevents
      dbusRevents := if env.dbusFd then env.dbusRevents else ctx.dbusRevents
      dbusPolled := env.dbusFd }

/-- A pass of `test_mainloop` up to where it looks at what there is to read. -/
def top (env : PassEnv) : OfonoCtx × List Obs :=
  let c := ctx.poll env
  if c.source then c.testHandleCmtspeechDataUpload env.top else (c, [])

/-- The first word makes the client try an upload. -/
def uploadFirst (env : PassEnv) : OfonoCtx × List Obs :=
  if ctx.first then
    let r := ctx.testHandleCmtspeechDataUpload env.first
    ({ r.1 with first := false }, r.2)
  else (ctx, [])

/-- What is done about the flags of `cmtspeech_check_pending`. -/
def handleFlags (flags : BitVec 4) (env : PassEnv) : OfonoCtx × List Obs :=
  andThen
    (andThen (ctx.uploadFirst env) fun c =>
      if flags &&& eventDlData ≠ 0 then c.testHandleCmtspeechDataDownload env.download else (c, []))
    fun c =>
      if flags &&& eventControl ≠ 0 then
        andThen (c.testHandleCmtspeechControl env) fun c =>
          c.testHandleCmtspeechDataUpload env.after
      else (c, [])

/-- The part of a pass that is about the library. -/
def handleCmt (env : PassEnv) : OfonoCtx × List Obs :=
  if ctx.cmtRevents then
    let r := checkPending env.pending true env.word ctx.lib.begin
    let c := ctx.call env.pending (.checkPending true env.word)
    if r.1 > 0 then andThen c fun c => c.handleFlags r.2.1 env else c
  else (ctx, [])

/-- A pass of `test_mainloop` down to the messages of D-Bus. -/
def testMainloopPass (env : PassEnv) : OfonoCtx × List Obs :=
  andThen (ctx.top env) fun c => c.handleCmt env

/-- `test_handle_dbus_ofono` for a message that says whether there is a call. -/
def testHandleDbusOfono (k : Kernel) (state : Bool) : OfonoCtx × List Obs :=
  if state ≠ ctx.callServerStatus then
    let r := ctx.call k (.stateChangeCallStatus state)
    ({ r.1 with callServerStatus := state }, r.2)
  else (ctx, [])

end OfonoCtx

/-- The steps of the client: a pass of its loop, or a message of D-Bus about the call in the same
pass. -/
inductive OfonoStep where
  /-- A pass of the loop down to the messages of D-Bus. -/
  | pass (env : PassEnv)
  /-- A message of D-Bus in the same pass. -/
  | dbus (k : Kernel) (state : Bool)

/-- The client and the library, from `test_mainloop` on.  A client that has exited takes no
further step. -/
def ofonoTest : Lts OfonoCtx OfonoStep Obs where
  init ctx := nokiamodem.init ctx.lib ∧ ctx.toStreams = ⟨false, false, false, false⟩ ∧
    ctx.callServerStatus = false ∧ ctx.first = true ∧ ctx.dbusPolled = false ∧ ctx.exit = none
  next ctx step :=
    if ctx.exit = none then
      match step with
      | .pass env => ctx.testMainloopPass env
      | .dbus k state =>
        if ctx.dbusPolled ∧ ctx.dbusRevents then ctx.testHandleDbusOfono k state else (ctx, [])
    else (ctx, [])

/-! ### The library -/

/-- What is done with a buffer, or by the driver to the mapped area. -/
def Op.Handles : Op → Prop
  | .dlBufferAcquire _ | .dlBufferRelease _ | .ulBufferAcquire _ | .ulBufferRelease _
  | .fillBuffer _ _ _ | .driver _ => True
  | _ => False

/-- The library owes no reply, the application has no buffer but `held`, and is to read the events
`evbuf`. -/
structure Keeping (held : Option Slot) (evbuf : List Event) (m : Machine) : Prop where
  wellFormed : m.bcstate.WellFormed
  indexed : m.buf.Indexed
  respPend : m.buf.speechConfigRespPend = false
  locked : ∀ s, m.buf.Locked s → held = some s
  evbuf : m.d.evbuf = evbuf

/-- Without a buffer held, a call that gives out none leaves none, and replies to a
`SPEECH_CONFIG_REQ` at once. -/
theorem BufState.Answered.next {m : Machine} (h : m.buf.Answered) (k : Kernel) (op : Op)
    (ha : op.acquired m = none) :
    (nokiamodem.next m (k, op)).1.buf.Answered ∧
      (ComesToReply m.buf op → replies (nokiamodem.next m (k, op)).2 = 1) ∧
      (¬ ComesToReply m.buf op → replies (nokiamodem.next m (k, op)).2 = 0) := by
  have hout := dataOutcome m (k, op)
  have hfree : privLockedBufdescs m.buf = 0 := m.buf.privLockedBufdescs_eq_zero_iff.mpr h.free
  rw [← replies_filter]
  generalize (nokiamodem.next m (k, op)).2.filter Obs.dataPath = o at hout ⊢
  generalize (nokiamodem.next m (k, op)).1.buf = b' at hout ⊢
  cases hout with
  | keep hk hz hn =>
    refine ⟨⟨?_, hk.respPend.trans h.respPend⟩, fun hc => absurd hc hn.comes, fun _ => rfl⟩
    intro s hs
    rcases (hk.locked s).mp hs with hs | hs
    · exact absurd (ha.symm.trans hs) nofun
    · exact h.free s hs.1
  -- No buffer is held, so that nothing is postponed.
  | postpone hp _ _ =>
    obtain ⟨_, -, -, hl⟩ := hp.word
    exact absurd hfree hl
  | stop hc _ _ => exact ⟨answered_reset, fun _ => rfl, fun hn => absurd hc hn⟩
  | start hc _ _ hb hp => exact ⟨⟨hb.free, hp⟩, fun _ => rfl, fun hn => absurd hc hn⟩
  | refuse hc _ _ => exact ⟨answered_reset, fun _ => rfl, fun hn => absurd hc hn⟩
  | reset hr r =>
    exact ⟨answered_reset, fun hc => absurd hr hc.rewrites_nothing.1, fun _ => rfl⟩
  | relay hr _ hb hp =>
    exact ⟨⟨hb.free, hp.trans h.respPend⟩, fun hc => absurd hr hc.rewrites_nothing.2.1,
      fun _ => rfl⟩
  | relayRefused hr _ =>
    have hm : Marks m.buf (m.buf.resized (Op.rampSlotSize op)) := .of_desc rfl rfl rfl
    exact ⟨⟨fun s hs => h.free s ((hm.locked s).mp hs), h.respPend⟩,
      fun hc => absurd hr hc.rewrites_nothing.2.1, fun _ => rfl⟩
  | moveDl hm =>
    refine ⟨⟨?_, h.respPend⟩, fun hc => absurd hm (hc.rewrites_nothing.2.2.2 _), fun _ => rfl⟩
    intro s
    cases s with
    | ul i => exact h.free (.ul i)
    | dl i => exact BufState.not_locked_of_flags rfl

/-- `cmtspeech_check_pending` raises no control flag for a word that queues no event. -/
theorem checkPending_noEvent (k : Kernel) (m : Machine) {cmd : Cmd}
    (h : (nokiamodem.next m (k, .recv cmd)).2.filterMap Obs.event? = []) :
    (checkPending k true (some cmd) m.begin).2.1 &&& eventControl = 0 := by
  have hres := handleInboundControlMessage_result k cmd (m.begin.emit (.recv cmd))
  have hnone : (m.begin.emit (.recv cmd)).events.2 = [] := rfl
  change (handleInboundControlMessage k cmd (m.begin.emit (.recv cmd))).2.2.events.2 = [] at h
  change (handleInboundControlMessage k cmd (m.begin.emit (.recv cmd))).2.1 &&& eventControl = 0
  generalize handleInboundControlMessage k cmd (m.begin.emit (.recv cmd)) = r at hres h ⊢
  cases hres with
  | rejected | ramp =>
    show (0 : BitVec 4) &&& eventControl = 0
    decide
  | data _ hc _ _ => exact hc
  | event _ e he =>
    rw [he, hnone] at h
    cases h

namespace Keeping

variable {m : Machine} {held held' : Option Slot} {evbuf : List Event}

theorem answered (h : Keeping none evbuf m) : m.buf.Answered :=
  ⟨fun s hs => absurd (h.locked s hs) nofun, h.respPend⟩

/-- A call with a buffer; `held'` is the buffer the application has then. -/
theorem handles (h : Keeping held evbuf m) (k : Kernel) {op : Op} (hop : op.Handles)
    (hs : m.bcstate.protoState ≠ .testRampPingActive)
    (hl : ∀ s, op.acquired m = some s ∨ held = some s ∧ ¬ op.Releases s → held' = some s) :
    Keeping held' evbuf (nokiamodem.next m (k, op)).1 ∧
      (nokiamodem.next m (k, op)).1.bcstate = m.bcstate ∧
      replies (nokiamodem.next m (k, op)).2 = 0 := by
  have hno : ¬ Interrupts m.bcstate op := by
    match op, hop with
    | .dlBufferAcquire _, _ | .dlBufferRelease _, _ | .ulBufferAcquire _, _
    | .ulBufferRelease _, _ | .fillBuffer _ _ _, _ | .driver _, _ => exact id
  have hdirect : NoDirectSsi (k, op) := by
    rintro b rfl
    exact hop
  have hword : ∀ cmd, op ≠ .recv cmd := by
    rintro cmd rfl
    exact hop
  have hread : op ≠ .readEvent := by
    rintro rfl
    exact hop
  obtain ⟨hreplies, hpend⟩ := next_of_answered (i := (k, op)) hno h.respPend
  -- No reply is pending and no ramp is active, so that the data path has no word in the protocol.
  have hbc : (nokiamodem.next m (k, op)).1.bcstate = m.bcstate := by
    have hproto : ProtoStep k op _ _ _ := nokiamodem_refines m (k, op)
    have hp : m.view.respPend = false := h.respPend
    show (nokiamodem.next m (k, op)).1.view.bc = m.view.bc
    generalize nokiamodem.visible Obs.visible m (k, op) = o at hproto
    generalize (nokiamodem.next m (k, op)).1.view = v' at hproto ⊢
    cases hproto with
    | dlAcquireTest ht => exact absurd ht hs
    | dlReleaseReply hp' _ => exact absurd (hp.symm.trans hp') nofun
    | ulReleaseReply hp' _ => exact absurd (hp.symm.trans hp') nofun
    | dlAcquire | dlRelease | ulAcquire | ulRelease | fillBuffer | driver => rfl
    | _ => exact hop.elim
  refine ⟨⟨?_, indexed_next m _ h.indexed, hpend, ?_, ?_⟩, hbc, hreplies⟩
  · exact hbc ▸ h.wellFormed
  · intro s hlock
    refine hl s ((locked_next h.indexed (k, op) hlock).imp id ?_)
    exact fun hr => ⟨h.locked s hr.1, hr.2⟩
  · exact (congrArg Prod.fst (Op.run_events k m.begin op hword hread)).trans h.evbuf

/-- A word queues at most one event, and the reply to a request is made at once: the client holds
no buffer. -/
theorem recv (h : Keeping none [] m) (k : Kernel) (cmd : Cmd) :
    ∃ es, (nokiamodem.next m (k, .recv cmd)).2.filterMap Obs.event? = es ∧
      RecvEvents k cmd m.view (nokiamodem.next m (k, .recv cmd)).1.view es ∧
      Keeping none es (nokiamodem.next m (k, .recv cmd)).1 ∧
      (SpeechConfigReqWord cmd → replies (nokiamodem.next m (k, .recv cmd)).2 = 1) ∧
      (¬ SpeechConfigReqWord cmd → replies (nokiamodem.next m (k, .recv cmd)).2 = 0) := by
  obtain ⟨es, hes, hbuf, hrecv⟩ := next_recvEvents m k cmd
  obtain ⟨hans, hyes, hno⟩ := h.answered.next k (.recv cmd) rfl
  have hfree : privLockedBufdescs m.buf = 0 :=
    m.buf.privLockedBufdescs_eq_zero_iff.mpr h.answered.free
  refine ⟨es, hes, hrecv, ⟨?_, ?_, ?_, ?_, ?_⟩, fun hw => hyes ⟨hw, hfree⟩,
    fun hw => hno fun hc => hw hc.1⟩
  · exact wellFormed_next (fun b hb => nomatch hb) h.wellFormed
  · exact indexed_next m _ h.indexed
  · exact hans.respPend
  · exact fun s hs => absurd hs (hans.free s)
  · rw [hbuf, h.evbuf]
    cases hrecv <;> rfl

/-- The event is read, and nothing else of the library changes. -/
theorem readEvent (h : Keeping none evbuf m) (k : Kernel) :
    Keeping none evbuf.tail (nokiamodem.next m (k, .readEvent)).1 ∧
      (nokiamodem.next m (k, .readEvent)).1.bcstate = m.bcstate ∧
      (CmtSpeech.readEvent m.begin).1 = evbuf.head? ∧
      replies (nokiamodem.next m (k, .readEvent)).2 = 0 := by
  have hq := h.evbuf
  show Keeping none evbuf.tail (CmtSpeech.readEvent m.begin).2 ∧
    (CmtSpeech.readEvent m.begin).2.bcstate = m.bcstate ∧ _ ∧
    replies (CmtSpeech.readEvent m.begin).2.out = 0
  rw [CmtSpeech.readEvent, privDequeueControlEvent, begin_d, hq]
  cases evbuf with
  | nil => exact ⟨⟨h.wellFormed, h.indexed, h.respPend, h.locked, hq⟩, rfl, rfl, rfl⟩
  | cons e es => exact ⟨⟨h.wellFormed, h.indexed, h.respPend, h.locked, rfl⟩, rfl, rfl, rfl⟩

/-- A change of the call status makes no reply, and queues no event. -/
theorem callStatus (h : Keeping none [] m) (k : Kernel) (b : Bool) :
    Keeping none [] (nokiamodem.next m (k, .stateChangeCallStatus b)).1 ∧
      replies (nokiamodem.next m (k, .stateChangeCallStatus b)).2 = 0 := by
  obtain ⟨hans, -, hno⟩ := h.answered.next k (.stateChangeCallStatus b) rfl
  refine ⟨⟨?_, indexed_next m _ h.indexed, hans.respPend, ?_, ?_⟩, hno id⟩
  · exact wellFormed_next (fun b hb => nomatch hb) h.wellFormed
  · exact fun s hs => absurd hs (hans.free s)
  · have hev := Op.run_events k m.begin (.stateChangeCallStatus b) (fun cmd hc => nomatch hc) nofun
    exact (congrArg Prod.fst hev).trans h.evbuf

end Keeping

/-! ### Parts of a pass -/

namespace OfonoCtx

/-- The client has used buffers, and has `held` now: nothing but the library has changed, and that
in its data path. -/
structure Uses (held : Option Slot) (evbuf : List Event) (ctx : OfonoCtx)
    (r : OfonoCtx × List Obs) : Prop where
  streams : r.1.toStreams = ctx.toStreams
  first : r.1.first = ctx.first
  exit : r.1.exit = ctx.exit
  bcstate : r.1.lib.bcstate = ctx.lib.bcstate
  keeping : Keeping held evbuf r.1.lib
  replies : replies r.2 = 0

/-- The same for a part of the loop, in which the client may exit.  A client that has exited is
not looked at any more, so that only its replies and its streams count. -/
structure Idles (evbuf : List Event) (ctx : OfonoCtx) (r : OfonoCtx × List Obs) : Prop where
  streams : r.1.toStreams = ctx.toStreams
  first : r.1.first = true → ctx.first = true
  bcstate : r.1.lib.bcstate = ctx.lib.bcstate
  keeping : r.1.exit = none → Keeping none evbuf r.1.lib
  replies : replies r.2 = 0

variable {ctx : OfonoCtx} {evbuf : List Event} {held : Option Slot} {r : OfonoCtx × List Obs}

theorem Uses.refl (h : Keeping held evbuf ctx.lib) : Uses held evbuf ctx (ctx, []) :=
  ⟨rfl, rfl, rfl, rfl, h, rfl⟩

/-- One more call; `held'` is the buffer the client has then. -/
theorem Uses.call (h : Uses held evbuf ctx r) (hs : ctx.lib.bcstate.isActive = true) (k : Kernel)
    (op : Op) (hop : op.Handles) (held' : Option Slot)
    (hl : ∀ s, op.acquired r.1.lib = some s ∨ held = some s ∧ ¬ op.Releases s → held' = some s) :
    Uses held' evbuf ctx ((r.1.call k op).1, r.2 ++ (r.1.call k op).2) := by
  rw [← h.bcstate] at hs
  have hs' : r.1.lib.bcstate.protoState ≠ .testRampPingActive := by
    rcases (BcState.isActive_iff _).mp hs with hs | hs <;> rw [hs] <;> decide
  obtain ⟨hkeep, hbc, hreplies⟩ := h.keeping.handles k hop hs' hl
  refine ⟨h.streams, h.first, h.exit, hbc.trans h.bcstate, hkeep, ?_⟩
  rw [replies_append, h.replies, Nat.zero_add]
  exact hreplies

theorem Uses.idles (h : Uses none evbuf ctx r) : Idles evbuf ctx r :=
  ⟨h.streams, h.first ▸ id, h.bcstate, fun _ => h.keeping, h.replies⟩

/-- The client exits: nothing is said of what it leaves, and no reply was made on the way. -/
theorem Uses.idles_exit (h : Uses held evbuf ctx r) (e : Exit) :
    Idles evbuf ctx ({ r.1 with exit := some e }, r.2) :=
  ⟨h.streams, h.first ▸ id, h.bcstate, nofun, h.replies⟩

theorem Uses.checkLatency (h : Uses none evbuf ctx r) (ok : Bool) :
    Idles evbuf ctx (r.1.checkLatency ok, r.2) := by
  unfold OfonoCtx.checkLatency
  split
  · exact h.idles
  · exact h.idles_exit _

theorem acquired_ul {m : Machine} {r : Except ℤ (Fin ulSlots)}
    (h : (ulBufferAcquire true m.begin).1 = r) :
    (Op.ulBufferAcquire true).acquired m = r.toOption.map .ul := by
  rw [Op.acquired, h]

theorem acquired_dl {m : Machine} {r : Except ℤ (Fin dlSlots)}
    (h : (dlBufferAcquire true m.begin).1 = r) :
    (Op.dlBufferAcquire true).acquired m = r.toOption.map .dl := by
  rw [Op.acquired, h]

/-- An upload sends a frame and gives its buffer back. -/
theorem idles_upload (h : Keeping none evbuf ctx.lib) (env : UploadEnv) :
    Idles evbuf ctx (ctx.testHandleCmtspeechDataUpload env) := by
  unfold testHandleCmtspeechDataUpload
  dsimp only
  split
  · exact (Uses.refl h).idles_exit _
  · next hfits =>
    split
    · next hsource =>
      -- The test at the top has shown the recording stream to be open in ACTIVE_DLUL alone.
      have hs : ctx.lib.bcstate.isActive = true := by
        rw [hsource] at hfits
        exact (BcState.isActive_iff _).mpr (.inr (of_decide_eq_true (not_not.mp hfits).symm))
      have h₁ := (Uses.refl h).call hs env.kernel (.driver env.area) trivial none
        (by simp [Op.acquired])
      split
      · next hacq =>
        have h₂ := h₁.call hs env.kernel (.ulBufferAcquire true) trivial none
          (by simp [acquired_ul hacq, Except.toOption])
        exact h₂.checkLatency _
      · next i hacq =>
        have h₂ := h₁.call hs env.kernel (.ulBufferAcquire true) trivial (some (.ul i))
          (by simp [acquired_ul hacq, Except.toOption])
        -- The buffer is filled and given back in the same pass, so that none is held after it.
        have h₃ := h₂.call hs env.kernel (.fillBuffer (.ul i) 0 env.payload) trivial
          (some (.ul i)) (by simp [Op.acquired])
        have h₄ := h₃.call hs env.kernel (.ulBufferRelease (some i)) trivial none
          (by simp [Op.acquired, Op.Releases])
        exact h₄.checkLatency _
    · exact (Uses.refl h).idles

/-- A download plays a frame and gives its buffer back. -/
theorem idles_download (h : Keeping none evbuf ctx.lib) (env : DownloadEnv) :
    Idles evbuf ctx (ctx.testHandleCmtspeechDataDownload env) := by
  unfold testHandleCmtspeechDataDownload
  dsimp only
  split
  · next hs =>
    have h₁ := (Uses.refl h).call hs env.kernel (.driver env.area) trivial none
      (by simp [Op.acquired])
    split
    · next hacq =>
      have h₂ := h₁.call hs env.kernel (.dlBufferAcquire true) trivial none
        (by simp [acquired_dl hacq, Except.toOption])
      exact h₂.idles
    · next i hacq =>
      have h₂ := h₁.call hs env.kernel (.dlBufferAcquire true) trivial (some (.dl i))
        (by simp [acquired_dl hacq, Except.toOption])
      split
      -- It exits with the buffer held; nothing is promised of a client that has exited.
      · exact h₂.idles_exit _
      · split
        · exact h₂.idles_exit _
        · have h₃ := h₂.call hs env.kernel (.dlBufferRelease i) trivial none
            (by simp [Op.acquired, Op.Releases])
          exact h₃.idles
  · exact (Uses.refl h).idles

/-- One part of the loop after another: the second is only reached when the first has not exited. -/
theorem Idles.andThen (h : Idles evbuf ctx r) {f : OfonoCtx → OfonoCtx × List Obs}
    (hf : Keeping none evbuf r.1.lib → Idles evbuf r.1 (f r.1)) :
    Idles evbuf ctx (OfonoCtx.andThen r f) := by
  unfold OfonoCtx.andThen
  split
  · next hx =>
    have h' := hf (h.keeping hx)
    refine ⟨h'.streams.trans h.streams, fun hfirst => h.first (h'.first hfirst),
      h'.bcstate.trans h.bcstate, h'.keeping, ?_⟩
    rw [replies_append, h.replies, h'.replies]
  · exact h

theorem idles_uploadFirst (h : Keeping none evbuf ctx.lib) (env : PassEnv) :
    Idles evbuf ctx (ctx.uploadFirst env) := by
  unfold uploadFirst
  split
  · have hup := idles_upload h env.first
    exact ⟨hup.streams, nofun, hup.bcstate, hup.keeping, hup.replies⟩
  · exact (Uses.refl h).idles

theorem idles_top (h : Keeping none evbuf ctx.lib) (env : PassEnv) :
    Idles evbuf ctx (ctx.top env) := by
  have hpoll : (ctx.poll env).toStreams = ctx.toStreams ∧ (ctx.poll env).first = ctx.first ∧
      (ctx.poll env).lib = ctx.lib := by
    unfold poll
    split <;> exact ⟨rfl, rfl, rfl⟩
  obtain ⟨hs, hf, hl⟩ := hpoll
  have hidle : Idles evbuf (ctx.poll env) (ctx.top env) := by
    unfold top
    dsimp only
    split
    · exact idles_upload (hl.symm ▸ h) env.top
    · exact (Uses.refl (hl.symm ▸ h)).idles
  exact ⟨hidle.streams.trans hs, fun hfirst => hf ▸ hidle.first hfirst,
    hidle.bcstate.trans (congrArg Machine.bcstate hl), hidle.keeping, hidle.replies⟩

/-- Without an event nothing is done that has a bearing on the protocol. -/
theorem idles_handleFlags (h : Keeping none evbuf ctx.lib) {flags : BitVec 4}
    (hc : flags &&& eventControl = 0) (env : PassEnv) :
    Idles evbuf ctx (ctx.handleFlags flags env) := by
  unfold handleFlags
  refine ((idles_uploadFirst h env).andThen ?_).andThen ?_
  · intro h
    split
    · exact idles_download h env.download
    · exact (Uses.refl h).idles
  · intro h
    rw [if_neg (not_not.mpr hc)]
    exact (Uses.refl h).idles

/-- What is done about an event: the uplink first, then the event itself, then the uplink again. -/
theorem handleFlags_event (ctx : OfonoCtx) (env : PassEnv) :
    ctx.handleFlags eventControl env =
      andThen (ctx.uploadFirst env) fun c =>
        andThen (c.testHandleCmtspeechControl env) fun c =>
          c.testHandleCmtspeechDataUpload env.after := by
  have hdl : eventControl &&& eventDlData = 0 := by decide
  have hctl : eventControl &&& eventControl ≠ 0 := by decide
  unfold handleFlags
  generalize ctx.uploadFirst env = r
  rw [andThen, andThen]
  by_cases hx : r.1.exit = none
  · simp only [hx, if_true, hdl, hctl, ne_eq, not_true_eq_false, not_false_eq_true, if_false,
      List.append_nil, andThen]
  · simp only [hx, if_false, andThen]

/-! ### A pass and the buffers -/

@[simp] theorem lib_startSink (ctx : OfonoCtx) (ok : Bool) : (ctx.startSink ok).lib = ctx.lib := by
  cases ok <;> rfl

@[simp] theorem lib_startSource (ctx : OfonoCtx) (ok : Bool) :
    (ctx.startSource ok).lib = ctx.lib := by
  cases ok <;> rfl

theorem lib_follow (ctx : OfonoCtx) (tr : StateTransition) (newSink newSource : Bool) :
    (ctx.follow tr newSink newSource).lib = ctx.lib := by
  cases tr with
  | tr3DlStart | tr12UlStart =>
    simp only [follow]
    split <;> simp only [lib_startSink, lib_startSource]
  | _ => rfl

/-- What a part of the loop comes to that replies to nothing: the events of the library have been
read, and it owes no reply, unless the client has exited. -/
structure Settled (r : OfonoCtx × List Obs) : Prop where
  keeping : r.1.exit = none → Keeping none [] r.1.lib
  replies : CmtSpeech.replies r.2 = 0

theorem Idles.settled (h : Idles [] ctx r) : Settled r := ⟨h.keeping, h.replies⟩

/-- After a part of the loop that replies to nothing the replies are what they were. -/
theorem Settled.after {f : OfonoCtx → OfonoCtx × List Obs}
    (hf : r.1.exit = none → Settled (f r.1)) :
    ((OfonoCtx.andThen r f).1.exit = none → Keeping none [] (OfonoCtx.andThen r f).1.lib) ∧
      CmtSpeech.replies (OfonoCtx.andThen r f).2 = CmtSpeech.replies r.2 := by
  unfold OfonoCtx.andThen
  split
  · next hx =>
    refine ⟨(hf hx).keeping, ?_⟩
    rw [replies_append, (hf hx).replies, Nat.add_zero]
  · next hx => exact ⟨fun h => absurd h hx, rfl⟩

theorem Settled.andThen (hr : CmtSpeech.replies r.2 = 0) {f : OfonoCtx → OfonoCtx × List Obs}
    (hf : r.1.exit = none → Settled (f r.1)) : Settled (OfonoCtx.andThen r f) :=
  ⟨(Settled.after hf).1, (Settled.after hf).2.trans hr⟩

/-- The event is read, and following it makes no reply and touches no buffer. -/
theorem keeping_control {e : Event} (h : Keeping none [e] ctx.lib) (env : PassEnv) :
    Keeping none [] (ctx.testHandleCmtspeechControl env).1.lib ∧
      (ctx.testHandleCmtspeechControl env).1.lib.bcstate = ctx.lib.bcstate ∧
      CmtSpeech.replies (ctx.testHandleCmtspeechControl env).2 = 0 := by
  obtain ⟨hkeep, hbc, -, hreplies⟩ := h.readEvent env.pending
  unfold testHandleCmtspeechControl
  dsimp only
  rw [lib_follow]
  exact ⟨hkeep, hbc, hreplies⟩

theorem settled_handleFlags_event {e : Event} (h : Keeping none [e] ctx.lib) (env : PassEnv) :
    Settled (ctx.handleFlags eventControl env) := by
  have hfirst := idles_uploadFirst h env
  rw [handleFlags_event]
  refine .andThen hfirst.replies fun hx => ?_
  obtain ⟨hkeep, -, hreplies⟩ := keeping_control (hfirst.keeping hx) env
  exact .andThen hreplies fun _ => (idles_upload hkeep env.after).settled

/-- The client reads a `SPEECH_CONFIG_REQ` here, and so comes to owe a reply. -/
def Requested (ctx : OfonoCtx) (env : PassEnv) : Prop :=
  ctx.cmtRevents = true ∧ ∃ cmd, env.word = some cmd ∧ SpeechConfigReqWord cmd

/-- What a word leads to is settled before the next is read. -/
theorem settled_flags {es : List Event} {k : Kernel} {cmd : Cmd} (env : PassEnv)
    (hes : (nokiamodem.next ctx.lib (k, .recv cmd)).2.filterMap Obs.event? = es)
    (hrecv : RecvEvents k cmd ctx.lib.view (nokiamodem.next ctx.lib (k, .recv cmd)).1.view es)
    (hkeep : Keeping none es (nokiamodem.next ctx.lib (k, .recv cmd)).1) :
    Settled ((ctx.call k (.recv cmd)).1.handleFlags
        (checkPending k true (some cmd) ctx.lib.begin).2.1 env) ∧
      (es = [] ∨ (checkPending k true (some cmd) ctx.lib.begin).1 > 0) := by
  cases hrecv with
  | silent => exact ⟨(idles_handleFlags hkeep (checkPending_noEvent _ _ hes) env).settled, .inl rfl⟩
  | control | csError =>
    obtain ⟨hres, hflags⟩ := checkPending_event _ _ hes
    rw [hflags, hres]
    exact ⟨settled_handleFlags_event hkeep env, .inr one_pos⟩

/-- The client reads a word, and replies to a `SPEECH_CONFIG_REQ` alone. -/
theorem handleCmt_spec (h : Keeping none [] ctx.lib) (env : PassEnv) :
    ((ctx.handleCmt env).1.exit = none → Keeping none [] (ctx.handleCmt env).1.lib) ∧
      (ctx.Requested env → CmtSpeech.replies (ctx.handleCmt env).2 = 1) ∧
      (¬ ctx.Requested env → CmtSpeech.replies (ctx.handleCmt env).2 = 0) := by
  unfold handleCmt Requested
  split
  · next hrev =>
    match hword : env.word with
    | none =>
      refine ⟨fun _ => ⟨h.wellFormed, h.indexed, h.respPend, h.locked, h.evbuf⟩, ?_, fun _ => rfl⟩
      rintro ⟨-, cmd, hcmd, -⟩
      cases hcmd
    | some cmd =>
      obtain ⟨es, hes, hrecv, hkeep, hyes, hno⟩ := h.recv env.pending cmd
      obtain ⟨hsettled, hes⟩ := settled_flags env hes hrecv hkeep
      have hword : (ctx.cmtRevents = true ∧ ∃ c, some cmd = some c ∧ SpeechConfigReqWord c) ↔
          SpeechConfigReqWord cmd := by simp [hrev]
      rw [hword]
      dsimp only
      split
      -- What the client does with the flags makes no reply of its own.
      · obtain ⟨hkeep, hsame⟩ := Settled.after (r := ctx.call env.pending (.recv cmd))
          (f := fun c => c.handleFlags _ env) fun _ => hsettled
        exact ⟨hkeep, fun hw => hsame.trans (hyes hw), fun hw => hsame.trans (hno hw)⟩
      · next hres =>
        obtain rfl := hes.resolve_right hres
        exact ⟨fun _ => hkeep, hyes, hno⟩
  · next hrev => exact ⟨fun _ => h, fun hreq => absurd hreq.1 hrev, fun _ => rfl⟩

/-! ### Passes -/

theorem cmtRevents_upload (ctx : OfonoCtx) (env : UploadEnv) :
    (ctx.testHandleCmtspeechDataUpload env).1.cmtRevents = ctx.cmtRevents := by
  unfold testHandleCmtspeechDataUpload
  dsimp only
  split
  · rfl
  · split
    · split <;> cases env.latency <;> rfl
    · rfl

/-- An upload goes on if the stream that records fits the state, and its latency is no problem. -/
theorem exit_upload (ctx : OfonoCtx) (env : UploadEnv) :
    (ctx.testHandleCmtspeechDataUpload env).1.exit = none ↔
      ctx.exit = none ∧ ctx.source = decide (ctx.lib.bcstate.protoState = .activeDlul) ∧
        (ctx.source = true → env.latency = true) := by
  unfold testHandleCmtspeechDataUpload
  dsimp only
  split
  · next hfits => exact ⟨nofun, fun h => absurd h.2.1 hfits⟩
  · next hfits =>
    have hfits := not_not.mp hfits
    split
    · next hsource =>
      rw [← hfits, hsource]
      split <;> cases env.latency <;> simp [OfonoCtx.checkLatency, call]
    · next hsource => simp [hsource, ← hfits]

/-- The client comes to read from the library in this pass: while it records, only after it has
dealt with what it recorded, and otherwise whenever there is something to read. -/
def Reads (ctx : OfonoCtx) (env : PassEnv) : Prop :=
  if ctx.source then
    ctx.lib.bcstate.protoState = .activeDlul ∧ env.top.latency = true ∧ ctx.cmtRevents = true
  else env.cmtRevents = true

theorem reads_iff (hx : ctx.exit = none) (env : PassEnv) :
    ctx.Reads env ↔ (ctx.top env).1.exit = none ∧ (ctx.top env).1.cmtRevents = true := by
  unfold Reads top poll
  cases hsource : ctx.source with
  | false => simp [hsource, hx]
  | true =>
    simp only [hsource, if_true, exit_upload, cmtRevents_upload]
    simp [hx, and_assoc]

/-- A pass replies to the word it reads, if this is a `SPEECH_CONFIG_REQ`. -/
theorem pass_spec (h : Keeping none [] ctx.lib) (hx : ctx.exit = none) (env : PassEnv) :
    ((ctx.testMainloopPass env).1.exit = none →
        Keeping none [] (ctx.testMainloopPass env).1.lib) ∧
      (ctx.Reads env ∧ (∃ cmd, env.word = some cmd ∧ SpeechConfigReqWord cmd) →
        CmtSpeech.replies (ctx.testMainloopPass env).2 = 1) ∧
      (¬ (ctx.Reads env ∧ ∃ cmd, env.word = some cmd ∧ SpeechConfigReqWord cmd) →
        CmtSpeech.replies (ctx.testMainloopPass env).2 = 0) := by
  have htop := idles_top h env
  rw [reads_iff hx env]
  unfold testMainloopPass andThen
  split
  · next hx' =>
    obtain ⟨hkeep, hyes, hno⟩ := handleCmt_spec (htop.keeping hx') env
    rw [replies_append, htop.replies, Nat.zero_add]
    refine ⟨hkeep, fun hreq => hyes ⟨hreq.1.2, hreq.2⟩, fun hreq => hno ?_⟩
    exact fun hreq' => hreq ⟨⟨hx', hreq'.1⟩, hreq'.2⟩
  · next hx' =>
    exact ⟨fun h => absurd h hx', fun hreq => absurd hreq.1.1 hx', fun _ => htop.replies⟩

/-- A message of D-Bus changes the call status, which makes no reply. -/
theorem dbus_spec (h : Keeping none [] ctx.lib) (k : Kernel) (state : Bool) :
    Keeping none [] (ctx.testHandleDbusOfono k state).1.lib ∧
      CmtSpeech.replies (ctx.testHandleDbusOfono k state).2 = 0 := by
  unfold testHandleDbusOfono
  split
  · exact h.callStatus k state
  · exact ⟨h, rfl⟩

/-- The client reads a `SPEECH_CONFIG_REQ` in this step, to which it owes a reply in the same
step. -/
def Asked (ctx : OfonoCtx) : OfonoStep → Prop
  | .pass env =>
    ctx.exit = none ∧ ctx.Reads env ∧ ∃ cmd, env.word = some cmd ∧ SpeechConfigReqWord cmd
  | .dbus _ _ => False

/-- A step of the client holds no buffer after it, and makes one reply where a request was read,
and otherwise none. -/
theorem step_spec (h : ctx.exit = none → Keeping none [] ctx.lib) (step : OfonoStep) :
    ((ofonoTest.next ctx step).1.exit = none → Keeping none [] (ofonoTest.next ctx step).1.lib) ∧
      (ctx.Asked step → CmtSpeech.replies (ofonoTest.next ctx step).2 = 1) ∧
      (¬ ctx.Asked step → CmtSpeech.replies (ofonoTest.next ctx step).2 = 0) := by
  by_cases hx : ctx.exit = none
  · cases step with
    | pass env => simpa [ofonoTest, Asked, hx] using pass_spec (h hx) hx env
    | dbus k state =>
      simp only [ofonoTest, hx, if_true, Asked]
      split
      · obtain ⟨hkeep, hreplies⟩ := dbus_spec (h hx) k state
        exact ⟨fun _ => hkeep, False.elim, fun _ => hreplies⟩
      · exact ⟨fun _ => h hx, False.elim, fun _ => rfl⟩
  · have hnext : ofonoTest.next ctx step = (ctx, []) := if_neg hx
    rw [hnext]
    refine ⟨h, ?_, fun _ => rfl⟩
    cases step with
    | pass env => exact fun hreq => absurd hreq.1 hx
    | dbus k state => exact False.elim

end OfonoCtx

theorem keeping_init {ctx : OfonoCtx} (h : ofonoTest.init ctx) : Keeping none [] ctx.lib := by
  have hw := wellFormed_init h.1
  obtain ⟨area, old, hlib⟩ := h.1
  rw [hlib] at hw ⊢
  exact ⟨hw, indexed_reset, rfl, fun s hs => absurd hs (answered_reset.free s), rfl⟩

/-- **The client answers at once**: between the steps of any run it has no buffer and has read all
events, and it replies to a `SPEECH_CONFIG_REQ` in the pass that reads it, once, and at no other
time: with this client the library never puts a reply off. -/
theorem ofonoTest_answers {ctx : OfonoCtx} (h : ofonoTest.Reachable ctx) (step : OfonoStep) :
    (ctx.exit = none → (∀ s, ¬ ctx.lib.buf.Locked s) ∧ ctx.lib.d.evbuf = []) ∧
      (ctx.Asked step → replies (ofonoTest.next ctx step).2 = 1) ∧
      (¬ ctx.Asked step → replies (ofonoTest.next ctx step).2 = 0) := by
  have hkeep : ctx.exit = none → Keeping none [] ctx.lib :=
    ofonoTest.reachable_invariant (I := fun ctx => ctx.exit = none → Keeping none [] ctx.lib)
      (fun _ hinit _ => keeping_init hinit) (fun _ step h => (OfonoCtx.step_spec h step).1) h
  exact ⟨fun hx => ⟨(hkeep hx).answered.free, (hkeep hx).evbuf⟩, (OfonoCtx.step_spec hkeep step).2⟩

/-- The client as it starts: no stream is open, and there is no call. -/
def OfonoCtx.fresh : OfonoCtx where
  source := false
  sink := false
  ulActive := false
  dlActive := false
  lib := .fresh
  callServerStatus := false
  first := true
  cmtRevents := false
  dbusRevents := false
  dbusPolled := false
  exit := none

theorem init_ofonoFresh : ofonoTest.init .fresh := ⟨init_fresh, rfl, rfl, rfl, rfl, rfl⟩

/-- An upload that succeeds: what was recorded is read, and the kernel takes the frame. -/
def UploadEnv.ready : UploadEnv := ⟨.blank, fun _ => 0, .accepting, true⟩

/-- A pass in which every call succeeds and at most one word comes in. -/
def PassEnv.ready (word : Option Cmd) : PassEnv where
  dbusFd := true
  cmtRevents := true
  dbusRevents := true
  top := .ready
  word := word
  pending := .accepting
  first := .ready
  download := ⟨.blank, .accepting, true⟩
  event := ⟨.invalid, .invalid, 0, .resetDone 0⟩
  newSink := true
  newSource := true
  after := .ready

theorem ofonoTest_answers_first :
    let ctx := ofonoTest.exec .fresh [.pass (.ready none), .dbus .accepting true]
    let step := OfonoStep.pass (.ready (some (speechConfigReqMsg true)))
    (ctx.exit = none → (∀ s, ¬ ctx.lib.buf.Locked s) ∧ ctx.lib.d.evbuf = []) ∧
      (ctx.Asked step → replies (ofonoTest.next ctx step).2 = 1) ∧
      (¬ ctx.Asked step → replies (ofonoTest.next ctx step).2 = 0) :=
  ofonoTest_answers ⟨.fresh, _, init_ofonoFresh, rfl⟩ _

end CmtSpeech
