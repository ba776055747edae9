import CmtSpeech.DummyClient
import CmtSpeech.DummyQueue
import CmtSpeech.DummyTone
import CmtSpeech.PollTimer

/-!
# The dummy backend with its thread

An instance of the dummy backend (`cmtspeech_dummy.c`) together with the thread that stands for the
modem.  Two pipes go between the client and the thread, one for each direction; the states of the
backend and of the thread are variables that both see.

A call of the client first works out what it is to do, and then does it in steps of one `Effect`
each, which the steps of the thread come between.  The thread goes through its loop in steps as
well; a slot of the downlink is filled in one step, so what the slot holds is meaningful only while
the thread is not at `ThreadPc.fill`.

* `Dummy.handleInboundControlMessage` — what the thread does with a message.
* `DummySystem` — `struct cmtspeech_dummy_s`, and where the client and the thread are.
* `DummySystem.threadStep` — a step of `worker_thread`.
* `dummySystem` — the client and the thread as a transition system.
-/

namespace CmtSpeech

abbrev salBufferSlots : ℕ := 5
abbrev salFrameSizeOctets : ℕ := 320

instance : NeZero salBufferSlots := ⟨by decide⟩

/-! ### The tone -/

namespace DummyTone

/-- The samples that fit in a slot after the header. -/
def slotSamples (slot : ToneSlot) : ℕ := (slot.size.tdiv 2 - 2).toNat

/-- A slot is filled with the header and the next samples of the tone. -/
theorem fillBufferSlot_of_inTone {tone : DummyTone} (h : tone.InTone) (slot : ToneSlot)
    (counter : BitVec 16) :
    ∃ buf : Octets,
      (tone.fillBufferSlot slot counter).2 =
        some (tone.after (tone.tonePos.toNat + slotSamples slot),
          { slot with data := buf, count := slot.size, pcount := slot.size - dataHeaderLen }) ∧
      buf.samples 2 (slotSamples slot) =
        (List.range' tone.tonePos.toNat (slotSamples slot)).map tone.played ∧
      ∀ o, o < 4 → buf o = slotData slot counter o := by
  have hpos : 0 < tone.period := lt_of_le_of_lt h.1 h.2
  have hafter : tone.after tone.tonePos.toNat = tone := by
    rw [after, Int.toNat_of_nonneg h.1, Int.emod_eq_of_lt h.1 h.2]
  obtain ⟨buf, hloop, hsamples, hkept⟩ := fillLoop_eq hpos (slotSamples slot) tone.tonePos.toNat 2
    (slotData slot counter)
  rw [hafter] at hloop
  refine ⟨buf, ?_, hsamples, fun o ho => hkept o (Or.inl ho)⟩
  unfold fillBufferSlot
  rw [← slotSamples, hloop]
  rfl

end DummyTone

/-- A tone with the position in it, which is never divided by zero for. -/
structure PlayableTone extends DummyTone where
  inTone : toDummyTone.InTone

namespace PlayableTone

theorem isSome_fill (tone : PlayableTone) (slot : ToneSlot) (counter : BitVec 16) :
    (tone.fillBufferSlot slot counter).2.isSome := by
  obtain ⟨buf, h, -⟩ := DummyTone.fillBufferSlot_of_inTone tone.inTone slot counter
  rw [h]
  rfl

theorem inTone_fill (tone : PlayableTone) (slot : ToneSlot) (counter : BitVec 16) :
    ((tone.fillBufferSlot slot counter).2.get (tone.isSome_fill slot counter)).1.InTone := by
  obtain ⟨buf, h, -⟩ := DummyTone.fillBufferSlot_of_inTone tone.inTone slot counter
  rw [Option.get_of_eq_some _ h]
  exact DummyTone.inTone_after (lt_of_le_of_lt tone.inTone.1 tone.inTone.2) _

/-- `dummy_tone_fill_buffer_slot`, which comes to its end. -/
def fill (tone : PlayableTone) (slot : ToneSlot) (counter : BitVec 16) :
    PlayableTone × ToneSlot :=
  let r := (tone.fillBufferSlot slot counter).2.get (tone.isSome_fill slot counter)
  (⟨r.1, tone.inTone_fill slot counter⟩, r.2)

end PlayableTone

/-! ### The thread -/

/-- The result of `handle_inbound_control_message`, and what it does; `state` is the state of the
backend. -/
def Dummy.handleInboundControlMessage (state : DummyState) (msg : Cmd) : ℤ × List Effect :=
  if msgGetDomain msg = domainControl then
    if msgGetType msg = ssiConfigReq then
      (ctrlLen, .controlWrite (msgEncodeSsiConfigResp sampleLayoutInorderLe 0) ::
        if (msgDecodeSsiConfigReq msg).state = 0 then [.changeState .idle] else [])
    else if msgGetType msg = newTimingConfigReq then
      (ctrlLen, (if state = .mediaFlowing then [.controlWrite msgEncodeUplinkConfigNtf] else []) ++
        [.controlWrite (msgEncodeTimingConfigNtf 5 0)])
    else if msgGetType msg = speechConfigResp then (0, [])
    else (-1, [])
  else if msgGetDomain msg = domainInternal then (0, [])
  else (-1, [])

/-- Where in `worker_thread` the thread is: the places between which something else can happen. -/
inductive ThreadPc where
  /-- Before it looks whether it has been started. -/
  | start
  /-- It has been started, and is about to say that it is running. -/
  | started
  /-- At the top of the loop. -/
  | top
  /-- In `poll`, having read `state`. -/
  | poll (state : DummyState)
  /-- Before it looks whether a frame is due. -/
  | frame
  /-- `dl_buf_idx` has been moved, and the slot is being filled: all that the thread does to the
  slot, one sample after the other, is taken for one step. -/
  | fill
  /-- Out of the loop. -/
  | stopping
  | stopped
  deriving DecidableEq, Repr

/-- What `poll` and the clock say in a step of the thread.  Nothing is assumed of either. -/
structure ThreadEnv where
  /-- Whether `poll` fails, and if so whether it was interrupted. -/
  pollError : Option Bool
  prePollNow : Timespec
  isElapsedNow : Timespec
  elapsedNow : Timespec

/-- `dummy_buffer_t`; the index is the place in its array. -/
structure DummyBuffer extends ToneSlot where
  locked : Bool

/-- `init_buffer_slot`: the data is what the allocated memory holds. -/
def DummyBuffer.initBufferSlot (slot : DummyBuffer) : DummyBuffer where
  data := slot.data
  count := dataHeaderLen + salFrameSizeOctets
  pcount := salFrameSizeOctets
  size := dataHeaderLen + salFrameSizeOctets
  locked := false

/-! ### The instance -/

/-- `struct cmtspeech_dummy_s`, and where the client and the thread are. -/
structure DummySystem where
  dummy : Dummy
  callServerStatus : Bool
  ulBufIdx : Fin salBufferSlots
  dlBufIdx : Fin salBufferSlots
  dlFrameCounter : BitVec 16
  /-- The messages in `thread_pipes`, the oldest one first. -/
  threadPipe : List Cmd
  threadRunning : ThreadRunning
  ulBuffers : Fin salBufferSlots → DummyBuffer
  dlBuffers : Fin salBufferSlots → DummyBuffer
  tone : PlayableTone
  pollTimer : DummyPollTimer
  /-- What the call in progress has not done yet. -/
  clientTodo : List Effect
  /-- `cmtspeech_close` has been called. -/
  closing : Bool
  threadPc : ThreadPc
  /-- What the thread is to do before it goes on. -/
  threadTodo : List Effect

/-- What is seen of the client and the thread: the messages they say and hear, the frames that are
made, and the slots that the application takes and releases. -/
inductive SystemObs where
  /-- A call has a message for the thread. -/
  | sends (msg : Cmd)
  /-- The thread has handled a message. -/
  | handled (msg : Cmd) (res : ℤ)
  /-- A message comes into the control pipe. -/
  | came (msg : Cmd)
  /-- A message is read from the control pipe. -/
  | took (msg : Cmd)
  /-- `cmtspeech_read_event` has processed a message. -/
  | processed (msg : Cmd) (res : ℤ)
  /-- A frame is due at the time `now`. -/
  | frame (now : Timespec)
  /-- The frame is in the slot. -/
  | filled (i : Fin salBufferSlots)
  /-- A slot is given to the application. -/
  | acquiredUl (i : Fin salBufferSlots)
  | acquiredDl (i : Fin salBufferSlots)
  /-- The result of a call that releases a slot. -/
  | released (res : ℤ)

namespace DummySystem

/-- `cmtspeech_open`, with the tone it has got; `old` is what the allocated memory held before. -/
def cmtspeechOpen (old : DummySystem) (tone : PlayableTone) : DummySystem :=
  { old with
    dummy := old.dummy.cmtspeechOpen, callServerStatus := false
    ulBufIdx := 0, dlBufIdx := 0, dlFrameCounter := 0
    threadPipe := [], threadRunning := .started
    ulBuffers := fun i => (old.ulBuffers i).initBufferSlot
    dlBuffers := fun i => (old.dlBuffers i).initBufferSlot
    tone, pollTimer := old.pollTimer.init 20
    clientTodo := [], closing := false, threadPc := .start, threadTodo := [] }

variable (w : DummySystem)

/-- An effect takes place: a message goes into its pipe, or a field is set. -/
def perform (e : Effect) : DummySystem :=
  let w := { w with dummy := w.dummy.perform e }
  match e with
  | .threadWrite msg => { w with threadPipe := w.threadPipe ++ [msg] }
  | .setThreadRunning threadRunning => { w with threadRunning }
  | _ => w

/-- What is seen of an effect: what comes into the control pipe. -/
def effectObs : Effect → List SystemObs
  | .controlWrite msg => [.came msg]
  | _ => []

/-! ### Steps of the thread -/

/-- `priv_read_control_message`: a message is taken from the thread's pipe, and its handler leaves
the rest to be done. -/
def privReadControlMessage : DummySystem × List SystemObs :=
  match w.threadPipe with
  | [] => (w, [])
  | msg :: rest =>
    let r := Dummy.handleInboundControlMessage w.dummy.state msg
    ({ w with threadPipe := rest, threadTodo := r.2 }, [.handled msg r.1])

/-- Filling the slot that `dl_buf_idx` has been moved to.  The header and the samples come to the
slot in one step here; the application that reads the slot meanwhile finds some of the old samples
and some of the new ones. -/
def fillSlot (env : ThreadEnv) : DummySystem :=
  let r := w.tone.fill (w.dlBuffers w.dlBufIdx).toToneSlot w.dlFrameCounter
  { w with
    tone := r.1
    dlBuffers := Function.update w.dlBuffers w.dlBufIdx
      { toToneSlot := r.2, locked := (w.dlBuffers w.dlBufIdx).locked }
    dlFrameCounter := w.dlFrameCounter + 1
    pollTimer := w.pollTimer.elapsedFixedPeriod env.elapsedNow
    threadTodo :=
      match msgEncodeDummyInternalMessage ctrlLen (BitVec.ofNat 8 dummyDlDataAvail) with
      | some msg => [.controlWrite msg]
      | none => []
    threadPc := .top }

/-- A step of the thread with nothing left to do before it goes on: it moves to the next place in
`worker_thread`, and what it says on the way is left to be done. -/
def threadGo (env : ThreadEnv) : DummySystem × List SystemObs :=
  match w.threadPc with
  | .start => ({ w with threadPc := if w.threadRunning = .started then .started else .top }, [])
  | .started => ({ w with threadRunning := .running, threadPc := .top }, [])
  | .top =>
    if w.threadRunning.exitRequested then ({ w with threadPc := .stopping }, [])
    else if w.dummy.state = .mediaFlowing ∧ w.dummy.dlActive then
      ({ w with
        pollTimer := (w.pollTimer.prePoll env.prePollNow).2
        threadPc := .poll w.dummy.state }, [])
    else ({ w with threadPc := .poll w.dummy.state }, [])
  | .poll state =>
    if state ≠ .mediaFlowing then
      match env.pollError with
      | some _ => ({ w with threadPc := .top }, [])
      | none => privReadControlMessage { w with threadPc := .top }
    else
      match env.pollError with
      | some true => ({ w with threadPc := .top }, [])
      | some false => ({ w with threadRunning := .exitReq, threadPc := .frame }, [])
      | none => privReadControlMessage { w with threadPc := .frame }
  | .frame =>
    if w.dummy.dlActive ≠ true then ({ w with threadPc := .top }, [])
    else if w.pollTimer.isElapsed env.isElapsedNow 5000000 ≠ true then
      ({ w with threadPc := .top }, [])
    else ({ w with dlBufIdx := w.dlBufIdx + 1, threadPc := .fill }, [.frame env.isElapsedNow])
  | .fill => (w.fillSlot env, [.filled w.dlBufIdx])
  | .stopping => ({ w with threadRunning := .terminated, threadPc := .stopped }, [])
  | .stopped => (w, [])

/-- A step of `worker_thread`: what is left to do comes first, one effect a step. -/
def threadStep (env : ThreadEnv) : DummySystem × List SystemObs :=
  match w.threadTodo with
  | [] => w.threadGo env
  | e :: todo => ({ w.perform e with threadTodo := todo }, effectObs e)

/-! ### Calls of the client -/

/-- The call in progress does the next thing; without one nothing happens. -/
def clientStep : DummySystem × List SystemObs :=
  match w.clientTodo with
  | [] => (w, [])
  | e :: todo => ({ w.perform e with clientTodo := todo }, effectObs e)

/-- What a call is to do is left to be done, with the common state set at once; what it says to
the thread is shown. -/
def start (x : ClientCall) : DummySystem × List SystemObs :=
  ({ w with dummy := { w.dummy with bcstate := x.bcstate }, clientTodo := x.effects },
    x.effects.filterMap fun
      | .threadWrite msg => some (.sends msg)
      | _ => none)

/-- A call before it has done anything, with the common state as it stands. -/
def idle : ClientCall := ⟨w.dummy.bcstate, []⟩

/-- `cmtspeech_check_pending`: messages go from the control pipe into `pubbuf`, in one step. -/
def checkPending (flags : Bool) : DummySystem × List SystemObs :=
  ({ w with dummy := (w.dummy.checkPending flags).2.2 }, w.dummy.takes.map .took)

/-- `cmtspeech_read_event`: the message at the index of the reader is processed, without a look
whether there is one. -/
def readEvent (k : DummyKernel) : DummySystem × List SystemObs :=
  let msg := w.dummy.load w.dummy.pubbufRead
  let r := w.idle.readEvent k msg
  let w' := w.start r.2.2
  ({ w'.1 with
    dummy := { w'.1.dummy with pubbufRead := (w.dummy.pubbufRead + 4) % salMsgBuffer } },
    .processed msg r.1 :: w'.2)

/-- `cmtspeech_state_change_call_status`: the backend keeps the status for itself as well. -/
def stateChangeCallStatus (k : DummyKernel) (status : Bool) : DummySystem × List SystemObs :=
  { w with callServerStatus := status }.start
    (w.idle.stateChangeCallStatus k w.callServerStatus status).2

/-- `cmtspeech_ul_buffer_acquire`: the slots are given out in turn, locked or not. -/
def ulBufferAcquire : DummySystem × List SystemObs :=
  ({ w with
    ulBuffers := Function.update w.ulBuffers w.ulBufIdx
      { w.ulBuffers w.ulBufIdx with locked := true }
    ulBufIdx := w.ulBufIdx + 1 }, [.acquiredUl w.ulBufIdx])

/-- `cmtspeech_dl_buffer_acquire`: the slot of the frame that was begun last. -/
def dlBufferAcquire : DummySystem × List SystemObs :=
  ({ w with
    dlBuffers := Function.update w.dlBuffers w.dlBufIdx
      { w.dlBuffers w.dlBufIdx with locked := true } }, [.acquiredDl w.dlBufIdx])

/-- `cmtspeech_ul_buffer_release`, on a buffer with the index `i`; `own` says whether it is the one
in the slot. -/
def ulBufferRelease (i : Fin salBufferSlots) (own : Bool) : DummySystem × List SystemObs :=
  if ¬ (w.ulBuffers i).locked then (w, [.released (-einval)])
  else if ¬ own then (w, [.released (-einval)])
  else
    ({ w with ulBuffers := Function.update w.ulBuffers i { w.ulBuffers i with locked := false } },
      [.released 0])

/-- `cmtspeech_dl_buffer_release`: as for the uplink, a slot that is free and a buffer of somebody
else are refused. -/
def dlBufferRelease (i : Fin salBufferSlots) (own : Bool) : DummySystem × List SystemObs :=
  if ¬ (w.dlBuffers i).locked then (w, [.released (-enoent)])
  else if ¬ own then (w, [.released (-einval)])
  else
    ({ w with dlBuffers := Function.update w.dlBuffers i { w.dlBuffers i with locked := false } },
      [.released 0])

end DummySystem

/-- A call of the client, with what the kernel answers to it. -/
inductive ClientOp where
  | checkPending (flags : Bool)
  | readEvent (k : DummyKernel)
  | stateChangeCallStatus (k : DummyKernel) (status : Bool)
  | stateChangeCallConnect (state : Bool)
  | setWbPreference (enabled : Bool)
  | testDataRampReq (k : DummyKernel) (rampstart ramplen : BitVec 8)
  | ulBufferAcquire
  | ulBufferRelease (i : Fin salBufferSlots) (own : Bool)
  | dlBufferAcquire
  | dlBufferRelease (i : Fin salBufferSlots) (own : Bool)
  | close

/-- What the call does at once; the rest is left for the steps of the client. -/
def ClientOp.run (w : DummySystem) : ClientOp → DummySystem × List SystemObs
  | .checkPending flags => w.checkPending flags
  | .readEvent k => w.readEvent k
  | .stateChangeCallStatus k status => w.stateChangeCallStatus k status
  | .stateChangeCallConnect state => w.start (w.idle.stateChangeCallConnect state).2
  | .setWbPreference enabled => w.start (w.idle.setWbPreference enabled).2
  | .testDataRampReq k rampstart ramplen =>
    w.start (w.idle.testDataRampReq k rampstart ramplen).2
  | .ulBufferAcquire => w.ulBufferAcquire
  | .ulBufferRelease i own => w.ulBufferRelease i own
  | .dlBufferAcquire => w.dlBufferAcquire
  | .dlBufferRelease i own => w.dlBufferRelease i own
  | .close => { w with closing := true }.start w.idle.close

/-- A step of the system: the client calls, the call goes on, or the thread does. -/
inductive SystemOp where
  /-- The client makes a call, which it can when no call is in progress. -/
  | call (op : ClientOp)
  | clientStep
  | threadStep (env : ThreadEnv)

/-- The client and the thread, from `cmtspeech_open` on.  A step is the start of a call, one
effect of it, or one step of the thread, in any order. -/
def dummySystem : Lts DummySystem SystemOp SystemObs where
  init w := ∃ (old : DummySystem) (tone : PlayableTone) (env : ToneEnv),
    dummyToneInitialize env (some "sine") = some tone.toDummyTone ∧ w = old.cmtspeechOpen tone
  next w
    | .call op => if w.clientTodo = [] ∧ w.closing = false then op.run w else (w, [])
    | .clientStep => w.clientStep
    | .threadStep env => w.threadStep env

/-! ### An instance -/

/-- A system with memory that is all zeros, in which the tone is the sine. -/
def ToneEnv.zeroed : ToneEnv := ⟨none, fun _ => none, some fun _ => 0⟩

/-- The sine in memory that was zero, which is a tone of twenty samples. -/
def PlayableTone.sine : PlayableTone where
  toDummyTone := .start (octetsOf sinwave)
  inTone := by decide

/-- An instance just opened, in memory that was zero. -/
def DummySystem.fresh : DummySystem :=
  let buffer : DummyBuffer := ⟨⟨fun _ => 0, 0, 0, 0⟩, false⟩
  cmtspeechOpen
    { dummy := .fresh, callServerStatus := false, ulBufIdx := 0, dlBufIdx := 0
      dlFrameCounter := 0, threadPipe := [], threadRunning := .notStarted
      ulBuffers := fun _ => buffer, dlBuffers := fun _ => buffer, tone := .sine
      pollTimer := ⟨0, ⟨0, 0⟩, ⟨0, 0⟩, 0⟩, clientTodo := [], closing := false
      threadPc := .start, threadTodo := [] }
    .sine

theorem DummySystem.init_fresh : dummySystem.init .fresh := ⟨_, .sine, .zeroed, rfl, rfl⟩

/-- Nothing has happened to `poll`, and the clock is at its start. -/
def ThreadEnv.calm : ThreadEnv := ⟨none, ⟨0, 0⟩, ⟨0, 0⟩, ⟨0, 0⟩⟩

/-- A call is started, and the link is opened; the thread has started before. -/
def linkRun : List SystemOp :=
  [.threadStep .calm, .threadStep .calm,
    .call (.stateChangeCallStatus .accepting true), .clientStep, .clientStep,
    .threadStep .calm, .threadStep .calm, .threadStep .calm,
    .call (.checkPending true), .call (.readEvent .accepting)]

end CmtSpeech
