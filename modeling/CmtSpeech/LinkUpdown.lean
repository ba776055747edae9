import CmtSpeech.Agreement
import CmtSpeech.Inbound
import CmtSpeech.Lib.Simulation
import CmtSpeech.Transitions

/-!
# The link test

`test_cmtspeech.c`, a client of the library that sets up the SSI connection and takes it down, as
many times as it is told.  It runs with the library and the modem of `ssiLink`, which has no call
to offer and so sends no `SPEECH_CONFIG_REQ`.

* `TestCtx`, `linkUpdownCmtspeechEvents`, `linkUpdownLoop` — the client.
* `linkTest` — the client, the library and the modem as a transition system.
* `LinkState.Rests`, `LinkState.Waits` — the library and the modem between two messages.

## Main results

* `linkTest_passes` — the test finds no fault.
* `linkTest_exits` — the test comes to its end.
-/

namespace CmtSpeech

open Protocol

/-! ### The client -/

/-- `enum TestState`: where the test is, from its start to its exit or its failure. -/
inductive TestState where
  | init
  | started
  | waitingForConnected
  | waitingForDisconnected
  | exit
  | error
  deriving DecidableEq, Repr

/-- The values of `enum TestState`, which the loop compares by their order. -/
def TestState.toNat : TestState → ℕ
  | .init => 0
  | .started => 1
  | .waitingForConnected => 2
  | .waitingForDisconnected => 3
  | .exit => 4
  | .error => 5

abbrev testRounds : ℕ := 50

/-- `struct test_ctx`, and what its field `cmtspeech` is connected to: the library, the modem and
the channels between them. -/
structure TestCtx where
  link : LinkState
  state : TestState
  conns : ℕ
  connsTarget : ℕ
  errors : ℕ
  warnings : ℕ

/-- What one round of `link_updown_loop` meets: what `poll` returns, whether a signal has come,
and the kernels of the calls that are made. -/
structure LoopEnv where
  /-- The kernel's answers when the first call is started. -/
  start : Kernel
  /-- `poll` finds something to read. -/
  pollin : Bool
  /-- The kernel's answers in `cmtspeech_check_pending`. -/
  pending : Kernel
  /-- What is on the stack where the event goes. -/
  event : Event
  /-- The kernel's answers when the call status changes. -/
  change : Kernel
  /-- More time has passed than `TEST_INACTIVITY_TIMEOUT_SEC`. -/
  stuck : Bool
  /-- `SIGINT` has been caught. -/
  exitRequest : Bool

namespace TestCtx

variable (ctx : TestCtx)

/-- `test_check_impl`: a check that does not hold is counted, as an error or as a warning. -/
def testCheckImpl (error x : Bool) : TestCtx :=
  if x then ctx
  else if error then { ctx with errors := ctx.errors + 1 }
  else { ctx with warnings := ctx.warnings + 1 }

/-- `cmtspeech_state_change_call_status`, called by the client. -/
def stateChangeCallStatus (k : Kernel) (status : Bool) : TestCtx × List Obs :=
  let r := ssiLink.next ctx.link (.app k (.stateChangeCallStatus status))
  ({ ctx with link := r.1 }, r.2)

/-- `cmtspeech_read_event`, called by the client; on an empty queue the event stays what it is. -/
def readEvent (event : Event) : Event × TestCtx :=
  ((CmtSpeech.readEvent ctx.link.lib.begin).1.getD event,
    { ctx with link := (ssiLink.next ctx.link (.app .accepting .readEvent)).1 })

/-- `cmtspeech_check_pending`, called by the client: the result and the flags. -/
def checkPending (k : Kernel) : ℤ × BitVec 4 × TestCtx × List Obs :=
  let word := ctx.link.down.head?
  let r := CmtSpeech.checkPending k true word ctx.link.lib.begin
  let link := ctx.link.operate (k, .checkPending true word) ctx.link.down.tail
  (r.1, r.2.1, { ctx with link }, (nokiamodem.next ctx.link.lib (k, .checkPending true word)).2)

/-- `link_updown_cmtspeech_events`: the transition the client waits for takes the test on, and any
other is a failure. -/
def linkUpdownCmtspeechEvents (env : LoopEnv) : TestCtx × List Obs :=
  let r := ctx.readEvent env.event
  let tr := eventToStateTransition r.1
  let ctx := r.2.testCheckImpl false (tr = .tr1Connected ∨ tr = .tr2Disconnected)
  if ctx.state = .waitingForConnected ∧ tr = .tr1Connected then
    { ctx with conns := ctx.conns + 1, state := .waitingForDisconnected }.stateChangeCallStatus
      env.change false
  else if ctx.state = .waitingForDisconnected ∧ tr = .tr2Disconnected then
    if ctx.conns < ctx.connsTarget then
      { ctx with state := .waitingForConnected }.stateChangeCallStatus env.change true
    else ({ ctx with state := .exit }, [])
  else ({ ctx with state := .error }, [])

/-- What the loop does first: the test starts its first call. -/
def start (env : LoopEnv) : TestCtx × List Obs :=
  if ctx.state = .started then
    let r := ctx.stateChangeCallStatus env.start true
    ({ r.1 with state := .waitingForConnected }, r.2)
  else (ctx, [])

/-- What the loop does when `poll` has found something: the result of `cmtspeech_check_pending`, and
the state after its event, if there is one. -/
def handlePollin (env : LoopEnv) : ℤ × TestCtx × List Obs :=
  let r := ctx.checkPending env.pending
  if r.1 > 0 ∧ r.2.1 &&& eventControl ≠ 0 then
    let r' := r.2.2.1.linkUpdownCmtspeechEvents env
    (r.1, r'.1, r.2.2.2 ++ r'.2)
  else (r.1, r.2.2.1, r.2.2.2)

/-- What the loop checks last: whether the test is stuck, and whether it was told to stop. -/
def finish (env : LoopEnv) : TestCtx :=
  if env.stuck = true ∧ ctx.state.toNat < TestState.exit.toNat then
    { ctx.testCheckImpl true (TestState.started.toNat ≤ ctx.state.toNat) with state := .error }
  else if env.exitRequest then { ctx with state := .error }
  else ctx

/-- One round of `link_updown_loop`, which stops in `TEST_STATE_EXIT` and `TEST_STATE_ERROR`. -/
def linkUpdownLoop (env : LoopEnv) : TestCtx × List Obs :=
  if ctx.state.toNat < TestState.exit.toNat then
    let r := ctx.start env
    let r' := if env.pollin then r.1.handlePollin env else (0, r.1, [])
    if r'.1 < 0 then ({ r'.2.1 with state := .error }, r.2 ++ r'.2.2)
    else (r'.2.1.finish env, r.2 ++ r'.2.2)
  else (ctx, [])

end TestCtx

/-- The steps of the link test: the client and the modem take turns in any order. -/
inductive TestStep where
  /-- A round of the loop of the client. -/
  | loop (env : LoopEnv)
  /-- The modem handles a message; `resp` is the answer to an `SSI_CONFIG_REQ`. -/
  | handle (resp : Cmd)

/-- The link test as a transition system, from `link_updown_loop` on: a step is one round of the
loop, or the modem handling a message. -/
def linkTest : Lts TestCtx TestStep Obs where
  init ctx := ∃ link, ssiLink.init link ∧ ctx = ⟨link, .started, 0, testRounds, 0, 0⟩
  next ctx
    | .loop env => ctx.linkUpdownLoop env
    | .handle resp => ({ ctx with link := (ssiLink.next ctx.link (.handle resp)).1 }, [])

/-- The writes of the client succeed, it is neither stuck nor told to stop, and the modem answers
with success. -/
def TestStep.Assumed : TestStep → Prop
  | .loop env => env.start.WritesSucceed ∧ env.change.WritesSucceed ∧
    env.stuck = false ∧ env.exitRequest = false
  | .handle resp => SsiSuccessWord resp

/-- `poll` finds what there is to read.  Without this the test would wait for ever, which is no
fault of the library. -/
def TestStep.Polls (ctx : TestCtx) : TestStep → Prop
  | .loop env => ctx.link.down ≠ [] → env.pollin = true
  | .handle _ => True

/-! ### The library -/

namespace Protocol

variable {k : Kernel} {v v' : View} {o : List Obs} {b : Bool}

theorem SendSsi.sent_of (hk : k.WritesSucceed) (h : SendSsi k b v o v')
    (hp : v.bc.privState = .inSync) :
    sent o = [ssiConfigRequest v.bc b] ∧ v'.bc.protoState = v.bc.protoState ∧
      v'.bc.privState = ssiPending b := by
  cases h with
  | refused hb hp' => simp [hp] at hp'
  | full n hw hr =>
    refine ⟨?_, rfl, rfl⟩
    simp [List.filterMap_cons, Obs.sent?, hw]
  | short n hw hr => exact absurd (hk n) hw

/-- A call status that asks for the other connection. -/
theorem CallStatus.sent_of (hk : k.WritesSucceed) (h : CallStatus k b v o v')
    (hs : v.bc.protoState = if b then .disconnected else .connected)
    (hp : v.bc.privState = .inSync) :
    sent o = [ssiConfigRequest v.bc b] ∧ v'.bc.protoState = v.bc.protoState ∧
      v'.bc.privState = ssiPending b := by
  cases h with
  | disconnect _ _ hsend => exact hsend.sent_of hk hp
  | connect _ hsend => exact hsend.sent_of hk hp
  | _ => simp_all

theorem ProtoStep.callStatus_sent (hk : k.WritesSucceed)
    (h : ProtoStep k (.stateChangeCallStatus b) v o v')
    (hs : v.bc.protoState = if b then .disconnected else .connected)
    (hp : v.bc.privState = .inSync) :
    sent o = [ssiConfigRequest v.bc b] ∧ v'.bc.protoState = v.bc.protoState ∧
      v'.bc.privState = ssiPending b := by
  cases h with
  | callStatus h =>
    have hsend := h.sent_of hk hs hp
    exact hsend

/-- The answer the library waits for brings the state that was asked for, and the library sends
nothing. -/
theorem Control.answered {cmd : Cmd} (h : Control k cmd v o v') (hr : SsiSuccessWord cmd)
    (hp : v.bc.privState = ssiPending b) :
    sent o = [] ∧ v'.bc.protoState = (if b then .connected else .disconnected) ∧
      v'.bc.privState = .inSync := by
  obtain ⟨⟨-, ht⟩, hres⟩ := hr
  obtain ⟨v₁, hresp, rfl⟩ := h.ssiResp_inv k ht
  rw [afterSsiResp_bc]
  cases b with
  | true =>
    cases hresp with
    | connected => exact ⟨rfl, rfl, rfl⟩
    | _ => simp_all
  | false =>
    cases hresp with
    | disconnected => exact ⟨rfl, rfl, rfl⟩
    | _ => simp_all

end Protocol

/-- `cmtspeech_check_pending` returns 1 and raises the control flag for a word that queues an
event. -/
theorem checkPending_event (k : Kernel) (m : Machine) {cmd : Cmd} {e : Event}
    (h : (nokiamodem.next m (k, .recv cmd)).2.filterMap Obs.event? = [e]) :
    (checkPending k true (some cmd) m.begin).1 = 1 ∧
      (checkPending k true (some cmd) m.begin).2.1 = eventControl := by
  have hres := handleInboundControlMessage_result k cmd (m.begin.emit (.recv cmd))
  have hnone : (m.begin.emit (.recv cmd)).events.2 = [] := rfl
  change (handleInboundControlMessage k cmd (m.begin.emit (.recv cmd))).2.2.events.2 = [e] at h
  change (handleInboundControlMessage k cmd (m.begin.emit (.recv cmd))).1 = 1 ∧
    (handleInboundControlMessage k cmd (m.begin.emit (.recv cmd))).2.1 = eventControl
  generalize handleInboundControlMessage k cmd (m.begin.emit (.recv cmd)) = r at hres h ⊢
  cases hres with
  | rejected _ res _ => cases h
  | ramp _ he => rw [he, hnone] at h; cases h
  | data _ _ _ he => rw [he, hnone] at h; cases h
  | event _ e' he => exact ⟨rfl, rfl⟩

/-! ### The library and the modem -/

namespace LinkState

/-- Nothing is on its way, both sides know about the connection, and the events `evbuf` have not
been read. -/
structure Rests (st : LinkState) (b : Bool) (evbuf : List Event) : Prop where
  protoState : st.lib.bcstate.protoState = if b then .connected else .disconnected
  privState : st.lib.bcstate.privState = .inSync
  evbuf : st.lib.d.evbuf = evbuf
  up : st.up = []
  down : st.down = []
  connected : st.connected = b

/-- The library has asked for the connection `b`, and the request or the answer is on its way:
between two stages of the test there is exactly one word between the two sides. -/
structure Waits (st : LinkState) (b : Bool) : Prop where
  protoState : st.lib.bcstate.protoState = if b then .disconnected else .connected
  privState : st.lib.bcstate.privState = ssiPending b
  evbuf : st.lib.d.evbuf = []
  underway : (∃ msg, msg.kind = .ssiConfigReq b ∧ st.up = [msg] ∧ st.down = []) ∨
    ∃ resp, SsiSuccessWord resp ∧ st.up = [] ∧ st.down = [resp] ∧ st.connected = b

section
variable {st : LinkState} {b : Bool} {k : Kernel}

theorem rests_init (h : ssiLink.init st) : st.Rests false [] := by
  obtain ⟨⟨area, old, hlib⟩, hup, hdown, hc⟩ := h
  refine ⟨?_, ?_, ?_, hup, hdown, hc⟩
  · rw [hlib]
    rfl
  · rw [hlib]
    rfl
  · rw [hlib]
    rfl

/-- The call status asks for the other connection. -/
theorem Rests.callStatus (h : st.Rests (!b) []) (hk : k.WritesSucceed) :
    (sent (ssiLink.next st (.app k (.stateChangeCallStatus b))).2).map Cmd.kind =
        [.ssiConfigReq b] ∧
      (ssiLink.next st (.app k (.stateChangeCallStatus b))).1.Waits b := by
  have hstep : ProtoStep k (.stateChangeCallStatus b) _ _ _ :=
    nokiamodem_refines st.lib (k, .stateChangeCallStatus b)
  have hbuf : (nokiamodem.next st.lib (k, .stateChangeCallStatus b)).1.d.evbuf = [] :=
    (congrArg Prod.fst
      (Op.run_events k st.lib.begin (.stateChangeCallStatus b) (by simp) (by simp))).trans h.evbuf
  have hstate : st.lib.bcstate.protoState = if b then .disconnected else .connected := by
    cases b <;> exact h.protoState
  obtain ⟨hsent, hproto, hpriv⟩ := hstep.callStatus_sent hk hstate h.privState
  rw [Lts.visible, sent_visible] at hsent
  refine ⟨?_, hproto.trans hstate, hpriv, hbuf,
    .inl ⟨ssiConfigRequest st.lib.bcstate b, kind_ssiConfigRequest _ b, ?_, h.down⟩⟩
  · show (sent (nokiamodem.next st.lib (k, .stateChangeCallStatus b)).2).map Cmd.kind = _
    rw [hsent, List.map_singleton, kind_ssiConfigRequest]
  · show st.up ++ sent (nokiamodem.next st.lib (k, .stateChangeCallStatus b)).2 = _
    rw [h.up, hsent]
    rfl

/-- There is nothing for the modem to hear, so that it does nothing. -/
theorem Rests.handle {evbuf : List Event} (h : st.Rests b evbuf) (resp : Cmd) :
    (ssiLink.next st (.handle resp)).1 = st := by
  simp only [ssiLink, h.up]

/-- The modem hears the request, if it has not heard it yet. -/
theorem Waits.handle {resp : Cmd} (h : st.Waits b) (hresp : SsiSuccessWord resp) :
    (ssiLink.next st (.handle resp)).1.Waits b ∧ (ssiLink.next st (.handle resp)).1.up = [] := by
  rcases h.underway with ⟨msg, hmsg, hup, hdown⟩ | ⟨resp', hresp', hup, hdown, hc⟩
  · have hnext : (ssiLink.next st (.handle resp)).1 =
        { st with up := [], down := [resp], connected := b } := by
      simp only [ssiLink, hup, LinkState.handle, hmsg, hdown, List.nil_append]
    rw [hnext]
    exact ⟨⟨h.protoState, h.privState, h.evbuf, .inr ⟨resp, hresp, rfl, rfl, rfl⟩⟩, rfl⟩
  · have hnext : (ssiLink.next st (.handle resp)).1 = st := by
      simp only [ssiLink, hup]
    rw [hnext]
    exact ⟨h, hup⟩

/-- `cmtspeech_check_pending` finds the answer, and queues the event that says so. -/
theorem Waits.deliver {resp : Cmd} (h : st.Waits b) (hresp : SsiSuccessWord resp)
    (hup : st.up = []) (hc : st.connected = b) :
    ∃ e, eventToStateTransition e = (if b then .tr1Connected else .tr2Disconnected) ∧
      (checkPending k true (some resp) st.lib.begin).1 = 1 ∧
      (checkPending k true (some resp) st.lib.begin).2.1 = eventControl ∧
      sent (nokiamodem.next st.lib (k, .recv resp)).2 = [] ∧
      (st.operate (k, .recv resp) []).Rests b [e] := by
  have hword : msgGetDomain resp = domainControl ∧ msgGetType resp = ssiConfigResp := hresp.1
  have hrecv : Recv k resp _ _ _ := (nokiamodem_refines st.lib (k, .recv resp)).recv_inv k
  obtain ⟨o, e₀, hout, hanswer, -⟩ := hrecv.control_inv k hword.1 (by rw [hword.2]; decide)
    (by rw [hword.2]; decide)
  obtain ⟨hsent, hproto, hpriv⟩ := hanswer.answered hresp h.privState
  -- A success that was waited for makes the library send nothing.
  have hsent' : sent (nokiamodem.next st.lib (k, .recv resp)).2 = [] := by
    rw [← sent_visible]
    change sent (nokiamodem.visible Obs.visible st.lib (k, .recv resp)) = []
    rw [hout, sent, List.filterMap_cons, List.filterMap_append]
    exact congrArg (· ++ []) hsent
  obtain ⟨es, hes, hbuf, hev⟩ := next_recvEvents st.lib k resp
  rw [h.evbuf] at hbuf
  cases hev with
  | control hd hu ht hcontrol e tstamp he =>
    obtain ⟨hres, hflags⟩ := checkPending_event k st.lib hes
    refine ⟨e, ?_, hres, hflags, hsent', hproto, hpriv, hbuf, ?_, rfl, hc⟩
    · have hprev : e.prevState = if b then .disconnected else .connected :=
        he.prevState.trans h.protoState
      have hstate : e.state = if b then .connected else .disconnected := he.state.trans hproto
      rw [eventToStateTransition, hprev, hstate]
      cases b <;> rfl
    · show st.up ++ sent (nokiamodem.next st.lib (k, .recv resp)).2 = []
      rw [hup, hsent', List.nil_append]
  | csError hd ht => exact absurd (hword.1.symm.trans hd) (by decide)
  | silent hw =>
    refine absurd (Or.inl ⟨hword.1, ?_, ?_⟩) hw
    · rw [hword.2]
      decide
    · rw [hword.2]
      decide

/-- `cmtspeech_read_event` takes the event, which is the only one there is. -/
theorem Rests.readEvent {e : Event} (h : st.Rests b [e]) :
    (CmtSpeech.readEvent st.lib.begin).1 = some e ∧
      (ssiLink.next st (.app k .readEvent)).1.Rests b [] := by
  have hread : CmtSpeech.readEvent st.lib.begin =
      (some e, st.lib.begin.modD fun d => { d with evbuf := [] }) := by
    rw [CmtSpeech.readEvent, privDequeueControlEvent, begin_d, h.evbuf]
  have hnext : nokiamodem.next st.lib (k, .readEvent) =
      ((CmtSpeech.readEvent st.lib.begin).2, (CmtSpeech.readEvent st.lib.begin).2.out) := rfl
  rw [hread] at hnext
  refine ⟨congrArg Prod.fst hread, ?_⟩
  show (st.operate (k, .readEvent) st.down).Rests b []
  rw [LinkState.operate, hnext]
  refine ⟨h.protoState, h.privState, rfl, ?_, h.down, h.connected⟩
  rw [h.up]
  rfl

/-- `cmtspeech_check_pending` finds nothing while the answer is not there, and the library waits
on. -/
theorem Waits.nothing (h : st.Waits b) (hdown : st.down = []) :
    (st.operate (k, .checkPending true none) []).Waits b := by
  refine ⟨h.protoState, h.privState, h.evbuf, ?_⟩
  rcases h.underway with ⟨msg, hmsg, hup, -⟩ | ⟨resp, -, -, hdown', -⟩
  · refine .inl ⟨msg, hmsg, ?_, rfl⟩
    show st.up ++ [] = [msg]
    rw [hup, List.append_nil]
  · rw [hdown] at hdown'
    cases hdown'

end

end LinkState

/-! ### Runs of the test -/

/-- The requests of the client: the connection is set up and taken down by turns. -/
def upDown : ℕ → List MsgKind
  | 0 => []
  | n + 1 => upDown n ++ [.ssiConfigReq (n % 2 = 0)]

/-- What the test is to do: every connection is set up and taken down. -/
abbrev testStages : ℕ := 2 * testRounds + 1

/-- How far the test has come.  It goes up and down `testRounds` times, so that there are two
stages for each round, one before the first and one after the last. -/
inductive TestCtx.Stage (ctx : TestCtx) : ℕ → Prop
  | started (hs : ctx.state = .started) (hc : ctx.conns = 0) (hlink : ctx.link.Rests false []) :
    Stage ctx 0
  | connects {n : ℕ} (hs : ctx.state = .waitingForConnected) (hc : ctx.conns < testRounds)
      (hn : n = 2 * ctx.conns + 1) (hlink : ctx.link.Waits true) : Stage ctx n
  | disconnects {n : ℕ} (hs : ctx.state = .waitingForDisconnected) (h₀ : 0 < ctx.conns)
      (hc : ctx.conns ≤ testRounds) (hn : n = 2 * ctx.conns) (hlink : ctx.link.Waits false) :
    Stage ctx n
  | exits (hs : ctx.state = .exit) (hc : ctx.conns = testRounds)
      (hlink : ctx.link.Rests false []) : Stage ctx testStages

/-- A test without fault that has come to stage `n`: it has counted neither an error nor a
warning, and goes on for the number of rounds it was started with. -/
structure TestCtx.Passes (ctx : TestCtx) (n : ℕ) : Prop where
  stage : ctx.Stage n
  connsTarget : ctx.connsTarget = testRounds
  errors : ctx.errors = 0
  warnings : ctx.warnings = 0

namespace TestCtx

variable {ctx : TestCtx} {n : ℕ} {k : Kernel} {env : LoopEnv}

/-- The requests made between two stages: up and down in turn, as many as there are stages in
between, and none twice. -/
def Requests (n n' : ℕ) (out : List Obs) : Prop :=
  upDown (min n (2 * testRounds)) ++ (sent out).map Cmd.kind = upDown (min n' (2 * testRounds))

theorem requests_self {out : List Obs} (h : sent out = []) : Requests n n out := by
  rw [Requests, h, List.map_nil, List.append_nil]

theorem Requests.trans {m n' : ℕ} {out out' : List Obs} (h : Requests n m out)
    (h' : Requests m n' out') : Requests n n' (out ++ out') := by
  rw [Requests, sent, List.filterMap_append, List.map_append, ← List.append_assoc, h]
  exact h'

theorem requests_succ {b : Bool} {out : List Obs} (hn : n < 2 * testRounds)
    (hb : b = decide (n % 2 = 0)) (h : (sent out).map Cmd.kind = [.ssiConfigReq b]) :
    Requests n (n + 1) out := by
  have hle : min n (2 * testRounds) = n := by omega
  have hle' : min (n + 1) (2 * testRounds) = n + 1 := by omega
  rw [Requests, h, hle, hle', hb]
  rfl

/-- An event the client waits for is no reason for a warning. -/
theorem linkUpdownCmtspeechEvents_eq (ctx : TestCtx) (env : LoopEnv) {b : Bool} {e : Event}
    (hlink : ctx.link.Rests b [e])
    (he : eventToStateTransition e = if b then .tr1Connected else .tr2Disconnected)
    (hs : ctx.state = if b then .waitingForConnected else .waitingForDisconnected) :
    ctx.linkUpdownCmtspeechEvents env =
      let ctx := { ctx with link := (ssiLink.next ctx.link (.app .accepting .readEvent)).1 }
      if b then
        { ctx with conns := ctx.conns + 1, state := .waitingForDisconnected }.stateChangeCallStatus
          env.change false
      else if ctx.conns < ctx.connsTarget then
        { ctx with state := .waitingForConnected }.stateChangeCallStatus env.change true
      else ({ ctx with state := .exit }, []) := by
  obtain ⟨hread, -⟩ := hlink.readEvent (k := .accepting)
  have hev : ctx.readEvent env.event =
      (e, { ctx with link := (ssiLink.next ctx.link (.app .accepting .readEvent)).1 }) := by
    refine Prod.ext ?_ rfl
    show (CmtSpeech.readEvent ctx.link.lib.begin).1.getD env.event = e
    rw [hread]
    rfl
  unfold linkUpdownCmtspeechEvents
  dsimp only
  rw [hev, he]
  generalize (ssiLink.next ctx.link (.app .accepting .readEvent)).1 = link
  -- The test's own check of the transition passes, so that it counts no warning.
  have hcheck (tr : StateTransition) (htr : tr = .tr1Connected ∨ tr = .tr2Disconnected) :
      TestCtx.testCheckImpl { ctx with link } false
        (tr = StateTransition.tr1Connected ∨ tr = StateTransition.tr2Disconnected) =
          { ctx with link } := if_pos (decide_eq_true htr)
  cases b with
  | true =>
    rw [show (if true = true then StateTransition.tr1Connected else .tr2Disconnected) =
      .tr1Connected from rfl, hcheck _ (.inl rfl)]
    exact if_pos ⟨hs, rfl⟩
  | false =>
    have hstate : ctx.state = .waitingForDisconnected := hs
    rw [show (if false = true then StateTransition.tr1Connected else .tr2Disconnected) =
      .tr2Disconnected from rfl, hcheck _ (.inr rfl), if_neg, if_pos]
    · rfl
    · exact ⟨hs, rfl⟩
    · simp [hstate]

/-- The client reads what it has waited for, and goes on. -/
theorem Passes.events {b : Bool} {e : Event} {link : LinkState} (h : ctx.Passes n) (env : LoopEnv)
    (hs : ctx.state = if b then .waitingForConnected else .waitingForDisconnected)
    (hlink : link.Rests b [e])
    (he : eventToStateTransition e = if b then .tr1Connected else .tr2Disconnected)
    (hk : env.change.WritesSucceed) :
    (TestCtx.linkUpdownCmtspeechEvents { ctx with link } env).1.Passes (n + 1) ∧
      Requests n (n + 1) (TestCtx.linkUpdownCmtspeechEvents { ctx with link } env).2 := by
  obtain ⟨hstage, htarget, herrors, hwarnings⟩ := h
  obtain ⟨-, hrests⟩ := hlink.readEvent (k := .accepting)
  rw [linkUpdownCmtspeechEvents_eq { ctx with link } env hlink he hs]
  cases b with
  | true =>
    obtain ⟨hsent, hwaits⟩ := LinkState.Rests.callStatus (b := false) hrests hk
    cases hstage with
    | connects _ hc hn =>
      refine ⟨⟨.disconnects rfl (Nat.succ_pos _) hc ?_ hwaits, htarget, herrors, hwarnings⟩,
        requests_succ (by omega) (decide_eq_false (by omega)).symm hsent⟩
      show n + 1 = 2 * (ctx.conns + 1)
      omega
    | _ => simp_all
  | false =>
    cases hstage with
    | disconnects _ _ hc hn =>
      dsimp only
      rw [if_neg Bool.false_ne_true]
      split
      · next hlt =>
        rw [htarget] at hlt
        obtain ⟨hsent, hwaits⟩ := LinkState.Rests.callStatus (b := true) hrests hk
        refine ⟨⟨.connects rfl hlt ?_ hwaits, htarget, herrors, hwarnings⟩,
          requests_succ (by omega) (decide_eq_true (by omega)).symm hsent⟩
        show n + 1 = 2 * ctx.conns + 1
        omega
      -- The last round is over, and nothing is asked any more.
      · next hlt =>
        rw [htarget] at hlt
        have hconns : ctx.conns = testRounds := by omega
        have hlast : n + 1 = testStages := by
          show n + 1 = 2 * testRounds + 1
          omega
        rw [hlast]
        refine ⟨⟨.exits rfl hconns hrests, htarget, herrors, hwarnings⟩, ?_⟩
        have hmin : min n (2 * testRounds) = min testStages (2 * testRounds) := by
          show min n (2 * testRounds) = min (2 * testRounds + 1) (2 * testRounds)
          omega
        rw [Requests, hmin]
        exact List.append_nil _
    | _ => simp_all

/-- What the library and the modem do while the client waits. -/
theorem Passes.waits (h : ctx.Passes n) (h₁ : 0 < n) (h₂ : n < testStages) :
    ∃ b, ctx.link.Waits b ∧
      ctx.state = if b then .waitingForConnected else .waitingForDisconnected := by
  cases h.stage with
  | started => omega
  | connects hs _ _ hlink => exact ⟨true, hlink, hs⟩
  | disconnects hs _ _ _ hlink => exact ⟨false, hlink, hs⟩
  | exits => omega

/-- Between the rounds the link moves on, and the test stays where it is. -/
theorem Passes.withLink {link : LinkState} (h : ctx.Passes n)
    (hrests : ∀ b, ctx.link.Rests b [] → link.Rests b [])
    (hwaits : ∀ b, ctx.link.Waits b → link.Waits b) : { ctx with link }.Passes n := by
  refine ⟨?_, h.connsTarget, h.errors, h.warnings⟩
  cases h.stage with
  | started hs hc hlink => exact .started hs hc (hrests _ hlink)
  | connects hs hc hn hlink => exact .connects hs hc hn (hwaits _ hlink)
  | disconnects hs h₀ hc hn hlink => exact .disconnects hs h₀ hc hn (hwaits _ hlink)
  | exits hs hc hlink => exact .exits hs hc (hrests _ hlink)

/-- A round in which `poll` finds something: if the answer is there, the test goes on. -/
theorem Passes.handlePollin (h : ctx.Passes n) (h₁ : 0 < n) (h₂ : n < testStages)
    (hk : env.change.WritesSucceed) :
    0 ≤ (ctx.handlePollin env).1 ∧ ∃ n', (ctx.handlePollin env).2.1.Passes n' ∧
      Requests n n' (ctx.handlePollin env).2.2 ∧ n ≤ n' ∧ (ctx.link.up = [] → n' = n + 1) := by
  obtain ⟨b, hwaits, hs⟩ := h.waits h₁ h₂
  unfold TestCtx.handlePollin TestCtx.checkPending
  dsimp only
  rcases hwaits.underway with ⟨msg, -, hup, hdown⟩ | ⟨resp, hresp, hup, hdown, hc⟩
  · rw [hdown, if_neg fun hpos => absurd hpos.1 (lt_irrefl (0 : ℤ))]
    have hnil : ctx.link.up ≠ [] := by
      rw [hup]
      exact List.cons_ne_nil msg []
    refine ⟨le_rfl, n, h.withLink ?_ ?_, requests_self rfl, le_rfl, fun hup => absurd hup hnil⟩
    · exact fun b hrests => absurd hrests.up hnil
    · exact fun b hwaits => hwaits.nothing hdown
  · obtain ⟨e, he, hres, hflags, hsent, hlink⟩ := hwaits.deliver (k := env.pending) hresp hup hc
    obtain ⟨hpasses, hreqs⟩ := h.events env hs hlink he hk
    have hctl : (eventControl : BitVec 4) &&& eventControl ≠ 0 := by decide
    simp only [hdown, List.head?_cons, List.tail_cons]
    rw [hres, hflags, if_pos ⟨Int.one_pos, hctl⟩]
    refine ⟨Int.one_nonneg, n + 1, hpasses, ?_, Nat.le_succ n, fun _ => rfl⟩
    exact (requests_self hsent).trans hreqs

/-- The first round starts the test: the first request is made, and later rounds find it made. -/
theorem Passes.start (h : ctx.Passes n) (h₂ : n < testStages) (hk : env.start.WritesSucceed) :
    ∃ m, (ctx.start env).1.Passes m ∧ Requests n m (ctx.start env).2 ∧ n ≤ m ∧ 0 < m ∧
      m < testStages ∧ (n = m → (ctx.start env).1 = ctx) := by
  -- Only the first time does the loop start anything.
  have hlater (hs : ctx.state ≠ .started) : ctx.start env = (ctx, []) := if_neg hs
  cases h.stage with
  | started hs hc hlink =>
    obtain ⟨hsent, hwaits⟩ := LinkState.Rests.callStatus (b := true) hlink hk
    have hstart : ctx.start env =
        ({ (ctx.stateChangeCallStatus env.start true).1 with state := .waitingForConnected },
          (ctx.stateChangeCallStatus env.start true).2) := if_pos hs
    rw [hstart]
    refine ⟨1, ⟨.connects rfl ?_ ?_ hwaits, h.connsTarget, h.errors, h.warnings⟩,
      requests_succ (by decide) rfl hsent, Nat.zero_le 1, Nat.one_pos, by decide, nofun⟩
    · show ctx.conns < testRounds
      rw [hc]
      decide
    · show 1 = 2 * ctx.conns + 1
      rw [hc]
  | connects hs hc hn hlink =>
    rw [hlater (by simp [hs])]
    exact ⟨n, h, requests_self rfl, le_rfl, by omega, h₂, fun _ => rfl⟩
  | disconnects hs h₀ hc hn hlink =>
    rw [hlater (by simp [hs])]
    exact ⟨n, h, requests_self rfl, le_rfl, by omega, h₂, fun _ => rfl⟩
  | exits => exact absurd h₂ (lt_irrefl _)

theorem Passes.lt_exit (h : ctx.Passes n) (h₂ : n < testStages) :
    ctx.state.toNat < TestState.exit.toNat := by
  cases h.stage with
  | started hs => rw [hs]; decide
  | connects hs => rw [hs]; decide
  | disconnects hs => rw [hs]; decide
  | exits => exact absurd h₂ (lt_irrefl _)

/-- A round keeps the test going, and takes the answer of the modem if it is there. -/
theorem Passes.loop (h : ctx.Passes n) (henv : (TestStep.loop env).Assumed) :
    ∃ n', (ctx.linkUpdownLoop env).1.Passes n' ∧ Requests n n' (ctx.linkUpdownLoop env).2 ∧
      n ≤ n' ∧ (TestStep.Polls ctx (.loop env) → ctx.link.up = [] → n < testStages → n < n') := by
  obtain ⟨hstart, hchange, hstuck, hexit⟩ := henv
  have hfinish (ctx : TestCtx) : ctx.finish env = ctx := by
    rw [TestCtx.finish, if_neg (by simp [hstuck]), if_neg (by simp [hexit])]
  by_cases h₂ : n < testStages
  · obtain ⟨m, hpasses, hreqs, hle, hpos, hlt, hsame⟩ := h.start h₂ hstart
    rw [linkUpdownLoop, if_pos (h.lt_exit h₂)]
    dsimp only
    -- the answer is there when the modem has nothing more to hear, except before the test starts
    have hpolled (hm : n = m) (hpolls : TestStep.Polls ctx (.loop env)) (hup : ctx.link.up = []) :
        env.pollin = true := by
      obtain ⟨b, hwaits, -⟩ := h.waits (hm ▸ hpos) h₂
      refine hpolls ?_
      rcases hwaits.underway with ⟨msg, -, hup', -⟩ | ⟨resp, -, -, hdown, -⟩
      · exact absurd (hup.symm.trans hup') (List.cons_ne_nil msg []).symm
      · exact hdown ▸ List.cons_ne_nil resp []
    cases hpollin : env.pollin with
    | false =>
      rw [if_neg Bool.false_ne_true, if_neg (lt_irrefl (0 : ℤ)), hfinish, List.append_nil]
      refine ⟨m, hpasses, hreqs, hle, fun hpolls hup _ => ?_⟩
      by_cases hm : n = m
      · exact absurd (hpollin.symm.trans (hpolled hm hpolls hup)) Bool.false_ne_true
      · omega
    | true =>
      obtain ⟨hres, n', hpasses', hreqs', hle', hgoes⟩ := hpasses.handlePollin hpos hlt hchange
      rw [if_pos rfl, if_neg (not_lt.mpr hres), hfinish]
      refine ⟨n', hpasses', hreqs.trans hreqs', hle.trans hle', fun _ hup _ => ?_⟩
      by_cases hm : n = m
      · have hlink : (ctx.start env).1.link.up = [] := by
          rw [hsame hm]
          exact hup
        have := hgoes hlink
        omega
      · omega
  · cases h.stage with
    | exits hs hc hlink =>
      have hloop : ctx.linkUpdownLoop env = (ctx, []) := if_neg (by rw [hs]; decide)
      rw [hloop]
      exact ⟨testStages, h, requests_self rfl, le_rfl, fun _ _ hlt => absurd hlt h₂⟩
    | started => exact absurd (by decide) h₂
    | connects _ hc hn => exact absurd (show n < 2 * testRounds + 1 by omega) h₂
    | disconnects _ _ hc hn => exact absurd (show n < 2 * testRounds + 1 by omega) h₂

/-- The modem hears what there is to hear, and the test is at the stage it was at. -/
theorem Passes.handle {resp : Cmd} (h : ctx.Passes n) (hresp : SsiSuccessWord resp) :
    (linkTest.next ctx (.handle resp)).1.Passes n ∧
      (linkTest.next ctx (.handle resp)).1.link.up = [] := by
  have hrests (b : Bool) (hlink : ctx.link.Rests b []) :
      (ssiLink.next ctx.link (.handle resp)).1 = ctx.link := hlink.handle resp
  refine ⟨h.withLink ?_ fun b hlink => (hlink.handle hresp).1, ?_⟩
  · intro b hlink
    rw [hrests b hlink]
    exact hlink
  · show (ssiLink.next ctx.link (.handle resp)).1.up = []
    cases h.stage with
    | started _ _ hlink => rw [hrests _ hlink]; exact hlink.up
    | connects _ _ _ hlink => exact (hlink.handle hresp).2
    | disconnects _ _ _ _ hlink => exact (hlink.handle hresp).2
    | exits _ _ hlink => rw [hrests _ hlink]; exact hlink.up

end TestCtx

/-- The stages of the test: each step leaves the test at its stage, or takes it to a later one
with the requests in between. -/
theorem linkTest_simulated :
    linkTest.Simulated TestCtx.Passes (fun _ i => i.Assumed)
      (fun _ n out n' => n ≤ n' ∧ TestCtx.Requests n n' out) := by
  intro ctx n i h hi
  cases i with
  | loop env =>
    obtain ⟨n', hpasses, hreqs, hle, -⟩ := h.loop hi
    exact ⟨n', ⟨hle, hreqs⟩, hpasses⟩
  | handle resp => exact ⟨n, ⟨le_rfl, TestCtx.requests_self rfl⟩, (h.handle hi).1⟩

theorem passes_init {ctx : TestCtx} (h : linkTest.init ctx) : ctx.Passes 0 := by
  obtain ⟨link, hlink, rfl⟩ := h
  exact ⟨.started rfl rfl (LinkState.rests_init hlink), rfl, rfl, rfl⟩

/-- Every run comes to some stage, with just the requests up to it. -/
theorem passes_exec {ctx : TestCtx} (h : linkTest.init ctx) {is : List TestStep}
    (his : ∀ i ∈ is, i.Assumed) :
    ∃ n, (linkTest.exec ctx is).Passes n ∧ TestCtx.Requests 0 n (linkTest.trace ctx is) := by
  have hall : linkTest.Along (fun _ i => i.Assumed) ctx is := (linkTest.along_forall _ _ _).mpr his
  obtain ⟨n, hpasses, hreqs⟩ := linkTest_simulated.run (P := fun _ _ => True)
    (I := fun n seen => TestCtx.Requests 0 n seen) (l := []) (fun _ _ _ _ _ => trivial)
    (fun _ n seen out n' hseen _ hout => hseen.trans hout.2) (passes_init h)
    (TestCtx.requests_self rfl) hall
  exact ⟨n, hpasses, hreqs⟩

/-- **The test finds no fault**: it reports no error and no warning, the modem is asked to set up
the connection and to take it down by turns, and when the test has come to its end this has been
done in all rounds, nothing is on its way and there is no connection. -/
theorem linkTest_passes {ctx : TestCtx} (h : linkTest.init ctx) {is : List TestStep}
    (his : ∀ i ∈ is, i.Assumed) :
    let ctx' := linkTest.exec ctx is
    ctx'.state ≠ .error ∧ ctx'.errors = 0 ∧ ctx'.warnings = 0 ∧
      ∃ n ≤ 2 * testRounds, (sent (linkTest.trace ctx is)).map Cmd.kind = upDown n ∧
        (ctx'.state = .exit →
          n = 2 * testRounds ∧ ctx'.conns = testRounds ∧ ctx'.link.Rests false []) := by
  obtain ⟨n, hpasses, hreqs⟩ := passes_exec h his
  intro ctx'
  change ctx'.Passes n at hpasses
  refine ⟨?_, hpasses.errors, hpasses.warnings, min n (2 * testRounds), min_le_right _ _, hreqs, ?_⟩
  · cases hpasses.stage <;> simp_all
  · intro hexit
    cases hpasses.stage with
    | exits _ hc hlink => exact ⟨min_eq_right (Nat.le_succ _), hc, hlink⟩
    | _ => simp_all

/-- The test at its start, with an instance just opened and no rounds done. -/
def TestCtx.fresh : TestCtx := ⟨.fresh, .started, 0, testRounds, 0, 0⟩

theorem init_testFresh : linkTest.init .fresh := ⟨.fresh, init_linkFresh, rfl⟩

/-- A round in which `poll` finds something, every call succeeds and nobody stops the test. -/
def LoopEnv.ready : LoopEnv where
  start := .accepting
  pollin := true
  pending := .accepting
  event := ⟨.invalid, .invalid, 0, .resetDone 0⟩
  change := .accepting
  stuck := false
  exitRequest := false

theorem assumed_success : (TestStep.handle (msgEncodeSsiConfigResp 1 0)).Assumed :=
  show SsiSuccessWord (msgEncodeSsiConfigResp 1 0) by decide

theorem assumed_ready : (TestStep.loop .ready).Assumed :=
  ⟨accepting_writesSucceed, accepting_writesSucceed, rfl, rfl⟩

theorem linkTest_passes_first :
    let is : List TestStep := [.loop .ready, .handle (msgEncodeSsiConfigResp 1 0), .loop .ready]
    let ctx' := linkTest.exec .fresh is
    ctx'.state ≠ .error ∧ ctx'.errors = 0 ∧ ctx'.warnings = 0 ∧
      ∃ n ≤ 2 * testRounds, (sent (linkTest.trace .fresh is)).map Cmd.kind = upDown n ∧
        (ctx'.state = .exit →
          n = 2 * testRounds ∧ ctx'.conns = testRounds ∧ ctx'.link.Rests false []) := by
  refine linkTest_passes init_testFresh ?_
  simp only [List.forall_mem_cons]
  exact ⟨assumed_ready, assumed_success, assumed_ready, by simp⟩

/-- A round in which the modem answers and the client reads. -/
def turn (r : Cmd × LoopEnv) : List TestStep := [.handle r.1, .loop r.2]

/-- In every such round the test goes on, until it comes to its end. -/
theorem TestCtx.Passes.turns {ctx : TestCtx} {n : ℕ} (h : ctx.Passes n)
    {rounds : List (Cmd × LoopEnv)} (hrounds : ∀ i ∈ rounds.flatMap turn, i.Assumed)
    (hpolls : linkTest.Along TestStep.Polls ctx (rounds.flatMap turn)) :
    ∃ n', (linkTest.exec ctx (rounds.flatMap turn)).Passes n' ∧
      min (n + rounds.length) testStages ≤ n' := by
  induction rounds generalizing ctx n with
  | nil => exact ⟨n, h, min_le_left _ _⟩
  | cons r rounds ih =>
    have hcons : (r :: rounds).flatMap turn =
        .handle r.1 :: .loop r.2 :: rounds.flatMap turn := rfl
    rw [hcons] at hrounds hpolls ⊢
    obtain ⟨hresp, henv, hrest⟩ : SsiSuccessWord r.1 ∧ (TestStep.loop r.2).Assumed ∧
        ∀ i ∈ rounds.flatMap turn, i.Assumed := by
      rw [List.forall_mem_cons, List.forall_mem_cons] at hrounds
      exact hrounds
    obtain ⟨hpasses, hup⟩ := h.handle hresp
    obtain ⟨m, hpasses', -, hle, hgoes⟩ := hpasses.loop henv
    obtain ⟨n', hpasses'', hle'⟩ := ih hpasses' hrest hpolls.2.2
    refine ⟨n', hpasses'', ?_⟩
    have hlt : n < testStages → n < m := hgoes hpolls.2.1 hup
    rw [List.length_cons]
    omega

/-- **The test comes to its end** in every run whose writes succeed, with neither the inactivity
timeout nor a signal: after enough rounds in which the modem answers, `poll` finds the answer and
the client reads it, every connection has been set up and taken down, whatever has happened
before. -/
theorem linkTest_exits {ctx : TestCtx} (h : linkTest.init ctx) {is : List TestStep}
    (his : ∀ i ∈ is, i.Assumed) {rounds : List (Cmd × LoopEnv)}
    (hrounds : ∀ i ∈ rounds.flatMap turn, i.Assumed)
    (hpolls : linkTest.Along TestStep.Polls (linkTest.exec ctx is) (rounds.flatMap turn))
    (hlen : testStages ≤ rounds.length) :
    (linkTest.exec ctx (is ++ rounds.flatMap turn)).state = .exit := by
  obtain ⟨n, hpasses, -⟩ := passes_exec h his
  obtain ⟨n', hpasses', hle⟩ := hpasses.turns hrounds hpolls
  rw [linkTest.exec_append]
  have hlast : testStages ≤ n' := by omega
  cases hpasses'.stage with
  | started => exact absurd hlast (by decide)
  | connects _ hc hn => exact absurd (show 2 * testRounds + 1 ≤ n' from hlast) (by omega)
  | disconnects _ _ hc hn => exact absurd (show 2 * testRounds + 1 ≤ n' from hlast) (by omega)
  | exits hs => exact hs

theorem linkTest_exits_fresh :
    let rounds := List.replicate testStages (msgEncodeSsiConfigResp 1 0, LoopEnv.ready)
    (linkTest.exec .fresh ([] ++ rounds.flatMap turn)).state = .exit := by
  have hturn : ∀ i ∈ (List.replicate testStages
      (msgEncodeSsiConfigResp 1 0, LoopEnv.ready)).flatMap turn,
      i.Assumed ∧ ∀ ctx, TestStep.Polls ctx i := by
    intro i hi
    obtain ⟨r, hr, hi⟩ := List.mem_flatMap.mp hi
    obtain rfl := List.eq_of_mem_replicate hr
    rcases List.mem_pair.mp hi with rfl | rfl
    · exact ⟨assumed_success, fun _ => trivial⟩
    · exact ⟨assumed_ready, fun _ _ => rfl⟩
  refine linkTest_exits init_testFresh (by simp) (fun i hi => (hturn i hi).1) ?_
    (by rw [List.length_replicate])
  exact Lts.Along.mono (fun ctx i (h : ∀ ctx, TestStep.Polls ctx i) => h ctx)
    ((linkTest.along_forall _ _ _).mpr fun i hi => (hturn i hi).2)

end CmtSpeech
