import CmtSpeech.DummyProtocol
import CmtSpeech.DummyQueue
import CmtSpeech.Lib.Simulation
import Mathlib.Algebra.BigOperators.Group.Multiset.Basic
import Mathlib.Tactic.Abel

/-!
# The conversation of client and thread

A message that has been said and not been heard is somewhere on its way: it is one of the things
the call or the thread still has to do, in one of the pipes, or in `pubbuf`.  The model forgets
where it is, and in which order the messages are; the only steps left are those in which one side
says or hears something.

* `Conversation` — the protocol state, and the messages on their way.
* `Converses` — the steps of the model.
* `DummySystem.requests`, `DummySystem.replies` — the messages on their way in the system.
* `Models` — a state of the system stands for one of the model.

## Main results

* `dummySystem_simulated` — the system follows the model, however the client and the thread take
  turns.
-/

namespace CmtSpeech

/-! ### The model -/

/-- The protocol state of the client, and the messages on their way: all that the two sides make
their decisions by, but for the state of the backend. -/
structure Conversation where
  bcstate : BcState
  requests : Multiset Request
  replies : Multiset Reply

/-- What is seen of a step that neither says nor hears anything, such as a frame that is made or a
buffer that is taken. -/
def SystemObs.Quiet : SystemObs → Prop
  | .sends _ => False
  | .handled _ _ => False
  | .processed _ _ => False
  | _ => True

/-- A call that may say something, other than one that reads an event. -/
def ClientOp.Speaks : ClientOp → Prop
  | .stateChangeCallStatus _ _ => True
  | .stateChangeCallConnect _ => True
  | .setWbPreference _ => True
  | .testDataRampReq _ _ _ => True
  | .close => True
  | _ => False

/-- The steps of the model: the two sides as they talk, with everything left out that no message
depends on.  The order of the messages on the way is left out too, so that both are multisets. -/
inductive Converses : SystemOp → Conversation → List SystemObs → Conversation → Prop
  | quiet (op : SystemOp) (c : Conversation) {out : List SystemObs} (h : ∀ o ∈ out, o.Quiet) :
    Converses op c out c
  /-- A call of the application. -/
  | calls {op : ClientOp} (hop : op.Speaks) {c : Conversation} {s' : BcState}
      {reqs : List Request} {reps : List Reply} (h : Calls c.bcstate s' reqs reps) :
    Converses (.call op) c (reqs.map fun r => .sends r.cmd)
      ⟨s', c.requests + reqs, c.replies + reps⟩
  /-- The thread hears a message, and answers. -/
  | answers (env : ThreadEnv) (s : BcState) (reqs : Multiset Request) (reps : Multiset Reply)
      (r : Request) (state : DummyState) :
    Converses (.threadStep env) ⟨s, r ::ₘ reqs, reps⟩ [.handled r.cmd r.result]
      ⟨s, reqs, reps + r.answers state⟩
  /-- The client hears a message. -/
  | reacts (k : DummyKernel) {s s' : BcState} (reqs : Multiset Request) (reps : Multiset Reply)
      {p : Reply} {asks : List Request} {tells : List Reply} (h : Reacts k s p s' asks tells) :
    Converses (.call (.readEvent k)) ⟨s, reqs, p ::ₘ reps⟩
      (.processed p.cmd 0 :: asks.map fun r => .sends r.cmd)
      ⟨s', reqs + asks, reps + tells⟩

/-! ### The messages on their way -/

/-- The messages in `pubbuf`, from the index of the reader to that of the writer. -/
def Dummy.queue (d : Dummy) : List Cmd :=
  (List.range ((d.pubbufWrite + salMsgBuffer - d.pubbufRead) % salMsgBuffer / 4)).map fun i =>
    d.load ((d.pubbufRead + 4 * i) % salMsgBuffer)

theorem Dummy.Queues.queue_eq {d : Dummy} {q : List Cmd} (h : d.Queues q) : d.queue = q := by
  have hread := h.read_eq
  have hhead := h.cells.head_lt
  have hroom := h.cells.room
  have hwrite := h.write_eq
  have hlen : (d.pubbufWrite + salMsgBuffer - d.pubbufRead) % salMsgBuffer / 4 = q.length := by
    simp only [pubbufSlots, salMsgBuffer] at *
    omega
  unfold Dummy.queue
  rw [hlen]
  refine List.ext_getElem (by simp) ?_
  intro i hi hi'
  rw [List.getElem_map, List.getElem_range, ← h.cells.cell_eq i hi']
  congr 1
  simp only [pubbufSlots, salMsgBuffer] at *
  omega

namespace DummySystem

variable (w : DummySystem)

/-- The messages to the thread: in its pipe, and those the call is still to write. -/
def requests : List Cmd := w.threadPipe ++ asked w.clientTodo

/-- The control messages to the client: in `pubbuf`, in the control pipe, and those still to be
written. -/
def replies : List Cmd :=
  w.dummy.queue ++ controls (w.dummy.controlPipe ++ (told w.threadTodo ++ told w.clientTodo))

end DummySystem

/-- A state of the system stands for a state of the model: it has the protocol state of the model,
and the messages of the model are those in the pipes and in the buffer. -/
structure Models (w : DummySystem) (c : Conversation) : Prop where
  queues : w.dummy.Queues w.dummy.queue
  /-- The thread has nothing to say to itself. -/
  threadTodo : asked w.threadTodo = []
  bcstate : w.dummy.bcstate = c.bcstate
  requests : (w.requests : Multiset Cmd) = c.requests.map Request.cmd
  replies : (w.replies : Multiset Cmd) = c.replies.map Reply.cmd

/-- `cmtspeech_read_event` is called only with a message in the buffer.  With an empty one it
takes for a message whatever the memory of the buffer holds, and nothing that is said of the
messages is true any more; all results about the two sides assume this of the application. -/
def ReadsWaiting (w : DummySystem) : SystemOp → Prop
  | .call (.readEvent _) => w.dummy.pubbufRead ≠ w.dummy.pubbufWrite
  | _ => True

instance (w : DummySystem) : (op : SystemOp) → Decidable (ReadsWaiting w op)
  | .call (.readEvent _) => inferInstanceAs (Decidable (_ ≠ _))
  | .call (.checkPending _) | .call (.stateChangeCallStatus _ _)
  | .call (.stateChangeCallConnect _) | .call (.setWbPreference _)
  | .call (.testDataRampReq _ _ _) | .call .ulBufferAcquire | .call (.ulBufferRelease _ _)
  | .call .dlBufferAcquire | .call (.dlBufferRelease _ _) | .call .close
  | .clientStep | .threadStep _ => .isTrue trivial

/-! ### Effects -/

namespace DummySystem

variable (w : DummySystem)

/-- Where the messages to the thread are: in its pipe, or still among the things the call has to
do. -/
theorem coe_requests :
    (w.requests : Multiset Cmd) = w.threadPipe + (asked w.clientTodo : Multiset Cmd) :=
  (Multiset.coe_add _ _).symm

/-- Where the control messages to the client are: queued, in the control pipe, or still to be
written by either side. -/
theorem coe_replies : (w.replies : Multiset Cmd) =
    w.dummy.queue + ((controls w.dummy.controlPipe : Multiset Cmd) +
      (controls (told w.threadTodo) + controls (told w.clientTodo))) := by
  unfold replies
  rw [controls_append, controls_append, ← Multiset.coe_add, ← Multiset.coe_add, ← Multiset.coe_add]

variable (e : Effect)

@[simp] theorem perform_bcstate : (w.perform e).dummy.bcstate = w.dummy.bcstate := by
  cases e <;> rfl

@[simp] theorem perform_clientTodo : (w.perform e).clientTodo = w.clientTodo := by
  cases e <;> rfl

@[simp] theorem perform_threadTodo : (w.perform e).threadTodo = w.threadTodo := by
  cases e <;> rfl

/-- The buffer is the client's own: no effect of either side touches what is queued in `pubbuf`. -/
theorem perform_queues {q : List Cmd} (h : w.dummy.Queues q) : (w.perform e).dummy.Queues q := by
  cases e <;> exact h.congr rfl rfl rfl

theorem effectObs_quiet : ∀ o ∈ effectObs e, o.Quiet := by
  cases e with
  | controlWrite msg =>
    intro o ho
    obtain rfl := List.mem_singleton.mp ho
    trivial
  | _ => exact fun o ho => absurd ho List.not_mem_nil

theorem perform_threadPipe : (w.perform e).threadPipe = w.threadPipe ++ asked [e] := by
  cases e with
  | threadWrite msg => rfl
  | _ => exact (List.append_nil _).symm

theorem perform_controlPipe :
    (w.perform e).dummy.controlPipe = w.dummy.controlPipe ++ told [e] := by
  cases e with
  | controlWrite msg => rfl
  | _ => exact (List.append_nil _).symm

end DummySystem

theorem asked_cons (e : Effect) (todo : List Effect) :
    asked (e :: todo) = asked [e] ++ asked todo :=
  asked_append [e] todo

theorem told_cons (e : Effect) (todo : List Effect) : told (e :: todo) = told [e] ++ told todo :=
  told_append [e] todo

namespace Models

variable {w : DummySystem} {c : Conversation}

/-- An effect of the call moves its message on: it has been said before, and is underway still. -/
theorem clientTodoStep (h : Models w c) {e : Effect} {todo : List Effect}
    (htodo : w.clientTodo = e :: todo) :
    Models { w.perform e with clientTodo := todo } c := by
  have hq : (w.perform e).dummy.Queues w.dummy.queue := w.perform_queues e h.queues
  refine ⟨?_, ?_, ?_, ?_, ?_⟩
  · exact hq.queue_eq ▸ hq
  · exact (congrArg asked (w.perform_threadTodo e)).trans h.threadTodo
  · exact (w.perform_bcstate e).trans h.bcstate
  · rw [← h.requests, DummySystem.coe_requests, DummySystem.coe_requests, htodo, asked_cons]
    show ((w.perform e).threadPipe : Multiset Cmd) + asked todo = _
    rw [w.perform_threadPipe e, ← Multiset.coe_add, ← Multiset.coe_add, add_assoc]
  · rw [← h.replies, DummySystem.coe_replies, DummySystem.coe_replies, htodo, told_cons]
    show ((w.perform e).dummy.queue : Multiset Cmd) +
      (controls (w.perform e).dummy.controlPipe +
        (controls (told (w.perform e).threadTodo) + controls (told todo))) = _
    rw [hq.queue_eq, w.perform_controlPipe e, w.perform_threadTodo e, controls_append,
      controls_append, ← Multiset.coe_add, ← Multiset.coe_add]
    abel

/-- An effect of the thread moves its message on, from the things to do into the pipe. -/
theorem threadTodoStep (h : Models w c) {e : Effect} {todo : List Effect}
    (htodo : w.threadTodo = e :: todo) :
    Models { w.perform e with threadTodo := todo } c := by
  have hq : (w.perform e).dummy.Queues w.dummy.queue := w.perform_queues e h.queues
  have hasked : asked [e] = [] ∧ asked todo = [] := by
    rw [← List.append_eq_nil_iff, ← asked_cons, ← htodo]
    exact h.threadTodo
  refine ⟨?_, hasked.2, ?_, ?_, ?_⟩
  · exact hq.queue_eq ▸ hq
  · exact (w.perform_bcstate e).trans h.bcstate
  · rw [← h.requests, DummySystem.coe_requests, DummySystem.coe_requests]
    show ((w.perform e).threadPipe : Multiset Cmd) + asked (w.perform e).clientTodo = _
    rw [w.perform_threadPipe e, hasked.1, List.append_nil, w.perform_clientTodo e]
  · rw [← h.replies, DummySystem.coe_replies, DummySystem.coe_replies, htodo, told_cons]
    show ((w.perform e).dummy.queue : Multiset Cmd) +
      (controls (w.perform e).dummy.controlPipe +
        (controls (told todo) + controls (told (w.perform e).clientTodo))) = _
    rw [hq.queue_eq, w.perform_controlPipe e, w.perform_clientTodo e, controls_append,
      controls_append, ← Multiset.coe_add, ← Multiset.coe_add]
    abel

/-- Nothing else matters: a step that leaves the messages and the common state alone leaves the
conversation. -/
theorem congr {w' : DummySystem} (h : Models w c) (hdummy : w'.dummy = w.dummy)
    (hpipe : w'.threadPipe = w.threadPipe) (hclient : w'.clientTodo = w.clientTodo)
    (hthread : w'.threadTodo = w.threadTodo) : Models w' c := by
  refine ⟨?_, ?_, ?_, ?_, ?_⟩
  · rw [hdummy]
    exact h.queues
  · rw [hthread]
    exact h.threadTodo
  · rw [hdummy]
    exact h.bcstate
  · rw [← h.requests, DummySystem.requests, DummySystem.requests, hpipe, hclient]
  · rw [← h.replies, DummySystem.replies, DummySystem.replies, hdummy, hclient, hthread]

/-! ### The thread -/

/-- The thread is to tell the client `reps`, which are underway as soon as they are among the
things to do. -/
theorem answer {w' : DummySystem} {s : BcState} {reqs : Multiset Request} {reps : Multiset Reply}
    (h : Models w ⟨s, reqs, reps⟩) (htodo : w.threadTodo = []) {reqs' : Multiset Request}
    {tells : List Reply} (hdummy : w'.dummy = w.dummy) (hclient : w'.clientTodo = w.clientTodo)
    (hreqs : (w'.requests : Multiset Cmd) = reqs'.map Request.cmd)
    (hasked : asked w'.threadTodo = [])
    (htold : controls (told w'.threadTodo) = tells.map Reply.cmd) :
    Models w' ⟨s, reqs', reps + tells⟩ := by
  refine ⟨?_, hasked, ?_, hreqs, ?_⟩
  · rw [hdummy]
    exact h.queues
  · rw [hdummy]
    exact h.bcstate
  · rw [Multiset.map_add, ← h.replies, DummySystem.coe_replies, DummySystem.coe_replies, hdummy,
      hclient, htodo, htold, Multiset.map_coe]
    show _ = (w.dummy.queue : Multiset Cmd) + (controls w.dummy.controlPipe + (0 + _)) + _
    abel

theorem controls_replies (tells : List Reply) :
    controls (tells.map Reply.cmd) = tells.map Reply.cmd := by
  refine List.filter_eq_self.mpr ?_
  intro msg hmsg
  obtain ⟨p, -, rfl⟩ := List.mem_map.mp hmsg
  exact decide_eq_true p.domain_cmd

theorem told_answers (tells : List Reply) (r : Request) :
    told (tells.map (fun p => .controlWrite p.cmd) ++ r.changes) = tells.map Reply.cmd := by
  have hchanges : told r.changes = [] := by
    cases r with
    | ssiConfigReq version on => cases on <;> rfl
    | _ => rfl
  rw [told_append, hchanges, List.append_nil]
  induction tells with
  | nil => rfl
  | cons p tells ih => exact congrArg (p.cmd :: ·) ih

theorem asked_answers (tells : List Reply) (r : Request) :
    asked (tells.map (fun p => .controlWrite p.cmd) ++ r.changes) = [] := by
  have hchanges : asked r.changes = [] := by
    cases r with
    | ssiConfigReq version on => cases on <;> rfl
    | _ => rfl
  rw [asked_append, hchanges, List.append_nil]
  induction tells with
  | nil => rfl
  | cons p tells ih => exact ih

/-- The oldest message in the pipe of the thread is a request. -/
theorem heard_request {s : BcState} {reqs : Multiset Request} {reps : Multiset Reply}
    (h : Models w ⟨s, reqs, reps⟩) (htodo : w.threadTodo = []) {msg : Cmd} {rest : List Cmd}
    (hpipe : w.threadPipe = msg :: rest) :
    ∃ r reqs', reqs = r ::ₘ reqs' ∧
      w.privReadControlMessage =
        ({ w with
            threadPipe := rest
            threadTodo :=
              (r.answers w.dummy.state).map (fun p => .controlWrite p.cmd) ++ r.changes },
          [.handled r.cmd r.result]) ∧
      Models w.privReadControlMessage.1 ⟨s, reqs', reps + r.answers w.dummy.state⟩ := by
  have hreqs : reqs.map Request.cmd = msg ::ₘ (rest + (asked w.clientTodo : Multiset Cmd)) := by
    rw [← h.requests, DummySystem.coe_requests, hpipe]
    rfl
  obtain ⟨r, hr, rfl, hrest⟩ := Multiset.map_eq_cons _ _ _ _ |>.mpr hreqs
  unfold DummySystem.privReadControlMessage
  rw [hpipe]
  dsimp only
  rw [handleInboundControlMessage_cmd]
  refine ⟨r, reqs.erase r, (Multiset.cons_erase hr).symm, rfl, ?_⟩
  refine h.answer htodo rfl rfl ?_ (asked_answers _ r) ?_
  · rw [hrest, DummySystem.coe_requests]
  · rw [told_answers, controls_replies]

/-- The thread hears the oldest message in its pipe. -/
theorem privReadControlMessage (h : Models w c) (htodo : w.threadTodo = []) (env : ThreadEnv) :
    ∃ c', Converses (.threadStep env) c w.privReadControlMessage.2 c' ∧
      Models w.privReadControlMessage.1 c' := by
  cases hpipe : w.threadPipe with
  | nil =>
    unfold DummySystem.privReadControlMessage
    rw [hpipe]
    exact ⟨c, .quiet _ c (by simp), h⟩
  | cons msg rest =>
    obtain ⟨s, reqs, reps⟩ := c
    obtain ⟨r, reqs', rfl, heq, hmodels⟩ := h.heard_request htodo hpipe
    refine ⟨_, ?_, hmodels⟩
    rw [heq]
    exact .answers env s reqs' reps r w.dummy.state

/-- The thread goes on, and tells nobody; the conversation stays where it is. -/
theorem silent (h : Models w c) (op : SystemOp) {out : List SystemObs} {w' : DummySystem}
    (hout : ∀ o ∈ out, o.Quiet) (hdummy : w'.dummy = w.dummy)
    (hpipe : w'.threadPipe = w.threadPipe) (hclient : w'.clientTodo = w.clientTodo)
    (hthread : w'.threadTodo = w.threadTodo) : ∃ c', Converses op c out c' ∧ Models w' c' :=
  ⟨c, .quiet op c hout, h.congr hdummy hpipe hclient hthread⟩

theorem fillSlot (h : Models w c) (htodo : w.threadTodo = []) (env : ThreadEnv) :
    Models (w.fillSlot env) c := by
  obtain ⟨s, reqs, reps⟩ := c
  have hfilled : Models (w.fillSlot env) ⟨s, reqs, reps + ([] : List Reply)⟩ :=
    h.answer htodo rfl rfl h.requests rfl rfl
  rwa [Multiset.coe_nil, add_zero] at hfilled

theorem threadGo (h : Models w c) (htodo : w.threadTodo = []) (env : ThreadEnv) :
    ∃ c', Converses (.threadStep env) c (w.threadGo env).2 c' ∧ Models (w.threadGo env).1 c' := by
  -- Only the reading of a message and the announcement of a frame say anything.
  unfold DummySystem.threadGo
  cases w.threadPc with
  | start => exact h.silent _ (by simp) rfl rfl rfl rfl
  | started => exact h.silent _ (by simp) rfl rfl rfl rfl
  | top =>
    dsimp only
    split
    · exact h.silent _ (by simp) rfl rfl rfl rfl
    · split
      · exact h.silent _ (by simp) rfl rfl rfl rfl
      · exact h.silent _ (by simp) rfl rfl rfl rfl
  | poll state =>
    have hmoved (pc : ThreadPc) : Models { w with threadPc := pc } c := h.congr rfl rfl rfl rfl
    dsimp only
    split
    · split
      · exact h.silent _ (by simp) rfl rfl rfl rfl
      · exact (hmoved .top).privReadControlMessage htodo env
    · split
      · exact h.silent _ (by simp) rfl rfl rfl rfl
      · exact h.silent _ (by simp) rfl rfl rfl rfl
      · exact (hmoved .frame).privReadControlMessage htodo env
  | frame =>
    dsimp only
    split
    · exact h.silent _ (by simp) rfl rfl rfl rfl
    · split
      · exact h.silent _ (by simp) rfl rfl rfl rfl
      · exact h.silent _ (by simp [SystemObs.Quiet]) rfl rfl rfl rfl
  | fill => exact ⟨c, .quiet _ c (by simp [SystemObs.Quiet]), h.fillSlot htodo env⟩
  | stopping => exact h.silent _ (by simp) rfl rfl rfl rfl
  | stopped => exact h.silent _ (by simp) rfl rfl rfl rfl

theorem threadStep (h : Models w c) (env : ThreadEnv) :
    ∃ c', Converses (.threadStep env) c (w.threadStep env).2 c' ∧
      Models (w.threadStep env).1 c' := by
  unfold DummySystem.threadStep
  cases htodo : w.threadTodo with
  | nil => exact h.threadGo htodo env
  | cons e todo => exact ⟨c, .quiet _ c (DummySystem.effectObs_quiet e), h.threadTodoStep htodo⟩

/-! ### The client -/

theorem clientStep (h : Models w c) :
    ∃ c', Converses .clientStep c w.clientStep.2 c' ∧ Models w.clientStep.1 c' := by
  unfold DummySystem.clientStep
  cases htodo : w.clientTodo with
  | nil => exact ⟨c, .quiet _ c (by simp), h⟩
  | cons e todo => exact ⟨c, .quiet _ c (DummySystem.effectObs_quiet e), h.clientTodoStep htodo⟩

/-- What is seen of a call are its messages for the thread. -/
theorem start_snd (x : ClientCall) : (w.start x).2 = (asked x.effects).map .sends := by
  unfold DummySystem.start asked
  rw [List.map_filterMap]
  refine List.filterMap_congr ?_
  intro e _
  cases e <;> rfl

/-- A call that has asked `asks` and told `tells`. -/
theorem start (h : Models w c) (htodo : w.clientTodo = []) {x : ClientCall} {asks : List Request}
    {tells : List Reply} (hasked : asked x.effects = asks.map Request.cmd)
    (htold : told x.effects = tells.map Reply.cmd) :
    Models (w.start x).1 ⟨x.bcstate, c.requests + asks, c.replies + tells⟩ := by
  refine ⟨?_, h.threadTodo, rfl, ?_, ?_⟩
  · have hq : (w.start x).1.dummy.Queues w.dummy.queue := h.queues.congr rfl rfl rfl
    exact hq.queue_eq ▸ hq
  · rw [Multiset.map_add, ← h.requests, DummySystem.coe_requests, DummySystem.coe_requests, htodo,
      Multiset.map_coe, ← hasked]
    show _ = (w.threadPipe : Multiset Cmd) + 0 + _
    rw [add_zero]
    rfl
  · rw [Multiset.map_add, ← h.replies, DummySystem.coe_replies, DummySystem.coe_replies, htodo,
      Multiset.map_coe]
    show (w.dummy.queue : Multiset Cmd) + (controls w.dummy.controlPipe +
      (controls (told w.threadTodo) + controls (told x.effects))) = _ + (_ + (_ + 0)) + _
    rw [htold, controls_replies]
    abel

/-- A call that keeps to the rules is a step of the conversation; what it says is underway after
it. -/
theorem call (h : Models w c) (htodo : w.clientTodo = []) (op : ClientOp) (hop : op.Speaks)
    {x : ClientCall} (hx : Says w.dummy.bcstate x) :
    ∃ c', Converses (.call op) c (w.start x).2 c' ∧ Models (w.start x).1 c' := by
  obtain ⟨asks, tells, hcalls, hasked, htold⟩ := hx
  rw [h.bcstate] at hcalls
  refine ⟨_, ?_, h.start htodo hasked htold⟩
  rw [start_snd, hasked, List.map_map]
  exact .calls hop hcalls

/-- `cmtspeech_check_pending` moves a message on, from the control pipe into `pubbuf`, in its
order. -/
theorem checkPending (h : Models w c) (flags : Bool) : Models (w.checkPending flags).1 c := by
  obtain ⟨hqueues, hpipe⟩ := h.queues.checkPending flags
  have hbc : (w.dummy.checkPending flags).2.2.bcstate = w.dummy.bcstate := by
    unfold Dummy.checkPending
    dsimp only
    split
    · rfl
    · split
      · rfl
      · split
        · rfl
        · split <;> rfl
  refine ⟨hqueues.queue_eq ▸ hqueues, h.threadTodo, hbc.trans h.bcstate, h.requests, ?_⟩
  rw [← h.replies, DummySystem.coe_replies, DummySystem.coe_replies, ← hpipe, controls_append]
  show ((w.dummy.checkPending flags).2.2.queue : Multiset Cmd) +
    (controls (w.dummy.checkPending flags).2.2.controlPipe +
      (controls (told w.threadTodo) + controls (told w.clientTodo))) = _
  rw [hqueues.queue_eq, ← Multiset.coe_add, ← Multiset.coe_add]
  abel

/-- The oldest message in the buffer is one of the thread. -/
theorem heard_reply {s : BcState} {reqs : Multiset Request} {reps : Multiset Reply}
    (h : Models w ⟨s, reqs, reps⟩) (htodo : w.clientTodo = []) (k : DummyKernel)
    (hwaits : w.dummy.pubbufRead ≠ w.dummy.pubbufWrite) :
    ∃ p reps' asks tells, reps = p ::ₘ reps' ∧ w.dummy.load w.dummy.pubbufRead = p.cmd ∧
      Reacts k s p (w.readEvent k).1.dummy.bcstate asks tells ∧
      (w.readEvent k).2 = .processed p.cmd 0 :: asks.map (fun r => .sends r.cmd) ∧
      Models (w.readEvent k).1
        ⟨(w.readEvent k).1.dummy.bcstate, reqs + asks, reps' + tells⟩ := by
  obtain rfl : w.dummy.bcstate = s := h.bcstate
  cases hqueue : w.dummy.queue with
  | nil => exact absurd (h.queues.empty_iff.mpr hqueue) hwaits
  | cons msg rest =>
    have hqueues : w.dummy.Queues (msg :: rest) := hqueue ▸ h.queues
    have hreps : reps.map Reply.cmd = msg ::ₘ ((rest : Multiset Cmd) +
        (controls w.dummy.controlPipe +
          (controls (told w.threadTodo) + controls (told w.clientTodo)))) := by
      rw [← h.replies, DummySystem.coe_replies, hqueue]
      rfl
    obtain ⟨p, hp, rfl, hrest⟩ := Multiset.map_eq_cons _ _ _ _ |>.mpr hreps
    obtain ⟨hres, asks, tells, hreacts, hasked, htold⟩ :=
      ClientCall.readEvent_reacts k w.dummy.bcstate p
    -- the message is taken from the buffer first, and heard then
    have hpopped : Models { w with
        dummy := { w.dummy with pubbufRead := (w.dummy.pubbufRead + 4) % salMsgBuffer } }
        ⟨w.dummy.bcstate, reqs, reps.erase p⟩ := by
      have hpop := hqueues.pop
      refine ⟨hpop.queue_eq ▸ hpop, h.threadTodo, rfl, h.requests, ?_⟩
      rw [hrest, DummySystem.coe_replies, hpop.queue_eq]
    unfold DummySystem.readEvent DummySystem.idle
    rw [hqueues.front]
    refine ⟨p, reps.erase p, asks, tells, (Multiset.cons_erase hp).symm, rfl, hreacts, ?_,
      hpopped.start htodo hasked htold⟩
    dsimp only
    rw [start_snd, hres, hasked, List.map_map]
    rfl

/-- `cmtspeech_read_event` hears the oldest message in the buffer. -/
theorem readEvent (h : Models w c) (htodo : w.clientTodo = []) (k : DummyKernel)
    (hwaits : w.dummy.pubbufRead ≠ w.dummy.pubbufWrite) :
    ∃ c', Converses (.call (.readEvent k)) c (w.readEvent k).2 c' ∧
      Models (w.readEvent k).1 c' := by
  obtain ⟨s, reqs, reps⟩ := c
  obtain ⟨p, reps', asks, tells, rfl, -, hreacts, hout, hmodels⟩ := h.heard_reply htodo k hwaits
  refine ⟨_, ?_, hmodels⟩
  rw [hout]
  exact .reacts k reqs reps' hreacts

/-- A call that is made when no other one is in progress. -/
theorem run (h : Models w c) (htodo : w.clientTodo = []) (op : ClientOp)
    (hwaits : ReadsWaiting w (.call op)) :
    ∃ c', Converses (.call op) c (op.run w).2 c' ∧ Models (op.run w).1 c' := by
  cases op with
  | checkPending flags =>
    refine ⟨c, .quiet _ c ?_, h.checkPending flags⟩
    intro o ho
    obtain ⟨msg, -, rfl⟩ := List.mem_map.mp ho
    trivial
  | readEvent k => exact h.readEvent htodo k hwaits
  -- The calls that speak leave what they say among the things to do.
  | stateChangeCallStatus k status =>
    have hmoved : Models { w with callServerStatus := status } c := h.congr rfl rfl rfl rfl
    exact hmoved.call htodo (.stateChangeCallStatus k status) trivial
      (ClientCall.says_stateChangeCallStatus k _ _ _)
  | stateChangeCallConnect state =>
    exact h.call htodo (.stateChangeCallConnect state) trivial
      (ClientCall.says_stateChangeCallConnect _ _)
  | setWbPreference enabled =>
    exact h.call htodo (.setWbPreference enabled) trivial (ClientCall.says_setWbPreference _ _)
  | testDataRampReq k rampstart ramplen =>
    exact h.call htodo (.testDataRampReq k rampstart ramplen) trivial
      (ClientCall.says_testDataRampReq k _ _ _)
  | ulBufferAcquire => exact h.silent _ (by simp [ClientOp.run, DummySystem.ulBufferAcquire,
      SystemObs.Quiet]) rfl rfl rfl rfl
  | ulBufferRelease i own =>
    dsimp only [ClientOp.run, DummySystem.ulBufferRelease]
    split
    · exact h.silent _ (by simp [SystemObs.Quiet]) rfl rfl rfl rfl
    · split <;> exact h.silent _ (by simp [SystemObs.Quiet]) rfl rfl rfl rfl
  | dlBufferAcquire => exact h.silent _ (by simp [ClientOp.run, DummySystem.dlBufferAcquire,
      SystemObs.Quiet]) rfl rfl rfl rfl
  | dlBufferRelease i own =>
    dsimp only [ClientOp.run, DummySystem.dlBufferRelease]
    split
    · exact h.silent _ (by simp [SystemObs.Quiet]) rfl rfl rfl rfl
    · split <;> exact h.silent _ (by simp [SystemObs.Quiet]) rfl rfl rfl rfl
  | close =>
    have hmoved : Models { w with closing := true } c := h.congr rfl rfl rfl rfl
    exact hmoved.call htodo .close trivial (ClientCall.says_close _)

end Models

/-- **The system follows the model**, as long as the client reads no event that is not there. -/
theorem dummySystem_simulated : dummySystem.Simulated Models ReadsWaiting Converses := by
  intro w c op h hwaits
  cases op with
  | call op =>
    show ∃ c', Converses _ c (if w.clientTodo = [] ∧ w.closing = false then op.run w else (w, [])).2
      c' ∧ Models (if w.clientTodo = [] ∧ w.closing = false then op.run w else (w, [])).1 c'
    by_cases hidle : w.clientTodo = [] ∧ w.closing = false
    · rw [if_pos hidle]
      exact h.run hidle.1 op hwaits
    · rw [if_neg hidle]
      exact ⟨c, .quiet _ c (by simp), h⟩
  | clientStep => exact h.clientStep
  | threadStep env => exact h.threadStep env

/-- An instance that has been opened has nothing to say. -/
theorem models_opened {w : DummySystem} (h : dummySystem.init w) :
    ∃ s : BcState, Models w ⟨s.bcOpen, 0, 0⟩ := by
  obtain ⟨old, tone, env, -, rfl⟩ := h
  have hopened : (old.cmtspeechOpen tone).dummy.Queues [] := Dummy.Queues.opened old.dummy
  refine ⟨old.dummy.bcstate, ⟨hopened.queue_eq ▸ hopened, rfl, rfl, rfl, ?_⟩⟩
  rw [DummySystem.coe_replies, hopened.queue_eq]
  rfl

/-- A run of the system is a run of the model: what every step of the model keeps, with all that
has been seen so far, holds of it.  `P` is what the condition on the steps says about the
model. -/
theorem Models.run_invariant {C : DummySystem → SystemOp → Prop}
    (hC : ∀ w op, C w op → ReadsWaiting w op) {P : SystemOp → Conversation → Prop}
    (hP : ∀ w c op, Models w c → C w op → P op c) {I : Conversation → List SystemObs → Prop}
    (hopened : ∀ s : BcState, I ⟨s.bcOpen, 0, 0⟩ [])
    (hstep : ∀ op c seen out c', I c seen → P op c → Converses op c out c' → I c' (seen ++ out))
    {w : DummySystem} (hw : dummySystem.init w) {ops : List SystemOp}
    (hops : dummySystem.Along C w ops) :
    ∃ c, Models (dummySystem.exec w ops) c ∧ I c (dummySystem.trace w ops) := by
  obtain ⟨s, hmodels⟩ := models_opened hw
  exact (dummySystem_simulated.mono hC).run hP hstep hmodels (hopened s) hops

/-- Every state of a run stands for one of the model. -/
theorem Models.reachable {w : DummySystem} (hw : dummySystem.init w) {ops : List SystemOp}
    (hops : dummySystem.Along ReadsWaiting w ops) : ∃ c, Models (dummySystem.exec w ops) c := by
  obtain ⟨c, hmodels, -⟩ := Models.run_invariant (fun _ _ h => h) (P := fun _ _ => True)
    (I := fun _ _ => True) (fun _ _ _ _ _ => trivial) (fun _ => trivial)
    (fun _ _ _ _ _ _ _ _ => trivial) hw hops
  exact ⟨c, hmodels⟩

end CmtSpeech
