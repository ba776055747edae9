import CmtSpeech.DummyTalk

/-!
# The order of messages

The messages between the client and the thread are heard in the order in which they were sent, and
each of them once.

* `SystemObs.toThread`, `SystemObs.byThread` — the messages in one direction, sent and heard.
* `SystemObs.toClient`, `SystemObs.byClient` — the control messages in the other one.
* `DummySystem.InOrder` — what a step does to the messages on their way.

## Main results

* `dummySystem_inOrder`
-/

namespace CmtSpeech

/-! ### What is sent, and what is heard -/

namespace SystemObs

/-- A message for the thread, when the call says it; it comes to the pipe with its effect. -/
def toThread : SystemObs → Option Cmd
  | .sends msg => some msg
  | _ => none

/-- A message the thread has heard, in the order of its pipe. -/
def byThread : SystemObs → Option Cmd
  | .handled msg _ => some msg
  | _ => none

/-- A control message for the client, when it comes into the control pipe. -/
def toClient : SystemObs → Option Cmd
  | .came msg => if msgGetDomain msg = domainControl then some msg else none
  | _ => none

/-- A message the client has heard, in the order of `pubbuf`. -/
def byClient : SystemObs → Option Cmd
  | .processed msg _ => some msg
  | _ => none

end SystemObs

namespace DummySystem

/-- The control messages that have come to the client, and have not been heard. -/
def arrived (w : DummySystem) : List Cmd := w.dummy.queue ++ controls w.dummy.controlPipe

/-- A step in order: each side hears what came first.  What was heard, with what is still on its
way, is what was on its way before, with what is said in the step. -/
structure InOrder (w : DummySystem) (r : DummySystem × List SystemObs) : Prop where
  requests : r.2.filterMap SystemObs.byThread ++ r.1.requests =
    w.requests ++ r.2.filterMap SystemObs.toThread
  arrived : r.2.filterMap SystemObs.byClient ++ r.1.arrived =
    w.arrived ++ r.2.filterMap SystemObs.toClient

variable {w : DummySystem}

/-- What is seen of a step in which no message moves: nothing is said to either side, and nothing
is heard. -/
def Mute (out : List SystemObs) : Prop :=
  ∀ o ∈ out, o.toThread = none ∧ o.byThread = none ∧ o.toClient = none ∧ o.byClient = none

/-! ### Steps of either side -/

theorem InOrder.of_mute {r : DummySystem × List SystemObs} (h : Mute r.2)
    (hreqs : r.1.requests = w.requests) (harr : r.1.arrived = w.arrived) : w.InOrder r := by
  have hnone {f : SystemObs → Option Cmd} (hf : ∀ o ∈ r.2, f o = none) : r.2.filterMap f = [] :=
    List.filterMap_eq_nil_iff.mpr hf
  refine ⟨?_, ?_⟩
  · rw [hnone fun o ho => (h o ho).1, hnone fun o ho => (h o ho).2.1, hreqs, List.nil_append,
      List.append_nil]
  · rw [hnone fun o ho => (h o ho).2.2.1, hnone fun o ho => (h o ho).2.2.2, harr, List.nil_append,
      List.append_nil]

theorem toClient_effectObs (e : Effect) :
    (effectObs e).filterMap SystemObs.toClient = controls (told [e]) := by
  cases e with
  | controlWrite msg =>
    by_cases h : msgGetDomain msg = domainControl <;>
      simp [effectObs, SystemObs.toClient, controls, told, h]
  | _ => rfl

theorem effectObs_none (e : Effect) :
    (effectObs e).filterMap SystemObs.toThread = [] ∧
      (effectObs e).filterMap SystemObs.byThread = [] ∧
      (effectObs e).filterMap SystemObs.byClient = [] := by
  cases e <;> exact ⟨rfl, rfl, rfl⟩

/-- An effect, of the call or of the thread, adds to what has arrived the message that it tells
the client, if it does. -/
theorem arrived_perform {q : List Cmd} (h : w.dummy.Queues q) (e : Effect) :
    (w.perform e).arrived = w.arrived ++ controls (told [e]) := by
  have hq := w.perform_queues e h
  rw [arrived, arrived, hq.queue_eq, h.queue_eq, perform_controlPipe, controls_append,
    List.append_assoc]

theorem inOrder_clientStep {q : List Cmd} (h : w.dummy.Queues q) : w.InOrder w.clientStep := by
  unfold clientStep
  cases htodo : w.clientTodo with
  | nil => exact .of_mute (by simp [Mute]) rfl rfl
  | cons e todo =>
    obtain ⟨hto, hby, hclient⟩ := effectObs_none e
    refine ⟨?_, ?_⟩
    · dsimp only
      rw [hto, hby, List.nil_append, List.append_nil, requests, requests, htodo, asked_cons,
        ← List.append_assoc, ← perform_threadPipe]
    · dsimp only
      rw [hclient, toClient_effectObs, ← arrived_perform h, List.nil_append]
      rfl

theorem inOrder_threadTodo {q : List Cmd} (h : w.dummy.Queues q) {e : Effect} {todo : List Effect}
    (htodo : w.threadTodo = e :: todo) (hasked : asked w.threadTodo = []) :
    w.InOrder ({ w.perform e with threadTodo := todo }, effectObs e) := by
  obtain ⟨hto, hby, hclient⟩ := effectObs_none e
  have hnil : asked [e] = [] := by
    rw [htodo, asked_cons] at hasked
    exact (List.append_eq_nil_iff.mp hasked).1
  refine ⟨?_, ?_⟩
  · dsimp only
    rw [hto, hby, List.nil_append, List.append_nil]
    show (w.perform e).threadPipe ++ asked (w.perform e).clientTodo = _
    rw [perform_threadPipe, hnil, List.append_nil, perform_clientTodo]
    rfl
  · dsimp only
    rw [hclient, toClient_effectObs, ← arrived_perform h, List.nil_append]
    rfl

theorem inOrder_privReadControlMessage : w.InOrder w.privReadControlMessage := by
  unfold privReadControlMessage
  cases hpipe : w.threadPipe with
  | nil => exact .of_mute (by simp [Mute]) rfl rfl
  | cons msg rest =>
    refine ⟨?_, ?_⟩
    · show [msg] ++ (rest ++ asked w.clientTodo) = w.requests ++ []
      rw [requests, hpipe]
      simp
    · exact (List.append_nil _).symm

theorem inOrder_threadGo (env : ThreadEnv) : w.InOrder (w.threadGo env) := by
  -- Where the thread goes on has no part in what it has read.
  have hread (pc : ThreadPc) : w.InOrder (privReadControlMessage { w with threadPc := pc }) := by
    have h := inOrder_privReadControlMessage (w := { w with threadPc := pc })
    exact ⟨h.requests, h.arrived⟩
  unfold threadGo
  cases w.threadPc with
  | poll state =>
    dsimp only
    split
    · split
      · exact .of_mute (by simp [Mute]) rfl rfl
      · exact hread _
    · split
      · exact .of_mute (by simp [Mute]) rfl rfl
      · exact .of_mute (by simp [Mute]) rfl rfl
      · exact hread _
  | top =>
    dsimp only
    split
    · exact .of_mute (by simp [Mute]) rfl rfl
    · split <;> exact .of_mute (by simp [Mute]) rfl rfl
  | frame =>
    dsimp only
    split
    · exact .of_mute (by simp [Mute]) rfl rfl
    · split
      · exact .of_mute (by simp [Mute]) rfl rfl
      · refine .of_mute ?_ rfl rfl
        simp [Mute, SystemObs.toThread, SystemObs.byThread, SystemObs.toClient, SystemObs.byClient]
  | fill =>
    refine .of_mute ?_ rfl rfl
    simp [Mute, SystemObs.toThread, SystemObs.byThread, SystemObs.toClient, SystemObs.byClient]
  | _ => exact .of_mute (by simp [Mute]) rfl rfl

/-! ### Calls -/

theorem filterMap_start (x : ClientCall) {f : SystemObs → Option Cmd}
    (hf : ∀ msg, f (.sends msg) = none) : (w.start x).2.filterMap f = [] := by
  rw [Models.start_snd, List.filterMap_map]
  exact List.filterMap_eq_nil_iff.mpr fun msg _ => hf msg

/-- A call has its messages for the thread after those of the calls before. -/
theorem inOrder_start (htodo : w.clientTodo = []) (x : ClientCall) : w.InOrder (w.start x) := by
  have hto : (w.start x).2.filterMap SystemObs.toThread = asked x.effects := by
    rw [Models.start_snd, List.filterMap_map]
    exact List.filterMap_some
  refine ⟨?_, ?_⟩
  · rw [hto, filterMap_start x fun _ => rfl, requests, requests, htodo]
    exact congrArg (· ++ asked x.effects) (List.append_nil _).symm
  · rw [filterMap_start x fun _ => rfl, filterMap_start x fun _ => rfl, List.nil_append,
      List.append_nil]
    rfl

theorem inOrder_checkPending {q : List Cmd} (h : w.dummy.Queues q) (flags : Bool) :
    w.InOrder (w.checkPending flags) := by
  obtain ⟨hqueues, hpipe⟩ := h.checkPending flags
  have hnone {f : SystemObs → Option Cmd} (hf : ∀ msg, f (.took msg) = none) :
      (w.dummy.takes.map SystemObs.took).filterMap f = [] := by
    rw [List.filterMap_map]
    exact List.filterMap_eq_nil_iff.mpr fun msg _ => hf msg
  refine ⟨?_, ?_⟩
  · dsimp only [checkPending]
    rw [hnone fun _ => rfl, hnone fun _ => rfl, List.append_nil]
    rfl
  · dsimp only [checkPending]
    rw [hnone fun _ => rfl, hnone fun _ => rfl, List.append_nil, List.nil_append, arrived,
      arrived, hqueues.queue_eq, h.queue_eq, ← hpipe, controls_append, List.append_assoc]

theorem inOrder_readEvent (htodo : w.clientTodo = []) {msg : Cmd} {q : List Cmd}
    (h : w.dummy.Queues (msg :: q)) (k : DummyKernel) : w.InOrder (w.readEvent k) := by
  unfold readEvent
  rw [h.front]
  refine ⟨(inOrder_start htodo _).requests, ?_⟩
  have hpop : ({ (w.start (w.idle.readEvent k msg).2.2).1.dummy with
      pubbufRead := (w.dummy.pubbufRead + 4) % salMsgBuffer } : Dummy).Queues q :=
    h.pop.congr rfl rfl rfl
  show msg :: (w.start _).2.filterMap SystemObs.byClient ++ _ =
    w.arrived ++ (w.start _).2.filterMap SystemObs.toClient
  rw [filterMap_start _ fun _ => rfl, filterMap_start _ fun _ => rfl, List.append_nil, arrived,
    arrived, hpop.queue_eq, h.queue_eq]
  rfl

theorem inOrder_run (htodo : w.clientTodo = []) {q : List Cmd} (h : w.dummy.Queues q)
    (op : ClientOp) (hwaits : ReadsWaiting w (.call op)) : w.InOrder (op.run w) := by
  have hrelease (res : ℤ) : Mute [.released res] := by
    simp [Mute, SystemObs.toThread, SystemObs.byThread, SystemObs.toClient, SystemObs.byClient]
  have hmoved (w' : DummySystem) (hdummy : w'.dummy = w.dummy)
      (hpipe : w'.threadPipe = w.threadPipe) (hclient : w'.clientTodo = w.clientTodo)
      (x : ClientCall) : w.InOrder (w'.start x) := by
    have hstart := inOrder_start (hclient.trans htodo) x
    refine ⟨?_, ?_⟩
    · rw [hstart.requests, requests, requests, hpipe, hclient]
    · rw [hstart.arrived, arrived, arrived, hdummy]
  cases op with
  | checkPending flags => exact inOrder_checkPending h flags
  -- The oldest message in `pubbuf` is processed; there is one, as the reads wait for one.
  | readEvent k =>
    cases q with
    | nil => exact absurd (h.empty_iff.mpr rfl) hwaits
    | cons msg rest => exact inOrder_readEvent htodo h k
  | ulBufferAcquire =>
    refine .of_mute ?_ rfl rfl
    simp [ClientOp.run, ulBufferAcquire, Mute, SystemObs.toThread, SystemObs.byThread,
      SystemObs.toClient, SystemObs.byClient]
  | dlBufferAcquire =>
    refine .of_mute ?_ rfl rfl
    simp [ClientOp.run, dlBufferAcquire, Mute, SystemObs.toThread, SystemObs.byThread,
      SystemObs.toClient, SystemObs.byClient]
  | ulBufferRelease i own =>
    dsimp only [ClientOp.run, ulBufferRelease]
    split
    · exact .of_mute (hrelease _) rfl rfl
    · split <;> exact .of_mute (hrelease _) rfl rfl
  | dlBufferRelease i own =>
    dsimp only [ClientOp.run, dlBufferRelease]
    split
    · exact .of_mute (hrelease _) rfl rfl
    · split <;> exact .of_mute (hrelease _) rfl rfl
  | stateChangeCallStatus k status =>
    exact hmoved { w with callServerStatus := status } rfl rfl rfl _
  | close => exact hmoved { w with closing := true } rfl rfl rfl _
  | _ => exact inOrder_start htodo _

end DummySystem

end CmtSpeech
