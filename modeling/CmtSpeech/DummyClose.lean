import CmtSpeech.DummyTalk

/-!
# Closing the dummy backend

`cmtspeech_close` asks the thread to stop by a variable that both write, and waits for it.

* `ThreadMoves` — what a step of the thread does to where it is, and to the variable.
* `DummySystem.toStop` — how many steps of the thread are left when it has been asked to stop.

## Main results

* `dummySystem_close_iff` — when the thread stops, and when the assertion after it holds.
-/

namespace CmtSpeech

/-! ### The thread -/

/-- The effect does not touch `thread_running`, the field that the thread and `cmtspeech_close`
both set. -/
def Effect.Tame (e : Effect) : Prop := ∀ threadRunning, e ≠ .setThreadRunning threadRunning

/-- What a step of the thread, with nothing left to do before, does to where it is, to
`thread_running`, and to what it is to do before it goes on. -/
inductive ThreadMoves (env : ThreadEnv) :
    ThreadPc → ThreadRunning → ThreadPc → ThreadRunning → List Effect → Prop
  | starts : ThreadMoves env .start .started .started .started []
  | passes {r : ThreadRunning} (h : r ≠ .started) : ThreadMoves env .start r .top r []
  | runs (r : ThreadRunning) : ThreadMoves env .started r .top .running []
  | leaves {r : ThreadRunning} (h : r.exitRequested = true) : ThreadMoves env .top r .stopping r []
  | polls {r : ThreadRunning} (h : r.exitRequested ≠ true) (state : DummyState) :
    ThreadMoves env .top r (.poll state) r []
  | hears (state : DummyState) (r : ThreadRunning) {pc : ThreadPc} {todo : List Effect}
      (hpc : pc = .top ∨ pc = .frame) (hlen : todo.length ≤ 2) (htame : ∀ e ∈ todo, e.Tame) :
    ThreadMoves env (.poll state) r pc r todo
  | fails (state : DummyState) (r : ThreadRunning) (h : env.pollError = some false) :
    ThreadMoves env (.poll state) r .frame .exitReq []
  | waits (r : ThreadRunning) {pc : ThreadPc} (hpc : pc = .top ∨ pc = .fill) :
    ThreadMoves env .frame r pc r []
  | fills (r : ThreadRunning) {todo : List Effect} (hlen : todo.length ≤ 1)
      (htame : ∀ e ∈ todo, e.Tame) : ThreadMoves env .fill r .top r todo
  | stops (r : ThreadRunning) : ThreadMoves env .stopping r .stopped .terminated []
  | rests (r : ThreadRunning) : ThreadMoves env .stopped r .stopped r []

/-- What the thread is to do for a message is short, and none of it is on `thread_running`. -/
theorem handleInboundControlMessage_short (state : DummyState) (msg : Cmd) :
    (Dummy.handleInboundControlMessage state msg).2.length ≤ 2 ∧
      ∀ e ∈ (Dummy.handleInboundControlMessage state msg).2, e.Tame := by
  unfold Dummy.handleInboundControlMessage
  split_ifs <;> simp [Effect.Tame]

namespace DummySystem

variable (w : DummySystem)

theorem read_moves {env : ThreadEnv} (htodo : w.threadTodo = []) (state : DummyState)
    {pc : ThreadPc} (hpc : pc = .top ∨ pc = .frame) :
    let r := (privReadControlMessage { w with threadPc := pc }).1
    ThreadMoves env (.poll state) w.threadRunning r.threadPc r.threadRunning r.threadTodo ∧
      r.clientTodo = w.clientTodo ∧ r.closing = w.closing := by
  unfold privReadControlMessage
  dsimp only
  cases w.threadPipe with
  | nil =>
    refine ⟨.hears state _ hpc ?_ ?_, rfl, rfl⟩
    · simp [htodo]
    · simp [htodo]
  | cons msg rest =>
    obtain ⟨hlen, htame⟩ := handleInboundControlMessage_short w.dummy.state msg
    exact ⟨.hears state _ hpc hlen htame, rfl, rfl⟩

/-- A step of the thread with nothing left to do before it goes on. -/
theorem threadGo_moves (htodo : w.threadTodo = []) (env : ThreadEnv) :
    let r := (w.threadGo env).1
    ThreadMoves env w.threadPc w.threadRunning r.threadPc r.threadRunning r.threadTodo ∧
      r.clientTodo = w.clientTodo ∧ r.closing = w.closing := by
  have hgo {pc pc' : ThreadPc} {r r' : ThreadRunning} (h : ThreadMoves env pc r pc' r' []) :
      ThreadMoves env pc r pc' r' w.threadTodo := by rwa [htodo]
  -- One case for each point the thread can be at, in the order of `worker_thread`.
  unfold threadGo
  cases hpc : w.threadPc with
  | start =>
    refine ⟨hgo ?_, rfl, rfl⟩
    dsimp only
    split
    · next hr =>
      rw [hr]
      exact .starts
    · next hr => exact .passes hr
  | started => exact ⟨hgo (.runs _), rfl, rfl⟩
  | top =>
    dsimp only
    split
    · next hr => exact ⟨hgo (.leaves hr), rfl, rfl⟩
    · next hr =>
      split
      · exact ⟨hgo (.polls hr _), rfl, rfl⟩
      · exact ⟨hgo (.polls hr _), rfl, rfl⟩
  | poll state =>
    have hstays {pc : ThreadPc} (hpc : pc = .top ∨ pc = .frame) :
        ThreadMoves env (.poll state) w.threadRunning pc w.threadRunning [] :=
      .hears state _ hpc (by simp) (by simp)
    dsimp only
    split
    · split
      · exact ⟨hgo (hstays (.inl rfl)), rfl, rfl⟩
      · exact w.read_moves htodo state (.inl rfl)
    · split
      · exact ⟨hgo (hstays (.inl rfl)), rfl, rfl⟩
      · next herror => exact ⟨hgo (.fails state _ herror), rfl, rfl⟩
      · exact w.read_moves htodo state (.inr rfl)
  | frame =>
    dsimp only
    split
    · exact ⟨hgo (.waits _ (.inl rfl)), rfl, rfl⟩
    · split
      · exact ⟨hgo (.waits _ (.inl rfl)), rfl, rfl⟩
      · exact ⟨hgo (.waits _ (.inr rfl)), rfl, rfl⟩
  | fill =>
    -- What is left to do after a frame is to announce it to the client.
    refine ⟨.fills _ ?_ ?_, rfl, rfl⟩
    · dsimp only [fillSlot]
      split <;> simp
    · dsimp only [fillSlot]
      split <;> simp [Effect.Tame]
  | stopping => exact ⟨hgo (.stops _), rfl, rfl⟩
  | stopped =>
    dsimp only
    rw [hpc]
    exact ⟨hgo (.rests _), rfl, rfl⟩

/-- What the thread does to where it is when an effect takes place. -/
theorem perform_tame {e : Effect} (h : e.Tame) : (w.perform e).threadRunning = w.threadRunning := by
  cases e with
  | setThreadRunning threadRunning => exact absurd rfl (h threadRunning)
  | _ => rfl

theorem perform_threadPc (e : Effect) : (w.perform e).threadPc = w.threadPc := by cases e <;> rfl

theorem perform_closing (e : Effect) : (w.perform e).closing = w.closing := by cases e <;> rfl

end DummySystem

/-! ### How far the thread is from its end -/

/-- How many steps are left to the end of the loop, at most, when the thread has been asked to
stop. -/
def ThreadPc.toStop : ThreadPc → ℕ
  | .stopped => 0
  | .stopping => 1
  | .top => 2
  | .start => 3
  | .started => 3
  | .fill => 4
  | .frame => 5
  | .poll _ => 8

/-- How many steps of the thread are left, at most, when it has been asked to stop.  It goes down
with every step of the thread, which is why eight are enough. -/
def DummySystem.toStop (w : DummySystem) : ℕ := w.threadTodo.length + w.threadPc.toStop

/-- A step of the thread, which is what the bound counts. -/
def SystemOp.isThreadStep : SystemOp → Bool
  | .threadStep _ => true
  | _ => false

/-- `poll` does not fail, unless it is interrupted.  After another failure the thread stops by
itself. -/
def SystemOp.PollsOn : SystemOp → Prop
  | .threadStep env => env.pollError ≠ some false
  | _ => True

namespace ThreadMoves

variable {env : ThreadEnv} {pc pc' : ThreadPc} {r r' : ThreadRunning} {todo : List Effect}

theorem tame (h : ThreadMoves env pc r pc' r' todo) : ∀ e ∈ todo, e.Tame := by
  cases h with
  | hears _ _ _ _ htame => exact htame
  | fills _ _ htame => exact htame
  | _ => simp

theorem toStop_le (h : ThreadMoves env pc r pc' r' todo) : todo.length + pc'.toStop ≤ 8 := by
  cases h with
  | hears state r hpc hlen =>
    rcases hpc with rfl | rfl <;> simp only [ThreadPc.toStop] <;> omega
  | waits r hpc => rcases hpc with rfl | rfl <;> simp [ThreadPc.toStop]
  | fills r hlen =>
    simp only [ThreadPc.toStop]
    omega
  | _ => simp [ThreadPc.toStop]

/-- With the request to stop, every step is one less. -/
theorem toStop_lt (h : ThreadMoves env pc r pc' r' todo)
    (hr : r = if pc = .stopped then .terminated else .exitReq) (hpc : pc ≠ .started) :
    todo.length + pc'.toStop ≤ pc.toStop - 1 := by
  cases h with
  | starts => simp at hr
  | runs => exact absurd rfl hpc
  | polls hexit =>
    subst hr
    exact absurd rfl hexit
  | hears state r hpc hlen =>
    rcases hpc with rfl | rfl <;> simp only [ThreadPc.toStop] <;> omega
  | waits r hpc => rcases hpc with rfl | rfl <;> simp [ThreadPc.toStop]
  | fills r hlen =>
    simp only [ThreadPc.toStop]
    omega
  | _ => simp [ThreadPc.toStop]

end ThreadMoves

/-! ### Calls -/

namespace ClientCall

variable {x y : ClientCall}

/-- The call leaves `thread_running` alone, now and in all it has still to do. -/
def Tame (x : ClientCall) : Prop := ∀ e ∈ x.effects, e.Tame

theorem Tame.asks (h : x.Tame) (hy : OnlyAsks x y) : y.Tame := by
  obtain ⟨msgs, heffects⟩ := hy
  intro e he
  rw [heffects, List.mem_append, List.mem_map] at he
  rcases he with he | ⟨msg, -, rfl⟩
  · exact h e he
  · exact fun _ => Effect.noConfusion

theorem Tame.emit (h : x.Tame) {e : Effect} (he : e.Tame) : (x.emit e).Tame := by
  intro e' he'
  rcases List.mem_append.mp he' with he' | he'
  · exact h e' he'
  · rwa [List.mem_singleton.mp he']

theorem tame_nil (s : BcState) : Tame ⟨s, []⟩ := fun _ he => absurd he List.not_mem_nil

/-- Every effect but one on `thread_running` is tame, and a call that leaves such an effect to do
stays tame. -/
theorem tame_of_ne {e : Effect} (he : e.Tame) (h : x.Tame) (c : Prop) [Decidable c] :
    Tame (if c then x.emit e else x) := by
  split
  · exact h.emit he
  · exact h

theorem Tame.speechConfigReq (h : x.Tame) (controlWrite : Bool)
    (speechData userConnect : BitVec 8) :
    (privEmitSpeechConfigReq controlWrite speechData userConnect x).Tame :=
  tame_of_ne (fun _ => Effect.noConfusion) h _

theorem tame_readEvent (k : DummyKernel) (msg : Cmd) (s : BcState) :
    (readEvent k msg ⟨s, []⟩).2.2.Tame := by
  have hhandle := (tame_nil s).asks (OnlyAsks.bcHandleCommand k.threadWrite msg ⟨s, []⟩)
  unfold readEvent
  refine tame_of_ne (fun _ => Effect.noConfusion) ?_ _
  split
  · split
    · exact hhandle.speechConfigReq _ _ _
    · exact hhandle
  · split
    · exact (hhandle.asks (OnlyAsks.bcPostCommand _ _ _)).emit fun _ => Effect.noConfusion
    · exact hhandle

theorem onlyAsks_stateChangeCallStatus (res : ℤ) (status : Bool) (x : ClientCall) :
    OnlyAsks x (bcStateChangeCallStatus res status x).2 := by
  unfold bcStateChangeCallStatus
  refine OnlyAsks.modBc ?_ _
  split
  · unfold bcCallTerminated
    split_ifs
    · exact .of_eq rfl
    · exact OnlyAsks.bcSendSsiConfigRequest res _ false x id
    · exact .of_eq rfl
    · exact .of_eq rfl
  · unfold bcCallStarted stateChangeError
    split_ifs
    any_goals exact .of_eq rfl
    · exact OnlyAsks.bcSendSsiConfigRequest res _ true x id
    · exact OnlyAsks.bcSendSsiConfigRequest res _ true x _

theorem tame_stateChangeCallStatus (k : DummyKernel) (callServerStatus status : Bool)
    (s : BcState) :
    (stateChangeCallStatus k callServerStatus status ⟨s, []⟩).2.Tame := by
  have hcommon := (tame_nil s).asks (onlyAsks_stateChangeCallStatus k.threadWrite status ⟨s, []⟩)
  unfold stateChangeCallStatus
  cases status with
  | true => exact tame_of_ne (fun _ => Effect.noConfusion) hcommon _
  | false =>
    have hfirst := hcommon.emit (e := .setDlActive false) fun _ => Effect.noConfusion
    have hnext := hfirst.emit (e := .changeState .terminating) fun _ => Effect.noConfusion
    dsimp only
    split
    · split
      · exact absurd ‹_› Bool.false_ne_true
      · split
        · exact hnext.speechConfigReq _ _ _
        · exact hnext
    · exact hfirst

theorem tame_setWbPreference (enabled : Bool) (s : BcState) :
    (setWbPreference enabled ⟨s, []⟩).2.Tame := by
  unfold setWbPreference
  split
  · exact tame_nil s
  · exact tame_nil s

theorem tame_testDataRampReq (k : DummyKernel) (rampstart ramplen : BitVec 8) (s : BcState) :
    (testDataRampReq k rampstart ramplen ⟨s, []⟩).2.Tame := by
  have htype := msgGetType_rampPing rampstart ramplen
  have hsent : OnlyAsks ⟨s, []⟩ (bcWriteCommand k.threadWrite (bcPostCommand k.threadWrite)
      (Request.testRampPing rampstart ramplen).cmd ⟨s, []⟩).2 := by
    rw [bcPostCommand, bcWriteCommand_leaf _ _ _ (htype.trans_ne (by decide))
      (htype.trans_ne (by decide)), asks]
    split
    · exact .of_emit rfl
    · exact .of_eq rfl
  unfold testDataRampReq bcTestDataRampReq
  split
  · exact tame_nil s
  · dsimp only
    split
    · exact (tame_nil s).asks hsent
    · exact (tame_nil s).asks (hsent.modBc _)

end ClientCall

/-! ### Steps -/

namespace DummySystem

/-- What `cmtspeech_close` is to do: ask the thread to stop, and wake it up from `poll`. -/
def closeEffects : List Effect :=
  [.setThreadRunning .exitReq, .threadWrite Request.exitRequest.cmd]

/-- Only `cmtspeech_close` is about to touch `thread_running`, besides the thread itself, which
would stop before long. -/
structure Launched (w : DummySystem) : Prop where
  thread : ∀ e ∈ w.threadTodo, e.Tame
  client : (∀ e ∈ w.clientTodo, e.Tame) ∨ w.closing = true ∧ w.clientTodo = closeEffects
  toStop_le : w.toStop ≤ 8

/-- The thread has been asked to stop, and only the thread touches `thread_running` from now on.
What `P` says of the place of the thread and the field then holds until the end. -/
structure Closing (P : ThreadPc → ThreadRunning → Prop) (w : DummySystem) : Prop where
  closing : w.closing = true
  thread : ∀ e ∈ w.threadTodo, e.Tame
  client : ∀ e ∈ w.clientTodo, e.Tame
  life : P w.threadPc w.threadRunning

variable {w : DummySystem}

/-- A step of the thread works off an effect that is left to do, or is a move of the thread
itself. -/
theorem threadStep_cases (w : DummySystem) (env : ThreadEnv) :
    (∃ e todo, w.threadTodo = e :: todo ∧
      (w.threadStep env).1 = { w.perform e with threadTodo := todo }) ∨
    w.threadTodo = [] ∧
      ThreadMoves env w.threadPc w.threadRunning (w.threadStep env).1.threadPc
        (w.threadStep env).1.threadRunning (w.threadStep env).1.threadTodo ∧
      (w.threadStep env).1.clientTodo = w.clientTodo ∧
      (w.threadStep env).1.closing = w.closing := by
  unfold threadStep
  cases htodo : w.threadTodo with
  | nil => exact .inr ⟨rfl, w.threadGo_moves htodo env⟩
  | cons e todo => exact .inl ⟨e, todo, rfl, rfl⟩

theorem Closing.next {P : ThreadPc → ThreadRunning → Prop} {op : SystemOp}
    (hP : ∀ env pc r pc' r' todo, op = .threadStep env → P pc r →
      ThreadMoves env pc r pc' r' todo → P pc' r')
    (h : Closing P w) : Closing P (dummySystem.next w op).1 := by
  cases op with
  | call op =>
    -- A call is not taken any more once the instance is being closed.
    have hidle : ¬ (w.clientTodo = [] ∧ w.closing = false) := by
      rw [h.closing]
      simp
    rw [show dummySystem.next w (.call op) = (w, []) from if_neg hidle]
    exact h
  | clientStep =>
    show Closing P w.clientStep.1
    unfold clientStep
    cases htodo : w.clientTodo with
    | nil => exact h
    | cons e todo =>
      have hclient := h.client
      rw [htodo] at hclient
      obtain ⟨he, hrest⟩ := List.forall_mem_cons.mp hclient
      refine ⟨?_, ?_, hrest, ?_⟩
      · exact (w.perform_closing e).trans h.closing
      · rw [w.perform_threadTodo]
        exact h.thread
      -- What is left of the client's effects is tame: it does not touch the thread's life.
      · show P (w.perform e).threadPc (w.perform e).threadRunning
        rw [w.perform_threadPc, w.perform_tame he]
        exact h.life
  | threadStep env =>
    show Closing P (w.threadStep env).1
    rcases w.threadStep_cases env with ⟨e, todo, htodo, hstep⟩ | ⟨-, hmoves, hclient, hclosing⟩
    · have hthread := h.thread
      rw [htodo] at hthread
      obtain ⟨he, hrest⟩ := List.forall_mem_cons.mp hthread
      rw [hstep]
      refine ⟨(w.perform_closing e).trans h.closing, hrest, ?_, ?_⟩
      · rw [w.perform_clientTodo]
        exact h.client
      · show P (w.perform e).threadPc (w.perform e).threadRunning
        rw [w.perform_threadPc, w.perform_tame he]
        exact h.life
    · refine ⟨hclosing.trans h.closing, hmoves.tame, ?_, hP _ _ _ _ _ _ rfl h.life hmoves⟩
      rw [hclient]
      exact h.client

/-- The thread has been asked to stop in time: it has not yet checked the field before it says
that it runs, or it has said so already, and it will find the request. -/
def InTime (pc : ThreadPc) (r : ThreadRunning) : Prop :=
  pc ≠ .started ∧ r = if pc = .stopped then .terminated else .exitReq

/-- The request is lost: the thread has said, or is about to say, that it runs, and so writes over
the request before it has seen it. -/
def Lost (pc : ThreadPc) (r : ThreadRunning) : Prop :=
  pc = .started ∧ r = .exitReq ∨ r = .running ∧ pc ≠ .start ∧ pc ≠ .stopping ∧ pc ≠ .stopped

/-- The thread had stopped before, and says no more about it, so that the field keeps the value
which the request gave it. -/
def Late (pc : ThreadPc) (r : ThreadRunning) : Prop := pc = .stopped ∧ r = .exitReq

theorem InTime.moves {env : ThreadEnv} {pc pc' : ThreadPc} {r r' : ThreadRunning}
    {todo : List Effect} (h : InTime pc r) (hmoves : ThreadMoves env pc r pc' r' todo) :
    InTime pc' r' := by
  obtain ⟨hne, hr⟩ := h
  cases hmoves with
  | starts => simp at hr
  | runs => exact absurd rfl hne
  | hears state r hpc => rcases hpc with rfl | rfl <;> exact ⟨by simp, by simpa using hr⟩
  | waits r hpc => rcases hpc with rfl | rfl <;> exact ⟨by simp, by simpa using hr⟩
  | fails => exact ⟨by simp, by simp⟩
  | stops => exact ⟨by simp, by simp⟩
  | _ => exact ⟨by simp, by simpa using hr⟩

theorem Lost.moves {env : ThreadEnv} {pc pc' : ThreadPc} {r r' : ThreadRunning}
    {todo : List Effect} (h : Lost pc r) (hpolls : env.pollError ≠ some false)
    (hmoves : ThreadMoves env pc r pc' r' todo) : Lost pc' r' := by
  cases hmoves with
  | runs => exact .inr ⟨rfl, by simp, by simp, by simp⟩
  | fails state r herror => exact absurd herror hpolls
  | leaves hr =>
    obtain ⟨rfl, -⟩ := h.resolve_left (by simp)
    exact absurd hr (by decide)
  | hears state r hpc =>
    obtain ⟨hr, -⟩ := h.resolve_left (by simp)
    rcases hpc with rfl | rfl <;> exact .inr ⟨hr, by simp, by simp, by simp⟩
  | waits r hpc =>
    obtain ⟨hr, -⟩ := h.resolve_left (by simp)
    rcases hpc with rfl | rfl <;> exact .inr ⟨hr, by simp, by simp, by simp⟩
  | polls hr state => exact .inr ⟨(h.resolve_left (by simp)).1, by simp, by simp, by simp⟩
  | fills r => exact .inr ⟨(h.resolve_left (by simp)).1, by simp, by simp, by simp⟩
  | starts => exact absurd rfl (h.resolve_left (by simp)).2.1
  | passes => exact absurd rfl (h.resolve_left (by simp)).2.1
  | stops => exact absurd rfl (h.resolve_left (by simp)).2.2.1
  | rests => exact absurd rfl (h.resolve_left (by simp)).2.2.2

theorem Lost.not_stopped {pc : ThreadPc} {r : ThreadRunning} (h : Lost pc r) :
    pc ≠ .stopped ∧ r ≠ .terminated := by
  rcases h with ⟨rfl, rfl⟩ | ⟨rfl, -, -, hne⟩
  · exact ⟨by simp, by simp⟩
  · exact ⟨hne, by simp⟩

theorem Late.moves {env : ThreadEnv} {pc pc' : ThreadPc} {r r' : ThreadRunning}
    {todo : List Effect} (h : Late pc r) (hmoves : ThreadMoves env pc r pc' r' todo) :
    Late pc' r' := by
  obtain ⟨rfl, rfl⟩ := h
  cases hmoves
  exact ⟨rfl, rfl⟩

/-- A thread that has been asked in time comes nearer to its end with each step. -/
theorem Closing.toStop_next (h : Closing InTime w) (op : SystemOp) :
    (dummySystem.next w op).1.toStop ≤ w.toStop - op.isThreadStep.toNat := by
  cases op with
  | call op =>
    have hidle : ¬ (w.clientTodo = [] ∧ w.closing = false) := by
      rw [h.closing]
      simp
    rw [show dummySystem.next w (.call op) = (w, []) from if_neg hidle]
    exact le_rfl
  | clientStep =>
    show w.clientStep.1.toStop ≤ w.toStop - 0
    unfold clientStep
    cases w.clientTodo with
    | nil => exact le_rfl
    | cons e todo =>
      show (w.perform e).threadTodo.length + (w.perform e).threadPc.toStop ≤ _
      rw [w.perform_threadTodo, w.perform_threadPc]
      exact le_rfl
  | threadStep env =>
    show (w.threadStep env).1.toStop ≤ w.toStop - 1
    rcases w.threadStep_cases env with ⟨e, todo, htodo, hstep⟩ | ⟨htodo, hmoves, -, -⟩
    -- The thread works off one of its effects, or moves to the next point; either takes one off.
    · rw [hstep, toStop, toStop, htodo, List.length_cons]
      show todo.length + (w.perform e).threadPc.toStop ≤ _
      rw [w.perform_threadPc]
      omega
    · rw [toStop, toStop, htodo, List.length_nil, Nat.zero_add]
      exact hmoves.toStop_lt h.life.2 h.life.1

/-! ### Before the backend is closed -/

/-- A call is in progress that leaves the thread alone, unless it is `cmtspeech_close`. -/
theorem Launched.run (h : w.Launched) (op : ClientOp) : (op.run w).1.Launched := by
  -- A call moves no part of the thread; only what the client has still to do is new.
  have hstart {w' : DummySystem} (hthread : w'.threadTodo = w.threadTodo)
      (hpc : w'.threadPc = w.threadPc)
      (hclient : (∀ e ∈ w'.clientTodo, e.Tame) ∨ w'.closing = true ∧ w'.clientTodo = closeEffects) :
      w'.Launched := by
    refine ⟨hthread ▸ h.thread, hclient, ?_⟩
    rw [toStop, hthread, hpc]
    exact h.toStop_le
  cases op with
  | readEvent k => exact hstart rfl rfl (.inl (ClientCall.tame_readEvent k _ _))
  | stateChangeCallStatus k status =>
    exact hstart rfl rfl (.inl (ClientCall.tame_stateChangeCallStatus k _ status _))
  | stateChangeCallConnect state =>
    exact hstart rfl rfl (.inl ((ClientCall.tame_nil _).emit fun _ => Effect.noConfusion))
  | setWbPreference enabled =>
    exact hstart rfl rfl (.inl (ClientCall.tame_setWbPreference enabled _))
  | testDataRampReq k rampstart ramplen =>
    exact hstart rfl rfl (.inl (ClientCall.tame_testDataRampReq k rampstart ramplen _))
  | close => exact hstart rfl rfl (.inr ⟨rfl, rfl⟩)
  | ulBufferRelease i own =>
    dsimp only [ClientOp.run, ulBufferRelease]
    split
    · exact h
    · split
      · exact h
      · exact hstart rfl rfl h.client
  | dlBufferRelease i own =>
    dsimp only [ClientOp.run, dlBufferRelease]
    split
    · exact h
    · split
      · exact h
      · exact hstart rfl rfl h.client
  | _ => exact hstart rfl rfl h.client

theorem Launched.next (h : w.Launched) (op : SystemOp) : (dummySystem.next w op).1.Launched := by
  cases op with
  | call op =>
    by_cases hidle : w.clientTodo = [] ∧ w.closing = false
    · rw [show dummySystem.next w (.call op) = op.run w from if_pos hidle]
      exact h.run op
    -- The call before this one is still in progress, or the instance is being closed.
    · rw [show dummySystem.next w (.call op) = (w, []) from if_neg hidle]
      exact h
  | clientStep =>
    show w.clientStep.1.Launched
    unfold clientStep
    cases htodo : w.clientTodo with
    | nil => exact h
    | cons e todo =>
      refine ⟨?_, .inl ?_, ?_⟩
      · rw [show ({ w.perform e with clientTodo := todo } : DummySystem).threadTodo = w.threadTodo
          from w.perform_threadTodo e]
        exact h.thread
      · -- only the first effect of `cmtspeech_close` is on `thread_running`
        rcases h.client with htame | ⟨-, hclose⟩
        · rw [htodo] at htame
          exact (List.forall_mem_cons.mp htame).2
        · rw [htodo] at hclose
          obtain ⟨rfl, rfl⟩ := List.cons.inj hclose
          exact fun e' he' => List.mem_singleton.mp he' ▸ fun _ => Effect.noConfusion
      · show (w.perform e).threadTodo.length + (w.perform e).threadPc.toStop ≤ 8
        rw [w.perform_threadTodo, w.perform_threadPc]
        exact h.toStop_le
  | threadStep env =>
    show (w.threadStep env).1.Launched
    rcases w.threadStep_cases env with ⟨e, todo, htodo, hstep⟩ | ⟨-, hmoves, hclient, hclosing⟩
    · have hthread := h.thread
      have hlen := h.toStop_le
      rw [htodo] at hthread
      rw [toStop, htodo, List.length_cons] at hlen
      rw [hstep]
      refine ⟨(List.forall_mem_cons.mp hthread).2, ?_, ?_⟩
      · show (∀ e' ∈ (w.perform e).clientTodo, e'.Tame) ∨
          (w.perform e).closing = true ∧ (w.perform e).clientTodo = closeEffects
        rw [w.perform_clientTodo, w.perform_closing]
        exact h.client
      · show todo.length + (w.perform e).threadPc.toStop ≤ 8
        rw [w.perform_threadPc]
        omega
    · refine ⟨hmoves.tame, ?_, hmoves.toStop_le⟩
      rw [hclient, hclosing]
      exact h.client

end DummySystem

/-! ### Runs -/

theorem launched_exec {w : DummySystem} (hw : dummySystem.init w) (ops : List SystemOp) :
    (dummySystem.exec w ops).Launched := by
  refine dummySystem.reachable_invariant ?_ (fun w op h => h.next op) ⟨w, ops, hw, rfl⟩
  rintro _ ⟨old, tone, env, -, rfl⟩
  refine ⟨fun e he => absurd he List.not_mem_nil, .inl fun e he => absurd he List.not_mem_nil, ?_⟩
  show 0 + 3 ≤ 8
  omega

/-- What `cmtspeech_close` leaves when it has asked the thread to stop. -/
theorem closing_asked {w : DummySystem} (h : w.Launched)
    (hclose : w.clientTodo.head? = some (.setThreadRunning .exitReq))
    {P : ThreadPc → ThreadRunning → Prop} (hlife : P w.threadPc .exitReq) :
    (dummySystem.next w .clientStep).1.Closing P ∧
      (dummySystem.next w .clientStep).1.toStop = w.toStop := by
  rcases h.client with htame | ⟨hclosing, htodo⟩
  · exact absurd rfl (htame _ (List.mem_of_mem_head? hclose) .exitReq)
  · show DummySystem.Closing P w.clientStep.1 ∧ w.clientStep.1.toStop = w.toStop
    unfold DummySystem.clientStep
    rw [htodo]
    refine ⟨⟨hclosing, h.thread, ?_, hlife⟩, rfl⟩
    exact fun e he => List.mem_singleton.mp he ▸ fun _ => Effect.noConfusion

/-- **`cmtspeech_close` asks the thread to stop**: in every run in which `poll` works and the
thread gets eight steps after that, `pthread_join` returns, unless the thread was about to say that
it runs, and the assertion after it holds unless the thread had stopped before, too. -/
theorem dummySystem_close_iff {w : DummySystem} (hw : dummySystem.init w)
    {ops later : List SystemOp}
    (hclose : (dummySystem.exec w ops).clientTodo.head? = some (.setThreadRunning .exitReq))
    (hpolls : ∀ op ∈ later, op.PollsOn) (hsteps : 8 ≤ later.countP SystemOp.isThreadStep) :
    let pc := (dummySystem.exec w ops).threadPc
    let w' := dummySystem.exec w (ops ++ .clientStep :: later)
    (w'.threadPc = .stopped ↔ pc ≠ .started) ∧
      (w'.threadRunning = .terminated ↔ pc ≠ .started ∧ pc ≠ .stopped) := by
  intro pc w'
  have hlaunched := launched_exec hw ops
  have hw' : w' = dummySystem.exec
      (dummySystem.next (dummySystem.exec w ops) .clientStep).1 later := by
    show dummySystem.exec w (ops ++ .clientStep :: later) = _
    rw [dummySystem.exec_append, dummySystem.exec_cons]
  have hon := (dummySystem.along_forall SystemOp.PollsOn
    (dummySystem.next (dummySystem.exec w ops) .clientStep).1 later).mpr hpolls
  -- what the thread keeps to from the request on
  have hrun {P : ThreadPc → ThreadRunning → Prop} (hlife : P pc .exitReq)
      (hP : ∀ env pc r pc' r' todo, env.pollError ≠ some false → P pc r →
        ThreadMoves env pc r pc' r' todo → P pc' r') : w'.Closing P := by
    rw [hw']
    refine dummySystem.exec_invariant (fun w op h hop => h.next ?_)
      (closing_asked hlaunched hclose hlife).1 hon
    rintro env pc r pc' r' todo rfl hpc hmoves
    exact hP env pc r pc' r' todo hop hpc hmoves
  by_cases hstarted : pc = .started
  · have hlost := hrun (P := DummySystem.Lost) (.inl ⟨hstarted, rfl⟩)
      fun _ _ _ _ _ _ hpolls hpc hmoves => hpc.moves hpolls hmoves
    obtain ⟨hpc, hr⟩ := hlost.life.not_stopped
    exact ⟨iff_of_false hpc (not_not.mpr hstarted), iff_of_false hr fun h => h.1 hstarted⟩
  by_cases hstopped : pc = .stopped
  · have hlate := hrun (P := DummySystem.Late) ⟨hstopped, rfl⟩
      fun _ _ _ _ _ _ _ hpc hmoves => hpc.moves hmoves
    obtain ⟨hpc, hr⟩ := hlate.life
    refine ⟨iff_of_true hpc hstarted, iff_of_false ?_ fun h => h.2 hstopped⟩
    rw [hr]
    exact ThreadRunning.noConfusion
  · have hlife : DummySystem.InTime pc .exitReq := ⟨hstarted, (if_neg hstopped).symm⟩
    obtain ⟨hasked, hsteps₀⟩ := closing_asked hlaunched hclose hlife
    have hleft := dummySystem.exec_le_sub_countP (I := DummySystem.Closing DummySystem.InTime)
      (C := fun _ _ => True) (A := SystemOp.isThreadStep) DummySystem.toStop
      (fun w op h _ => h.next fun _ _ _ _ _ _ _ hpc hmoves => hpc.moves hmoves)
      (fun w op h _ => h.toStop_next op) hasked (dummySystem.along_true _ later)
    rw [← hw', hsteps₀] at hleft
    have hbound := hlaunched.toStop_le
    have hnone : w'.threadTodo.length + w'.threadPc.toStop = 0 := by
      have : w'.toStop = 0 := by omega
      exact this
    have hpc : w'.threadPc = .stopped := by
      have htoStop : w'.threadPc.toStop = 0 := by omega
      cases hpc : w'.threadPc with
      | stopped => rfl
      | _ => simp [hpc, ThreadPc.toStop] at htoStop
    have hr := (hrun hlife fun _ _ _ _ _ _ _ hpc hmoves => hpc.moves hmoves).life.2
    rw [hpc, if_pos rfl] at hr
    exact ⟨iff_of_true hpc hstarted, iff_of_true hr ⟨hstarted, hstopped⟩⟩

/-- The backend is closed when the thread has gone into its loop. -/
def closeRun : List SystemOp :=
  [.threadStep .calm, .threadStep .calm, .threadStep .calm, .call .close]

theorem dummySystem_close_iff_loop :
    let pc := (dummySystem.exec .fresh closeRun).threadPc
    let w' := dummySystem.exec .fresh
      (closeRun ++ .clientStep :: (.clientStep :: List.replicate 8 (.threadStep .calm)))
    (w'.threadPc = .stopped ↔ pc ≠ .started) ∧
      (w'.threadRunning = .terminated ↔ pc ≠ .started ∧ pc ≠ .stopped) := by
  refine dummySystem_close_iff DummySystem.init_fresh rfl ?_ (by decide)
  simp [SystemOp.PollsOn, ThreadEnv.calm]

-- the thread has looked whether it has been started, and not said so yet
example : (dummySystem.exec .fresh ([.threadStep .calm, .call .close, .clientStep, .clientStep] ++
    List.replicate 8 (.threadStep .calm))).threadRunning = .running := by decide

end CmtSpeech
