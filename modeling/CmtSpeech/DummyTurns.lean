import CmtSpeech.DummyTalk

/-!
# Turns of client and thread

The steps in which the application says nothing, with what the thread and the call in progress are
still to do: who is about to set the state of the backend, and to what.

* `DummyField` — a field of the backend that both sides see.
* `DummySystem.todo` — what is still to do.
* `DummySystem.Tends` — the value a field has when all has been done.
* `Turns`, `DummySystem.Moves` — what a step does to the messages, and to what is still to do.

## Main results

* `DummySystem.Tends.moves`, `DummySystem.Steady.tends`
* `Models.turns` — every step is one of the model.
-/

namespace CmtSpeech

/-! ### What is left to do -/

/-- A field of the backend that a call, or the thread, sets to a value, while the other side may
be reading it. -/
structure DummyField (α : Type) where
  val : Dummy → α
  set : α → Effect
  perform_set : ∀ (d : Dummy) (a : α), val (d.perform (set a)) = a
  perform_other : ∀ (d : Dummy) (e : Effect), (∀ a, e ≠ set a) → val (d.perform e) = val d
  set_ne : ∀ (a : α) (msg : Cmd), set a ≠ .controlWrite msg
  /-- The field is one of the two that both sides see. -/
  congr : ∀ d d' : Dummy, d.state = d'.state → d.dlActive = d'.dlActive → val d = val d'

/-- The state of the backend, as the thread reads it; `changeState` is the one effect that sets
it. -/
def DummyField.state : DummyField DummyState where
  val := Dummy.state
  set := .changeState
  perform_set _ _ := rfl
  perform_other d e h := by
    cases e with
    | changeState newState => exact absurd rfl (h newState)
    | _ => rfl
  set_ne _ _ := Effect.noConfusion
  congr _ _ h _ := h

/-- Whether the downlink is active, which `setDlActive` alone decides. -/
def DummyField.dlActive : DummyField Bool where
  val := Dummy.dlActive
  set := .setDlActive
  perform_set _ _ := rfl
  perform_other d e h := by
    cases e with
    | setDlActive dlActive => exact absurd rfl (h dlActive)
    | _ => rfl
  set_ne _ _ := Effect.noConfusion
  congr _ _ _ h := h

/-- There is nothing to do but to write to the control pipe, so that the fields both sides see are
what they will be. -/
def OnlyTells (todo : List Effect) : Prop := ∀ e ∈ todo, ∃ msg, e = .controlWrite msg

theorem OnlyTells.not_mem {todo : List Effect} (h : OnlyTells todo) {α : Type} (f : DummyField α)
    (b : α) : f.set b ∉ todo := by
  intro hb
  obtain ⟨msg, heq⟩ := h _ hb
  exact f.set_ne b msg heq

namespace DummySystem

variable (w : DummySystem)

/-- What the thread and the call in progress are still to do, in no order between the two. -/
def todo : List Effect := w.threadTodo ++ w.clientTodo

/-- Nobody is about to set the field: it stays as it is until some call or the thread starts on
something new. -/
def Steady {α : Type} (f : DummyField α) : Prop := ∀ b, f.set b ∉ w.todo

/-- The field has the value `a` when all has been done: it has this value, or is about to be given
it, and is about to be given no other. -/
structure Tends {α : Type} (f : DummyField α) (a : α) : Prop where
  comes : f.val w.dummy = a ∨ f.set a ∈ w.todo
  only : ∀ b, f.set b ∈ w.todo → b = a

/-- What a step does to what is left to do, with what there is to do beside it.  A step adds
things to do or does one of them, and never both. -/
inductive Moves (w w' : DummySystem) : SystemOp → List Effect → Prop
  | stays (op : SystemOp) (hthread : w'.threadTodo = w.threadTodo)
      (hclient : w'.clientTodo = w.clientTodo) (hstate : w'.dummy.state = w.dummy.state)
      (hdl : w'.dummy.dlActive = w.dummy.dlActive) : Moves w w' op []
  /-- An effect takes place. -/
  | performs (op : SystemOp) (e : Effect) (htodo : w.todo.Perm (e :: w'.todo))
      (hdummy : w'.dummy = w.dummy.perform e) (hthread : w'.threadTodo ⊆ w.threadTodo) :
    Moves w w' op []
  | thread (env : ThreadEnv) {new : List Effect} (hold : w.threadTodo = [])
      (hnew : w'.threadTodo = new) (hclient : w'.clientTodo = w.clientTodo)
      (hstate : w'.dummy.state = w.dummy.state) (hdl : w'.dummy.dlActive = w.dummy.dlActive) :
    Moves w w' (.threadStep env) new
  | client (op : ClientOp) {new : List Effect} (hold : w.clientTodo = [])
      (hnew : w'.clientTodo = new) (hthread : w'.threadTodo = w.threadTodo)
      (hstate : w'.dummy.state = w.dummy.state) (hdl : w'.dummy.dlActive = w.dummy.dlActive) :
    Moves w w' (.call op) new

variable {w} {w' : DummySystem} {op : SystemOp} {new : List Effect} {α : Type} {f : DummyField α}
  {a : α}

/-- It does not matter where in its loop the thread is. -/
theorem Moves.of_threadPc {pc : ThreadPc} (h : Moves { w with threadPc := pc } w' op new) :
    Moves w w' op new := by
  cases h with
  | stays op hthread hclient hstate hdl => exact .stays op hthread hclient hstate hdl
  | performs op e htodo hdummy hthread => exact .performs op e htodo hdummy hthread
  | thread env hold hnew hclient hstate hdl => exact .thread env hold hnew hclient hstate hdl
  | client op hold hnew hthread hstate hdl => exact .client op hold hnew hthread hstate hdl

/-- Either an effect takes place, or there is more to do. -/
theorem Moves.cases (h : Moves w w' op new) :
    (∃ e, w.todo.Perm (e :: w'.todo) ∧ w'.dummy = w.dummy.perform e ∧ new = []) ∨
      w'.todo.Perm (w.todo ++ new) ∧ w'.dummy.state = w.dummy.state ∧
        w'.dummy.dlActive = w.dummy.dlActive := by
  cases h with
  | stays op hthread hclient hstate hdl =>
    refine .inr ⟨?_, hstate, hdl⟩
    rw [todo, todo, hthread, hclient, List.append_nil]
  | performs op e htodo hdummy => exact .inl ⟨e, htodo, hdummy, rfl⟩
  | thread env hold hnew hclient hstate hdl =>
    refine .inr ⟨?_, hstate, hdl⟩
    rw [todo, todo, hold, hnew, hclient]
    exact List.perm_append_comm
  | client op hold hnew hthread hstate hdl =>
    refine .inr ⟨?_, hstate, hdl⟩
    rw [todo, todo, hold, hnew, hthread, List.append_nil]

/-- What the thread is to do after a step was to be done before, or is new from a step of the
thread. -/
theorem Moves.mem_threadTodo (h : Moves w w' op new) {e : Effect} (he : e ∈ w'.threadTodo) :
    e ∈ w.threadTodo ∨ (∃ env, op = .threadStep env) ∧ e ∈ new := by
  cases h with
  | stays op hthread => exact .inl (hthread ▸ he)
  | performs op e htodo hdummy hthread => exact .inl (hthread he)
  | thread env hold heq => exact .inr ⟨⟨env, rfl⟩, heq ▸ he⟩
  | client op hold heq hthread => exact .inl (hthread ▸ he)

/-- A field that nobody is about to set stays so, if what there is to do does not set it. -/
theorem Steady.moves (hw : w.Steady f) (h : Moves w w' op new)
    (hnew : ∀ b, f.set b ∉ new) : w'.Steady f := by
  intro b hb
  rcases h.cases with ⟨e, htodo, -, -⟩ | ⟨htodo, -, -⟩
  · exact hw b (htodo.mem_iff.mpr (List.mem_cons_of_mem e hb))
  · rcases List.mem_append.mp (htodo.mem_iff.mp hb) with hold | hb
    · exact hw b hold
    · exact hnew b hb

/-- What there is to do may set the field to the same value again. -/
theorem Tends.moves (hw : w.Tends f a) (h : Moves w w' op new)
    (hnew : ∀ b, f.set b ∈ new → b = a) : w'.Tends f a := by
  rcases h.cases with ⟨e, htodo, hdummy, -⟩ | ⟨htodo, hstate, hdl⟩
  · refine ⟨?_, fun b hb => hw.only b (htodo.mem_iff.mpr (List.mem_cons_of_mem e hb))⟩
    rw [hdummy]
    by_cases he : ∃ b, e = f.set b
    · obtain ⟨b, rfl⟩ := he
      obtain rfl := hw.only b (htodo.mem_iff.mpr List.mem_cons_self)
      exact .inl (f.perform_set _ _)
    · have hother := f.perform_other w.dummy e fun b hb => he ⟨b, hb⟩
      rw [hother]
      refine hw.comes.imp_right fun ha => ?_
      exact (List.mem_cons.mp (htodo.mem_iff.mp ha)).resolve_left fun ha => he ⟨a, ha.symm⟩
  · refine ⟨?_, ?_⟩
    · rw [f.congr _ _ hstate hdl]
      exact hw.comes.imp_right fun ha => htodo.mem_iff.mpr (List.mem_append_left new ha)
    · intro b hb
      exact (List.mem_append.mp (htodo.mem_iff.mp hb)).elim (hw.only b) (hnew b)

/-- What there is to do sets a field that nobody was about to set. -/
theorem Steady.tends (hw : w.Steady f) (h : Moves w w' op new)
    (ha : f.set a ∈ new) (hnew : ∀ b, f.set b ∈ new → b = a) : w'.Tends f a := by
  rcases h.cases with ⟨e, -, -, rfl⟩ | ⟨htodo, -, -⟩
  · exact absurd ha List.not_mem_nil
  · refine ⟨.inr (htodo.mem_iff.mpr (List.mem_append_right w.todo ha)), ?_⟩
    intro b hb
    exact (List.mem_append.mp (htodo.mem_iff.mp hb)).elim (fun hb => absurd hb (hw b)) (hnew b)

/-- A call is made when no other one is in progress. -/
theorem Moves.steady {op' : ClientOp} (h : Moves w w' (.call op') new)
    (hw : ∀ b, f.set b ∉ w.threadTodo) {e : Effect} (he : e ∈ new) : w.Steady f := by
  cases h with
  | stays => exact absurd he List.not_mem_nil
  | performs => exact absurd he List.not_mem_nil
  | client op hold =>
    intro b
    rw [todo, hold, List.append_nil]
    exact hw b

theorem Tends.done (h : w.Tends f a) (htodo : w.todo = []) :
    f.val w.dummy = a := by
  refine h.comes.resolve_right fun ha => ?_
  rw [htodo] at ha
  exact List.not_mem_nil ha

end DummySystem

/-! ### Steps in which the application says nothing -/

theorem Reply.type_cmd_iff (p : Reply) :
    msgGetType p.cmd = CmtSpeech.speechConfigReq ↔ ∃ on, p = .speechConfigReq on := by
  cases p with
  | speechConfigReq on => exact iff_of_true (by cases on <;> decide) ⟨on, rfl⟩
  | _ => exact iff_of_false (by decide) (by simp)

/-- The steps of the model in which the application says nothing, with what there is to do
after them. -/
inductive Turns : SystemOp → Conversation → List Effect → Conversation → Prop
  | quiet (op : SystemOp) (c : Conversation) {new : List Effect}
      (h : OnlyTells new) : Turns op c new c
  | answers (env : ThreadEnv) (s : BcState) (reqs : Multiset Request) (reps : Multiset Reply)
      (r : Request) (state : DummyState) :
    Turns (.threadStep env) ⟨s, r ::ₘ reqs, reps⟩
      ((r.answers state).map (fun p => .controlWrite p.cmd) ++ r.changes)
      ⟨s, reqs, reps + r.answers state⟩
  | reacts (k : DummyKernel) {s s' : BcState} (reqs : Multiset Request) (reps : Multiset Reply)
      {p : Reply} {asks : List Request} {tells : List Reply} {new : List Effect}
      (h : Reacts k s p s' asks tells)
      (hstate : ∀ m, .changeState m ∈ new ↔
        m = .mediaFlowing ∧ s'.protoState = .connected ∧ s.protoState = .disconnected)
      (hdl : ∀ b, .setDlActive b ∈ new ↔ b = true ∧ ∃ on, p = .speechConfigReq on) :
    Turns (.call (.readEvent k)) ⟨s, reqs, p ::ₘ reps⟩ new ⟨s', reqs + asks, reps + tells⟩

/-- An event is about a `SPEECH_CONFIG_REQ` when the message is one. -/
theorem Dummy.bcHandleCommand_event (res : ℤ) (msg : Cmd) (s : BcState) :
    ((bcHandleCommand res msg s).2.1.msgType = speechConfigReq ↔
        msgGetType msg = speechConfigReq) ∧
      (bcHandleCommand res msg s).2.1.prevState = s.protoState := by
  unfold bcHandleCommand newEvent
  dsimp only
  split_ifs with h₁ h₂ h₃ h₄ h₅ h₆ h₇
  all_goals refine ⟨?_, rfl⟩
  all_goals
    first
    | exact Iff.rfl
    | exact iff_of_false (show ¬ eventReset = speechConfigReq by decide) h₁

/-- Messages to the thread set nothing, so that what a call sets is what it sets without them. -/
theorem ClientCall.OnlyAsks.mem_iff {x y : ClientCall} (h : OnlyAsks x y) {e : Effect}
    (he : ∀ msg, e ≠ .threadWrite msg) : e ∈ y.effects ↔ e ∈ x.effects := by
  obtain ⟨msgs, heffects⟩ := h
  rw [heffects, List.mem_append, or_iff_left]
  intro hmem
  obtain ⟨msg, -, heq⟩ := List.mem_map.mp hmem
  exact he msg heq.symm

/-- What `cmtspeech_read_event` sets: MEDIA_FLOWING when a connection has come about, and
`dl_active` with a request for speech. -/
theorem ClientCall.readEvent_sets (k : DummyKernel) (msg : Cmd) (s : BcState) :
    let x := (readEvent k msg ⟨s, []⟩).2.2
    (∀ m, .changeState m ∈ x.effects ↔
        m = .mediaFlowing ∧ x.bcstate.protoState = .connected ∧ s.protoState = .disconnected) ∧
      ∀ b, .setDlActive b ∈ x.effects ↔ b = true ∧ msgGetType msg = speechConfigReq := by
  have hhandle := bcHandleCommand_eq k.threadWrite msg ⟨s, []⟩
  obtain ⟨htype, hprev⟩ := Dummy.bcHandleCommand_event k.threadWrite msg s
  have hmem {e : Effect} (he : ∀ msg, e ≠ .threadWrite msg) :=
    (OnlyAsks.bcHandleCommand k.threadWrite msg ⟨s, []⟩).mem_iff he
  dsimp only at hhandle
  rw [← hhandle] at htype hprev
  dsimp only at htype hprev
  unfold readEvent
  generalize bcHandleCommand k.threadWrite msg ⟨s, []⟩ = h at htype hprev hmem
  obtain ⟨res, event, y⟩ := h
  dsimp only at htype hprev hmem ⊢
  -- what comes before the state of the backend changes
  generalize hz : (if event.msgType = ssiConfigResp then
      if y.bcstate.protoState = .connected then privEmitSpeechConfigReq k.controlWrite 1 1 y else y
    else if event.msgType = speechConfigReq then
      (bcPostCommand k.threadWrite (msgEncodeSpeechConfigResp 0) y).emit (.setDlActive true)
    else y) = z
  have hsets (e : Effect) (he : ∀ msg, e ≠ .threadWrite msg) (he' : ∀ msg, e ≠ .controlWrite msg) :
      e ∈ z.effects ↔ e = .setDlActive true ∧ event.msgType = speechConfigReq := by
    have hy : e ∉ y.effects := fun he'' => List.not_mem_nil ((hmem he).mp he'')
    subst hz
    by_cases hssi : event.msgType = ssiConfigResp
    · have hne : ¬ event.msgType = speechConfigReq := by
        rw [hssi]
        decide
      rw [if_pos hssi]
      refine iff_of_false ?_ fun h => hne h.2
      unfold privEmitSpeechConfigReq
      split_ifs
      · rw [emit_effects, List.mem_append, List.mem_singleton]
        exact not_or.mpr ⟨hy, he' _⟩
      · exact hy
      · exact hy
    · rw [if_neg hssi]
      by_cases hspeech : event.msgType = speechConfigReq
      · rw [if_pos hspeech, emit_effects, List.mem_append, List.mem_singleton,
          (OnlyAsks.bcPostCommand k.threadWrite _ y).mem_iff he]
        exact ⟨fun h => ⟨h.resolve_left hy, hspeech⟩, fun h => .inr h.1⟩
      · rw [if_neg hspeech]
        exact iff_of_false hy fun h => hspeech h.2
  rw [hprev]
  refine ⟨fun m => ?_, fun b => ?_⟩
  · have hz' : .changeState m ∉ z.effects := fun h => by
      cases ((hsets _ (by simp) (by simp)).mp h).1
    split
    · next hc =>
      rw [emit_effects, List.mem_append, List.mem_singleton, or_iff_right hz']
      exact ⟨fun h => ⟨Effect.changeState.inj h, hc⟩, fun h => congrArg _ h.1⟩
    · next hc => exact iff_of_false hz' fun h => hc h.2
  · have hz' : .setDlActive b ∈ z.effects ↔ b = true ∧ msgGetType msg = speechConfigReq := by
      rw [hsets _ (by simp) (by simp), htype, Effect.setDlActive.injEq]
    split
    · rw [emit_effects, List.mem_append, List.mem_singleton, hz']
      exact or_iff_left Effect.noConfusion
    · exact hz'

namespace Models

variable {w : DummySystem} {c : Conversation}

/-- A step that leaves the messages alone leaves the conversation, and sets no field. -/
theorem turns_silent (h : Models w c) (op : SystemOp) {w' : DummySystem}
    (hdummy : w'.dummy = w.dummy) (hpipe : w'.threadPipe = w.threadPipe)
    (hclient : w'.clientTodo = w.clientTodo) (hthread : w'.threadTodo = w.threadTodo) :
    ∃ c' new, Turns op c new c' ∧ Models w' c' ∧ w.Moves w' op new :=
  ⟨c, [], .quiet op c (by simp [OnlyTells]), h.congr hdummy hpipe hclient hthread,
    .stays op hthread hclient (by rw [hdummy]) (by rw [hdummy])⟩

/-- The thread hears a message, or there is none, and the fields that it sets are those of the
message. -/
theorem turns_privReadControlMessage (h : Models w c) (htodo : w.threadTodo = [])
    (env : ThreadEnv) :
    ∃ c' new, Turns (.threadStep env) c new c' ∧ Models w.privReadControlMessage.1 c' ∧
      w.Moves w.privReadControlMessage.1 (.threadStep env) new := by
  cases hpipe : w.threadPipe with
  | nil =>
    have heq : w.privReadControlMessage = (w, []) := by
      unfold DummySystem.privReadControlMessage
      rw [hpipe]
    rw [heq]
    exact h.turns_silent _ rfl rfl rfl rfl
  | cons msg rest =>
    obtain ⟨s, reqs, reps⟩ := c
    obtain ⟨r, reqs', rfl, heq, hmodels⟩ := h.heard_request htodo hpipe
    refine ⟨_, _, .answers env s reqs' reps r w.dummy.state, hmodels, ?_⟩
    rw [heq]
    exact .thread env htodo rfl rfl rfl rfl

theorem turns_threadGo (h : Models w c) (htodo : w.threadTodo = []) (env : ThreadEnv) :
    ∃ c' new, Turns (.threadStep env) c new c' ∧ Models (w.threadGo env).1 c' ∧
      w.Moves (w.threadGo env).1 (.threadStep env) new := by
  have hread (pc : ThreadPc) : ∃ c' new, Turns (.threadStep env) c new c' ∧
      Models (DummySystem.privReadControlMessage { w with threadPc := pc }).1 c' ∧
      w.Moves (DummySystem.privReadControlMessage { w with threadPc := pc }).1 (.threadStep env)
        new := by
    have hmoved : Models { w with threadPc := pc } c := h.congr rfl rfl rfl rfl
    obtain ⟨c', new, hturns, hmodels, hmoves⟩ := hmoved.turns_privReadControlMessage htodo env
    exact ⟨c', new, hturns, hmodels, hmoves.of_threadPc⟩
  unfold DummySystem.threadGo
  cases w.threadPc with
  | top =>
    dsimp only
    split
    · exact h.turns_silent _ rfl rfl rfl rfl
    · split <;> exact h.turns_silent _ rfl rfl rfl rfl
  | poll state =>
    dsimp only
    split
    · split
      · exact h.turns_silent _ rfl rfl rfl rfl
      · exact hread .top
    · split
      · exact h.turns_silent _ rfl rfl rfl rfl
      · exact h.turns_silent _ rfl rfl rfl rfl
      · exact hread .frame
  | frame =>
    dsimp only
    split
    · exact h.turns_silent _ rfl rfl rfl rfl
    · split <;> exact h.turns_silent _ rfl rfl rfl rfl
  | fill =>
    refine ⟨c, _, .quiet _ c ?_, h.fillSlot htodo env, .thread env htodo rfl rfl rfl rfl⟩
    intro e he
    exact ⟨_, List.mem_singleton.mp he⟩
  | _ => exact h.turns_silent _ rfl rfl rfl rfl

/-- A call that says nothing: it reads an event, looks for messages, or is about the buffers
alone. -/
theorem turns_run (h : Models w c) (htodo : w.clientTodo = []) (op : ClientOp)
    (hwaits : ReadsWaiting w (.call op)) (hsilent : ¬ op.Speaks) :
    ∃ c' new, Turns (.call op) c new c' ∧ Models (op.run w).1 c' ∧
      w.Moves (op.run w).1 (.call op) new := by
  have hquiet {w' : DummySystem} (hdummy : w'.dummy = w.dummy)
      (hpipe : w'.threadPipe = w.threadPipe) (hclient : w'.clientTodo = w.clientTodo)
      (hthread : w'.threadTodo = w.threadTodo) :=
    h.turns_silent (.call op) hdummy hpipe hclient hthread
  cases op with
  | checkPending flags =>
    -- Taking messages out of the pipe into `pubbuf` sets neither the state nor `dl_active`.
    have hsame : (w.dummy.checkPending flags).2.2.state = w.dummy.state ∧
        (w.dummy.checkPending flags).2.2.dlActive = w.dummy.dlActive := by
      unfold Dummy.checkPending
      dsimp only
      split
      · exact ⟨rfl, rfl⟩
      · split
        · exact ⟨rfl, rfl⟩
        · split
          · exact ⟨rfl, rfl⟩
          · split <;> exact ⟨rfl, rfl⟩
    exact ⟨c, [], .quiet _ c (by simp [OnlyTells]), h.checkPending flags, .stays _ rfl rfl hsame.1
      hsame.2⟩
  | readEvent k =>
    obtain ⟨s, reqs, reps⟩ := c
    obtain rfl : w.dummy.bcstate = s := h.bcstate
    obtain ⟨p, reps', asks, tells, rfl, hmsg, hreacts, -, hmodels⟩ :=
      h.heard_reply htodo k hwaits
    obtain ⟨hstate, hdl⟩ :=
      ClientCall.readEvent_sets k (w.dummy.load w.dummy.pubbufRead) w.dummy.bcstate
    refine ⟨_, _, .reacts k reqs reps' hreacts hstate ?_, hmodels,
      .client _ htodo rfl rfl rfl rfl⟩
    intro b
    refine (hdl b).trans (and_congr_right fun _ => ?_)
    rw [hmsg]
    exact p.type_cmd_iff
  | ulBufferAcquire => exact hquiet rfl rfl rfl rfl
  | ulBufferRelease i own =>
    dsimp only [ClientOp.run, DummySystem.ulBufferRelease]
    split
    · exact hquiet rfl rfl rfl rfl
    · split <;> exact hquiet rfl rfl rfl rfl
  | dlBufferAcquire => exact hquiet rfl rfl rfl rfl
  | dlBufferRelease i own =>
    dsimp only [ClientOp.run, DummySystem.dlBufferRelease]
    split
    · exact hquiet rfl rfl rfl rfl
    · split <;> exact hquiet rfl rfl rfl rfl
  | _ => exact absurd trivial hsilent

/-- A step of the system in which the application says nothing. -/
theorem turns (h : Models w c) (op : SystemOp) (hwaits : ReadsWaiting w op)
    (hsilent : ∀ op', op = .call op' → ¬ op'.Speaks) :
    ∃ c' new, Turns op c new c' ∧ Models (dummySystem.next w op).1 c' ∧
      w.Moves (dummySystem.next w op).1 op new := by
  cases op with
  | clientStep =>
    show ∃ c' new, Turns .clientStep c new c' ∧ Models w.clientStep.1 c' ∧
      w.Moves w.clientStep.1 .clientStep new
    unfold DummySystem.clientStep
    cases htodo : w.clientTodo with
    | nil => exact h.turns_silent _ rfl rfl rfl rfl
    | cons e todo =>
      refine ⟨c, [], .quiet _ c (by simp [OnlyTells]), h.clientTodoStep htodo,
        .performs _ e ?_ ?_ ?_⟩
      -- What is left to do is that of the other party as well, in whichever order.
      · rw [DummySystem.todo, htodo]
        show (w.threadTodo ++ e :: todo).Perm (e :: ((w.perform e).threadTodo ++ todo))
        rw [w.perform_threadTodo e]
        exact List.perm_middle
      · cases e <;> rfl
      · show (w.perform e).threadTodo ⊆ _
        rw [w.perform_threadTodo e]
        exact List.Subset.refl _
  | threadStep env =>
    show ∃ c' new, Turns (.threadStep env) c new c' ∧ Models (w.threadStep env).1 c' ∧
      w.Moves (w.threadStep env).1 (.threadStep env) new
    unfold DummySystem.threadStep
    cases htodo : w.threadTodo with
    | nil => exact h.turns_threadGo htodo env
    | cons e todo =>
      refine ⟨c, [], .quiet _ c (by simp [OnlyTells]), h.threadTodoStep htodo,
        .performs _ e ?_ ?_ ?_⟩
      · rw [DummySystem.todo, htodo]
        show (e :: todo ++ w.clientTodo).Perm (e :: (todo ++ (w.perform e).clientTodo))
        rw [w.perform_clientTodo e]
        exact List.Perm.refl _
      · cases e <;> rfl
      · rw [htodo]
        exact List.subset_cons_self e todo
  | call op =>
    show ∃ c' new, Turns (.call op) c new c' ∧
      Models (if w.clientTodo = [] ∧ w.closing = false then op.run w else (w, [])).1 c' ∧
      w.Moves (if w.clientTodo = [] ∧ w.closing = false then op.run w else (w, [])).1 (.call op) new
    by_cases hidle : w.clientTodo = [] ∧ w.closing = false
    · rw [if_pos hidle]
      exact h.turns_run hidle.1 op hwaits (hsilent op rfl)
    · rw [if_neg hidle]
      exact h.turns_silent _ rfl rfl rfl rfl

end Models

end CmtSpeech
