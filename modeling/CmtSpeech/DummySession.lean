import CmtSpeech.DummyTurns

/-!
# Calls from their start to their end

What becomes of a call when the messages go their way, whatever turns client and thread take
meanwhile.

* `BcState.Ramping` — a ramp test is on.
* `SetsUp`, `TearsDown` — how far a call has come.
* `DummySystem.Quiescent` — nobody has anything to do or to say.

## Main results

* `dummySystem_rampStays` — a ramp test has no end.
* `dummySystem_setUp` — a call that is started becomes active in both directions.
* `dummySystem_tearDown` — a call that is ended is taken down.
-/

namespace CmtSpeech

/-! ### A ramp test -/

/-- A ramp test is on, and no SSI transaction is in progress.  Nothing that the thread says takes
the client out of it, since the thread sends no ramp back. -/
def BcState.Ramping (s : BcState) : Prop :=
  s.protoState = .testRampPingActive ∧ ¬ s.privState.SsiWaits

theorem Reacts.ramping_iff {k : DummyKernel} {s s' : BcState} {p : Reply} {asks : List Request}
    {tells : List Reply} (h : Reacts k s p s' asks tells) :
    (s.Ramping → s'.Ramping) ∧
      (s'.protoState = .testRampPingActive → s.protoState = .testRampPingActive) := by
  cases h with
  | timing =>
    rcases bcHandleTimingConfigNtf_cases s with ⟨hs, heq⟩ | ⟨hs, -, heq⟩ | ⟨-, heq⟩
    · simp [heq, BcState.Ramping, hs]
    · simp_all [BcState.Ramping, PrivState.SsiWaits]
    · rw [heq]
      exact ⟨id, id⟩
  | speechStops h => rcases h with h | h <;> simp [BcState.Ramping, h]
  | hangsUp h => rcases h with h | h <;> simp [BcState.Ramping, h]
  | hangUpFails h => rcases h with h | h <;> simp [BcState.Ramping, h]
  | _ => simp_all [BcState.Ramping, PrivState.SsiWaits]

theorem StatusCall.ramping_iff {res : ℤ} {status : Bool} {s s' : BcState} {asks : List Request}
    (h : StatusCall res s status s' asks) :
    (s.Ramping → s'.Ramping) ∧
      (s'.protoState = .testRampPingActive → s.protoState = .testRampPingActive) := by
  cases h with
  | restarts h => rcases h with h | h <;> simp [BcState.Ramping, h]
  | restartFails h => rcases h with h | h <;> simp [BcState.Ramping, h]
  | _ => simp_all [BcState.Ramping, PrivState.SsiWaits]

theorem Calls.ramping {s s' : BcState} {asks : List Request} {tells : List Reply}
    (h : Calls s s' asks tells) :
    (s.Ramping → s'.Ramping) ∧
      (s'.protoState = .testRampPingActive → s.protoState = .testRampPingActive ∨ s'.Ramping) := by
  cases h with
  | status hstatus => exact ⟨hstatus.ramping_iff.1, fun h => .inl (hstatus.ramping_iff.2 h)⟩
  | hangUp hstatus => exact ⟨hstatus.ramping_iff.1, fun h => .inl (hstatus.ramping_iff.2 h)⟩
  | ramp => simp [BcState.Ramping, PrivState.SsiWaits]
  | _ => exact ⟨id, .inl⟩

/-- A ramp test that is on stays on, and starts with no SSI transaction in progress. -/
theorem Converses.ramping {op : SystemOp} {c c' : Conversation} {out : List SystemObs}
    (h : Converses op c out c') :
    (c.bcstate.Ramping → c'.bcstate.Ramping) ∧
      (c'.bcstate.protoState = .testRampPingActive →
        c.bcstate.protoState = .testRampPingActive ∨ c'.bcstate.Ramping) := by
  cases h with
  | quiet => exact ⟨id, .inl⟩
  | calls hop hcalls => exact hcalls.ramping
  | answers => exact ⟨id, .inl⟩
  | reacts k reqs reps hreacts =>
    exact ⟨hreacts.ramping_iff.1, fun h => .inl (hreacts.ramping_iff.2 h)⟩

/-- The client never reads a ramp ping, because the thread never sends one back. -/
theorem Converses.not_rampPing {op : SystemOp} {c c' : Conversation} {out : List SystemObs}
    (h : Converses op c out c') {msg : Cmd} {res : ℤ} (hmsg : .processed msg res ∈ out) :
    msgGetType msg ≠ testRampPing := by
  have hsends (reqs : List Request) :
      SystemObs.processed msg res ∉ reqs.map fun r => SystemObs.sends r.cmd := by
    intro ho
    obtain ⟨r, -, heq⟩ := List.mem_map.mp ho
    cases heq
  cases h with
  | quiet op c hquiet => exact absurd (hquiet _ hmsg) id
  | calls hop hcalls => exact absurd hmsg (hsends _)
  | answers env s reqs reps r state => cases List.mem_singleton.mp hmsg
  | @reacts k s s' reqs reps p asks tells hreacts =>
    rcases List.mem_cons.mp hmsg with heq | hrest
    · obtain ⟨rfl, -⟩ := SystemObs.processed.inj heq
      cases p with
      | speechConfigReq on => cases on <;> decide
      | _ => decide
    · exact absurd hrest (hsends _)

/-- A ramp ping, which the thread hears, and of which the client never hears again. -/
def rampRun : List SystemOp :=
  [.threadStep .calm, .threadStep .calm, .call (.testDataRampReq .accepting 1 8), .clientStep]

/-- A notification that ends the set up of a call: the first of them to be read takes the client
to `ACTIVE_DLUL`, and the other leaves it there. -/
def Reply.Notifies (p : Reply) : Prop := p = .uplinkConfigNtf ∨ p = .timingConfigNtf

/-- How far the set up of a call has come.  Each of these stages has the client in one state, and
says what is on the way between the two; a step stays in a stage or goes to the next one. -/
inductive SetsUp (c : Conversation) : Prop
  | asked (version : BitVec 8) (hs : c.bcstate.protoState = .disconnected)
      (hp : c.bcstate.privState = .connecting) (hreqs : c.requests = {.ssiConfigReq version true})
      (hreps : c.replies = 0)
  | answered (hs : c.bcstate.protoState = .disconnected) (hp : c.bcstate.privState = .connecting)
      (hreqs : c.requests = 0) (hreps : c.replies = {.ssiConfigResp})
  | connected (hs : c.bcstate.protoState = .connected) (hreqs : c.requests = 0)
      (hreps : c.replies = {.speechConfigReq true})
  | timing (hs : c.bcstate.protoState = .activeDl) (hreqs : c.requests = {.newTimingConfigReq})
      (hreps : c.replies = 0)
  | timed (hs : c.bcstate.protoState = .activeDl) (hreqs : c.requests = 0) (hne : c.replies ≠ 0)
      (hreps : ∀ p ∈ c.replies, p.Notifies)
  | flowing (hs : c.bcstate.protoState = .activeDlul) (hp : c.bcstate.privState = .inSync)
      (hreqs : c.requests = 0) (hreps : ∀ p ∈ c.replies, p.Notifies)

/-- The messages the client has get into the pipes when it reads an event.  A message that does
not is given up, and the call stays where it is. -/
def SystemOp.Accepts : SystemOp → Prop
  | .call (.readEvent k) => k.threadWrite = ctrlLen ∧ k.controlWrite = true
  | _ => True

namespace SetsUp

variable {c : Conversation}

/-- The link is not closed while a call is set up: none of the requests underway asks for it. -/
theorem changes_eq_nil (h : SetsUp c) {r : Request} (hr : r ∈ c.requests) : r.changes = [] := by
  cases h with
  | asked version hs hp hreqs =>
    rw [hreqs] at hr
    rw [Multiset.mem_singleton.mp hr]
    rfl
  | timing hs hreqs =>
    rw [hreqs] at hr
    rw [Multiset.mem_singleton.mp hr]
    rfl
  | answered hs hp hreqs => exact absurd (hreqs ▸ hr) (Multiset.notMem_zero r)
  | connected hs hreqs => exact absurd (hreqs ▸ hr) (Multiset.notMem_zero r)
  | timed hs hreqs => exact absurd (hreqs ▸ hr) (Multiset.notMem_zero r)
  | flowing hs hp hreqs => exact absurd (hreqs ▸ hr) (Multiset.notMem_zero r)

variable {s s' : BcState} {reqs : Multiset Request} {reps : Multiset Reply}

/-- The set up goes on when the thread has heard a message. -/
theorem answers {r : Request} (h : SetsUp ⟨s, r ::ₘ reqs, reps⟩) (state : DummyState) :
    SetsUp ⟨s, reqs, reps + r.answers state⟩ := by
  cases h with
  | asked version hs hp hreqs hreps =>
    obtain ⟨rfl, rfl⟩ := (Multiset.singleton_eq_cons_iff _).mp hreqs.symm
    obtain rfl : reps = 0 := hreps
    exact .answered hs hp rfl rfl
  | timing hs hreqs hreps =>
    obtain ⟨rfl, rfl⟩ := (Multiset.singleton_eq_cons_iff _).mp hreqs.symm
    obtain rfl : reps = 0 := hreps
    refine .timed hs rfl ?_ ?_
    · simp [Request.answers]
    · intro p hp
      by_cases hstate : state = .mediaFlowing
      · simpa [Request.answers, hstate, Reply.Notifies] using hp
      · exact .inr (by simpa [Request.answers, hstate] using hp)
  | answered hs hp hreqs => exact absurd hreqs Multiset.cons_ne_zero
  | connected hs hreqs => exact absurd hreqs Multiset.cons_ne_zero
  | timed hs hreqs => exact absurd hreqs Multiset.cons_ne_zero
  | flowing hs hp hreqs => exact absurd hreqs Multiset.cons_ne_zero

/-- A notification brings the uplink up, or does nothing. -/
theorem flowing_of_notifies {k : DummyKernel} {p : Reply} {asks : List Request}
    {tells : List Reply} (h : Reacts k s p s' asks tells) (hp : p.Notifies)
    (hs : s.protoState = .activeDl ∨ s.protoState = .activeDlul ∧ s.privState = .inSync) :
    s'.protoState = .activeDlul ∧ s'.privState = .inSync ∧ asks = [] ∧ tells = [] := by
  rcases hp with rfl | rfl
  · cases h with
    | uplinkStarts => exact ⟨rfl, rfl, rfl, rfl⟩
    | uplinkLate hne =>
      obtain ⟨hs, hp⟩ := hs.resolve_left hne
      exact ⟨hs, hp, rfl, rfl⟩
  · cases h with
    | timing =>
      rcases bcHandleTimingConfigNtf_cases s with ⟨-, heq⟩ | ⟨hne, hp', -⟩ | ⟨hne, heq⟩
      · rw [heq]
        exact ⟨rfl, rfl, rfl, rfl⟩
      · exact absurd (hp'.symm.trans (hs.resolve_left hne).2) (by decide)
      · rw [heq]
        obtain ⟨hs, hp⟩ := hs.resolve_left hne
        exact ⟨hs, hp, rfl, rfl⟩

/-- The set up goes on when the client has heard a message. -/
theorem reacts {k : DummyKernel} {p : Reply} {asks : List Request} {tells : List Reply}
    (h : SetsUp ⟨s, reqs, p ::ₘ reps⟩) (hk : k.threadWrite = ctrlLen ∧ k.controlWrite = true)
    (hr : Reacts k s p s' asks tells) : SetsUp ⟨s', reqs + asks, reps + tells⟩ := by
  -- In each stage there is one message the client can be reading; the others belong to other
  -- stages.
  cases h with
  | asked version hs hp hreqs hreps => exact absurd hreps Multiset.cons_ne_zero
  | timing hs hreqs hreps => exact absurd hreps Multiset.cons_ne_zero
  | answered hs hp hreqs hreps =>
    obtain rfl : reqs = 0 := hreqs
    obtain ⟨rfl, rfl⟩ := (Multiset.singleton_eq_cons_iff _).mp hreps.symm
    cases hr with
    | connects => exact .connected rfl rfl (by simp [emitted, hk.2])
    | ssiLate hne => exact absurd (Or.inl hp) hne
    | disconnects hp' => exact absurd (hp'.symm.trans hp) (by decide)
    | reopens hp' => exact absurd (hp'.symm.trans hp) (by decide)
    | reopenFails hp' => exact absurd (hp'.symm.trans hp) (by decide)
    | recloses hp' => exact absurd (hp'.symm.trans hp) (by decide)
    | recloseFails hp' => exact absurd (hp'.symm.trans hp) (by decide)
  | connected hs hreqs hreps =>
    obtain rfl : reqs = 0 := hreqs
    obtain ⟨rfl, rfl⟩ := (Multiset.singleton_eq_cons_iff _).mp hreps.symm
    cases hr with
    | speechStarts => exact .timing rfl rfl rfl
    | speechStartFails hs' hk' => exact absurd hk.1 hk'
    | uplinkStops hs' => exact absurd (hs'.symm.trans hs) (by decide)
    | speechKept hne => exact absurd hs hne
  | timed hs hreqs hne hreps =>
    obtain ⟨hs', hp', rfl, rfl⟩ :=
      flowing_of_notifies hr (hreps p (Multiset.mem_cons_self p reps)) (.inl hs)
    obtain rfl : reqs = 0 := hreqs
    exact .flowing hs' hp' rfl fun p' hp' =>
      hreps p' (Multiset.mem_cons_of_mem (by simpa using hp'))
  | flowing hs hp hreqs hreps =>
    obtain ⟨hs', hp', rfl, rfl⟩ :=
      flowing_of_notifies hr (hreps p (Multiset.mem_cons_self p reps)) (.inr ⟨hs, hp⟩)
    obtain rfl : reqs = 0 := hreqs
    exact .flowing hs' hp' rfl fun p' hp' =>
      hreps p' (Multiset.mem_cons_of_mem (by simpa using hp'))

end SetsUp

/-- A call is being set up, and the backend goes where it should. -/
structure DummySystem.SettingUp (w : DummySystem) (c : Conversation) : Prop where
  models : Models w c
  setsUp : SetsUp c
  thread : OnlyTells w.threadTodo
  state : c.bcstate.protoState ≠ .disconnected → w.Tends .state .mediaFlowing
  dlActive : c.bcstate.protoState = .activeDl ∨ c.bcstate.protoState = .activeDlul →
    w.Tends .dlActive true

/-- What an event can do to the protocol state, as far as the fields of the backend go with it. -/
theorem Reacts.proto_cases {k : DummyKernel} {s s' : BcState} {p : Reply} {asks : List Request}
    {tells : List Reply} (h : Reacts k s p s' asks tells) :
    (s.protoState = .disconnected →
        s'.protoState = .disconnected ∨ s'.protoState = .connected) ∧
      (s'.protoState = .activeDl ∨ s'.protoState = .activeDlul →
        (s.protoState = .activeDl ∨ s.protoState = .activeDlul) ∨ p = .speechConfigReq true) := by
  cases h with
  | timing =>
    rcases bcHandleTimingConfigNtf_cases s with ⟨hs, heq⟩ | ⟨-, -, heq⟩ | ⟨-, heq⟩ <;>
      simp_all
  | _ => simp_all

/-- One step more of the set-up: the messages go their way, and with each one read the next stage
is reached. -/
theorem DummySystem.SettingUp.next {w : DummySystem} {c : Conversation} (h : w.SettingUp c)
    {op : SystemOp} (hwaits : ReadsWaiting w op) (hsilent : ∀ op', op = .call op' → ¬ op'.Speaks)
    (hk : op.Accepts) : ∃ c', (dummySystem.next w op).1.SettingUp c' := by
  obtain ⟨c', new, hturns, hmodels, hmoves⟩ := h.models.turns op hwaits hsilent
  refine ⟨c', ?_⟩
  -- A step that tells the client something leaves the stage as it is.
  have hquiet (hnew : OnlyTells new) (hc : c'.bcstate = c.bcstate) (hsetsUp : SetsUp c') :
      (dummySystem.next w op).1.SettingUp c' := by
    refine ⟨hmodels, hsetsUp, fun e he => ?_, ?_, ?_⟩
    · exact (hmoves.mem_threadTodo he).elim (h.thread e) fun he => hnew e he.2
    · rw [hc]
      exact fun hs => (h.state hs).moves hmoves fun b hb => absurd hb (hnew.not_mem _ b)
    · rw [hc]
      exact fun hs => (h.dlActive hs).moves hmoves fun b hb => absurd hb (hnew.not_mem _ b)
  cases hturns with
  | quiet op c hnew => exact hquiet hnew rfl h.setsUp
  | answers env s reqs reps r state =>
    refine hquiet ?_ rfl (h.setsUp.answers state)
    rw [h.setsUp.changes_eq_nil (Multiset.mem_cons_self r reqs), List.append_nil]
    intro e he
    obtain ⟨p, -, rfl⟩ := List.mem_map.mp he
    exact ⟨p.cmd, rfl⟩
  | @reacts k s s' reqs reps p asks tells new hreacts hstate hdl =>
    obtain ⟨hconn, hactive⟩ := hreacts.proto_cases
    refine ⟨hmodels, h.setsUp.reacts hk hreacts, fun e he => ?_, fun hs' => ?_, fun hs' => ?_⟩
    · refine (hmoves.mem_threadTodo he).elim (h.thread e) ?_
      rintro ⟨⟨env, henv⟩, -⟩
      cases henv
    -- The backend state is set together with the step to CONNECTED, and by nothing later.
    · by_cases hs : s.protoState = .disconnected
      · have hset := (hstate _).mpr ⟨rfl, (hconn hs).resolve_left hs', hs⟩
        exact (hmoves.steady (h.thread.not_mem _) hset).tends hmoves hset
          fun b hb => ((hstate b).mp hb).1
      · exact (h.state hs).moves hmoves fun b hb => absurd ((hstate b).mp hb).2.2 hs
    · rcases hactive hs' with hs | rfl
      · exact (h.dlActive hs).moves hmoves fun b hb => ((hdl b).mp hb).1
      · have hset := (hdl true).mpr ⟨rfl, true, rfl⟩
        exact (hmoves.steady (h.thread.not_mem _) hset).tends hmoves hset
          fun b hb => ((hdl b).mp hb).1

/-- What a call that is started does when the link is not open. -/
theorem started (k : DummyKernel) (s : BcState) (callServerStatus : Bool)
    (hs : s.protoState = .disconnected) (hk : k.threadWrite = ctrlLen) :
    ∃ effects, asked effects = [] ∧ told effects = [] ∧
      (ClientCall.stateChangeCallStatus k callServerStatus true ⟨s, []⟩).2 =
        ⟨{ (s.privStateChangeTo none .connecting).written with callServerActive := true },
          .threadWrite (Request.ssiConfigReq s.confProtoVersion true).cmd :: effects⟩ := by
  unfold ClientCall.stateChangeCallStatus ClientCall.bcStateChangeCallStatus
    ClientCall.bcCallStarted ClientCall.bcPostCommand
  dsimp only
  rw [if_neg (show ¬ true ≠ true by decide), if_pos hs,
    ClientCall.bcSendSsiConfigRequest_eq _ _ _ (Or.inl rfl), if_pos hk]
  cases callServerStatus with
  | true => exact ⟨[], rfl, rfl, rfl⟩
  | false => exact ⟨[.changeState .initialized], rfl, rfl, rfl⟩

namespace DummySystem

/-- Nobody has anything to do or to say, and the instance is not about to be closed. -/
structure Quiescent (w : DummySystem) : Prop where
  threadTodo : w.threadTodo = []
  clientTodo : w.clientTodo = []
  requests : w.requests = []
  replies : w.replies = []
  closing : w.closing = false

variable {w : DummySystem}

theorem Quiescent.todo_eq (h : w.Quiescent) : w.todo = [] := by
  rw [todo, h.threadTodo, h.clientTodo]
  rfl

/-- There are no messages in the model either, when nothing is left to do. -/
theorem Quiescent.model {c : Conversation} (h : w.Quiescent) (hc : Models w c) :
    c = ⟨w.dummy.bcstate, 0, 0⟩ := by
  have hreqs := hc.requests
  have hreps := hc.replies
  rw [h.requests] at hreqs
  rw [h.replies] at hreps
  obtain ⟨s, reqs, reps⟩ := c
  obtain rfl : reqs = 0 := Multiset.map_eq_zero.mp hreqs.symm
  obtain rfl : reps = 0 := Multiset.map_eq_zero.mp hreps.symm
  rw [hc.bcstate]

/-- A call that is made when nobody has anything to do. -/
theorem Quiescent.next_call (h : w.Quiescent) (op : ClientOp) :
    dummySystem.next w (.call op) = op.run w := by
  show (if w.clientTodo = [] ∧ w.closing = false then op.run w else (w, [])) = _
  rw [if_pos ⟨h.clientTodo, h.closing⟩]

/-- The set-up of a call begins: the request is made, and it is all there is underway. -/
theorem Quiescent.settingUp (h : w.Quiescent) {c : Conversation} (hc : Models w c)
    (hs : w.dummy.bcstate.protoState = .disconnected) {k : DummyKernel}
    (hk : k.threadWrite = ctrlLen) :
    ∃ c', (dummySystem.next w (.call (.stateChangeCallStatus k true))).1.SettingUp c' := by
  -- Nothing is underway, so the conversation is empty and the request is the only message of it.
  obtain rfl := h.model hc
  obtain ⟨effects, hasked, htold, hx⟩ := started k w.dummy.bcstate w.callServerStatus hs hk
  generalize hy : (w.idle.stateChangeCallStatus k w.callServerStatus true).2 = y
  obtain rfl : y = _ := hy.symm.trans hx
  have hmoved : Models { w with callServerStatus := true } ⟨w.dummy.bcstate, 0, 0⟩ :=
    hc.congr rfl rfl rfl rfl
  have hasked' : asked (Effect.threadWrite
      (Request.ssiConfigReq w.dummy.bcstate.confProtoVersion true).cmd :: effects) =
        [Request.ssiConfigReq w.dummy.bcstate.confProtoVersion true].map Request.cmd :=
    congrArg (_ :: ·) hasked
  have htold' : told (Effect.threadWrite
      (Request.ssiConfigReq w.dummy.bcstate.confProtoVersion true).cmd :: effects) =
        ([] : List Reply).map Reply.cmd := htold
  rw [h.next_call]
  show ∃ c', (start { w with callServerStatus := true } _).1.SettingUp c'
  rw [hy]
  refine ⟨_, hmoved.start h.clientTodo hasked' htold', ?_, ?_, ?_, ?_⟩
  · exact .asked _ hs rfl rfl rfl
  · show OnlyTells w.threadTodo
    rw [h.threadTodo]
    exact fun e he => absurd he List.not_mem_nil
  · exact fun hne => absurd hs hne
  · rintro (h' | h')
    · exact absurd (hs.symm.trans h') (by decide)
    · exact absurd (hs.symm.trans h') (by decide)

end DummySystem

/-- Steps in which the messages go their way: the application is silent, and what the client
writes is taken. -/
theorem along_processes {w : DummySystem} {ops : List SystemOp}
    (hops : dummySystem.Along ReadsWaiting w ops) (hsilent : ∀ op, .call op ∈ ops → ¬ op.Speaks)
    (haccepts : ∀ op ∈ ops, op.Accepts) :
    dummySystem.Along (fun w op => ReadsWaiting w op ∧
      (∀ op', op = .call op' → ¬ op'.Speaks) ∧ op.Accepts) w ops := by
  refine (dummySystem.along_and _ _ _ _).mpr ⟨hops, (dummySystem.along_forall _ _ _).mpr ?_⟩
  intro op hop
  refine ⟨?_, haccepts op hop⟩
  rintro op' rfl
  exact hsilent op' hop

/-- **A call that is started becomes active**: it is started in `DISCONNECTED` with nothing
underway, its request gets into the pipe of the thread, the client gets its messages through and
reads no event from an empty buffer, and the application says nothing else.  When nobody has
anything left to do, the uplink is up, the backend sends frames and the downlink is active,
whatever turns the client and the thread have taken. -/
theorem dummySystem_setUp {w : DummySystem} (hw : dummySystem.init w) {ops ops' : List SystemOp}
    {k : DummyKernel} (hk : k.threadWrite = ctrlLen)
    (hops : dummySystem.Along ReadsWaiting w
      (ops ++ .call (.stateChangeCallStatus k true) :: ops'))
    (hidle : (dummySystem.exec w ops).Quiescent)
    (hs : (dummySystem.exec w ops).dummy.bcstate.protoState = .disconnected)
    (hsilent : ∀ op, .call op ∈ ops' → ¬ op.Speaks) (haccepts : ∀ op ∈ ops', op.Accepts)
    (hdone : (dummySystem.exec w
      (ops ++ .call (.stateChangeCallStatus k true) :: ops')).Quiescent) :
    let d := (dummySystem.exec w (ops ++ .call (.stateChangeCallStatus k true) :: ops')).dummy
    d.bcstate.protoState = .activeDlul ∧ d.bcstate.privState = .inSync ∧
      d.state = .mediaFlowing ∧ d.dlActive = true := by
  obtain ⟨hops, hcall, hops'⟩ := (dummySystem.along_append _ _ _ _).mp hops
  obtain ⟨c, hmodels⟩ := Models.reachable hw hops
  have hstart := hidle.settingUp hmodels hs hk
  obtain ⟨c', hup⟩ := dummySystem.exec_invariant (I := fun w => ∃ c, w.SettingUp c)
    (fun w op h hop => h.elim fun _ h => h.next hop.1 hop.2.1 hop.2.2) hstart
    (along_processes hops' hsilent haccepts)
  rw [dummySystem.exec_append, dummySystem.exec_cons] at hdone ⊢
  obtain rfl := hdone.model hup.models
  -- With nothing underway only the last stage is left: in the others a message is.
  cases hup.setsUp with
  | flowing hs' hp' =>
    exact ⟨hs', hp',
      (hup.state fun h => absurd (h.symm.trans hs') (by decide)).done hdone.todo_eq,
      (hup.dlActive (.inr hs')).done hdone.todo_eq⟩
  | asked version hs hp hreqs => exact absurd hreqs (Multiset.zero_ne_singleton _)
  | answered hs hp hreqs hreps => exact absurd hreps (Multiset.zero_ne_singleton _)
  | connected hs hreqs hreps => exact absurd hreps (Multiset.zero_ne_singleton _)
  | timing hs hreqs => exact absurd hreqs (Multiset.zero_ne_singleton _)
  | timed hs hreqs hne => exact absurd rfl hne

/-- A call is started, and becomes active: the two sides take turns until nothing is left to say. -/
def setUpRun : List SystemOp :=
  [.clientStep, .clientStep, .threadStep .calm, .threadStep .calm, .threadStep .calm,
    .call (.checkPending true), .call (.readEvent .accepting), .clientStep, .clientStep,
    .call (.checkPending true), .call (.readEvent .accepting), .clientStep, .clientStep,
    .threadStep .calm, .threadStep .calm, .threadStep .calm, .threadStep .calm, .threadStep .calm,
    .call (.checkPending true), .call (.readEvent .accepting),
    .call (.checkPending true), .call (.readEvent .accepting)]

/-- The thread starts, and says that it is running. -/
def startRun : List SystemOp := [.threadStep .calm, .threadStep .calm]

theorem dummySystem_setUp_link :
    let d := (dummySystem.exec .fresh
      (startRun ++ .call (.stateChangeCallStatus .accepting true) :: setUpRun)).dummy
    d.bcstate.protoState = .activeDlul ∧ d.bcstate.privState = .inSync ∧
      d.state = .mediaFlowing ∧ d.dlActive = true :=
  dummySystem_setUp DummySystem.init_fresh rfl (by decide)
    ⟨rfl, rfl, rfl, by decide, rfl⟩ (by decide) (by simp [setUpRun, ClientOp.Speaks])
    (by simp [setUpRun, SystemOp.Accepts, DummyKernel.accepting])
    ⟨by decide, by decide, by decide, by decide, by decide⟩

/-! ### A call is taken down -/

/-- How far a call has been taken down, from the thread's request to end the stream to the answer
that ends the connection.  A step stays in a stage or goes to the next one. -/
inductive TearsDown (c : Conversation) : Prop
  | told (hs : c.bcstate.protoState = .activeDl ∨ c.bcstate.protoState = .activeDlul)
      (hc : c.bcstate.callServerActive = false) (hreqs : c.requests = 0)
      (hreps : c.replies = {.speechConfigReq false})
  | asked (version : BitVec 8) (hs : c.bcstate.protoState = .connected)
      (hp : c.bcstate.privState = .disconnecting)
      (hreqs : c.requests = {.ssiConfigReq version false}) (hreps : c.replies = 0)
  | answered (hs : c.bcstate.protoState = .connected) (hp : c.bcstate.privState = .disconnecting)
      (hreqs : c.requests = 0) (hreps : c.replies = {.ssiConfigResp})
  | closed (hs : c.bcstate.protoState = .disconnected) (hp : c.bcstate.privState = .inSync)
      (hreqs : c.requests = 0) (hreps : c.replies = 0)

/-- A call is being taken down, and the backend goes where it should: the states of the
conversation, and what is left to do to the fields that the thread sees. -/
structure DummySystem.TearingDown (w : DummySystem) (c : Conversation) : Prop where
  models : Models w c
  tearsDown : TearsDown c
  thread : c.bcstate.protoState = .activeDl ∨ c.bcstate.protoState = .activeDlul →
    OnlyTells w.threadTodo
  steady : c.requests ≠ 0 → w.Steady .state
  state : c.bcstate.protoState = .connected ∧ c.requests = 0 ∨
    c.bcstate.protoState = .disconnected → w.Tends .state .idle

/-- One step more of the take-down: with each message read the next stage is reached, and no other
is. -/
theorem DummySystem.TearingDown.next {w : DummySystem} {c : Conversation} (h : w.TearingDown c)
    {op : SystemOp} (hwaits : ReadsWaiting w op) (hsilent : ∀ op', op = .call op' → ¬ op'.Speaks)
    (hk : op.Accepts) : ∃ c', (dummySystem.next w op).1.TearingDown c' := by
  obtain ⟨c', new, hturns, hmodels, hmoves⟩ := h.models.turns op hwaits hsilent
  refine ⟨c', ?_⟩
  cases hturns with
  | quiet op c hnew =>
    refine ⟨hmodels, h.tearsDown, fun hs e he => ?_, fun hreqs => ?_, fun hs => ?_⟩
    · exact (hmoves.mem_threadTodo he).elim (h.thread hs e) fun he => hnew e he.2
    · exact (h.steady hreqs).moves hmoves (hnew.not_mem _)
    · exact (h.state hs).moves hmoves fun b hb => absurd hb (hnew.not_mem _ b)
  | answers env s reqs reps r state =>
    cases h.tearsDown with
    | asked version hs hp hreqs hreps =>
      have hsteady := h.steady Multiset.cons_ne_zero
      obtain ⟨rfl, rfl⟩ := (Multiset.singleton_eq_cons_iff _).mp hreqs.symm
      obtain rfl : reps = 0 := hreps
      refine ⟨hmodels, .answered hs hp rfl rfl, ?_, fun hne => absurd rfl hne, fun _ => ?_⟩
      · rintro (h' | h')
        · exact absurd (hs.symm.trans h') (by decide)
        · exact absurd (hs.symm.trans h') (by decide)
      · refine hsteady.tends hmoves (List.mem_append_right _ (List.mem_singleton_self _)) ?_
        intro b hb
        simpa [Request.answers, Request.changes, DummyField.state] using hb
    | told hs hc hreqs => exact absurd hreqs Multiset.cons_ne_zero
    | answered hs hp hreqs => exact absurd hreqs Multiset.cons_ne_zero
    | closed hs hp hreqs => exact absurd hreqs Multiset.cons_ne_zero
  -- The client hears that the speech is over, or that the connection is.
  | @reacts k s s' reqs reps p asks tells new hreacts hstate hdl =>
    cases h.tearsDown with
    | told hs hc hreqs hreps =>
      have hthread := h.thread hs
      obtain rfl : reqs = 0 := hreqs
      obtain ⟨rfl, rfl⟩ := (Multiset.singleton_eq_cons_iff _).mp hreps.symm
      have hset := (hdl true).mpr ⟨rfl, false, rfl⟩
      have hnew (b : DummyState) : DummyField.state.set b ∉ new := by
        intro hb
        obtain ⟨-, -, hdisc⟩ := (hstate b).mp hb
        rcases hs with hs | hs
        · exact absurd (hs.symm.trans hdisc) (by decide)
        · exact absurd (hs.symm.trans hdisc) (by decide)
      cases hreacts with
      | hangsUp =>
        refine ⟨hmodels, .asked _ rfl rfl rfl rfl, ?_, fun _ => ?_, ?_⟩
        · rintro (h' | h')
          · cases h'
          · cases h'
        · exact (hmoves.steady (hthread.not_mem _) hset).moves hmoves hnew
        · rintro (⟨-, hreqs⟩ | h')
          · exact absurd hreqs (by simp)
          · cases h'
      | speechStops hs' hc' => exact absurd (hc.symm.trans hc') (by decide)
      | hangUpFails hs' hc' hk' => exact absurd hk.1 hk'
      | speechStopsLate h₁ h₂ => exact (hs.elim h₁ h₂).elim
    | answered hs hp hreqs hreps =>
      have htends := h.state (.inl ⟨hs, hreqs⟩)
      obtain rfl : reqs = 0 := hreqs
      obtain ⟨rfl, rfl⟩ := (Multiset.singleton_eq_cons_iff _).mp hreps.symm
      cases hreacts with
      | disconnects =>
        refine ⟨hmodels, .closed rfl rfl rfl rfl, ?_, fun hne => absurd rfl hne, fun _ => ?_⟩
        · rintro (h' | h')
          · cases h'
          · cases h'
        · exact htends.moves hmoves fun b hb =>
            absurd (hs.symm.trans ((hstate b).mp hb).2.2) (by decide)
      | ssiLate hne => exact absurd (Or.inr (Or.inl hp)) hne
      | connects hp' => exact absurd (hp'.symm.trans hp) (by decide)
      | reopens hp' => exact absurd (hp'.symm.trans hp) (by decide)
      | reopenFails hp' => exact absurd (hp'.symm.trans hp) (by decide)
      | recloses hp' => exact absurd (hp'.symm.trans hp) (by decide)
      | recloseFails hp' => exact absurd (hp'.symm.trans hp) (by decide)
    | asked version hs hp hreqs hreps => exact absurd hreps Multiset.cons_ne_zero
    | closed hs hp hreqs hreps => exact absurd hreps Multiset.cons_ne_zero

/-- What a call that has ended does while the link is in use. -/
theorem ended (k : DummyKernel) (s : BcState)
    (hs : s.protoState = .activeDl ∨ s.protoState = .activeDlul) (hk : k.controlWrite = true) :
    ∃ s' : BcState, s'.protoState = s.protoState ∧
      (ClientCall.stateChangeCallStatus k true false ⟨s, []⟩).2 =
        { bcstate := { s' with callServerActive := false }
          effects := [.setDlActive false, .changeState .terminating,
            .controlWrite (Reply.speechConfigReq false).cmd] } := by
  obtain ⟨s', reqs, heq, hstatus⟩ := ClientCall.bcStateChangeCallStatus_cases s k.threadWrite false
  have hne : s.protoState ≠ .connected := by
    rcases hs with hs | hs <;> simp [hs]
  have hsame : s'.protoState = s.protoState ∧ reqs = [] := by
    cases hstatus with
    | closes h => exact absurd h hne
    | closeFails h => exact absurd h hne
    | _ => exact ⟨rfl, rfl⟩
  obtain ⟨hs', rfl⟩ := hsame
  refine ⟨s', hs', ?_⟩
  unfold ClientCall.stateChangeCallStatus
  dsimp only
  rw [heq]
  have hactive : s'.protoState = .activeDl ∨ s'.protoState = .activeDlul := hs' ▸ hs
  simp [ClientCall.asking, ClientCall.privEmitSpeechConfigReq, ClientCall.emit, hk, hactive,
    Reply.cmd]

/-- The call begins to be taken down: the backend asks for the end of the speech, as the modem
would. -/
theorem DummySystem.Quiescent.tearingDown {w : DummySystem} (h : w.Quiescent) {c : Conversation}
    (hc : Models w c)
    (hs : w.dummy.bcstate.protoState = .activeDl ∨ w.dummy.bcstate.protoState = .activeDlul)
    (hserver : w.callServerStatus = true) {k : DummyKernel} (hk : k.controlWrite = true) :
    ∃ c', (dummySystem.next w (.call (.stateChangeCallStatus k false))).1.TearingDown c' := by
  obtain rfl := h.model hc
  obtain ⟨s', hs', hx⟩ := ended k w.dummy.bcstate hs hk
  generalize hy : (w.idle.stateChangeCallStatus k w.callServerStatus false).2 = y
  -- `call_server_status` is no part of the conversation.
  have hmoved : Models { w with callServerStatus := false } ⟨w.dummy.bcstate, 0, 0⟩ :=
    hc.congr rfl rfl rfl rfl
  have hasked : asked y.effects = ([] : List Request).map Request.cmd := by
    rw [← hy, hserver]
    exact congrArg (fun x : ClientCall => asked x.effects) hx
  have htold : told y.effects = [Reply.speechConfigReq false].map Reply.cmd := by
    rw [← hy, hserver]
    exact congrArg (fun x : ClientCall => told x.effects) hx
  have hbc : y.bcstate = { s' with callServerActive := false } := by
    rw [← hy, hserver]
    exact congrArg ClientCall.bcstate hx
  rw [h.next_call]
  show ∃ c', (start { w with callServerStatus := false } _).1.TearingDown c'
  rw [hy]
  refine ⟨_, hmoved.start h.clientTodo hasked htold, ?_, ?_, fun hne => absurd rfl hne, ?_⟩
  · refine .told ?_ ?_ rfl rfl
    · rw [hbc]
      exact hs' ▸ hs
    · rw [hbc]
  · intro _
    show OnlyTells w.threadTodo
    rw [h.threadTodo]
    exact fun e he => absurd he List.not_mem_nil
  · rw [hbc]
    dsimp only
    rw [hs']
    rintro (⟨h', -⟩ | h')
    · rcases hs with hs | hs
      · exact absurd (hs.symm.trans h') (by decide)
      · exact absurd (hs.symm.trans h') (by decide)
    · rcases hs with hs | hs
      · exact absurd (hs.symm.trans h') (by decide)
      · exact absurd (hs.symm.trans h') (by decide)

/-- **A call that is ended is taken down**: it is ended while there is speech and nothing is
underway, with the call server active so far, and on the same terms as in `dummySystem_setUp` for
the pipes and the application.  When nobody has anything left to do, the link is closed and the
backend is idle, whatever turns the client and the thread have taken. -/
theorem dummySystem_tearDown {w : DummySystem} (hw : dummySystem.init w) {ops ops' : List SystemOp}
    {k : DummyKernel} (hk : k.controlWrite = true)
    (hops : dummySystem.Along ReadsWaiting w
      (ops ++ .call (.stateChangeCallStatus k false) :: ops'))
    (hidle : (dummySystem.exec w ops).Quiescent)
    (hserver : (dummySystem.exec w ops).callServerStatus = true)
    (hs : (dummySystem.exec w ops).dummy.bcstate.protoState = .activeDl ∨
      (dummySystem.exec w ops).dummy.bcstate.protoState = .activeDlul)
    (hsilent : ∀ op, .call op ∈ ops' → ¬ op.Speaks) (haccepts : ∀ op ∈ ops', op.Accepts)
    (hdone :
      (dummySystem.exec w (ops ++ .call (.stateChangeCallStatus k false) :: ops')).Quiescent) :
    let d := (dummySystem.exec w (ops ++ .call (.stateChangeCallStatus k false) :: ops')).dummy
    d.bcstate.protoState = .disconnected ∧ d.bcstate.privState = .inSync ∧ d.state = .idle := by
  obtain ⟨hops, hcall, hops'⟩ := (dummySystem.along_append _ _ _ _).mp hops
  obtain ⟨c, hmodels⟩ := Models.reachable hw hops
  have hstart := hidle.tearingDown hmodels hs hserver hk
  obtain ⟨c', hdown⟩ := dummySystem.exec_invariant (I := fun w => ∃ c, w.TearingDown c)
    (fun w op h hop => h.elim fun _ h => h.next hop.1 hop.2.1 hop.2.2) hstart
    (along_processes hops' hsilent haccepts)
  rw [dummySystem.exec_append, dummySystem.exec_cons] at hdone ⊢
  obtain rfl := hdone.model hdown.models
  -- As for the start: every stage but the last has a message underway.
  cases hdown.tearsDown with
  | closed hs' hp' => exact ⟨hs', hp', (hdown.state (.inr hs')).done hdone.todo_eq⟩
  | told hs hc hreqs hreps => exact absurd hreps (Multiset.zero_ne_singleton _)
  | asked version hs hp hreqs => exact absurd hreqs (Multiset.zero_ne_singleton _)
  | answered hs hp hreqs hreps => exact absurd hreps (Multiset.zero_ne_singleton _)

/-- A call is ended, and taken down: the speech first, and then the connection. -/
def tearDownRun : List SystemOp :=
  [.clientStep, .clientStep, .clientStep, .call (.checkPending true),
    .call (.readEvent .accepting), .clientStep, .clientStep,
    .threadStep .calm, .threadStep .calm, .threadStep .calm, .threadStep .calm, .threadStep .calm,
    .call (.checkPending true), .call (.readEvent .accepting)]

theorem dummySystem_tearDown_link :
    let d := (dummySystem.exec .fresh
      ((startRun ++ .call (.stateChangeCallStatus .accepting true) :: setUpRun) ++
        .call (.stateChangeCallStatus .accepting false) :: tearDownRun)).dummy
    d.bcstate.protoState = .disconnected ∧ d.bcstate.privState = .inSync ∧ d.state = .idle :=
  dummySystem_tearDown DummySystem.init_fresh rfl (by decide)
    ⟨by decide, by decide, by decide, by decide, by decide⟩ (by decide) (by decide)
    (by simp [tearDownRun, ClientOp.Speaks])
    (by simp [tearDownRun, SystemOp.Accepts, DummyKernel.accepting])
    ⟨by decide, by decide, by decide, by decide, by decide⟩

end CmtSpeech
