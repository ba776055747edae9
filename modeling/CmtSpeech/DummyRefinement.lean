import CmtSpeech.DummyTalk

/-!
# The client of the dummy backend by itself

In `dummyBackend` a call does all it has to do at once, and what the thread does comes from
elsewhere.  The client and the thread together, with the steps of one between those of the other,
are seen from the control pipe and `pubbuf` as a run of it.

* `SystemObs.ofQueue` — what is seen there.

## Main result

* `dummySystem_refines`
-/

namespace CmtSpeech

/-- What is seen of the messages to the client. -/
def SystemObs.ofQueue : SystemObs → Option DummyObs
  | .came msg => some (.came msg)
  | .took msg => some (.took msg)
  | .processed msg res => some (.processed msg res)
  | _ => none

/-- A run of `dummyBackend` that does not read from an empty buffer goes from `d` to `d'`, and is
seen as `out`. -/
def Dummy.Runs (d d' : Dummy) (out : List SystemObs) : Prop :=
  ∃ dops : List DummyOp, dummyBackend.Along (fun d op => ¬ ReadsEmpty d op) d dops ∧
    dummyBackend.exec d dops = d' ∧
    dummyBackend.trace d dops = out.filterMap SystemObs.ofQueue

namespace Dummy.Runs

variable {d d' : Dummy} {out : List SystemObs}

/-- Nothing is seen, and nothing happens: a step of the system that is none of the client alone. -/
theorem refl (d : Dummy) (h : ∀ o ∈ out, o.ofQueue = none) : d.Runs d out :=
  ⟨[], trivial, rfl, (List.filterMap_eq_nil_iff.mpr h).symm⟩

/-- Something happens elsewhere, and nothing is seen. -/
theorem elsewhere (d : Dummy) (bcstate : BcState) (state : DummyState) (dlActive : Bool)
    (h : ∀ o ∈ out, o.ofQueue = none) : d.Runs { d with bcstate, state, dlActive } out := by
  refine ⟨[.elsewhere bcstate state dlActive []], ⟨id, trivial⟩, ?_, ?_⟩
  · show { d with bcstate, state, dlActive, controlPipe := d.controlPipe ++ [] } = _
    rw [List.append_nil]
  · rw [List.filterMap_eq_nil_iff.mpr h]
    rfl

end Dummy.Runs

namespace DummySystem

variable (w : DummySystem)

/-- An effect comes from elsewhere: a message of the thread, or a field that it sets. -/
theorem runs_perform (e : Effect) : w.dummy.Runs (w.perform e).dummy (effectObs e) := by
  cases e with
  | controlWrite msg =>
    exact ⟨[.elsewhere w.dummy.bcstate w.dummy.state w.dummy.dlActive [msg]], ⟨id, trivial⟩, rfl,
      rfl⟩
  | changeState newState => exact .elsewhere w.dummy _ newState _ (by simp [effectObs])
  | setDlActive dlActive => exact .elsewhere w.dummy _ _ dlActive (by simp [effectObs])
  | threadWrite msg => exact .refl w.dummy (by simp [effectObs])
  | setThreadRunning threadRunning => exact .refl w.dummy (by simp [effectObs])

theorem runs_threadStep (env : ThreadEnv) :
    w.dummy.Runs (w.threadStep env).1.dummy (w.threadStep env).2 := by
  unfold threadStep
  cases w.threadTodo with
  | cons e todo => exact w.runs_perform e
  | nil =>
    -- None of what the thread does by itself is seen from the control pipe and `pubbuf`.
    have hsingle {o : SystemObs} (ho : o.ofQueue = none) : ∀ o' ∈ [o], o'.ofQueue = none := by
      intro o' ho'
      rwa [List.mem_singleton.mp ho']
    have hread (pc : ThreadPc) :
        let r := privReadControlMessage { w with threadPc := pc }
        w.dummy.Runs r.1.dummy r.2 := by
      unfold privReadControlMessage
      dsimp only
      cases w.threadPipe with
      | nil => exact .refl _ (by simp)
      | cons msg rest => exact .refl _ (hsingle rfl)
    show w.dummy.Runs (w.threadGo env).1.dummy (w.threadGo env).2
    unfold threadGo
    cases w.threadPc with
    | top =>
      dsimp only
      split
      · exact .refl _ (by simp)
      · split <;> exact .refl _ (by simp)
    | poll state =>
      dsimp only
      split
      · split
        · exact .refl _ (by simp)
        · exact hread _
      · split
        · exact .refl _ (by simp)
        · exact .refl _ (by simp)
        · exact hread _
    | frame =>
      dsimp only
      split
      · exact .refl _ (by simp)
      · split
        · exact .refl _ (by simp)
        · exact .refl _ (hsingle rfl)
    | fill => exact .refl _ (hsingle rfl)
    | _ => exact .refl _ (by simp)

/-- What a call says to the thread is not seen from the control pipe. -/
theorem ofQueue_start (x : ClientCall) : ∀ o ∈ (w.start x).2, o.ofQueue = none := by
  intro o ho
  rw [Models.start_snd] at ho
  obtain ⟨msg, -, rfl⟩ := List.mem_map.mp ho
  rfl

/-- `cmtspeech_read_event` with its effects put off is a call without them. -/
theorem runs_readEvent (k : DummyKernel) (hwaits : w.dummy.pubbufRead ≠ w.dummy.pubbufWrite) :
    w.dummy.Runs (w.readEvent k).1.dummy (w.readEvent k).2 := by
  -- The call of the client alone puts a SPEECH_CONFIG_REQ into the pipe at once; the system leaves
  -- it among the things to do.  So the write of the small system is made to fail here, and what is
  -- left to do comes as the message of somebody else.
  let k' : DummyKernel := { k with controlWrite := false }
  let msg := w.dummy.load w.dummy.pubbufRead
  let x := (w.idle.readEvent k msg).2.2
  refine ⟨[.readEvent k', .elsewhere x.bcstate w.dummy.state w.dummy.dlActive []],
    ⟨hwaits, id, trivial⟩, ?_, ?_⟩
  · obtain ⟨hbuf, hread, hwrite, hpipe⟩ := Dummy.process_exact w.dummy k' msg
    have hnone : Dummy.emits k' (Dummy.bcHandleCommand k'.threadWrite msg w.dummy.bcstate).2.1
        (Dummy.bcHandleCommand k'.threadWrite msg w.dummy.bcstate).2.2 = [] :=
      if_neg fun h => Bool.false_ne_true h.2.2
    rw [hnone, List.append_nil] at hpipe
    -- Apart from the four fields of the queue the state is set by the second of the two steps.
    have heq : ∀ d : Dummy, d.pubbuf = w.dummy.pubbuf → d.pubbufRead = w.dummy.pubbufRead →
        d.pubbufWrite = w.dummy.pubbufWrite → d.controlPipe = w.dummy.controlPipe →
        { d with
          bcstate := x.bcstate, state := w.dummy.state, dlActive := w.dummy.dlActive
          pubbufRead := (d.pubbufRead + 4) % salMsgBuffer, controlPipe := d.controlPipe ++ [] } =
        { w.dummy with
          bcstate := x.bcstate
          pubbufRead := (w.dummy.pubbufRead + 4) % salMsgBuffer } := by
      rintro ⟨_, _, _, _, _, _, _⟩ hbuf hread hwrite hpipe
      dsimp only at hbuf hread hwrite hpipe ⊢
      rw [hbuf, hread, hwrite, hpipe, List.append_nil]
    exact heq _ hbuf hread hwrite hpipe
  · have hres : (w.idle.readEvent k msg).1 =
        (Dummy.bcHandleCommand k.threadWrite msg w.dummy.bcstate).1 :=
      congrArg Prod.fst (ClientCall.bcHandleCommand_eq k.threadWrite msg w.idle)
    have hnone : Dummy.emits k' (Dummy.bcHandleCommand k'.threadWrite msg w.dummy.bcstate).2.1
        (Dummy.bcHandleCommand k'.threadWrite msg w.dummy.bcstate).2.2 = [] :=
      if_neg fun h => Bool.false_ne_true h.2.2
    have htrace : dummyBackend.trace w.dummy
        [.readEvent k', .elsewhere x.bcstate w.dummy.state w.dummy.dlActive []] =
          .processed msg (Dummy.bcHandleCommand k.threadWrite msg w.dummy.bcstate).1 ::
            ((Dummy.emits k' (Dummy.bcHandleCommand k'.threadWrite msg w.dummy.bcstate).2.1
              (Dummy.bcHandleCommand k'.threadWrite msg w.dummy.bcstate).2.2).map .came ++ []) :=
      rfl
    have hseen : (w.readEvent k).2.filterMap SystemObs.ofQueue =
        .processed msg (w.idle.readEvent k msg).1 :: (w.start x).2.filterMap SystemObs.ofQueue :=
      rfl
    rw [htrace, hnone, hseen, List.filterMap_eq_nil_iff.mpr (w.ofQueue_start x), hres]
    rfl

theorem runs_run (op : ClientOp) (hwaits : ReadsWaiting w (.call op)) :
    w.dummy.Runs (op.run w).1.dummy (op.run w).2 := by
  have hsingle {o : SystemObs} (ho : o.ofQueue = none) : ∀ o' ∈ [o], o'.ofQueue = none := by
    intro o' ho'
    rwa [List.mem_singleton.mp ho']
  cases op with
  | checkPending flags =>
    refine ⟨[.checkPending flags], ⟨id, trivial⟩, rfl, ?_⟩
    show w.dummy.takes.map DummyObs.took ++ [] = (w.dummy.takes.map SystemObs.took).filterMap _
    rw [List.append_nil, List.filterMap_map]
    exact (congrFun (List.filterMap_eq_map (f := DummyObs.took)) _).symm
  | readEvent k => exact w.runs_readEvent k hwaits
  | ulBufferRelease i own =>
    dsimp only [ClientOp.run, ulBufferRelease]
    split
    · exact .refl _ (hsingle rfl)
    · split <;> exact .refl _ (hsingle rfl)
  | dlBufferRelease i own =>
    dsimp only [ClientOp.run, dlBufferRelease]
    split
    · exact .refl _ (hsingle rfl)
    · split <;> exact .refl _ (hsingle rfl)
  | ulBufferAcquire => exact .refl _ (hsingle rfl)
  | dlBufferAcquire => exact .refl _ (hsingle rfl)
  | stateChangeCallStatus k status =>
    exact .elsewhere w.dummy _ _ _ (ofQueue_start { w with callServerStatus := status } _)
  | close => exact .elsewhere w.dummy _ _ _ (ofQueue_start { w with closing := true } _)
  | _ => exact .elsewhere w.dummy _ _ _ (w.ofQueue_start _)

end DummySystem

/-- **The client is that of `dummyBackend`**: a run of the client and the thread that reads no
event from an empty buffer is seen from the pipe and the buffer as such a run of `dummyBackend`,
and ends in the same state. -/
theorem dummySystem_refines {w : DummySystem} (hw : dummySystem.init w) {ops : List SystemOp}
    (hops : dummySystem.Along ReadsWaiting w ops) :
    dummyBackend.init w.dummy ∧
      w.dummy.Runs (dummySystem.exec w ops).dummy (dummySystem.trace w ops) := by
  have hinit : dummyBackend.init w.dummy := by
    obtain ⟨old, tone, env, -, rfl⟩ := hw
    exact ⟨old.dummy, rfl⟩
  refine ⟨hinit, dummySystem.exists_run dummyBackend ?_ hops⟩
  intro w op hop
  cases op with
  | call op =>
    by_cases hidle : w.clientTodo = [] ∧ w.closing = false
    · rw [show dummySystem.next w (.call op) = op.run w from if_pos hidle]
      exact w.runs_run op hop
    · rw [show dummySystem.next w (.call op) = (w, []) from if_neg hidle]
      exact Dummy.Runs.refl w.dummy (by simp)
  | clientStep =>
    show w.dummy.Runs w.clientStep.1.dummy w.clientStep.2
    unfold DummySystem.clientStep
    cases w.clientTodo with
    | nil => exact .refl _ (by simp)
    | cons e todo => exact w.runs_perform e
  | threadStep env => exact w.runs_threadStep env

theorem dummySystem_refines_link :
    dummyBackend.init DummySystem.fresh.dummy ∧
      DummySystem.fresh.dummy.Runs (dummySystem.exec .fresh linkRun).dummy
        (dummySystem.trace .fresh linkRun) :=
  dummySystem_refines DummySystem.init_fresh (by decide)

end CmtSpeech
