import CmtSpeech.Effects

/-!
# What reaches the event queue

The queue is touched by `priv_queue_control_event` and `priv_dequeue_control_event` alone,
and an event is queued only at the end of an inbound word.  Everything else, whatever it
sends or configures, leaves the queue as it is.

* `Obs.event?` — the event an observation queues.
* `pushEvent` — the queue after one more event.
* `Machine.events` — the queue, and what the operation in progress has queued.

## Main results

* `events_handleCommandBackend` — handling a message queues nothing yet.
* `Op.run_events` — no operation on its own queues anything.
-/

namespace CmtSpeech

/-- The event an observation puts into `evbuf`, if it does: a history of the queue is read off the
trace with it. -/
def Obs.event? : Obs → Option Event
  | .queued e => some e
  | _ => none

theorem queued_mem_iff {e : Event} {out : List Obs} :
    .queued e ∈ out ↔ e ∈ out.filterMap Obs.event? := by
  rw [List.mem_filterMap]
  constructor
  · intro h
    exact ⟨_, h, rfl⟩
  · rintro ⟨o, ho, he⟩
    cases o <;> simp_all [Obs.event?]

/-- A history variable that only events move can be computed from the events of a step alone. -/
theorem foldl_events {γ : Type*} {upd : γ → Obs → γ}
    (hupd : ∀ g o, o.event? = none → upd g o = g) (g : γ) (out : List Obs) :
    out.foldl upd g = ((out.filterMap Obs.event?).map .queued).foldl upd g := by
  induction out generalizing g with
  | nil => rfl
  | cons o out ih =>
    rw [List.foldl_cons, ih]
    cases o with
    | queued e => rfl
    | _ => rw [hupd _ _ rfl]; rfl

/-- The queue after one more event: on a full queue the oldest one makes room, so that the
application always sees the latest. -/
def pushEvent (evbuf : List Event) (e : Event) : List Event :=
  (if evbuf.length ≥ eventCapacity then evbuf.tail else evbuf) ++ [e]

/-- The event queue, and the events the operation in progress has queued. -/
def Machine.events (m : Machine) : List Event × List Event :=
  (m.d.evbuf, m.out.filterMap Obs.event?)

section
variable (m : Machine) (fb : BcState → BcState) (fd : DriverState → DriverState)
  (ff : BufState → BufState) (o : Obs)

@[simp] theorem events_modBc : (m.modBc fb).events = m.events := rfl
@[simp] theorem events_modBuf : (m.modBuf ff).events = m.events := rfl

theorem events_modD (h : (fd m.d).evbuf = m.d.evbuf) : (m.modD fd).events = m.events :=
  congrArg (·, m.out.filterMap Obs.event?) h

theorem events_emit (h : o.event? = none) : (m.emit o).events = m.events := by
  simp [Machine.events, h]

theorem events_syscall (h : o.event? = none) : (m.syscall o).events = m.events := by
  simp [Machine.events, h]

end

/-- Queueing an event shows it and puts it last, and drops the oldest where there is no room. -/
theorem events_privQueueControlEvent (e : Event) (m : Machine) :
    (privQueueControlEvent e m).2.events = (pushEvent m.events.1 e, m.events.2 ++ [e]) :=
  Prod.ext rfl (by simp [Machine.events, privQueueControlEvent, Obs.event?])

/-! ### Functions that leave the queue alone -/

/-- Nothing but queueing and reading touches the queue. -/
theorem aside_events : Aside fun m m' => m'.events = m.events where
  refl _ := rfl
  trans h h' := h'.trans h
  modBc := events_modBc
  wake m _ := events_modD m _ rfl
  setWakeline m _ _ := events_syscall m _ rfl
  write m _ _ _ := events_syscall m _ rfl
  posted m _ _ := events_emit m _ rfl
  timing := trivial
  ssi _ _ := trivial
  callStatus m _ := events_emit m _ rfl
  modBuf := events_modBuf
  octets m _ hd := events_modD m _ hd.same.evbuf
  version _ := rfl
  configBufs m _ _ _ := (events_modD _ _ rfl).trans (events_syscall m _ rfl)
  features m _ _ := events_modD m _ rfl
  count _ _ := rfl

section
variable (k : Kernel) (m : Machine)

theorem events_privWrite (msg : Cmd) : (privWrite k msg m).2.events = m.events :=
  apart_privWrite aside_events.apart k m msg

theorem events_privInitializeAfterPeerReset :
    (privInitializeAfterPeerReset k m).events = m.events :=
  apart_privInitializeAfterPeerReset aside_events.apart k m

theorem events_bcHandleCommand (cmd : Cmd) :
    (bcHandleCommand k cmd m).2.2.events = m.events :=
  apart_bcHandleCommand aside_events.apart k m cmd

theorem events_handleCommandBackend (cmd : Cmd) (event : Event) :
    (handleCommandBackend k cmd event m).2.events = m.events :=
  apart_handleCommandBackend aside_events.apart k m cmd event

theorem events_handleInboundRxDataReceived (cmd : Cmd) :
    (handleInboundRxDataReceived cmd m).2.events = m.events :=
  aside_handleInboundRxDataReceived aside_events m cmd

/-- No operation but `cmtspeech_check_pending` and `cmtspeech_read_event` touches the
queue. -/
theorem Op.run_events (op : Op) (hw : ∀ cmd, op ≠ .recv cmd) (hr : op ≠ .readEvent) :
    (op.run k m).events = m.events := by
  refine aside_events.run k m op (fun cmd hop => absurd hop (hw cmd))
    (fun cmd hop => absurd hop (hw cmd)) (fun hop => absurd hop hr) ?_ ?_
  · intro _ _ m msg res
    exact events_syscall m _ rfl
  · intro area _
    exact events_modD m _ rfl

end

/-- Only words queue events: a call of the application is seen from its result. -/
theorem next_noEvent (m : Machine) (k : Kernel) {op : Op} (hw : ∀ cmd, op ≠ .recv cmd) :
    (nokiamodem.next m (k, op)).2.filterMap Obs.event? = [] := by
  by_cases hr : op = .readEvent
  · subst hr
    show ((readEvent m.begin).2.out.filterMap Obs.event?) = []
    rw [readEvent, privDequeueControlEvent]
    split <;> rfl
  · exact congrArg Prod.snd (Op.run_events k m.begin op hw hr)

end CmtSpeech
