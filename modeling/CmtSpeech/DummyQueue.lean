import CmtSpeech.DummyBackend
import CmtSpeech.Lib.BoundedFifo

/-!
# The event queue of the dummy backend

`pubbuf` is a circle of 64 messages, of which one stays open.  `cmtspeech_check_pending` stops
reading the pipe when it is full, but `cmtspeech_read_event` does not look whether it is empty.

* `Dummy.Queues` — the buffer holds a queue of messages.
* `Tally` — the control messages so far, and how many of them were taken and processed.
* `Fifo` — a call of `cmtspeech_read_event` processes the next control message, or does nothing.

## Main results

* `Dummy.Queues.checkPending`, `Dummy.Queues.readEvent`
* `dummyFifo_iff`
-/

namespace CmtSpeech

/-- How many messages `pubbuf` has room for; one stays open, so that a full buffer is not taken
for an empty one. -/
abbrev pubbufSlots : ℕ := salMsgBuffer / 4

/-- The control messages among `msgs`: the others wake the client up, and are not queued. -/
def controls (msgs : List Cmd) : List Cmd := msgs.filter fun msg => msgGetDomain msg = domainControl

/-! ### The buffer -/

namespace Dummy

/-- The buffer holds the queue `q`: its messages lie one after the other from the read index on,
around the end of the buffer, up to the write index. -/
structure Queues (d : Dummy) (q : List Cmd) : Prop where
  read_dvd : 4 ∣ d.pubbufRead
  cells : InCells (fun s => d.load (4 * s)) pubbufSlots (d.pubbufRead / 4) q
  write_eq : d.pubbufWrite = 4 * ((d.pubbufRead / 4 + q.length) % pubbufSlots)

variable {d d' : Dummy} {q : List Cmd}

/-- A step of an index is a step of the circle: the indices are octets, and a message takes four. -/
theorem index_next (s : ℕ) : (4 * s + 4) % salMsgBuffer = 4 * ((s + 1) % pubbufSlots) := by
  have hmul : 4 * s + 4 = 4 * (s + 1) := by omega
  have hsize : salMsgBuffer = 4 * pubbufSlots := by decide
  rw [hmul, hsize, Nat.mul_mod_mul_left]

/-- The message that is read last is the one that was stored at the place. -/
theorem load_store (d : Dummy) (p : ℕ) (msg : Cmd) : (d.store p msg).load p = msg := by
  simp [load, store, Cmd.octet]

theorem load_store_of_ne (d : Dummy) {s t : ℕ} (h : s ≠ t) (msg : Cmd) :
    (d.store (4 * t) msg).load (4 * s) = d.load (4 * s) := by
  have hne (o : ℕ) (ho : o < 4) : ¬ (4 * t ≤ 4 * s + o ∧ 4 * s + o < 4 * t + 4) := by omega
  have h₀ := hne 0 (by decide)
  rw [Nat.add_zero] at h₀
  unfold load store
  dsimp only
  rw [if_neg (hne 3 (by decide)), if_neg (hne 2 (by decide)), if_neg (hne 1 (by decide)),
    if_neg h₀]

namespace Queues

theorem read_eq (h : d.Queues q) : d.pubbufRead = 4 * (d.pubbufRead / 4) :=
  (Nat.mul_div_cancel' h.read_dvd).symm

/-- A backend that has been opened has an empty queue. -/
theorem opened (d : Dummy) : d.cmtspeechOpen.Queues [] := by
  refine ⟨Nat.dvd_zero 4, ?_, ?_⟩
  · show InCells _ pubbufSlots (0 / 4) []
    rw [Nat.zero_div]
    exact .nil (by decide) _
  · show 0 = 4 * ((0 / 4 + 0) % pubbufSlots)
    decide

/-- The buffer is empty when the indices are the same. -/
theorem empty_iff (h : d.Queues q) : d.pubbufRead = d.pubbufWrite ↔ q = [] := by
  rw [← h.cells.eq_nil_iff, h.write_eq]
  have hread := h.read_eq
  omega

/-- The buffer is full when all slots but one are in use. -/
theorem full_iff (h : d.Queues q) : d.Full ↔ q.length + 1 = pubbufSlots := by
  rw [← h.cells.full_iff, Full, h.write_eq, dataHeaderLen, index_next]
  have hread := h.read_eq
  omega

/-- The oldest message is read, at the index of the reader. -/
theorem front {msg : Cmd} (h : d.Queues (msg :: q)) : d.load d.pubbufRead = msg := by
  rw [h.read_eq]
  exact h.cells.cell_head

/-- Nothing but the buffer and its indices matters. -/
theorem congr (h : d.Queues q) (hbuf : d'.pubbuf = d.pubbuf) (hr : d'.pubbufRead = d.pubbufRead)
    (hw : d'.pubbufWrite = d.pubbufWrite) : d'.Queues q := by
  have hload : d'.load = d.load := by
    funext p
    rw [load, hbuf, load]
  refine ⟨?_, ?_, ?_⟩
  · rw [hr]
    exact h.read_dvd
  · rw [hr, hload]
    exact h.cells
  · rw [hw, hr]
    exact h.write_eq

/-- A message that is read without being queued: it lies at the index of the writer, where nothing
of the queue lies. -/
theorem store (h : d.Queues q) (msg : Cmd) : (d.store d.pubbufWrite msg).Queues q := by
  refine ⟨h.read_dvd, h.cells.keep ?_, h.write_eq⟩
  intro s _ hs
  rw [h.write_eq]
  exact load_store_of_ne d hs msg

/-- A message that is queued comes last, as long as there is room for it. -/
theorem push (h : d.Queues q) (hroom : ¬ d.Full) (msg : Cmd) :
    { d.store d.pubbufWrite msg with
      pubbufWrite := (d.pubbufWrite + dataHeaderLen) % salMsgBuffer }.Queues (q ++ [msg]) := by
  have hlt : q.length + 1 < pubbufSlots :=
    lt_of_le_of_ne h.cells.room (mt h.full_iff.mpr hroom)
  refine ⟨h.read_dvd, h.cells.push hlt ?_ ?_, ?_⟩
  · show (d.store d.pubbufWrite msg).load _ = msg
    rw [← h.write_eq]
    exact load_store d _ msg
  · intro s _ hs
    show (d.store d.pubbufWrite msg).load _ = _
    rw [h.write_eq]
    exact load_store_of_ne d hs msg
  · show (d.pubbufWrite + dataHeaderLen) % salMsgBuffer = 4 * ((d.pubbufRead / 4 + _) % _)
    rw [h.write_eq, dataHeaderLen, index_next, InCells.tail_push]

/-- A message that is taken makes the next one the oldest. -/
theorem pop {msg : Cmd} (h : d.Queues (msg :: q)) :
    { d with pubbufRead := (d.pubbufRead + 4) % salMsgBuffer }.Queues q := by
  have hread : (d.pubbufRead + 4) % salMsgBuffer =
      4 * ((d.pubbufRead / 4 + 1) % pubbufSlots) := by
    rw [← index_next, ← h.read_eq]
  have hdiv : (d.pubbufRead + 4) % salMsgBuffer / 4 = (d.pubbufRead / 4 + 1) % pubbufSlots := by
    rw [hread]
    exact Nat.mul_div_cancel_left _ (by decide)
  refine ⟨⟨_, hread⟩, ?_, ?_⟩
  · dsimp only
    rw [hdiv]
    exact h.cells.pop
  · dsimp only
    rw [hdiv, InCells.tail_pop]
    exact h.write_eq

end Queues

/-! ### Operations on the buffer -/

/-- `cmtspeech_check_pending` queues the control message it reads. -/
theorem Queues.checkPending (h : d.Queues q) (flags : Bool) :
    (d.checkPending flags).2.2.Queues (q ++ controls d.takes) ∧
      d.takes ++ (d.checkPending flags).2.2.controlPipe = d.controlPipe := by
  unfold Dummy.checkPending takes
  by_cases hfull : d.Full
  · rw [if_pos hfull, if_pos hfull]
    exact ⟨by rwa [controls, List.filter_nil, List.append_nil], rfl⟩
  · rw [if_neg hfull, if_neg hfull]
    cases hpipe : d.controlPipe with
    | nil => exact ⟨by rwa [List.take_nil, controls, List.filter_nil, List.append_nil], hpipe⟩
    | cons msg rest =>
      dsimp only [List.take]
      by_cases hc : msgGetDomain msg = domainControl
      · rw [if_pos hc, controls, List.filter_singleton, decide_eq_true hc]
        exact ⟨(h.push hfull msg).congr rfl rfl rfl, rfl⟩
      · rw [if_neg hc, controls, List.filter_singleton, decide_eq_false hc]
        have hkept : ({ d.store d.pubbufWrite msg with controlPipe := rest } : Dummy).Queues
            (q ++ []) := by
          rw [List.append_nil]
          exact (h.store msg).congr rfl rfl rfl
        split
        · exact ⟨hkept, rfl⟩
        · exact ⟨hkept, rfl⟩

/-- The common code fails on a message of unknown type only. -/
theorem bcHandleCommand_fst (res : ℤ) (msg : Cmd) (s : BcState) :
    (bcHandleCommand res msg s).1 = if UnknownType (msgGetType msg) then -1 else 0 := by
  by_cases hu : UnknownType (msgGetType msg)
  · unfold bcHandleCommand
    dsimp only
    rw [if_pos hu, if_neg (hu.ne (by decide)), if_neg (hu.ne (by decide)),
      if_neg (hu.ne (by decide)), if_neg (hu.ne (by decide)), if_neg (hu.ne (by decide)),
      if_neg (hu.ne (by decide)), if_neg (hu.ne (by decide))]
  · rw [if_neg hu]
    rcases knownType_cases hu with ht | ht | ht | ht | ht | ht | ht <;>
      simp [bcHandleCommand, ht]

section
variable (d : Dummy) (k : DummyKernel) (msg : Cmd)

/-- What processing a message does to the buffer and the pipe. -/
theorem process_exact :
    (d.process k msg).2.2.pubbuf = d.pubbuf ∧
      (d.process k msg).2.2.pubbufRead = d.pubbufRead ∧
      (d.process k msg).2.2.pubbufWrite = d.pubbufWrite ∧
      (d.process k msg).2.2.controlPipe = d.controlPipe ++
        emits k (bcHandleCommand k.threadWrite msg d.bcstate).2.1
          (bcHandleCommand k.threadWrite msg d.bcstate).2.2 := by
  unfold process
  dsimp only
  split
  · split
    · exact ⟨rfl, rfl, rfl, rfl⟩
    · exact ⟨rfl, rfl, rfl, rfl⟩
  · split
    · exact ⟨rfl, rfl, rfl, rfl⟩
    · exact ⟨rfl, rfl, rfl, rfl⟩

/-- `cmtspeech_read_event` moves on, whether there is a message or not. -/
theorem pubbufRead_readEvent :
    (d.readEvent k).2.2.pubbufRead = (d.pubbufRead + 4) % salMsgBuffer := by
  unfold readEvent
  dsimp only
  rw [(process_exact d k _).2.1]

end

/-- `cmtspeech_read_event` takes the oldest message. -/
theorem Queues.readEvent {msg : Cmd} (h : d.Queues (msg :: q)) (k : DummyKernel) :
    (d.readEvent k).2.2.Queues q := by
  obtain ⟨hbuf, hread, hwrite, -⟩ := process_exact d k (d.load d.pubbufRead)
  exact (h.congr hbuf hread hwrite).pop

end Dummy

/-! ### The history of the messages -/

/-- What is known of the control messages from the history: those that came into the pipe, how
many were taken from it, and how many were processed. -/
structure Tally where
  /-- The control messages that have come into the pipe, the oldest one first. -/
  stream : List Cmd
  /-- How many of them have been read from the pipe. -/
  taken : ℕ
  /-- How many messages `cmtspeech_read_event` has processed. -/
  processed : ℕ

def Tally.step (t : Tally) : DummyObs → Tally
  | .came msg => { t with stream := t.stream ++ controls [msg] }
  | .took msg => { t with taken := t.taken + (controls [msg]).length }
  | .processed _ _ => { t with processed := t.processed + 1 }

/-- The dummy backend with its history, which counts what came and what was taken. -/
abbrev dummyRun : Lts (Dummy × Tally) DummyOp DummyObs :=
  dummyBackend.withGhost ⟨[], 0, 0⟩ Tally.step

theorem controls_append (xs ys : List Cmd) : controls (xs ++ ys) = controls xs ++ controls ys :=
  List.filter_append ..

theorem Tally.foldl_came (t : Tally) (msgs : List Cmd) :
    (msgs.map .came).foldl Tally.step t = { t with stream := t.stream ++ controls msgs } := by
  induction msgs generalizing t with
  | nil => rw [controls, List.filter_nil, List.append_nil]; rfl
  | cons msg msgs ih =>
    rw [List.map_cons, List.foldl_cons, ih, ← List.singleton_append, controls_append,
      ← List.append_assoc]
    rfl

theorem Tally.foldl_took (t : Tally) (msgs : List Cmd) :
    (msgs.map .took).foldl Tally.step t =
      { t with taken := t.taken + (controls msgs).length } := by
  induction msgs generalizing t with
  | nil => rfl
  | cons msg msgs ih =>
    rw [List.map_cons, List.foldl_cons, ih, ← List.singleton_append, controls_append,
      List.length_append, ← Nat.add_assoc]
    rfl

/-- The stream is what has been processed, what is in the buffer and what is in the pipe, in this
order.  So nothing is lost, and nothing is heard twice. -/
structure Accounted (p : Dummy × Tally) (past q : List Cmd) : Prop where
  queues : p.1.Queues q
  stream_eq : p.2.stream = past ++ q ++ controls p.1.controlPipe
  taken_eq : p.2.taken = past.length + q.length
  processed_eq : p.2.processed = past.length

namespace Accounted

variable {p : Dummy × Tally} {past q : List Cmd}

theorem checkPending (h : Accounted p past q) (flags : Bool) :
    Accounted (dummyRun.next p (.checkPending flags)).1 past (q ++ controls p.1.takes) := by
  obtain ⟨hqueues, hpipe⟩ := h.queues.checkPending flags
  have htally : (dummyRun.next p (.checkPending flags)).1.2 =
      { p.2 with taken := p.2.taken + (controls p.1.takes).length } := p.2.foldl_took _
  refine ⟨hqueues, ?_, ?_, ?_⟩
  · rw [htally, h.stream_eq, ← hpipe, controls_append]
    simp only [List.append_assoc]
    rfl
  · rw [htally, h.taken_eq, List.length_append, Nat.add_assoc]
  · rw [htally]
    exact h.processed_eq

theorem elsewhere (h : Accounted p past q) (bcstate : BcState) (state : DummyState)
    (dlActive : Bool) (msgs : List Cmd) :
    Accounted (dummyRun.next p (.elsewhere bcstate state dlActive msgs)).1 past q := by
  have htally : (dummyRun.next p (.elsewhere bcstate state dlActive msgs)).1.2 =
      { p.2 with stream := p.2.stream ++ controls msgs } := p.2.foldl_came msgs
  refine ⟨h.queues.congr rfl rfl rfl, ?_, ?_, ?_⟩
  · show _ = past ++ q ++ controls (p.1.controlPipe ++ msgs)
    rw [htally, h.stream_eq, controls_append, List.append_assoc _ _ (controls msgs)]
  · rw [htally]
    exact h.taken_eq
  · rw [htally]
    exact h.processed_eq

theorem readEvent {msg : Cmd} (h : Accounted p past (msg :: q)) (k : DummyKernel) :
    Accounted (dummyRun.next p (.readEvent k)).1 (past ++ [msg]) q := by
  obtain ⟨-, -, -, hpipe⟩ := Dummy.process_exact p.1 k (p.1.load p.1.pubbufRead)
  have htally : (dummyRun.next p (.readEvent k)).1.2 =
      { p.2 with
        processed := p.2.processed + 1
        stream := p.2.stream ++ controls (Dummy.emits k
          (Dummy.bcHandleCommand k.threadWrite (p.1.load p.1.pubbufRead) p.1.bcstate).2.1
          (Dummy.bcHandleCommand k.threadWrite (p.1.load p.1.pubbufRead) p.1.bcstate).2.2) } :=
    Tally.foldl_came { p.2 with processed := p.2.processed + 1 } _
  refine ⟨h.queues.readEvent k, ?_, ?_, ?_⟩
  · show _ = past ++ [msg] ++ q ++ controls (p.1.process k _).2.2.controlPipe
    rw [htally, h.stream_eq, hpipe, controls_append]
    simp only [List.append_assoc, List.singleton_append]
  · rw [htally, h.taken_eq, List.length_append, List.length_cons, List.length_singleton]
    omega
  · rw [htally, h.processed_eq, List.length_append, List.length_singleton]

end Accounted

/-! ### First in, first out -/

/-- The control messages that have not been read from the pipe are in it, in the same order in
which they came. -/
def Kept (p : Dummy × Tally) : Prop := controls p.1.controlPipe = p.2.stream.drop p.2.taken

/-- A call of `cmtspeech_read_event` with `n` messages processed before processes the `n`-th
message, counted from zero, and succeeds unless the type of it is unknown; if that message has not
been queued yet, it fails and leaves the protocol state and the indices alone. -/
def ReadsNext (d : Dummy) (t : Tally) : DummyOp → Prop
  | .readEvent k =>
    if t.processed < t.taken then
      ∃ msg, t.stream[t.processed]? = some msg ∧
        .processed msg (d.readEvent k).1 ∈ (dummyBackend.next d (.readEvent k)).2 ∧
        ((d.readEvent k).1 = 0 ↔ ¬ UnknownType (msgGetType msg))
    else
      (d.readEvent k).1 ≠ 0 ∧ (d.readEvent k).2.2.bcstate = d.bcstate ∧
        (d.readEvent k).2.2.pubbufRead = d.pubbufRead ∧
        (d.readEvent k).2.2.pubbufWrite = d.pubbufWrite
  | _ => True

/-- A step of a queue of messages: what is not read stays in the pipe in order, and an event that
is read is the oldest message that was not. -/
def Fifo (p : Dummy × Tally) (op : DummyOp) : Prop :=
  Kept (dummyRun.next p op).1 ∧ ReadsNext p.1 p.2 op

/-- `cmtspeech_read_event` is called with nothing in the buffer.  The function does not look, and
processes what the memory holds there. -/
def ReadsEmpty (d : Dummy) : DummyOp → Prop
  | .readEvent _ => d.pubbufRead = d.pubbufWrite
  | _ => False

instance (d : Dummy) : (op : DummyOp) → Decidable (ReadsEmpty d op)
  | .readEvent _ => inferInstanceAs (Decidable (_ = _))
  | .checkPending _ => .isFalse id
  | .elsewhere .. => .isFalse id

namespace Accounted

variable {p : Dummy × Tally} {past q : List Cmd}

theorem kept (h : Accounted p past q) : Kept p := by
  have hlen : p.2.taken = (past ++ q).length := by rw [h.taken_eq, List.length_append]
  rw [Kept, h.stream_eq, hlen, List.drop_left]

/-- With a message in the buffer, it is the next one. -/
theorem readsNext {msg : Cmd} (h : Accounted p past (msg :: q)) (k : DummyKernel) :
    ReadsNext p.1 p.2 (.readEvent k) := by
  have hres : (p.1.readEvent k).1 = if UnknownType (msgGetType msg) then -1 else 0 := by
    rw [← Dummy.bcHandleCommand_fst k.threadWrite msg p.1.bcstate, ← h.queues.front]
    rfl
  have hlt : p.2.processed < p.2.taken := by
    rw [h.taken_eq, h.processed_eq, List.length_cons]
    omega
  rw [ReadsNext, if_pos hlt]
  refine ⟨msg, ?_, ?_, ?_⟩
  · rw [h.stream_eq, h.processed_eq]
    simp
  · rw [← h.queues.front]
    exact List.mem_cons_self
  · rw [hres]
    split
    · next hu => exact iff_of_false (by decide) (not_not.mpr hu)
    · next hu => exact iff_of_true rfl hu

/-- With nothing in the buffer, the index of reading moves nevertheless. -/
theorem not_readsNext (h : Accounted p past []) (k : DummyKernel) :
    ¬ ReadsNext p.1 p.2 (.readEvent k) := by
  have hlt : ¬ p.2.processed < p.2.taken := by
    rw [h.taken_eq, h.processed_eq, List.length_nil]
    omega
  rw [ReadsNext, if_neg hlt]
  rintro ⟨-, -, hread, -⟩
  rw [Dummy.pubbufRead_readEvent, show salMsgBuffer = 256 from rfl] at hread
  omega

/-- A step is one of a queue unless it reads from an empty buffer. -/
theorem fifo_iff (h : Accounted p past q) (op : DummyOp) :
    Fifo p op ↔ ¬ ReadsEmpty p.1 op := by
  cases op with
  | checkPending flags => exact iff_of_true ⟨(h.checkPending flags).kept, trivial⟩ id
  | elsewhere bcstate state dlActive msgs =>
    exact iff_of_true ⟨(h.elsewhere bcstate state dlActive msgs).kept, trivial⟩ id
  | readEvent k =>
    have hempty := h.queues.empty_iff
    cases q with
    | nil =>
      refine iff_of_false ?_ (not_not.mpr (hempty.mpr rfl))
      rintro ⟨-, hnext⟩
      exact h.not_readsNext k hnext
    | cons msg q =>
      refine iff_of_true ⟨(h.readEvent k).kept, h.readsNext k⟩ ?_
      intro he
      exact List.cons_ne_nil _ _ (hempty.mp he)

/-- A step that does not read from an empty buffer keeps the account. -/
theorem next (h : Accounted p past q) {op : DummyOp} (hop : ¬ ReadsEmpty p.1 op) :
    ∃ past' q', Accounted (dummyRun.next p op).1 past' q' := by
  cases op with
  | checkPending flags => exact ⟨past, _, h.checkPending flags⟩
  | elsewhere bcstate state dlActive msgs =>
    exact ⟨past, q, h.elsewhere bcstate state dlActive msgs⟩
  | readEvent k =>
    cases q with
    | nil => exact absurd (h.queues.empty_iff.mpr rfl) hop
    | cons msg q => exact ⟨past ++ [msg], q, h.readEvent k⟩

end Accounted

/-- **The buffer is a queue** in a run from `cmtspeech_open` on, whatever comes into the pipe, if
and only if `cmtspeech_read_event` is never called with nothing in the buffer. -/
theorem dummyFifo_iff {d : Dummy} (hd : dummyBackend.init d) (ops : List DummyOp) :
    dummyRun.Along Fifo (d, ⟨[], 0, 0⟩) ops ↔
      dummyBackend.Along (fun d op => ¬ ReadsEmpty d op) d ops := by
  obtain ⟨old, rfl⟩ := hd
  have hinit : Accounted (old.cmtspeechOpen, ⟨[], 0, 0⟩) [] [] := ⟨.opened old, rfl, rfl, rfl⟩
  have hrun : dummyRun.Along Fifo (old.cmtspeechOpen, ⟨[], 0, 0⟩) ops ↔
      dummyRun.Along (fun p op => ¬ ReadsEmpty p.1 op) (old.cmtspeechOpen, ⟨[], 0, 0⟩) ops := by
    refine dummyRun.along_iff_along (I := fun p => ∃ past q, Accounted p past q)
      (P := fun _ _ => True) ?_ ?_ ⟨[], [], hinit⟩ (dummyRun.along_true _ _)
    · rintro p op ⟨past, q, h⟩ _ hop
      exact h.next hop
    · rintro p op ⟨past, q, h⟩ _
      exact h.fifo_iff op
  exact hrun.trans (dummyBackend.withGhost_along _ _ (fun d op => ¬ ReadsEmpty d op) _ ops)

/-! ### A message and a wakeup -/

/-- A backend just opened, in memory that was zero. -/
def Dummy.fresh : Dummy :=
  cmtspeechOpen
    { bcstate := ⟨false, false, .disconnected, .inSync, 0, 0, 0⟩, state := .idle
      dlActive := false, controlPipe := [], pubbuf := fun _ => 0, pubbufWrite := 0
      pubbufRead := 0 }

/-- System calls that succeed: the writes to the thread and to the control pipe. -/
def DummyKernel.accepting : DummyKernel := ⟨ctrlLen, true⟩

/-- The wakeup for a downlink frame, which the thread writes after each frame. -/
def dlDataAvailMsg : Cmd := ⟨headOctet dummyDlDataAvail domainInternal, 0, 0, 0⟩

/-- In a call, a notification comes after a wakeup, and is processed. -/
def wokenRun : List DummyOp :=
  [.elsewhere { Dummy.fresh.bcstate with protoState := .activeDlul } .mediaFlowing true
      [dlDataAvailMsg, msgEncodeTimingConfigNtf 5 0],
    .checkPending true, .checkPending true, .readEvent .accepting]

theorem dummyFifo_woken : dummyRun.Along Fifo (Dummy.fresh, ⟨[], 0, 0⟩) wokenRun := by
  have hread : ¬ ReadsEmpty (dummyBackend.exec .fresh (wokenRun.take 3))
      (.readEvent .accepting) := by decide
  exact (dummyFifo_iff ⟨_, rfl⟩ wokenRun).mpr ⟨id, id, id, hread, trivial⟩

/-- In a call, an event is read after a wakeup alone: the wakeup is in the buffer, although it was
not queued, and its type is that of `RESET_CONN_RESP`. -/
def misreadRun : List DummyOp :=
  [.elsewhere { Dummy.fresh.bcstate with protoState := .activeDlul } .mediaFlowing true
      [dlDataAvailMsg],
    .checkPending true, .readEvent .accepting]

/-- The call is lost: a read of the empty buffer finds the wakeup, takes its type for that of a
reset, and goes to DISCONNECTED. -/
theorem not_dummyFifo_misread :
    dummyBackend.init .fresh ∧
      (dummyBackend.exec .fresh (misreadRun.take 2)).bcstate.protoState = .activeDlul ∧
      (dummyBackend.exec .fresh misreadRun).bcstate.protoState = .disconnected ∧
      ((dummyBackend.exec .fresh (misreadRun.take 2)).readEvent .accepting).1 = 0 ∧
      ¬ dummyRun.Along Fifo (Dummy.fresh, ⟨[], 0, 0⟩) misreadRun := by
  refine ⟨⟨_, rfl⟩, by decide, by decide, by decide, ?_⟩
  intro h
  obtain ⟨-, hlast⟩ := (dummyRun.along_iff_forall_split _ _ _).mp h (misreadRun.take 2)
    (.readEvent .accepting) [] rfl
  rw [ReadsNext, if_neg (by decide)] at hlast
  exact absurd hlast.1 (by decide)

end CmtSpeech
