import CmtSpeech.EventQueue
import CmtSpeech.Refinement

/-!
# Inbound words are processed all or nothing

Type and domain of a word are decoded by the backend and again by the common code.  The
two agree on which words are accepted; every other word leaves no trace.

* `AcceptedWord` — the words that are accepted.
* `InboundResult` — what `handle_inbound_control_message` can come to.
* `RecvEvents` — what a word does to the protocol, with the events it queues.

## Main results

* `inbound_allOrNothing`
* `next_recvEvents` — every word is read in one of the ways of `RecvEvents`.
-/

namespace CmtSpeech

/-- The words that are accepted.  All others leave the library as it was, and the call that read
them says that there is nothing. -/
def AcceptedWord (cmd : Cmd) : Prop :=
  msgGetDomain cmd = domainControl ∧
      (msgGetType cmd = resetConnReq ∨ msgGetType cmd = resetConnResp ∨
        msgGetType cmd = speechConfigReq ∨ msgGetType cmd = timingConfigNtf ∨
        msgGetType cmd = ssiConfigResp ∨ msgGetType cmd = uplinkConfigNtf ∨
        msgGetType cmd = testRampPing) ∨
    msgGetDomain cmd = domainInternal ∧
      (msgGetType cmd = csRxDataReceived ∨ msgGetType cmd = csError)

/-- The common code accepts the same control messages. -/
theorem AcceptedWord.not_unknownType {cmd : Cmd} (h : AcceptedWord cmd)
    (hd : msgGetDomain cmd = domainControl) : ¬ UnknownType (msgGetType cmd) := by
  rcases h with ⟨-, ht⟩ | ⟨hi, -⟩
  · rcases ht with ht | ht | ht | ht | ht | ht | ht <;> rw [ht] <;> decide
  · exact absurd (hd.symm.trans hi) (by decide)

theorem acceptedWord_of_known {cmd : Cmd} (hd : msgGetDomain cmd = domainControl)
    (hu : ¬ UnknownType (msgGetType cmd)) : AcceptedWord cmd := by
  refine Or.inl ⟨hd, ?_⟩
  rcases knownType_cases hu with h | h | h | h | h | h | h <;> simp [h]

/-- What a word comes to in the state `m`: the result, the flags raised and the state
after it. -/
inductive InboundResult (cmd : Cmd) (m : Machine) : ℤ × BitVec 4 × Machine → Prop
  | rejected (h : ¬ AcceptedWord cmd) (res : ℤ) (hr : res ≠ 1) : InboundResult cmd m (res, 0, m)
  | ramp (h : AcceptedWord cmd) {m' : Machine} (he : m'.events = m.events) :
    InboundResult cmd m (0, 0, m')
  | data (h : AcceptedWord cmd) {flags : BitVec 4} {m' : Machine}
      (hc : flags &&& eventControl = 0) (hd : flags &&& eventDlData ≠ 0)
      (he : m'.events = m.events) : InboundResult cmd m (1, flags, m')
  | event (h : AcceptedWord cmd) (e : Event) {m' : Machine}
      (he : m'.events = (pushEvent m.events.1 e, m.events.2 ++ [e])) :
    InboundResult cmd m (1, eventControl, m')

/-! ### The flags of the data path -/

/-- An overrun is reported beside the data, not instead of it. -/
theorem markXrun_flags (c : Machine → Bool) (slot : Fin dlSlots) {r : BitVec 4 × Machine}
    (h : r.1 &&& eventControl = 0 ∧ r.1 &&& eventDlData ≠ 0) :
    (markXrun c slot r).1 &&& eventControl = 0 ∧ (markXrun c slot r).1 &&& eventDlData ≠ 0 := by
  have hx : ∀ f : BitVec 4, f &&& eventControl = 0 ∧ f &&& eventDlData ≠ 0 →
      (f ||| eventXrun) &&& eventControl = 0 ∧ (f ||| eventXrun) &&& eventDlData ≠ 0 := by
    decide
  unfold markXrun
  split
  · exact hx r.1 h
  · exact h

theorem handleInboundRxDataReceived_flags (cmd : Cmd) (m : Machine) :
    (handleInboundRxDataReceived cmd m).1 &&& eventControl = 0 ∧
      (handleInboundRxDataReceived cmd m).1 &&& eventDlData ≠ 0 := by
  have h : eventDlData &&& eventControl = 0 ∧ eventDlData &&& eventDlData ≠ 0 := by decide
  unfold handleInboundRxDataReceived
  exact markXrun_flags _ _ (markXrun_flags _ _ (markXrun_flags _ _ h))

/-! ### Words -/

/-- Every word comes to one of the results, in every state and whatever the kernel answers. -/
theorem handleInboundControlMessage_result (k : Kernel) (cmd : Cmd) (m : Machine) :
    InboundResult cmd m (handleInboundControlMessage k cmd m) := by
  unfold handleInboundControlMessage
  dsimp only
  split
  · next hd =>
    by_cases hu : UnknownType (msgGetType cmd)
    · rw [bcHandleCommand_unknown k m hu, if_pos (show (-1 : ℤ) ≠ 0 by decide)]
      exact .rejected (fun h => h.not_unknownType hd hu) _ (by decide)
    · have ha := acceptedWord_of_known hd hu
      have he := (events_handleCommandBackend k (bcHandleCommand k cmd m).2.2 cmd
        (bcHandleCommand k cmd m).2.1).trans (events_bcHandleCommand k m cmd)
      -- The one message of the modem that is handled without an event.
      by_cases hr : msgGetType cmd = testRampPing
      · rw [if_neg (not_not.mpr hr)]
        rw [bcHandleCommand_testRampPing k m hr] at he ⊢
        rw [if_neg (show ¬ (0 : ℤ) ≠ 0 by decide)]
        exact .ramp ha he
      · rw [if_neg (not_not.mpr (control_event k hu hr m).1), if_pos hr]
        generalize handleCommandBackend k cmd (bcHandleCommand k cmd m).2.1
          (bcHandleCommand k cmd m).2.2 = r at he ⊢
        have hq := events_privQueueControlEvent { r.1 with state := r.2.bcstate.protoState } r.2
        rw [he] at hq
        exact .event ha _ hq
  · next hd =>
    split
    · next hi =>
      split
      · next ht =>
        obtain ⟨hc, hdl⟩ := handleInboundRxDataReceived_flags cmd m
        exact .data (Or.inr ⟨hi, Or.inl ht⟩) hc hdl (events_handleInboundRxDataReceived m cmd)
      · next ht =>
        split
        · next hte =>
          have he := events_privQueueControlEvent
            { state := (privInitializeAfterPeerReset k m).bcstate.protoState
              prevState := m.bcstate.protoState, msgType := eventReset, msg := .resetDone 0 }
            (privInitializeAfterPeerReset k m)
          rw [events_privInitializeAfterPeerReset] at he
          exact .event (Or.inr ⟨hi, Or.inr hte⟩) _ he
        · next hte =>
          refine .rejected ?_ _ (by decide)
          rintro (⟨hd', -⟩ | ⟨-, ht' | ht'⟩)
          · exact hd hd'
          · exact ht ht'
          · exact hte ht'
    · next hi =>
      refine .rejected ?_ _ (by decide)
      rintro (⟨hd', -⟩ | ⟨hi', -⟩)
      · exact hd hd'
      · exact hi hi'

/-! ### The main result -/

/-- **A word is processed all or nothing.**  A word that is not accepted leaves no trace
but the read itself; `cmtspeech_check_pending` returns 1 exactly when it raises a flag; and
the control flag stands for exactly one queued event. -/
theorem inbound_allOrNothing (m : Machine) (k : Kernel) (cmd : Cmd) :
    (¬ AcceptedWord cmd →
      nokiamodem.next m (k, .recv cmd) = (m.begin.emit (.recv cmd), [.recv cmd])) ∧
    ((checkPending k true (some cmd) m.begin).1 = 1 ↔
      (checkPending k true (some cmd) m.begin).2.1 ≠ 0) ∧
    ((checkPending k true (some cmd) m.begin).2.1 &&& eventControl ≠ 0 →
      ∃ e, (nokiamodem.next m (k, .recv cmd)).2.filterMap Obs.event? = [e] ∧
        (nokiamodem.next m (k, .recv cmd)).1.d.evbuf = pushEvent m.d.evbuf e) ∧
    ((checkPending k true (some cmd) m.begin).2.1 &&& eventControl = 0 →
      (nokiamodem.next m (k, .recv cmd)).2.filterMap Obs.event? = [] ∧
        (nokiamodem.next m (k, .recv cmd)).1.d.evbuf = m.d.evbuf) := by
  have hres := handleInboundControlMessage_result k cmd (m.begin.emit (.recv cmd))
  have hcp : checkPending k true (some cmd) m.begin =
      handleInboundControlMessage k cmd (m.begin.emit (.recv cmd)) := rfl
  have hnext : nokiamodem.next m (k, .recv cmd) =
      ((checkPending k true (some cmd) m.begin).2.2,
        (checkPending k true (some cmd) m.begin).2.2.out) := rfl
  rw [hnext, hcp]
  have hbegin : (m.begin.emit (.recv cmd)).events = (m.d.evbuf, []) := rfl
  -- What the handler has done is one of four things, and the claims are read off each.
  generalize handleInboundControlMessage k cmd (m.begin.emit (.recv cmd)) = r at hres ⊢
  cases hres with
  | rejected h res hr =>
    refine ⟨fun _ => rfl, by simp [hr], by simp, fun _ => ⟨rfl, rfl⟩⟩
  | ramp h he =>
    rw [hbegin] at he
    refine ⟨fun hn => absurd h hn, by simp, by simp, ?_⟩
    intro _
    exact ⟨congrArg Prod.snd he, congrArg Prod.fst he⟩
  | data h hc hd he =>
    rw [hbegin] at he
    refine ⟨fun hn => absurd h hn, ?_, fun hn => absurd hc hn, ?_⟩
    · refine iff_of_true rfl ?_
      rintro rfl
      exact hd rfl
    · intro _
      exact ⟨congrArg Prod.snd he, congrArg Prod.fst he⟩
  | event h e he =>
    rw [hbegin] at he
    have hctl : eventControl ≠ 0 := by decide
    have hself : eventControl &&& eventControl ≠ 0 := by decide
    refine ⟨fun hn => absurd h hn, iff_of_true rfl hctl, fun _ => ⟨e, ?_, ?_⟩,
      fun hz => absurd hz hself⟩
    · exact congrArg Prod.snd he
    · exact congrArg Prod.fst he

/-! ### The events of a word -/

open Protocol

/-- A word that queues an event is an accepted control message other than the test ramp, or
an error indication of the driver. -/
def EventWord (cmd : Cmd) : Prop :=
  msgGetDomain cmd = domainControl ∧ ¬ UnknownType (msgGetType cmd) ∧
      msgGetType cmd ≠ testRampPing ∨
    msgGetDomain cmd = domainInternal ∧ msgGetType cmd = csError

/-- What a word does to the protocol layer, and the events it queues: one event for a control
message or an error of the driver, and none for other words, which move no state. -/
inductive RecvEvents (k : Kernel) (cmd : Cmd) (v v' : View) : List Event → Prop
  | control (hd : msgGetDomain cmd = domainControl) (hu : ¬ UnknownType (msgGetType cmd))
      (ht : msgGetType cmd ≠ testRampPing) {o : List Obs} (hc : Control k cmd v o v') (e : Event)
      (tstamp : Timespec)
      (he : Reports e (eventType cmd) (eventMsg cmd tstamp) v.bc.protoState v'.bc.protoState) :
    RecvEvents k cmd v v' [e]
  | csError (hd : msgGetDomain cmd = domainInternal) (ht : msgGetType cmd = csError) (e : Event)
      (he : Reports e eventReset (.resetDone 0) v.bc.protoState .disconnected)
      (hv : v' = afterPeerReset v) : RecvEvents k cmd v v' [e]
  | silent (hw : ¬ EventWord cmd) (hs : v'.bc.protoState = v.bc.protoState) :
    RecvEvents k cmd v v' []

theorem Protocol.Control.known {k : Kernel} {cmd : Cmd} {v v' : View} {o : List Obs}
    (h : Control k cmd v o v') :
    ¬ UnknownType (msgGetType cmd) ∧ msgGetType cmd ≠ testRampPing := by
  cases h with
  | speechConfig ht h => rw [ht]; decide
  | uplink ht => rw [ht]; decide
  | timing ht => rw [ht]; decide
  | ssiResp ht h => rw [ht]; decide
  | resetReq ht h => rw [ht]; decide
  | resetResp ht hp => rw [ht]; decide
  | resetRespConnect ht hp h => rw [ht]; decide

/-- Events are visible to the protocol layer, so that they can be counted there. -/
theorem filterMap_event_visible (out : List Obs) :
    (out.filter Obs.visible).filterMap Obs.event? = out.filterMap Obs.event? := by
  induction out with
  | nil => rfl
  | cons o out ih =>
    rw [List.filter_cons]
    cases o <;> simp [Obs.visible, Obs.event?, List.filterMap_cons, ih]

/-- A word queues at most one event, and it goes to the end of the queue. -/
theorem next_events (m : Machine) (k : Kernel) (cmd : Cmd) :
    ∃ es : List Event, es.length ≤ 1 ∧
      (nokiamodem.next m (k, .recv cmd)).2.filterMap Obs.event? = es ∧
      (nokiamodem.next m (k, .recv cmd)).1.d.evbuf = es.foldl pushEvent m.d.evbuf := by
  have hres := handleInboundControlMessage_result k cmd (m.begin.emit (.recv cmd))
  have hnext : nokiamodem.next m (k, .recv cmd) =
      ((handleInboundControlMessage k cmd (m.begin.emit (.recv cmd))).2.2,
        (handleInboundControlMessage k cmd (m.begin.emit (.recv cmd))).2.2.out) := rfl
  have hbegin : (m.begin.emit (.recv cmd)).events = (m.d.evbuf, []) := rfl
  rw [hnext]
  generalize handleInboundControlMessage k cmd (m.begin.emit (.recv cmd)) = r at hres ⊢
  cases hres with
  | rejected h res hr => exact ⟨[], by simp, rfl, rfl⟩
  | ramp h he =>
    rw [hbegin] at he
    exact ⟨[], by simp, congrArg Prod.snd he, congrArg Prod.fst he⟩
  | data h hc hd he =>
    rw [hbegin] at he
    exact ⟨[], by simp, congrArg Prod.snd he, congrArg Prod.fst he⟩
  | event h e he =>
    rw [hbegin] at he
    exact ⟨[e], by simp, congrArg Prod.snd he, congrArg Prod.fst he⟩

/-- Every word is read in one of these ways, and its events go to the queue. -/
theorem next_recvEvents (m : Machine) (k : Kernel) (cmd : Cmd) :
    ∃ es, (nokiamodem.next m (k, .recv cmd)).2.filterMap Obs.event? = es ∧
      (nokiamodem.next m (k, .recv cmd)).1.d.evbuf = es.foldl pushEvent m.d.evbuf ∧
      RecvEvents k cmd m.view (nokiamodem.next m (k, .recv cmd)).1.view es := by
  obtain ⟨es, hlen, hes, hbuf⟩ := next_events m k cmd
  refine ⟨es, hes, hbuf, ?_⟩
  have hrecv : Recv k cmd m.view (nokiamodem.visible Obs.visible m (k, .recv cmd))
      (nokiamodem.next m (k, .recv cmd)).1.view :=
    (nokiamodem_refines m (k, .recv cmd)).recv_inv k
  rw [← filterMap_event_visible] at hes
  change (nokiamodem.visible Obs.visible m (k, .recv cmd)).filterMap Obs.event? = es at hes
  have hne : domainInternal ≠ domainControl := by decide
  generalize nokiamodem.visible Obs.visible m (k, .recv cmd) = o at hrecv hes
  generalize (nokiamodem.next m (k, .recv cmd)).1.view = v' at hrecv ⊢
  cases hrecv with
  | @control hd o₁ _ e h tstamp he =>
    -- the one event there is room for is the one queued at the end
    rw [List.filterMap_cons, List.filterMap_append] at hes
    change o₁.filterMap Obs.event? ++ [e] = es at hes
    have ho₁ : o₁.filterMap Obs.event? = [] := by
      rw [← hes, List.length_append, List.length_singleton] at hlen
      exact List.length_eq_zero_iff.mp (by omega)
    rw [← hes, ho₁]
    exact .control hd h.known.1 h.known.2 h e tstamp he
  | testRampNoBufs hd ht n hc =>
    refine hes ▸ .silent ?_ rfl
    rintro (⟨-, -, ht'⟩ | ⟨hd', -⟩)
    · exact ht' ht
    · exact hne (hd'.symm.trans hd)
  | testRamp hd ht h =>
    have hs := h.protoState
    have ho : es = [] := by
      rw [← hes]
      cases h <;> rfl
    refine ho ▸ .silent ?_ hs
    rintro (⟨-, -, ht'⟩ | ⟨hd', -⟩)
    · exact ht' ht
    · exact hne (hd'.symm.trans hd)
  | csError hd ht e he => exact hes ▸ .csError hd ht e he rfl
  | data hd ht =>
    refine hes ▸ .silent ?_ rfl
    rintro (⟨hd', -⟩ | ⟨-, ht'⟩)
    · exact hne (hd.symm.trans hd')
    · exact ht ht'
  | unknown h =>
    refine hes ▸ .silent ?_ rfl
    rintro (⟨hd', hu, -⟩ | ⟨hd', -⟩) <;> rcases h with ⟨hd, hu'⟩ | ⟨hc, hi⟩
    · exact hu hu'
    · exact hc hd'
    · exact hne (hd'.symm.trans hd)
    · exact hi hd'

end CmtSpeech
