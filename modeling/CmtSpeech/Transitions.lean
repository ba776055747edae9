import CmtSpeech.DeferredReply
import CmtSpeech.Inbound

/-!
# Classifying events

`cmtspeech_event_to_state_transition` tells an application what an event means.  It is an
ordered chain of tests on the states before and after and on the type of the message, and
the tests overlap, so which triples can be queued decides whether its answers are right.

* `StateTransition`, `eventToStateTransition` — the classifier.
* `Event.Sound` — what an application relies on.
* `Misclassified` — the words whose event is given a wrong class.

## Main result

* `classification_sound_iff`
-/

namespace CmtSpeech

open Protocol

/-! ### The classifier -/

/-- The values of `cmtspeech_event_to_state_transition`. -/
inductive StateTransition where
  | invalid
  | tr0NoChange
  | tr1Connected
  | tr2Disconnected
  | tr3DlStart
  | tr4DlulStop
  | tr5ParamUpdate
  | tr6TimingUpdate
  | tr7TimingUpdate
  | tr10Reset
  | tr11UlStop
  | tr12UlStart
  deriving DecidableEq, Repr

/-- `cmtspeech_event_to_state_transition`: by the states before and after, with the type of the
message in between. -/
def eventToStateTransition (cev : Event) : StateTransition :=
  if cev.prevState = .disconnected ∧ cev.state = .connected then .tr1Connected
  else if cev.prevState = .connected ∧ cev.state = .disconnected then .tr2Disconnected
  else if cev.prevState = .connected ∧ cev.state = .activeDl then .tr3DlStart
  else if (cev.prevState = .activeDl ∨ cev.prevState = .activeDlul) ∧ cev.state = .connected then
    .tr4DlulStop
  else if cev.prevState = .activeDl ∧ cev.state = .activeDl then .tr5ParamUpdate
  -- a timing update is not told apart from the answer to a request for one
  else if cev.msgType = timingConfigNtf then .tr6TimingUpdate
  else if cev.msgType = eventReset then .tr10Reset
  else if cev.prevState = .activeDlul ∧ cev.state = .activeDl then .tr11UlStop
  else if cev.prevState = .activeDl ∧ cev.state = .activeDlul then .tr12UlStart
  else .invalid

/-- What an application relies on when it classifies an event whose message took the
protocol state from `s` to `t`. -/
@[mk_iff] structure Event.Sound (e : Event) (s t : ProtoState) : Prop where
  reset : eventToStateTransition e = .tr10Reset ↔ e.msgType = eventReset
  ssi : eventToStateTransition e = .tr1Connected ∨ eventToStateTransition e = .tr2Disconnected →
    e.msgType = ssiConfigResp
  timing : eventToStateTransition e = .tr6TimingUpdate → e.prevState = e.state
  ulStart : s = .activeDl → t = .activeDlul → eventToStateTransition e = .tr12UlStart

/-! ### Events by their message -/

namespace Protocol

section
variable {e : Event} {type : ℕ} {msg : EventMsg} {s t : ProtoState}

/-- A reset event is taken for a disconnection in `CONNECTED`. -/
theorem Reports.sound_reset_iff (h : Reports e eventReset msg s .disconnected) :
    e.Sound s .disconnected ↔ s ≠ .connected := by
  obtain ⟨h₁, -, h₂, h₃⟩ := h
  cases s <;> simp [Event.sound_iff, eventToStateTransition, h₁, h₂, h₃]

/-- A timing event is sound unless it moves the state. -/
theorem Reports.sound_timing_iff (h : Reports e timingConfigNtf msg s t)
    (ht : t = if s = .activeDl then .activeDlul else s) :
    e.Sound s t ↔ s ≠ .activeDl := by
  obtain ⟨h₁, -, h₂, h₃⟩ := h
  subst ht
  cases s <;> simp [Event.sound_iff, eventToStateTransition, h₁, h₂, h₃]

/-- Any other event is sound if only an `SSI_CONFIG_RESP` connects and disconnects. -/
theorem Reports.sound_of_ne (h : Reports e type msg s t) (hr : type ≠ eventReset)
    (ht : type ≠ timingConfigNtf)
    (hs : type = ssiConfigResp ∨
      ¬ (s = .disconnected ∧ t = .connected) ∧ ¬ (s = .connected ∧ t = .disconnected)) :
    e.Sound s t := by
  obtain ⟨h₁, -, h₂, h₃⟩ := h
  rw [Event.sound_iff, eventToStateTransition, h₁, h₂, h₃, if_neg ht, if_neg hr]
  cases s <;> cases t <;> simp_all

end

/-! ### The moves of the messages -/

section
variable {k : Kernel} {v v' : View} {o : List Obs}

/-- An answer leaves the state, moves it as a successful reply does, or resets. -/
theorem SetupReply.moved (h : SetupReply k v o v') :
    v'.bc.protoState = v.bc.protoState ∨
      v'.bc.protoState = replied v.bc.protoState v.bc.privState ∨ v'.bc.protoState = .invalid := by
  cases h with
  | ok n hc hr =>
    cases hr with
    | full n hw hp => exact Or.inr (Or.inl hp.replied)
    | short n hw => exact Or.inl rfl
  | failed n hc hr hs =>
    have hr' := hr.protoState
    cases hs with
    | full n hw => exact Or.inr (Or.inr rfl)
    | _ => exact Or.inl hr'

/-- A speech configuration neither connects nor disconnects. -/
theorem SpeechConfig.not_ssi {req : SpeechConfigReq} (h : SpeechConfig k req v o v') :
    ¬ (v.bc.protoState = .disconnected ∧ v'.bc.protoState = .connected) ∧
      ¬ (v.bc.protoState = .connected ∧ v'.bc.protoState = .disconnected) := by
  cases h with
  | now hr =>
    have hm := hr.moved
    have hs : (speechRequested req v).bc.protoState = v.bc.protoState := rfl
    rw [hs] at hm
    generalize (speechRequested req v).bc.privState = q at hm
    generalize v.bc.protoState = s at hm ⊢
    generalize v'.bc.protoState = t at hm ⊢
    constructor <;> rintro ⟨rfl, rfl⟩ <;> cases q <;> simp [replied] at hm
  | defer =>
    constructor <;> rintro ⟨hs, ht⟩ <;> exact absurd (hs.symm.trans ht) (by decide)

end

end Protocol

/-! ### Runs -/

/-- A `TIMING_CONFIG_NTF`, by which legacy firmware starts the uplink besides. -/
def TimingConfigNtfWord (cmd : Cmd) : Prop :=
  msgGetDomain cmd = domainControl ∧ msgGetType cmd = timingConfigNtf

instance (cmd : Cmd) : Decidable (TimingConfigNtfWord cmd) := inferInstanceAs (Decidable (_ ∧ _))

/-- The words whose event is given a wrong class: a reset of a connection without speech,
and a timing notification by which a legacy modem starts the uplink. -/
def Misclassified (s : BcState) : Op → Prop
  | .checkPending true (some cmd) =>
    ResetWord cmd ∧ s.protoState = .connected ∨
      TimingConfigNtfWord cmd ∧ s.protoState = .activeDl
  | _ => False

section
variable {s : BcState} {cmd : Cmd}

theorem misclassified_of_reset (h : ResetWord cmd) :
    Misclassified s (.recv cmd) ↔ s.protoState = .connected := by
  have hn : ¬ TimingConfigNtfWord cmd := by
    rintro ⟨hd, ht⟩
    rcases h with ⟨-, ht' | ht'⟩ | ⟨hd', -⟩
    · exact absurd (ht.symm.trans ht') (by decide)
    · exact absurd (ht.symm.trans ht') (by decide)
    · exact absurd (hd.symm.trans hd') (by decide)
  simp [Misclassified, h, hn]

theorem misclassified_of_control (hd : msgGetDomain cmd = domainControl)
    (h₁ : msgGetType cmd ≠ resetConnReq) (h₂ : msgGetType cmd ≠ resetConnResp) :
    Misclassified s (.recv cmd) ↔
      msgGetType cmd = timingConfigNtf ∧ s.protoState = .activeDl := by
  simp [Misclassified, ResetWord, TimingConfigNtfWord, hd, h₁, h₂]

theorem not_misclassified_of_not_eventWord (h : ¬ EventWord cmd) :
    ¬ Misclassified s (.recv cmd) := by
  rintro (⟨⟨hd, ht⟩ | ⟨hd, ht⟩, -⟩ | ⟨⟨hd, ht⟩, -⟩)
  · rcases ht with ht | ht <;> exact h (Or.inl ⟨hd, by rw [ht]; decide, by rw [ht]; decide⟩)
  · exact h (Or.inr ⟨hd, ht⟩)
  · exact h (Or.inl ⟨hd, by rw [ht]; decide, by rw [ht]; decide⟩)

end

/-- The event of an accepted control message is sound unless the message is one of the two. -/
theorem Protocol.Control.sound_iff {k : Kernel} {cmd : Cmd} {v v' : View} {o : List Obs}
    {e : Event} {msg : EventMsg} (h : Control k cmd v o v')
    (hd : msgGetDomain cmd = domainControl)
    (he : Reports e (eventType cmd) msg v.bc.protoState v'.bc.protoState) :
    e.Sound v.bc.protoState v'.bc.protoState ↔ ¬ Misclassified v.bc (.recv cmd) := by
  -- Apart from the resets the type of the event is that of the message.
  have hctl (ht : msgGetType cmd ≠ resetConnReq ∧ msgGetType cmd ≠ resetConnResp) :
      eventType cmd = msgGetType cmd ∧ (Misclassified v.bc (.recv cmd) ↔
        msgGetType cmd = timingConfigNtf ∧ v.bc.protoState = .activeDl) :=
    ⟨if_neg (not_or.mpr ht), misclassified_of_control hd ht.1 ht.2⟩
  have hreset (ht : msgGetType cmd = resetConnReq ∨ msgGetType cmd = resetConnResp)
      (hs : v'.bc.protoState = .disconnected) :
      e.Sound v.bc.protoState v'.bc.protoState ↔ ¬ Misclassified v.bc (.recv cmd) := by
    rw [misclassified_of_reset (Or.inl ⟨hd, ht⟩)]
    rw [eventType, if_pos ht] at he
    rw [hs] at he ⊢
    exact he.sound_reset_iff
  cases h with
  | speechConfig ht h =>
    obtain ⟨hty, hm⟩ := hctl (by rw [ht]; decide)
    rw [hty, ht] at he
    rw [ht] at hm
    exact iff_of_true (he.sound_of_ne (by decide) (by decide) (Or.inr h.not_ssi)) (by simp [hm])
  | uplink ht =>
    obtain ⟨hty, hm⟩ := hctl (by rw [ht]; decide)
    rw [hty, ht] at he
    rw [ht] at hm
    refine iff_of_true (he.sound_of_ne (by decide) (by decide) (Or.inr ?_)) (by simp [hm])
    by_cases hs : v.bc.protoState = .activeDl
    · simp [hs]
    · rw [View.withBc_bc, if_neg hs]
      constructor <;> rintro ⟨hs, ht⟩ <;> exact absurd (hs.symm.trans ht) (by decide)
  | timing ht =>
    obtain ⟨hty, hm⟩ := hctl (by rw [ht]; decide)
    rw [hty, ht] at he
    rw [hm, he.sound_timing_iff]
    · simp [ht]
    · obtain ⟨hs, heq⟩ | ⟨hs, hp, heq⟩ | ⟨hs, heq⟩ := bcHandleTimingConfigNtf_cases v.bc <;>
        simp [heq, hs]
  | ssiResp ht h =>
    obtain ⟨hty, hm⟩ := hctl (by rw [ht]; decide)
    rw [hty, ht] at he
    rw [ht] at hm
    exact iff_of_true (he.sound_of_ne (by decide) (by decide) (Or.inl rfl)) (by simp [hm])
  | resetReq ht h => exact hreset (Or.inl ht) rfl
  | resetResp ht hp => exact hreset (Or.inr ht) rfl
  | resetRespConnect ht hp h => exact hreset (Or.inr ht) h.protoState

/-- The event of a word is sound unless the word is one of the two. -/
theorem RecvEvents.sound_iff {k : Kernel} {cmd : Cmd} {v v' : View} {es : List Event}
    (h : RecvEvents k cmd v v' es) :
    (∀ e ∈ es, e.Sound v.bc.protoState v'.bc.protoState) ↔ ¬ Misclassified v.bc (.recv cmd) := by
  cases h with
  | control hd hu ht hc e tstamp he => simpa using hc.sound_iff hd he
  | csError hd ht e he hv =>
    subst hv
    have hs : (afterPeerReset v).bc.protoState = .disconnected := rfl
    rw [hs]
    simpa [misclassified_of_reset (Or.inr ⟨hd, ht⟩)] using he.sound_reset_iff
  | silent hw hs => simpa using not_misclassified_of_not_eventWord hw

/-- **Classification is sound** for every event of a run, if and only if no word is
misclassified. -/
theorem classification_sound_iff (m : Machine) (is : List Step) :
    nokiamodem.Along (fun m i => ∀ e, .queued e ∈ (nokiamodem.next m i).2 →
        e.Sound m.bcstate.protoState (nokiamodem.next m i).1.bcstate.protoState) m is ↔
      nokiamodem.Along (fun m i => ¬ Misclassified m.bcstate i.2) m is := by
  refine nokiamodem.along_congr ?_ m is
  rintro m ⟨k, op⟩
  simp only [queued_mem_iff]
  by_cases hop : ∃ cmd, op = .recv cmd
  · obtain ⟨cmd, rfl⟩ := hop
    obtain ⟨es, hes, -, h⟩ := next_recvEvents m k cmd
    rw [hes]
    exact h.sound_iff
  · rw [next_noEvent m k (not_exists.mp hop)]
    refine iff_of_true (by simp) ?_
    intro hm
    match op, hm with
    | .checkPending true (some cmd), _ => exact hop ⟨cmd, rfl⟩

/-- The modem resets a connection without speech. -/
def resetConnectedRun : List Step :=
  [(.accepting, .stateChangeCallStatus true), (.accepting, .recv (msgEncodeSsiConfigResp 1 0)),
    (.accepting, .recv msgEncodeResetConnReq)]

/-- Its event: a reset that has ended a connection, which looks like an orderly end of it. -/
def resetConnectedEvent : Event where
  state := .disconnected
  prevState := .connected
  msgType := eventReset
  msg := .resetDone 1

/-- Legacy firmware starts the uplink: a timing notification comes, and no `UPLINK_CONFIG_NTF`
before it. -/
def legacyUplinkRun : List Step :=
  [(.accepting, .stateChangeCallStatus true), (.accepting, .recv (msgEncodeSsiConfigResp 1 0)),
    (.accepting, .recv (speechConfigReqMsg true)),
    (.accepting, .recv (msgEncodeTimingConfigNtf 0 0))]

/-- Its event: the uplink becomes active, with the type of the notification. -/
def legacyUplinkEvent : Event where
  state := .activeDlul
  prevState := .activeDl
  msgType := timingConfigNtf
  msg := .timingConfigNtf 0 0 ⟨0, 0⟩

/-- The reset that ends the first run is classified as a disconnection, the start of the
uplink in the second one as a timing update. -/
theorem classification_unsound :
    nokiamodem.init Machine.fresh ∧
      (.queued resetConnectedEvent ∈ nokiamodem.trace Machine.fresh resetConnectedRun ∧
        eventToStateTransition resetConnectedEvent = .tr2Disconnected) ∧
      (.queued legacyUplinkEvent ∈ nokiamodem.trace Machine.fresh legacyUplinkRun ∧
        eventToStateTransition legacyUplinkEvent = .tr6TimingUpdate) ∧
      ¬ nokiamodem.Along (fun m i => ∀ e, .queued e ∈ (nokiamodem.next m i).2 →
        e.Sound m.bcstate.protoState (nokiamodem.next m i).1.bcstate.protoState)
        Machine.fresh resetConnectedRun := by
  refine ⟨init_fresh, ⟨by decide, by decide⟩, ⟨by decide, by decide⟩, ?_⟩
  intro h
  have hsound := h.2.2.1 resetConnectedEvent (by decide)
  exact absurd (hsound.reset.mpr rfl) (by decide)

end CmtSpeech
