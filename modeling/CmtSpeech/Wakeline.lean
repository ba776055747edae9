import CmtSpeech.History

/-!
# The wakeline is up when the modem must be able to talk

While there is a connection, and while one is being set up or another SSI configuration
waits, the call holds the wakeline.  While a `RESET_CONN_REQ` has not been answered, the
reset does.

Nothing of this depends on the frames of the data path: an uplink frame that the driver
refuses has no say in who holds the line.

* `Obs.Complete` — the write of a control message took all its octets.
* `BcState.NeedsLine` — the states in which the call holds the line.
* `View.LineUp`, `View.ResetUp` — the call holds it, the reset holds it.

## Main results

* `Protocol.ProtoStep.lineUp` — an operation whose control writes succeed keeps the line up.
* `Protocol.ProtoStep.resetUp` — the same for the reset.
* `wakeline_up`
-/

namespace CmtSpeech

open Protocol

/-! ### Control writes that succeed -/

/-- A write of a control message took the whole message.  Nothing is asked of the messages
that hand a frame to the driver: neither of those for uplink frames, which are observed apart,
nor of the one that answers a `TEST_RAMP_PING`. -/
def Obs.Complete : Obs → Prop
  | .write msg w => msgGetDomain msg = domainControl → w.res = ctrlLen
  | _ => True

instance : DecidablePred Obs.Complete
  | .write msg w => inferInstanceAs (Decidable (msgGetDomain msg = domainControl → w.res = ctrlLen))
  | .recv _ | .callStatus _ | .posted _ _ | .queued _ | .writeData _ _ | .setWakeline _ _
  | .configBufs _ _ => inferInstanceAs (Decidable True)

@[simp] theorem Obs.complete_write (msg : Cmd) (w : WriteRes) :
    (Obs.write msg w).Complete ↔ (msgGetDomain msg = domainControl → w.res = ctrlLen) := Iff.rfl

@[simp] theorem Obs.complete_posted (msg : Cmd) (s : BcState) : (Obs.posted msg s).Complete :=
  trivial

@[simp] theorem Obs.complete_recv (cmd : Cmd) : (Obs.recv cmd).Complete := trivial

@[simp] theorem Obs.complete_queued (e : Event) : (Obs.queued e).Complete := trivial

@[simp] theorem Obs.complete_callStatus (b : Bool) : (Obs.callStatus b).Complete := trivial

namespace Protocol

variable {k : Kernel} {v v' : View} {o : List Obs} {op : Op}

/-- What is observed of a message alone, out of what is observed of its word. -/
theorem complete_of_recv {cmd : Cmd} {e : Event}
    (ho : ∀ x ∈ Obs.recv cmd :: (o ++ [.queued e]), x.Complete) : ∀ x ∈ o, x.Complete :=
  fun x hx => ho x (List.mem_cons_of_mem _ (List.mem_append_left _ hx))

theorem Send.complete {msg : Cmd} (hk : k.WritesSucceed) (h : Send k msg v o v') :
    ∀ x ∈ o, x.Complete := by
  cases h <;> simp [hk _]

theorem SendTiming.complete (hk : k.WritesSucceed) (h : SendTiming k v o v') :
    ∀ x ∈ o, x.Complete := by
  cases h <;> simp [hk _]

theorem SendSsi.complete {b : Bool} (hk : k.WritesSucceed) (h : SendSsi k b v o v') :
    ∀ x ∈ o, x.Complete := by
  cases h <;> simp [hk _]

theorem SendReset.complete (hk : k.WritesSucceed) (h : SendReset k v o v') :
    ∀ x ∈ o, x.Complete := by
  cases h <;> simp [hk _]

theorem Posted.complete (hk : k.WritesSucceed) (h : Posted k v o v') : ∀ x ∈ o, x.Complete := by
  cases h with
  | start hs hp ht => exact ht.complete hk
  | close hs hp hc hq => exact hq.complete hk
  | _ => simp

theorem SetupReply.complete (hk : k.WritesSucceed) (h : SetupReply k v o v') :
    ∀ x ∈ o, x.Complete := by
  cases h with
  | ok n hc hr =>
    cases hr with
    | full n hw hp =>
      refine List.forall_mem_cons.mpr ⟨fun _ => hw, List.forall_mem_append.mpr ⟨hp.complete hk, ?_⟩⟩
      simp
    | short n hw => exact absurd (hk n) hw
  | failed n hc hr hs =>
    refine List.forall_mem_append.mpr ⟨?_, hs.complete hk⟩
    cases hr <;> simp [hk _]

theorem SpeechConfig.complete {req : SpeechConfigReq} (hk : k.WritesSucceed)
    (h : SpeechConfig k req v o v') : ∀ x ∈ o, x.Complete := by
  cases h with
  | now hr => exact hr.complete hk
  | defer => simp

theorem SsiResp.complete {resp : SsiConfigResp} (hk : k.WritesSucceed)
    (h : SsiResp k resp v o v') : ∀ x ∈ o, x.Complete := by
  cases h with
  | reconnect hr hp hc hq => exact hq.complete hk
  | redisconnect hr hp hc hq => exact hq.complete hk
  | errorPending hr hp hs => exact hs.complete hk
  | error hr h₁ h₂ hs => exact hs.complete hk
  | _ => simp

theorem Control.complete {cmd : Cmd} (hk : k.WritesSucceed) (h : Control k cmd v o v') :
    ∀ x ∈ o, x.Complete := by
  cases h with
  | speechConfig ht h => exact h.complete hk
  | ssiResp ht h => exact h.complete hk
  | resetReq ht h => exact h.complete hk
  | resetRespConnect ht hp h => exact h.complete hk
  | _ => simp

theorem CallStatus.complete {b : Bool} (hk : k.WritesSucceed) (h : CallStatus k b v o v') :
    ∀ x ∈ o, x.Complete := by
  cases h with
  | disconnect h₁ hs h => exact h.complete hk
  | connect hs h => exact h.complete hk
  | reset hs h => exact h.complete hk
  | crashed hs hc hi h => exact h.complete hk
  | _ => simp

theorem Recv.complete {cmd : Cmd} (hk : k.WritesSucceed) (h : Recv k cmd v o v') :
    ∀ x ∈ o, x.Complete := by
  cases h with
  | control hd e h tstamp he =>
    refine List.forall_mem_cons.mpr ⟨trivial, List.forall_mem_append.mpr ⟨h.complete hk, ?_⟩⟩
    simp
  | testRamp hd ht h => exact List.forall_mem_cons.mpr ⟨trivial, h.complete hk⟩
  | _ => simp

/-- Where the kernel completes every write, the control writes are among them. -/
theorem ProtoStep.complete (hk : k.WritesSucceed) (h : ProtoStep k op v o v') :
    ∀ x ∈ o, x.Complete := by
  cases h with
  | recv h => exact h.complete hk
  | callStatus h => exact List.forall_mem_cons.mpr ⟨trivial, h.complete hk⟩
  | error h => exact h.complete hk
  | sendTiming h => exact h.complete hk
  | sendSsi h => exact h.complete hk
  | testReq h => cases h <;> simp [hk _]
  | dlReleaseReply hp h => exact h.complete hk
  | ulReleaseReply hp h => exact h.complete hk
  | _ => simp

end Protocol

/-! ### The line of a call -/

/-- The states in which the modem must be able to talk to the call: with a connection, and while
one is set up, up to the answer. -/
def BcState.NeedsLine (s : BcState) : Prop :=
  s.isSsiConnectionEnabled = true ∨ s.privState = .connecting ∨ s.privState = .ssiConfigPend

theorem BcState.needsLine_iff (s : BcState) : s.NeedsLine ↔
    (s.protoState = .connected ∨ s.protoState = .activeDl ∨ s.protoState = .activeDlul) ∨
      s.privState = .connecting ∨ s.privState = .ssiConfigPend := by
  rw [BcState.NeedsLine, BcState.isSsiConnectionEnabled_iff]

/-- The call is a user of the wakeline: its bit is set in `wakeline_users`.  The line is up as
long as any bit is. -/
def CallRaised (wake : BitVec 3) : Prop := wake &&& wakelineCall ≠ 0

instance (wake : BitVec 3) : Decidable (CallRaised wake) := inferInstanceAs (Decidable (_ ≠ _))

theorem callRaised_call : ∀ wake : BitVec 3, CallRaised (wake ||| wakelineCall) := by decide

theorem CallRaised.or : ∀ {wake : BitVec 3} (id : BitVec 3), CallRaised wake →
    CallRaised (wake ||| id) := by decide

theorem CallRaised.reset : ∀ {wake : BitVec 3}, CallRaised wake →
    CallRaised (wake &&& ~~~wakelineReset) := by decide

theorem CallRaised.ne_zero : ∀ {wake : BitVec 3}, CallRaised wake → wake ≠ 0 := by decide

/-- The line is held where the call needs it.  This is the invariant of the call's own bit. -/
def View.LineUp (v : View) : Prop := v.bc.NeedsLine → CallRaised v.wake

/-- The line stays up, and is not needed in more states. -/
theorem View.LineUp.mono {v v' : View} (h : v.LineUp) (hn : v'.bc.NeedsLine → v.bc.NeedsLine)
    (hw : CallRaised v.wake → CallRaised v'.wake) : v'.LineUp := fun h' => hw (h (hn h'))

theorem View.lineUp_of_not {v : View} (h : ¬ v.bc.NeedsLine) : v.LineUp := fun h' => absurd h' h

namespace Protocol

variable {k : Kernel} {v v' : View} {o : List Obs} {op : Op}

theorem Send.lineUp {msg : Cmd} (h : Send k msg v o v') (hl : v.LineUp) : v'.LineUp := by
  cases h <;> exact hl

theorem SendTiming.lineUp (h : SendTiming k v o v') (hl : v.LineUp) : v'.LineUp := by
  cases h with
  | full n hw => exact hl.mono (by simp +contextual [BcState.needsLine_iff]) id
  | short n hw => exact hl

theorem SendSsi.lineUp_false (h : SendSsi k false v o v') (hl : v.LineUp) : v'.LineUp := by
  cases h with
  | refused hb hp => exact hl
  | full n hw hr => exact hl.mono (by simp +contextual [BcState.needsLine_iff]) id
  | short n hw hr => exact hl.mono (by simp +contextual [BcState.needsLine_iff]) id

/-- An activation raises the line for the call before it is written, and does not let go of it. -/
theorem SendSsi.callRaised (h : SendSsi k true v o v') : CallRaised v'.wake := by
  cases h with
  | refused hb hp => exact absurd hb (by decide)
  | full n hw hr => exact callRaised_call v.wake
  | short n hw hr => exact callRaised_call v.wake

theorem SendSsi.lineUp {b : Bool} (h : SendSsi k b v o v') (hl : v.LineUp) : v'.LineUp := by
  cases b with
  | false => exact h.lineUp_false hl
  | true => exact fun _ => h.callRaised

theorem SendReset.lineUp (h : SendReset k v o v') (hl : v.LineUp) : v'.LineUp := by
  cases h with
  | noLine n hn hv => exact hl.mono id (·.or _)
  | full n hw => exact View.lineUp_of_not (by simp [BcState.needsLine_iff])
  | short n hw hn => exact hl.mono id (·.or _)
  | failed n hw hn => exact hl.mono id fun h => (h.or _).reset

theorem Posted.lineUp (h : Posted k v o v') (hl : v.LineUp) : v'.LineUp := by
  cases h with
  | start hs hp ht =>
    exact ht.lineUp (hl.mono (by simp [BcState.needsLine_iff, hs]) id)
  | restart hs hp => exact hl.mono (by simp [BcState.needsLine_iff, hs]) id
  | stop hs hp hc =>
    rcases hs with hs | hs <;> exact hl.mono (by simp [BcState.needsLine_iff, hs]) id
  | close hs hp hc hq =>
    refine hq.lineUp_false (hl.mono ?_ id)
    rcases hs with hs | hs <;> simp [BcState.needsLine_iff, hs]
  | keep ha hd => exact hl

theorem SetupReply.lineUp (h : SetupReply k v o v') (hl : v.LineUp) : v'.LineUp := by
  cases h with
  | ok n hc hr =>
    cases hr with
    | full n hw hp => exact hp.lineUp hl
    | short n hw => exact hl
  | failed n hc hr hs =>
    refine hs.lineUp ?_
    cases hr with
    | full n hw => exact hl.mono (by simp +contextual [BcState.needsLine_iff]) id
    | short n hw => exact hl

theorem lineUp_speechRequested (req : SpeechConfigReq) (hl : v.LineUp) :
    (speechRequested req v).LineUp := by
  refine hl.mono ?_ id
  rcases speechPending_cases req with hp | hp <;>
    simp +contextual [speechRequested, BcState.needsLine_iff, hp]

theorem SpeechConfig.lineUp {req : SpeechConfigReq} (h : SpeechConfig k req v o v')
    (hl : v.LineUp) : v'.LineUp := by
  cases h with
  | now hr => exact hr.lineUp (lineUp_speechRequested req hl)
  | defer => exact lineUp_speechRequested req hl

/-- After a response nothing waits in `DISCONNECTED` any more, so the line may be let go. -/
theorem SsiResp.lineUp {resp : SsiConfigResp} (ho : ∀ x ∈ o, x.Complete)
    (h : SsiResp k resp v o v') (hl : v.LineUp) : v'.LineUp ∧ (v'.bc.protoState = .disconnected →
      v'.bc.privState ≠ .ssiConfigPend) := by
  -- the second part is what `priv_handle_ssi_config_resp` lets the line go on
  cases h with
  | connected hr hp =>
    exact ⟨hl.mono (by simp [BcState.needsLine_iff, hp]) id, by simp⟩
  | disconnected hr hp => exact ⟨View.lineUp_of_not (by simp [BcState.needsLine_iff]), by simp⟩
  | reconnect hr hp hc hq => exact ⟨fun _ => hq.callRaised, by simp⟩
  | redisconnect hr hp hc hq =>
    -- a postponed request has kept the line, and closing does not lower it
    have hup : CallRaised v.wake := hl (Or.inr (Or.inr hp))
    exact ⟨fun _ => by cases hq <;> exact hup, by simp⟩
  | ignored hr h₁ h₂ h₃ => exact ⟨hl, fun _ => h₃⟩
  | errorPending hr hp hs =>
    refine ⟨hs.lineUp (hl.mono (by simp +contextual [BcState.needsLine_iff]) id), ?_⟩
    intro _
    cases hs <;> simp
  | error hr h₁ h₂ hs =>
    refine ⟨hs.lineUp hl, ?_⟩
    cases hs with
    | noLine n hn hv =>
      -- the line is up when another request waits
      exact fun _ hp => (hl (Or.inr (Or.inr hp))).ne_zero hv
    | full n hw => simp
    | short n hw hn => exact absurd (ho _ List.mem_cons_self (by decide)) hw
    | failed n hw hn => exact absurd (ho _ List.mem_cons_self (by decide)) hw

theorem Control.lineUp {cmd : Cmd} (ho : ∀ x ∈ o, x.Complete) (h : Control k cmd v o v')
    (hl : v.LineUp) : v'.LineUp := by
  cases h with
  | speechConfig ht h => exact h.lineUp hl
  | uplink ht =>
    refine hl.mono ?_ id
    rw [View.withBc_bc]
    split
    · next hs => simp [BcState.needsLine_iff, hs]
    · exact id
  | timing ht =>
    refine hl.mono ?_ id
    rw [View.withBc_bc]
    obtain ⟨hs, heq⟩ | ⟨hs, hp, heq⟩ | ⟨hs, heq⟩ := bcHandleTimingConfigNtf_cases v.bc
    · simp [BcState.needsLine_iff, hs]
    · rw [heq]
      simp +contextual [BcState.needsLine_iff]
    · rw [heq]
      exact id
  -- The line is let go only where nothing needs it: DISCONNECTED, with no connection asked for.
  | ssiResp ht h =>
    obtain ⟨hl', hp⟩ := h.lineUp ho hl
    unfold afterSsiResp
    split
    · next hs =>
      exact View.lineUp_of_not (by simp [BcState.needsLine_iff, hs.1, hs.2, hp hs.1])
    · exact hl'
  | resetReq ht h => exact View.lineUp_of_not (by simp [afterPeerReset, BcState.needsLine_iff])
  | resetResp ht hp => exact View.lineUp_of_not (by simp [BcState.needsLine_iff])
  -- The new request has raised the line for the call before the reset lets go of it.
  | resetRespConnect ht hp h => exact fun _ => h.callRaised.reset

theorem Recv.lineUp {cmd : Cmd} (ho : ∀ x ∈ o, x.Complete) (h : Recv k cmd v o v')
    (hl : v.LineUp) : v'.LineUp := by
  have hramp : { v.acquire wakelineTestRampPing with
      slotSize := testSlotSize (msgDecodeTestRampPing cmd).ramplen }.LineUp :=
    hl.mono id (·.or _)
  cases h with
  | control hd e h tstamp he => exact h.lineUp (complete_of_recv ho) hl
  | testRampNoBufs hd ht n hc => exact hramp
  | testRamp hd ht h => exact h.lineUp hramp
  | csError hd ht e he => exact View.lineUp_of_not (by simp [afterPeerReset, BcState.needsLine_iff])
  | _ => exact hl

theorem CallStatus.lineUp {b : Bool} (h : CallStatus k b v o v') (hl : v.LineUp) : v'.LineUp := by
  cases h with
  | blocked hp => exact hl
  | disconnect h₁ hs h => exact h.lineUp hl
  | postpone hs hp => exact hl.mono (by simp [BcState.needsLine_iff, hp]) id
  | noCall h₁ hs h₂ => exact hl
  | connect hs h => exact h.lineUp hl
  | reconnect hs hp => exact hl.mono (by simp [BcState.needsLine_iff, hs]) id
  | reset hs h =>
    exact (h.lineUp hl).mono (by simp +contextual [BcState.needsLine_iff]) id
  | crashed hs hc hi h => exact fun _ => h.callRaised
  | already h => exact hl

theorem TestReq.lineUp {msg : Cmd} {ramplen : BitVec 8} (h : TestReq k msg ramplen v o v')
    (hl : v.LineUp) : v'.LineUp := by
  cases h with
  | noBufs n hc => exact hl
  | full hs n hw => exact View.lineUp_of_not (by simp [BcState.needsLine_iff])
  | _ => exact hl.mono id (·.or _)

/-- **An operation whose control writes succeed keeps the line up.** -/
theorem ProtoStep.lineUp (ho : ∀ x ∈ o, x.Complete) (h : ProtoStep k op v o v')
    (hl : v.LineUp) : v'.LineUp := by
  cases h with
  | recv h => exact h.lineUp ho hl
  | callStatus h => exact h.lineUp hl
  | error h => exact h.lineUp hl
  | sendTiming h => exact h.lineUp hl
  | sendSsi h => exact h.lineUp hl
  | testReq h => exact h.lineUp hl
  | dlAcquireTest hs =>
    exact View.lineUp_of_not (by simp [bcTestSequenceReceived, BcState.needsLine_iff])
  | dlReleaseReply hp h => exact h.lineUp hl
  | ulReleaseReply hp h => exact h.lineUp hl
  | _ => exact hl

end Protocol

/-! ### The line of a reset -/

/-- The reset is a user of the wakeline: its bit is set in `wakeline_users`. -/
def ResetRaised (wake : BitVec 3) : Prop := wake &&& wakelineReset ≠ 0

instance (wake : BitVec 3) : Decidable (ResetRaised wake) := inferInstanceAs (Decidable (_ ≠ _))

theorem resetRaised_reset : ∀ wake : BitVec 3, ResetRaised (wake ||| wakelineReset) := by decide

theorem ResetRaised.or : ∀ {wake : BitVec 3} (id : BitVec 3), ResetRaised wake →
    ResetRaised (wake ||| id) := by decide

theorem ResetRaised.call : ∀ {wake : BitVec 3}, ResetRaised wake →
    ResetRaised (wake &&& ~~~wakelineCall) := by decide

/-- The line is held while a reset is under way, so that the modem can answer it. -/
def View.ResetUp (v : View) : Prop := v.bc.protoState = .invalid → ResetRaised v.wake

theorem View.ResetUp.mono {v v' : View} (h : v.ResetUp)
    (hs : v'.bc.protoState = v.bc.protoState) (hw : ResetRaised v.wake → ResetRaised v'.wake) :
    v'.ResetUp := fun h' => hw (h (hs ▸ h'))

theorem View.resetUp_of_ne {v : View} (h : v.bc.protoState ≠ .invalid) : v.ResetUp :=
  fun h' => absurd h' h

namespace Protocol

variable {k : Kernel} {v v' : View} {o : List Obs} {op : Op}

theorem Send.resetUp {msg : Cmd} (h : Send k msg v o v') (hu : v.ResetUp) : v'.ResetUp := by
  cases h <;> exact hu

theorem SendTiming.resetUp (h : SendTiming k v o v') (hu : v.ResetUp) : v'.ResetUp := by
  cases h <;> exact hu

/-- An activation may raise the line, and nothing in it lowers the line. -/
theorem SendSsi.resetRaised {b : Bool} (h : SendSsi k b v o v') (hu : ResetRaised v.wake) :
    ResetRaised v'.wake := by
  have ha : ResetRaised (ssiAcquire b v).wake := by
    cases b with
    | false => exact hu
    | true => exact hu.or _
  cases h with
  | refused hb hp => exact hu
  | full n hw hr => exact ha
  | short n hw hr => exact ha

theorem SendSsi.resetUp {b : Bool} (h : SendSsi k b v o v') (hu : v.ResetUp) : v'.ResetUp :=
  hu.mono h.protoState h.resetRaised

/-- A request for a reset takes the line before it is sent. -/
theorem SendReset.resetUp (ho : ∀ x ∈ o, x.Complete) (h : SendReset k v o v')
    (hu : v.ResetUp) : v'.ResetUp := by
  cases h with
  | noLine n hn hv => exact hu.mono rfl (·.or _)
  | full n hw => exact fun _ => resetRaised_reset v.wake
  | short n hw hn => exact absurd (ho _ List.mem_cons_self (by decide)) hw
  | failed n hw hn => exact absurd (ho _ List.mem_cons_self (by decide)) hw

theorem Posted.resetUp (h : Posted k v o v') (hu : v.ResetUp) : v'.ResetUp := by
  cases h with
  | start hs hp ht => exact View.resetUp_of_ne (by simp [ht.protoState])
  | close hs hp hc hq => exact View.resetUp_of_ne (by simp [hq.protoState])
  | restart hs hp => exact View.resetUp_of_ne (by simp)
  | stop hs hp hc => exact View.resetUp_of_ne (by simp)
  | keep ha hd => exact hu

theorem SetupReply.resetUp (ho : ∀ x ∈ o, x.Complete) (h : SetupReply k v o v')
    (hu : v.ResetUp) : v'.ResetUp := by
  cases h with
  | ok n hc hr =>
    cases hr with
    | full n hw hp => exact hp.resetUp hu
    | short n hw => exact hu
  | failed n hc hr hs =>
    refine hs.resetUp (fun x hx => ho x (List.mem_append_right _ hx)) ?_
    cases hr <;> exact hu

theorem SpeechConfig.resetUp {req : SpeechConfigReq} (ho : ∀ x ∈ o, x.Complete)
    (h : SpeechConfig k req v o v') (hu : v.ResetUp) : v'.ResetUp := by
  cases h with
  | now hr => exact hr.resetUp ho hu
  | defer => exact hu

theorem SsiResp.resetUp {resp : SsiConfigResp} (ho : ∀ x ∈ o, x.Complete)
    (h : SsiResp k resp v o v') (hu : v.ResetUp) : v'.ResetUp := by
  cases h with
  | connected hr hp => exact View.resetUp_of_ne (by simp)
  | disconnected hr hp => exact View.resetUp_of_ne (by simp)
  | reconnect hr hp hc hq => exact View.resetUp_of_ne (by simp)
  | redisconnect hr hp hc hq => exact View.resetUp_of_ne (by simp)
  | ignored hr h₁ h₂ h₃ => exact hu
  | errorPending hr hp hs => exact hs.resetUp ho hu
  | error hr h₁ h₂ hs => exact hs.resetUp ho hu

theorem Control.resetUp {cmd : Cmd} (ho : ∀ x ∈ o, x.Complete) (h : Control k cmd v o v')
    (hu : v.ResetUp) : v'.ResetUp := by
  cases h with
  | speechConfig ht h => exact h.resetUp ho hu
  | uplink ht =>
    by_cases hs : v.bc.protoState = .activeDl
    · exact View.resetUp_of_ne (by simp [hs])
    · exact hu.mono (by simp [hs]) id
  | timing ht =>
    obtain ⟨hs, heq⟩ | ⟨hs, hp, heq⟩ | ⟨hs, heq⟩ := bcHandleTimingConfigNtf_cases v.bc
    · exact View.resetUp_of_ne (by simp [heq])
    · exact hu.mono (by simp [heq]) id
    · exact hu.mono (by simp [heq]) id
  | ssiResp ht h =>
    have hr := h.resetUp ho hu
    unfold afterSsiResp
    split
    · exact hr.mono rfl (·.call)
    · exact hr
  | resetReq ht h => exact View.resetUp_of_ne (by simp [afterPeerReset])
  | resetResp ht hp => exact View.resetUp_of_ne (by simp)
  | resetRespConnect ht hp h => exact View.resetUp_of_ne (by simp [h.protoState])

theorem Recv.resetUp {cmd : Cmd} (ho : ∀ x ∈ o, x.Complete) (h : Recv k cmd v o v')
    (hu : v.ResetUp) : v'.ResetUp := by
  have hramp : { v.acquire wakelineTestRampPing with
      slotSize := testSlotSize (msgDecodeTestRampPing cmd).ramplen }.ResetUp :=
    hu.mono rfl (·.or _)
  cases h with
  | control hd e h tstamp he => exact h.resetUp (complete_of_recv ho) hu
  | testRampNoBufs hd ht n hc => exact hramp
  | testRamp hd ht h => exact h.resetUp hramp
  | csError hd ht e he => exact View.resetUp_of_ne (by simp [afterPeerReset])
  | _ => exact hu

theorem CallStatus.resetUp {b : Bool} (ho : ∀ x ∈ o, x.Complete) (h : CallStatus k b v o v')
    (hu : v.ResetUp) : v'.ResetUp := by
  cases h with
  | disconnect h₁ hs h => exact h.resetUp hu
  | connect hs h => exact h.resetUp hu
  | reset hs h => exact (h.resetUp ho hu).mono rfl id
  | crashed hs hc hi h => exact View.resetUp_of_ne (by simp [h.protoState])
  | _ => exact hu

theorem TestReq.resetUp {msg : Cmd} {ramplen : BitVec 8} (h : TestReq k msg ramplen v o v')
    (hu : v.ResetUp) : v'.ResetUp := by
  cases h with
  | noBufs n hc => exact hu
  | full hs n hw => exact View.resetUp_of_ne (by simp)
  | _ => exact hu.mono rfl (·.or _)

/-- **An operation whose control writes succeed keeps the line up** for a reset. -/
theorem ProtoStep.resetUp (ho : ∀ x ∈ o, x.Complete) (h : ProtoStep k op v o v')
    (hu : v.ResetUp) : v'.ResetUp := by
  cases h with
  | recv h => exact h.resetUp ho hu
  | callStatus h =>
    exact (h.resetUp (fun x hx => ho x (List.mem_cons_of_mem _ hx)) hu).mono rfl id
  | error h => exact h.resetUp ho hu
  | sendTiming h => exact h.resetUp hu
  | sendSsi h => exact h.resetUp hu
  | testReq h => exact h.resetUp hu
  | dlAcquireTest hs => exact View.resetUp_of_ne (by simp [bcTestSequenceReceived])
  | dlReleaseReply hp h => exact h.resetUp ho hu
  | ulReleaseReply hp h => exact h.resetUp ho hu
  | _ => exact hu

end Protocol

/-! ### Runs -/

theorem lineUp_init {m : Machine} (h : nokiamodem.init m) : m.view.LineUp := by
  obtain ⟨area, old, rfl⟩ := h
  exact View.lineUp_of_not (by
    simp [Machine.view, cmtspeechOpen, BcState.bcOpen, BcState.needsLine_iff])

theorem resetUp_init {m : Machine} (h : nokiamodem.init m) : m.view.ResetUp := by
  obtain ⟨area, old, rfl⟩ := h
  exact View.resetUp_of_ne (by simp [Machine.view, cmtspeechOpen, BcState.bcOpen])

/-- The line stays up along a run whose control writes succeed. -/
theorem lineUp_exec {m : Machine} {is : List Step} (hl : m.view.LineUp ∧ m.view.ResetUp)
    (ho : ∀ x ∈ nokiamodem.trace m is, x.Complete) :
    (nokiamodem.exec m is).view.LineUp ∧ (nokiamodem.exec m is).view.ResetUp := by
  refine nokiamodem.exec_invariant (I := fun m => m.view.LineUp ∧ m.view.ResetUp)
    (P := fun m i => ∀ x ∈ (nokiamodem.next m i).2, x.Complete) ?_ hl
    ((nokiamodem.along_trace Obs.Complete m is).mpr ho)
  intro m i hl ho
  have hstep : ProtoStep i.1 i.2 m.view _ _ := nokiamodem_refines m i
  have hvis : ∀ x ∈ nokiamodem.visible Obs.visible m i, x.Complete :=
    fun x hx => ho x (List.mem_of_mem_filter hx)
  exact ⟨hstep.lineUp hvis hl.1, hstep.resetUp hvis hl.2⟩

/-- **The wakeline is up whenever the modem must be able to talk.**  In every run whose
control writes succeed, whatever words arrive, whatever the application calls and whatever
becomes of its frames, the call holds the wakeline in every state that needs it, and the
reset holds it until a reset is answered.  The bits are set even where the driver refuses
to raise the line. -/
theorem wakeline_up {m : Machine} (hm : nokiamodem.init m) {is : List Step}
    (ho : ∀ x ∈ nokiamodem.trace m is, x.Complete) :
    nokiamodem.Always (fun m =>
      (m.bcstate.protoState = .connected ∨ m.bcstate.protoState = .activeDl ∨
          m.bcstate.protoState = .activeDlul ∨ m.bcstate.privState = .connecting ∨
          m.bcstate.privState = .ssiConfigPend → m.d.wakelineUsers &&& wakelineCall ≠ 0) ∧
        (m.bcstate.protoState = .invalid → m.d.wakelineUsers &&& wakelineReset ≠ 0)) m is := by
  intro js hjs
  have hjs' : ∀ x ∈ nokiamodem.trace m js, x.Complete := by
    obtain ⟨post, rfl⟩ := hjs
    intro x hx
    rw [nokiamodem.trace_append] at ho
    exact ho x (List.mem_append_left _ hx)
  obtain ⟨hl, hr⟩ := lineUp_exec ⟨lineUp_init hm, resetUp_init hm⟩ hjs'
  refine ⟨fun hn => hl ?_, hr⟩
  rw [BcState.needsLine_iff]
  simpa [or_assoc, Machine.view] using hn

/-- A call with speech in both directions: a frame is refused by the driver, and a reset is
asked for after it. -/
def refusedFrameRun : List Step :=
  [(.accepting, .stateChangeCallStatus true), (.accepting, .recv (msgEncodeSsiConfigResp 1 0)),
    (.accepting, .recv (speechConfigReqMsg true)), (.accepting, .recv msgEncodeUplinkConfigNtf),
    (.accepting, .ulBufferAcquire true),
    ({ Kernel.accepting with write := fun _ => ⟨-1, ebusy⟩ }, .ulBufferRelease (some 0)),
    (.accepting, .stateChangeError)]

theorem wakeline_up_refusedFrame :
    (.writeData (privMsgEncodeDriverMessage csTxDataReady 0) ⟨-1, ebusy⟩ ∈
        nokiamodem.trace Machine.fresh refusedFrameRun) ∧
    nokiamodem.Always (fun m =>
      (m.bcstate.protoState = .connected ∨ m.bcstate.protoState = .activeDl ∨
          m.bcstate.protoState = .activeDlul ∨ m.bcstate.privState = .connecting ∨
          m.bcstate.privState = .ssiConfigPend → m.d.wakelineUsers &&& wakelineCall ≠ 0) ∧
        (m.bcstate.protoState = .invalid → m.d.wakelineUsers &&& wakelineReset ≠ 0))
      Machine.fresh refusedFrameRun :=
  ⟨by decide, wakeline_up init_fresh (by decide)⟩

end CmtSpeech
