import CmtSpeech.Sent
import CmtSpeech.WellFormed

/-!
# The call status

What the library remembers of the call server, against what the application last told it.
The reset paths clear `call_server_active`, and one of them goes on to connect.

* `Wanted` — an activation request follows a call that was started.
* `StatusTrue` — `call_server_active` is what the application said, while it matters.

## Main results

* `activation_wanted_iff` — activation requests follow started calls exactly in the runs
  that do not complete a reset after the call it was made for has ended.
* `callServerActive_run` — while a connection is up the flag is true to the application, in
  every run that does not complete a reset for a call that is still wanted.
-/

namespace CmtSpeech

open Protocol

/-! ### What the parts of an operation do to the flag -/

/-- The states in which the call status decides what happens next: there is a connection, or one
is being set up, or a reset is to be followed by one. -/
def BcState.Engaged (s : BcState) : Prop :=
  s.isSsiConnectionEnabled = true ∨ s.privState = .connecting ∨ s.privState = .ssiConfigPend ∨
    s.privState = .resetBeforeConnect

theorem BcState.engaged_iff (s : BcState) :
    s.Engaged ↔ (s.protoState = .connected ∨ s.protoState = .activeDl ∨
      s.protoState = .activeDlul) ∨ s.privState = .connecting ∨ s.privState = .ssiConfigPend ∨
      s.privState = .resetBeforeConnect := by
  rw [BcState.Engaged, BcState.isSsiConnectionEnabled_iff]

/-- An observation is an activation request: an `SSI_CONFIG_REQ` with state 1 is written, in full
or not. -/
def Obs.Activates : Obs → Prop
  | .write msg _ => msg.kind = .ssiConfigReq true
  | _ => False

/-- Neither an activation request nor a call of the application, so that the observation can be
left out when the two are compared. -/
def Obs.Quiet (o : Obs) : Prop := ¬ o.Activates ∧ ∀ b, o ≠ .callStatus b

@[simp] theorem quiet_write (msg : Cmd) (w : WriteRes) :
    (Obs.write msg w).Quiet ↔ msg.kind ≠ .ssiConfigReq true := by
  simp [Obs.Quiet, Obs.Activates]

@[simp] theorem quiet_posted (msg : Cmd) (s : BcState) : (Obs.posted msg s).Quiet := by
  simp [Obs.Quiet, Obs.Activates]

@[simp] theorem quiet_recv (cmd : Cmd) : (Obs.recv cmd).Quiet := by
  simp [Obs.Quiet, Obs.Activates]

@[simp] theorem quiet_queued (e : Event) : (Obs.queued e).Quiet := by
  simp [Obs.Quiet, Obs.Activates]

/-- How the call status may change where the application says nothing: it may be
cleared, but not where it still matters. -/
structure Follows (s t : BcState) : Prop where
  active : t.callServerActive = true → s.callServerActive = true
  reset : t.privState = .resetBeforeConnect →
    s.privState = .resetBeforeConnect ∧ t.callServerActive = s.callServerActive
  engaged : t.Engaged → s.Engaged ∧ t.callServerActive = s.callServerActive

namespace Follows

variable {s t u : BcState}

theorem refl (s : BcState) : Follows s s := ⟨id, fun h => ⟨h, rfl⟩, fun h => ⟨h, rfl⟩⟩

theorem trans (h₁ : Follows s t) (h₂ : Follows t u) : Follows s u where
  active h := h₁.active (h₂.active h)
  reset h := by
    obtain ⟨ht, hc⟩ := h₂.reset h
    obtain ⟨hs, hc'⟩ := h₁.reset ht
    exact ⟨hs, hc.trans hc'⟩
  engaged h := by
    obtain ⟨ht, hc⟩ := h₂.engaged h
    obtain ⟨hs, hc'⟩ := h₁.engaged ht
    exact ⟨hs, hc.trans hc'⟩

/-- The flag is kept, and nothing new depends on it. -/
theorem of_keep (hc : t.callServerActive = s.callServerActive)
    (hr : t.privState = .resetBeforeConnect → s.privState = .resetBeforeConnect)
    (he : t.Engaged → s.Engaged) : Follows s t :=
  ⟨fun h => hc ▸ h, fun h => ⟨hr h, hc⟩, fun h => ⟨he h, hc⟩⟩

theorem to_disconnected (s : BcState) : Follows s s.privResetStateToDisconnected := by
  constructor <;> simp [BcState.engaged_iff]

theorem written (s : BcState) : Follows s s.written := of_keep rfl id id

theorem unwritten (s : BcState) : Follows s s.unwritten := of_keep rfl id id

end Follows

namespace Protocol

variable {k : Kernel} {v v' : View} {o : List Obs}

theorem SendTiming.follows (h : SendTiming k v o v') : Follows v.bc v'.bc := by
  cases h <;> refine .of_keep rfl ?_ ?_ <;> simp +contextual [BcState.engaged_iff]

theorem SendTiming.quiet (h : SendTiming k v o v') : ∀ x ∈ o, x.Quiet := by
  cases h <;> simp

theorem SendSsi.follows_false (h : SendSsi k false v o v') : Follows v.bc v'.bc := by
  cases h <;> refine .of_keep (by simp) ?_ ?_ <;> simp +contextual [BcState.engaged_iff]

theorem SendSsi.quiet_false (h : SendSsi k false v o v') : ∀ x ∈ o, x.Quiet := by
  cases h <;> simp

theorem SendReset.follows (h : SendReset k v o v') : Follows v.bc v'.bc := by
  cases h <;> refine .of_keep rfl ?_ ?_ <;> simp +contextual [BcState.engaged_iff]

theorem SendReset.quiet (h : SendReset k v o v') : ∀ x ∈ o, x.Quiet := by
  cases h <;> simp

theorem Posted.follows (h : Posted k v o v') : Follows v.bc v'.bc := by
  have hstep (p : ProtoState) (hs : v.bc.Engaged) :
      Follows v.bc (v.bc.privStateChangeTo (some p) .inSync) :=
    .of_keep rfl (by simp) fun _ => hs
  cases h with
  | start hs hp ht => exact (hstep _ (by simp [BcState.engaged_iff, hs])).trans ht.follows
  | restart hs hp => exact hstep _ (by simp [BcState.engaged_iff, hs])
  | stop hs hp hc => exact hstep _ (by rcases hs with hs | hs <;> simp [BcState.engaged_iff, hs])
  | close hs hp hc hq =>
    refine (hstep _ ?_).trans hq.follows_false
    rcases hs with hs | hs <;> simp [BcState.engaged_iff, hs]
  | keep ha hd => exact .refl _

theorem Posted.quiet (h : Posted k v o v') : ∀ x ∈ o, x.Quiet := by
  cases h with
  | start hs hp ht => exact ht.quiet
  | close hs hp hc hq => exact hq.quiet_false
  | _ => simp

theorem ReplyOk.follows (h : ReplyOk k v o v') : Follows v.bc v'.bc := by
  cases h with
  | full n hw hp => exact hp.follows.trans (.written _)
  | short n hw => exact .unwritten _

theorem ReplyOk.quiet (h : ReplyOk k v o v') : ∀ x ∈ o, x.Quiet := by
  cases h with
  | full n hw hp =>
    have := hp.quiet
    simp_all [or_imp]
  | short n hw => simp

theorem ReplyErr.follows (h : ReplyErr k v o v') : Follows v.bc v'.bc := by
  cases h <;> refine .of_keep rfl ?_ ?_ <;> simp +contextual [BcState.engaged_iff]

theorem ReplyErr.quiet (h : ReplyErr k v o v') : ∀ x ∈ o, x.Quiet := by
  cases h <;> simp

theorem SetupReply.follows (h : SetupReply k v o v') : Follows v.bc v'.bc := by
  cases h with
  | ok n hc hr => exact hr.follows
  | failed n hc hr hs => exact hr.follows.trans hs.follows

theorem SetupReply.quiet (h : SetupReply k v o v') : ∀ x ∈ o, x.Quiet := by
  cases h with
  | ok n hc hr => exact hr.quiet
  | failed n hc hr hs => exact List.forall_mem_append.mpr ⟨hr.quiet, hs.quiet⟩

theorem SpeechConfig.follows {req : SpeechConfigReq} (h : SpeechConfig k req v o v') :
    Follows v.bc v'.bc := by
  have hreq : Follows v.bc (v.bc.privStateChangeTo none (speechPending req)) := by
    rcases speechPending_cases req with hp | hp <;> rw [hp] <;> refine .of_keep rfl ?_ ?_ <;>
      simp +contextual [BcState.engaged_iff]
  cases h with
  | now hr => exact hreq.trans hr.follows
  | defer => exact hreq

theorem SpeechConfig.quiet {req : SpeechConfigReq} (h : SpeechConfig k req v o v') :
    ∀ x ∈ o, x.Quiet := by
  cases h with
  | now hr => exact hr.quiet
  | defer => simp

end Protocol

/-! ### Activation requests -/

/-- An activation request is made for a call that was started: if the observation asks for a
connection, the application's last word, `last`, was that there is a call. -/
def Wanted (last : Option Bool) (o : Obs) : Prop := o.Activates → last = some true

/-- Quiet observations satisfy `Wanted` and leave the last call status alone. -/
theorem each_of_quiet {o : List Obs} (h : ∀ x ∈ o, x.Quiet) (last : Option Bool) :
    Lts.Each lastCallStatus Wanted last o ∧ o.foldl lastCallStatus last = last := by
  induction o with
  | nil => exact ⟨trivial, rfl⟩
  | cons x o ih =>
    obtain ⟨hx, ho⟩ := List.forall_mem_cons.mp h
    have hlast : lastCallStatus last x = last := by
      cases x with
      | callStatus b => exact absurd rfl (hx.2 b)
      | _ => rfl
    rw [Lts.each_cons, List.foldl_cons, hlast]
    exact ⟨⟨fun ha => absurd ha hx.1, (ih ho).1⟩, (ih ho).2⟩

namespace Protocol

variable {k : Kernel} {v v' : View} {o : List Obs} {op : Op}

/-- An activation request asks whether the call is wanted, and says nothing else. -/
theorem SendSsi.each_true (h : SendSsi k true v o v') (last : Option Bool) :
    (Lts.Each lastCallStatus Wanted last o ↔ last = some true) ∧
      o.foldl lastCallStatus last = last := by
  cases h with
  | refused hb hp => exact absurd hb (by decide)
  | full n hw hr => simp [Wanted, Obs.Activates, lastCallStatus]
  | short n hw hr => simp [Wanted, Obs.Activates, lastCallStatus]

/-- What an operation that neither tells the library a call status nor completes a reset
does about calls. -/
structure Unprompted (v : View) (o : List Obs) (v' : View) : Prop where
  follows : Follows v.bc v'.bc
  each : ∀ last, (v.bc.callServerActive = true → last = some true) →
    Lts.Each lastCallStatus Wanted last o
  last : ∀ last, o.foldl lastCallStatus last = last

theorem Unprompted.of_quiet (hf : Follows v.bc v'.bc) (hq : ∀ x ∈ o, x.Quiet) :
    Unprompted v o v' :=
  ⟨hf, fun last _ => (each_of_quiet hq last).1, fun last => (each_of_quiet hq last).2⟩

/-- Quiet observations may be added, and what the flag does not depend on may change. -/
theorem Unprompted.congr (h : Unprompted v o v') {w w' : View} (hw : w.bc = v.bc)
    (hw' : w'.bc = v'.bc) (o₁ o₂ : List Obs) (h₁ : ∀ x ∈ o₁, x.Quiet) (h₂ : ∀ x ∈ o₂, x.Quiet) :
    Unprompted w (o₁ ++ (o ++ o₂)) w' where
  follows := by rw [hw, hw']; exact h.follows
  each last hl := by
    rw [Lts.each_append, Lts.each_append, (each_of_quiet h₁ last).2, h.last]
    rw [hw] at hl
    exact ⟨(each_of_quiet h₁ last).1, h.each last hl, (each_of_quiet h₂ last).1⟩
  last last := by
    rw [List.foldl_append, List.foldl_append, (each_of_quiet h₁ last).2, h.last,
      (each_of_quiet h₂ last).2]

theorem SsiResp.unprompted {resp : SsiConfigResp} (h : SsiResp k resp v o v') :
    Unprompted v o v' := by
  cases h with
  | connected hr hp =>
    refine .of_quiet (.of_keep rfl (by simp) ?_) (by simp)
    intro _
    simp [BcState.engaged_iff, hp]
  | disconnected hr hp => exact .of_quiet (.to_disconnected _) (by simp)
  | reconnect hr hp hc hq =>
    -- the postponed request asks the flag before it activates
    refine ⟨?_, fun last hl => (hq.each_true last).1.mpr (hl hc), fun last => (hq.each_true last).2⟩
    exact .of_keep hq.callServerActive (by simp) fun _ => by simp [BcState.engaged_iff, hp]
  | redisconnect hr hp hc hq =>
    refine .of_quiet ?_ hq.quiet_false
    exact .of_keep hq.callServerActive (by simp) fun _ => by simp [BcState.engaged_iff, hp]
  | ignored hr h₁ h₂ h₃ => exact .of_quiet (.refl _) (by simp)
  | errorPending hr hp hs =>
    have hsync : Follows v.bc (v.bc.privStateChangeTo none .inSync) :=
      .of_keep rfl (by simp) (by simp +contextual [BcState.engaged_iff])
    exact .of_quiet (hsync.trans hs.follows) hs.quiet
  | error hr h₁ h₂ hs => exact .of_quiet hs.follows hs.quiet

/-- The reset that `cmtspeech_state_change_call_status` asked for is completed. -/
def CompletesReset (s : BcState) (op : Op) : Prop :=
  ∃ cmd, op = .recv cmd ∧ ResetConnRespWord cmd ∧ s.privState = .resetBeforeConnect

theorem Control.unprompted {cmd : Cmd} (h : Control k cmd v o v')
    (hn : ¬ (msgGetType cmd = resetConnResp ∧ v.bc.privState = .resetBeforeConnect)) :
    Unprompted v o v' := by
  cases h with
  | speechConfig ht h => exact .of_quiet h.follows h.quiet
  | uplink ht =>
    refine .of_quiet ?_ (by simp)
    by_cases hs : v.bc.protoState = .activeDl
    · rw [View.withBc_bc, if_pos hs]
      exact .of_keep rfl (by simp) fun _ => by simp [BcState.engaged_iff, hs]
    · rw [View.withBc_bc, if_neg hs]
      exact .refl _
  | timing ht =>
    refine .of_quiet ?_ (by simp)
    rw [View.withBc_bc]
    obtain ⟨hs, heq⟩ | ⟨hs, hp, heq⟩ | ⟨hs, heq⟩ := bcHandleTimingConfigNtf_cases v.bc
    · rw [heq]
      exact .of_keep rfl (by simp) fun _ => by simp [BcState.engaged_iff, hs]
    · rw [heq]
      refine .of_keep rfl (by simp) ?_
      simp +contextual [BcState.engaged_iff]
    · rw [heq]
      exact .refl _
  | ssiResp ht h => simpa using h.unprompted.congr rfl (afterSsiResp_bc _) [] []
  | resetReq ht h =>
    refine .of_quiet ?_ (by cases h <;> simp)
    cases h <;> exact Follows.to_disconnected v.bc
  | resetResp ht hp => exact .of_quiet (.to_disconnected _) (by simp)
  | resetRespConnect ht hp h => exact absurd ⟨ht, hp⟩ hn

theorem Recv.unprompted {cmd : Cmd} (h : Recv k cmd v o v')
    (hn : ¬ CompletesReset v.bc (.recv cmd)) : Unprompted v o v' := by
  cases h with
  | control hd e h tstamp he =>
    have hc := h.unprompted fun ⟨ht, hp⟩ => hn ⟨cmd, rfl, ⟨hd, ht⟩, hp⟩
    exact hc.congr rfl rfl [.recv cmd] [.queued e] (by simp) (by simp)
  | testRampNoBufs hd ht n hc => exact .of_quiet (.refl _) (by simp)
  | testRamp hd ht h =>
    refine .of_quiet ?_ (by cases h <;> simp)
    cases h with
    | full n hw => exact .written _
    | short n hw => exact .unwritten _
  | csError hd ht e he => exact .of_quiet (.to_disconnected _) (by simp)
  | data hd ht => exact .of_quiet (.refl _) (by simp)
  | unknown h => exact .of_quiet (.refl _) (by simp)

/-- The one word whose handling connects without asking whether the call is wanted. -/
theorem Recv.completesReset {cmd : Cmd} (h : Recv k cmd v o v')
    (hc : CompletesReset v.bc (.recv cmd)) :
    ∃ o₁ v₁ e, o = .recv cmd :: (o₁ ++ [.queued e]) ∧ v'.bc = v₁.bc ∧
      SendSsi k true (v.withBc v.bc.privResetStateToDisconnected) o₁ v₁ := by
  obtain ⟨cmd', heq, ⟨hd, ht⟩, hp⟩ := hc
  cases heq
  obtain ⟨o₁, e, ho, hc, -⟩ := h.control_inv k hd (by rw [ht]; decide) (by rw [ht]; decide)
  obtain ⟨v₁, hq, rfl⟩ := hc.resetResp_inv k ht hp
  exact ⟨o₁, v₁, e, ho, View.release_bc _ _, hq⟩

theorem ProtoStep.unprompted (h : ProtoStep k op v o v')
    (hop : ∀ b, op ≠ .sendSsiConfigRequest b) (hcs : ∀ b, op ≠ .stateChangeCallStatus b)
    (hn : ¬ CompletesReset v.bc op) : Unprompted v o v' := by
  have hid (v : View) : Unprompted v [] v := .of_quiet (.refl _) (by simp)
  cases h with
  | recv h => exact h.unprompted hn
  | setWbPreference h => exact .of_quiet (.of_keep rfl id id) (by simp)
  | callStatus h => exact absurd rfl (hcs _)
  | callConnect => exact .of_quiet (.of_keep rfl id id) (by simp)
  | error h => exact .of_quiet h.follows h.quiet
  | sendTiming h => exact .of_quiet h.follows h.quiet
  | sendSsi h => exact absurd rfl (hop _)
  | testReq h =>
    refine .of_quiet ?_ (by cases h <;> simp)
    cases h with
    | full hs n hw => exact .of_keep rfl (by simp) (by simp [BcState.engaged_iff])
    | _ => exact .of_keep rfl id id
  | dlAcquireTest hs =>
    refine .of_quiet (.of_keep rfl ?_ ?_) (by simp) <;>
      simp [bcTestSequenceReceived, BcState.engaged_iff]
  | dlReleaseReply hp h => exact .of_quiet h.follows h.quiet
  | ulReleaseReply hp h => exact .of_quiet h.follows h.quiet
  | _ => exact hid _

/-- A call-status change activates only for a call that starts. -/
theorem CallStatus.each {b : Bool} (h : CallStatus k b v o v') :
    Lts.Each lastCallStatus Wanted (some b) o ∧ o.foldl lastCallStatus (some b) = some b := by
  cases h with
  | disconnect h₁ hs h => exact each_of_quiet h.quiet_false _
  | connect hs h => exact ⟨(h.each_true _).1.mpr rfl, (h.each_true _).2⟩
  | reset hs h => exact each_of_quiet h.quiet _
  | crashed hs hc hi h => exact ⟨(h.each_true _).1.mpr rfl, (h.each_true _).2⟩
  | _ => exact ⟨trivial, rfl⟩

end Protocol

/-- What `call_server_active` says of the application as long as a reset before a connection
is not completed too late. -/
structure StatusKnown (s : BcState) (last : Option Bool) : Prop where
  active : s.callServerActive = true → last = some true
  reset : s.privState = .resetBeforeConnect → last = some s.callServerActive

theorem StatusKnown.of_follows {s t : BcState} {last : Option Bool} (h : StatusKnown s last)
    (hf : Follows s t) : StatusKnown t last where
  active ht := h.active (hf.active ht)
  reset ht := by
    obtain ⟨hs, hc⟩ := hf.reset ht
    rw [hc]
    exact h.reset hs

/-- A reset completed when the call it was made for is over.  The library then asks for a
connection all the same, since `priv_state` remembers that a call was waiting and
`call_server_active` is not looked at. -/
def ConnectsEndedCall (s : BcState) (op : Op) : Prop :=
  CompletesReset s op ∧ s.callServerActive = false

/-- One operation: exactly the completion of a reset for an ended call activates unasked. -/
theorem Protocol.ProtoStep.wanted_iff {k : Kernel} {op : Op} {v v' : View} {o : List Obs}
    (h : ProtoStep k op v o v') (hop : ∀ b, op ≠ .sendSsiConfigRequest b) {last : Option Bool}
    (hI : StatusKnown v.bc last) :
    (Lts.Each lastCallStatus Wanted last o ↔ ¬ ConnectsEndedCall v.bc op) ∧
      (¬ ConnectsEndedCall v.bc op → StatusKnown v'.bc (o.foldl lastCallStatus last)) := by
  by_cases hr : CompletesReset v.bc op
  · -- the request that follows is wanted exactly if the call is still on
    obtain ⟨cmd, rfl, hw, hp⟩ := id hr
    have hlast : last = some v.bc.callServerActive := hI.reset hp
    obtain ⟨o₁, v₁, e, rfl, hv, hq⟩ := (h.recv_inv k).completesReset hr
    have hiff : Lts.Each lastCallStatus Wanted last (.recv cmd :: (o₁ ++ [.queued e])) ↔
        last = some true := by
      rw [← (hq.each_true last).1]
      simp [Wanted, Obs.Activates, lastCallStatus]
    refine ⟨?_, ?_⟩
    · rw [hiff, hlast, ConnectsEndedCall]
      simp [hr]
    · intro _
      rw [hv]
      clear h
      cases hq <;> constructor <;> simp
  · have hn : ¬ ConnectsEndedCall v.bc op := fun h => hr h.1
    simp only [hn, not_false_eq_true, iff_true, true_imp_iff]
    by_cases hcs : ∃ b, op = .stateChangeCallStatus b
    · obtain ⟨b, rfl⟩ := hcs
      cases h with
      | callStatus h =>
        obtain ⟨he, hl⟩ := h.each
        refine ⟨⟨fun ha => absurd ha (by simp [Obs.Activates]), he⟩, ?_⟩
        rw [List.foldl_cons]
        refine hl.symm ▸ ⟨?_, fun _ => rfl⟩
        intro hb
        exact congrArg some hb
    · have hu := h.unprompted hop (fun b hb => hcs ⟨b, hb⟩) hr
      exact ⟨hu.each last hI.active, (hu.last last).symm ▸ hI.of_follows hu.follows⟩

theorem statusKnown_init {m : Machine} (hm : nokiamodem.init m) : StatusKnown m.bcstate none := by
  obtain ⟨area, old, rfl⟩ := hm
  constructor <;> simp [cmtspeechOpen, BcState.bcOpen]

/-- **Activation requests follow started calls** in exactly the runs in which the reset that
precedes a connection is never completed after the call has ended. -/
theorem activation_wanted_iff {m : Machine} (hm : nokiamodem.init m) {is : List Step}
    (hs : ∀ i ∈ is, NoDirectSsi i) :
    (∀ pre msg w post, nokiamodem.trace m is = pre ++ .write msg w :: post →
        msg.kind = .ssiConfigReq true → pre.foldl lastCallStatus none = some true) ↔
      nokiamodem.Along (fun m i => ¬ ConnectsEndedCall m.bcstate i.2) m is := by
  have hvis (last : Option Bool) (o : Obs) (ho : o.visible = false) : Wanted last o := by
    intro ha
    cases o <;> simp_all [Obs.visible, Obs.Activates]
  have hrun := nokiamodem_refines.each_iff (I := fun v last => StatusKnown v.bc last)
    (P := fun _ i _ => NoDirectSsi i) (C := fun v i _ => ¬ ConnectsEndedCall v.bc i.2)
    lastCallStatus_hidden hvis
    (fun v last i out v' hI hi hc h => (h.wanted_iff hi hI).2 hc)
    (fun v last i out v' hI hi h => (h.wanted_iff hi hI).1)
    (statusKnown_init hm) ((nokiamodem.along_forall _ m is).mpr hs)
  refine Iff.trans ?_ hrun
  rw [Lts.each_iff_forall_split]
  constructor
  · intro h pre o post heq ha
    cases o with
    | write msg w => exact h pre msg w post heq ha
    | _ => exact absurd ha id
  · intro h pre msg w post heq ha
    exact h pre _ post heq ha

/-- The call made in `INVALID` ends before the reset is completed, and is connected. -/
def endedCallRun : List Step :=
  [(.accepting, .stateChangeError), (.accepting, .stateChangeCallStatus true),
    (.accepting, .stateChangeCallStatus false), (.accepting, .recv msgEncodeResetConnResp)]

/-- A run that asks for a connection in its last step, with the call status given twice
before: both sides of the equivalence speak of that step. -/
theorem activation_wanted_endedCall :
    (∀ pre msg w post, nokiamodem.trace Machine.fresh endedCallRun = pre ++ .write msg w :: post →
        msg.kind = .ssiConfigReq true → pre.foldl lastCallStatus none = some true) ↔
      nokiamodem.Along (fun m i => ¬ ConnectsEndedCall m.bcstate i.2) Machine.fresh
        endedCallRun :=
  activation_wanted_iff init_fresh (by simp [endedCallRun, NoDirectSsi])

theorem activation_unwanted :
    nokiamodem.init Machine.fresh ∧ (∀ i ∈ endedCallRun, NoDirectSsi i) ∧
      ¬ ∀ pre msg w post,
        nokiamodem.trace Machine.fresh endedCallRun = pre ++ .write msg w :: post →
        msg.kind = .ssiConfigReq true → pre.foldl lastCallStatus none = some true := by
  refine ⟨init_fresh, by simp [endedCallRun, NoDirectSsi], ?_⟩
  intro h
  -- the request is the eleventh thing the run does
  have := h ((nokiamodem.trace Machine.fresh endedCallRun).take 10)
    (ssiConfigRequest Machine.fresh.bcstate true) ⟨ctrlLen, 0⟩
    ((nokiamodem.trace Machine.fresh endedCallRun).drop 11) (by decide) (by decide)
  revert this
  decide

/-! ### The flag while a connection is up -/

/-- A reset completed while the call is still wanted: the reset clears the flag, and the
connection is requested. -/
def ForgetsCall (m : Machine) (i : Step) : Prop :=
  CompletesReset m.bcstate i.2 ∧ m.bcstate.callServerActive = true ∧
    i.1.SsiSent m.d.wakelineUsers true

/-- The flag is what the application said, where it matters.  In the other states it may be out of
date: a reset clears it whatever the application said. -/
def StatusTrue (s : BcState) (last : Option Bool) : Prop :=
  s.Engaged → last = some s.callServerActive

/-- One operation keeps the flag true, the completion of a reset for a wanted call apart. -/
theorem Protocol.ProtoStep.statusTrue {k : Kernel} {op : Op} {v v' : View} {o : List Obs}
    (h : ProtoStep k op v o v') (hop : ∀ b, op ≠ .sendSsiConfigRequest b)
    (hf : ¬ (CompletesReset v.bc op ∧ v.bc.callServerActive = true ∧ WritesInFull o))
    {last : Option Bool} (hI : StatusTrue v.bc last) :
    StatusTrue v'.bc (o.foldl lastCallStatus last) := by
  by_cases hr : CompletesReset v.bc op
  · obtain ⟨cmd, rfl, hw, hp⟩ := id hr
    have hlast : last = some v.bc.callServerActive := hI (by simp [BcState.engaged_iff, hp])
    obtain ⟨o₁, v₁, e, rfl, hv, hq⟩ := (h.recv_inv k).completesReset hr
    have hfold : List.foldl lastCallStatus last (.recv cmd :: (o₁ ++ [.queued e])) = last := by
      simp [lastCallStatus, (hq.each_true last).2]
    rw [hfold, hv]
    clear h hfold
    cases hq with
    | refused hb hp => exact absurd hb (by decide)
    | full n hwr hr' =>
      -- written in full, so the call was over and the cleared flag is right
      have hc : v.bc.callServerActive = false := by
        by_contra hc
        exact hf ⟨hr, by simpa using hc, _, _, List.mem_cons_of_mem _ List.mem_cons_self, hwr⟩
      intro _
      simpa [hc] using hlast
    | short n hwr hr' => simp [StatusTrue, BcState.engaged_iff]
  · by_cases hcs : ∃ b, op = .stateChangeCallStatus b
    · obtain ⟨b, rfl⟩ := hcs
      cases h with
      | callStatus h =>
        intro _
        exact h.each.2
    · have hu := h.unprompted hop (fun b hb => hcs ⟨b, hb⟩) hr
      intro he
      obtain ⟨hs, hc⟩ := hu.follows.engaged he
      rw [hu.last, hc]
      exact hI hs

/-- **While a connection is up the flag is what the application said**, in every run that
never completes a reset, with the request that follows, while the call is still wanted. -/
theorem callServerActive_run {m : Machine} (hm : nokiamodem.init m) {is : List Step}
    (hs : ∀ i ∈ is, NoDirectSsi i)
    (hf : nokiamodem.Along (fun m i => ¬ ForgetsCall m i) m is)
    (he : (nokiamodem.exec m is).bcstate.isSsiConnectionEnabled = true) :
    (nokiamodem.trace m is).foldl lastCallStatus none =
      some (nokiamodem.exec m is).bcstate.callServerActive := by
  have hinit : StatusTrue m.view.bc none := by
    obtain ⟨area, old, rfl⟩ := hm
    simp [StatusTrue, Machine.view, cmtspeechOpen, BcState.bcOpen, BcState.engaged_iff]
  have hall : nokiamodem.Along (fun m i => NoDirectSsi i ∧ ¬ (CompletesReset m.view.bc i.2 ∧
      m.view.bc.callServerActive = true ∧
        WritesInFull (nokiamodem.visible Obs.visible m i))) m is := by
    rw [Lts.along_and]
    refine ⟨(nokiamodem.along_forall _ m is).mpr hs, hf.mono fun m i h hv => h ?_⟩
    obtain ⟨hr, hc, hw⟩ := hv
    obtain ⟨k, op⟩ := i
    obtain ⟨cmd, rfl, hword, hp⟩ := id hr
    rw [Lts.visible, writesInFull_visible] at hw
    exact ⟨hr, hc, (writesInFull_resetConnResp m k hword hp).mp hw⟩
  exact nokiamodem_refines.invariant (I := fun v last => StatusTrue v.bc last)
    lastCallStatus_hidden
    (P := fun v i out => NoDirectSsi i ∧
      ¬ (CompletesReset v.bc i.2 ∧ v.bc.callServerActive = true ∧ WritesInFull out))
    (fun v last i out v' hI hp h => h.statusTrue hp.1 hp.2 hI) hinit hall (Or.inl he)

/-- A call set up from the start, as an instance: the history ends with the call status that was
given. -/
theorem callServerActive_fresh :
    (nokiamodem.trace Machine.fresh [(.accepting, .stateChangeCallStatus true),
        (.accepting, .recv (msgEncodeSsiConfigResp 1 0))]).foldl lastCallStatus none = some true :=
  callServerActive_run init_fresh (by simp [NoDirectSsi])
    ⟨fun h => by obtain ⟨⟨cmd, h, -⟩, -⟩ := h; simp at h,
      fun h => by
        obtain ⟨⟨cmd, h, hw, -⟩, -⟩ := h
        cases h
        exact absurd hw (by decide), trivial⟩ (by decide)

/-- The call made in `INVALID` is connected after the reset, and the flag says there is none. -/
def forgottenCallRun : List Step :=
  [(.accepting, .stateChangeError), (.accepting, .stateChangeCallStatus true),
    (.accepting, .recv msgEncodeResetConnResp), (.accepting, .recv (msgEncodeSsiConfigResp 1 0))]

theorem callServerActive_forgotten :
    nokiamodem.init Machine.fresh ∧ (∀ i ∈ forgottenCallRun, NoDirectSsi i) ∧
      (nokiamodem.exec Machine.fresh forgottenCallRun).bcstate.isSsiConnectionEnabled = true ∧
      (nokiamodem.trace Machine.fresh forgottenCallRun).foldl lastCallStatus none ≠
        some (nokiamodem.exec Machine.fresh forgottenCallRun).bcstate.callServerActive :=
  ⟨init_fresh, by simp [forgottenCallRun, NoDirectSsi], by decide, by decide⟩

end CmtSpeech
