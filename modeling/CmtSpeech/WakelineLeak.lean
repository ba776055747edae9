import CmtSpeech.DataPath
import CmtSpeech.Transitions
import CmtSpeech.Wakeline

/-!
# The wakeline is lowered when nothing is pending

With no connection and no transaction pending nobody should hold the wakeline.  Every way
back to that state has to forget the users it found; three of them do not.

* `View.Idle` — no connection and nothing pending.
* `View.NoLeak` — nobody holds the line then.
* `LeaksLine` — the words that leave a user behind.

## Main result

* `wakeline_noLeak_iff`
-/

namespace CmtSpeech

open Protocol

/-- No connection, and no transaction pending: nothing is to come from the modem, and the line may
go down. -/
def View.Idle (v : View) : Prop := v.bc.protoState = .disconnected ∧ v.bc.privState = .inSync

/-- Nobody holds the line while nothing is pending.  A user that is left behind keeps the modem
awake for good. -/
def View.NoLeak (v : View) : Prop := v.Idle → v.wake = 0

/-- No test ramp runs, nor has one taken the line.  A ramp is a user of its own, which the calls
do not take away. -/
def View.NoTest (v : View) : Prop :=
  v.bc.protoState ≠ .testRampPingActive ∧ v.wake &&& wakelineTestRampPing = 0

/-- The words that leave a user behind: an answer to a reset, which lets go of the line of
the reset alone; a timing notification that ends a timing transaction without a connection;
and an answer to a disconnection while the line of a reset is held. -/
def LeaksLine (v : View) : Op → Prop
  | .checkPending true (some cmd) =>
    ResetConnRespWord cmd ∧ v.bc.privState ≠ .resetBeforeConnect ∧ CallRaised v.wake ∨
      TimingConfigNtfWord cmd ∧ v.bc.protoState = .disconnected ∧ v.bc.privState = .timing ∧
        v.wake ≠ 0 ∨
      SsiConfigRespWord cmd ∧ (msgDecodeSsiConfigResp cmd).result = ssiConfigResSuccess ∧
        v.bc.privState = .disconnecting ∧ ResetRaised v.wake
  | _ => False

/-! ### Steps that leave no one behind -/

/-- A step that ends idle only where it started idle, with the same users.  Such a step leaks
nothing. -/
structure Calm (v v' : View) : Prop where
  noTest : v.NoTest → v'.NoTest
  idle : v'.Idle → v.Idle ∧ v'.wake = v.wake

/-- What a step does to a state that leaks nothing; `bad` is whether it leaks.  This is proved of
each operation, with its own condition for `bad`. -/
structure Lowers (bad : Prop) (v' : View) : Prop where
  noTest : v'.NoTest
  noLeak_iff : v'.NoLeak ↔ ¬ bad

section
variable {v v' v'' : View} {bad : Prop}

theorem Calm.refl (v : View) : Calm v v := ⟨id, fun h => ⟨h, rfl⟩⟩

theorem Calm.trans (h : Calm v v') (h' : Calm v' v'') : Calm v v'' := by
  refine ⟨fun ht => h'.noTest (h.noTest ht), ?_⟩
  intro hi
  obtain ⟨hi', hw'⟩ := h'.idle hi
  obtain ⟨hi'', hw⟩ := h.idle hi'
  exact ⟨hi'', hw'.trans hw⟩

/-- The same states and users: nothing has happened that concerns the line. -/
theorem Calm.of_eq (hs : v'.bc.protoState = v.bc.protoState)
    (hp : v'.bc.privState = v.bc.privState) (hw : v'.wake = v.wake) : Calm v v' := by
  refine ⟨?_, ?_⟩
  · intro ht
    rwa [View.NoTest, hs, hw]
  · intro hi
    exact ⟨⟨hs.symm.trans hi.1, hp.symm.trans hi.2⟩, hw⟩

/-- A step that ends with something pending or with a connection. -/
theorem Calm.busy (ht : v.NoTest → v'.NoTest) (hi : ¬ v'.Idle) : Calm v v' :=
  ⟨ht, fun h => absurd h hi⟩

theorem Calm.lowers (h : Calm v v') (ht : v.NoTest) (hn : v.NoLeak) (hb : ¬ bad) :
    Lowers bad v' := by
  refine ⟨h.noTest ht, iff_of_true ?_ hb⟩
  intro hi
  obtain ⟨hi', hw⟩ := h.idle hi
  exact hw.trans (hn hi')

end

/-! ### Users of the line -/

theorem noTest_call : ∀ {wake : BitVec 3}, wake &&& wakelineTestRampPing = 0 →
    (wake ||| wakelineCall) &&& wakelineTestRampPing = 0 := by decide

theorem noTest_reset : ∀ {wake : BitVec 3}, wake &&& wakelineTestRampPing = 0 →
    (wake ||| wakelineReset) &&& wakelineTestRampPing = 0 := by decide

theorem noTest_release : ∀ {wake : BitVec 3} (id : BitVec 3),
    wake &&& wakelineTestRampPing = 0 → (wake &&& ~~~id) &&& wakelineTestRampPing = 0 := by decide

/-- Without a test ramp, forgetting the reset leaves nobody unless a call holds the line. -/
theorem release_reset_eq_zero_iff : ∀ {wake : BitVec 3}, wake &&& wakelineTestRampPing = 0 →
    (wake &&& ~~~wakelineReset = 0 ↔ ¬ CallRaised wake) := by decide

theorem release_call_eq_zero_iff : ∀ {wake : BitVec 3}, wake &&& wakelineTestRampPing = 0 →
    (wake &&& ~~~wakelineCall = 0 ↔ ¬ ResetRaised wake) := by decide

namespace Protocol

variable {k : Kernel} {v v' : View} {o : List Obs} {op : Op}

/-! ### Requests -/

theorem SendTiming.calm (hk : k.WritesSucceed) (h : SendTiming k v o v') : Calm v v' := by
  cases h with
  | full n hw => exact .busy id (by simp [View.Idle])
  | short n hw => exact absurd (hk n) hw

theorem SendSsi.noTest {b : Bool} (h : SendSsi k b v o v') (ht : v.NoTest) : v'.NoTest := by
  refine ⟨h.protoState ▸ ht.1, ?_⟩
  have ha : (ssiAcquire b v).wake &&& wakelineTestRampPing = 0 := by
    cases b with
    | false => exact ht.2
    | true => exact noTest_call ht.2
  cases h with
  | refused hb hp => exact ht.2
  | full n hw hr => exact ha
  | short n hw hr => exact ha

theorem SendSsi.calm {b : Bool} (hk : k.WritesSucceed) (h : SendSsi k b v o v') : Calm v v' := by
  have ht := h.noTest
  cases h with
  | refused hb hp => exact .refl v
  | full n hw hr => exact .busy ht (by cases b <;> simp [View.Idle])
  | short n hw hr => exact absurd (hk n) hw

/-- An activation that is sent is pending, so that the line is in use. -/
theorem SendSsi.connecting (hk : k.WritesSucceed) (h : SendSsi k true v o v') :
    v'.bc.privState = .connecting := by
  cases h with
  | refused hb hp => exact absurd hb (by decide)
  | full n hw hr => rfl
  | short n hw hr => exact absurd (hk n) hw

/-- A reset that is asked for is pending, and the line is in use until it is answered. -/
theorem SendReset.calm (hk : k.WritesSucceed) (hi : k.IoctlsSucceed) (h : SendReset k v o v') :
    v'.bc.protoState = .invalid ∧ Calm v v' := by
  cases h with
  | noLine n hn hv => exact absurd (hi.1 n) hn
  | full n hw =>
    refine ⟨rfl, .busy (fun ht => ⟨by simp, noTest_reset ht.2⟩) (by simp [View.Idle])⟩
  | short n hw hn => exact absurd (hk n) hw
  | failed n hw hn => exact absurd (hk n) hw

theorem Posted.calm (hk : k.WritesSucceed) (h : Posted k v o v') : Calm v v' := by
  have hmid (s : ProtoState) (hs : s ≠ .testRampPingActive) (hd : s ≠ .disconnected) :
      Calm v (v.withBc (v.bc.privStateChangeTo (some s) .inSync)) :=
    .busy (fun ht => ⟨hs, ht.2⟩) fun hi => hd hi.1
  cases h with
  | start hs hp ht => exact (hmid .activeDl (by decide) (by decide)).trans (ht.calm hk)
  | restart hs hp => exact hmid .activeDl (by decide) (by decide)
  | stop hs hp hc => exact hmid .connected (by decide) (by decide)
  | close hs hp hc hq => exact (hmid .connected (by decide) (by decide)).trans (hq.calm hk)
  | keep ha hd => exact .refl v

theorem SetupReply.calm (hk : k.WritesSucceed) (hi : k.IoctlsSucceed)
    (h : SetupReply k v o v') : Calm v v' := by
  have h₀ : Calm v { v with respPend := false } := .of_eq rfl rfl rfl
  cases h with
  | ok n hc hr =>
    cases hr with
    | full n hw hp => exact (h₀.trans (hp.calm hk)).trans (.of_eq rfl rfl rfl)
    | short n hw => exact absurd (hk n) hw
  | failed n hc hr hs => exact absurd (hi.2.2 n) hc

/-- A request for speech is pending until its reply has moved the state. -/
theorem SpeechConfig.calm {req : SpeechConfigReq} (hk : k.WritesSucceed) (hi : k.IoctlsSucceed)
    (h : SpeechConfig k req v o v') : Calm v v' := by
  have h₀ : Calm v (speechRequested req v) := by
    refine .busy (fun ht => ht) ?_
    intro hi
    have hp : speechPending req = .inSync := hi.2
    rcases speechPending_cases req with hq | hq <;> simp [hq] at hp
  cases h with
  | now hr => exact h₀.trans (hr.calm hk hi)
  | defer => exact h₀.trans (.of_eq rfl rfl rfl)

/-! ### Words -/

section
variable {cmd : Cmd} {type : ℕ}

/-- Only three types of words can leave a user behind. -/
theorem not_leaksLine_of_type (ht : msgGetType cmd = type)
    (h : type ≠ resetConnResp ∧ type ≠ timingConfigNtf ∧ type ≠ ssiConfigResp) :
    ¬ LeaksLine v (.recv cmd) := by
  subst ht
  rintro (⟨⟨-, ht⟩, -⟩ | ⟨⟨-, ht⟩, -⟩ | ⟨⟨-, ht⟩, -⟩)
  · exact h.1 ht
  · exact h.2.1 ht
  · exact h.2.2 ht

theorem not_leaksLine_of_domain (hd : msgGetDomain cmd ≠ domainControl) :
    ¬ LeaksLine v (.recv cmd) := by
  rintro (⟨⟨hd', -⟩, -⟩ | ⟨⟨hd', -⟩, -⟩ | ⟨⟨hd', -⟩, -⟩) <;> exact hd hd'

theorem leaksLine_resetConnResp (hd : msgGetDomain cmd = domainControl)
    (ht : msgGetType cmd = resetConnResp) :
    LeaksLine v (.recv cmd) ↔ v.bc.privState ≠ .resetBeforeConnect ∧ CallRaised v.wake := by
  simp [LeaksLine, ResetConnRespWord, TimingConfigNtfWord, SsiConfigRespWord, hd, ht]

theorem leaksLine_timingConfigNtf (hd : msgGetDomain cmd = domainControl)
    (ht : msgGetType cmd = timingConfigNtf) :
    LeaksLine v (.recv cmd) ↔
      v.bc.protoState = .disconnected ∧ v.bc.privState = .timing ∧ v.wake ≠ 0 := by
  simp [LeaksLine, ResetConnRespWord, TimingConfigNtfWord, SsiConfigRespWord, hd, ht]

theorem leaksLine_ssiConfigResp (hd : msgGetDomain cmd = domainControl)
    (ht : msgGetType cmd = ssiConfigResp) :
    LeaksLine v (.recv cmd) ↔ (msgDecodeSsiConfigResp cmd).result = ssiConfigResSuccess ∧
      v.bc.privState = .disconnecting ∧ ResetRaised v.wake := by
  simp [LeaksLine, ResetConnRespWord, TimingConfigNtfWord, SsiConfigRespWord, hd, ht]

end

/-- An answer to an SSI configuration, with what the backend makes of it. -/
theorem SsiResp.lowers {resp : SsiConfigResp} (hk : k.WritesSucceed) (hi : k.IoctlsSucceed)
    (h : SsiResp k resp v o v') (ht : v.NoTest) (hn : v.NoLeak) :
    Lowers (resp.result = ssiConfigResSuccess ∧ v.bc.privState = .disconnecting ∧
      ResetRaised v.wake) (afterSsiResp v') := by
  -- a state in which the backend keeps the line is not idle
  have hbusy (w : View) (hw : w.NoTest) (hb : ¬ w.Idle)
      (hbad : ¬ (resp.result = ssiConfigResSuccess ∧ v.bc.privState = .disconnecting ∧
        ResetRaised v.wake)) :
      Lowers (resp.result = ssiConfigResSuccess ∧ v.bc.privState = .disconnecting ∧
        ResetRaised v.wake) (afterSsiResp w) := by
    refine ⟨?_, iff_of_true (fun h => absurd ⟨?_, ?_⟩ hb) hbad⟩
    · unfold afterSsiResp
      split
      · exact ⟨hw.1, noTest_release _ hw.2⟩
      · exact hw
    · exact afterSsiResp_bc w ▸ h.1
    · exact afterSsiResp_bc w ▸ h.2
  cases h with
  | connected hr hp =>
    exact hbusy _ ⟨by simp, ht.2⟩ (by simp [View.Idle]) (by simp [hp])
  | disconnected hr hp =>
    rw [afterSsiResp, if_pos (by simp)]
    refine ⟨⟨by simp, noTest_release _ ht.2⟩, ?_⟩
    have hidle : ((v.withBc v.bc.privResetStateToDisconnected).release wakelineCall).Idle :=
      ⟨rfl, rfl⟩
    rw [View.NoLeak, imp_iff_right hidle]
    simpa [hr, hp] using release_call_eq_zero_iff ht.2
  | reconnect hr hp hc hq =>
    refine hbusy _ ⟨by simp, (hq.noTest ht).2⟩ (by simp [View.Idle]) (by simp [hp])
  | redisconnect hr hp hc hq =>
    refine hbusy _ ⟨by simp, (hq.noTest ht).2⟩ (by simp [View.Idle]) (by simp [hp])
  | ignored hr h₁ h₂ h₃ =>
    by_cases hd : v.bc.protoState = .disconnected ∧ v.bc.privState ≠ .connecting
    · rw [afterSsiResp, if_pos hd]
      refine ⟨⟨ht.1, noTest_release _ ht.2⟩, iff_of_true ?_ (by simp [h₂])⟩
      intro hidle
      rw [View.release_wake, hn hidle]
      decide
    · rw [afterSsiResp, if_neg hd]
      exact (Calm.refl v).lowers ht hn (by simp [h₂])
  | errorPending hr hp hs =>
    obtain ⟨hinv, hcalm⟩ := hs.calm hk hi
    exact hbusy _ (hcalm.noTest ht) (by simp [View.Idle, hinv]) fun hb => hr hb.1
  | error hr h₁ h₂ hs =>
    obtain ⟨hinv, hcalm⟩ := hs.calm hk hi
    exact hbusy _ (hcalm.noTest ht) (by simp [View.Idle, hinv]) fun hb => hr hb.1

theorem noTest_afterPeerReset (v : View) : (afterPeerReset v).NoTest := by
  refine ⟨by simp [afterPeerReset], ?_⟩
  show (0 : BitVec 3) &&& wakelineTestRampPing = 0
  decide

theorem Control.lowers {cmd : Cmd} (hk : k.WritesSucceed) (hi : k.IoctlsSucceed)
    (h : Control k cmd v o v') (hd : msgGetDomain cmd = domainControl) (ht : v.NoTest)
    (hn : v.NoLeak) : Lowers (LeaksLine v (.recv cmd)) v' := by
  cases h with
  | speechConfig hty h =>
    exact (h.calm hk hi).lowers ht hn (not_leaksLine_of_type hty (by decide))
  | uplink hty =>
    refine Calm.lowers ?_ ht hn (not_leaksLine_of_type hty (by decide))
    by_cases hs : v.bc.protoState = .activeDl
    · rw [if_pos hs]
      exact .busy (fun ht => ⟨by simp, ht.2⟩) (by simp [View.Idle])
    · rw [if_neg hs]
      exact .refl v
  | timing hty =>
    rw [leaksLine_timingConfigNtf hd hty]
    obtain ⟨hs, heq⟩ | ⟨hs, hp, heq⟩ | ⟨hs, heq⟩ := bcHandleTimingConfigNtf_cases v.bc
    · rw [heq]
      have hc : Calm v (v.withBc (v.bc.privStateChangeTo (some .activeDlul) .inSync)) :=
        .busy (fun ht => ⟨by simp, ht.2⟩) (by simp [View.Idle])
      exact hc.lowers ht hn (by simp [hs])
    · rw [heq]
      refine ⟨⟨by simpa using ht.1, ht.2⟩, ?_⟩
      simp [View.NoLeak, View.Idle, hp]
    -- A notification that is waited for would have changed `privState`.
    · have hp : v.bc.privState ≠ .timing := by
        intro hp
        have hpriv := congrArg BcState.privState heq
        simp [bcHandleTimingConfigNtf, hs, hp] at hpriv
      rw [heq]
      exact (Calm.refl v).lowers ht hn fun hb => hp hb.2.1
  | ssiResp hty h =>
    rw [leaksLine_ssiConfigResp hd hty]
    exact h.lowers hk hi ht hn
  | resetReq hty h =>
    exact ⟨noTest_afterPeerReset _,
      iff_of_true (fun _ => rfl) (not_leaksLine_of_type hty (by decide))⟩
  | resetResp hty hp =>
    rw [leaksLine_resetConnResp hd hty]
    refine ⟨⟨by simp, noTest_release _ ht.2⟩, ?_⟩
    -- The reset lets go of its own mark; that of a call, if there is one, stays.
    have hidle : ((v.withBc v.bc.privResetStateToDisconnected).release wakelineReset).Idle :=
      ⟨rfl, rfl⟩
    rw [View.NoLeak, imp_iff_right hidle]
    simpa [hp] using release_reset_eq_zero_iff ht.2
  | resetRespConnect hty hp h =>
    rw [leaksLine_resetConnResp hd hty]
    have hbusy := h.connecting hk
    have ht' := h.noTest ⟨by simp, ht.2⟩
    refine ⟨⟨ht'.1, noTest_release _ ht'.2⟩, iff_of_true ?_ fun hb => hb.1 hp⟩
    intro hidle
    exact absurd (hbusy.symm.trans hidle.2) (by decide)

theorem Recv.lowers {cmd : Cmd} (hk : k.WritesSucceed) (hi : k.IoctlsSucceed)
    (h : Recv k cmd v o v') (hr : ¬ TestRampWord cmd) (ht : v.NoTest) (hn : v.NoLeak) :
    Lowers (LeaksLine v (.recv cmd)) v' := by
  have hne : domainInternal ≠ domainControl := by decide
  cases h with
  | control hd e h tstamp he => exact h.lowers hk hi hd ht hn
  | testRampNoBufs hd hty n hc => exact absurd ⟨hd, hty⟩ hr
  | testRamp hd hty h => exact absurd ⟨hd, hty⟩ hr
  | csError hd hty e he =>
    exact ⟨noTest_afterPeerReset v,
      iff_of_true (fun _ => rfl) (not_leaksLine_of_domain (hd ▸ hne))⟩
  | data hd hty => exact (Calm.refl v).lowers ht hn (not_leaksLine_of_domain (hd ▸ hne))
  | unknown h =>
    refine (Calm.refl v).lowers ht hn ?_
    rcases h with ⟨-, hu⟩ | ⟨hd, -⟩
    · exact not_leaksLine_of_type rfl ⟨hu.ne (by decide), hu.ne (by decide), hu.ne (by decide)⟩
    · exact not_leaksLine_of_domain hd

/-! ### Calls of the application -/

theorem CallStatus.calm {b : Bool} (hk : k.WritesSucceed) (hi : k.IoctlsSucceed)
    (h : CallStatus k b v o v') : Calm v v' := by
  cases h with
  | blocked hp => exact .of_eq rfl rfl rfl
  | disconnect h₁ hs h => exact h.calm hk
  | postpone hs hp => exact .busy (fun ht => ht) (by simp [View.Idle])
  | noCall h₁ hs h₂ => exact .refl v
  | connect hs h => exact h.calm hk
  | reconnect hs hp => exact .busy (fun ht => ht) (by simp [View.Idle])
  | reset hs h =>
    obtain ⟨hinv, hcalm⟩ := h.calm hk hi
    exact .busy (fun ht => hcalm.noTest ht) (by simp [View.Idle])
  | crashed hs hc hio h =>
    -- the state is reset, but the connection is asked for at once
    have hbusy := h.connecting hk
    refine .busy (fun ht => h.noTest ⟨by simp, ht.2⟩) ?_
    intro hidle
    exact absurd (hbusy.symm.trans hidle.2) (by decide)
  | already h => exact .refl v

/-- One operation lets go of the line where nothing needs it, unless it is one that leaks. -/
theorem ProtoStep.lowers (hk : k.WritesSucceed) (hi : k.IoctlsSucceed)
    (h : ProtoStep k op v o v') (hr : NoTestRamp op) (ht : v.NoTest) (hn : v.NoLeak) :
    Lowers (LeaksLine v op) v' := by
  cases h with
  | recv h => exact h.lowers hk hi hr ht hn
  | nothing h =>
    refine (Calm.refl v).lowers ht hn ?_
    rcases h with rfl | rfl
    · exact id
    · rename_i flags
      cases flags <;> exact id
  | setWbPreference h => exact (Calm.of_eq rfl rfl rfl).lowers ht hn id
  | @callStatus b v v' o h =>
    -- the request is recorded after the state has moved
    have hrec : Calm v' (v'.withBc { v'.bc with callServerActive := b }) := .of_eq rfl rfl rfl
    exact ((h.calm hk hi).trans hrec).lowers ht hn id
  | callConnect => exact (Calm.of_eq rfl rfl rfl).lowers ht hn id
  | error h => exact (h.calm hk hi).2.lowers ht hn id
  | sendTiming h => exact (h.calm hk).lowers ht hn id
  | sendSsi h => exact (h.calm hk).lowers ht hn id
  | testReq h => exact hr.elim
  | dlAcquireTest hs => exact absurd hs ht.1
  | dlReleaseReply hp h => exact (h.calm hk hi).lowers ht hn id
  | ulReleaseReply hp h => exact (h.calm hk hi).lowers ht hn id
  | _ => exact (Calm.refl v).lowers ht hn id

end Protocol

/-! ### Runs -/

/-- **The wakeline is lowered when nothing is pending**, throughout a run without test ramps
whose writes and `ioctl`s succeed, if and only if no word leaves a user behind. -/
theorem wakeline_noLeak_iff {m : Machine} (hm : nokiamodem.init m) {is : List Step}
    (hk : ∀ i ∈ is, i.1.WritesSucceed ∧ i.1.IoctlsSucceed) (hn : ∀ i ∈ is, NoTestRamp i.2) :
    nokiamodem.Always (fun m => m.bcstate.protoState = .disconnected →
        m.bcstate.privState = .inSync → m.d.wakelineUsers = 0) m is ↔
      nokiamodem.Along (fun m i => ¬ LeaksLine m.view i.2) m is := by
  have hstep (m : Machine) (i : Step) (ht : m.view.NoTest) (hq : m.bcstate.protoState =
      .disconnected → m.bcstate.privState = .inSync → m.d.wakelineUsers = 0)
      (hp : (i.1.WritesSucceed ∧ i.1.IoctlsSucceed) ∧ NoTestRamp i.2) :
      Lowers (LeaksLine m.view i.2) (nokiamodem.next m i).1.view :=
    (nokiamodem_refines m i : ProtoStep i.1 i.2 _ _ _).lowers hp.1.1 hp.1.2 hp.2 ht
      fun h => hq h.1 h.2
  -- Without ramp tests their mark is never set, which is kept along the run.
  refine nokiamodem.always_iff_along (I := fun m => m.view.NoTest)
    (P := fun _ i => (i.1.WritesSucceed ∧ i.1.IoctlsSucceed) ∧ NoTestRamp i.2) ?_ ?_ ?_ ?_ ?_
  · intro m i ht hq hp _
    exact (hstep m i ht hq hp).noTest
  · intro m i ht hq hp
    rw [← (hstep m i ht hq hp).noLeak_iff, View.NoLeak, View.Idle, and_imp]
    rfl
  · obtain ⟨area, old, rfl⟩ := hm
    refine ⟨by simp [Machine.view, cmtspeechOpen, BcState.bcOpen], ?_⟩
    show (0 : BitVec 3) &&& wakelineTestRampPing = 0
    decide
  · obtain ⟨area, old, rfl⟩ := hm
    exact fun _ _ => rfl
  · rw [nokiamodem.along_forall
      fun i : Step => (i.1.WritesSucceed ∧ i.1.IoctlsSucceed) ∧ NoTestRamp i.2]
    exact fun i hi => ⟨hk i hi, hn i hi⟩

/-- The application resets a connection, and the modem answers. -/
def resetAnsweredRun : List Step :=
  [(.accepting, .stateChangeCallStatus true), (.accepting, .recv (msgEncodeSsiConfigResp 1 0)),
    (.accepting, .stateChangeError), (.accepting, .recv msgEncodeResetConnResp)]

/-- A run that raises the line for the call and for the reset, and comes back to
`DISCONNECTED` in sync. -/
theorem wakeline_noLeak_resetAnswered :
    nokiamodem.Always (fun m => m.bcstate.protoState = .disconnected →
        m.bcstate.privState = .inSync → m.d.wakelineUsers = 0) Machine.fresh resetAnsweredRun ↔
      nokiamodem.Along (fun m i => ¬ LeaksLine m.view i.2) Machine.fresh resetAnsweredRun := by
  refine wakeline_noLeak_iff init_fresh
    (by simp [resetAnsweredRun, accepting_writesSucceed, accepting_ioctlsSucceed]) ?_
  simp only [resetAnsweredRun, List.forall_mem_cons, NoTestRamp]
  exact ⟨trivial, by decide, trivial, by decide, by simp⟩

/-- The line of the call stays up: the answer to the reset lets go of the reset's mark alone. -/
theorem wakeline_leaks :
    nokiamodem.init Machine.fresh ∧
      (∀ i ∈ resetAnsweredRun, (i.1.WritesSucceed ∧ i.1.IoctlsSucceed) ∧ NoTestRamp i.2) ∧
      (nokiamodem.exec Machine.fresh resetAnsweredRun).bcstate.protoState = .disconnected ∧
      (nokiamodem.exec Machine.fresh resetAnsweredRun).bcstate.privState = .inSync ∧
      (nokiamodem.exec Machine.fresh resetAnsweredRun).d.wakelineUsers = wakelineCall ∧
      ¬ nokiamodem.Always (fun m => m.bcstate.protoState = .disconnected →
        m.bcstate.privState = .inSync → m.d.wakelineUsers = 0) Machine.fresh
        resetAnsweredRun := by
  refine ⟨init_fresh, ?_, by decide, by decide, by decide, ?_⟩
  · simp only [resetAnsweredRun, List.forall_mem_cons, accepting_writesSucceed,
      accepting_ioctlsSucceed, NoTestRamp]
    exact ⟨⟨⟨trivial, trivial⟩, trivial⟩, ⟨⟨trivial, trivial⟩, by decide⟩,
      ⟨⟨trivial, trivial⟩, trivial⟩, ⟨⟨trivial, trivial⟩, by decide⟩, by simp⟩
  · intro h
    exact absurd (h _ List.prefix_rfl (by decide) (by decide)) (by decide)

end CmtSpeech
