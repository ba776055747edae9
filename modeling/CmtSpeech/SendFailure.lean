import CmtSpeech.RampRequest
import CmtSpeech.Sent

/-!
# Reporting that a message was not sent

Whether a call that sends a control message tells the application that the kernel did not take
all of it.  Timing, SSI and test ramp requests do.  `priv_send_reset` returns what became of the
wakeline after a write that failed, and the number of octets after a write that fell short;
`cmtspeech_state_change_call_status` returns 0 in any case.

* `SendCall` — the calls.
* `FallsShort` — a control message is not written in full.
* `SendCall.Reported` — when the call says so.

## Main result

* `sendFailure_reported_iff`
-/

namespace CmtSpeech

open Protocol

/-- The calls that send a control message and tell the caller how it went. -/
inductive SendCall where
  | stateChangeError
  | stateChangeCallStatus (state : Bool)
  | sendTimingRequest
  | sendSsiConfigRequest (active : Bool)
  | testDataRampReq (rampstart ramplen : BitVec 8)

namespace SendCall

/-- The call as an operation of the library, so that a step can be made with it. -/
def op : SendCall → Op
  | .stateChangeError => .stateChangeError
  | .stateChangeCallStatus state => .stateChangeCallStatus state
  | .sendTimingRequest => .sendTimingRequest
  | .sendSsiConfigRequest active => .sendSsiConfigRequest active
  | .testDataRampReq rampstart ramplen => .testDataRampReq rampstart ramplen

/-- What the call returns, with these answers of the kernel in this state. -/
def result (k : Kernel) (m : Machine) : SendCall → ℤ
  | .stateChangeError => (CmtSpeech.stateChangeError k m).1
  | .stateChangeCallStatus state => (bcStateChangeCallStatus k state m).1
  | .sendTimingRequest => (CmtSpeech.sendTimingRequest k (bcPostCommand k) m).1
  | .sendSsiConfigRequest active =>
    (CmtSpeech.sendSsiConfigRequest k (bcPostCommand k) active m).1
  | .testDataRampReq rampstart ramplen => (CmtSpeech.testDataRampReq k rampstart ramplen m).1

end SendCall

/-- A control message is not written in full: the kernel returned an error, or took a part. -/
def FallsShort (out : List Obs) : Prop := ∃ msg w, .write msg w ∈ out ∧ w.res < ctrlLen

/-- What a step writes decides whether it falls short: one of its writes took less than the
message. -/
theorem fallsShort_iff (m : Machine) (i : Step) :
    FallsShort (nokiamodem.next m i).2 ↔
      ∃ w ∈ (nokiamodem.next m i).1.writes, w.res < ctrlLen := by
  have hlog : (nokiamodem.next m i).1.log = (nokiamodem.next m i).2.filter Obs.visible := rfl
  simp only [Machine.writes, mem_writeRes, hlog, List.mem_filter, FallsShort]
  constructor
  · rintro ⟨msg, w, hm, hw⟩
    exact ⟨w, ⟨msg, hm, rfl⟩, hw⟩
  · rintro ⟨w, ⟨msg, hm, -⟩, hw⟩
    exact ⟨msg, w, hm, hw⟩

/-- A step that writes one message falls short if and only if this write does. -/
theorem fallsShort_iff_of_singleton {m : Machine} {i : Step} {w : WriteRes}
    (hw : (nokiamodem.next m i).1.writes = [w]) :
    FallsShort (nokiamodem.next m i).2 ↔ w.res < ctrlLen := by
  rw [fallsShort_iff, hw]
  simp

/-! ### Requests -/

section
variable (k : Kernel) (m : Machine)

theorem sendTimingRequest_reported (h : (k.write m.tick).res < ctrlLen) :
    (sendTimingRequest k (bcPostCommand k) m).1 = -1 := by
  rw [sendTimingRequest, bcSendTimingRequest]
  rcases bcWriteCommand_leaf k (leafPost_bcPostCommand k _ (.inl msgGetType_newTimingConfigReq)) m
    with ⟨hw, -, -, -⟩ | ⟨hw, hr, -, -⟩
  · omega
  · rw [if_pos (by rw [hr]; exact hw)]

theorem writes_sendTimingRequest :
    (sendTimingRequest k (bcPostCommand k) m).2.writes = m.writes ++ [k.write m.tick] := by
  have hw := writes_bcWriteCommand k
    (leafPost_bcPostCommand k _ (.inl msgGetType_newTimingConfigReq)) m
  rw [sendTimingRequest, bcSendTimingRequest]
  split
  · exact hw
  · exact hw

theorem bcSendSsiConfigRequest_reported {b : Bool} (h : (k.write m.tick).res < ctrlLen) :
    (bcSendSsiConfigRequest k (bcPostCommand k) b m).1 = -1 := by
  rw [bcSendSsiConfigRequest]
  split
  · rfl
  · set m₁ := m.modBc fun s => s.privStateChangeTo none (ssiPending b)
    have hfail : (bcWriteCommand k (bcPostCommand k) (ssiConfigRequest m₁.bcstate b) m₁).1 ≠
        ctrlLen := by
      rcases bcWriteCommand_leaf k
        (leafPost_bcPostCommand k _ (.inr (msgGetType_ssiConfigRequest m₁.bcstate b))) m₁
        with ⟨hw, -, -, -⟩ | ⟨hw, hr, -, -⟩
      · have hw' : (k.write m.tick).res = ctrlLen := hw
        omega
      · rw [hr]
        exact hw
    show (if (bcWriteCommand k (bcPostCommand k)
      (ssiConfigRequest m₁.bcstate b) m₁).1 ≠ ctrlLen then _ else _ : ℤ × Machine).1 = -1
    rw [if_pos hfail]

/-- A request to disconnect is refused while one is on its way. -/
theorem sendSsiConfigRequest_refused (hp : m.bcstate.privState = .disconnecting) :
    sendSsiConfigRequest k (bcPostCommand k) false m = (-1, m) :=
  if_pos ⟨rfl, hp⟩

theorem sendSsiConfigRequest_reported {b : Bool}
    (h : (k.write (m.tick + ssiTick m.d.wakelineUsers b)).res < ctrlLen) :
    (sendSsiConfigRequest k (bcPostCommand k) b m).1 = -1 := by
  rw [sendSsiConfigRequest]
  cases b with
  | false => exact bcSendSsiConfigRequest_reported k m h
  | true =>
    refine bcSendSsiConfigRequest_reported k _ ?_
    rw [if_pos rfl, tick_privAcquireWakeline]
    simpa [ssiTick] using h

/-! ### Resets -/

/-- What a reset that is written from the `t`-th system call on returns: the octets written, or
what became of the line when it is let go. -/
theorem privSendReset_fst (ht : m.tick = 0) {t : ℕ} (h : t ∈ k.resetTick m.d.wakelineUsers) :
    (privSendReset k m).1 =
      if (k.write t).res < 0 then
        if m.d.wakelineUsers &&& ~~~wakelineReset = 0 then k.setWakeline (t + 1) else 0
      else (k.write t).res := by
  have hfst := privAcquireWakeline_fst k wakelineReset m
  have htick := tick_privAcquireWakeline k wakelineReset m
  have hview := view_privAcquireWakeline k wakelineReset m
  rw [ht] at hfst htick
  rw [privSendReset]
  dsimp only
  generalize privAcquireWakeline k wakelineReset m = a at hfst htick hview ⊢
  -- A reset is written only if the line could be raised; `t` is the call of the kernel that writes
  -- it.
  have hraised : a.1 = 0 ∧ a.2.tick = t := by
    rw [Kernel.resetTick] at h
    split_ifs at h hfst htick with hz hl
    · exact ⟨hfst.trans hl, htick.trans (by simpa using h)⟩
    · simp at h
    · exact ⟨hfst, htick.trans (by simpa using h)⟩
  obtain ⟨hup, rfl⟩ := hraised
  have husers : a.2.d.wakelineUsers = m.d.wakelineUsers ||| wakelineReset :=
    congrArg View.wake hview
  rw [if_pos hup]
  by_cases hw : (k.write a.2.tick).res = ctrlLen
  · rw [privWrite, bcWriteCommand_full k (by simp) hw,
      if_neg (by rw [hw]; exact (by decide : ¬ ctrlLen < 0)),
      if_neg (by rw [hw]; exact (by decide : ¬ ctrlLen < 0))]
  · rw [privWrite, bcWriteCommand_short k hw]
    dsimp only
    split
    · -- the line is let go, which is a system call when nobody else holds it
      have hrest : (m.d.wakelineUsers ||| wakelineReset) &&& ~~~wakelineReset =
          m.d.wakelineUsers &&& ~~~wakelineReset := by
        generalize m.d.wakelineUsers = users
        revert users
        decide
      rw [privReleaseWakeline, if_pos (by simp [husers])]
      dsimp only
      rw [Machine.modD_d, Machine.modBc_d, Machine.syscall_d, husers, hrest]
      split <;> rfl
    · rfl

/-- A write of a `RESET_CONN_REQ` that is not complete shows in the result: it fails, nobody
else holds the line, and the line cannot be lowered. -/
def ResetReported (k : Kernel) (wake : BitVec 3) (t : ℕ) : Prop :=
  ctrlLen ≤ (k.write t).res ∨
    (k.write t).res < 0 ∧ wake &&& ~~~wakelineReset = 0 ∧ k.setWakeline (t + 1) < 0

theorem resetReported_iff (ht : m.tick = 0) {t : ℕ} (h : t ∈ k.resetTick m.d.wakelineUsers) :
    ((k.write t).res < ctrlLen → (privSendReset k m).1 < 0) ↔
      ResetReported k m.d.wakelineUsers t := by
  rw [privSendReset_fst k m ht h, ResetReported]
  split_ifs <;> grind

end

/-! ### Calls -/

/-- Which of the system calls of a change of the call status is the write of a control
message. -/
def callStatusTick (k : Kernel) (s : BcState) (wake : BitVec 3) : Bool → Option ℕ
  | false =>
    if s.privState ≠ .configDeactPend ∧ s.protoState = .connected ∧
      s.privState ≠ .disconnecting then some 0 else none
  | true =>
    if s.protoState = .disconnected then some (ssiTick wake true)
    else if s.protoState = .invalid ∨ s.protoState = .testRampPingActive then k.resetTick wake
    else if (s.protoState = .activeDl ∨ s.protoState = .activeDlul) ∧
      s.callServerActive = false ∧ s.ioErrors > 0 then some (ssiTick wake true)
    else none

/-- A message that is not written in full is reported: by requests always, by a reset when
`ResetReported` says so, and by a change of the call status not at all. -/
def SendCall.Reported (k : Kernel) (m : Machine) : SendCall → Prop
  | .stateChangeError =>
    ∀ t ∈ k.resetTick m.d.wakelineUsers, ResetReported k m.d.wakelineUsers t
  | .stateChangeCallStatus state =>
    ∀ t ∈ callStatusTick k m.bcstate m.d.wakelineUsers state, ctrlLen ≤ (k.write t).res
  | .sendTimingRequest | .sendSsiConfigRequest _ | .testDataRampReq _ _ => True

section
variable (k : Kernel) (m : Machine)

theorem writes_bcCallTerminated (ht : m.tick = 0) :
    (bcCallTerminated k m).writes = m.writes ++
      (callStatusTick k m.bcstate m.d.wakelineUsers false).toList.map k.write := by
  rw [bcCallTerminated, callStatusTick]
  by_cases h₁ : m.bcstate.privState = .configDeactPend
  · rw [if_pos h₁, if_neg fun h => h.1 h₁]
    simp [Machine.writes]
  · rw [if_neg h₁]
    by_cases h₂ : m.bcstate.protoState = .connected
    · rw [if_pos h₂]
      by_cases h₃ : m.bcstate.privState = .disconnecting
      · rw [sendSsiConfigRequest_refused k m h₃, if_neg fun h => h.2.2 h₃]
        simp
      · rw [writes_sendSsiConfigRequest k fun h => h₃ h.2, if_pos ⟨h₁, h₂, h₃⟩, ht]
        rfl
    · have hnone : ¬ (m.bcstate.privState ≠ .configDeactPend ∧
          m.bcstate.protoState = .connected ∧ m.bcstate.privState ≠ .disconnecting) :=
        fun h => h₂ h.2.1
      rw [if_neg h₂, if_neg hnone]
      split <;> simp [Machine.writes]

theorem writes_bcCallStarted (ht : m.tick = 0) :
    (bcCallStarted k m).writes = m.writes ++
      (callStatusTick k m.bcstate m.d.wakelineUsers true).toList.map k.write := by
  rw [bcCallStarted, callStatusTick]
  -- At most one write is made, and where the branch makes one depends on the line.
  by_cases h₁ : m.bcstate.protoState = .disconnected
  · rw [if_pos h₁, if_pos h₁, writes_sendSsiConfigRequest k (by simp), ht, Nat.zero_add]
    rfl
  · rw [if_neg h₁, if_neg h₁]
    by_cases h₂ : m.bcstate.protoState = .connected ∧ m.bcstate.privState = .disconnecting
    · rw [if_pos h₂, if_neg (by simp [h₂.1]), if_neg (by simp [h₂.1])]
      simp [Machine.writes]
    · rw [if_neg h₂]
      by_cases h₃ : m.bcstate.protoState = .invalid ∨ m.bcstate.protoState = .testRampPingActive
      · rw [if_pos h₃, if_pos h₃, Machine.writes, log_modBc]
        exact writes_privSendReset k ht
      · rw [if_neg h₃, if_neg h₃]
        by_cases h₄ : m.bcstate.protoState = .activeDl ∨ m.bcstate.protoState = .activeDlul
        · rw [if_pos h₄]
          by_cases h₅ : m.bcstate.callServerActive = true
          · rw [if_pos h₅, if_neg (by simp [h₅])]
            simp
          · rw [if_neg h₅]
            by_cases h₆ : m.bcstate.ioErrors > 0
            · rw [if_pos h₆, if_pos ⟨h₄, by simpa using h₅, h₆⟩,
                writes_sendSsiConfigRequest k (by simp), Machine.modBc_tick, ht, Nat.zero_add]
              rfl
            · rw [if_neg h₆, if_neg fun h => h₆ h.2.2]
              simp
        · rw [if_neg h₄, if_neg fun h => h₄ h.1]
          simp

theorem writes_bcStateChangeCallStatus (state : Bool) :
    (bcStateChangeCallStatus k state m.begin).2.writes =
      (callStatusTick k m.bcstate m.d.wakelineUsers state).toList.map k.write := by
  rw [bcStateChangeCallStatus, Machine.writes, log_modBc]
  cases state with
  | false => exact writes_bcCallTerminated k (m.begin.emit (.callStatus false)) rfl
  | true => exact writes_bcCallStarted k (m.begin.emit (.callStatus true)) rfl

end

/-- **Silent failures**: a call that sends a control message and fails to write it in full
returns a negative value if and only if `SendCall.Reported` says so. -/
theorem sendFailure_reported_iff (k : Kernel) (m : Machine) (c : SendCall) :
    (FallsShort (nokiamodem.next m (k, c.op)).2 → c.result k m.begin < 0) ↔
      c.Reported k m := by
  cases c with
  | stateChangeError =>
    have hwrites : (nokiamodem.next m (k, .stateChangeError)).1.writes =
        (k.resetTick m.d.wakelineUsers).toList.map k.write := writes_privSendReset k rfl
    rw [fallsShort_iff, SendCall.op, hwrites]
    cases hr : k.resetTick m.d.wakelineUsers with
    | none => simp [SendCall.Reported, hr]
    | some t =>
      have hiff := resetReported_iff k m.begin rfl hr
      simpa [SendCall.Reported, SendCall.result, stateChangeError, hr] using hiff
  | stateChangeCallStatus state =>
    have hwrites : (nokiamodem.next m (k, .stateChangeCallStatus state)).1.writes =
        (callStatusTick k m.bcstate m.d.wakelineUsers state).toList.map k.write :=
      writes_bcStateChangeCallStatus k m state
    -- This call returns 0 whatever has become of its write.
    have hres : ¬ (bcStateChangeCallStatus k state m.begin).1 < 0 := lt_irrefl 0
    rw [fallsShort_iff, SendCall.op, hwrites]
    simp [SendCall.Reported, SendCall.result, hres]
  | sendTimingRequest =>
    refine iff_of_true ?_ trivial
    have hwrites : (nokiamodem.next m (k, .sendTimingRequest)).1.writes = [k.write 0] :=
      writes_sendTimingRequest k m.begin
    intro hshort
    rw [SendCall.op, fallsShort_iff_of_singleton hwrites] at hshort
    rw [SendCall.result, sendTimingRequest_reported k m.begin hshort]
    decide
  | sendSsiConfigRequest active =>
    refine iff_of_true ?_ trivial
    intro hshort
    rw [SendCall.result]
    by_cases hr : active = false ∧ m.bcstate.privState = .disconnecting
    · rw [hr.1, sendSsiConfigRequest_refused k m.begin hr.2]
      exact (by decide : (-1 : ℤ) < 0)
    -- Otherwise it writes once, and its result is that of the write.
    · have hwrites : (nokiamodem.next m (k, .sendSsiConfigRequest active)).1.writes =
          [k.write (0 + ssiTick m.d.wakelineUsers active)] :=
        writes_sendSsiConfigRequest k (m := m.begin) hr
      rw [SendCall.op, fallsShort_iff_of_singleton hwrites] at hshort
      rw [sendSsiConfigRequest_reported k m.begin hshort]
      decide
  | testDataRampReq rampstart ramplen =>
    refine iff_of_true ?_ trivial
    intro hshort
    by_contra hres
    obtain ⟨w, s, hfull, hlog⟩ := testDataRampReq_written k m.begin ramplen hres
    have hwrites : (nokiamodem.next m (k, .testDataRampReq rampstart ramplen)).1.writes = [w] :=
      congrArg (List.filterMap Obs.writeRes) hlog
    rw [SendCall.op, fallsShort_iff_of_singleton hwrites] at hshort
    omega

/-- A call that starts and a reset, with a kernel that takes nothing. -/
theorem sendFailure_silent :
    nokiamodem.init Machine.fresh ∧
      (∀ c ∈ [SendCall.stateChangeCallStatus true, .stateChangeError],
        FallsShort (nokiamodem.next Machine.fresh (.unwritable, c.op)).2 ∧
          c.result .unwritable Machine.fresh.begin = 0) := by
  refine ⟨init_fresh, ?_⟩
  simp only [List.forall_mem_cons, List.not_mem_nil, false_implies, implies_true, and_true]
  refine ⟨⟨?_, by decide⟩, ⟨?_, by decide⟩⟩
  · exact ⟨ssiConfigRequest Machine.fresh.bcstate true, ⟨-1, eio⟩, by decide, by decide⟩
  · exact ⟨msgEncodeResetConnReq, ⟨-1, eio⟩, by decide, by decide⟩

end CmtSpeech
