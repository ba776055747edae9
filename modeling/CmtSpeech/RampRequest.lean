import CmtSpeech.DataStep

/-!
# Asking for a test ramp

`cmtspeech_test_data_ramp_req` makes a buffer layout for the ramp and raises the wakeline
before it looks at the protocol state, and takes neither back.

* `RampSent` — the request goes out.
* `RampKept` — what a request that does not is to leave alone.

## Main results

* `testDataRampReq_fst` — the result, by the state the call is made in and the kernel.
* `rampRefused_kept_iff` — when a request that fails has changed nothing.
-/

namespace CmtSpeech

open Protocol

/-- Which of the system calls of the request raises the wakeline: a new layout costs two. -/
def rampTick (b : BufState) (ramplen : BitVec 8) : ℕ :=
  if b.slotSize = testSlotSize ramplen then 0 else 2

/-- The layout is there or the driver takes it, the line is up or can be raised, no call is
on, and the kernel takes the message. -/
structure RampSent (k : Kernel) (m : Machine) (ramplen : BitVec 8) : Prop where
  layout : m.buf.slotSize ≠ testSlotSize ramplen → 0 ≤ k.configBufs 1
  line : m.d.wakelineUsers = 0 → 0 ≤ k.setWakeline (rampTick m.buf ramplen)
  idle : m.bcstate.protoState = .disconnected
  written : (k.write (rampTick m.buf ramplen +
    if m.d.wakelineUsers = 0 then 1 else 0)).res = ctrlLen

/-- What a request that fails is to leave alone: the protocol state, the descriptors and the
positions in the stream, and the users of the wakeline. -/
structure RampKept (m m' : Machine) : Prop where
  protoState : m'.bcstate.protoState = m.bcstate.protoState
  privState : m'.bcstate.privState = m.bcstate.privState
  slotSize : m'.buf.slotSize = m.buf.slotSize
  dlbufdesc : m'.buf.dlbufdesc = m.buf.dlbufdesc
  ulbufdesc : m'.buf.ulbufdesc = m.buf.ulbufdesc
  rxPtrHw : m'.buf.rxPtrHw = m.buf.rxPtrHw
  rxPtrAppl : m'.buf.rxPtrAppl = m.buf.rxPtrAppl
  ulSlotApp : m'.buf.ulSlotApp = m.buf.ulSlotApp
  wakelineUsers : m'.d.wakelineUsers = m.d.wakelineUsers

/-- Whatever becomes of it, the request sets the slot size. -/
theorem Protocol.ProtoStep.testReq_slotSize {k : Kernel} {rampstart ramplen : BitVec 8}
    {v v' : View} {o : List Obs} (h : ProtoStep k (.testDataRampReq rampstart ramplen) v o v') :
    v'.slotSize = testSlotSize ramplen := by
  cases h with
  | testReq h => cases h <;> rfl

section
variable (k : Kernel) (m : Machine) (ramplen : BitVec 8)

/-- The layout for the ramp: what is asked of the driver, and what that costs. -/
theorem privInitBufconfigForTestRampPing_tick :
    (privInitBufconfigForTestRampPing k ramplen m).2.tick = m.tick + rampTick m.buf ramplen ∧
      (privInitBufconfigForTestRampPing k ramplen m).1 =
        if m.buf.slotSize = testSlotSize ramplen then 0 else k.configBufs (m.tick + 1) := by
  unfold privInitBufconfigForTestRampPing rampTick
  dsimp only
  by_cases hz : m.buf.slotSize = testSlotSize ramplen
  · rw [if_neg (not_not.mpr hz), if_pos hz, if_pos hz]
    exact ⟨rfl, rfl⟩
  · rw [if_pos hz, if_neg hz, if_neg hz]
    exact privSetupDriverBufconfig_tick k _

/-- The request itself: what it returns, and that it moves the state only when it goes
out. -/
theorem bcTestDataRampReq_cases (rampstart : BitVec 8) :
    (m.bcstate.protoState = .disconnected ∧ (k.write m.tick).res = ctrlLen ∧
      (bcTestDataRampReq k (BitVec.ofNat 8 domainControl) (BitVec.ofNat 8 domainData) rampstart
        ramplen m).1 = 0 ∧
      (bcTestDataRampReq k (BitVec.ofNat 8 domainControl) (BitVec.ofNat 8 domainData) rampstart
          ramplen m).2.log =
        m.log ++ [.write (testRampMsg rampstart ramplen) (k.write m.tick),
          .posted (testRampMsg rampstart ramplen) m.bcstate.written]) ∨
    (¬ (m.bcstate.protoState = .disconnected ∧ (k.write m.tick).res = ctrlLen) ∧
      (bcTestDataRampReq k (BitVec.ofNat 8 domainControl) (BitVec.ofNat 8 domainData) rampstart
        ramplen m).1 = -1 ∧
      ∃ s, (s = m.bcstate ∨ s = m.bcstate.unwritten) ∧
        (bcTestDataRampReq k (BitVec.ofNat 8 domainControl) (BitVec.ofNat 8 domainData) rampstart
          ramplen m).2.view = m.view.withBc s) := by
  unfold bcTestDataRampReq
  by_cases hs : m.bcstate.protoState = .disconnected
  · rw [if_neg (not_not.mpr hs)]
    -- Nothing is done after the write of a TEST_RAMP_PING.
    have hpost : ∀ m, bcPostCommand k (testRampMsg rampstart ramplen) m = m :=
      bcPostCommand_leaf k (by rw [msgGetType_testRampMsg]; decide)
        (by rw [msgGetType_testRampMsg]; decide)
    rcases bcWriteCommand_leaf k hpost m with ⟨hw, hr, hl, -⟩ | ⟨hw, hr, -, hv⟩
    · dsimp only
      rw [if_neg (not_not.mpr hr)]
      exact .inl ⟨hs, hw, rfl, hl⟩
    · dsimp only
      rw [if_pos (by rw [hr]; exact hw)]
      exact .inr ⟨fun h => hw h.2, rfl, _, .inr rfl, hv⟩
  · rw [if_pos hs]
    exact .inr ⟨fun h => hs h.1, rfl, _, .inl rfl, rfl⟩

/-- **The result**: nothing is returned but 0 and what stands for a failure. -/
theorem testDataRampReq_fst (rampstart : BitVec 8) :
    (testDataRampReq k rampstart ramplen m.begin).1 < 0 ↔ ¬ RampSent k m ramplen := by
  obtain ⟨htick, hfst⟩ := privInitBufconfigForTestRampPing_tick k m.begin ramplen
  obtain ⟨-, hview, -⟩ := privInitBufconfigForTestRampPing_spec k ramplen m.begin
  rw [begin_buf, begin_tick, Nat.zero_add] at htick hfst
  unfold testDataRampReq
  dsimp only
  generalize privInitBufconfigForTestRampPing k ramplen m.begin = c at htick hfst hview ⊢
  have hwake : c.2.d.wakelineUsers = m.d.wakelineUsers := congrArg View.wake hview
  have hbc : c.2.bcstate = m.bcstate := congrArg View.bc hview
  have hline := privAcquireWakeline_fst k wakelineTestRampPing c.2
  have hspent := tick_privAcquireWakeline k wakelineTestRampPing c.2
  rw [hwake, htick] at hline hspent
  -- Three calls of the kernel can refuse: the layout, the line, the write.
  by_cases hc : c.1 < 0
  · rw [if_pos hc, iff_true_left hc]
    intro h
    have hz : m.buf.slotSize ≠ testSlotSize ramplen := by
      intro hz
      rw [if_pos hz] at hfst
      omega
    rw [if_neg hz] at hfst
    exact absurd (h.layout hz) (by rw [← hfst]; omega)
  · rw [if_neg hc]
    have hlayout : m.buf.slotSize ≠ testSlotSize ramplen → 0 ≤ k.configBufs 1 := by
      intro hz
      rw [if_neg hz] at hfst
      omega
    have hacq : (privAcquireWakeline k wakelineTestRampPing c.2).2.bcstate = m.bcstate :=
      (congrArg View.bc (view_privAcquireWakeline k wakelineTestRampPing c.2)).trans hbc
    generalize privAcquireWakeline k wakelineTestRampPing c.2 = a at hline hspent hacq ⊢
    by_cases ha : a.1 < 0
    · rw [if_pos ha, iff_true_left ha]
      intro h
      have hz : m.d.wakelineUsers = 0 := by
        by_contra hz
        rw [if_neg hz] at hline
        omega
      rw [if_pos hz] at hline
      exact absurd (h.line hz) (by rw [← hline]; omega)
    · rw [if_neg ha]
      have hup : m.d.wakelineUsers = 0 → 0 ≤ k.setWakeline (rampTick m.buf ramplen) := by
        intro hz
        rw [if_pos hz] at hline
        omega
      rcases bcTestDataRampReq_cases k a.2 ramplen rampstart with ⟨hs, hw, hr, -⟩ | ⟨hn, hr, -⟩
      · rw [hacq] at hs
        rw [hspent] at hw
        exact iff_of_false (by rw [hr]; decide) (not_not.mpr ⟨hlayout, hup, hs, hw⟩)
      · rw [hacq, hspent] at hn
        exact iff_of_true (by rw [hr]; decide) fun h => hn ⟨h.idle, h.written⟩

/-- A request that does not fail has been written in full. -/
theorem testDataRampReq_written {rampstart : BitVec 8}
    (h : ¬ (testDataRampReq k rampstart ramplen m).1 < 0) : ∃ w s, w.res = ctrlLen ∧
      (testDataRampReq k rampstart ramplen m).2.log =
        m.log ++ [.write (testRampMsg rampstart ramplen) w,
          .posted (testRampMsg rampstart ramplen) s] := by
  obtain ⟨hlog, -, -⟩ := privInitBufconfigForTestRampPing_spec k ramplen m
  unfold testDataRampReq at h ⊢
  dsimp only at h ⊢
  generalize privInitBufconfigForTestRampPing k ramplen m = c at h hlog ⊢
  have hline := log_privAcquireWakeline k wakelineTestRampPing c.2
  generalize privAcquireWakeline k wakelineTestRampPing c.2 = a at h hline ⊢
  by_cases hc : c.1 < 0
  · exact absurd hc (by rwa [if_pos hc] at h)
  · rw [if_neg hc] at h ⊢
    by_cases ha : a.1 < 0
    · exact absurd ha (by rwa [if_pos ha] at h)
    · rw [if_neg ha] at h ⊢
      rcases bcTestDataRampReq_cases k a.2 ramplen rampstart with ⟨-, hw, -, hl⟩ | ⟨-, hr, -⟩
      · exact ⟨_, _, hw, by rw [hl, hline, hlog]⟩
      · exact absurd (hr.trans_lt (by decide)) h

/-- The layout stays when it is the one for the ramp already: then a request that fails has
recorded a user of the wakeline, and nothing else. -/
theorem testDataRampReq_sameLayout (hz : m.buf.slotSize = testSlotSize ramplen)
    {rampstart : BitVec 8} (h : (testDataRampReq k rampstart ramplen m).1 < 0) :
    ∃ s, (s = m.bcstate ∨ s = m.bcstate.unwritten) ∧
      (testDataRampReq k rampstart ramplen m).2.view =
        (m.view.acquire wakelineTestRampPing).withBc s := by
  have hsame : privInitBufconfigForTestRampPing k ramplen m = (0, m) := if_neg (not_not.mpr hz)
  have hview := view_privAcquireWakeline k wakelineTestRampPing m
  unfold testDataRampReq at h ⊢
  simp only [hsame, lt_irrefl, if_false] at h ⊢
  have hbc : (privAcquireWakeline k wakelineTestRampPing m).2.bcstate = m.bcstate :=
    congrArg View.bc hview
  split
  · exact ⟨_, .inl rfl, hview⟩
  · next ha =>
    rw [if_neg ha] at h
    rcases bcTestDataRampReq_cases k (privAcquireWakeline k wakelineTestRampPing m).2 ramplen
      rampstart with ⟨-, -, hr, -⟩ | ⟨-, -, s, hs, hv⟩
    · exact absurd (h.trans_eq' hr) (by decide)
    · rw [hbc] at hs
      rw [hview] at hv
      exact ⟨s, hs, hv⟩

end

/-- Recording a user that is recorded already changes nothing, and recording one that is not
does. -/
theorem acquire_testRampPing_iff (users : BitVec 3) :
    users ||| wakelineTestRampPing = users ↔ users &&& wakelineTestRampPing ≠ 0 := by
  revert users
  decide

/-- **A request that fails**: outside `DISCONNECTED` it does, and whenever it does, the state
is what it was if and only if the buffers had the layout for the ramp and the wakeline was held
for one. -/
theorem rampRefused_kept_iff (k : Kernel) (m : Machine) (rampstart ramplen : BitVec 8) :
    (m.bcstate.protoState ≠ .disconnected →
        (testDataRampReq k rampstart ramplen m.begin).1 < 0) ∧
      (((testDataRampReq k rampstart ramplen m.begin).1 < 0 →
          RampKept m (nokiamodem.next m (k, .testDataRampReq rampstart ramplen)).1) ↔
        RampSent k m ramplen ∨
          m.buf.slotSize = testSlotSize ramplen ∧
            m.d.wakelineUsers &&& wakelineTestRampPing ≠ 0) := by
  have hres := testDataRampReq_fst k m ramplen rampstart
  refine ⟨fun hs => hres.mpr fun h => hs h.idle, ?_⟩
  by_cases hsent : RampSent k m ramplen
  · exact iff_of_true (fun h => absurd hsent (hres.mp h)) (.inl hsent)
  · have hneg := hres.mpr hsent
    simp only [hneg, true_implies, hsent, false_or]
    -- A ramp of the present slot size lays out nothing; what may change then is the mark of the
    -- line.
    by_cases hz : m.buf.slotSize = testSlotSize ramplen
    · rw [and_iff_right hz, ← acquire_testRampPing_iff]
      have hquiet := data_testDataRampReq k m.begin rampstart ramplen
      have hsame : privInitBufconfigForTestRampPing k ramplen m.begin = (0, m.begin) :=
        if_neg (not_not.mpr hz)
      rw [hsame] at hquiet
      have hbuf : (nokiamodem.next m (k, .testDataRampReq rampstart ramplen)).1.buf = m.buf :=
        hquiet.buf
      obtain ⟨s, hs, hview⟩ := testDataRampReq_sameLayout k m.begin ramplen hz hneg
      have hwake : (nokiamodem.next m (k, .testDataRampReq rampstart ramplen)).1.d.wakelineUsers =
          m.d.wakelineUsers ||| wakelineTestRampPing := congrArg View.wake hview
      have hbc : (nokiamodem.next m (k, .testDataRampReq rampstart ramplen)).1.bcstate = s :=
        congrArg View.bc hview
      constructor
      · exact fun h => hwake.symm.trans h.wakelineUsers
      · intro hheld
        constructor
        · rw [hbc]
          rcases hs with rfl | rfl <;> rfl
        · rw [hbc]
          rcases hs with rfl | rfl <;> rfl
        · rw [hbuf]
        · rw [hbuf]
        · rw [hbuf]
        · rw [hbuf]
        · rw [hbuf]
        · rw [hbuf]
        · exact hwake.trans hheld
    · -- the new slot size stays
      rw [iff_false_right fun h => hz h.1]
      intro h
      have hstep := nokiamodem_refines m (k, .testDataRampReq rampstart ramplen)
      have hsize : (nokiamodem.next m (k, .testDataRampReq rampstart ramplen)).1.view.slotSize =
          testSlotSize ramplen := hstep.testReq_slotSize
      exact hz (h.slotSize.symm.trans hsize)

/-- A call with a downlink, at the sample rate the word asks for, whose slots the ramp does not
fit. -/
def downlinkRun : List Step :=
  [(.accepting, .stateChangeCallStatus true), (.accepting, .recv (msgEncodeSsiConfigResp 1 0)),
    (.accepting, .recv (speechConfigReqMsg true))]

/-- The ramp is refused because of the call, whose slots have another size from then on. -/
theorem rampRefused_disturbs :
    nokiamodem.init Machine.fresh ∧
      (nokiamodem.exec Machine.fresh downlinkRun).bcstate.protoState = .activeDl ∧
      (testDataRampReq .accepting 0 1 (nokiamodem.exec Machine.fresh downlinkRun).begin).1 = -1 ∧
      ¬ RampKept (nokiamodem.exec Machine.fresh downlinkRun)
        (nokiamodem.next (nokiamodem.exec Machine.fresh downlinkRun)
          (.accepting, .testDataRampReq 0 1)).1 := by
  refine ⟨init_fresh, by decide, by decide, ?_⟩
  intro h
  exact absurd h.slotSize (by decide)

end CmtSpeech
