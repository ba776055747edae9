import CmtSpeech.Sent
import Mathlib.Tactic.MkIffOfInductiveProp

/-!
# Waiting for an answer

The private states that wait for the modem, against the requests that were written in full.
The send helpers take the state back when a write fails; two of their callers set it again
afterwards.

* `BcState.WaitsFor` — a waiting state has something to wait for.
* `Strands`, `StrandsRequest` — the steps that start to wait although nothing was written, as
  the protocol layer sees them and by what the kernel answers.

## Main result

* `waitsFor_iff` — waiting states have something to wait for throughout a run exactly when
  no step of it is a `StrandsRequest`.
-/

namespace CmtSpeech

open Protocol

/-- A waiting state has something to wait for: a request for which the answer has not come.  In a
state that waits for nothing the library would never move again. -/
structure BcState.WaitsFor (s : BcState) (g : Waiting) : Prop where
  ssi : s.privState.SsiPending → g.ssi = true
  reset : s.privState = .resetBeforeConnect → g.reset = true

/-- The same, and `INVALID` waits for a reset.  It is this that a step keeps, since `priv_state`
can come to wait for a reset that was sent before. -/
@[mk_iff] structure Owed (s : BcState) (g : Waiting) : Prop where
  ssi : s.privState.SsiPending → g.ssi = true
  reset : s.privState = .resetBeforeConnect → g.reset = true
  invalid : s.protoState = .invalid → g.reset = true

theorem Owed.waitsFor {s : BcState} {g : Waiting} (h : Owed s g) : s.WaitsFor g :=
  ⟨h.ssi, h.reset⟩

/-! ### What the modem owes after a message -/

section
variable (g : Waiting) {w : WriteRes}

@[simp] theorem upd_posted (msg : Cmd) (s : BcState) : g.upd (.posted msg s) = g := rfl

@[simp] theorem upd_queued (e : Event) : g.upd (.queued e) = g := rfl

@[simp] theorem upd_callStatus (b : Bool) : g.upd (.callStatus b) = g := rfl

theorem upd_short (msg : Cmd) (hw : w.res ≠ ctrlLen) : g.upd (.write msg w) = g := if_neg hw

theorem upd_other {msg : Cmd} (hm : msg.kind ≠ .resetConnReq)
    (hs : ∀ b, msg.kind ≠ .ssiConfigReq b) : g.upd (.write msg w) = g := by
  rw [Waiting.upd]
  split
  · rcases hk : msg.kind with _ | b | r | _
    · exact absurd hk hm
    · exact absurd hk (hs b)
    · rfl
    · rfl
  · rfl

@[simp] theorem upd_newTimingConfigReq : g.upd (.write msgEncodeNewTimingConfigReq w) = g :=
  upd_other g (by simp) (by simp)

@[simp] theorem upd_speechConfigResp (r : BitVec 8) :
    g.upd (.write (msgEncodeSpeechConfigResp r) w) = g :=
  upd_other g (by simp) (by simp)

theorem upd_ssi (s : BcState) (b : Bool) (hw : w.res = ctrlLen) :
    g.upd (.write (ssiConfigRequest s b) w) = { g with ssi := true } := by
  simp [Waiting.upd, hw]

theorem upd_reset (hw : w.res = ctrlLen) :
    g.upd (.write msgEncodeResetConnReq w) = { g with reset := true } := by
  simp [Waiting.upd, hw]

end

namespace Protocol

variable {k : Kernel} {v v' : View} {o : List Obs} {op : Op} {g : Waiting}

theorem Send.owed {msg : Cmd} (h : Send k msg v o v') (hm : msg.kind = .other)
    (hg : Owed v.bc g) : Owed v'.bc (o.foldl Waiting.upd g) := by
  have hu (w : WriteRes) : g.upd (.write msg w) = g := upd_other g (by simp [hm]) (by simp [hm])
  cases h <;> simpa [hu, owed_iff] using hg

theorem SendTiming.owed (h : SendTiming k v o v') (hg : Owed v.bc g) :
    Owed v'.bc (o.foldl Waiting.upd g) := by
  cases h with
  | full n hw => simpa [owed_iff] using hg.invalid
  | short n hw => simpa [owed_iff] using hg

theorem SendSsi.owed {b : Bool} (h : SendSsi k b v o v') (hg : Owed v.bc g) :
    Owed v'.bc (o.foldl Waiting.upd g) := by
  cases h with
  | refused hb hp => exact hg
  | full n hw hr =>
    refine ⟨?_, ?_, ?_⟩
    · simp [upd_ssi g _ _ hw]
    · cases b <;> simp
    · simpa [upd_ssi g _ _ hw] using hg.invalid
  | short n hw hr => simpa [upd_short g _ hw, owed_iff] using hg.invalid

theorem SendReset.owed (h : SendReset k v o v') (hg : Owed v.bc g) :
    Owed v'.bc (o.foldl Waiting.upd g) := by
  cases h with
  | noLine n hl hv => exact hg
  | full n hw => simp [upd_reset g hw, owed_iff]
  | short n hw hn => simpa [upd_short g _ hw, owed_iff] using hg
  | failed n hw hn => simpa [upd_short g _ hw, owed_iff] using hg

theorem Posted.owed (h : Posted k v o v') (hg : Owed v.bc g) :
    Owed v'.bc (o.foldl Waiting.upd g) := by
  cases h with
  | start hs hp ht => exact ht.owed (by simp [owed_iff])
  | restart hs hp => simp [owed_iff]
  | stop hs hp hc => simp [owed_iff]
  | close hs hp hc hq => exact hq.owed (by simp [owed_iff])
  | keep ha hd => exact hg

theorem ReplyOk.owed (h : ReplyOk k v o v') (hg : Owed v.bc g) :
    Owed v'.bc (o.foldl Waiting.upd g) := by
  cases h with
  | full n hw hp => simpa [owed_iff] using hp.owed hg
  | short n hw => simpa [owed_iff] using hg

theorem ReplyErr.owed (h : ReplyErr k v o v') (hg : Owed v.bc g) :
    Owed v'.bc (o.foldl Waiting.upd g) := by
  cases h with
  | full n hw => simpa [owed_iff] using hg.invalid
  | short n hw => simpa [owed_iff] using hg

theorem SetupReply.owed (h : SetupReply k v o v') (hg : Owed v.bc g) :
    Owed v'.bc (o.foldl Waiting.upd g) := by
  cases h with
  | ok n hc hr => exact hr.owed hg
  | failed n hc hr hs =>
    rw [List.foldl_append]
    exact hs.owed (hr.owed hg)

theorem SpeechConfig.owed {req : SpeechConfigReq} (h : SpeechConfig k req v o v')
    (hg : Owed v.bc g) : Owed v'.bc (o.foldl Waiting.upd g) := by
  have hreq : Owed (v.bc.privStateChangeTo none (speechPending req)) g := by
    refine ⟨fun h => absurd h (not_ssiPending_speechPending req), ?_, hg.invalid⟩
    rcases speechPending_cases req with hp | hp <;> simp [hp]
  cases h with
  | now hr => exact hr.owed hreq
  | defer => exact hreq

/-! ### Inbound words -/

/-- After the response nothing is owed for the old request, so a postponed one has to be
written in full. -/
theorem SsiResp.owed {resp : SsiConfigResp} (h : SsiResp k resp v o v') (hg : Owed v.bc g)
    (hf : v.bc.privState = .ssiConfigPend → WritesInFull o) :
    Owed v'.bc (o.foldl Waiting.upd { g with ssi := false }) := by
  cases h with
  | connected hr hp => simp [owed_iff]
  | disconnected hr hp => simp [owed_iff]
  | reconnect hr hp hc hq =>
    -- the mark is set again after the helper, so only a full write justifies it
    have hfull := hf hp
    cases hq with
    | refused hb hp => exact absurd hb (by decide)
    | full n hw hr => simp [owed_iff, upd_ssi _ _ _ hw]
    | short n hw hr => simp [hw] at hfull
  | redisconnect hr hp hc hq =>
    have hfull := hf hp
    cases hq with
    | refused hb hp' => simp [hp] at hp'
    | full n hw hr => simp [owed_iff, upd_ssi _ _ _ hw]
    | short n hw hr => simp [hw] at hfull
  | ignored hr h₁ h₂ h₃ =>
    refine ⟨?_, hg.reset, hg.invalid⟩
    intro h
    rcases h with h | h | h
    · exact absurd h h₁
    · exact absurd h h₂
    · exact absurd h h₃
  | errorPending hr hp hs => exact hs.owed ⟨by simp, by simp, hg.invalid⟩
  | error hr h₁ h₂ hs =>
    -- an error in `SSI_CONFIG_PEND` leaves the mark unless the reset gets through
    by_cases hp : v.bc.privState = .ssiConfigPend
    · have hfull := hf hp
      cases hs with
      | noLine n hl hv => simp at hfull
      | full n hw => simp [owed_iff, upd_reset _ hw]
      | short n hw hn => simp [hw] at hfull
      | failed n hw hn => simp [hw] at hfull
    · refine hs.owed ⟨?_, hg.reset, hg.invalid⟩
      intro h
      rcases h with h | h | h
      · exact absurd h h₁
      · exact absurd h h₂
      · exact absurd h hp

/-- A postponed request that is not written in full leaves a state waiting for nothing. -/
theorem SsiResp.stranded {resp : SsiConfigResp} (h : SsiResp k resp v o v')
    (hp : v.bc.privState = .ssiConfigPend) (hf : ¬ WritesInFull o) :
    v'.bc.privState.SsiPending ∧ (∀ g : Waiting, o.foldl Waiting.upd g = g) ∧
      (v'.bc.protoState = .invalid → v.bc.protoState = .invalid) := by
  cases h with
  | connected hr hp' => simp [hp] at hp'
  | disconnected hr hp' => simp [hp] at hp'
  -- The request that was postponed is not written in full: nothing is outstanding, and the state
  -- waits for an answer to it.
  | reconnect hr hp' hc hq =>
    cases hq with
    | refused hb hp => exact absurd hb (by decide)
    | full n hw hr => simp [hw] at hf
    | short n hw hr => simp [PrivState.SsiPending, upd_short _ _ hw]
  | redisconnect hr hp' hc hq =>
    cases hq with
    | refused hb hp'' => simp [hp] at hp''
    | full n hw hr => simp [hw] at hf
    | short n hw hr => simp [PrivState.SsiPending, upd_short _ _ hw]
  | ignored hr h₁ h₂ h₃ => exact absurd hp h₃
  | errorPending hr hp' hs => simp [hp] at hp'
  | error hr h₁ h₂ hs =>
    cases hs with
    | noLine n hl hv => simp [PrivState.SsiPending, hp]
    | full n hw => simp [hw] at hf
    | short n hw hn => simp [PrivState.SsiPending, hp, upd_short _ _ hw]
    | failed n hw hn => simp [PrivState.SsiPending, hp, upd_short _ _ hw]

theorem Control.owed {cmd : Cmd} (h : Control k cmd v o v') (hd : msgGetDomain cmd = domainControl)
    (hg : Owed v.bc g)
    (hf : SsiConfigRespWord cmd → v.bc.privState = .ssiConfigPend → WritesInFull o) :
    Owed v'.bc ((Obs.recv cmd :: o).foldl Waiting.upd g) := by
  rw [List.foldl_cons]
  -- A word that answers nothing leaves what is waited for as it is.
  have hkeep (h : AnswersNothing cmd) : g.upd (.recv cmd) = g := by
    rw [Waiting.upd, if_neg h.reset, if_neg h.ssi]
  have hreset (h₁ : ResetWord cmd) : g.upd (.recv cmd) = .none := if_pos h₁
  cases h with
  | speechConfig ht h =>
    rw [hkeep (answersNothing_of_type hd ht (by decide))]
    exact h.owed hg
  | uplink ht =>
    rw [hkeep (answersNothing_of_type hd ht (by decide))]
    by_cases hs : v.bc.protoState = .activeDl
    · simp [hs, owed_iff]
    · simpa [hs] using hg
  | timing ht =>
    rw [hkeep (answersNothing_of_type hd ht (by decide))]
    rw [View.withBc_bc]
    obtain ⟨hs, heq⟩ | ⟨hs, hp, heq⟩ | ⟨hs, heq⟩ := bcHandleTimingConfigNtf_cases v.bc
    · simp [heq, owed_iff]
    · simpa [heq, owed_iff] using hg.invalid
    · rwa [heq]
  | ssiResp ht h =>
    have hw : SsiConfigRespWord cmd := ⟨hd, ht⟩
    have hu : g.upd (.recv cmd) = { g with ssi := false } := by
      rw [Waiting.upd, if_neg (by simp [ResetWord, hd, ht]), if_pos hw]
    rw [afterSsiResp_bc, hu]
    exact h.owed hg (hf hw)
  | resetReq ht h =>
    rw [hreset (by simp [ResetWord, hd, ht])]
    cases h <;> simp [afterPeerReset, owed_iff]
  | resetResp ht hp =>
    rw [hreset (by simp [ResetWord, hd, ht])]
    simp [owed_iff]
  | resetRespConnect ht hp h =>
    rw [hreset (by simp [ResetWord, hd, ht])]
    exact h.owed (by simp [owed_iff])

/-- A word from the driver settles what it answers, and what it makes the library ask is owed. -/
theorem Recv.owed {cmd : Cmd} (h : Recv k cmd v o v') (hg : Owed v.bc g)
    (hf : SsiConfigRespWord cmd → v.bc.privState = .ssiConfigPend → WritesInFull o) :
    Owed v'.bc (o.foldl Waiting.upd g) := by
  have hkeep (h : AnswersNothing cmd) : g.upd (.recv cmd) = g := by
    rw [Waiting.upd, if_neg h.reset, if_neg h.ssi]
  cases h with
  | control hd e h tstamp he =>
    rw [← List.cons_append, List.foldl_append]
    refine h.owed hd hg ?_
    intro hw hp
    have := hf hw hp
    rwa [writesInFull_cons (by simp), writesInFull_append_queued] at this
  | testRampNoBufs hd ht n hc =>
    rw [List.foldl_cons, hkeep (answersNothing_of_type hd ht (by decide))]
    exact hg
  | testRamp hd ht h =>
    rw [List.foldl_cons, hkeep (answersNothing_of_type hd ht (by decide))]
    exact h.owed (kind_driverMessage 0) hg
  -- A reset of the driver answers everything.
  | csError hd ht e he =>
    have hw : ResetWord cmd := Or.inr ⟨hd, ht⟩
    simp [Waiting.upd, hw, afterPeerReset, owed_iff]
  | data hd ht =>
    rw [List.foldl_cons, hkeep (answersNothing_of_data hd ht)]
    exact hg
  | unknown h =>
    rw [List.foldl_cons, hkeep (answersNothing_of_unknown h)]
    exact hg

/-! ### Calls of the application -/

/-- A call status cannot start a wait by itself, a reset from the test ramp apart. -/
theorem CallStatus.owed {b : Bool} (h : CallStatus k b v o v') (hg : Owed v.bc g)
    (hf : b = true → v.bc.protoState = .testRampPingActive → g.reset = false → WritesInFull o) :
    Owed v'.bc (o.foldl Waiting.upd g) := by
  cases h with
  | blocked hp => simpa [owed_iff] using hg
  | disconnect h₁ hs h => exact h.owed hg
  | postpone hs hp => exact ⟨fun _ => hg.ssi (Or.inl hp), by simp, hg.invalid⟩
  | noCall h₁ hs h₂ => exact hg
  | connect hs h => exact h.owed hg
  | reconnect hs hp => exact ⟨fun _ => hg.ssi (Or.inr (Or.inl hp)), by simp, hg.invalid⟩
  | reset hs h =>
    have hr : (o.foldl Waiting.upd g).reset = true := by
      rcases hgr : g.reset with _ | _
      · -- no reset is owed, so the state is not `INVALID` and the request has been written
        have hs' : v.bc.protoState = .testRampPingActive :=
          hs.resolve_left fun hs => by simp [hg.invalid hs] at hgr
        have hfull := hf rfl hs' hgr
        cases h with
        | noLine n hl hv => simp at hfull
        | full n hw => simp [upd_reset g hw]
        | short n hw hn => simp [hw] at hfull
        | failed n hw hn => simp [hw] at hfull
      · cases h with
        | noLine n hl hv => exact hgr
        | full n hw => simp [upd_reset g hw]
        | short n hw hn => simpa [upd_short g _ hw] using hgr
        | failed n hw hn => simpa [upd_short g _ hw] using hgr
    exact ⟨by simp, fun _ => hr, fun _ => hr⟩
  | crashed hs hc hi h => exact h.owed (by simp [owed_iff])
  | already h => exact hg

end Protocol

/-- The steps that start to wait although nothing was written: a postponed SSI
configuration request, and the reset before a connection from the test ramp. -/
def Strands (s : BcState) (g : Waiting) (op : Op) (out : List Obs) : Prop :=
  ¬ WritesInFull out ∧
    ((∃ cmd, op = .recv cmd ∧ SsiConfigRespWord cmd ∧ s.privState = .ssiConfigPend) ∨
      op = .stateChangeCallStatus true ∧ s.protoState = .testRampPingActive ∧ g.reset = false)

namespace Protocol

variable {k : Kernel} {v v' : View} {o : List Obs} {op : Op} {g : Waiting}

/-- One operation that does not strand a request leaves an answer owed for all that is waited
for. -/
theorem ProtoStep.owed (h : ProtoStep k op v o v') (hg : Owed v.bc g)
    (hn : ¬ Strands v.bc g op o) : Owed v'.bc (o.foldl Waiting.upd g) := by
  cases h with
  | recv h =>
    refine h.owed hg ?_
    intro hw hp
    by_contra hf
    exact hn ⟨hf, Or.inl ⟨_, rfl, hw, hp⟩⟩
  | setWbPreference h => simpa [owed_iff] using hg
  | callStatus h =>
    rw [List.foldl_cons, upd_callStatus]
    have := h.owed hg fun hb hs hr => by
      by_contra hf
      refine hn ⟨?_, Or.inr ⟨by rw [hb], hs, hr⟩⟩
      rwa [writesInFull_cons (by simp)]
    simpa [owed_iff] using this
  | callConnect => simpa [owed_iff] using hg
  | error h => exact h.owed hg
  | sendTiming h => exact h.owed hg
  | sendSsi h => exact h.owed hg
  | testReq h =>
    -- A ramp is no request that is waited for.
    have hu (a b : BitVec 8) (w : WriteRes) : g.upd (.write (testRampMsg a b) w) = g :=
      upd_other g (by simp) (by simp)
    cases h with
    | full hs n hw => simp [hu, owed_iff]
    | short hs n hw => simpa [hu, owed_iff] using hg
    | _ => exact hg
  | dlAcquireTest hs => simp [bcTestSequenceReceived, owed_iff]
  | dlReleaseReply hp h => exact h.owed hg
  | ulReleaseReply hp h => exact h.owed hg
  | _ => exact hg

/-- One operation that does: after it the library waits for an answer that nobody owes it. -/
theorem ProtoStep.stranded (h : ProtoStep k op v o v')
    (hn : Strands v.bc g op o) : ¬ v'.bc.WaitsFor (o.foldl Waiting.upd g) := by
  obtain ⟨hf, ⟨cmd, rfl, hw, hp⟩ | ⟨rfl, hs, hr⟩⟩ := hn
  · -- the response has settled the old request, and no new one was written
    obtain ⟨o₁, e, v₁, rfl, hq, rfl⟩ := (h.recv_inv k).ssiResp_inv k hw.1 hw.2
    rw [writesInFull_cons (by simp), writesInFull_append_queued] at hf
    obtain ⟨hp', hfold, -⟩ := hq.stranded hp hf
    have hu : g.upd (.recv cmd) = { g with ssi := false } := by
      rw [Waiting.upd, if_neg (by simp [ResetWord, hw.1, hw.2]), if_pos hw]
    intro hwait
    have := hwait.ssi (by rwa [afterSsiResp_bc])
    simp [hu, hfold] at this
  -- A call was started in a ramp test, and the reset it needs has not been written.
  · cases h with
    | callStatus h =>
      rw [writesInFull_cons (by simp)] at hf
      intro hwait
      have hreset := hwait.reset
      rw [List.foldl_cons, upd_callStatus] at hreset
      cases h with
      | reset hs' h =>
        cases h with
        | noLine n hl hv => simp [hr] at hreset
        | full n hw => simp [hw] at hf
        | short n hw hn => simp [upd_short g _ hw, hr] at hreset
        | failed n hw hn => simp [upd_short g _ hw, hr] at hreset
      | _ => simp_all

end Protocol

/-- The same steps, by the state they are taken in and the kernel: the response to a request
that another one waits for, and a call that starts in the test ramp, when the kernel does
not take the message. -/
def StrandsRequest (m : Machine) (g : Waiting) (i : Step) : Prop :=
  (∃ cmd, i.2 = .recv cmd ∧ SsiConfigRespWord cmd ∧ m.bcstate.privState = .ssiConfigPend ∧
      ¬ if (msgDecodeSsiConfigResp cmd).result = ssiConfigResSuccess then
          i.1.SsiSent m.d.wakelineUsers m.bcstate.callServerActive
        else i.1.ResetSent m.d.wakelineUsers) ∨
    i.2 = .stateChangeCallStatus true ∧ m.bcstate.protoState = .testRampPingActive ∧
      g.reset = false ∧ ¬ i.1.ResetSent m.d.wakelineUsers

theorem strands_iff (m : Machine) (g : Waiting) (i : Step) :
    Strands m.bcstate g i.2 (nokiamodem.next m i).2 ↔ StrandsRequest m g i := by
  obtain ⟨k, op⟩ := i
  rw [Strands, StrandsRequest, and_or_left]
  refine or_congr ?_ ?_
  · constructor
    · rintro ⟨hf, cmd, rfl, hw, hp⟩
      exact ⟨cmd, rfl, hw, hp, fun hs => hf ((writesInFull_ssiConfigResp m k hw hp).mpr hs)⟩
    · rintro ⟨cmd, rfl, hw, hp, hs⟩
      exact ⟨fun hf => hs ((writesInFull_ssiConfigResp m k hw hp).mp hf), cmd, rfl, hw, hp⟩
  · constructor
    · rintro ⟨hf, rfl, hs, hr⟩
      exact ⟨rfl, hs, hr, fun hk => hf ((writesInFull_callStatus m k (Or.inr hs)).mpr hk)⟩
    · rintro ⟨rfl, hs, hr, hk⟩
      exact ⟨fun hf => hk ((writesInFull_callStatus m k (Or.inr hs)).mp hf), rfl, hs, hr⟩

/-- **Waiting states have something to wait for** throughout a run, whatever is written, if
and only if no step of the run strands a request. -/
theorem waitsFor_iff {m : Machine} (hm : nokiamodem.init m) (is : List Step) :
    (nokiamodem.withGhost .none Waiting.upd).Always
        (fun p => p.1.bcstate.WaitsFor p.2) (m, .none) is ↔
      (nokiamodem.withGhost .none Waiting.upd).Along
        (fun p i => ¬ StrandsRequest p.1 p.2 i) (m, .none) is := by
  have howed : Owed m.view.bc .none := by
    obtain ⟨area, old, rfl⟩ := hm
    simp [Machine.view, cmtspeechOpen, BcState.bcOpen, owed_iff]
  -- `Strands` speaks of what the step shows, `StrandsRequest` of the state and the kernel alone.
  have hrun := nokiamodem_refines.always_iff
    (I := fun v g => v.bc.protoState = .invalid → g.reset = true)
    (Q := fun v g => v.bc.WaitsFor g) waiting_hidden .none (P := fun _ _ _ => True)
    (C := fun v g i out => ¬ Strands v.bc g i.2 out)
    (fun v g i out v' hI hQ _ hC h => (h.owed ⟨hQ.ssi, hQ.reset, hI⟩ hC).invalid)
    (fun v g i out v' hI hQ _ h => by
      have hg : Owed v.bc g := ⟨hQ.ssi, hQ.reset, hI⟩
      constructor
      · intro hQ' hs
        exact h.stranded hs hQ'
      · intro hC
        exact (h.owed hg hC).waitsFor)
    howed.invalid howed.waitsFor (nokiamodem.along_true m is)
  refine hrun.trans (Lts.along_congr _ ?_ _ _)
  intro p i
  rw [← strands_iff]
  simp only [Strands, Lts.visible, writesInFull_visible]
  rfl

/-- The call ends while the connection is set up, and the request that was postponed until
the response cannot be written. -/
def strandedRun : List Step :=
  [(.accepting, .stateChangeCallStatus true), (.accepting, .stateChangeCallStatus false),
    (.unwritable, .recv (msgEncodeSsiConfigResp 1 0))]

/-- The run leaves `CONFIG_PEND` twice, and the second time the library goes on waiting for a
request that was never sent. -/
theorem waitsFor_strandedCall :
    (nokiamodem.withGhost .none Waiting.upd).Always (fun p => p.1.bcstate.WaitsFor p.2)
        (Machine.fresh, .none) strandedRun ↔
      (nokiamodem.withGhost .none Waiting.upd).Along (fun p i => ¬ StrandsRequest p.1 p.2 i)
        (Machine.fresh, .none) strandedRun :=
  waitsFor_iff init_fresh strandedRun

theorem waitsFor_stranded :
    nokiamodem.init Machine.fresh ∧
      ¬ (nokiamodem.withGhost .none Waiting.upd).Always (fun p => p.1.bcstate.WaitsFor p.2)
        (Machine.fresh, .none) strandedRun := by
  refine ⟨init_fresh, ?_⟩
  intro h
  have hwait := h strandedRun List.prefix_rfl
  have hssi := hwait.ssi (Or.inr (Or.inl (by decide)))
  revert hssi
  decide

end CmtSpeech
