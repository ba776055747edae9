import CmtSpeech.Sent

/-!
# Answering a speech configuration request

The mark of a pending `SPEECH_CONFIG_REQ` is a value of `priv_state`, a field that other
messages and requests overwrite while the reply is deferred.

* `ReplyKeeps` — the states in which a successful reply changes nothing.
* `ComesToReply`, `Kernel.ReplySent` — the operations that come to the reply, and the
  kernel's part in it.

## Main results

* `reportsSuccess_iff` — the steps that report success.
* `reply_clears_pending_iff` — a reply clears the mark in exactly the runs that never reply
  in a state of `ReplyKeeps`.
-/

namespace CmtSpeech

open Protocol

/-- A `SPEECH_CONFIG_REQ` is processed and not answered: the reply has still to be written, in
this step or by a later release. -/
def PrivState.SpeechPending (p : PrivState) : Prop := p = .configActPend ∨ p = .configDeactPend

instance (p : PrivState) : Decidable p.SpeechPending := inferInstanceAs (Decidable (_ ∨ _))

/-- The states in which a reply that reports success is not followed by a transition,
although a request is pending. -/
def ReplyKeeps (p : ProtoState) (q : PrivState) : Prop :=
  q = .configActPend ∧ p ≠ .connected ∧ p ≠ .activeDlul ∨
    q = .configDeactPend ∧ p ≠ .activeDl ∧ p ≠ .activeDlul

/-- `priv_state` when an operation comes to the reply: what the request sets, if the operation
reads it, and otherwise what is there from before. -/
def privAtReply (s : BcState) : Op → PrivState
  | .checkPending _ (some cmd) => speechPending (msgDecodeSpeechConfigReq cmd)
  | _ => s.privState

namespace Protocol

variable {k : Kernel} {v v' : View} {o : List Obs} {op : Op} {msg : Cmd} {s : BcState}
  {r : BitVec 8}

/-! ### Where replies come from -/

/-- No `SPEECH_CONFIG_RESP` is written in full, so that the request counts as not answered yet. -/
def NoReply (o : List Obs) : Prop :=
  ∀ msg s r, .posted msg s ∈ o → msg.kind ≠ .speechConfigResp r

theorem Send.noReply (h : Send k msg v o v') (hm : msg.kind = .other) : NoReply o := by
  cases h <;> simp +contextual [NoReply, hm]

theorem SendTiming.noReply (h : SendTiming k v o v') : NoReply o := by
  cases h <;> simp +contextual [NoReply]

theorem SendSsi.noReply {b : Bool} (h : SendSsi k b v o v') : NoReply o := by
  cases h <;> simp +contextual [NoReply]

theorem SendReset.noReply (h : SendReset k v o v') : NoReply o := by
  cases h <;> simp +contextual [NoReply]

theorem Posted.noReply (h : Posted k v o v') : NoReply o := by
  cases h with
  | start hs hp ht => exact ht.noReply
  | close hs hp hc hq => exact hq.noReply
  | _ => simp [NoReply]

theorem SsiResp.noReply {resp : SsiConfigResp} (h : SsiResp k resp v o v') : NoReply o := by
  cases h with
  | reconnect hr hp hc hq => exact hq.noReply
  | redisconnect hr hp hc hq => exact hq.noReply
  | errorPending hr hp hs => exact hs.noReply
  | error hr h₁ h₂ hs => exact hs.noReply
  | _ => simp [NoReply]

theorem CallStatus.noReply {b : Bool} (h : CallStatus k b v o v') : NoReply o := by
  cases h with
  | disconnect h₁ hs h => exact h.noReply
  | connect hs h => exact h.noReply
  | reset hs h => exact h.noReply
  | crashed hs hc hi h => exact h.noReply
  | _ => simp [NoReply]

theorem TestReq.noReply {ramplen : BitVec 8} (h : TestReq k msg ramplen v o v')
    (hm : msg.kind = .other) : NoReply o := by
  cases h <;> simp +contextual [NoReply, hm]

/-- What a reply written in full leaves behind: after a success the state of its post-processing,
after a failure IN_SYNC. -/
theorem SetupReply.posted (h : SetupReply k v o v') (hm : .posted msg s ∈ o)
    (hk : msg.kind = .speechConfigResp r) :
    (r = 0 ∧ ∃ o₁ v₁, Posted k { v with respPend := false } o₁ v₁ ∧ s = v₁.bc.written) ∨
      (r = 1 ∧ s = (v.bc.privStateChangeTo none .inSync).written) := by
  cases h with
  | ok n hc hr =>
    cases hr with
    | full n hw hp =>
      simp only [List.mem_cons, List.mem_append, reduceCtorEq, false_or, List.not_mem_nil,
        or_false, Obs.posted.injEq] at hm
      -- either a message of the post-processing, or the reply itself, which ends last
      rcases hm with hm | ⟨rfl, rfl⟩
      · exact absurd hk (hp.noReply _ _ _ hm)
      · exact Or.inl ⟨by simpa using hk.symm, _, _, hp, rfl⟩
    | short n hw => simp at hm
  | failed n hc hr hs =>
    rcases List.mem_append.mp hm with hm | hm
    · cases hr with
      | full n hw =>
        simp only [List.mem_cons, reduceCtorEq, false_or, List.not_mem_nil, or_false,
          Obs.posted.injEq] at hm
        obtain ⟨rfl, rfl⟩ := hm
        exact Or.inr ⟨by simpa using hk.symm, rfl⟩
      | short n hw => simp at hm
    · exact absurd hk (hs.noReply _ _ _ hm)

/-- The operations that may come to a reply; `respPend` is whether one is deferred.  A reply is
made on reading a request, or by a release. -/
def MayReply (respPend : Bool) : Op → Prop
  | .checkPending true (some cmd) => SpeechConfigReqWord cmd
  | .dlBufferRelease _ | .ulBufferRelease _ => respPend = true
  | _ => False

/-- A reply written in full was made by `priv_setup_and_send_speech_config_reply`. -/
theorem ProtoStep.reply_inv (h : ProtoStep k op v o v') (hm : .posted msg s ∈ o)
    (hk : msg.kind = .speechConfigResp r) :
    MayReply v.respPend op ∧ ∃ v₀ o₀, SetupReply k v₀ o₀ v' ∧ .posted msg s ∈ o₀ ∧
      v₀.bc = v.bc.privStateChangeTo none (privAtReply v.bc op) := by
  cases h with
  | recv h =>
    cases h with
    | control hd e h tstamp he =>
      -- the word and its event write nothing
      simp only [List.mem_cons, reduceCtorEq, false_or, List.mem_append, List.not_mem_nil,
        or_false] at hm
      cases h with
      | speechConfig ht h =>
        cases h with
        | now hr => exact ⟨⟨hd, ht⟩, _, _, hr, hm, rfl⟩
        | defer => simp at hm
      | ssiResp ht h => exact absurd hk (h.noReply _ _ _ hm)
      | resetReq ht h => exact absurd hk (h.noReply (by simp) _ _ _ hm)
      | resetRespConnect ht hp h => exact absurd hk (h.noReply _ _ _ hm)
      | _ => simp at hm
    | testRamp hd ht h =>
      simp only [List.mem_cons, reduceCtorEq, false_or] at hm
      exact absurd hk (h.noReply (kind_driverMessage 0) _ _ _ hm)
    | _ => simp at hm
  | callStatus h =>
    simp only [List.mem_cons, reduceCtorEq, false_or] at hm
    exact absurd hk (h.noReply _ _ _ hm)
  | error h => exact absurd hk (h.noReply _ _ _ hm)
  | sendTiming h => exact absurd hk (h.noReply _ _ _ hm)
  | sendSsi h => exact absurd hk (h.noReply _ _ _ hm)
  | testReq h => exact absurd hk (h.noReply (kind_testRampMsg _ _) _ _ _ hm)
  | dlReleaseReply hp h => exact ⟨hp, v, o, h, hm, rfl⟩
  | ulReleaseReply hp h => exact ⟨hp, v, o, h, hm, rfl⟩
  | _ => simp at hm

/-! ### The mark after a reply -/

/-- After a successful reply the mark is left exactly where the reply changes nothing. -/
theorem Posted.speechPending_iff (h : Posted k v o v') :
    v'.bc.privState.SpeechPending ↔ ReplyKeeps v.bc.protoState v.bc.privState := by
  cases h with
  | start hs hp ht =>
    have : ¬ v'.bc.privState.SpeechPending := by
      cases ht <;> simp [PrivState.SpeechPending]
    simp [this, ReplyKeeps, hs, hp]
  | restart hs hp => simp [PrivState.SpeechPending, ReplyKeeps, hs, hp]
  | stop hs hp hc => rcases hs with hs | hs <;> simp [PrivState.SpeechPending, ReplyKeeps, hs, hp]
  | close hs hp hc hq =>
    have : ¬ v'.bc.privState.SpeechPending := by
      cases hq <;> simp [PrivState.SpeechPending]
    rcases hs with hs | hs <;> simp [this, ReplyKeeps, hs, hp]
  | keep ha hd =>
    constructor
    · rintro (hp | hp)
      · exact Or.inl ⟨hp, ha hp⟩
      · exact Or.inr ⟨hp, hd hp⟩
    · rintro (⟨hp, -⟩ | ⟨hp, -⟩)
      · exact Or.inl hp
      · exact Or.inr hp

/-- One operation that writes a reply in full leaves the request pending in just the states of
`ReplyKeeps`. -/
theorem ProtoStep.speechPending_iff (h : ProtoStep k op v o v') (hm : .posted msg s ∈ o)
    (hk : msg.kind = .speechConfigResp r) :
    s.privState.SpeechPending ↔ r = 0 ∧ ReplyKeeps v.bc.protoState (privAtReply v.bc op) := by
  obtain ⟨-, v₀, o₀, hr, hm₀, hv⟩ := h.reply_inv hm hk
  rcases hr.posted hm₀ hk with ⟨rfl, o₁, v₁, hp, rfl⟩ | ⟨rfl, rfl⟩
  · have := hp.speechPending_iff
    simp only [hv] at this
    simpa using this
  · simp [PrivState.SpeechPending]

end Protocol

/-! ### Which steps report success -/

/-- A reply that reports success is written in full. -/
def ReportsSuccess (out : List Obs) : Prop :=
  ∃ msg s, .posted msg s ∈ out ∧ msg.kind = .speechConfigResp 0

/-- The kernel takes the buffer layout and a reply, when they come first: the calls of an
operation are counted from 0, the layout is the second of them and the reply the third. -/
def Kernel.ReplySent (k : Kernel) : Prop := k.configBufs 1 = 0 ∧ (k.write 2).res = ctrlLen

/-- Releasing `slot` sends the deferred reply: no other buffer is held, and one is owed. -/
def BufState.LastHeld (b : BufState) (slot : Slot) : Prop :=
  b.speechConfigRespPend = true ∧ privLockedBufdescs (b.mapFlags slot (· &&& ~~~bufLocked)) = 0

/-- The operation comes to `priv_setup_and_send_speech_config_reply`: a request that finds no
buffer held, or the release of the last one that is. -/
def ComesToReply (b : BufState) : Op → Prop
  | .checkPending true (some cmd) => SpeechConfigReqWord cmd ∧ privLockedBufdescs b = 0
  | .dlBufferRelease i =>
    (b.dlbufdesc (b.dlbufdesc i).bd.index).flags &&& bufLocked ≠ 0 ∧
      b.LastHeld (.dl (b.dlbufdesc i).bd.index)
  | .ulBufferRelease (some i) => b.LastHeld (.ul (b.ulbufdesc i).bd.index)
  | _ => False

theorem reportsSuccess_append (xs ys : List Obs) :
    ReportsSuccess (xs ++ ys) ↔ ReportsSuccess xs ∨ ReportsSuccess ys := by
  simp only [ReportsSuccess, List.mem_append]
  grind

theorem reportsSuccess_visible (out : List Obs) :
    ReportsSuccess (out.filter Obs.visible) ↔ ReportsSuccess out := by
  simp [ReportsSuccess, Obs.visible]

theorem Protocol.NoReply.not_reportsSuccess {o : List Obs} (h : NoReply o) :
    ¬ ReportsSuccess o := by
  rintro ⟨msg, s, hm, hk⟩
  exact h msg s 0 hm hk

theorem Protocol.ReplyErr.not_reportsSuccess {k : Kernel} {v v' : View} {o : List Obs}
    (h : ReplyErr k v o v') : ¬ ReportsSuccess o := by
  cases h <;> simp [ReportsSuccess]

theorem not_reportsSuccess_of_other {o : Obs} (ho : ∀ msg s, o ≠ .posted msg s) :
    ¬ ReportsSuccess [o] := by
  rintro ⟨msg, s, hm, -⟩
  exact ho msg s (List.mem_singleton.mp hm).symm

section
variable (k : Kernel)

/-- The query of the interface version and the layout are the first two system calls. -/
theorem privSetupDriverBufconfig_tick (m : Machine) :
    (privSetupDriverBufconfig k m).2.tick = m.tick + 2 ∧
      (privSetupDriverBufconfig k m).1 = k.configBufs (m.tick + 1) := by
  simp only [privSetupDriverBufconfig, privSetupDriverBufconfigV2api]
  split
  · split <;> split <;> exact ⟨rfl, rfl⟩
  · exact ⟨rfl, rfl⟩

theorem reportsSuccess_privSetupAndSendSpeechConfigReply {m : Machine}
    (hm : ¬ ReportsSuccess m.log) (ht : m.tick = 0) :
    ReportsSuccess (privSetupAndSendSpeechConfigReply k m).2.log ↔ k.ReplySent := by
  rw [privSetupAndSendSpeechConfigReply, Kernel.ReplySent]
  have hl := log_privSetupDriverBufconfig k
    (m.modBuf fun b => { b with speechConfigRespPend := false })
  obtain ⟨htick, hfst⟩ := privSetupDriverBufconfig_tick k
    (m.modBuf fun b => { b with speechConfigRespPend := false })
  rw [Machine.modBuf_tick, ht] at htick hfst
  generalize privSetupDriverBufconfig k
    (m.modBuf fun b => { b with speechConfigRespPend := false }) = c at hl htick hfst ⊢
  by_cases hc : c.1 = 0
  · simp only [if_pos hc, if_neg (not_not.mpr hc)]
    -- The layout has been accepted, so that only the write of the reply is in question.
    have hw : (k.write c.2.tick).res = ctrlLen ↔
        k.configBufs 1 = 0 ∧ (k.write 2).res = ctrlLen := by
      rw [htick, ← hfst]
      simp [hc]
    rw [← hw]
    by_cases hw : (k.write c.2.tick).res = ctrlLen
    · rw [privWrite, bcWriteCommand_full k (by simp) hw, log_emit _ _ rfl, reportsSuccess_append]
      simp [hw, ReportsSuccess]
    · rw [privWrite, bcWriteCommand_short k hw, log_modBc, log_syscall_visible _ _ rfl, hl,
        log_modBuf, reportsSuccess_append]
      simp [hw, hm, not_reportsSuccess_of_other]
  · -- the layout is refused: what is written reports the failure, and resets
    simp only [if_neg hc, if_pos hc]
    have hconf : ¬ (k.configBufs 1 = 0 ∧ (k.write 2).res = ctrlLen) := by
      rw [← hfst]
      exact fun h => hc h.1
    obtain ⟨o₁, hl₁, hr⟩ := privWrite_replyErr_meets k c.2
    obtain ⟨o₂, hl₂, hs⟩ := privSendReset_meets k
      ((privWrite k (msgEncodeSpeechConfigResp 1) c.2).2.modBuf privInvalidateBufferSlots)
    rw [hl₂, log_modBuf, hl₁, hl, log_modBuf, reportsSuccess_append, reportsSuccess_append]
    simp [hm, hr.not_reportsSuccess, hs.noReply.not_reportsSuccess, hconf]

theorem reportsSuccess_privDrvbufLayoutChangeBufferReleased (slot : Slot) {m : Machine}
    (hm : ¬ ReportsSuccess m.log) (ht : m.tick = 0) :
    ReportsSuccess (privDrvbufLayoutChangeBufferReleased k slot m).log ↔
      privLockedBufdescs (m.buf.mapFlags slot (· &&& ~~~bufLocked)) = 0 ∧ k.ReplySent := by
  have hr := reportsSuccess_privSetupAndSendSpeechConfigReply k
    (m := m.modBuf fun b => b.mapFlags slot (· &&& ~~~bufLocked)) hm ht
  unfold privDrvbufLayoutChangeBufferReleased
  dsimp only
  split
  · next hz =>
    rw [and_iff_right (by exact hz), ← hr]
    split <;> rfl
  · next hz => exact iff_of_false hm fun h => hz h.1

theorem reportsSuccess_privHandleSpeechConfig (req : SpeechConfigReq) {m : Machine}
    (hm : ¬ ReportsSuccess m.log) (ht : m.tick = 0) :
    ReportsSuccess (privHandleSpeechConfig k req m).log ↔
      privLockedBufdescs m.buf = 0 ∧ k.ReplySent := by
  rw [privHandleSpeechConfig]
  generalize hm₁ : m.modBuf _ = m₁
  have hl : m₁.log = m.log := by rw [← hm₁]; rfl
  have ht₁ : m₁.tick = 0 := by rw [← hm₁]; exact ht
  have hz : privLockedBufdescs m₁.buf = privLockedBufdescs m.buf := by rw [← hm₁]; rfl
  rw [← hz]
  split
  · next hz =>
    rw [reportsSuccess_privSetupAndSendSpeechConfigReply k (hl ▸ hm) ht₁]
    simp [hz]
  · next hz => simp [hz, hl, hm]

end

/-- **The steps that report success**, by the state they are taken in and the kernel. -/
theorem reportsSuccess_iff (m : Machine) (i : Step) :
    ReportsSuccess (nokiamodem.next m i).2 ↔ ComesToReply m.buf i.2 ∧ i.1.ReplySent := by
  obtain ⟨k, op⟩ := i
  by_cases hop : MayReply m.buf.speechConfigRespPend op
  · rw [← reportsSuccess_visible]
    show ReportsSuccess (op.run k m.begin).log ↔ ComesToReply m.buf op ∧ k.ReplySent
    match op, hop with
    | .checkPending true (some cmd), hop =>
      have hw : SpeechConfigReqWord cmd := hop
      have hrecv : ¬ ReportsSuccess (m.begin.emit (.recv cmd)).log :=
        not_reportsSuccess_of_other (by simp)
      obtain ⟨e, hl⟩ := log_recv_control m k hw.1 (by rw [hw.2]; decide) (by rw [hw.2]; decide)
      show ReportsSuccess (nokiamodem.next m (k, .recv cmd)).1.log ↔ _
      rw [hl, bcHandleCommand_speechConfigReq k _ hw.2,
        handleCommandBackend_speechConfigReq k _ _ hw.2, reportsSuccess_append,
        reportsSuccess_privHandleSpeechConfig k _ (by exact hrecv) rfl]
      simp [ComesToReply, hw, not_reportsSuccess_of_other]
    | .dlBufferRelease i, _ =>
      have hnil : ¬ ReportsSuccess m.begin.log := by simp [Machine.log, ReportsSuccess]
      show ReportsSuccess (dlBufferRelease k i m.begin).2.log ↔ _
      rw [dlBufferRelease, ComesToReply, BufState.LastHeld, begin_buf]
      split
      · next hz => exact iff_of_false hnil fun h => h.1.1 hz
      · next hz =>
        split
        · next hp =>
          rw [reportsSuccess_privDrvbufLayoutChangeBufferReleased k _ hnil rfl, begin_buf]
          exact ⟨fun h => ⟨⟨hz, hp, h.1⟩, h.2⟩, fun h => ⟨h.1.2.2, h.2⟩⟩
        · next hp =>
          refine iff_of_false ?_ fun h => hp h.1.2.1
          dsimp only
          split <;> exact hnil
    | .ulBufferRelease none, _ =>
      simp [ComesToReply, Op.run, ulBufferRelease, Machine.log, ReportsSuccess]
    | .ulBufferRelease (some i), _ =>
      have hnil : ¬ ReportsSuccess m.begin.log := by simp [Machine.log, ReportsSuccess]
      show ReportsSuccess (ulBufferRelease k (some i) m.begin).2.log ↔ _
      rw [ulBufferRelease, ComesToReply, BufState.LastHeld, begin_buf]
      dsimp only
      split
      · next hp =>
        rw [reportsSuccess_privDrvbufLayoutChangeBufferReleased k _ hnil rfl, begin_buf]
        exact ⟨fun h => ⟨⟨hp, h.1⟩, h.2⟩, fun h => ⟨h.1.2, h.2⟩⟩
      · next hp =>
        rw [log_modBuf, (ulBufferSubmit_spec k i _).1]
        exact iff_of_false hnil fun h => hp h.1.1
  -- Every other call posts no reply at all.
  · have hc : ¬ ComesToReply m.buf op := by
      revert hop
      fun_cases ComesToReply m.buf op <;> simp_all [MayReply, BufState.LastHeld]
    simp only [hc, false_and, iff_false]
    rintro ⟨msg, s, hm, hk⟩
    refine hop (ProtoStep.reply_inv (nokiamodem_refines m (k, op)) (s := s) ?_ hk).1
    simpa [Lts.visible, Obs.visible] using hm

/-- The step reports success in a state that this does not change. -/
def RepliesInVain (m : Machine) (i : Step) : Prop :=
  (ComesToReply m.buf i.2 ∧ i.1.ReplySent) ∧
    ReplyKeeps m.bcstate.protoState (privAtReply m.bcstate i.2)

/-- **A reply clears the pending mark**, throughout a run from any state, if and only if no
step of the run reports success in a state that this does not change. -/
theorem reply_clears_pending_iff (m : Machine) (is : List Step) :
    (∀ msg s r, .posted msg s ∈ nokiamodem.trace m is → msg.kind = .speechConfigResp r →
        ¬ s.privState.SpeechPending) ↔
      nokiamodem.Along (fun m i => ¬ RepliesInVain m i) m is := by
  -- The induction is on the run; each step is judged by itself.
  induction is generalizing m with
  | nil => simp
  | cons i is ih =>
    have hvis (msg : Cmd) (s : BcState) : .posted msg s ∈ nokiamodem.visible Obs.visible m i ↔
        .posted msg s ∈ (nokiamodem.next m i).2 := by
      simp [Lts.visible, Obs.visible]
    have hstep (msg : Cmd) (s : BcState) (r : BitVec 8)
        (hm : .posted msg s ∈ (nokiamodem.next m i).2) (hk : msg.kind = .speechConfigResp r) :=
      ProtoStep.speechPending_iff (nokiamodem_refines m i) ((hvis msg s).mpr hm) hk
    rw [Lts.trace_cons, Lts.along_cons, ← ih]
    constructor
    · intro h
      refine ⟨?_, fun msg s r hm => h msg s r (List.mem_append_right _ hm)⟩
      rintro ⟨hsent, hkeep⟩
      obtain ⟨msg, s, hm, hk⟩ := (reportsSuccess_iff m i).mpr hsent
      exact h msg s 0 (List.mem_append_left _ hm) hk ((hstep msg s 0 hm hk).mpr ⟨rfl, hkeep⟩)
    · rintro ⟨hn, h⟩ msg s r hm hk hp
      rcases List.mem_append.mp hm with hm | hm
      · obtain ⟨rfl, hkeep⟩ := (hstep msg s r hm hk).mp hp
        exact hn ⟨(reportsSuccess_iff m i).mp ⟨msg, s, hm, hk⟩, hkeep⟩
      · exact h msg s r hm hk hp

/-- The modem reconfigures a downlink that runs: the reply stays unsent as far as
`priv_state` says. -/
def reconfiguredRun : List Step :=
  [(.accepting, .stateChangeCallStatus true), (.accepting, .recv (msgEncodeSsiConfigResp 1 0)),
    (.accepting, .recv (speechConfigReqMsg true)), (.accepting, .recv (speechConfigReqMsg true))]

theorem reply_keeps_pending :
    nokiamodem.init Machine.fresh ∧
      ¬ ∀ msg s r, .posted msg s ∈ nokiamodem.trace Machine.fresh reconfiguredRun →
        msg.kind = .speechConfigResp r → ¬ s.privState.SpeechPending := by
  refine ⟨init_fresh, ?_⟩
  intro h
  have := h (msgEncodeSpeechConfigResp 0)
    (nokiamodem.exec Machine.fresh reconfiguredRun).bcstate 0 (by decide) (by decide)
  revert this
  decide

end CmtSpeech
