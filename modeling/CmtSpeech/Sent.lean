import CmtSpeech.History

/-!
# Which write decides

Whether an operation gets a message out, read off its input.  The kernel answers the system
calls of an operation in order, and the calls before the message are known, so the fate of
the message is the answer at a fixed position.

* `WritesInFull` — some message is written in full.
* `Kernel.SsiSent`, `Kernel.ResetSent` — the kernel takes the message, when it is the
  first one of the operation.

## Main results

* `writesInFull_ssiConfigResp`, `writesInFull_resetConnResp`, `writesInFull_callStatus`,
  `writesInFull_callStatus_crashed`
-/

namespace CmtSpeech

open Protocol

/-- Some message is written in full.  The common code changes the state only after such a write,
so this is what a condition on the kernel comes down to. -/
def WritesInFull (out : List Obs) : Prop := ∃ msg w, .write msg w ∈ out ∧ w.res = ctrlLen

@[simp] theorem not_writesInFull_nil : ¬ WritesInFull [] := by
  simp [WritesInFull]

@[simp] theorem writesInFull_write (msg : Cmd) (w : WriteRes) (out : List Obs) :
    WritesInFull (.write msg w :: out) ↔ w.res = ctrlLen ∨ WritesInFull out := by
  constructor
  · rintro ⟨msg', w', hm, hw⟩
    rcases List.mem_cons.mp hm with heq | hm
    · cases heq
      exact Or.inl hw
    · exact Or.inr ⟨msg', w', hm, hw⟩
  · rintro (hw | ⟨msg', w', hm, hw⟩)
    · exact ⟨msg, w, List.mem_cons_self, hw⟩
    · exact ⟨msg', w', List.mem_cons_of_mem _ hm, hw⟩

theorem writesInFull_cons {o : Obs} (ho : ∀ msg w, o ≠ .write msg w) (out : List Obs) :
    WritesInFull (o :: out) ↔ WritesInFull out := by
  constructor
  · rintro ⟨msg, w, hm, hw⟩
    rcases List.mem_cons.mp hm with heq | hm
    · exact absurd heq.symm (ho msg w)
    · exact ⟨msg, w, hm, hw⟩
  · rintro ⟨msg, w, hm, hw⟩
    exact ⟨msg, w, List.mem_cons_of_mem _ hm, hw⟩

theorem writesInFull_visible (out : List Obs) :
    WritesInFull (out.filter Obs.visible) ↔ WritesInFull out := by
  simp [WritesInFull, Obs.visible]

theorem writesInFull_append_queued (out : List Obs) (e : Event) :
    WritesInFull (out ++ [.queued e]) ↔ WritesInFull out := by
  simp [WritesInFull]

/-- What the write of a control message returned. -/
def Obs.writeRes : Obs → Option WriteRes
  | .write _ w => some w
  | _ => none

theorem mem_writeRes {out : List Obs} {w : WriteRes} :
    w ∈ out.filterMap Obs.writeRes ↔ ∃ msg, .write msg w ∈ out := by
  rw [List.mem_filterMap]
  constructor
  · rintro ⟨o, ho, hw⟩
    cases o with
    | write msg w' =>
      cases hw
      exact ⟨msg, ho⟩
    | _ => simp [Obs.writeRes] at hw
  · rintro ⟨msg, ho⟩
    exact ⟨_, ho, rfl⟩

theorem writesInFull_iff (out : List Obs) :
    WritesInFull out ↔ ∃ w ∈ out.filterMap Obs.writeRes, w.res = ctrlLen := by
  simp only [WritesInFull, mem_writeRes]
  grind

/-! ### The answers of the kernel -/

/-- The kernel takes an `SSI_CONFIG_REQ` with state `b`; `wake` are the users of the wakeline
before.  If the request is to connect and the line is down, the line is raised first, so the write
is the second call. -/
def Kernel.SsiSent (k : Kernel) (wake : BitVec 3) (b : Bool) : Prop :=
  (k.write (if b = true ∧ wake = 0 then 1 else 0)).res = ctrlLen

/-- The kernel takes a `RESET_CONN_REQ`.  If the line is down it is raised first, and the reset is
given up if that fails. -/
def Kernel.ResetSent (k : Kernel) (wake : BitVec 3) : Prop :=
  if wake = 0 then k.setWakeline 0 = 0 ∧ (k.write 1).res = ctrlLen
  else (k.write 0).res = ctrlLen

instance (k : Kernel) (wake : BitVec 3) (b : Bool) : Decidable (k.SsiSent wake b) :=
  inferInstanceAs (Decidable (_ = _))

instance (k : Kernel) (wake : BitVec 3) : Decidable (k.ResetSent wake) :=
  inferInstanceAs (Decidable (if wake = 0 then k.setWakeline 0 = 0 ∧ (k.write 1).res = ctrlLen
    else (k.write 0).res = ctrlLen))

/-! ### Positions -/

/-- What the writes of control messages have returned, in order. -/
def Machine.writes (m : Machine) : List WriteRes := m.log.filterMap Obs.writeRes

theorem writesInFull_log (m : Machine) :
    WritesInFull m.log ↔ ∃ w ∈ m.writes, w.res = ctrlLen :=
  writesInFull_iff m.log

/-- Which of the system calls of an operation is the write of an `SSI_CONFIG_REQ`: an
activation raises the line first, which costs a call if nobody holds it. -/
def ssiTick (wake : BitVec 3) (b : Bool) : ℕ := if b = true ∧ wake = 0 then 1 else 0

/-- Which of the system calls of an operation is the write of a `RESET_CONN_REQ`: with the
line down the write comes second, and only if the line could be raised. -/
def Kernel.resetTick (k : Kernel) (wake : BitVec 3) : Option ℕ :=
  if wake = 0 then if k.setWakeline 0 = 0 then some 1 else none else some 0

section
variable (k : Kernel)

theorem tick_privAcquireWakeline (id : BitVec 3) (m : Machine) :
    (privAcquireWakeline k id m).2.tick = m.tick + if m.d.wakelineUsers = 0 then 1 else 0 := by
  rw [privAcquireWakeline, Machine.modD_tick]
  split <;> rfl

theorem privAcquireWakeline_fst (id : BitVec 3) (m : Machine) :
    (privAcquireWakeline k id m).1 =
      if m.d.wakelineUsers = 0 then k.setWakeline m.tick else 0 := by
  unfold privAcquireWakeline
  split <;> rfl

/-- A message that needs no post-processing is one write, whatever comes of it. -/
theorem writes_bcWriteCommand {post : Post} {msg : Cmd} (hp : ∀ m, post msg m = m)
    (m : Machine) : (bcWriteCommand k post msg m).2.writes = m.writes ++ [k.write m.tick] := by
  rcases bcWriteCommand_leaf k hp m with ⟨-, -, hl, -⟩ | ⟨-, -, hl, -⟩
  · simp [Machine.writes, hl, Obs.writeRes]
  · simp [Machine.writes, hl, Obs.writeRes]

theorem writesInFull_bcWriteCommand {post : Post} {msg : Cmd} (hp : ∀ m, post msg m = m)
    {m : Machine} (hm : ¬ WritesInFull m.log) :
    WritesInFull (bcWriteCommand k post msg m).2.log ↔ (k.write m.tick).res = ctrlLen := by
  rw [writesInFull_log] at hm ⊢
  rw [writes_bcWriteCommand k hp]
  simpa [or_and_right, exists_or] using fun w hw hf => absurd ⟨w, hw, hf⟩ hm

theorem writes_bcSendSsiConfigRequest {b : Bool} {m : Machine}
    (hr : ¬ (b = false ∧ m.bcstate.privState = .disconnecting)) :
    (bcSendSsiConfigRequest k (bcPostCommand k) b m).2.writes = m.writes ++ [k.write m.tick] := by
  rw [bcSendSsiConfigRequest, if_neg hr]
  set m₁ := m.modBc fun s => s.privStateChangeTo none (ssiPending b)
  have hw : (bcWriteCommand k (bcPostCommand k) (ssiConfigRequest m₁.bcstate b) m₁).2.writes =
      m.writes ++ [k.write m.tick] :=
    writes_bcWriteCommand k
      (leafPost_bcPostCommand k _ (Or.inr (msgGetType_ssiConfigRequest _ _))) m₁
  show (if (bcWriteCommand k (bcPostCommand k)
    (ssiConfigRequest m₁.bcstate b) m₁).1 ≠ ctrlLen then _ else _ : ℤ × Machine).2.writes = _
  split
  · exact hw
  · exact hw

theorem writes_sendSsiConfigRequest {b : Bool} {m : Machine}
    (hr : ¬ (b = false ∧ m.bcstate.privState = .disconnecting)) :
    (sendSsiConfigRequest k (bcPostCommand k) b m).2.writes =
      m.writes ++ [k.write (m.tick + ssiTick m.d.wakelineUsers b)] := by
  rw [sendSsiConfigRequest]
  cases b with
  | false => exact writes_bcSendSsiConfigRequest k hr
  | true =>
    refine (writes_bcSendSsiConfigRequest k (by simp)).trans ?_
    simp [Machine.writes, tick_privAcquireWakeline, ssiTick]

theorem writesInFull_sendSsiConfigRequest {b : Bool} {m : Machine}
    (hr : ¬ (b = false ∧ m.bcstate.privState = .disconnecting)) (hm : ¬ WritesInFull m.log)
    (ht : m.tick = 0) :
    WritesInFull (sendSsiConfigRequest k (bcPostCommand k) b m).2.log ↔
      k.SsiSent m.d.wakelineUsers b := by
  rw [writesInFull_log] at hm ⊢
  rw [writes_sendSsiConfigRequest k hr, ht, Nat.zero_add]
  simpa [Kernel.SsiSent, ssiTick, or_and_right, exists_or] using
    fun w hw hf => absurd ⟨w, hw, hf⟩ hm

/-- The rest of `priv_send_reset` is silent: it writes the reset and no more, and not even that
when the line cannot be raised. -/
theorem writes_privSendReset {m : Machine} (ht : m.tick = 0) :
    (privSendReset k m).2.writes =
      m.writes ++ (k.resetTick m.d.wakelineUsers).toList.map k.write := by
  have hl := log_privAcquireWakeline k wakelineReset m
  have hfst := privAcquireWakeline_fst k wakelineReset m
  have htick := tick_privAcquireWakeline k wakelineReset m
  rw [ht] at hfst htick
  rw [privSendReset, Kernel.resetTick]
  dsimp only
  rw [Machine.writes, log_privSetupDriverBufconfig, log_modBuf]
  generalize privAcquireWakeline k wakelineReset m = a at hl hfst htick ⊢
  -- The write comes out the same whether or not the line is let go after it.
  have hwrite : (if (privWrite k msgEncodeResetConnReq a.2).1 < 0 then
      privReleaseWakeline k wakelineReset (privWrite k msgEncodeResetConnReq a.2).2
      else privWrite k msgEncodeResetConnReq a.2).2.log.filterMap Obs.writeRes =
        m.writes ++ [k.write a.2.tick] := by
    by_cases hw : (k.write a.2.tick).res = ctrlLen
    · rw [privWrite, bcWriteCommand_full k (by simp) hw, bcPostCommand_resetConnReq,
        if_neg (by rw [hw]; exact (by decide : ¬ ctrlLen < 0)), log_emit _ _ rfl, log_modBc,
        log_modBc, log_syscall_visible _ _ rfl, hl]
      simp [Machine.writes, Obs.writeRes]
    · rw [privWrite, bcWriteCommand_short k hw]
      split
      · rw [log_privReleaseWakeline, log_modBc, log_syscall_visible _ _ rfl, hl]
        simp [Machine.writes, Obs.writeRes]
      · rw [log_modBc, log_syscall_visible _ _ rfl, hl]
        simp [Machine.writes, Obs.writeRes]
  by_cases hz : m.d.wakelineUsers = 0
  · rw [if_pos hz] at hfst ⊢
    rw [htick, if_pos hz] at hwrite
    by_cases ha : k.setWakeline 0 = 0
    · rw [if_pos (hfst.trans ha), hwrite, if_pos ha]
      rfl
    · rw [if_neg (by rwa [hfst]), hl, if_neg ha]
      simp [Machine.writes]
  · rw [if_neg hz] at hfst ⊢
    rw [htick, if_neg hz] at hwrite
    rw [if_pos hfst, hwrite]
    rfl

theorem writesInFull_privSendReset {m : Machine} (hm : ¬ WritesInFull m.log) (ht : m.tick = 0) :
    WritesInFull (privSendReset k m).2.log ↔ k.ResetSent m.d.wakelineUsers := by
  have hmem (w : WriteRes) (hw : w ∈ m.writes) : w.res ≠ ctrlLen := fun hf =>
    hm ((writesInFull_log m).mpr ⟨w, hw, hf⟩)
  rw [writesInFull_log, writes_privSendReset k ht, Kernel.ResetSent, Kernel.resetTick]
  split_ifs <;> simp_all [or_and_right, exists_or]

end

/-! ### Steps -/

section
variable (m : Machine) (k : Kernel) {cmd : Cmd}

theorem log_begin_recv (cmd : Cmd) : (m.begin.emit (.recv cmd)).log = [.recv cmd] := rfl

/-- The log of a step that reads an accepted control message other than the test ramp. -/
theorem log_recv_control (hd : msgGetDomain cmd = domainControl)
    (hu : ¬ UnknownType (msgGetType cmd)) (ht : msgGetType cmd ≠ testRampPing) :
    ∃ e, (nokiamodem.next m (k, .recv cmd)).1.log =
      (handleCommandBackend k cmd (bcHandleCommand k cmd (m.begin.emit (.recv cmd))).2.1
        (bcHandleCommand k cmd (m.begin.emit (.recv cmd))).2.2).2.log ++ [.queued e] := by
  obtain ⟨hr, -⟩ := control_event k hu ht (m.begin.emit (.recv cmd))
  show ∃ e, (handleInboundControlMessage k cmd (m.begin.emit (.recv cmd))).2.2.log = _
  rw [handleInboundControlMessage, if_pos hd, if_neg (not_not.mpr hr), if_pos ht]
  exact ⟨_, (privQueueControlEvent_spec _ _).1⟩

/-- The response to a request that another one is waiting for. -/
theorem writesInFull_ssiConfigResp (hw : SsiConfigRespWord cmd)
    (hp : m.bcstate.privState = .ssiConfigPend) :
    WritesInFull (nokiamodem.next m (k, .recv cmd)).2 ↔
      if (msgDecodeSsiConfigResp cmd).result = ssiConfigResSuccess then
        k.SsiSent m.d.wakelineUsers m.bcstate.callServerActive
      else k.ResetSent m.d.wakelineUsers := by
  obtain ⟨e, hl⟩ := log_recv_control m k hw.1 (by rw [hw.2]; decide) (by rw [hw.2]; decide)
  -- What was written before the message counts for nothing: the step begins with it.
  have hrecv : ¬ WritesInFull (m.begin.emit (.recv cmd)).log := by
    rw [log_begin_recv, writesInFull_cons (by simp)]
    exact not_writesInFull_nil
  rw [← writesInFull_visible]
  show WritesInFull (nokiamodem.next m (k, .recv cmd)).1.log ↔ _
  rw [hl, writesInFull_append_queued, bcHandleCommand_ssiConfigResp k _ hw.2,
    handleCommandBackend_ssiConfigResp k _ _ hw.2]
  dsimp only
  rw [log_privHandleSsiConfigResp, bcHandleSsiConfigResp]
  split
  · rw [if_neg (by simp [hp]), if_neg (by simp [hp]), if_pos (by simpa using hp)]
    split
    · next hc =>
      have hc' : m.bcstate.callServerActive = true := hc
      rw [hc', log_modBc, writesInFull_sendSsiConfigRequest k (by simp) hrecv rfl]
      rfl
    · next hc =>
      have hc' : m.bcstate.callServerActive = false := by simpa using hc
      rw [hc', log_modBc, writesInFull_sendSsiConfigRequest k (by simp [hp]) hrecv rfl]
      rfl
  · dsimp only [stateChangeError]
    rw [if_neg (by simp [hp]), writesInFull_privSendReset k hrecv rfl]
    rfl

/-- The response to the reset before a connection. -/
theorem writesInFull_resetConnResp (hw : ResetConnRespWord cmd)
    (hp : m.bcstate.privState = .resetBeforeConnect) :
    WritesInFull (nokiamodem.next m (k, .recv cmd)).2 ↔ k.SsiSent m.d.wakelineUsers true := by
  obtain ⟨e, hl⟩ := log_recv_control m k hw.1 (by rw [hw.2]; decide) (by rw [hw.2]; decide)
  have hrecv : ¬ WritesInFull
      ((m.begin.emit (.recv cmd)).modBc BcState.privResetStateToDisconnected).log := by
    rw [log_modBc, log_begin_recv, writesInFull_cons (by simp)]
    exact not_writesInFull_nil
  rw [← writesInFull_visible]
  show WritesInFull (nokiamodem.next m (k, .recv cmd)).1.log ↔ _
  rw [hl, writesInFull_append_queued, bcHandleCommand_resetConnResp k _ hw.2,
    handleCommandBackend_resetConnResp k _ _ hw.2]
  dsimp only
  rw [privHandleResetResponse, log_privReleaseWakeline, if_pos (by simpa using hp),
    writesInFull_sendSsiConfigRequest k (by simp) hrecv rfl]
  rfl

/-- The reset before a connection is all that this call writes, so that it is written in full if
and only if the reset is. -/
theorem writesInFull_callStatus (hs : m.bcstate.protoState = .invalid ∨
    m.bcstate.protoState = .testRampPingActive) :
    WritesInFull (nokiamodem.next m (k, .stateChangeCallStatus true)).2 ↔
      k.ResetSent m.d.wakelineUsers := by
  have hcall : ¬ WritesInFull (m.begin.emit (.callStatus true)).log := by
    show ¬ WritesInFull [.callStatus true]
    rw [writesInFull_cons (by simp)]
    exact not_writesInFull_nil
  have hd : m.bcstate.protoState ≠ .disconnected := by
    rcases hs with hs | hs <;> simp [hs]
  have hc : m.bcstate.protoState ≠ .connected := by
    rcases hs with hs | hs <;> simp [hs]
  rw [← writesInFull_visible]
  show WritesInFull (bcStateChangeCallStatus k true m.begin).2.log ↔ _
  rw [bcStateChangeCallStatus, log_modBc, if_neg (by simp), bcCallStarted,
    if_neg (by simpa using hd), if_neg (by simp [hc]), if_pos (by simpa using hs), log_modBc,
    stateChangeError, writesInFull_privSendReset k hcall rfl]
  rfl

/-- The new connection that is asked for when a call has crashed. -/
theorem writesInFull_callStatus_crashed
    (hs : m.bcstate.protoState = .activeDl ∨ m.bcstate.protoState = .activeDlul)
    (hc : m.bcstate.callServerActive = false) (hi : 0 < m.bcstate.ioErrors) :
    WritesInFull (nokiamodem.next m (k, .stateChangeCallStatus true)).2 ↔
      k.SsiSent m.d.wakelineUsers true := by
  have hcall : ¬ WritesInFull ((m.begin.emit (.callStatus true)).modBc
      BcState.privResetStateToDisconnected).log := by
    rw [log_modBc]
    show ¬ WritesInFull [.callStatus true]
    rw [writesInFull_cons (by simp)]
    exact not_writesInFull_nil
  rw [← writesInFull_visible]
  show WritesInFull (bcStateChangeCallStatus k true m.begin).2.log ↔ _
  have hstart : bcCallStarted k (m.begin.emit (.callStatus true)) =
      (sendSsiConfigRequest k (bcPostCommand k) true
        ((m.begin.emit (.callStatus true)).modBc BcState.privResetStateToDisconnected)).2 := by
    rcases hs with hs | hs <;> simp [bcCallStarted, hs, hc, hi]
  rw [bcStateChangeCallStatus, log_modBc, if_neg (by simp), hstart,
    writesInFull_sendSsiConfigRequest k (by simp) hcall rfl]
  rfl

end

end CmtSpeech
