import CmtSpeech.DeferredReply
import CmtSpeech.Inbound

/-!
# Changes of state are reported

A message of the modem that moves the protocol state is reported by an event with the state
before and after it.  The event is completed when the message has been handled, and a reply
that is deferred moves the state only later, when the last buffer is released.

* `Overflows` — the queue loses an event.
* `reads`, `CanRead` — what the application has read or can still read.
* `eventsFor` — the events for what a step does.
* `MovesUnreported` — the releases that move the state.

## Main results

* `evbuf_fifo` — without overflow no event is lost.
* `stateChange_reported_iff`
-/

namespace CmtSpeech

open Protocol

/-! ### What the application reads -/

/-- The events the application reads in a run, in the order in which it reads them. -/
def reads (m : Machine) : List Step → List Event
  | [] => []
  | i :: is =>
    (match i.2 with
      | .readEvent => (readEvent m.begin).1.toList
      | _ => []) ++ reads (nokiamodem.next m i).1 is

/-- The event is read in the run, or waits to be read after it.  An event that the queue had no
room for is neither. -/
def CanRead (m : Machine) (is : List Step) (e : Event) : Prop :=
  e ∈ reads m is ++ (nokiamodem.exec m is).d.evbuf

/-- The step queues an event while the queue is full.  The event is lost, and the application is
not told. -/
def Overflows (m : Machine) (i : Step) : Prop :=
  m.d.evbuf.length ≥ eventCapacity ∧ ∃ e, .queued e ∈ (nokiamodem.next m i).2

/-- One step moves events through the queue, in order. -/
theorem next_fifo {m : Machine} {i : Step} (h : ¬ Overflows m i) :
    m.d.evbuf ++ (nokiamodem.next m i).2.filterMap Obs.event? =
      reads m [i] ++ (nokiamodem.next m i).1.d.evbuf := by
  obtain ⟨k, op⟩ := i
  by_cases hw : ∃ cmd, op = .recv cmd
  · obtain ⟨cmd, rfl⟩ := hw
    obtain ⟨es, hlen, hes, hbuf⟩ := next_events m k cmd
    rw [hes, hbuf]
    cases es with
    | nil => simp [reads]
    | cons e es =>
      have hnil : es = [] := by
        rw [List.length_cons] at hlen
        exact List.length_eq_zero_iff.mp (by omega)
      subst hnil
      -- A full queue would drop its oldest event, which is what `h` excludes.
      have hroom : ¬ m.d.evbuf.length ≥ eventCapacity := by
        intro hfull
        refine h ⟨hfull, e, queued_mem_iff.mpr ?_⟩
        rw [hes]
        exact List.mem_singleton_self e
      rw [List.foldl_cons, List.foldl_nil, pushEvent, if_neg hroom]
      simp [reads]
  · have hno := not_exists.mp hw
    rw [next_noEvent m k hno, List.append_nil]
    by_cases hr : op = .readEvent
    · subst hr
      show m.d.evbuf = ((readEvent m.begin).1.toList ++ []) ++ (readEvent m.begin).2.d.evbuf
      rw [readEvent, privDequeueControlEvent, begin_d]
      cases hq : m.d.evbuf with
      | nil => simp [hq]
      | cons e es => simp
    · have hev : (nokiamodem.next m (k, op)).1.d.evbuf = m.d.evbuf :=
        congrArg Prod.fst (Op.run_events k m.begin op hno hr)
      have hreads : reads m [(k, op)] = [] := by
        cases op <;> first | rfl | exact absurd rfl hr
      rw [hev, hreads, List.nil_append]

/-- **Without overflow no event is lost**: the events queued in a run are those read in it
and those left in the queue, in the same order. -/
theorem evbuf_fifo {m : Machine} {is : List Step}
    (h : nokiamodem.Along (fun m i => ¬ Overflows m i) m is) :
    m.d.evbuf ++ (nokiamodem.trace m is).filterMap Obs.event? =
      reads m is ++ (nokiamodem.exec m is).d.evbuf := by
  induction is generalizing m with
  | nil => simp [reads]
  | cons i is ih =>
    have hstep := next_fifo h.1
    have hrest := ih h.2
    have hreads : reads m (i :: is) = reads m [i] ++ reads (nokiamodem.next m i).1 is := by
      simp [reads]
    rw [Lts.trace_cons, Lts.exec_cons, List.filterMap_append, ← List.append_assoc, hstep,
      List.append_assoc, hrest, hreads, List.append_assoc]

/-! ### The event of a deferred reply -/

/-- The last event for a `SPEECH_CONFIG_REQ`, after one more observation. -/
def lastRequest (g : Option Event) : Obs → Option Event
  | .queued e => if e.msgType = speechConfigReq then some e else g
  | _ => g

theorem foldl_lastRequest (g : Option Event) (out : List Obs) :
    out.foldl lastRequest g =
      ((out.filterMap Obs.event?).map .queued).foldl lastRequest g := by
  refine foldl_events ?_ g out
  intro g o ho
  cases o with
  | queued e => cases ho
  | _ => rfl

/-- The event of a request that is not answered yet reports no change: the state moves when the
reply is written, after the event has been queued. -/
def RequestPending (m : Machine) (g : Option Event) : Prop :=
  m.buf.speechConfigRespPend = true → ∀ e ∈ g, e.prevState = e.state

namespace Protocol

variable {k : Kernel} {v v' : View} {o : List Obs} {op : Op}

theorem SpeechConfig.defer_inv {req : SpeechConfigReq} (h : SpeechConfig k req v o v')
    (hp : v'.respPend = true) : v'.bc.protoState = v.bc.protoState := by
  cases h with
  | now hr => simp [hr.respPend] at hp
  | defer => rfl

theorem SsiResp.respPend_of {resp : SsiConfigResp} (h : SsiResp k resp v o v')
    (hp : v'.respPend = true) : v.respPend = true := by
  cases h with
  | reconnect hr hq hc h => exact h.respPend.symm.trans hp
  | redisconnect hr hq hc h => exact h.respPend.symm.trans hp
  | errorPending hr hq hs => simp [hs.respPend] at hp
  | error hr h₁ h₂ hs => simp [hs.respPend] at hp
  | _ => exact hp

/-- Only a `SPEECH_CONFIG_REQ` defers a reply; after another message one is pending only if it was
before. -/
theorem Control.respPend_of {cmd : Cmd} (h : Control k cmd v o v')
    (ht : msgGetType cmd ≠ speechConfigReq) (hp : v'.respPend = true) : v.respPend = true := by
  cases h with
  | speechConfig ht' h => exact absurd ht' ht
  | ssiResp ht' h =>
    refine h.respPend_of ?_
    rw [afterSsiResp] at hp
    split at hp <;> exact hp
  | resetReq ht' h => simp [afterPeerReset] at hp
  | resetRespConnect ht' hq h => exact h.respPend.symm.trans hp
  | _ => exact hp

theorem Recv.respPend_of {cmd : Cmd} (h : Recv k cmd v o v') (hc : ¬ SpeechConfigReqWord cmd)
    (hp : v'.respPend = true) : v.respPend = true := by
  cases h with
  | control hd e h tstamp he => exact h.respPend_of (fun ht => hc ⟨hd, ht⟩) hp
  | testRamp hd ht h => cases h <;> exact hp
  | csError hd ht e he => simp [afterPeerReset] at hp
  | _ => exact hp

theorem CallStatus.respPend_of {b : Bool} (h : CallStatus k b v o v') (hp : v'.respPend = true) :
    v.respPend = true := by
  cases h with
  | disconnect h₁ hs h => exact h.respPend.symm.trans hp
  | connect hs h => exact h.respPend.symm.trans hp
  | reset hs h => exact absurd hp (by simp [h.respPend])
  | crashed hs hc hi h => exact h.respPend.symm.trans hp
  | _ => exact hp

/-- A reply that is deferred after a step was deferred before, or the step has read a
request. -/
theorem ProtoStep.respPend_of (h : ProtoStep k op v o v')
    (hc : ∀ cmd, op = .recv cmd → ¬ SpeechConfigReqWord cmd) (hp : v'.respPend = true) :
    v.respPend = true := by
  cases h with
  | recv h => exact h.respPend_of (hc _ rfl) hp
  | callStatus h => exact h.respPend_of hp
  | error h => simp [h.respPend] at hp
  | sendTiming h => exact h.respPend.symm.trans hp
  | sendSsi h => exact h.respPend.symm.trans hp
  | testReq h => cases h <;> exact hp
  | dlReleaseReply hr h => exact hr
  | ulReleaseReply hr h => exact hr
  | _ => exact hp

end Protocol

/-- One step keeps the event of the last request one that tells no change, while its reply is
pending. -/
theorem RequestPending.next {m : Machine} {g : Option Event} (h : RequestPending m g) (i : Step) :
    RequestPending (nokiamodem.next m i).1 ((nokiamodem.next m i).2.foldl lastRequest g) := by
  obtain ⟨k, op⟩ := i
  intro hp
  have hstep : ProtoStep k op _ _ _ := nokiamodem_refines m (k, op)
  rw [foldl_lastRequest]
  by_cases hop : ∃ cmd, op = .recv cmd
  · obtain ⟨cmd, rfl⟩ := hop
    obtain ⟨es, hes, -, hev⟩ := next_recvEvents m k cmd
    rw [hes]
    have hkeep (hc : ¬ SpeechConfigReqWord cmd) : ∀ e ∈ g, e.prevState = e.state :=
      h (hstep.recv_inv.respPend_of hc hp)
    cases hev with
    | control hd hu ht hc e tstamp he =>
      rw [List.map_cons, List.foldl_cons, List.map_nil, List.foldl_nil, lastRequest, he.msgType]
      by_cases hs : msgGetType cmd = speechConfigReq
      · -- the request itself: the event was completed with the state it arrived in
        rw [if_pos (by rw [eventType, hs]; decide)]
        rintro _ ⟨⟩
        rw [he.prevState, he.state]
        exact ((hc.speechConfig_inv k hs).defer_inv hp).symm
      · have hty : eventType cmd ≠ speechConfigReq := by
          unfold eventType
          split
          · decide
          · exact hs
        rw [if_neg hty]
        exact hkeep fun hw => hs hw.2
    | csError hd ht e he hv =>
      rw [List.map_cons, List.foldl_cons, List.map_nil, List.foldl_nil, lastRequest, he.msgType,
        if_neg (by decide)]
      refine hkeep ?_
      intro hw
      exact absurd (hd.symm.trans hw.1) (by decide)
    | silent hw hs =>
      refine hkeep fun hc => hw (Or.inl ⟨hc.1, ?_⟩)
      rw [hc.2]
      decide
  -- Without a word no event comes, and a reply that was not pending does not become so.
  · have hno := not_exists.mp hop
    rw [next_noEvent m k hno]
    exact h (hstep.respPend_of (fun cmd heq => absurd heq (hno cmd)) hp)

/-- A run keeps it so, from the fresh driver, which has no request. -/
theorem requestPending_exec {m : Machine} {g : Option Event} (h : RequestPending m g)
    (is : List Step) :
    RequestPending (nokiamodem.exec m is) ((nokiamodem.trace m is).foldl lastRequest g) := by
  induction is generalizing m g with
  | nil => exact h
  | cons i is ih =>
    rw [Lts.exec_cons, Lts.trace_cons, List.foldl_append]
    exact ih (h.next i)

/-! ### Where a release takes the state -/

/-- The kernel takes a `RESET_CONN_REQ` after `n` other calls; `wake` are the users of the
wakeline. -/
def Kernel.ResetSentAfter (k : Kernel) (n : ℕ) (wake : BitVec 3) : Prop :=
  if wake = 0 then k.setWakeline n = 0 ∧ (k.write (n + 1)).res = ctrlLen
  else (k.write n).res = ctrlLen

instance (k : Kernel) (n : ℕ) (wake : BitVec 3) : Decidable (k.ResetSentAfter n wake) :=
  inferInstanceAs (Decidable (if wake = 0 then _ ∧ _ else _))

section
variable (k : Kernel) (m : Machine)

/-- Writing a reply that reports success moves the state, if it is written in full. -/
theorem protoState_replyOk :
    (privWrite k (msgEncodeSpeechConfigResp 0) m).2.bcstate.protoState =
      if (k.write m.tick).res = ctrlLen then replied m.bcstate.protoState m.bcstate.privState
      else m.bcstate.protoState := by
  unfold privWrite
  split
  · next hw =>
    obtain ⟨o, -, hp⟩ := bcPostCommand_replyOk k
      (m.syscall (.write (msgEncodeSpeechConfigResp 0) (k.write m.tick)))
    rw [bcWriteCommand_full k (by simp) hw]
    exact hp.replied
  · next hw =>
    rw [bcWriteCommand_short k hw]
    rfl

/-- Writing a reply that reports a failure moves nothing, and takes one call of the kernel. -/
theorem privWrite_replyErr :
    (privWrite k (msgEncodeSpeechConfigResp 1) m).2.bcstate.protoState = m.bcstate.protoState ∧
      (privWrite k (msgEncodeSpeechConfigResp 1) m).2.d = m.d ∧
      (privWrite k (msgEncodeSpeechConfigResp 1) m).2.tick = m.tick + 1 := by
  unfold privWrite
  by_cases hw : (k.write m.tick).res = ctrlLen
  · rw [bcWriteCommand_full k (by simp) hw, bcPostCommand_replyErr]
    exact ⟨rfl, rfl, rfl⟩
  · rw [bcWriteCommand_short k hw]
    exact ⟨rfl, rfl, rfl⟩

theorem protoState_resetConnReq :
    (privWrite k msgEncodeResetConnReq m).2.bcstate.protoState =
      if (k.write m.tick).res = ctrlLen then .invalid else m.bcstate.protoState := by
  unfold privWrite
  split
  · next hw =>
    rw [bcWriteCommand_full k (by simp) hw, bcPostCommand_resetConnReq]
    rfl
  · next hw =>
    rw [bcWriteCommand_short k hw]
    rfl

theorem protoState_privSendReset :
    (privSendReset k m).2.bcstate.protoState =
      if k.ResetSentAfter m.tick m.d.wakelineUsers then .invalid else m.bcstate.protoState := by
  have hfst := privAcquireWakeline_fst k wakelineReset m
  have htick := tick_privAcquireWakeline k wakelineReset m
  have hbc : (privAcquireWakeline k wakelineReset m).2.bcstate = m.bcstate :=
    congrArg View.bc (view_privAcquireWakeline k wakelineReset m)
  unfold privSendReset
  dsimp only
  generalize privAcquireWakeline k wakelineReset m = a at hfst htick hbc ⊢
  have hdown (m' : Machine) : (privSetupDriverBufconfig k
      (m'.modBuf fun b => { b with slotSize := 0 })).2.bcstate = m'.bcstate :=
    congrArg View.bc (view_tearDown k m')
  have hrelease (m' : Machine) : (privReleaseWakeline k wakelineReset m').2.bcstate = m'.bcstate :=
    congrArg View.bc (view_privReleaseWakeline k wakelineReset m')
  have hwrite : (if (privWrite k msgEncodeResetConnReq a.2).1 < 0 then
      privReleaseWakeline k wakelineReset (privWrite k msgEncodeResetConnReq a.2).2
      else privWrite k msgEncodeResetConnReq a.2).2.bcstate.protoState =
      if (k.write a.2.tick).res = ctrlLen then .invalid else m.bcstate.protoState := by
    rw [← hbc, ← protoState_resetConnReq]
    split
    · rw [hrelease]
    · rfl
  -- with the line down the write comes second, and only if the line could be raised
  have hsent : k.ResetSentAfter m.tick m.d.wakelineUsers ↔
      a.1 = 0 ∧ (k.write a.2.tick).res = ctrlLen := by
    rw [Kernel.ResetSentAfter, hfst, htick]
    split <;> simp
  rw [hdown]
  by_cases ha : a.1 = 0
  · rw [if_pos ha, hwrite]
    exact (if_congr (hsent.trans (and_iff_right ha)) rfl rfl).symm
  · rw [if_neg ha, hbc, if_neg fun h => ha (hsent.mp h).1]

/-- Where `priv_setup_and_send_speech_config_reply` takes the state. -/
theorem protoState_privSetupAndSendSpeechConfigReply (ht : m.tick = 0) :
    (privSetupAndSendSpeechConfigReply k m).2.bcstate.protoState =
      if k.configBufs 1 = 0 then
        if (k.write 2).res = ctrlLen then replied m.bcstate.protoState m.bcstate.privState
        else m.bcstate.protoState
      else if k.ResetSentAfter 3 m.d.wakelineUsers then .invalid else m.bcstate.protoState := by
  unfold privSetupAndSendSpeechConfigReply
  obtain ⟨htick, hfst⟩ := privSetupDriverBufconfig_tick k
    (m.modBuf fun b => { b with speechConfigRespPend := false })
  have hview := view_privSetupDriverBufconfig k
    (m.modBuf fun b => { b with speechConfigRespPend := false })
  rw [Machine.modBuf_tick, ht, Nat.zero_add] at htick hfst
  rw [configured_of_not_respPend rfl] at hview
  generalize privSetupDriverBufconfig k
    (m.modBuf fun b => { b with speechConfigRespPend := false }) = c at htick hfst hview ⊢
  have hbc : c.2.bcstate = m.bcstate := congrArg View.bc hview
  have hwake : c.2.d.wakelineUsers = m.d.wakelineUsers := congrArg View.wake hview
  by_cases hc : c.1 = 0
  · simp only [if_pos hc, if_neg (not_not.mpr hc)]
    -- The state moves after the write, and only if the reply was written in full.
    rw [protoState_replyOk, if_pos (hfst.symm.trans hc), hbc, htick]
  · -- the layout is refused: the reply says so, and a reset follows
    simp only [if_neg hc, if_pos hc]
    obtain ⟨hs, hd, ht⟩ := privWrite_replyErr k c.2
    have hconf : k.configBufs 1 ≠ 0 := by rwa [← hfst]
    rw [if_neg hconf, protoState_privSendReset, Machine.modBuf_tick, Machine.modBuf_d,
      Machine.modBuf_bcstate, hs, hd, ht, htick, hbc, hwake]

end

/-- The calls that release a buffer.  No event comes of them. -/
def IsRelease : Op → Prop
  | .dlBufferRelease _ | .ulBufferRelease _ => True
  | _ => False

/-- A successful reply moves the state: it starts a stream, starts the downlink over again, or
ends a stream. -/
def ReplyMoves (s : BcState) : Prop :=
  s.privState = .configActPend ∧ (s.protoState = .connected ∨ s.protoState = .activeDlul) ∨
    s.privState = .configDeactPend ∧ (s.protoState = .activeDl ∨ s.protoState = .activeDlul)

/-- The releases that move the state: the reply is sent, and it moves the state; or the
layout is refused, and the reset that follows is sent. -/
def MovesUnreported (m : Machine) (i : Step) : Prop :=
  IsRelease i.2 ∧ ComesToReply m.buf i.2 ∧
    (i.1.ReplySent ∧ ReplyMoves m.bcstate ∨
      i.1.configBufs 1 ≠ 0 ∧ i.1.ResetSentAfter 3 m.d.wakelineUsers ∧
        m.bcstate.protoState ≠ .invalid)

theorem MovesUnreported.respPend {m : Machine} {i : Step} (h : MovesUnreported m i) :
    m.buf.speechConfigRespPend = true := by
  obtain ⟨k, op⟩ := i
  obtain ⟨hr, hc, -⟩ := h
  match op, hr, hc with
  | .dlBufferRelease _, _, hc => exact hc.2.1
  | .ulBufferRelease (some _), _, hc => exact hc.1

theorem replied_ne_iff (s : BcState) :
    replied s.protoState s.privState ≠ s.protoState ↔ ReplyMoves s := by
  rw [replied, ReplyMoves]
  cases s.protoState <;> cases s.privState <;> simp

/-- The reply moves the state in one of the two ways. -/
theorem reply_moves_iff (k : Kernel) (m : Machine) (ht : m.tick = 0) :
    (privSetupAndSendSpeechConfigReply k m).2.bcstate.protoState ≠ m.bcstate.protoState ↔
      k.ReplySent ∧ ReplyMoves m.bcstate ∨
        k.configBufs 1 ≠ 0 ∧ k.ResetSentAfter 3 m.d.wakelineUsers ∧
          m.bcstate.protoState ≠ .invalid := by
  rw [protoState_privSetupAndSendSpeechConfigReply k m ht, Kernel.ReplySent, ← replied_ne_iff]
  by_cases hc : k.configBufs 1 = 0
  · by_cases hw : (k.write 2).res = ctrlLen
    · simp [hc, hw]
    · simp [hc, hw]
  · by_cases hr : k.ResetSentAfter 3 m.d.wakelineUsers
    · simp [hc, hr, eq_comm]
    · simp [hc, hr]

/-- The release of the last buffer comes to the reply. -/
theorem release_moves_iff (k : Kernel) (slot : Slot) (m : Machine) (ht : m.tick = 0) :
    (privDrvbufLayoutChangeBufferReleased k slot m).bcstate.protoState ≠ m.bcstate.protoState ↔
      privLockedBufdescs (m.buf.mapFlags slot (· &&& ~~~bufLocked)) = 0 ∧
        (k.ReplySent ∧ ReplyMoves m.bcstate ∨
          k.configBufs 1 ≠ 0 ∧ k.ResetSentAfter 3 m.d.wakelineUsers ∧
            m.bcstate.protoState ≠ .invalid) := by
  have hreply := reply_moves_iff k (m.modBuf fun b => b.mapFlags slot (· &&& ~~~bufLocked)) ht
  unfold privDrvbufLayoutChangeBufferReleased
  dsimp only
  split
  · next hz =>
    rw [and_iff_right (by exact hz)]
    refine Iff.trans ?_ hreply
    split <;> rfl
  · next hz => exact iff_of_false (fun h => h rfl) fun h => hz h.1

theorem next_moves_iff (m : Machine) {i : Step} (h : IsRelease i.2) :
    (nokiamodem.next m i).1.bcstate.protoState ≠ m.bcstate.protoState ↔ MovesUnreported m i := by
  obtain ⟨k, op⟩ := i
  rw [MovesUnreported, and_iff_right h]
  match op, h with
  | .dlBufferRelease i, _ =>
    -- A release moves the state only by the reply it makes, and that needs the last buffer.
    have hlast := release_moves_iff k (.dl (m.buf.dlbufdesc i).bd.index) m.begin rfl
    show (dlBufferRelease k i m.begin).2.bcstate.protoState ≠ _ ↔ _
    rw [dlBufferRelease, ComesToReply, BufState.LastHeld, begin_buf]
    split
    · next hl => exact iff_of_false (fun h => h rfl) fun h => h.1.1 hl
    · next hl =>
      split
      · next hp =>
        refine hlast.trans ⟨fun h => ⟨⟨hl, hp, h.1⟩, h.2⟩, fun h => ⟨h.1.2.2, h.2⟩⟩
      · next hp =>
        refine iff_of_false (fun h => h ?_) fun h => hp h.1.2.1
        dsimp only
        split <;> rfl
  | .ulBufferRelease none, _ => exact iff_of_false (fun h => h rfl) fun h => h.1
  | .ulBufferRelease (some i), _ =>
    have hlast := release_moves_iff k (.ul (m.buf.ulbufdesc i).bd.index) m.begin rfl
    show (ulBufferRelease k (some i) m.begin).2.bcstate.protoState ≠ _ ↔ _
    rw [ulBufferRelease, ComesToReply, BufState.LastHeld, begin_buf]
    dsimp only
    split
    · next hp => exact hlast.trans ⟨fun h => ⟨⟨hp, h.1⟩, h.2⟩, fun h => ⟨h.1.2, h.2⟩⟩
    · next hp =>
      have hbc : (ulBufferSubmit k i m.begin).2.bcstate = m.begin.bcstate :=
        congrArg View.bc (ulBufferSubmit_spec k i m.begin).2
      refine iff_of_false (fun h => h ?_) fun h => hp h.1.1
      exact congrArg BcState.protoState hbc

/-! ### The main result -/

/-- Steps in which a message of the modem can move the state: the message itself, and a
release, which may send the reply to an earlier one. -/
def ByModem : Op → Prop
  | .checkPending _ (some cmd) => msgGetDomain cmd = domainControl
  | .dlBufferRelease _ | .ulBufferRelease _ => True
  | _ => False

/-- The events for what the step after `pre` does: those the step queues, or for a release
the event of the last `SPEECH_CONFIG_REQ`. -/
def eventsFor (m : Machine) (pre : List Step) (i : Step) : List Event :=
  match i.2 with
  | .dlBufferRelease _ | .ulBufferRelease _ =>
    ((nokiamodem.trace m pre).foldl lastRequest none).toList
  | _ => (nokiamodem.next (nokiamodem.exec m pre) i).2.filterMap Obs.event?

/-- If the step after `pre` moves the state from `s` to `t`, the application can read an
event for it in the run `is` that says so. -/
def ReportsMove (m : Machine) (is pre : List Step) (i : Step) (s t : ProtoState) : Prop :=
  ByModem i.2 → s ≠ t →
    ∃ e ∈ eventsFor m pre i, e.prevState = s ∧ e.state = t ∧ CanRead m is e

theorem ByModem.recv {op : Op} (h : ByModem op) (hr : ¬ IsRelease op) :
    ∃ flags cmd, op = .checkPending flags (some cmd) ∧ msgGetDomain cmd = domainControl := by
  cases op with
  | checkPending flags word =>
    cases word with
    | none => exact h.elim
    | some cmd => exact ⟨flags, cmd, rfl, h⟩
  | dlBufferRelease i => exact absurd trivial hr
  | ulBufferRelease buf => exact absurd trivial hr
  | _ => exact h.elim

/-- One step reports the move it makes if and only if it is no release that makes a deferred
reply. -/
theorem reportsMove_iff {m : Machine} (hm : nokiamodem.init m) {is pre post : List Step} {i : Step}
    (his : is = pre ++ i :: post) (ho : nokiamodem.Along (fun m i => ¬ Overflows m i) m is) :
    ReportsMove m is pre i (nokiamodem.exec m pre).bcstate.protoState
        (nokiamodem.exec m (pre ++ [i])).bcstate.protoState ↔
      ¬ MovesUnreported (nokiamodem.exec m pre) i := by
  rw [ReportsMove, Lts.exec_append, Lts.exec_cons, Lts.exec_nil]
  have hempty : m.d.evbuf = [] ∧ m.buf.speechConfigRespPend = false := by
    obtain ⟨area, old, rfl⟩ := hm
    exact ⟨rfl, rfl⟩
  by_cases hr : IsRelease i.2
  · -- the event was completed when the request was deferred
    have hpend : RequestPending m none := fun _ e he => by simp at he
    have hlast := requestPending_exec hpend pre
    have hmove := next_moves_iff (nokiamodem.exec m pre) hr
    constructor
    · intro h hunrep
      have hne := hmove.mpr hunrep
      have hmod : ByModem i.2 ∧ eventsFor m pre i =
          ((nokiamodem.trace m pre).foldl lastRequest none).toList := by
        obtain ⟨k, op⟩ := i
        match op, hr with
        | .dlBufferRelease _, _ => exact ⟨trivial, rfl⟩
        | .ulBufferRelease _, _ => exact ⟨trivial, rfl⟩
      obtain ⟨e, he, hprev, hstate, -⟩ := h hmod.1 hne.symm
      rw [hmod.2, Option.mem_toList] at he
      have hsame := hlast hunrep.respPend e he
      exact hne (hstate.symm.trans (hsame.symm.trans hprev))
    · intro h _ hne
      exact absurd (hmove.mp hne.symm) h
  · refine iff_of_true ?_ fun h => hr h.1
    -- Without a deferred reply the word that moves the state brings its own event.
    intro hmod hne
    obtain ⟨k, op⟩ := i
    obtain ⟨flags, cmd, rfl, hd⟩ := ByModem.recv hmod hr
    cases flags with
    | false => exact absurd rfl hne
    | true =>
      obtain ⟨es, hes, -, hev⟩ := next_recvEvents (nokiamodem.exec m pre) k cmd
      cases hev with
      | control hd hu ht hc e tstamp he =>
        have hqueued : e ∈ (nokiamodem.next (nokiamodem.exec m pre) (k, .recv cmd)).2.filterMap
            Obs.event? := by
          rw [hes]
          exact List.mem_singleton_self e
        refine ⟨e, hqueued, he.prevState, he.state, ?_⟩
        rw [CanRead, ← evbuf_fifo ho, hempty.1, List.nil_append, ← queued_mem_iff, his,
          Lts.trace_append, Lts.trace_cons, List.mem_append, List.mem_append]
        exact Or.inr (Or.inl (queued_mem_iff.mpr hqueued))
      | csError hd' ht e he hv => exact absurd (hd'.symm.trans hd) (by decide)
      | silent hw hs => exact absurd hs.symm hne

/-- **Every change of state by a message of the modem is reported**, throughout a run
without overflow, if and only if no release moves the state. -/
theorem stateChange_reported_iff {m : Machine} (hm : nokiamodem.init m) {is : List Step}
    (ho : nokiamodem.Along (fun m i => ¬ Overflows m i) m is) :
    (∀ pre i post, is = pre ++ i :: post →
        ReportsMove m is pre i (nokiamodem.exec m pre).bcstate.protoState
          (nokiamodem.exec m (pre ++ [i])).bcstate.protoState) ↔
      nokiamodem.Along (fun m i => ¬ MovesUnreported m i) m is := by
  rw [Lts.along_iff_forall_split]
  constructor
  · intro h pre i post his
    exact (reportsMove_iff hm his ho).mp (h pre i post his)
  · intro h pre i post his
    exact (reportsMove_iff hm his ho).mpr (h pre i post his)

/-- The call ends while the application holds a buffer, and the buffer is released. -/
def endedHeldRun : List Step :=
  heldBufferRun ++ [(.accepting, .recv (speechConfigReqMsg false)),
    (.accepting, .ulBufferRelease (some 0))]

/-- The run moves through `CONNECTED`, `ACTIVE_DL` and `ACTIVE_DLUL`, with an event for each,
and back to `CONNECTED` by the release. -/
theorem stateChange_reported_endedHeld :
    (∀ pre i post, endedHeldRun = pre ++ i :: post →
        ReportsMove Machine.fresh endedHeldRun pre i
          (nokiamodem.exec Machine.fresh pre).bcstate.protoState
          (nokiamodem.exec Machine.fresh (pre ++ [i])).bcstate.protoState) ↔
      nokiamodem.Along (fun m i => ¬ MovesUnreported m i) Machine.fresh endedHeldRun := by
  refine stateChange_reported_iff init_fresh ?_
  refine ⟨?_, ?_, ?_, ?_, ?_, ?_, ?_, trivial⟩ <;> exact fun h => absurd h.1 (by decide)

/-- The release takes the state from `ACTIVE_DLUL` to `CONNECTED`, and no event says so. -/
theorem stateChange_unreported :
    nokiamodem.init Machine.fresh ∧
      nokiamodem.Along (fun m i => ¬ Overflows m i) Machine.fresh endedHeldRun ∧
      (nokiamodem.exec Machine.fresh endedHeldRun.dropLast).bcstate.protoState = .activeDlul ∧
      (nokiamodem.exec Machine.fresh endedHeldRun).bcstate.protoState = .connected ∧
      ¬ ∀ pre i post, endedHeldRun = pre ++ i :: post →
        ReportsMove Machine.fresh endedHeldRun pre i
          (nokiamodem.exec Machine.fresh pre).bcstate.protoState
          (nokiamodem.exec Machine.fresh (pre ++ [i])).bcstate.protoState := by
  refine ⟨init_fresh, ?_, by decide, by decide, ?_⟩
  · refine ⟨?_, ?_, ?_, ?_, ?_, ?_, ?_, trivial⟩ <;> exact fun h => absurd h.1 (by decide)
  · intro h
    obtain ⟨e, he, -, hstate, -⟩ := h endedHeldRun.dropLast (.accepting, .ulBufferRelease (some 0))
      [] rfl trivial (by decide)
    have hevents : ∀ e ∈ eventsFor Machine.fresh endedHeldRun.dropLast
        (.accepting, .ulBufferRelease (some 0)), e.state = .activeDlul := by decide
    exact absurd (hstate.symm.trans (hevents e he)) (by decide)

end CmtSpeech
