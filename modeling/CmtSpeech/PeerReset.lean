import CmtSpeech.Buffers
import CmtSpeech.History
import CmtSpeech.Inbound

/-!
# A peer reset is a complete reset

A `RESET_CONN_REQ` of the modem, or an error indication of the driver, leaves the library
as `cmtspeech_open` does, whatever state it was in and whatever the kernel answers on the
way.

## Main result

* `peerReset_complete`
-/

namespace CmtSpeech

open Protocol

/-- A word by which the other side resets the protocol: a request of the modem, which is answered,
or an error indication of the driver, which is not.  `cmtSentReq` is what the event says of it, 1
for the modem. -/
def PeerResetWord (cmd : Cmd) (cmtSentReq : ℤ) : Prop :=
  msgGetDomain cmd = domainControl ∧ msgGetType cmd = resetConnReq ∧ cmtSentReq = 1 ∨
    msgGetDomain cmd = domainInternal ∧ msgGetType cmd = csError ∧ cmtSentReq = 0

/-- The protocol state, the buffer state and the wakeline users are those of a new
instance, the protocol version apart. -/
structure Reopened (m m' : Machine) : Prop where
  bcstate : ∀ area old, m'.bcstate =
    { (cmtspeechOpen area old).bcstate with confProtoVersion := m.bcstate.confProtoVersion }
  buf : ∀ area old, m'.buf = (cmtspeechOpen area old).buf
  wakelineUsers : ∀ area old, m'.d.wakelineUsers = (cmtspeechOpen area old).d.wakelineUsers

/-! ### The buffers and the event queue -/

/-- The buffer state and the queue after a peer reset. -/
theorem handleInboundControlMessage_peerReset (k : Kernel) {cmd : Cmd} {c : ℤ}
    (hw : PeerResetWord cmd c) (m : Machine) :
    (handleInboundControlMessage k cmd m).2.2.buf = privResetBufStateToDisconnected ∧
      ∃ e, (handleInboundControlMessage k cmd m).2.2.d.evbuf = pushEvent m.d.evbuf e ∧
        Obs.queued e ∈ (handleInboundControlMessage k cmd m).2.2.out := by
  rcases hw with ⟨hd, ht, -⟩ | ⟨hd, ht, -⟩
  · rw [handleInboundControlMessage, if_pos hd, bcHandleCommand_resetConnReq k m ht,
      if_neg (by simp), handleCommandBackend_resetConnReq k _ _ ht, if_pos (by rw [ht]; decide)]
    dsimp only
    refine ⟨buf_privInitializeAfterPeerReset k _, _, ?_, List.mem_append_right _ List.mem_cons_self⟩
    have he := (events_privInitializeAfterPeerReset k _).trans (events_privWrite k
      (m.modBc BcState.privResetStateToDisconnected) msgEncodeResetConnResp)
    exact congrArg (fun r : List Event × List Event => pushEvent r.1 _) he
  · rw [handleInboundControlMessage, if_neg (by rw [hd]; decide), if_pos hd,
      if_neg (by rw [ht]; decide), if_pos ht, handleCsError]
    refine ⟨buf_privInitializeAfterPeerReset k _, _, ?_, List.mem_append_right _ List.mem_cons_self⟩
    exact congrArg (fun r : List Event × List Event => pushEvent r.1 _)
      (events_privInitializeAfterPeerReset k m)

/-! ### The protocol state and the event -/

namespace Protocol

variable {k : Kernel} {v v' : View} {o : List Obs} {cmd : Cmd} {c : ℤ}

/-- The protocol layer after a peer reset: only the protocol version survives. -/
theorem Recv.peerReset (h : Recv k cmd v o v') (hw : PeerResetWord cmd c) :
    v'.bc = v.bc.privResetStateToDisconnected ∧ v'.wake = 0 ∧
      ∃ o₁ e, o = .recv cmd :: (o₁ ++ [.queued e]) ∧ o₁.filterMap Obs.event? = [] ∧
        Reports e eventReset (.resetDone c) v.bc.protoState .disconnected := by
  rcases hw with ⟨hd, ht, rfl⟩ | ⟨hd, ht, rfl⟩
  · obtain ⟨o₁, e, rfl, hc, tstamp, he⟩ :=
      h.control_inv k hd (by rw [ht]; decide) (by rw [ht]; decide)
    clear h
    cases hc with
    | resetReq _ hs =>
      -- the answer may fail, which only dirties what is reset afterwards
      have ho : o₁.filterMap Obs.event? = [] := by cases hs <;> rfl
      have hbc : ∀ w : View, w.bc.confProtoVersion = v.bc.confProtoVersion →
          (afterPeerReset w).bc = v.bc.privResetStateToDisconnected := by
        intro w hw
        simp [afterPeerReset, BcState.privResetStateToDisconnected, BcState.privStateChangeTo, hw]
      refine ⟨hbc _ (by cases hs <;> rfl), rfl, o₁, e, rfl, ho, ?_⟩
      simpa [eventType, eventMsg, ht, afterPeerReset] using he
    | _ => simp_all
  · have hne : domainInternal ≠ domainControl := by decide
    cases h with
    | csError hd' ht' e he => exact ⟨rfl, rfl, [], e, rfl, rfl, he⟩
    | control hd' e h tstamp he => exact absurd (hd.symm.trans hd') hne
    | testRampNoBufs hd' ht' n hc => exact absurd (hd.symm.trans hd') hne
    | testRamp hd' ht' h => exact absurd (hd.symm.trans hd') hne
    | data hd' ht' => exact absurd ht ht'
    | unknown h =>
      rcases h with ⟨hd', -⟩ | ⟨-, hd'⟩
      · exact absurd (hd.symm.trans hd') hne
      · exact absurd hd hd'

end Protocol

/-- **A peer reset is a complete reset.**  After a `RESET_CONN_REQ` or a driver error, in
whatever state it arrives and however its system calls end, the library is as
`cmtspeech_open` leaves it, and exactly one reset event has been queued. -/
theorem peerReset_complete (m : Machine) (k : Kernel) {cmd : Cmd} {cmtSentReq : ℤ}
    (hw : PeerResetWord cmd cmtSentReq) :
    Reopened m (nokiamodem.next m (k, .recv cmd)).1 ∧
      ∃ e, (nokiamodem.next m (k, .recv cmd)).2.filterMap Obs.event? = [e] ∧
        (nokiamodem.next m (k, .recv cmd)).1.d.evbuf = pushEvent m.d.evbuf e ∧
        e.msgType = eventReset ∧ e.prevState = m.bcstate.protoState ∧
        e.state = .disconnected ∧ e.msg = .resetDone cmtSentReq := by
  have hstep := nokiamodem_refines m (k, .recv cmd)
  have hrecv : Recv k cmd m.view (nokiamodem.visible Obs.visible m (k, .recv cmd))
      (nokiamodem.next m (k, .recv cmd)).1.view := hstep.recv_inv k
  obtain ⟨hbc, hwake, o₁, e, ho, ho₁, he⟩ := hrecv.peerReset hw
  obtain ⟨hbuf, e', hev, hmem⟩ :=
    handleInboundControlMessage_peerReset k hw (m.begin.emit (.recv cmd))
  have hevents : (nokiamodem.next m (k, .recv cmd)).2.filterMap Obs.event? = [e] := by
    rw [← filterMap_event_visible]
    show (nokiamodem.visible Obs.visible m (k, .recv cmd)).filterMap Obs.event? = [e]
    rw [ho, List.filterMap_cons, List.filterMap_append, ho₁]
    rfl
  -- the event in the queue is the one the protocol layer saw
  have heq : e' = e := by
    have : e' ∈ (nokiamodem.next m (k, .recv cmd)).2.filterMap Obs.event? :=
      List.mem_filterMap.mpr ⟨_, hmem, rfl⟩
    simpa [hevents] using this
  refine ⟨⟨fun area old => ?_, fun area old => hbuf, fun area old => hwake⟩, e, hevents,
    heq ▸ hev, he.msgType, he.prevState, he.state, he.msg⟩
  exact hbc

/-- The modem ends the stream while the application holds an uplink buffer, so its request
still waits for the reply. -/
def midCallRun : List Step := heldBufferRun ++ [(.accepting, .recv (speechConfigReqMsg false))]

/-- A reset in the middle of a call, with a buffer held and a reply pending, whose answer
cannot be written. -/
theorem peerReset_midCall :
    Reopened (nokiamodem.exec Machine.fresh midCallRun)
        (nokiamodem.next (nokiamodem.exec Machine.fresh midCallRun)
          (.unwritable, .recv msgEncodeResetConnReq)).1 ∧
      ∃ e, (nokiamodem.next (nokiamodem.exec Machine.fresh midCallRun)
            (.unwritable, .recv msgEncodeResetConnReq)).2.filterMap Obs.event? = [e] ∧
        (nokiamodem.next (nokiamodem.exec Machine.fresh midCallRun)
            (.unwritable, .recv msgEncodeResetConnReq)).1.d.evbuf =
          pushEvent (nokiamodem.exec Machine.fresh midCallRun).d.evbuf e ∧
        e.msgType = eventReset ∧
        e.prevState = (nokiamodem.exec Machine.fresh midCallRun).bcstate.protoState ∧
        e.state = .disconnected ∧ e.msg = .resetDone 1 :=
  peerReset_complete (nokiamodem.exec Machine.fresh midCallRun) .unwritable
    (Or.inl ⟨by decide, by decide, rfl⟩)

example :
    (nokiamodem.exec Machine.fresh midCallRun).bcstate.protoState = .activeDlul ∧
      (nokiamodem.exec Machine.fresh midCallRun).buf.speechConfigRespPend = true ∧
      privLockedBufdescs (nokiamodem.exec Machine.fresh midCallRun).buf = 1 := by decide

end CmtSpeech
