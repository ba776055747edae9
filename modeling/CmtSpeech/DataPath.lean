import CmtSpeech.Buffers
import CmtSpeech.History

/-!
# The data path while there is no connection

In `DISCONNECTED` and `INVALID` there is no connection, and the voice data path should be
torn down: slot size 0 and every descriptor invalid.  The protocol state is changed by the
common code and the buffers by the backend, each in its own places, and not every way into
these states resets the buffers.

* `BufState.TornDown`, `BufState.Sealed` — slot size 0 goes with invalid descriptors.
* `View.PathAgrees` — the same for the protocol layer.
* `LeavesPath` — the steps that end without a connection but with a slot size.

## Main results

* `sealed_next`, `sealed_reachable` — no operation validates a descriptor without a slot size.
* `dataPath_agrees_iff`
-/

namespace CmtSpeech

open Protocol

/-! ### The buffers -/

/-- The voice data path is torn down: there is no slot size, and no descriptor is marked as one
that may be given out. -/
structure BufState.TornDown (b : BufState) : Prop where
  slotSize : b.slotSize = 0
  ul : ∀ i, (b.ulbufdesc i).flags &&& bufInvalid ≠ 0
  dl : ∀ i, (b.dlbufdesc i).flags &&& bufInvalid ≠ 0

/-- Without a slot size no descriptor is valid.  It holds in every reachable state, so for the
data path only the slot size has to be watched. -/
def BufState.Sealed (b : BufState) : Prop := b.slotSize = 0 → b.TornDown

theorem invalid_or : ∀ x y : BitVec 4, x &&& bufInvalid ≠ 0 → (x ||| y) &&& bufInvalid ≠ 0 := by
  decide

theorem invalid_unlock : ∀ x : BitVec 4, x &&& bufInvalid ≠ 0 →
    (x &&& ~~~bufLocked) &&& bufInvalid ≠ 0 := by decide

theorem invalid_unmark : ∀ x : BitVec 4, x &&& bufInvalid ≠ 0 →
    (x &&& ~~~bufXrun) &&& bufInvalid ≠ 0 := by decide

theorem invalid_set : ∀ x : BitVec 4, (x ||| bufInvalid) &&& bufInvalid ≠ 0 := by decide

/-- Marking every descriptor invalid seals the buffers. -/
theorem sealed_invalidate (b : BufState) : (privInvalidateBufferSlots b).Sealed := by
  intro h
  refine ⟨h, ?_, ?_⟩
  · intro i
    exact invalid_set (b.ulbufdesc i).flags
  · intro i
    exact invalid_set (b.dlbufdesc i).flags

theorem sealed_reset : privResetBufStateToDisconnected.Sealed := sealed_invalidate _

theorem sealed_mapFlags {b : BufState} (h : b.Sealed) (slot : Slot) {f : BitVec 4 → BitVec 4}
    (hf : ∀ x, x &&& bufInvalid ≠ 0 → f x &&& bufInvalid ≠ 0) : (b.mapFlags slot f).Sealed := by
  cases slot with
  | ul i =>
    intro hz
    obtain ⟨-, hu, hd⟩ := h hz
    refine ⟨hz, ?_, hd⟩
    intro j
    by_cases hj : j = i
    · subst hj
      simpa [BufState.mapFlags] using hf _ (hu j)
    · simpa [BufState.mapFlags, hj] using hu j
  | dl i =>
    intro hz
    obtain ⟨-, hu, hd⟩ := h hz
    refine ⟨hz, hu, ?_⟩
    intro j
    by_cases hj : j = i
    · subst hj
      simpa [BufState.mapFlags] using hf _ (hd j)
    · simpa [BufState.mapFlags, hj] using hd j

/-- No elementary change validates a descriptor without a slot size. -/
theorem BufStep.sealed {b b' : BufState} (h : BufStep b b') (hb : b.Sealed) : b'.Sealed := by
  cases h with
  | reset => exact sealed_reset
  | configure rate length => exact fun hz => ⟨hz, (hb hz).ul, (hb hz).dl⟩
  | resize slotSize h => exact fun hz => absurd hz h
  | layOut area h => exact fun hz => absurd hz h
  | moveDl slotbuf h => exact fun hz => absurd hz h
  | defer slotSize => exact sealed_invalidate _
  | answer => exact fun hz => ⟨hz, (hb hz).ul, (hb hz).dl⟩
  | invalidate => exact sealed_invalidate _
  | acquireDl i frameFlags spcFlags reserved0 h => exact fun hz => absurd h ((hb hz).dl i)
  | acquireUl i h hl hs => exact fun hz => absurd h ((hb hz).ul i)
  | release slot => exact sealed_mapFlags hb slot invalid_unlock
  | overrun i => exact sealed_mapFlags hb (.dl i) fun x => invalid_or x bufXrun
  | reportOverrun i => exact sealed_mapFlags hb (.dl i) invalid_unmark
  | fillUl i frameFlags =>
    intro hz
    refine ⟨hz, ?_, (hb hz).dl⟩
    intro j
    by_cases hj : j = i
    · subst hj
      simpa using (hb hz).ul j
    · simpa [hj] using (hb hz).ul j
  | fillDl i frameFlags =>
    intro hz
    refine ⟨hz, (hb hz).ul, ?_⟩
    intro j
    by_cases hj : j = i
    · subst hj
      simpa using (hb hz).dl j
    · simpa [hj] using (hb hz).dl j
  | receive rxPtrHw rxPtrAppl => exact fun hz => ⟨hz, (hb hz).ul, (hb hz).dl⟩
  | countErrors ulErrors => exact fun hz => ⟨hz, (hb hz).ul, (hb hz).dl⟩

theorem sealed_next (m : Machine) (i : Step) (h : m.buf.Sealed) :
    (nokiamodem.next m i).1.buf.Sealed :=
  next_buf_invariant (I := BufState.Sealed) (fun _ _ hs => hs.sealed) m i h

/-- In every reachable state no descriptor is valid without a slot size. -/
theorem sealed_reachable {m : Machine} (h : nokiamodem.Reachable m) : m.buf.Sealed :=
  buf_reachable sealed_reset (fun _ _ hs => hs.sealed) h

/-! ### The protocol state -/

/-- There is no connection: the library is `DISCONNECTED`, or `INVALID` while it waits for the
answer to a reset. -/
def BcState.Offline (s : BcState) : Prop := s.protoState = .disconnected ∨ s.protoState = .invalid

/-- The data path is torn down while there is no connection.  This is what the application relies
on when it asks for a buffer after the end of a call. -/
def Machine.DataPathAgrees (m : Machine) : Prop := m.bcstate.Offline → m.buf.TornDown

/-- There is no slot size while there is no connection.  This is all that the protocol layer can
see of the data path. -/
def View.PathAgrees (v : View) : Prop := v.bc.Offline → v.slotSize = 0

theorem dataPathAgrees_iff {m : Machine} (h : m.buf.Sealed) :
    m.DataPathAgrees ↔ m.view.PathAgrees :=
  forall_congr' fun _ => ⟨fun ht => ht.slotSize, h⟩

theorem enabled_of {s : BcState}
    (h : s.protoState = .connected ∨ s.protoState = .activeDl ∨ s.protoState = .activeDlul) :
    s.isSsiConnectionEnabled = true := s.isSsiConnectionEnabled_iff.mpr h

theorem not_offline_of_enabled {s : BcState} (h : s.isSsiConnectionEnabled = true) :
    ¬ s.Offline := by
  rw [BcState.isSsiConnectionEnabled_iff] at h
  unfold BcState.Offline
  rcases h with h | h | h <;> simp [h]

theorem noTest_of_enabled {s : BcState} (h : s.isSsiConnectionEnabled = true) :
    s.protoState ≠ .testRampPingActive := by
  rw [BcState.isSsiConnectionEnabled_iff] at h
  rcases h with h | h | h <;> simp [h]

/-- How the protocol state and the slot size change without a reset or a disconnection: not at
all, or between two states with a connection, where the slot size is free. -/
inductive PathMove (v v' : View) : Prop
  | stay (hs : v'.bc.protoState = v.bc.protoState) (hz : v'.slotSize = v.slotSize)
  | online (h : v.bc.isSsiConnectionEnabled = true) (h' : v'.bc.isSsiConnectionEnabled = true)

namespace PathMove

variable {v v' : View}

theorem agrees_iff (h : PathMove v v') : v'.PathAgrees ↔ v.PathAgrees := by
  cases h with
  | stay hs hz => rw [View.PathAgrees, View.PathAgrees, BcState.Offline, BcState.Offline, hs, hz]
  | online h h' =>
    exact iff_of_true (fun ho => absurd ho (not_offline_of_enabled h'))
      fun ho => absurd ho (not_offline_of_enabled h)

theorem noTest (h : PathMove v v') (ht : v.bc.protoState ≠ .testRampPingActive) :
    v'.bc.protoState ≠ .testRampPingActive := by
  cases h with
  | stay hs hz => rwa [hs]
  | online h h' => exact noTest_of_enabled h'

end PathMove

/-- Outside the test ramp, and with the data path as it should be unless `bad`.  This is proved of
each operation, with the condition under which it goes wrong for `bad`. -/
structure Settles (bad : Prop) (v' : View) : Prop where
  noTest : v'.bc.protoState ≠ .testRampPingActive
  agrees_iff : v'.PathAgrees ↔ ¬ bad

namespace Settles

variable {v v' : View} {bad : Prop}

/-- A step after which the data path is as it was. -/
theorem move (h : PathMove v v') (ht : v.bc.protoState ≠ .testRampPingActive)
    (ha : v.PathAgrees) (hb : ¬ bad) : Settles bad v' :=
  ⟨h.noTest ht, iff_of_true (h.agrees_iff.mpr ha) hb⟩

/-- A step after which there is no slot size: the path is off, and it is so whatever the state
says. -/
theorem off (ht : v'.bc.protoState ≠ .testRampPingActive) (hz : v'.slotSize = 0) (hb : ¬ bad) :
    Settles bad v' := ⟨ht, iff_of_true (fun _ => hz) hb⟩

/-- A step that disconnects and leaves the slot size alone. -/
theorem disconnect (hs : v'.bc.protoState = .disconnected) (hz : v'.slotSize = v.slotSize)
    (hb : bad ↔ v.slotSize ≠ 0) : Settles bad v' := by
  refine ⟨by simp [hs], ?_⟩
  rw [hb, not_not, ← hz]
  exact ⟨fun h => h (Or.inl hs), fun h _ => h⟩

/-- A step that ends with a connection: a path that is there is one that the state allows. -/
theorem connect (h : v'.bc.isSsiConnectionEnabled = true) (hb : ¬ bad) : Settles bad v' :=
  ⟨noTest_of_enabled h, iff_of_true (fun ho => absurd ho (not_offline_of_enabled h)) hb⟩

end Settles

/-! ### The steps that leave the data path up -/

/-- The steps that end without a connection but with a slot size: a speech configuration
while there is no connection, and the disconnections that do not reset the buffers. -/
def LeavesPath (v : View) : Op → Prop
  | .checkPending true (some cmd) =>
    SpeechConfigReqWord cmd ∧ v.bc.Offline ∧
        speechConfigSlotSize (msgDecodeSpeechConfigReq cmd) ≠ 0 ∨
      ResetConnRespWord cmd ∧ v.slotSize ≠ 0 ∨
      SsiConfigRespWord cmd ∧ (msgDecodeSsiConfigResp cmd).result = ssiConfigResSuccess ∧
        (v.bc.privState = .disconnecting ∨
          v.bc.privState = .ssiConfigPend ∧ v.bc.callServerActive = true) ∧ v.slotSize ≠ 0
  | .stateChangeCallStatus true =>
    v.bc.isActive = true ∧ v.bc.callServerActive = false ∧ 0 < v.bc.ioErrors ∧ v.slotSize ≠ 0
  | _ => False

/-- Only three types of words can leave the data path up. -/
theorem not_leavesPath_of_type {v : View} {cmd : Cmd} {type : ℕ} (ht : msgGetType cmd = type)
    (h : type ≠ speechConfigReq ∧ type ≠ resetConnResp ∧ type ≠ ssiConfigResp) :
    ¬ LeavesPath v (.recv cmd) := by
  subst ht
  rintro (⟨⟨-, ht⟩, -⟩ | ⟨⟨-, ht⟩, -⟩ | ⟨⟨-, ht⟩, -⟩)
  · exact h.1 ht
  · exact h.2.1 ht
  · exact h.2.2 ht

theorem leavesPath_speechConfigReq {v : View} {cmd : Cmd} (hd : msgGetDomain cmd = domainControl)
    (ht : msgGetType cmd = speechConfigReq) :
    LeavesPath v (.recv cmd) ↔
      v.bc.Offline ∧ speechConfigSlotSize (msgDecodeSpeechConfigReq cmd) ≠ 0 := by
  simp [LeavesPath, SpeechConfigReqWord, ResetConnRespWord, SsiConfigRespWord, hd, ht]

theorem leavesPath_resetConnResp {v : View} {cmd : Cmd} (hd : msgGetDomain cmd = domainControl)
    (ht : msgGetType cmd = resetConnResp) : LeavesPath v (.recv cmd) ↔ v.slotSize ≠ 0 := by
  simp [LeavesPath, SpeechConfigReqWord, ResetConnRespWord, SsiConfigRespWord, hd, ht]

theorem leavesPath_ssiConfigResp {v : View} {cmd : Cmd} (hd : msgGetDomain cmd = domainControl)
    (ht : msgGetType cmd = ssiConfigResp) :
    LeavesPath v (.recv cmd) ↔ (msgDecodeSsiConfigResp cmd).result = ssiConfigResSuccess ∧
      (v.bc.privState = .disconnecting ∨
        v.bc.privState = .ssiConfigPend ∧ v.bc.callServerActive = true) ∧ v.slotSize ≠ 0 := by
  simp [LeavesPath, SpeechConfigReqWord, ResetConnRespWord, SsiConfigRespWord, hd, ht]

/-- A `TEST_RAMP_PING` of the modem, which starts a ramp from its side. -/
def TestRampWord (cmd : Cmd) : Prop :=
  msgGetDomain cmd = domainControl ∧ msgGetType cmd = testRampPing

instance (cmd : Cmd) : Decidable (TestRampWord cmd) := inferInstanceAs (Decidable (_ ∧ _))

/-- No part in a test ramp: neither the application asks for one nor the modem.  A ramp has a data
path without a connection, on purpose. -/
def NoTestRamp : Op → Prop
  | .checkPending _ (some cmd) => ¬ TestRampWord cmd
  | .testDataRampReq _ _ => False
  | _ => True

namespace Protocol

variable {k : Kernel} {v v' : View} {o : List Obs} {op : Op}

theorem SendTiming.pathMove (h : SendTiming k v o v') : PathMove v v' :=
  .stay h.protoState h.slotSize

theorem SendSsi.pathMove {b : Bool} (h : SendSsi k b v o v') : PathMove v v' :=
  .stay h.protoState h.slotSize

/-- A request for a reset tears the data path down, whatever becomes of it. -/
theorem SendReset.off (h : SendReset k v o v') (ht : v.bc.protoState ≠ .testRampPingActive) :
    v'.bc.protoState ≠ .testRampPingActive ∧ v'.slotSize = 0 := by
  cases h with
  | noLine n hn hv => exact ⟨ht, rfl⟩
  | full n hw => exact ⟨by simp, rfl⟩
  | short n hw hn => exact ⟨ht, rfl⟩
  | failed n hw hn => exact ⟨ht, rfl⟩

theorem Posted.pathMove (h : Posted k v o v') : PathMove v v' := by
  cases h with
  | start hs hp ht =>
    have hdl : v'.bc.protoState = .activeDl := ht.protoState
    exact .online (enabled_of (Or.inl hs)) (enabled_of (Or.inr (Or.inl hdl)))
  | restart hs hp =>
    exact .online (enabled_of (Or.inr (Or.inr hs))) (enabled_of (Or.inr (Or.inl rfl)))
  | stop hs hp hc => exact .online (enabled_of (Or.inr hs)) (enabled_of (Or.inl rfl))
  | close hs hp hc hq =>
    have hconn : v'.bc.protoState = .connected := hq.protoState
    exact .online (enabled_of (Or.inr hs)) (enabled_of (Or.inl hconn))
  | keep ha hd => exact .stay rfl rfl

/-- With a driver that takes the layout, a reply resets nothing. -/
theorem SetupReply.pathMove (hi : k.IoctlsSucceed) (h : SetupReply k v o v') : PathMove v v' := by
  cases h with
  | ok n hc hr =>
    cases hr with
    | full n hw hp =>
      cases hp.pathMove with
      | stay hs hz => exact .stay (by simpa using hs) (by simpa using hz)
      | online h h' => exact .online h h'
    | short n hw => exact .stay rfl rfl
  | failed n hc hr hs => exact absurd (hi.2.2 n) hc

theorem SpeechConfig.pathMove {req : SpeechConfigReq} (hi : k.IoctlsSucceed)
    (h : SpeechConfig k req v o v') : PathMove (speechRequested req v) v' := by
  cases h with
  | now hr => exact hr.pathMove hi
  | defer => exact .stay rfl rfl

theorem pathAgrees_speechRequested (req : SpeechConfigReq) (v : View) :
    (speechRequested req v).PathAgrees ↔ ¬ (v.bc.Offline ∧ speechConfigSlotSize req ≠ 0) := by
  rw [not_and, not_not]
  rfl

theorem SsiResp.settles {resp : SsiConfigResp} (h : SsiResp k resp v o v')
    (ht : v.bc.protoState ≠ .testRampPingActive) (ha : v.PathAgrees) :
    Settles (resp.result = ssiConfigResSuccess ∧ (v.bc.privState = .disconnecting ∨
      v.bc.privState = .ssiConfigPend ∧ v.bc.callServerActive = true) ∧ v.slotSize ≠ 0) v' := by
  cases h with
  | connected hr hp => exact .connect (enabled_of (Or.inl (by simp))) (by simp [hp])
  | disconnected hr hp => exact .disconnect (v := v) (by simp) rfl (by simp [hr, hp])
  | reconnect hr hp hc hq =>
    exact .disconnect (v := v) (by simp) hq.slotSize (by simp [hr, hp, hc])
  | redisconnect hr hp hc hq => exact .connect (enabled_of (Or.inl (by simp))) (by simp [hp, hc])
  | ignored hr h₁ h₂ h₃ => exact .move (.stay rfl rfl) ht ha (by simp [h₂, h₃])
  | errorPending hr hp hs =>
    obtain ⟨ht', hz⟩ := hs.off (by simpa using ht)
    exact .off ht' hz fun hb => hr hb.1
  | error hr h₁ h₂ hs =>
    obtain ⟨ht', hz⟩ := hs.off ht
    exact .off ht' hz fun hb => hr hb.1

theorem afterSsiResp_slotSize (v : View) : (afterSsiResp v).slotSize = v.slotSize := by
  unfold afterSsiResp
  split <;> rfl

theorem Control.settles {cmd : Cmd} (hi : k.IoctlsSucceed) (h : Control k cmd v o v')
    (hd : msgGetDomain cmd = domainControl) (ht : v.bc.protoState ≠ .testRampPingActive)
    (ha : v.PathAgrees) : Settles (LeavesPath v (.recv cmd)) v' := by
  cases h with
  | speechConfig hty h =>
    have hm := h.pathMove hi
    -- the reply moves between connected states, so the request alone decides
    refine ⟨hm.noTest ht, ?_⟩
    rw [hm.agrees_iff, pathAgrees_speechRequested, leavesPath_speechConfigReq hd hty]
  | uplink hty =>
    refine .move ?_ ht ha (not_leavesPath_of_type hty (by decide))
    by_cases hs : v.bc.protoState = .activeDl
    · rw [if_pos hs]
      exact .online (enabled_of (Or.inr (Or.inl hs))) (enabled_of (Or.inr (Or.inr (by simp))))
    · rw [if_neg hs]
      exact .stay rfl rfl
  | timing hty =>
    refine .move ?_ ht ha (not_leavesPath_of_type hty (by decide))
    obtain ⟨hs, heq⟩ | ⟨hs, hp, heq⟩ | ⟨hs, heq⟩ := bcHandleTimingConfigNtf_cases v.bc
    · refine .online (enabled_of (Or.inr (Or.inl hs))) (enabled_of (Or.inr (Or.inr ?_)))
      rw [View.withBc_bc, heq]
      rfl
    · exact .stay (by rw [View.withBc_bc, heq]; rfl) rfl
    · exact .stay (by rw [View.withBc_bc, heq]) rfl
  | ssiResp hty h =>
    obtain ⟨ht', ha'⟩ := h.settles ht ha
    rw [leavesPath_ssiConfigResp hd hty]
    refine ⟨by rwa [afterSsiResp_bc], ?_⟩
    rw [← ha', View.PathAgrees, View.PathAgrees, afterSsiResp_bc, afterSsiResp_slotSize]
  | resetReq hty h =>
    exact .off (by simp [afterPeerReset]) rfl (not_leavesPath_of_type hty (by decide))
  | resetResp hty hp =>
    exact .disconnect (v := v) (by simp) rfl (leavesPath_resetConnResp hd hty)
  | resetRespConnect hty hp h =>
    exact .disconnect (v := v) h.protoState h.slotSize (leavesPath_resetConnResp hd hty)

theorem Recv.settles {cmd : Cmd} (hi : k.IoctlsSucceed) (h : Recv k cmd v o v')
    (hn : ¬ TestRampWord cmd) (ht : v.bc.protoState ≠ .testRampPingActive) (ha : v.PathAgrees) :
    Settles (LeavesPath v (.recv cmd)) v' := by
  have hint (hd : msgGetDomain cmd ≠ domainControl) : ¬ LeavesPath v (.recv cmd) := by
    simp [LeavesPath, SpeechConfigReqWord, ResetConnRespWord, SsiConfigRespWord, hd]
  have hne : domainInternal ≠ domainControl := by decide
  cases h with
  | control hd e h tstamp he => exact h.settles hi hd ht ha
  | testRampNoBufs hd hty n hc => exact absurd ⟨hd, hty⟩ hn
  | testRamp hd hty h => exact absurd ⟨hd, hty⟩ hn
  | csError hd hty e he => exact .off (by simp [afterPeerReset]) rfl (hint (hd ▸ hne))
  | data hd hty => exact .move (.stay rfl rfl) ht ha (hint (hd ▸ hne))
  | unknown h =>
    refine .move (.stay rfl rfl) ht ha ?_
    rcases h with ⟨-, hu⟩ | ⟨hd, -⟩
    · exact not_leavesPath_of_type rfl ⟨hu.ne (by decide), hu.ne (by decide), hu.ne (by decide)⟩
    · exact hint hd

theorem CallStatus.settles {b : Bool} (h : CallStatus k b v o v')
    (ht : v.bc.protoState ≠ .testRampPingActive) (ha : v.PathAgrees) :
    Settles (LeavesPath v (.stateChangeCallStatus b)) v' := by
  cases h with
  | blocked hp => exact .move (.stay rfl rfl) ht ha id
  | disconnect h₁ hs h => exact .move h.pathMove ht ha id
  | postpone hs hp => exact .move (.stay rfl rfl) ht ha id
  | noCall h₁ hs h₂ => exact .move (.stay rfl rfl) ht ha id
  | connect hs h =>
    exact .move h.pathMove ht ha (by simp [LeavesPath, BcState.isActive_iff, hs])
  | reconnect hs hp =>
    exact .move (.stay rfl rfl) ht ha (by simp [LeavesPath, BcState.isActive_iff, hs])
  | reset hs h =>
    obtain ⟨ht', hz⟩ := h.off ht
    refine .off ht' hz ?_
    rcases hs with hs | hs <;> simp [LeavesPath, BcState.isActive_iff, hs]
  | crashed hs hc hi h =>
    refine .disconnect (v := v) h.protoState h.slotSize ?_
    simp [LeavesPath, BcState.isActive_iff, hs, hc, hi]
  | already h =>
    refine .move (.stay rfl rfl) ht ha ?_
    rintro ⟨hact, hc, hi, -⟩
    rcases h with ⟨hs, -⟩ | ⟨-, hcall | hio⟩
    · simp [BcState.isActive_iff, hs] at hact
    · simp [hc] at hcall
    · omega

/-- One operation keeps the path agreed with the state, unless it is one of those that leave the
path behind. -/
theorem ProtoStep.settles (hi : k.IoctlsSucceed) (h : ProtoStep k op v o v')
    (hn : NoTestRamp op) (ht : v.bc.protoState ≠ .testRampPingActive) (ha : v.PathAgrees) :
    Settles (LeavesPath v op) v' := by
  cases h with
  | recv h => exact h.settles hi hn ht ha
  -- What touches neither the state nor the buffers cannot leave the path.
  | nothing h =>
    refine .move (.stay rfl rfl) ht ha ?_
    rcases h with rfl | rfl
    · exact id
    · rename_i flags
      cases flags <;> exact id
  | callStatus h =>
    obtain ⟨ht', ha'⟩ := h.settles ht ha
    exact ⟨ht', ha'⟩
  | error h =>
    obtain ⟨ht', hz⟩ := h.off ht
    exact .off ht' hz id
  | sendTiming h => exact .move h.pathMove ht ha id
  | sendSsi h => exact .move h.pathMove ht ha id
  | testReq h => exact hn.elim
  | dlAcquireTest hs => exact absurd hs ht
  | dlReleaseReply hp h => exact .move (h.pathMove hi) ht ha id
  | ulReleaseReply hp h => exact .move (h.pathMove hi) ht ha id
  | _ => exact .move (.stay rfl rfl) ht ha id

end Protocol

/-! ### Runs -/

/-- **The data path is torn down while there is no connection** throughout a run without
test ramps whose `ioctl`s succeed, if and only if no step leaves it up. -/
theorem dataPath_agrees_iff {m : Machine} (hm : nokiamodem.init m) {is : List Step}
    (hi : ∀ i ∈ is, i.1.IoctlsSucceed) (hn : ∀ i ∈ is, NoTestRamp i.2) :
    nokiamodem.Always Machine.DataPathAgrees m is ↔
      nokiamodem.Along (fun m i => ¬ LeavesPath m.view i.2) m is := by
  -- No descriptor has a size without a slot size, and no ramp is under way: both are kept by every
  -- step, and under both the agreement can be read off the view.
  have hstep (m : Machine) (i : Step) (hI : m.buf.Sealed ∧
      m.bcstate.protoState ≠ .testRampPingActive) (hQ : m.DataPathAgrees)
      (hP : i.1.IoctlsSucceed ∧ NoTestRamp i.2) :
      Settles (LeavesPath m.view i.2) (nokiamodem.next m i).1.view :=
    (nokiamodem_refines m i : ProtoStep i.1 i.2 _ _ _).settles hP.1 hP.2 hI.2
      ((dataPathAgrees_iff hI.1).mp hQ)
  refine nokiamodem.always_iff_along
    (I := fun m => m.buf.Sealed ∧ m.bcstate.protoState ≠ .testRampPingActive)
    (P := fun _ i => i.1.IoctlsSucceed ∧ NoTestRamp i.2) ?_ ?_ ?_ ?_ ?_
  · intro m i hI hQ hP _
    exact ⟨sealed_next m i hI.1, (hstep m i hI hQ hP).noTest⟩
  · intro m i hI hQ hP
    rw [dataPathAgrees_iff (sealed_next m i hI.1)]
    exact (hstep m i hI hQ hP).agrees_iff
  · obtain ⟨area, old, rfl⟩ := hm
    exact ⟨sealed_reset, by simp [cmtspeechOpen, BcState.bcOpen]⟩
  · obtain ⟨area, old, rfl⟩ := hm
    exact fun _ => sealed_reset rfl
  · rw [nokiamodem.along_forall fun i : Step => i.1.IoctlsSucceed ∧ NoTestRamp i.2]
    exact fun i his => ⟨hi i his, hn i his⟩

/-- The modem asks for speech when the library has just asked for a reset. -/
def crossedResetRun : List Step :=
  [(.accepting, .stateChangeCallStatus true), (.accepting, .recv (msgEncodeSsiConfigResp 1 0)),
    (.accepting, .stateChangeError), (.accepting, .recv (speechConfigReqMsg true))]

/-- A run in which the buffers are set up, with every ioctl answered and no test ramp. -/
theorem dataPath_agrees_crossedReset :
    nokiamodem.Always Machine.DataPathAgrees Machine.fresh crossedResetRun ↔
      nokiamodem.Along (fun m i => ¬ LeavesPath m.view i.2) Machine.fresh crossedResetRun := by
  refine dataPath_agrees_iff init_fresh (by simp [crossedResetRun, accepting_ioctlsSucceed]) ?_
  simp only [crossedResetRun, List.forall_mem_cons, NoTestRamp]
  exact ⟨trivial, by decide, trivial, by decide, by simp⟩

/-- In `INVALID`, with a slot size and valid descriptors. -/
theorem dataPath_disagrees :
    nokiamodem.init Machine.fresh ∧
      (∀ i ∈ crossedResetRun, i.1.WritesSucceed ∧ i.1.IoctlsSucceed ∧ NoTestRamp i.2) ∧
      (nokiamodem.exec Machine.fresh crossedResetRun).bcstate.protoState = .invalid ∧
      (nokiamodem.exec Machine.fresh crossedResetRun).buf.slotSize = 324 ∧
      (∀ i, ((nokiamodem.exec Machine.fresh crossedResetRun).buf.ulbufdesc i).flags &&&
        bufInvalid = 0) ∧
      ¬ (nokiamodem.exec Machine.fresh crossedResetRun).DataPathAgrees := by
  refine ⟨init_fresh, ?_, by decide, by decide, by decide, fun h => ?_⟩
  swap
  · exact absurd (h (Or.inr (by decide))).slotSize (by decide)
  simp only [crossedResetRun, List.forall_mem_cons, accepting_writesSucceed,
    accepting_ioctlsSucceed, NoTestRamp]
  exact ⟨⟨trivial, trivial, trivial⟩, ⟨trivial, trivial, by decide⟩, ⟨trivial, trivial, trivial⟩,
    ⟨trivial, trivial, by decide⟩, by simp⟩

end CmtSpeech
