import CmtSpeech.Refinement

/-!
# What a run has done

History variables over the observations of a run, and the kinds of messages they tell
apart.

* `Cmd.kind` — the kind of a message the library sends.
* `ResetWord`, `SsiConfigRespWord`, `SpeechConfigReqWord` — kinds of inbound words.
* `PrivState.SsiPending` — an SSI configuration is pending.
* `lastCallStatus` — the argument of the last call of
  `cmtspeech_state_change_call_status`.
* `ssiOutstanding` — how many `SSI_CONFIG_REQ` have not been answered.
* `Waiting` — which answers the modem owes.
-/

namespace CmtSpeech

/-! ### Messages sent -/

/-- The messages histories tell apart.  What the others say is no concern of theirs. -/
inductive MsgKind where
  | resetConnReq
  | ssiConfigReq (state : Bool)
  | speechConfigResp (result : BitVec 8)
  | other
  deriving DecidableEq, Repr

/-- The kind of a message, by its domain and type as both sides of the link read them. -/
def Cmd.kind (cmd : Cmd) : MsgKind :=
  if msgGetDomain cmd = domainControl then
    if msgGetType cmd = CmtSpeech.resetConnReq then .resetConnReq
    else if msgGetType cmd = CmtSpeech.ssiConfigReq then
      .ssiConfigReq (decide ((msgDecodeSsiConfigReq cmd).state = 1))
    else if msgGetType cmd = CmtSpeech.speechConfigResp then
      .speechConfigResp (msgDecodeSpeechConfigResp cmd)
    else .other
  else .other

@[simp] theorem kind_resetConnReq : msgEncodeResetConnReq.kind = .resetConnReq := by decide

@[simp] theorem kind_ssiConfigRequest (s : BcState) (b : Bool) :
    (ssiConfigRequest s b).kind = .ssiConfigReq b := by
  rw [ssiConfigRequest, Cmd.kind, if_pos (msgGetDomain_ssiConfigReq _ _ _),
    if_neg (by rw [msgGetType_ssiConfigReq]; decide), if_pos (msgGetType_ssiConfigReq _ _ _),
    msgDecodeSsiConfigReq_state]
  cases b <;> rfl

@[simp] theorem kind_speechConfigResp (r : BitVec 8) :
    (msgEncodeSpeechConfigResp r).kind = .speechConfigResp (r &&& 1) := by
  rw [Cmd.kind, if_pos (msgGetDomain_speechConfigResp r),
    if_neg (by rw [msgGetType_speechConfigResp]; decide),
    if_neg (by rw [msgGetType_speechConfigResp]; decide), if_pos (msgGetType_speechConfigResp r)]
  rfl

@[simp] theorem kind_newTimingConfigReq : msgEncodeNewTimingConfigReq.kind = .other := by decide

@[simp] theorem kind_resetConnResp : msgEncodeResetConnResp.kind = .other := by decide

@[simp] theorem kind_driverMessage (param : BitVec 8) :
    (privMsgEncodeDriverMessage csTxDataReady param).kind = .other := by
  have hd : msgGetDomain (privMsgEncodeDriverMessage csTxDataReady param) =
    msgGetDomain (privMsgEncodeDriverMessage csTxDataReady 0) := rfl
  rw [Cmd.kind, hd, if_neg (by decide)]

@[simp] theorem kind_testRampMsg (rampstart ramplen : BitVec 8) :
    (Protocol.testRampMsg rampstart ramplen).kind = .other := by
  have ht := msgGetType_testRampMsg rampstart ramplen
  rw [Cmd.kind, ht]
  simp

/-! ### Inbound words -/

/-- A word that resets the protocol: a request of the modem, its answer to one of the library, or
an error of the driver. -/
def ResetWord (cmd : Cmd) : Prop :=
  msgGetDomain cmd = domainControl ∧
      (msgGetType cmd = resetConnReq ∨ msgGetType cmd = resetConnResp) ∨
    msgGetDomain cmd = domainInternal ∧ msgGetType cmd = csError

/-- An `SSI_CONFIG_RESP`, whatever it reports: the modem's answer to a request to connect or to
disconnect. -/
def SsiConfigRespWord (cmd : Cmd) : Prop :=
  msgGetDomain cmd = domainControl ∧ msgGetType cmd = ssiConfigResp

/-- A `SPEECH_CONFIG_REQ`, whether it starts a stream or ends one.  The library owes a reply to
it. -/
def SpeechConfigReqWord (cmd : Cmd) : Prop :=
  msgGetDomain cmd = domainControl ∧ msgGetType cmd = speechConfigReq

/-- A `RESET_CONN_RESP`: the modem's answer to a reset by the library. -/
def ResetConnRespWord (cmd : Cmd) : Prop :=
  msgGetDomain cmd = domainControl ∧ msgGetType cmd = resetConnResp

instance (cmd : Cmd) : Decidable (ResetWord cmd) := inferInstanceAs (Decidable (_ ∨ _))
instance (cmd : Cmd) : Decidable (SsiConfigRespWord cmd) := inferInstanceAs (Decidable (_ ∧ _))
instance (cmd : Cmd) : Decidable (SpeechConfigReqWord cmd) := inferInstanceAs (Decidable (_ ∧ _))
instance (cmd : Cmd) : Decidable (ResetConnRespWord cmd) := inferInstanceAs (Decidable (_ ∧ _))

/-- A word that neither resets the protocol nor answers an `SSI_CONFIG_REQ`, so that whatever was
awaited is awaited still. -/
structure AnswersNothing (cmd : Cmd) : Prop where
  reset : ¬ ResetWord cmd
  ssi : ¬ SsiConfigRespWord cmd

theorem answersNothing_of_type {cmd : Cmd} {type : ℕ} (hd : msgGetDomain cmd = domainControl)
    (ht : msgGetType cmd = type)
    (h : type ≠ resetConnReq ∧ type ≠ resetConnResp ∧ type ≠ ssiConfigResp) :
    AnswersNothing cmd := by
  subst ht
  constructor
  · rintro (⟨-, ht | ht⟩ | ⟨hd', -⟩)
    · exact h.1 ht
    · exact h.2.1 ht
    · exact absurd (hd.symm.trans hd') (by decide)
  · rintro ⟨-, ht⟩
    exact h.2.2 ht

theorem answersNothing_of_data {cmd : Cmd} (hd : msgGetDomain cmd = domainInternal)
    (ht : msgGetType cmd ≠ csError) : AnswersNothing cmd := by
  constructor
  · rintro (⟨hd', -⟩ | ⟨-, ht'⟩)
    · exact absurd (hd.symm.trans hd') (by decide)
    · exact ht ht'
  · rintro ⟨hd', -⟩
    exact absurd (hd.symm.trans hd') (by decide)

theorem answersNothing_of_unknown {cmd : Cmd}
    (h : msgGetDomain cmd = domainControl ∧ UnknownType (msgGetType cmd) ∨
      msgGetDomain cmd ≠ domainControl ∧ msgGetDomain cmd ≠ domainInternal) :
    AnswersNothing cmd := by
  rcases h with ⟨hd, hu⟩ | ⟨hc, hi⟩
  · exact answersNothing_of_type hd rfl ⟨hu.ne (by decide), hu.ne (by decide), hu.ne (by decide)⟩
  · constructor
    · rintro (⟨hd, -⟩ | ⟨hd, -⟩)
      · exact hc hd
      · exact hi hd
    · rintro ⟨hd, -⟩
      exact hc hd

/-! ### Pending transactions -/

/-- `priv_state` waits for an `SSI_CONFIG_RESP`.  In the third of these states one request is on
its way and another is to follow. -/
def PrivState.SsiPending (p : PrivState) : Prop :=
  p = .connecting ∨ p = .disconnecting ∨ p = .ssiConfigPend

@[simp] theorem not_ssiPending_inSync : ¬ PrivState.inSync.SsiPending := by
  simp [PrivState.SsiPending]

@[simp] theorem not_ssiPending_timing : ¬ PrivState.timing.SsiPending := by
  simp [PrivState.SsiPending]

@[simp] theorem not_ssiPending_resetBeforeConnect :
    ¬ PrivState.resetBeforeConnect.SsiPending := by
  simp [PrivState.SsiPending]

theorem not_ssiPending_speechPending (req : SpeechConfigReq) :
    ¬ (Protocol.speechPending req).SsiPending := by
  rcases Protocol.speechPending_cases req with h | h <;> simp [h, PrivState.SsiPending]

/-! ### History variables -/

/-- The argument of the last call of `cmtspeech_state_change_call_status`: what the application
wants, whatever became of it. -/
def lastCallStatus (last : Option Bool) : Obs → Option Bool
  | .callStatus b => some b
  | _ => last

/-- How many `SSI_CONFIG_REQ` were written in full since the last reset and have not been
answered. -/
def ssiOutstanding (n : ℕ) : Obs → ℕ
  | .write msg w =>
    match msg.kind with
    | .ssiConfigReq _ => if w.res = ctrlLen then n + 1 else n
    | _ => n
  | .recv cmd => if ResetWord cmd then 0 else if SsiConfigRespWord cmd then n - 1 else n
  | _ => n

/-- The answers the modem owes: whether an `SSI_CONFIG_REQ` and a `RESET_CONN_REQ` were
written in full with no answer or reset processed since. -/
structure Waiting where
  ssi : Bool
  reset : Bool
  deriving DecidableEq, Repr

/-- The modem owes no answer, as when an instance has been opened. -/
def Waiting.none : Waiting := ⟨false, false⟩

/-- Follow the answers the modem owes: a request that is written in full is noted, its answer
takes the note away, and a reset takes away both. -/
def Waiting.upd (g : Waiting) : Obs → Waiting
  | .write msg w =>
    if w.res = ctrlLen then
      match msg.kind with
      | .ssiConfigReq _ => { g with ssi := true }
      | .resetConnReq => { g with reset := true }
      | _ => g
    else g
  | .recv cmd =>
    if ResetWord cmd then .none else if SsiConfigRespWord cmd then { g with ssi := false } else g
  | _ => g

theorem lastCallStatus_hidden (last : Option Bool) (o : Obs) (h : o.visible = false) :
    lastCallStatus last o = last := by
  cases o <;> first | rfl | simp [Obs.visible] at h

theorem ssiOutstanding_hidden (n : ℕ) (o : Obs) (h : o.visible = false) :
    ssiOutstanding n o = n := by
  cases o <;> first | rfl | simp [Obs.visible] at h

theorem waiting_hidden (g : Waiting) (o : Obs) (h : o.visible = false) : g.upd o = g := by
  cases o <;> first | rfl | simp [Obs.visible] at h

end CmtSpeech
