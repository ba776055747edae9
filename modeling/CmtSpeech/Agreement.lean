import CmtSpeech.WellFormed

/-!
# Agreement with the modem

The library and a modem that answers every `SSI_CONFIG_REQ` in order, with a channel in each
direction.  Each side has its own idea of whether there is an SSI connection; they agree once
everything that was sent has arrived, unless a `SPEECH_CONFIG_REQ` of the modem was read
while an SSI configuration was pending.

* `LinkState`, `LinkStep`, `ssiLink` — the two sides and the channels.
* `LinkStep.Assumed` — what the modem sends, and the calls the application makes.
* `Agrees` — the protocol state against the connection the modem will have in the end.
* `Undisturbed` — no request crosses a pending SSI configuration.

## Main result

* `enabled_iff_connected`
-/

namespace CmtSpeech

open Protocol

/-! ### The two sides -/

/-- The message an observation puts on the wire. -/
def Obs.sent? : Obs → Option Cmd
  | .write msg w => if w.res = ctrlLen then some msg else none
  | _ => none

/-- The messages that were written in full.  Only these come to the modem: of a write that falls
short it is not told. -/
abbrev sent (out : List Obs) : List Cmd := out.filterMap Obs.sent?

/-- The library, the modem's connection flag, and the messages on their way, in a channel for each
direction that keeps their order. -/
structure LinkState where
  lib : Machine
  /-- From the library to the modem. -/
  up : List Cmd
  /-- From the modem to the library. -/
  down : List Cmd
  connected : Bool

/-- The steps of the two sides: an operation of the library, the modem handling the oldest
message, the modem asking for something of its own accord, and the library reading the oldest
word. -/
inductive LinkStep where
  /-- An operation of the library that reads no message of the modem. -/
  | app (k : Kernel) (op : Op)
  /-- The library reads a message of the modem. -/
  | deliver (k : Kernel)
  /-- The modem handles a message; `resp` is the answer to an `SSI_CONFIG_REQ`. -/
  | handle (resp : Cmd)
  /-- The modem sends a `SPEECH_CONFIG_REQ`, if it has a connection. -/
  | ask (req : Cmd)

/-- An operation of the library, when `down` is left of the messages to it. -/
def LinkState.operate (st : LinkState) (i : Step) (down : List Cmd) : LinkState where
  lib := (nokiamodem.next st.lib i).1
  up := st.up ++ sent (nokiamodem.next st.lib i).2
  down := down
  connected := st.connected

/-- The modem handles the message `msg`, when `up` is left of the messages to it. -/
def LinkState.handle (st : LinkState) (msg resp : Cmd) (up : List Cmd) : LinkState :=
  match msg.kind with
  | .ssiConfigReq b => { st with up := up, down := st.down ++ [resp], connected := b }
  | _ => { st with up := up }

/-- The library and the modem as a transition system.  A step of the one side may come at any time
between two steps of the other. -/
def ssiLink : Lts LinkState LinkStep Obs where
  init st := nokiamodem.init st.lib ∧ st.up = [] ∧ st.down = [] ∧ st.connected = false
  next st
    | .app k op => (st.operate (k, op) st.down, (nokiamodem.next st.lib (k, op)).2)
    | .deliver k =>
      match st.down with
      | [] => (st, [])
      | cmd :: down => (st.operate (k, .recv cmd) down, (nokiamodem.next st.lib (k, .recv cmd)).2)
    | .handle resp =>
      match st.up with
      | [] => (st, [])
      | msg :: up => (st.handle msg resp up, [])
    | .ask req => (if st.connected then { st with down := st.down ++ [req] } else st, [])

/-- An `SSI_CONFIG_RESP` that reports success, as the modem is assumed to answer every request.  A
refusal makes the library reset the protocol. -/
def SsiSuccessWord (cmd : Cmd) : Prop :=
  SsiConfigRespWord cmd ∧ (msgDecodeSsiConfigResp cmd).result = ssiConfigResSuccess

/-- A `SPEECH_CONFIG_REQ` for a speech data stream.  It is the only word that the modem sends of
its own accord while the two sides are in agreement, and it may cross a request on the way. -/
def SpeechStartWord (cmd : Cmd) : Prop :=
  SpeechConfigReqWord cmd ∧ (msgDecodeSpeechConfigReq cmd).speechDataStream ≠ 0

instance (cmd : Cmd) : Decidable (SsiSuccessWord cmd) := inferInstanceAs (Decidable (_ ∧ _))
instance (cmd : Cmd) : Decidable (SpeechStartWord cmd) := inferInstanceAs (Decidable (_ ∧ _))

/-- The operations of the application and the driver: call status, buffers, events and words
of the data path; no requests past the library. -/
def AppOp : Op → Prop
  | .checkPending true (some cmd) => msgGetDomain cmd = domainInternal ∧ msgGetType cmd ≠ csError
  | .stateChangeError | .sendTimingRequest | .sendSsiConfigRequest _ | .testDataRampReq _ _ => False
  | _ => True

/-- The steps of a modem that answers with success and asks for speech, and of an application
whose writes succeed. -/
def LinkStep.Assumed : LinkStep → Prop
  | .app k op => k.WritesSucceed ∧ AppOp op
  | .deliver k => k.WritesSucceed
  | .handle resp => SsiSuccessWord resp
  | .ask req => SpeechStartWord req

/-- The driver takes every buffer layout.  One that it refuses makes the library answer the modem
with an error, and the stream does not start. -/
def Kernel.BufsSucceed (k : Kernel) : Prop := ∀ n, k.configBufs n = 0

/-- No `SPEECH_CONFIG_REQ` is read while an SSI configuration is pending, and the driver takes
the buffer layouts. -/
def Undisturbed (st : LinkState) : LinkStep → Prop
  | .app k _ => k.BufsSucceed
  | .deliver k =>
    k.BufsSucceed ∧ ∀ cmd, st.down.head? = some cmd → SpeechConfigReqWord cmd →
      ¬ st.lib.bcstate.privState.SsiPending
  | _ => True

/-! ### The state and the last request -/

/-- The connection the last `SSI_CONFIG_REQ` asked for: the connection there will be when the
modem has handled everything that is on its way. -/
def lastSsi (t : Bool) (msg : Cmd) : Bool :=
  match msg.kind with
  | .ssiConfigReq b => b
  | _ => t

/-- The protocol state goes with the connection `t` that was asked for last: while the answer is
awaited the library is where it was before the request, and afterwards it is where it wanted to
go. -/
structure Agrees (s : BcState) (t : Bool) : Prop where
  state : s.protoState = .disconnected ∨ s.protoState = .connected ∨ s.protoState = .activeDl ∨
    s.protoState = .activeDlul
  ioErrors : s.ioErrors = 0
  noDeact : s.privState ≠ .configDeactPend
  pending : s.privState.SsiPending →
    s.protoState = .disconnected ∧ t = true ∨ s.protoState = .connected ∧ t = false
  settled : ¬ s.privState.SsiPending → (s.isSsiConnectionEnabled = true ↔ t = true)

/-- A request is on its way to the modem, among the messages that it has not handled. -/
def RequestsSsi (msgs : List Cmd) : Prop := ∃ msg ∈ msgs, ∃ b, msg.kind = .ssiConfigReq b

/-- What an operation makes of the agreement; `pend` is whether an SSI configuration stays
pending that was before. -/
structure KeepsAgreed (t : Bool) (pend : Prop) (o : List Obs) (s : BcState) : Prop where
  agrees : Agrees s ((sent o).foldl lastSsi t)
  owed : s.privState.SsiPending → RequestsSsi (sent o) ∨ pend

section
variable {s s' : BcState} {t : Bool} {pend : Prop} {o : List Obs}

/-- Nothing of interest is sent: no step with these observations asks the modem for a connection
or the end of one, so what was asked for last stays. -/
def Mute (o : List Obs) : Prop := ∀ msg ∈ sent o, ∀ b, msg.kind ≠ .ssiConfigReq b

theorem Mute.foldl (h : Mute o) (t : Bool) : (sent o).foldl lastSsi t = t := by
  have hms (ms : List Cmd) (h : ∀ msg ∈ ms, ∀ b, msg.kind ≠ .ssiConfigReq b) :
      ms.foldl lastSsi t = t := by
    induction ms with
    | nil => rfl
    | cons msg ms ih =>
      have hmsg : lastSsi t msg = t := by
        unfold lastSsi
        cases hk : msg.kind with
        | ssiConfigReq b => exact absurd hk (h msg List.mem_cons_self b)
        | _ => rfl
      rw [List.foldl_cons, hmsg]
      exact ih fun m hm => h m (List.mem_cons_of_mem msg hm)
  exact hms _ h

theorem Mute.keepsAgreed (h : Mute o) (ha : Agrees s t) (hp : s.privState.SsiPending → pend) :
    KeepsAgreed t pend o s :=
  ⟨(h.foldl t).symm ▸ ha, fun hs => Or.inr (hp hs)⟩

theorem mute_nil : Mute [] := by
  simp [Mute]

theorem mute_of_none {x : Obs} (h : x.sent? = none) : Mute [x] := by
  simp [Mute, h]

/-- A mute part before another one: what comes first tells the modem nothing, so the second part
decides. -/
theorem KeepsAgreed.after {o₁ o₂ : List Obs} (h₁ : Mute o₁) (h₂ : KeepsAgreed t pend o₂ s) :
    KeepsAgreed t pend (o₁ ++ o₂) s := by
  refine ⟨?_, ?_⟩
  · rw [sent, List.filterMap_append, List.foldl_append]
    exact (h₁.foldl t).symm ▸ h₂.agrees
  · intro hs
    refine (h₂.owed hs).imp_left fun ⟨msg, hm, hb⟩ => ⟨msg, ?_, hb⟩
    rw [sent, List.filterMap_append]
    exact List.mem_append_right _ hm

/-- A mute part after another one: the agreement is that of the first part. -/
theorem KeepsAgreed.before {o₁ o₂ : List Obs} (h₁ : KeepsAgreed t pend o₁ s) (h₂ : Mute o₂) :
    KeepsAgreed t pend (o₁ ++ o₂) s := by
  refine ⟨?_, ?_⟩
  · rw [sent, List.filterMap_append, List.foldl_append]
    exact (h₂.foldl _).symm ▸ h₁.agrees
  · intro hs
    refine (h₁.owed hs).imp_left fun ⟨msg, hm, hb⟩ => ⟨msg, ?_, hb⟩
    rw [sent, List.filterMap_append]
    exact List.mem_append_left _ hm

theorem Agrees.congr (h : Agrees s t) (h₁ : s'.protoState = s.protoState)
    (h₂ : s'.privState = s.privState) (h₃ : s'.ioErrors = s.ioErrors) : Agrees s' t := by
  obtain ⟨hs, hi, hd, hp, he⟩ := h
  refine ⟨h₁ ▸ hs, h₃ ▸ hi, h₂ ▸ hd, h₁ ▸ h₂ ▸ hp, ?_⟩
  rw [h₂, BcState.isSsiConnectionEnabled_iff, h₁, ← BcState.isSsiConnectionEnabled_iff]
  exact he

theorem Agrees.written (h : Agrees s t) : Agrees s.written t := h.congr rfl rfl h.ioErrors.symm

theorem KeepsAgreed.written (h : KeepsAgreed t pend o s) : KeepsAgreed t pend o s.written :=
  ⟨h.agrees.written, h.owed⟩

/-- With a connection and nothing pending the two sides agree that there is one. -/
theorem agrees_true (hs : s.isSsiConnectionEnabled = true) (hi : s.ioErrors = 0)
    (hd : s.privState ≠ .configDeactPend) (hp : ¬ s.privState.SsiPending) : Agrees s true :=
  ⟨Or.inr (s.isSsiConnectionEnabled_iff.mp hs), hi, hd, fun h => absurd h hp,
    fun _ => iff_of_true hs rfl⟩

/-- Without a connection and with nothing pending the two sides agree that there is none. -/
theorem agrees_false (hs : s.protoState = .disconnected) (hi : s.ioErrors = 0)
    (hd : s.privState ≠ .configDeactPend) (hp : ¬ s.privState.SsiPending) : Agrees s false :=
  ⟨Or.inl hs, hi, hd, fun h => absurd h hp,
    fun _ => by simp [BcState.isSsiConnectionEnabled_iff, hs]⟩

theorem Agrees.eq_true (h : Agrees s t) (hs : s.isSsiConnectionEnabled = true)
    (hp : ¬ s.privState.SsiPending) : t = true := (h.settled hp).mp hs

end

/-! ### Operations of the library -/

namespace Protocol

variable {k : Kernel} {v v' : View} {o : List Obs} {op : Op} {t : Bool} {pend : Prop}

/-- After a request written in full, which asks for the other state. -/
theorem keepsAgreed_request {s s' s'' : BcState} {b : Bool} {w : WriteRes} (hw : w.res = ctrlLen)
    (hs : s'.protoState = if b then .disconnected else .connected)
    (hp : s'.privState = ssiPending b) (hi : s'.ioErrors = 0) :
    KeepsAgreed t pend
      [.write (ssiConfigRequest s b) w, .posted (ssiConfigRequest s b) s''] s' := by
  have hsent : sent [.write (ssiConfigRequest s b) w, .posted (ssiConfigRequest s b) s''] =
      [ssiConfigRequest s b] := by
    simp [List.filterMap_cons, Obs.sent?, hw]
  have hpend : s'.privState.SsiPending := by
    cases b <;> simp [hp, PrivState.SsiPending]
  refine ⟨?_, fun _ => Or.inl ⟨ssiConfigRequest s b, by simp [hsent], b, by simp⟩⟩
  rw [hsent]
  refine ⟨?_, hi, ?_, ?_, fun h => absurd hpend h⟩
  · cases b <;> simp [hs]
  · cases b <;> simp [hp]
  · intro _
    cases b <;> simp [hs, lastSsi]

/-- A request, made where it asks for the other state. -/
theorem SendSsi.keepsAgreed {b : Bool} (hk : k.WritesSucceed) (h : SendSsi k b v o v')
    (ha : Agrees v.bc t) (hs : v.bc.protoState = if b then .disconnected else .connected)
    (hp : v.bc.privState.SsiPending → pend) : KeepsAgreed t pend o v'.bc := by
  cases h with
  | refused hb hp' => exact mute_nil.keepsAgreed ha hp
  | full n hw hr =>
    exact keepsAgreed_request hw hs rfl rfl
  | short n hw hr => exact absurd (hk n) hw

theorem Posted.keepsAgreed (hk : k.WritesSucceed) (h : Posted k v o v') (ha : Agrees v.bc t)
    (hp : v.bc.privState.SsiPending → pend) : KeepsAgreed t pend o v'.bc := by
  cases h with
  | start hs hq ht =>
    obtain rfl := ha.eq_true (by simp [BcState.isSsiConnectionEnabled_iff, hs])
      (by simp [hq, PrivState.SsiPending])
    cases ht with
    | full n hw =>
      refine Mute.keepsAgreed (by simp [Mute, Obs.sent?, hw]) ?_ (by simp)
      exact agrees_true (by simp [BcState.isSsiConnectionEnabled_iff]) rfl (by simp) (by simp)
    | short n hw => exact absurd (hk n) hw
  | restart hs hq =>
    obtain rfl := ha.eq_true (by simp [BcState.isSsiConnectionEnabled_iff, hs])
      (by simp [hq, PrivState.SsiPending])
    refine mute_nil.keepsAgreed ?_ (by simp)
    exact agrees_true (by simp [BcState.isSsiConnectionEnabled_iff]) (by simpa using ha.ioErrors)
      (by simp) (by simp)
  | stop hs hq hc => exact absurd hq ha.noDeact
  | close hs hq hc h => exact absurd hq ha.noDeact
  | keep _ _ => exact mute_nil.keepsAgreed ha hp

theorem SetupReply.keepsAgreed (hk : k.WritesSucceed) (hb : k.BufsSucceed)
    (h : SetupReply k v o v') (ha : Agrees v.bc t) (hp : v.bc.privState.SsiPending → pend) :
    KeepsAgreed t pend o v'.bc := by
  cases h with
  | ok n hc hr =>
    cases hr with
    | full n hw hq =>
      have hmute : Mute [.write (msgEncodeSpeechConfigResp 0) (k.write n)] := by
        simp [Mute, Obs.sent?, hw]
      exact KeepsAgreed.after hmute ((hq.keepsAgreed hk ha hp).before (mute_of_none rfl)).written
    | short n hw => exact absurd (hk n) hw
  | failed n hc hr hs => exact absurd (hb n) hc

/-- A `SPEECH_CONFIG_REQ` for a speech data stream, with no SSI configuration pending. -/
theorem SpeechConfig.keepsAgreed {req : SpeechConfigReq} (hk : k.WritesSucceed)
    (hb : k.BufsSucceed) (h : SpeechConfig k req v o v') (hreq : req.speechDataStream ≠ 0)
    (hn : ¬ v.bc.privState.SsiPending) (ha : Agrees v.bc t) : KeepsAgreed t False o v'.bc := by
  have hp : (speechRequested req v).bc.privState = .configActPend := if_pos hreq
  have hn' : ¬ (speechRequested req v).bc.privState.SsiPending := by
    simp [hp, PrivState.SsiPending]
  have ha' : Agrees (speechRequested req v).bc t :=
    ⟨ha.state, ha.ioErrors, by simp [hp], fun h => absurd h hn', fun _ => ha.settled hn⟩
  cases h with
  | now hr => exact hr.keepsAgreed hk hb ha' fun h => hn' h
  | defer => exact mute_nil.keepsAgreed ha' fun h => hn' h

/-- A successful response ends the request that was pending, and brings the state to where the
modem is; a request that was put off is made now. -/
theorem SsiResp.keepsAgreed {resp : SsiConfigResp} (hk : k.WritesSucceed)
    (h : SsiResp k resp v o v') (hr : resp.result = ssiConfigResSuccess) (hw : v.bc.WellFormed)
    (ha : Agrees v.bc t) : KeepsAgreed t False o v'.bc := by
  cases h with
  -- CONNECTING: the request underway was for a connection, so the last call status is true.
  | connected _ hp =>
    have ht : t = true := by
      rcases ha.pending (Or.inl hp) with ⟨-, ht⟩ | ⟨hs, -⟩
      · exact ht
      · simp [hw.connecting hp] at hs
    subst ht
    refine mute_nil.keepsAgreed ?_ (by simp)
    exact agrees_true (by simp [BcState.isSsiConnectionEnabled_iff]) (by simpa using ha.ioErrors)
      (by simp) (by simp)
  | disconnected _ hp =>
    have ht : t = false := by
      rcases ha.pending (Or.inr (Or.inl hp)) with ⟨hs, -⟩ | ⟨-, ht⟩
      · simp [hw.disconnecting hp] at hs
      · exact ht
    subst ht
    exact mute_nil.keepsAgreed (agrees_false (by simp) (by simp) (by simp) (by simp)) (by simp)
  -- A request has waited for this response: it is made now, and agrees by itself.
  | reconnect _ hp hc hq =>
    cases hq with
    | refused hb hp => exact absurd hb (by decide)
    | full n hwr hr =>
      exact keepsAgreed_request hwr rfl rfl rfl
    | short n hwr hr => exact absurd (hk n) hwr
  | redisconnect _ hp hc hq =>
    cases hq with
    | refused hb hp' => simp [hp] at hp'
    | full n hwr hr =>
      exact keepsAgreed_request hwr rfl rfl rfl
    | short n hwr hr => exact absurd (hk n) hwr
  -- Nothing was pending; the response has no effect.
  | ignored _ h₁ h₂ h₃ =>
    refine mute_nil.keepsAgreed ha ?_
    rintro (h | h | h)
    · exact h₁ h
    · exact h₂ h
    · exact h₃ h
  | errorPending hr' hp hs => exact absurd hr hr'
  | error hr' h₁ h₂ hs => exact absurd hr hr'

/-- A message of the modem, which is a response of success or a request for speech, keeps the two
sides agreed. -/
theorem Recv.keepsAgreed {cmd : Cmd} (hk : k.WritesSucceed) (hb : k.BufsSucceed)
    (h : Recv k cmd v o v') (hc : SsiSuccessWord cmd ∨ SpeechStartWord cmd)
    (hn : SpeechConfigReqWord cmd → ¬ v.bc.privState.SsiPending) (hw : v.bc.WellFormed)
    (ha : Agrees v.bc t) : KeepsAgreed t False o v'.bc := by
  have hfin {o₁ : List Obs} {e : Event} (h : KeepsAgreed t False o₁ v'.bc) :
      KeepsAgreed t False (.recv cmd :: (o₁ ++ [.queued e])) v'.bc := by
    have hmute : Mute [.recv cmd] := mute_of_none rfl
    exact KeepsAgreed.after hmute (h.before (mute_of_none rfl))
  rcases hc with ⟨⟨hd, ht⟩, hr⟩ | ⟨⟨hd, ht⟩, hr⟩
  · obtain ⟨o₁, e, v₁, rfl, hq, rfl⟩ := h.ssiResp_inv k hd ht
    refine hfin ?_
    rw [afterSsiResp_bc]
    exact hq.keepsAgreed hk hr hw ha
  · obtain ⟨o₁, e, rfl, hq⟩ := h.speechConfig_inv k hd ht
    exact hfin (hq.keepsAgreed hk hb hr (hn ⟨hd, ht⟩) ha)

theorem CallStatus.keepsAgreed {b : Bool} (hk : k.WritesSucceed) (h : CallStatus k b v o v')
    (ha : Agrees v.bc t) : KeepsAgreed t v.bc.privState.SsiPending o v'.bc := by
  cases h with
  | blocked hp => exact absurd hp ha.noDeact
  | disconnect h₁ hs h => exact h.keepsAgreed hk ha hs id
  | postpone hs hp =>
    refine mute_nil.keepsAgreed ?_ fun _ => Or.inl hp
    have hpend := ha.pending (Or.inl hp)
    exact ⟨ha.state, ha.ioErrors, by simp, fun _ => hpend, fun h => absurd (Or.inr (Or.inr rfl)) h⟩
  | connect hs h => exact h.keepsAgreed hk ha hs id
  | reconnect hs hp =>
    refine mute_nil.keepsAgreed ?_ fun _ => Or.inr (Or.inl hp)
    have hpend := ha.pending (Or.inr (Or.inl hp))
    exact ⟨ha.state, ha.ioErrors, by simp, fun _ => hpend, fun h => absurd (Or.inr (Or.inr rfl)) h⟩
  | reset hs h =>
    -- neither state is met while the two sides agree
    have hst := ha.state
    rcases hs with hs | hs <;> simp [hs] at hst
  | crashed hs hc hi h => simp [ha.ioErrors] at hi
  | _ => exact mute_nil.keepsAgreed ha id

/-- An operation of the application or the driver. -/
theorem ProtoStep.keepsAgreed (hk : k.WritesSucceed) (hb : k.BufsSucceed)
    (h : ProtoStep k op v o v') (hop : AppOp op) (ha : Agrees v.bc t) :
    KeepsAgreed t v.bc.privState.SsiPending o v'.bc := by
  have hne : domainControl ≠ domainInternal := by decide
  cases h with
  | recv h =>
    cases h with
    | data hd ht => exact (mute_of_none rfl).keepsAgreed ha id
    | control hd e h tstamp he => exact absurd (hd.symm.trans hop.1) hne
    -- Resets and ramps come in words that `AppOp` leaves out.
    | testRampNoBufs hd ht n hc => exact absurd (hd.symm.trans hop.1) hne
    | testRamp hd ht h => exact absurd (hd.symm.trans hop.1) hne
    | csError hd ht e he => exact absurd ht hop.2
    | unknown h => exact (mute_of_none rfl).keepsAgreed ha id
  | setWbPreference h => exact mute_nil.keepsAgreed (ha.congr rfl rfl rfl) id
  | @callStatus b _ _ _ h =>
    obtain ⟨ha', ho⟩ := (h.keepsAgreed hk ha).after (mute_of_none (x := .callStatus b) rfl)
    exact ⟨ha'.congr rfl rfl rfl, ho⟩
  | callConnect => exact mute_nil.keepsAgreed (ha.congr rfl rfl rfl) id
  | error h => exact absurd hop id
  | sendTiming h => exact absurd hop id
  | sendSsi h => exact absurd hop id
  | testReq h => exact absurd hop id
  | dlAcquireTest hs =>
    have hst := ha.state
    simp [hs] at hst
  -- A release may make the deferred reply, with the post-processing that follows it.
  | dlReleaseReply hp h => exact h.keepsAgreed hk hb ha id
  | ulReleaseReply hp h => exact h.keepsAgreed hk hb ha id
  | _ => exact mute_nil.keepsAgreed ha id

end Protocol

/-! ### Runs of the two sides -/

/-- The invariant of the two sides: what the modem will make of the messages underway is what the
library expects of it. -/
structure LinkState.Ok (st : LinkState) : Prop where
  wellFormed : st.lib.bcstate.WellFormed
  agrees : Agrees st.lib.bcstate (st.up.foldl lastSsi st.connected)
  owed : st.lib.bcstate.privState.SsiPending →
    RequestsSsi st.up ∨ ∃ cmd ∈ st.down, SsiConfigRespWord cmd
  down : ∀ cmd ∈ st.down, SsiSuccessWord cmd ∨ SpeechStartWord cmd

/-- What the library writes in full can be seen at the protocol layer. -/
theorem sent_visible (out : List Obs) : sent (out.filter Obs.visible) = sent out := by
  induction out with
  | nil => rfl
  | cons o out ih =>
    rw [List.filter_cons]
    cases o <;> simp_all [Obs.visible, Obs.sent?, List.filterMap_cons]

theorem linkOk_init {st : LinkState} (h : ssiLink.init st) : st.Ok := by
  obtain ⟨hm, hup, hdown, hc⟩ := h
  refine ⟨wellFormed_init hm, ?_, ?_, by simp [hdown]⟩
  · obtain ⟨area, old, hlib⟩ := hm
    rw [hup, hc, hlib]
    exact agrees_false rfl rfl (by simp [cmtspeechOpen, BcState.bcOpen])
      (by simp [cmtspeechOpen, BcState.bcOpen])
  · obtain ⟨area, old, hlib⟩ := hm
    simp [hlib, cmtspeechOpen, BcState.bcOpen]

/-- An operation of the library keeps the link sound, as long as what it writes is what
`KeepsAgreed` says of it. -/
theorem LinkState.Ok.operate {st : LinkState} (h : st.Ok) {i : Step} {down : List Cmd} {pend : Prop}
    (hi : NoDirectSsi i)
    (ha : KeepsAgreed (st.up.foldl lastSsi st.connected) pend
      (nokiamodem.visible Obs.visible st.lib i) (nokiamodem.next st.lib i).1.bcstate)
    (hp : pend → RequestsSsi st.up ∨ ∃ cmd ∈ down, SsiConfigRespWord cmd)
    (hdown : ∀ cmd ∈ down, cmd ∈ st.down) : (st.operate i down).Ok := by
  obtain ⟨ha, ho⟩ := ha
  rw [Lts.visible, sent_visible] at ha ho
  refine ⟨wellFormed_next hi h.wellFormed, ?_, ?_, ?_⟩
  · simpa [LinkState.operate] using ha
  · intro hq
    rcases ho hq with ⟨msg, hm, hb⟩ | hp'
    · exact Or.inl ⟨msg, List.mem_append_right _ hm, hb⟩
    · refine (hp hp').imp_left ?_
      rintro ⟨msg, hm, hb⟩
      exact ⟨msg, List.mem_append_left _ hm, hb⟩
  · intro cmd hc
    exact h.down cmd (hdown cmd hc)

/-- The modem handles a message: it takes the first one of its channel, and its response goes into
the other. -/
theorem LinkState.Ok.handle {st : LinkState} (h : st.Ok) {msg resp : Cmd} {up : List Cmd}
    (hup : st.up = msg :: up) (hresp : SsiSuccessWord resp) : (st.handle msg resp up).Ok := by
  obtain ⟨hw, ha, ho, hd⟩ := h
  rw [hup, List.foldl_cons] at ha
  rw [hup] at ho
  unfold LinkState.handle
  cases hk : msg.kind with
  | ssiConfigReq b =>
    have hlast : lastSsi st.connected msg = b := by simp [lastSsi, hk]
    rw [hlast] at ha
    refine ⟨hw, ha, fun _ => Or.inr ⟨resp, by simp, hresp.1⟩, ?_⟩
    intro cmd hc
    rcases List.mem_append.mp hc with hc | hc
    · exact hd cmd hc
    · exact Or.inl (List.mem_singleton.mp hc ▸ hresp)
  | _ =>
    have hlast : lastSsi st.connected msg = st.connected := by simp [lastSsi, hk]
    rw [hlast] at ha
    refine ⟨hw, ha, fun hq => (ho hq).imp_left ?_, hd⟩
    rintro ⟨msg', hm, b, hb⟩
    rcases List.mem_cons.mp hm with rfl | hm
    · simp [hk] at hb
    · exact ⟨msg', hm, b, hb⟩

theorem linkOk_next {st : LinkState} {i : LinkStep} (h : st.Ok) (ha : i.Assumed)
    (hu : Undisturbed st i) : (ssiLink.next st i).1.Ok := by
  cases i with
  | app k op =>
    have hop : NoDirectSsi (k, op) := by
      intro b hb
      cases hb
      exact ha.2
    have hstep : ProtoStep k op _ _ _ := nokiamodem_refines st.lib (k, op)
    exact h.operate hop (hstep.keepsAgreed ha.1 hu ha.2 h.agrees) h.owed fun _ hc => hc
  | deliver k =>
    simp only [ssiLink]
    cases hdown : st.down with
    | nil => exact h
    | cons cmd down =>
      have hrecv : Recv k cmd _ _ _ := (nokiamodem_refines st.lib (k, .recv cmd)).recv_inv k
      have hcmd : SsiSuccessWord cmd ∨ SpeechStartWord cmd := h.down cmd (by simp [hdown])
      have hkeep := hrecv.keepsAgreed ha hu.1 hcmd (hu.2 cmd (by simp [hdown])) h.wellFormed
        h.agrees
      refine h.operate (by simp [NoDirectSsi]) hkeep False.elim ?_
      intro c hc
      rw [hdown]
      exact List.mem_cons_of_mem cmd hc
  | handle resp =>
    simp only [ssiLink]
    cases hup : st.up with
    | nil => exact h
    | cons msg up => exact h.handle hup ha
  | ask req =>
    -- the request owes nothing and changes neither side
    simp only [ssiLink]
    split
    · refine ⟨h.wellFormed, h.agrees, fun hq => (h.owed hq).imp_right ?_, ?_⟩
      · rintro ⟨cmd, hc, hr⟩
        exact ⟨cmd, List.mem_append_left _ hc, hr⟩
      · intro cmd hc
        rcases List.mem_append.mp hc with hc | hc
        · exact h.down cmd hc
        · exact Or.inr (List.mem_singleton.mp hc ▸ ha)
    · exact h

/-- **The library and the modem agree** whenever both channels are empty, in every run in
which no `SPEECH_CONFIG_REQ` crosses a pending SSI configuration. -/
theorem enabled_iff_connected {st : LinkState} (h : ssiLink.init st) {is : List LinkStep}
    (ha : ∀ i ∈ is, i.Assumed) (hu : ssiLink.Along Undisturbed st is)
    (hup : (ssiLink.exec st is).up = []) (hdown : (ssiLink.exec st is).down = []) :
    (ssiLink.exec st is).lib.bcstate.isSsiConnectionEnabled = true ↔
      (ssiLink.exec st is).connected = true := by
  have hall : ssiLink.Along (fun st i => i.Assumed ∧ Undisturbed st i) st is := by
    rw [Lts.along_and, ssiLink.along_forall]
    exact ⟨ha, hu⟩
  have hok : (ssiLink.exec st is).Ok :=
    ssiLink.exec_invariant (fun st i hok hp => linkOk_next hok hp.1 hp.2) (linkOk_init h) hall
  -- a pending configuration is owed a message in one of the channels
  have hp : ¬ (ssiLink.exec st is).lib.bcstate.privState.SsiPending := by
    intro hq
    have := hok.owed hq
    simp [hup, hdown, RequestsSsi] at this
  have hagrees := hok.agrees.settled hp
  rwa [hup] at hagrees

/-- The two sides at the start: nothing is underway and there is no connection. -/
def LinkState.fresh : LinkState := ⟨Machine.fresh, [], [], false⟩

theorem init_linkFresh : ssiLink.init .fresh := ⟨init_fresh, rfl, rfl, rfl⟩

/-- A call is set up: the request, the modem's answer to it, and the answer read. -/
def connectLinkRun : List LinkStep :=
  [.app .accepting (.stateChangeCallStatus true), .handle (msgEncodeSsiConfigResp 1 0),
    .deliver .accepting]

theorem enabled_iff_connected_fresh :
    (ssiLink.exec .fresh connectLinkRun).lib.bcstate.isSsiConnectionEnabled = true ↔
      (ssiLink.exec .fresh connectLinkRun).connected = true :=
  enabled_iff_connected init_linkFresh
    (by
      simp only [connectLinkRun, List.forall_mem_cons, LinkStep.Assumed]
      exact ⟨⟨accepting_writesSucceed, trivial⟩, by decide, accepting_writesSucceed, by simp⟩)
    ⟨accepting_ioctlsSucceed.2.2, trivial, ⟨accepting_ioctlsSucceed.2.2, fun cmd hc hw => by
      cases hc
      exact absurd hw (by decide)⟩, trivial⟩ (by decide) (by decide)

/-- The modem asks for speech when the call has just ended. -/
def crossingRun : List LinkStep :=
  connectLinkRun ++
    [.ask (speechConfigReqMsg true), .app .accepting (.stateChangeCallStatus false),
      .deliver .accepting, .handle (msgEncodeSsiConfigResp 1 0),
      .handle (msgEncodeSsiConfigResp 1 0), .handle (msgEncodeSsiConfigResp 1 0),
      .deliver .accepting]

theorem enabled_disagrees :
    ssiLink.init .fresh ∧ (∀ i ∈ crossingRun, i.Assumed) ∧
      (ssiLink.exec .fresh crossingRun).up = [] ∧ (ssiLink.exec .fresh crossingRun).down = [] ∧
      (ssiLink.exec .fresh crossingRun).lib.buf.speechConfigRespPend = false ∧
      (ssiLink.exec .fresh crossingRun).lib.bcstate.isSsiConnectionEnabled = true ∧
      (ssiLink.exec .fresh crossingRun).connected = false := by
  refine ⟨init_linkFresh, ?_, by decide, by decide, by decide, by decide, by decide⟩
  simp only [crossingRun, connectLinkRun, List.cons_append, List.nil_append, List.forall_mem_cons,
    LinkStep.Assumed]
  exact ⟨⟨accepting_writesSucceed, trivial⟩, by decide, accepting_writesSucceed, by decide,
    ⟨accepting_writesSucceed, trivial⟩, accepting_writesSucceed, by decide, by decide, by decide,
    accepting_writesSucceed, by simp⟩

end CmtSpeech
