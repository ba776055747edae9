import CmtSpeech.FrameLayout

/-!
# The format of an active stream

`priv_handle_speech_config` sets the slot size, the driver accepts or refuses it, and the
reply moves the protocol state.  A sample rate that the library does not know becomes slot
size 0, which is also that of a stream that ends, and the reply no longer tells them apart.

* `SpeechLog` — what the modem has asked for, and what it was told.
* `StreamFormat` — an active stream has the slot size of the last request for a stream that
  was answered, and no request at an unknown sample rate is granted.
* `BreaksFormat` — the steps that break this.

## Main result

* `streamFormat_iff`
-/

namespace CmtSpeech

open Protocol

/-! ### Requests -/

namespace SpeechConfigReq

variable {req : SpeechConfigReq}

/-- The sample rate is 8 kHz or 16 kHz.  A request can have other values in the field, and for
these there is no slot size. -/
def KnownRate (req : SpeechConfigReq) : Prop :=
  req.sampleRate = sampleRate8khz ∨ req.sampleRate = sampleRate16khz

instance (req : SpeechConfigReq) : Decidable req.KnownRate := inferInstanceAs (Decidable (_ ∨ _))

/-- Slots of size `n` take the header and 20 ms of samples at the rate of the request, two octets
each. -/
def HasFormat (req : SpeechConfigReq) (n : ℕ) : Prop :=
  req.sampleRate = sampleRate8khz ∧ n = 4 + 2 * 160 ∨
    req.sampleRate = sampleRate16khz ∧ n = 4 + 2 * 320

theorem HasFormat.ne_zero {n : ℕ} (h : req.HasFormat n) : n ≠ 0 := by
  rcases h with ⟨-, rfl⟩ | ⟨-, rfl⟩ <;> decide

theorem slotSize_of_not_knownRate (h : ¬ req.KnownRate) : speechConfigSlotSize req = 0 := by
  rw [KnownRate, not_or] at h
  rw [speechConfigSlotSize, if_neg h.1, if_neg h.2, ite_self]

theorem slotSize_of_noStream (h : req.speechDataStream = 0) : speechConfigSlotSize req = 0 :=
  if_neg (not_not.mpr h)

theorem hasFormat_slotSize (hs : req.speechDataStream ≠ 0) (hr : req.KnownRate) :
    req.HasFormat (speechConfigSlotSize req) := by
  rw [speechConfigSlotSize, if_pos hs]
  rcases hr with hr | hr
  · rw [if_pos hr]
    exact Or.inl ⟨hr, rfl⟩
  · have hne : req.sampleRate ≠ sampleRate8khz := by
      rw [hr]
      decide
    rw [if_neg hne, if_pos hr]
    exact Or.inr ⟨hr, rfl⟩

/-- A slot size other than 0 is that of a stream at a known sample rate. -/
theorem stream_of_slotSize (h : speechConfigSlotSize req ≠ 0) :
    req.speechDataStream ≠ 0 ∧ req.KnownRate :=
  ⟨fun hs => h (slotSize_of_noStream hs),
    not_not.mp fun hr => h (slotSize_of_not_knownRate hr)⟩

end SpeechConfigReq

/-! ### What the modem was told -/

/-- What the modem has asked for, and what it was told: the last request, the one a stream was
started for, and whether a request was granted that should have been refused. -/
structure SpeechLog where
  /-- The last request. -/
  request : Option SpeechConfigReq
  /-- The last request for a stream that was answered. -/
  started : Option SpeechConfigReq
  /-- A request for a stream at an unknown sample rate was granted. -/
  misanswered : Bool

namespace SpeechLog

variable (g : SpeechLog)

/-- Nothing has been asked, and so nothing has been answered. -/
def initial : SpeechLog := ⟨none, none, false⟩

/-- A word is read: a `SPEECH_CONFIG_REQ` is kept as the last request, and other words change
nothing. -/
def read (cmd : Cmd) : SpeechLog :=
  if SpeechConfigReqWord cmd then { g with request := some (msgDecodeSpeechConfigReq cmd) } else g

/-- A request is answered: one for a stream is from now on the one in force. -/
def answered (req : SpeechConfigReq) (result : BitVec 8) : SpeechLog :=
  if req.speechDataStream ≠ 0 then
    { g with
      started := some req
      misanswered := g.misanswered || decide (¬ req.KnownRate ∧ result = 0) }
  else g

/-- Follow the requests and the replies, by the words that are read and written. -/
def upd : Obs → SpeechLog
  | .recv cmd => g.read cmd
  | .write msg w =>
    if (Obs.write msg w).isReply then
      match g.request with
      | some req => g.answered req (msgDecodeSpeechConfigResp msg)
      | none => g
    else g
  | _ => g

theorem upd_reply {req : SpeechConfigReq} (h : g.request = some req) (w : WriteRes) :
    g.upd (.write (msgEncodeSpeechConfigResp 0) w) = g.answered req 0 ∧
      g.upd (.write (msgEncodeSpeechConfigResp 1) w) = g.answered req 1 := by
  rw [upd, upd, h]
  exact ⟨rfl, rfl⟩

/-- The observations other than words and replies do not count. -/
theorem foldl_dataPath (out : List Obs) (h : ∀ cmd, .recv cmd ∉ out) :
    out.foldl upd g = (out.filter Obs.dataPath).foldl upd g := by
  induction out generalizing g with
  | nil => rfl
  | cons o out ih =>
    have hout : ∀ cmd, .recv cmd ∉ out := fun cmd hm => h cmd (List.mem_cons_of_mem _ hm)
    by_cases ho : o.dataPath = true
    · rw [List.filter_cons_of_pos ho, List.foldl_cons, List.foldl_cons, ih _ hout]
    · rw [List.filter_cons_of_neg ho, List.foldl_cons, ih _ hout]
      congr 1
      cases o with
      | recv cmd => exact absurd List.mem_cons_self (h cmd)
      | write msg w => exact if_neg ho
      | _ => rfl

end SpeechLog

/-- The word an operation reads, as the observation its trace begins with. -/
def Op.received : Op → List Obs
  | .checkPending true (some cmd) => [.recv cmd]
  | _ => []

/-- `m'` comes after `m`, with no word read in between, so that the last request is the same in
both. -/
def ReadsNothing (m m' : Machine) : Prop :=
  ∃ rest, m'.out = m.out ++ rest ∧ ∀ cmd, .recv cmd ∉ rest

namespace ReadsNothing

theorem of_out {m m' : Machine} (h : m'.out = m.out) : ReadsNothing m m' :=
  ⟨[], by rw [h, List.append_nil], fun _ => List.not_mem_nil⟩

theorem of_obs {m m' : Machine} {o : Obs} (h : m'.out = m.out ++ [o])
    (ho : ∀ cmd, o ≠ .recv cmd) : ReadsNothing m m' :=
  ⟨[o], h, fun cmd hm => ho cmd (List.mem_singleton.mp hm).symm⟩

theorem trans {m m' m'' : Machine} (h : ReadsNothing m m') (h' : ReadsNothing m' m'') :
    ReadsNothing m m'' := by
  obtain ⟨r, hr, hn⟩ := h
  obtain ⟨r', hr', hn'⟩ := h'
  refine ⟨r ++ r', by rw [hr', hr, List.append_assoc], fun cmd hm => ?_⟩
  rcases List.mem_append.mp hm with hm | hm
  · exact hn cmd hm
  · exact hn' cmd hm

end ReadsNothing

/-- The relation "reads nothing", which all but the reading of a word are in. -/
theorem aside_readsNothing : Aside ReadsNothing where
  refl _ := .of_out rfl
  trans := .trans
  modBc _ _ := .of_out rfl
  wake _ _ := .of_out rfl
  setWakeline _ _ _ := .of_obs rfl nofun
  write _ _ _ _ := .of_obs rfl nofun
  posted _ _ _ := .of_obs rfl nofun
  timing := trivial
  ssi _ _ := trivial
  callStatus _ _ := .of_obs rfl nofun
  modBuf _ _ := .of_out rfl
  octets _ _ _ := .of_out rfl
  version _ := .of_out rfl
  configBufs _ _ _ _ := .of_obs rfl nofun
  features _ _ _ := .of_out rfl
  count _ _ := .of_out rfl

theorem readsNothing_privQueueControlEvent (e : Event) (m : Machine) :
    ReadsNothing m (privQueueControlEvent e m).2 := .of_obs rfl nofun

/-- Every operation reads its own word first, and no other. -/
theorem next_received (m : Machine) (i : Step) :
    ∃ rest, (nokiamodem.next m i).2 = i.2.received ++ rest ∧ ∀ cmd, .recv cmd ∉ rest := by
  obtain ⟨k, op⟩ := i
  by_cases hop : ∃ cmd, op = .recv cmd
  · obtain ⟨cmd, rfl⟩ := hop
    exact aside_handleInboundControlMessage aside_readsNothing k (m.begin.emit (.recv cmd))
      (fun m e => readsNothing_privQueueControlEvent e m) cmd
  · have hno := not_exists.mp hop
    -- Only `cmtspeech_check_pending` reads words.
    have hrec : op.received = [] := by
      unfold Op.received
      split
      · exact absurd rfl (hno _)
      · rfl
    rw [hrec]
    refine aside_readsNothing.run k m.begin op (fun cmd h => absurd h (hno cmd))
      (fun cmd h => absurd h (hno cmd)) ?_ ?_ ?_
    · intro _ m
      rw [privDequeueControlEvent]
      split <;> exact .of_out rfl
    · intro _ _ m msg res
      refine .of_obs rfl fun cmd heq => ?_
      cases heq
    · intro area _
      exact .of_out rfl

/-- The log after one step: the word is heard first, and then the reply to it is noted. -/
theorem foldl_next (g : SpeechLog) (m : Machine) (i : Step) :
    (nokiamodem.next m i).2.foldl SpeechLog.upd g =
      ((nokiamodem.next m i).2.filter Obs.dataPath).foldl SpeechLog.upd
        (i.2.received.foldl SpeechLog.upd g) := by
  obtain ⟨rest, hout, hrest⟩ := next_received m i
  have hnone : i.2.received.filter Obs.dataPath = [] := by
    unfold Op.received
    split <;> rfl
  rw [hout, List.filter_append, hnone, List.nil_append, List.foldl_append,
    SpeechLog.foldl_dataPath _ _ hrest]

/-! ### Operations that start no stream -/

/-- No stream is started, and no request for one is marked. -/
@[mk_iff] structure StartsNothing (s t : BcState) : Prop where
  active : t.isActive = true → s.isActive = true
  mark : t.privState = .configActPend → s.privState = .configActPend

namespace StartsNothing

theorem refl (s : BcState) : StartsNothing s s := ⟨id, id⟩

theorem trans {s t u : BcState} (h : StartsNothing s t) (h' : StartsNothing t u) :
    StartsNothing s u := ⟨h.active ∘ h'.active, h.mark ∘ h'.mark⟩

theorem of_states {s t : BcState} (h₁ : t.protoState = s.protoState)
    (h₂ : t.privState = s.privState) : StartsNothing s t := by
  rw [startsNothing_iff, BcState.isActive_iff, BcState.isActive_iff, h₁, h₂]
  exact ⟨id, id⟩

/-- A state outside `ACTIVE_DL` and `ACTIVE_DLUL`, without the mark. -/
theorem of_inactive {s t : BcState} (h₁ : t.isActive ≠ true)
    (h₂ : t.privState ≠ .configActPend) : StartsNothing s t :=
  ⟨fun h => absurd h h₁, fun h => absurd h h₂⟩

/-- The protocol state stays, and the mark is not set. -/
theorem of_protoState {s t : BcState} (h₁ : t.protoState = s.protoState)
    (h₂ : t.privState ≠ .configActPend) : StartsNothing s t := by
  rw [startsNothing_iff, BcState.isActive_iff, BcState.isActive_iff, h₁]
  exact ⟨id, fun h => absurd h h₂⟩

end StartsNothing

namespace Protocol

variable {k : Kernel} {v v' : View} {o : List Obs} {op : Op}

theorem SendTiming.startsNothing (h : SendTiming k v o v') : StartsNothing v.bc v'.bc := by
  cases h with
  | full n hw => exact .of_protoState rfl (by simp)
  | short n hw => exact .of_states rfl rfl

theorem SendSsi.startsNothing {b : Bool} (h : SendSsi k b v o v') :
    StartsNothing v.bc v'.bc := by
  cases h <;> cases b <;>
    simp_all [startsNothing_iff, BcState.isActive_iff]

theorem SendReset.startsNothing (h : SendReset k v o v') : StartsNothing v.bc v'.bc := by
  cases h <;> simp_all [startsNothing_iff, BcState.isActive_iff]

theorem SsiResp.startsNothing {resp : SsiConfigResp} (h : SsiResp k resp v o v') :
    StartsNothing v.bc v'.bc := by
  cases h with
  | connected hr hp => exact .of_inactive (by simp [BcState.isActive]) (by simp)
  | disconnected hr hp => exact .of_inactive (by simp [BcState.isActive]) (by simp)
  | reconnect hr hp hc hq => exact .of_inactive (by simp [BcState.isActive]) (by simp)
  | redisconnect hr hp hc hq => exact .of_inactive (by simp [BcState.isActive]) (by simp)
  | ignored hr h₁ h₂ h₃ => exact .refl _
  | errorPending hr hp hs =>
    have hmark : StartsNothing v.bc (v.bc.privStateChangeTo none .inSync) :=
      .of_protoState rfl (by simp)
    exact hmark.trans hs.startsNothing
  | error hr h₁ h₂ hs => exact hs.startsNothing

theorem startsNothing_disconnected (s : BcState) :
    StartsNothing s s.privResetStateToDisconnected :=
  .of_inactive (by simp [BcState.isActive]) (by simp)

theorem Control.startsNothing {cmd : Cmd} (h : Control k cmd v o v')
    (ht : msgGetType cmd ≠ speechConfigReq) : StartsNothing v.bc v'.bc := by
  cases h with
  | speechConfig ht' h => exact absurd ht' ht
  -- ACTIVE_DL is an active state already, so that no speech begins.
  | uplink ht =>
    rw [View.withBc_bc]
    split
    · next hs => exact ⟨fun _ => (BcState.isActive_iff _).mpr (Or.inl hs), by simp⟩
    · exact .refl _
  | timing ht =>
    rw [View.withBc_bc]
    obtain ⟨hs, heq⟩ | ⟨hs, hp, heq⟩ | ⟨hs, heq⟩ := bcHandleTimingConfigNtf_cases v.bc
    · rw [heq]
      exact ⟨fun _ => (BcState.isActive_iff _).mpr (Or.inl hs), by simp⟩
    · rw [heq]
      exact .of_protoState rfl (by simp)
    · rw [heq]
      exact .refl _
  | ssiResp ht h =>
    rw [afterSsiResp_bc]
    exact h.startsNothing
  | resetReq ht h =>
    refine .of_inactive ?_ ?_
    · simp [afterPeerReset, BcState.isActive]
    · simp [afterPeerReset]
  | resetResp ht hp => exact startsNothing_disconnected v.bc
  | resetRespConnect ht hp h => exact (startsNothing_disconnected v.bc).trans h.startsNothing

theorem CallStatus.startsNothing {b : Bool} (h : CallStatus k b v o v') :
    StartsNothing v.bc v'.bc := by
  cases h with
  | blocked hp => exact .of_states rfl rfl
  | disconnect h₁ hs h => exact h.startsNothing
  | postpone hs hp => exact .of_protoState rfl (by simp)
  | noCall h₁ hs h₂ => exact .refl _
  | connect hs h => exact h.startsNothing
  | reconnect hs hp => exact .of_protoState rfl (by simp)
  | reset hs h => exact h.startsNothing.trans (.of_protoState rfl (by simp))
  | crashed hs hc hi h => exact (startsNothing_disconnected v.bc).trans h.startsNothing
  | already h => exact .refl _

theorem Recv.startsNothing {cmd : Cmd} (h : Recv k cmd v o v') (hc : ¬ SpeechConfigReqWord cmd)
    (hn : ¬ TestRampWord cmd) : StartsNothing v.bc v'.bc := by
  cases h with
  | control hd e h tstamp he => exact h.startsNothing fun ht => hc ⟨hd, ht⟩
  | testRampNoBufs hd ht n hconf => exact absurd ⟨hd, ht⟩ hn
  | testRamp hd ht h => exact absurd ⟨hd, ht⟩ hn
  | csError hd ht e he => exact startsNothing_disconnected v.bc
  | data hd ht => exact .refl _
  | unknown h => exact .refl _

theorem ProtoStep.callStatus_startsNothing {b : Bool}
    (h : ProtoStep k (.stateChangeCallStatus b) v o v') : StartsNothing v.bc v'.bc := by
  cases h with
  | callStatus h => exact h.startsNothing.trans (.of_states rfl rfl)

/-- Without a request and without a reply, no stream is started. -/
theorem ProtoStep.startsNothing (h : ProtoStep k op v o v') (hn : NoTestRamp op)
    (hc : ∀ cmd, op = .recv cmd → ¬ SpeechConfigReqWord cmd) (hr : replies o = 0) :
    StartsNothing v.bc v'.bc := by
  cases h with
  | recv h => exact h.startsNothing (hc _ rfl) hn
  | callStatus h => exact (ProtoStep.callStatus h).callStatus_startsNothing
  | error h => exact h.startsNothing
  | sendTiming h => exact h.startsNothing
  | sendSsi h => exact h.startsNothing
  | testReq h => exact hn.elim
  | dlReleaseReply hp h => exact absurd hr h.replies_ne
  | ulReleaseReply hp h => exact absurd hr h.replies_ne
  | dlAcquireTest hs =>
    refine .of_inactive ?_ ?_
    · simp [bcTestSequenceReceived, BcState.isActive]
    · simp [bcTestSequenceReceived]
  | _ => exact .of_states rfl rfl

end Protocol

/-! ### Where the other operations take the state -/

theorem bcstate_privQueueControlEvent (e : Event) (m : Machine) :
    (privQueueControlEvent e m).2.bcstate = m.bcstate := rfl

section
variable (k : Kernel) (m : Machine)

/-- Where the release of the last buffer takes the state. -/
theorem protoState_release (slot : Slot) (ht : m.tick = 0)
    (hlast : privLockedBufdescs (m.buf.mapFlags slot (· &&& ~~~bufLocked)) = 0) :
    (privDrvbufLayoutChangeBufferReleased k slot m).bcstate.protoState =
      if k.configBufs 1 = 0 then
        if (k.write 2).res = ctrlLen then replied m.bcstate.protoState m.bcstate.privState
        else m.bcstate.protoState
      else if k.ResetSentAfter 3 m.d.wakelineUsers then .invalid else m.bcstate.protoState := by
  have hreply := protoState_privSetupAndSendSpeechConfigReply k
    (m.modBuf fun b => b.mapFlags slot (· &&& ~~~bufLocked)) ht
  unfold privDrvbufLayoutChangeBufferReleased
  dsimp only
  rw [if_pos (by exact hlast)]
  split
  · exact hreply
  · exact hreply

variable {op : Op}

/-- Where an operation that comes to the reply takes the state. -/
theorem protoState_of_comesToReply (h : ComesToReply m.buf op) :
    (op.run k m.begin).bcstate.protoState =
      if k.configBufs 1 = 0 then
        if (k.write 2).res = ctrlLen then
          replied m.bcstate.protoState (privAtReply m.bcstate op)
        else m.bcstate.protoState
      else if k.ResetSentAfter 3 m.d.wakelineUsers then .invalid else m.bcstate.protoState := by
  match op, h with
  | .checkPending true (some cmd), ⟨⟨hd, ht⟩, hfree⟩ =>
    have hrun : Op.run k m.begin (.checkPending true (some cmd)) =
        (handleInboundControlMessage k cmd (m.begin.emit (.recv cmd))).2.2 := rfl
    obtain ⟨e, he⟩ := queues_handleInboundControlMessage k (m.begin.emit (.recv cmd)) hd
      (by rw [ht]; decide) (by rw [ht]; decide)
    rw [hrun, he, bcstate_privQueueControlEvent, handleCommandBackend_speechConfigReq k _ _ ht,
      bcHandleCommand_speechConfigReq k _ ht, privHandleSpeechConfig]
    dsimp only
    rw [if_pos (by exact hfree)]
    exact protoState_privSetupAndSendSpeechConfigReply k _ rfl
  | .dlBufferRelease i, hc =>
    rw [run_lastDlBuffer k hc]
    exact protoState_release k m.begin _ rfl hc.2.2
  | .ulBufferRelease (some i), hc =>
    rw [run_lastUlBuffer k hc]
    exact protoState_release k m.begin _ rfl hc.2

/-- A failure: of the application, or of an `SSI_CONFIG_REQ`.  The library asks for a reset on
either. -/
def ReportsError : Op → Prop
  | .checkPending true (some cmd) =>
    SsiConfigRespWord cmd ∧ (msgDecodeSsiConfigResp cmd).result ≠ ssiConfigResSuccess
  | .stateChangeError => True
  | _ => False

theorem ReportsError.resets (h : ReportsError op) (s : BcState) : ResetsBuffers s op := by
  match op, h with
  | .checkPending true (some cmd), h => exact Or.inr h
  | .stateChangeError, _ => trivial

/-- A failure asks for a reset: the state is INVALID if the reset is written, and stays
otherwise. -/
theorem protoState_of_reportsError (h : ReportsError op) :
    (op.run k m.begin).bcstate.protoState =
      if k.ResetSentAfter 0 m.d.wakelineUsers then .invalid else m.bcstate.protoState := by
  match op, h with
  | .checkPending true (some cmd), ⟨⟨hd, ht⟩, hr⟩ =>
    have hrun : Op.run k m.begin (.checkPending true (some cmd)) =
        (handleInboundControlMessage k cmd (m.begin.emit (.recv cmd))).2.2 := rfl
    obtain ⟨e, he⟩ := queues_handleInboundControlMessage k (m.begin.emit (.recv cmd)) hd
      (by rw [ht]; decide) (by rw [ht]; decide)
    rw [hrun, he, bcstate_privQueueControlEvent, handleCommandBackend_ssiConfigResp k _ _ ht,
      bcHandleCommand_ssiConfigResp k _ ht]
    have hbc (m : Machine) : (privHandleSsiConfigResp k m).bcstate = m.bcstate :=
      (congrArg View.bc (view_privHandleSsiConfigResp k m)).trans (afterSsiResp_bc _)
    dsimp only
    rw [hbc, bcHandleSsiConfigResp, if_neg hr]
    dsimp only [stateChangeError]
    split
    · exact protoState_privSendReset k _
    · exact protoState_privSendReset k _
  | .stateChangeError, _ => exact protoState_privSendReset k m.begin

/-- An operation that resets the buffers ends a stream, unless the failure cannot be sent. -/
theorem active_of_resetsBuffers (h : ResetsBuffers m.bcstate op) :
    (op.run k m.begin).bcstate.isActive = true ↔
      ReportsError op ∧ m.bcstate.isActive = true ∧ ¬ k.ResetSentAfter 0 m.d.wakelineUsers := by
  by_cases he : ReportsError op
  · rw [BcState.isActive_iff, protoState_of_reportsError k m he, BcState.isActive_iff]
    split
    · next hs => simp [hs]
    · next hs => simp [hs, he]
  -- A reset that is no error of ours leaves no active state.
  · have hstep : ProtoStep k op m.view _ (op.run k m.begin).view := nokiamodem_refines m (k, op)
    refine iff_of_false ?_ fun h => he h.1
    match op, h with
    | .checkPending true (some cmd), .inl ⟨c, hw⟩ =>
      have hbc := ((hstep.recv_inv k).peerReset hw).1
      have hproto : (Op.run k m.begin (.recv cmd)).bcstate.protoState = .disconnected :=
        congrArg BcState.protoState hbc
      rw [BcState.isActive_iff, hproto]
      simp
    | .checkPending true (some cmd), .inr hw => exact absurd hw he
    | .stateChangeError, _ => exact absurd trivial he
    | .stateChangeCallStatus true, hs =>
      have hs' : m.bcstate.protoState = .invalid ∨ m.bcstate.protoState = .testRampPingActive := hs
      intro hact
      have hwas := (BcState.isActive_iff _).mp (hstep.callStatus_startsNothing.active hact)
      have hproto : m.view.bc.protoState = m.bcstate.protoState := rfl
      rcases hs' with hs' | hs' <;> simp [hproto, hs'] at hwas

end

/-! ### The format of a stream -/

/-- An active stream whose last request is answered has the format of the last request for a
stream that was answered; no request for a stream at an unknown sample rate was granted.  In
particular the answer to such a request is not followed by an active state. -/
structure StreamFormat (s : BcState) (b : BufState) (g : SpeechLog) : Prop where
  active : s.isActive = true → b.speechConfigRespPend = false →
    ∃ req ∈ g.started, req.HasFormat b.slotSize
  refused : g.misanswered = false

/-- A request that is not answered yet is the last one, and has set the slot size: what the reply
then grants is what this request asked for. -/
def OwesReply (s : BcState) (b : BufState) (g : SpeechLog) : Prop :=
  b.speechConfigRespPend = true → ∃ req, g.request = some req ∧
    b.slotSize = speechConfigSlotSize req ∧
      (s.privState = .configActPend → req.speechDataStream ≠ 0)

/-- The request an operation answers: the one it reads, or else the last one before it. -/
def SpeechLog.answers (g : SpeechLog) : Op → Option SpeechConfigReq
  | .checkPending _ (some cmd) => some (msgDecodeSpeechConfigReq cmd)
  | _ => g.request

/-- The steps that break the format.  A stream at an unknown rate is granted, and has no slots; or
the stream goes on without slots, after a request that ended it, a layout that the driver refused
or an error, because the message that should have moved the state was not written. -/
inductive BreaksFormat (m : Machine) (g : SpeechLog) (k : Kernel) (op : Op) : Prop
  /-- A stream at an unknown sample rate is granted. -/
  | grant {req : SpeechConfigReq} (h : ComesToReply m.buf op) (hc : k.configBufs 1 = 0)
    (hreq : g.answers op = some req) (hs : req.speechDataStream ≠ 0) (hr : ¬ req.KnownRate)
  /-- A stream is ended, and the state stays: the reply is not written in full, or the mark
  of the request is lost. -/
  | stop {req : SpeechConfigReq} (h : ComesToReply m.buf op) (hc : k.configBufs 1 = 0)
    (hreq : g.answers op = some req) (hs : req.speechDataStream = 0)
    (ha : m.bcstate.isActive = true)
    (hn : ¬ ((k.write 2).res = ctrlLen ∧ privAtReply m.bcstate op = .configDeactPend))
  /-- The driver refuses the layout, and the reset that follows is not sent. -/
  | refuse (h : ComesToReply m.buf op) (hc : k.configBufs 1 ≠ 0)
    (ha : m.bcstate.isActive = true) (hr : ¬ k.ResetSentAfter 3 m.d.wakelineUsers)
  /-- The reset after a failure is not sent. -/
  | error (h : ReportsError op) (ha : m.bcstate.isActive = true)
    (hr : ¬ k.ResetSentAfter 0 m.d.wakelineUsers)

namespace SpeechLog

variable (g : SpeechLog)

/-- The log when the word of an operation has been read. -/
abbrev heard (op : Op) : SpeechLog := op.received.foldl upd g

theorem heard_kept (op : Op) :
    (g.heard op).started = g.started ∧ (g.heard op).misanswered = g.misanswered := by
  unfold heard Op.received
  split
  · show (g.read _).started = _ ∧ (g.read _).misanswered = _
    rw [read]
    split <;> exact ⟨rfl, rfl⟩
  · exact ⟨rfl, rfl⟩

theorem heard_of_noRequest {op : Op} (h : ∀ cmd, op = .recv cmd → ¬ SpeechConfigReqWord cmd) :
    g.heard op = g := by
  unfold heard Op.received
  split
  · next cmd => exact if_neg (h cmd rfl)
  · rfl

theorem answered_granted {req : SpeechConfigReq} (hs : req.speechDataStream ≠ 0)
    (hr : ¬ req.KnownRate) : (g.answered req 0).misanswered = true := by
  rw [answered, if_pos hs]
  simp [hr]

theorem answered_noStream {req : SpeechConfigReq} (hs : req.speechDataStream = 0)
    (result : BitVec 8) : g.answered req result = g := if_neg (not_not.mpr hs)

theorem answered_known {req : SpeechConfigReq} (hs : req.speechDataStream ≠ 0)
    (hr : req.KnownRate) : (g.answered req 0).started = some req ∧
      (g.answered req 0).misanswered = g.misanswered := by
  rw [answered, if_pos hs]
  simp [hr]

theorem answered_refused (req : SpeechConfigReq) :
    (g.answered req 1).misanswered = g.misanswered := by
  by_cases hs : req.speechDataStream = 0
  · rw [answered_noStream g hs]
  · rw [answered, if_pos hs]
    simp

end SpeechLog

section
variable {m : Machine} {g : SpeechLog} {op : Op}

/-- The request that a reply answers has set the slot size. -/
theorem OwesReply.answers (h : OwesReply m.bcstate m.buf g) (hc : ComesToReply m.buf op) :
    ∃ req, g.answers op = some req ∧ (g.heard op).request = some req ∧
      op.requestedSlotSize m.buf = speechConfigSlotSize req ∧
      (privAtReply m.bcstate op = .configActPend → req.speechDataStream ≠ 0) := by
  match op, hc with
  | .checkPending true (some cmd), hc =>
    refine ⟨_, rfl, ?_, rfl, ?_⟩
    · exact congrArg SpeechLog.request (if_pos hc.1)
    · intro hp hs
      have hdeact : speechPending (msgDecodeSpeechConfigReq cmd) = .configDeactPend :=
        if_neg (not_not.mpr hs)
      have hact : speechPending (msgDecodeSpeechConfigReq cmd) = .configActPend := hp
      rw [hdeact] at hact
      cases hact
  | .dlBufferRelease i, hc =>
    obtain ⟨req, hreq, hz, hm⟩ := h hc.2.1
    exact ⟨req, hreq, hreq, hz, hm⟩
  | .ulBufferRelease (some i), hc =>
    obtain ⟨req, hreq, hz, hm⟩ := h hc.1
    exact ⟨req, hreq, hreq, hz, hm⟩

/-- Without a slot size there must be no active stream. -/
theorem streamFormat_noSlots {s : BcState} {b : BufState} (hz : b.slotSize = 0)
    (hp : b.speechConfigRespPend = false) :
    StreamFormat s b g ↔ ¬ s.isActive = true ∧ g.misanswered = false := by
  constructor
  · rintro ⟨hf, hm⟩
    refine ⟨fun ha => ?_, hm⟩
    obtain ⟨req, -, hreq⟩ := hf ha hp
    exact hreq.ne_zero hz
  · rintro ⟨ha, hm⟩
    exact ⟨fun h => absurd h ha, hm⟩

/-- Nothing that concerns a stream has happened, so that its format is the one it was. -/
theorem StreamFormat.kept {s s' : BcState} {b b' : BufState} {g' : SpeechLog}
    (h : StreamFormat s b g) (hs : StartsNothing s s') (hz : b'.slotSize = b.slotSize)
    (hp : b'.speechConfigRespPend = b.speechConfigRespPend) (hg : g'.started = g.started)
    (hm : g'.misanswered = g.misanswered) : StreamFormat s' b' g' := by
  refine ⟨fun ha hr => ?_, hm.trans h.refused⟩
  rw [hg, hz]
  exact h.active (hs.active ha) (hp ▸ hr)

theorem not_breaksFormat {k : Kernel} (h₁ : ¬ ComesToReply m.buf op) (h₂ : ¬ ReportsError op) :
    ¬ BreaksFormat m g k op := by
  intro h
  cases h with
  | grant h => exact h₁ h
  | stop h => exact h₁ h
  | refuse h => exact h₁ h
  | error h => exact h₂ h

/-- A reply to a request without a stream ends the stream, if the mark is there. -/
theorem active_replied {p : ProtoState} {q : PrivState} (hq : q ≠ .configActPend) :
    (replied p q = .activeDl ∨ replied p q = .activeDlul) ↔
      (p = .activeDl ∨ p = .activeDlul) ∧ q ≠ .configDeactPend := by
  cases p <;> cases q <;> simp_all [replied]

end

/-! ### One step -/

section
variable {k : Kernel} {m : Machine} {g : SpeechLog} {op : Op}

/-- A granted reply to a request without a stream. -/
theorem active_of_granted (h : ComesToReply m.buf op) (hc : k.configBufs 1 = 0)
    (hq : privAtReply m.bcstate op ≠ .configActPend) :
    (op.run k m.begin).bcstate.isActive = true ↔ m.bcstate.isActive = true ∧
      ¬ ((k.write 2).res = ctrlLen ∧ privAtReply m.bcstate op = .configDeactPend) := by
  rw [BcState.isActive_iff, protoState_of_comesToReply k m h, if_pos hc, BcState.isActive_iff]
  split
  · next hw => rw [active_replied hq, and_iff_right hw]
  · next hw => rw [and_iff_left fun hn => hw hn.1]

/-- A reply that reports a failure leaves an active state active only if the reset after it is not
written. -/
theorem active_of_refused (h : ComesToReply m.buf op) (hc : k.configBufs 1 ≠ 0) :
    (op.run k m.begin).bcstate.isActive = true ↔
      m.bcstate.isActive = true ∧ ¬ k.ResetSentAfter 3 m.d.wakelineUsers := by
  rw [BcState.isActive_iff, protoState_of_comesToReply k m h, if_neg hc, BcState.isActive_iff]
  split
  · next hr => simp [hr]
  · next hr => rw [and_iff_left hr]

theorem breaksFormat_iff_of_reply {req : SpeechConfigReq} (h : ComesToReply m.buf op)
    (hreq : g.answers op = some req) :
    BreaksFormat m g k op ↔
      k.configBufs 1 = 0 ∧ (req.speechDataStream ≠ 0 ∧ ¬ req.KnownRate ∨
          req.speechDataStream = 0 ∧ m.bcstate.isActive = true ∧
            ¬ ((k.write 2).res = ctrlLen ∧ privAtReply m.bcstate op = .configDeactPend)) ∨
        k.configBufs 1 ≠ 0 ∧ m.bcstate.isActive = true ∧
          ¬ k.ResetSentAfter 3 m.d.wakelineUsers := by
  constructor
  · intro hb
    cases hb with
    | grant _ hc hreq' hs hr =>
      obtain rfl := Option.some.inj (hreq.symm.trans hreq')
      exact Or.inl ⟨hc, Or.inl ⟨hs, hr⟩⟩
    | stop _ hc hreq' hs ha hn =>
      obtain rfl := Option.some.inj (hreq.symm.trans hreq')
      exact Or.inl ⟨hc, Or.inr ⟨hs, ha, hn⟩⟩
    | refuse _ hc ha hr => exact Or.inr ⟨hc, ha, hr⟩
    | error he => exact absurd (he.resets _) h.rewrites_nothing.1
  · rintro (⟨hc, ⟨hs, hr⟩ | ⟨hs, ha, hn⟩⟩ | ⟨hc, ha, hr⟩)
    · exact .grant h hc hreq hs hr
    · exact .stop h hc hreq hs ha hn
    · exact .refuse h hc ha hr

theorem breaksFormat_iff_of_resets (h : ResetsBuffers m.bcstate op) :
    BreaksFormat m g k op ↔ ReportsError op ∧ m.bcstate.isActive = true ∧
      ¬ k.ResetSentAfter 0 m.d.wakelineUsers := by
  constructor
  · intro hb
    cases hb with
    | grant hc => exact absurd h hc.rewrites_nothing.1
    | stop hc => exact absurd h hc.rewrites_nothing.1
    | refuse hc => exact absurd h hc.rewrites_nothing.1
    | error he ha hr => exact ⟨he, ha, hr⟩
  · rintro ⟨he, ha, hr⟩
    exact .error he ha hr

theorem RewritesNothing.noRequest (h : RewritesNothing m op) (cmd : Cmd) (hop : op = .recv cmd) :
    ¬ SpeechConfigReqWord cmd := by
  subst hop
  intro hw
  by_cases hz : privLockedBufdescs m.buf = 0
  · exact h.comes ⟨hw, hz⟩
  · exact h.postpones ⟨hw, hz⟩

theorem MovesDl.noRequest {slotbuf : Fin dlSlots → Ptr} (h : MovesDl m op slotbuf) (cmd : Cmd)
    (hop : op = .recv cmd) : ¬ SpeechConfigReqWord cmd := by
  subst hop
  exact fun hw => (hw.rewrites_nothing m).2.2 _ h

theorem MovesDl.not_reportsError {slotbuf : Fin dlSlots → Ptr} (h : MovesDl m op slotbuf) :
    ¬ ReportsError op := by
  cases h with
  | ssiConfigResp hc hr _ _ _ => exact fun he => he.2 hr

theorem MovesDl.not_comesToReply {slotbuf : Fin dlSlots → Ptr} (h : MovesDl m op slotbuf) :
    ¬ ComesToReply m.buf op := fun hc => hc.rewrites_nothing.2.2.2 _ h

theorem Postpones.not_comesToReply (h : Postpones m.buf op) : ¬ ComesToReply m.buf op :=
  fun hc => hc.rewrites_nothing.2.2.1 h

theorem Postpones.not_reportsError (h : Postpones m.buf op) : ¬ ReportsError op := by
  obtain ⟨cmd, rfl, hw, -⟩ := h.word
  exact fun he => (hw.rewrites_nothing m).1 (he.resets _)

end

section
variable {m : Machine} {g : SpeechLog} {i : Step}

theorem startsNothing_next (hn : NoTestRamp i.2)
    (hc : ∀ cmd, i.2 = .recv cmd → ¬ SpeechConfigReqWord cmd)
    (h : (nokiamodem.next m i).2.filter Obs.dataPath = []) :
    StartsNothing m.bcstate (nokiamodem.next m i).1.bcstate := by
  have hstep : ProtoStep i.1 i.2 m.view _ (nokiamodem.next m i).1.view := nokiamodem_refines m i
  refine hstep.startsNothing hn hc ?_
  rw [Lts.visible, replies_visible, ← replies_filter, h]
  rfl

/-- A request that is put off is marked in `priv_state`, by what it asks for. -/
theorem putOff_next (cmd : Cmd) (hop : i.2 = .recv cmd) (hw : SpeechConfigReqWord cmd)
    (h : (nokiamodem.next m i).2.filter Obs.dataPath = []) :
    (nokiamodem.next m i).1.bcstate.privState = speechPending (msgDecodeSpeechConfigReq cmd) := by
  obtain ⟨k, op⟩ := i
  obtain rfl : op = .recv cmd := hop
  have hstep : ProtoStep k (.recv cmd) m.view _ (nokiamodem.next m (k, .recv cmd)).1.view :=
    nokiamodem_refines m (k, .recv cmd)
  have hput := hstep.postponed hw (by rw [Lts.visible, replies_visible, ← replies_filter, h]; rfl)
  exact congrArg (fun v : View => v.bc.privState) hput

/-- The log after a reply: what was asked for is answered, by the result that was written. -/
theorem foldl_replied {req : SpeechConfigReq} (h : g.request = some req) (n : ℕ) (r : ℤ)
    (w : WriteRes) :
    [.configBufs n r, .write (msgEncodeSpeechConfigResp 0) w].foldl SpeechLog.upd g =
        g.answered req 0 ∧
      ∀ r' : ℤ, [.configBufs n r, .write (msgEncodeSpeechConfigResp 1) w,
        .configBufs 0 r'].foldl SpeechLog.upd g = g.answered req 1 :=
  ⟨(g.upd_reply h w).1, fun _ => (g.upd_reply h w).2⟩

section
variable {k : Kernel} {op : Op}

/-- A reply for slot size 0: the request is for no stream, or for one of an unknown rate. -/
theorem streamFormat_stop (hd : OwesReply m.bcstate m.buf g)
    (hf : StreamFormat m.bcstate m.buf g) (hc : ComesToReply m.buf op)
    (hz : op.requestedSlotSize m.buf = 0) (hconf : k.configBufs 1 = 0) :
    StreamFormat (op.run k m.begin).bcstate privResetBufStateToDisconnected
        ([Obs.configBufs 0 0, .write (msgEncodeSpeechConfigResp 0) (k.write 2)].foldl
          SpeechLog.upd (g.heard op)) ↔ ¬ BreaksFormat m g k op := by
  obtain ⟨req, hans, hheard, hsize, hmark⟩ := hd.answers hc
  rw [streamFormat_noSlots rfl rfl, (foldl_replied hheard _ _ _).1,
    breaksFormat_iff_of_reply hc hans]
  by_cases hs : req.speechDataStream = 0
  · rw [SpeechLog.answered_noStream _ hs, (g.heard_kept op).2, and_iff_left hf.refused,
      active_of_granted hc hconf fun hq => hmark hq hs]
    refine not_congr ⟨fun h => Or.inl ⟨hconf, Or.inr ⟨hs, h⟩⟩, ?_⟩
    rintro (⟨-, ⟨hs', -⟩ | ⟨-, h⟩⟩ | ⟨hconf', -⟩)
    · exact absurd hs hs'
    · exact h
    · exact absurd hconf hconf'
  · have hr : ¬ req.KnownRate := fun hr =>
      (SpeechConfigReq.hasFormat_slotSize hs hr).ne_zero (hsize.symm.trans hz)
    rw [SpeechLog.answered_granted _ hs hr]
    exact iff_of_false (fun h => nomatch h.2) fun h => h (Or.inl ⟨hconf, Or.inl ⟨hs, hr⟩⟩)

/-- A reply that starts a stream gives it the format of the request, unless the step is one that
breaks it. -/
theorem streamFormat_start {s : BcState} {b' : BufState} (hd : OwesReply m.bcstate m.buf g)
    (hf : StreamFormat m.bcstate m.buf g) (hc : ComesToReply m.buf op)
    (hz : op.requestedSlotSize m.buf ≠ 0) (hconf : k.configBufs 1 = 0)
    (hb : b'.slotSize = op.requestedSlotSize m.buf) (n : ℕ) :
    StreamFormat s b' ([Obs.configBufs n 0, .write (msgEncodeSpeechConfigResp 0) (k.write 2)].foldl
      SpeechLog.upd (g.heard op)) ↔ ¬ BreaksFormat m g k op := by
  obtain ⟨req, hans, hheard, hsize, -⟩ := hd.answers hc
  obtain ⟨hs, hr⟩ := SpeechConfigReq.stream_of_slotSize (hsize ▸ hz)
  obtain ⟨hst, hm⟩ := (g.heard op).answered_known hs hr
  rw [(foldl_replied hheard _ _ _).1, breaksFormat_iff_of_reply hc hans]
  refine iff_of_true ⟨fun _ _ => ⟨req, hst, ?_⟩, hm.trans ((g.heard_kept op).2.trans hf.refused)⟩ ?_
  · rw [hb, hsize]
    exact SpeechConfigReq.hasFormat_slotSize hs hr
  · rintro (⟨-, ⟨-, hr'⟩ | ⟨hs', -⟩⟩ | ⟨hconf', -⟩)
    · exact hr' hr
    · exact hs hs'
    · exact hconf' hconf

/-- A reply that reports a failure leaves no slots; a state that is active all the same has no
format. -/
theorem streamFormat_refuse (hd : OwesReply m.bcstate m.buf g)
    (hf : StreamFormat m.bcstate m.buf g) (hc : ComesToReply m.buf op)
    (hconf : k.configBufs 1 ≠ 0) (n : ℕ) (r r' : ℤ) :
    StreamFormat (op.run k m.begin).bcstate privResetBufStateToDisconnected
        ([Obs.configBufs n r, .write (msgEncodeSpeechConfigResp 1) (k.write 2),
          .configBufs 0 r'].foldl SpeechLog.upd (g.heard op)) ↔ ¬ BreaksFormat m g k op := by
  obtain ⟨req, hans, hheard, -, -⟩ := hd.answers hc
  rw [streamFormat_noSlots rfl rfl, (foldl_replied hheard _ _ _).2,
    breaksFormat_iff_of_reply hc hans, SpeechLog.answered_refused, (g.heard_kept op).2,
    and_iff_left hf.refused, active_of_refused hc hconf]
  refine not_congr ⟨fun h => Or.inr ⟨hconf, h⟩, ?_⟩
  rintro (⟨hconf', -⟩ | ⟨-, h⟩)
  · exact absurd hconf' hconf
  · exact h

end

/-- One step keeps the format, unless it is one of those that break it. -/
theorem streamFormat_next (hd : OwesReply m.bcstate m.buf g)
    (hf : StreamFormat m.bcstate m.buf g) (hn : NoTestRamp i.2) :
    StreamFormat (nokiamodem.next m i).1.bcstate (nokiamodem.next m i).1.buf
        ((nokiamodem.next m i).2.foldl SpeechLog.upd g) ↔ ¬ BreaksFormat m g i.1 i.2 := by
  have hout := dataOutcome m i
  have hidle := startsNothing_next (m := m) hn
  have hramp := hn.not_relays m.buf.slotSize
  obtain ⟨k, op⟩ := i
  have hrun : (nokiamodem.next m (k, op)).1.bcstate = (op.run k m.begin).bcstate := rfl
  -- What was asked for is noted when it is heard; the format is fixed when it is answered.
  obtain ⟨hstarted, hmis⟩ := g.heard_kept op
  rw [foldl_next]
  generalize (nokiamodem.next m (k, op)).2.filter Obs.dataPath = o at hout hidle ⊢
  generalize (nokiamodem.next m (k, op)).1.buf = b' at hout ⊢
  dsimp only at hout hidle hramp ⊢
  cases hout with
  | keep hk hz hno =>
    refine iff_of_true (hf.kept (hidle hno.noRequest rfl) hz hk.respPend hstarted hmis) ?_
    exact not_breaksFormat hno.comes fun he => hno.resets (he.resets _)
  | moveDl hm =>
    refine iff_of_true (hf.kept (hidle hm.noRequest rfl) rfl rfl hstarted hmis) ?_
    exact not_breaksFormat hm.not_comesToReply hm.not_reportsError
  | postpone hp hb hz =>
    refine iff_of_true ⟨fun _ hr => ?_, hmis.trans hf.refused⟩
      (not_breaksFormat hp.not_comesToReply hp.not_reportsError)
    rw [hb.respPend] at hr
    cases hr
  | stop hc hz hconf => exact streamFormat_stop hd hf hc hz hconf
  | start hc hz hconf hb hp => exact streamFormat_start hd hf hc hz hconf hb.slotSize _
  | refuse hc hconf r => exact streamFormat_refuse hd hf hc hconf _ _ r
  | reset hr r =>
    have hlog : [Obs.configBufs 0 r].foldl SpeechLog.upd (op.received.foldl SpeechLog.upd g) =
        g.heard op := rfl
    rw [streamFormat_noSlots rfl rfl, hlog, hmis, and_iff_left hf.refused, hrun,
      active_of_resetsBuffers k m hr, breaksFormat_iff_of_resets hr]
  | relay hr => exact absurd hr hramp
  | relayRefused hr => exact absurd hr hramp

/-- One step keeps track of the request that is not answered. -/
theorem owesReply_next (hd : OwesReply m.bcstate m.buf g) (hn : NoTestRamp i.2) :
    OwesReply (nokiamodem.next m i).1.bcstate (nokiamodem.next m i).1.buf
      ((nokiamodem.next m i).2.foldl SpeechLog.upd g) := by
  have hout := dataOutcome m i
  have hidle := startsNothing_next (m := m) hn
  have hramp := hn.not_relays m.buf.slotSize
  have hput := putOff_next (m := m) (i := i)
  rw [foldl_next]
  generalize (nokiamodem.next m i).2.filter Obs.dataPath = o at hout hidle hput ⊢
  generalize (nokiamodem.next m i).1.buf = b' at hout ⊢
  -- A step that hears no request and lays out nothing owes the same reply after it.
  have hkeep (hr : ∀ cmd, i.2 = .recv cmd → ¬ SpeechConfigReqWord cmd)
      (hs : StartsNothing m.bcstate (nokiamodem.next m i).1.bcstate)
      (hz : b'.slotSize = m.buf.slotSize)
      (hp : b'.speechConfigRespPend = m.buf.speechConfigRespPend) :
      OwesReply (nokiamodem.next m i).1.bcstate b' (g.heard i.2) := by
    intro hpend
    obtain ⟨req, hreq, hsize, hmark⟩ := hd (hp ▸ hpend)
    rw [g.heard_of_noRequest hr]
    exact ⟨req, hreq, hz.trans hsize, fun h => hmark (hs.mark h)⟩
  cases hout with
  | keep hk hz hno => exact hkeep hno.noRequest (hidle hno.noRequest rfl) hz hk.respPend
  | moveDl hm => exact hkeep hm.noRequest (hidle hm.noRequest rfl) rfl rfl
  | postpone hp hb hz =>
    obtain ⟨cmd, hop, hw, -⟩ := hp.word
    refine fun _ => ⟨msgDecodeSpeechConfigReq cmd, ?_, ?_, ?_⟩
    · rw [hop]
      exact congrArg SpeechLog.request (if_pos hw)
    · rw [hz, hop]
      rfl
    · rw [hput cmd hop hw rfl, speechPending]
      exact fun h hs => absurd h (by simp [hs])
  | start _ _ _ _ hp => exact fun hpend => absurd (hp.symm.trans hpend) Bool.false_ne_true
  | stop | refuse | reset => exact fun hpend => absurd hpend Bool.false_ne_true
  | relay hr => exact absurd hr hramp
  | relayRefused hr => exact absurd hr hramp

end

/-- **An active stream has a valid format**, throughout a run without test ramps, and no
request for a stream at an unknown sample rate is granted, if and only if no step breaks
this. -/
theorem streamFormat_iff {m : Machine} (hm : nokiamodem.init m) {is : List Step}
    (hn : ∀ i ∈ is, NoTestRamp i.2) :
    (nokiamodem.withGhost SpeechLog.initial SpeechLog.upd).Always
        (fun p => StreamFormat p.1.bcstate p.1.buf p.2) (m, .initial) is ↔
      (nokiamodem.withGhost SpeechLog.initial SpeechLog.upd).Along
        (fun p i => ¬ BreaksFormat p.1 p.2 i.1 i.2) (m, .initial) is := by
  have hopen : m.bcstate.isActive = false ∧ m.buf.speechConfigRespPend = false := by
    obtain ⟨area, old, rfl⟩ := hm
    exact ⟨rfl, rfl⟩
  refine (nokiamodem.withGhost SpeechLog.initial SpeechLog.upd).always_iff_along
    (I := fun p => OwesReply p.1.bcstate p.1.buf p.2) (P := fun _ i => NoTestRamp i.2)
    ?_ ?_ ?_ ?_ ?_
  · intro p i hI _ hP _
    exact owesReply_next hI hP
  · intro p i hI hQ hP
    exact streamFormat_next hI hQ hP
  · intro hp
    rw [hopen.2] at hp
    cases hp
  · refine ⟨fun ha => ?_, rfl⟩
    rw [hopen.1] at ha
    cases ha
  · exact (Lts.along_forall _ (fun i : Step => NoTestRamp i.2) _ is).mpr hn

/-- The modem asks for a stream without a sample rate. -/
def rateNoneRun : List Step :=
  [(.accepting, .stateChangeCallStatus true), (.accepting, .recv (msgEncodeSsiConfigResp 1 0)),
    (.accepting, .recv (msgEncodeSpeechConfigReq
      { speechDataStream := 1, callUserConnectingInd := 0, codecInfo := 0, cellularInfo := 0
        sampleRate := 0, dataFormat := 0 }))]

/-- A run that ends in `ACTIVE_DL`, where the format is that of the request granted. -/
theorem streamFormat_granted :
    (nokiamodem.withGhost SpeechLog.initial SpeechLog.upd).Always
        (fun p => StreamFormat p.1.bcstate p.1.buf p.2) (Machine.fresh, .initial) rateNoneRun ↔
      (nokiamodem.withGhost SpeechLog.initial SpeechLog.upd).Along
        (fun p i => ¬ BreaksFormat p.1 p.2 i.1 i.2) (Machine.fresh, .initial) rateNoneRun := by
  refine streamFormat_iff init_fresh ?_
  simp only [rateNoneRun, List.forall_mem_cons, NoTestRamp]
  exact ⟨trivial, by decide, by decide, by simp⟩

/-- The request is granted: the stream is active, and has no slots. -/
theorem streamFormat_rateNone :
    nokiamodem.init Machine.fresh ∧
      (∀ i ∈ rateNoneRun, i.1.WritesSucceed ∧ i.1.IoctlsSucceed ∧ NoTestRamp i.2) ∧
      (nokiamodem.exec Machine.fresh rateNoneRun).bcstate.protoState = .activeDl ∧
      (nokiamodem.exec Machine.fresh rateNoneRun).buf.slotSize = 0 ∧
      ¬ (nokiamodem.withGhost SpeechLog.initial SpeechLog.upd).Always
        (fun p => StreamFormat p.1.bcstate p.1.buf p.2) (Machine.fresh, .initial) rateNoneRun := by
  refine ⟨init_fresh, ?_, by decide, by decide, ?_⟩
  · simp only [rateNoneRun, List.forall_mem_cons, accepting_writesSucceed,
      accepting_ioctlsSucceed, NoTestRamp]
    exact ⟨⟨trivial, trivial, trivial⟩, ⟨trivial, trivial, by decide⟩,
      ⟨trivial, trivial, by decide⟩, by simp⟩
  · intro h
    exact absurd (h rateNoneRun List.prefix_rfl).refused (by decide)

end CmtSpeech
