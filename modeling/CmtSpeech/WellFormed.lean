import CmtSpeech.History
import Mathlib.Logic.Relation
import Mathlib.Tactic.MkIffOfInductiveProp

/-!
# The state machine is well formed

The state assertions of the source only write a trace message, so which pairs of
`proto_state` and `priv_state` occur, and how `proto_state` moves, follows from the handlers
alone.  It holds in every run in which the application leaves
`cmtspeech_send_ssi_config_request` to the library.

* `BcState.WellFormed` — the pairs of `proto_state` and `priv_state` that can occur.
* `Edge` — the changes of `proto_state` an operation can make.

## Main result

* `wellFormed_run` — every run stays well formed and moves along the edges.
-/

namespace CmtSpeech

open Protocol

/-- The pairs of `proto_state` and `priv_state` the state machine allows.  A transaction that is
pending goes with the states in which it can have been started; the other values of `priv_state`
go with every state. -/
@[mk_iff] structure BcState.WellFormed (s : BcState) : Prop where
  connecting : s.privState = .connecting → s.protoState = .disconnected
  disconnecting : s.privState = .disconnecting → s.protoState = .connected
  ssiConfigPend : s.privState = .ssiConfigPend →
    s.protoState = .disconnected ∨ s.protoState = .connected
  resetBeforeConnect : s.privState = .resetBeforeConnect →
    s.protoState = .invalid ∨ s.protoState = .testRampPingActive

/-- An SSI configuration is pending only around a connection. -/
theorem BcState.WellFormed.not_ssiPending {s : BcState} (h : s.WellFormed)
    (hd : s.protoState ≠ .disconnected) (hc : s.protoState ≠ .connected) :
    ¬ s.privState.SsiPending := by
  rintro (hp | hp | hp)
  · exact hd (h.connecting hp)
  · exact hc (h.disconnecting hp)
  · exact (h.ssiConfigPend hp).elim hd hc

/-- The operations that may take any protocol state to `DISCONNECTED`: a reset by a word, and a
call that starts after the call server has crashed. -/
def Resets (s : BcState) : Op → Prop
  | .checkPending flags word => flags = true ∧ ∃ cmd, word = some cmd ∧ ResetWord cmd
  | .stateChangeCallStatus state => state = true ∧ s.isActive = true ∧ 0 < s.ioErrors
  | _ => False

/-- The legal changes of the protocol state: `s` is the state before the operation `op`,
and `out` what the operation does. -/
inductive Edge (op : Op) (s : BcState) (out : List Obs) : ProtoState → ProtoState → Prop
  | connect : Edge op s out .disconnected .connected
  | disconnect : Edge op s out .connected .disconnected
  | dlStart : Edge op s out .connected .activeDl
  | ulStart : Edge op s out .activeDl .activeDlul
  | ulStop : Edge op s out .activeDlul .activeDl
  | dlStop : Edge op s out .activeDl .connected
  | dlulStop : Edge op s out .activeDlul .connected
  | testStart : Edge op s out .disconnected .testRampPingActive
  | testEnd : Edge op s out .testRampPingActive .disconnected
  | error (p : ProtoState) {w : WriteRes} (hm : .write msgEncodeResetConnReq w ∈ out)
      (hw : w.res = ctrlLen) : Edge op s out p .invalid
  | reset (p : ProtoState) (h : Resets s op) : Edge op s out p .disconnected

/-- No change, or one along an edge.  An operation makes at most one such move, however many
functions it runs through. -/
abbrev Moves (op : Op) (s : BcState) (out : List Obs) : ProtoState → ProtoState → Prop :=
  Relation.ReflGen (Edge op s out)

section
variable {op : Op} {s : BcState} {out out' : List Obs} {p q : ProtoState}

theorem Moves.of_eq (h : q = p) : Moves op s out p q := h ▸ .refl

theorem Edge.mono (h : Edge op s out p q) (ho : ∀ o ∈ out, o ∈ out') : Edge op s out' p q := by
  cases h with
  | error p hm hw => exact .error p (ho _ hm) hw
  | reset p h => exact .reset p h
  | _ => constructor

theorem Moves.mono (h : Moves op s out p q) (ho : ∀ o ∈ out, o ∈ out') : Moves op s out' p q := by
  cases h with
  | refl => exact .refl
  | single h => exact .single (h.mono ho)

end

namespace Protocol

variable {k : Kernel} {v v' : View} {o : List Obs} {op : Op} {s : BcState}

/-! ### Requests -/

theorem SendTiming.wellFormed (h : SendTiming k v o v') (hw : v.bc.WellFormed) :
    v'.bc.WellFormed := by
  cases h <;> simp_all [BcState.wellFormed_iff]

theorem SendSsi.wellFormed {b : Bool} (h : SendSsi k b v o v') (hw : v.bc.WellFormed)
    (hb : v.bc.protoState = if b then .disconnected else .connected) : v'.bc.WellFormed := by
  cases h <;> cases b <;> simp_all [BcState.wellFormed_iff]

theorem SendReset.wellFormed (h : SendReset k v o v') (hw : v.bc.WellFormed) :
    v'.bc.WellFormed := by
  cases h <;> simp_all [BcState.wellFormed_iff]

theorem SendReset.moves (h : SendReset k v o v') :
    Moves op s o v.bc.protoState v'.bc.protoState := by
  cases h with
  | full n hw => exact .single (.error _ List.mem_cons_self hw)
  | _ => exact .refl

/-! ### Answering a speech configuration -/

theorem Posted.wellFormed (h : Posted k v o v') (hw : v.bc.WellFormed) : v'.bc.WellFormed := by
  cases h with
  | start hs hp ht => exact ht.wellFormed (by simp [BcState.wellFormed_iff])
  | close hs hp hc hq => exact hq.wellFormed (by simp [BcState.wellFormed_iff]) rfl
  | _ => simp_all [BcState.wellFormed_iff]

theorem Posted.moves (h : Posted k v o v') : Moves op s o v.bc.protoState v'.bc.protoState := by
  cases h with
  | start hs hp ht =>
    rw [hs, ht.protoState]
    exact .single .dlStart
  | restart hs hp =>
    rw [hs]
    exact .single .ulStop
  | stop hs hp hc =>
    rcases hs with hs | hs <;> rw [hs]
    · exact .single .dlStop
    · exact .single .dlulStop
  | close hs hp hc hq =>
    rw [hq.protoState]
    rcases hs with hs | hs <;> rw [hs]
    · exact .single .dlStop
    · exact .single .dlulStop
  | keep ha hd => exact .refl

theorem ReplyOk.wellFormed (h : ReplyOk k v o v') (hw : v.bc.WellFormed) : v'.bc.WellFormed := by
  cases h with
  | full n _ hp => simpa [BcState.wellFormed_iff] using hp.wellFormed hw
  | short n _ => simpa [BcState.wellFormed_iff] using hw

theorem ReplyOk.moves (h : ReplyOk k v o v') : Moves op s o v.bc.protoState v'.bc.protoState := by
  cases h with
  | full n _ hp =>
    refine hp.moves.mono ?_
    intro x ho
    exact List.mem_cons_of_mem _ (List.mem_append_left _ ho)
  | short n _ => exact .refl

theorem ReplyErr.wellFormed (h : ReplyErr k v o v') (hw : v.bc.WellFormed) :
    v'.bc.WellFormed := by
  cases h <;> simp_all [BcState.wellFormed_iff]

theorem SetupReply.wellFormed (h : SetupReply k v o v') (hw : v.bc.WellFormed) :
    v'.bc.WellFormed := by
  cases h with
  | ok n hc hr => exact hr.wellFormed hw
  | failed n hc hr hs => exact hs.wellFormed (hr.wellFormed hw)

theorem SetupReply.moves (h : SetupReply k v o v') :
    Moves op s o v.bc.protoState v'.bc.protoState := by
  cases h with
  | ok n hc hr => exact hr.moves
  | failed n hc hr hs =>
    -- the reply that reports the failure leaves the state, so the edge is that of the reset
    have hmoves : Moves op s _ _ v'.bc.protoState := hs.moves
    rw [hr.protoState] at hmoves
    exact hmoves.mono fun _ ho => List.mem_append_right _ ho

/-- A pending speech configuration is compatible with any protocol state. -/
theorem wellFormed_speechPending (s : BcState) (req : SpeechConfigReq) :
    (s.privStateChangeTo none (speechPending req)).WellFormed := by
  rcases speechPending_cases req with h | h <;> simp [BcState.wellFormed_iff, h]

theorem SpeechConfig.wellFormed {req : SpeechConfigReq} (h : SpeechConfig k req v o v') :
    v'.bc.WellFormed := by
  have hw := wellFormed_speechPending v.bc req
  cases h with
  | now hr => exact hr.wellFormed hw
  | defer => exact hw

theorem SpeechConfig.moves {req : SpeechConfigReq} (h : SpeechConfig k req v o v') :
    Moves op s o v.bc.protoState v'.bc.protoState := by
  cases h with
  | now hr => exact hr.moves
  | defer => exact .refl

/-! ### Inbound words -/

theorem SsiResp.wellFormed {resp : SsiConfigResp} (h : SsiResp k resp v o v')
    (hw : v.bc.WellFormed) : v'.bc.WellFormed := by
  cases h with
  | errorPending hr hp hs => exact hs.wellFormed (by simp [BcState.wellFormed_iff])
  | error hr h₁ h₂ hs => exact hs.wellFormed hw
  | _ => simp_all [BcState.wellFormed_iff]

theorem SsiResp.moves {resp : SsiConfigResp} (h : SsiResp k resp v o v')
    (hw : v.bc.WellFormed) : Moves op s o v.bc.protoState v'.bc.protoState := by
  -- the mark tells which state the response arrives in
  cases h with
  | connected hr hp =>
    rw [hw.connecting hp]
    exact .single .connect
  | disconnected hr hp =>
    rw [hw.disconnecting hp]
    exact .single .disconnect
  | reconnect hr hp hc hq =>
    rcases hw.ssiConfigPend hp with hs | hs <;> rw [hs]
    · exact .refl
    · exact .single .disconnect
  | redisconnect hr hp hc hq =>
    rcases hw.ssiConfigPend hp with hs | hs <;> rw [hs]
    · exact .single .connect
    · exact .refl
  | ignored hr h₁ h₂ h₃ => exact .refl
  | errorPending hr hp hs => exact hs.moves
  | error hr h₁ h₂ hs => exact hs.moves

theorem Control.wellFormed {cmd : Cmd} (h : Control k cmd v o v') (hw : v.bc.WellFormed) :
    v'.bc.WellFormed := by
  cases h with
  | speechConfig ht h => exact h.wellFormed
  | uplink ht => by_cases hs : v.bc.protoState = .activeDl <;> simp_all [BcState.wellFormed_iff]
  | timing ht =>
    rw [View.withBc_bc]
    obtain ⟨hs, heq⟩ | ⟨hs, hp, heq⟩ | ⟨hs, heq⟩ := bcHandleTimingConfigNtf_cases v.bc
    · simp [heq, BcState.wellFormed_iff]
    · simp [heq, BcState.wellFormed_iff]
    · rwa [heq]
  | ssiResp ht h =>
    rw [afterSsiResp_bc]
    exact h.wellFormed hw
  | resetReq ht h => simp [afterPeerReset, BcState.wellFormed_iff]
  | resetResp ht hp => simp [BcState.wellFormed_iff]
  | resetRespConnect ht hp h => exact h.wellFormed (by simp [BcState.wellFormed_iff]) rfl

theorem Control.moves {cmd : Cmd} (h : Control k cmd v o v') (hd : msgGetDomain cmd = domainControl)
    (hw : v.bc.WellFormed) : Moves (.recv cmd) s o v.bc.protoState v'.bc.protoState := by
  -- Both reset messages are resets that come from the modem.
  have hreset (ht : msgGetType cmd = resetConnReq ∨ msgGetType cmd = resetConnResp) :
      Resets s (.recv cmd) := ⟨rfl, cmd, rfl, Or.inl ⟨hd, ht⟩⟩
  cases h with
  | speechConfig ht h => exact h.moves
  | uplink ht =>
    by_cases hs : v.bc.protoState = .activeDl
    · rw [View.withBc_bc, if_pos hs, hs]
      exact .single .ulStart
    · rw [View.withBc_bc, if_neg hs]
  | timing ht =>
    rw [View.withBc_bc]
    obtain ⟨hs, heq⟩ | ⟨hs, hp, heq⟩ | ⟨hs, heq⟩ := bcHandleTimingConfigNtf_cases v.bc
    · rw [heq, hs]
      exact .single .ulStart
    · rw [heq]
      exact .refl
    · rw [heq]
  | ssiResp ht h =>
    rw [afterSsiResp_bc]
    exact h.moves hw
  | resetReq ht h => exact .single (.reset _ (hreset (Or.inl ht)))
  | resetResp ht hp => exact .single (.reset _ (hreset (Or.inr ht)))
  | resetRespConnect ht hp h =>
    rw [View.release_bc, h.protoState]
    exact .single (.reset _ (hreset (Or.inr ht)))

theorem Send.wellFormed {msg : Cmd} (h : Send k msg v o v') (hw : v.bc.WellFormed) :
    v'.bc.WellFormed := by
  cases h <;> simpa [BcState.wellFormed_iff] using hw

theorem Recv.wellFormed {cmd : Cmd} (h : Recv k cmd v o v') (hw : v.bc.WellFormed) :
    v'.bc.WellFormed := by
  cases h with
  | control hd e h tstamp he => exact h.wellFormed hw
  | testRampNoBufs hd ht n hc => exact hw
  | testRamp hd ht h => exact h.wellFormed hw
  | csError hd ht e he => simp [afterPeerReset, BcState.wellFormed_iff]
  | data hd ht => exact hw
  | unknown h => exact hw

theorem Recv.moves {cmd : Cmd} (h : Recv k cmd v o v') (hw : v.bc.WellFormed) :
    Moves (.recv cmd) s o v.bc.protoState v'.bc.protoState := by
  cases h with
  | control hd e h tstamp he =>
    exact (h.moves hd hw).mono fun _ ho => List.mem_cons_of_mem _ (List.mem_append_left _ ho)
  | testRampNoBufs hd ht n hc => exact .refl
  | testRamp hd ht h => exact .of_eq h.protoState
  | csError hd ht e he => exact .single (.reset _ ⟨rfl, cmd, rfl, Or.inr ⟨hd, ht⟩⟩)
  | data hd ht => exact .refl
  | unknown h => exact .refl

/-! ### Calls of the application -/

theorem CallStatus.wellFormed {b : Bool} (h : CallStatus k b v o v') (hw : v.bc.WellFormed) :
    v'.bc.WellFormed := by
  cases h with
  | blocked hp => simpa [BcState.wellFormed_iff] using hw
  | disconnect h₁ hs h => exact h.wellFormed hw hs
  | postpone hs hp => simp [BcState.wellFormed_iff, hw.connecting hp]
  | noCall h₁ hs h₂ => exact hw
  | connect hs h => exact h.wellFormed hw hs
  | reconnect hs hp => simp [BcState.wellFormed_iff, hs]
  | reset hs h =>
    -- the request leaves the state alone or makes it `INVALID`
    cases h <;> simp [BcState.wellFormed_iff, hs]
  | crashed hs hc hi h => exact h.wellFormed (by simp [BcState.wellFormed_iff]) rfl
  | already h => exact hw

theorem CallStatus.moves {b : Bool} (h : CallStatus k b v o v') :
    Moves (.stateChangeCallStatus b) v.bc o v.bc.protoState v'.bc.protoState := by
  cases h with
  | disconnect h₁ hs h => exact .of_eq h.protoState
  | connect hs h => exact .of_eq h.protoState
  | reset hs h => exact h.moves
  | crashed hs hc hi h =>
    rw [h.protoState]
    refine .single (.reset _ ⟨rfl, ?_, hi⟩)
    exact (BcState.isActive_iff _).mpr hs
  | _ => exact .refl

/-- One operation keeps the invariant, whatever the kernel answers and whatever word comes. -/
theorem ProtoStep.wellFormed (h : ProtoStep k op v o v') (hop : ∀ b, op ≠ .sendSsiConfigRequest b)
    (hw : v.bc.WellFormed) : v'.bc.WellFormed := by
  cases h with
  | recv h => exact h.wellFormed hw
  | setWbPreference h => simpa [BcState.wellFormed_iff] using hw
  | callStatus h => simpa [BcState.wellFormed_iff] using h.wellFormed hw
  | callConnect => simpa [BcState.wellFormed_iff] using hw
  | error h => exact h.wellFormed hw
  | sendTiming h => exact h.wellFormed hw
  | sendSsi h => exact absurd rfl (hop _)
  | testReq h => cases h <;> simp_all [BcState.wellFormed_iff]
  | dlAcquireTest hs => simp [bcTestSequenceReceived, BcState.wellFormed_iff]
  | dlReleaseReply hp h => exact h.wellFormed hw
  | ulReleaseReply hp h => exact h.wellFormed hw
  | _ => exact hw

/-- One operation goes along the edges of the diagram, and along no others. -/
theorem ProtoStep.moves (h : ProtoStep k op v o v') (hw : v.bc.WellFormed) :
    Moves op v.bc o v.bc.protoState v'.bc.protoState := by
  cases h with
  | recv h => exact h.moves hw
  | callStatus h => exact h.moves.mono fun _ ho => List.mem_cons_of_mem _ ho
  | error h => exact h.moves
  | sendTiming h => exact .of_eq h.protoState
  | sendSsi h => exact .of_eq h.protoState
  | testReq h =>
    cases h with
    | full hs n hw =>
      rw [hs]
      exact .single .testStart
    | _ => exact .refl
  | dlAcquireTest hs =>
    rw [hs]
    exact .single .testEnd
  | dlReleaseReply hp h => exact h.moves
  | ulReleaseReply hp h => exact h.moves
  | _ => exact .refl

end Protocol

/-! ### Runs -/

/-- The application leaves SSI configuration requests to the library. -/
def NoDirectSsi (i : Step) : Prop := ∀ b, i.2 ≠ .sendSsiConfigRequest b

theorem wellFormed_cmtspeechOpen (area : MmapArea) (m : Machine) :
    (cmtspeechOpen area m).bcstate.WellFormed := by
  simp [cmtspeechOpen, BcState.bcOpen, BcState.wellFormed_iff]

theorem wellFormed_init {m : Machine} (h : nokiamodem.init m) : m.bcstate.WellFormed := by
  obtain ⟨area, old, rfl⟩ := h
  exact wellFormed_cmtspeechOpen area old

/-- One step of the backend keeps the invariant, as the protocol does. -/
theorem wellFormed_next {m : Machine} {i : Step} (hi : NoDirectSsi i) (hw : m.bcstate.WellFormed) :
    (nokiamodem.next m i).1.bcstate.WellFormed :=
  (nokiamodem_refines m i).wellFormed hi hw

theorem wellFormed_exec {m : Machine} {is : List Step} (hw : m.bcstate.WellFormed)
    (hs : ∀ i ∈ is, NoDirectSsi i) : (nokiamodem.exec m is).bcstate.WellFormed := by
  induction is generalizing m with
  | nil => exact hw
  | cons i is ih =>
    exact ih (wellFormed_next (hs i List.mem_cons_self) hw)
      fun j hj => hs j (List.mem_cons_of_mem i hj)

/-- One step of the backend goes along the edges, as the protocol does. -/
theorem moves_next {m : Machine} {i : Step} (hw : m.bcstate.WellFormed) :
    Moves i.2 m.bcstate (nokiamodem.next m i).2 m.bcstate.protoState
      (nokiamodem.next m i).1.bcstate.protoState :=
  ((nokiamodem_refines m i).moves hw).mono fun _ ho => (List.mem_filter.mp ho).1

/-- **The state machine is well formed.**  In every run from `cmtspeech_open` in which the
application does not send SSI configuration requests itself, whatever words arrive and
whatever the kernel answers, the state is well formed after every operation, and every
operation leaves the protocol state alone or moves it along one edge. -/
theorem wellFormed_run {m : Machine} (hm : nokiamodem.init m) {is : List Step}
    (hs : ∀ i ∈ is, NoDirectSsi i) :
    nokiamodem.Always (fun m => m.bcstate.WellFormed) m is ∧
      nokiamodem.Along (fun m i =>
        Moves i.2 m.bcstate (nokiamodem.next m i).2 m.bcstate.protoState
          (nokiamodem.next m i).1.bcstate.protoState) m is := by
  have hw := wellFormed_init hm
  constructor
  · intro js hjs
    exact wellFormed_exec hw fun i hi => hs i (hjs.subset hi)
  · clear hm
    induction is generalizing m with
    | nil => trivial
    | cons i is ih =>
      have hi := hs i List.mem_cons_self
      exact ⟨moves_next hw, ih (fun j hj => hs j (List.mem_cons_of_mem i hj))
        (wellFormed_next hi hw)⟩

/-- A call from beginning to end: the connection is set up, speech flows both ways, a frame is
sent, the stream and then the connection are taken down again. -/
def wholeCallRun : List Step :=
  heldBufferRun ++
    [(.accepting, .ulBufferRelease (some 0)), (.accepting, .recv (speechConfigReqMsg false)),
      (.accepting, .stateChangeCallStatus false),
      (.accepting, .recv (msgEncodeSsiConfigResp 1 0))]

theorem wellFormed_wholeCall :
    nokiamodem.Always (fun m => m.bcstate.WellFormed) Machine.fresh wholeCallRun ∧
      nokiamodem.Along (fun m i =>
        Moves i.2 m.bcstate (nokiamodem.next m i).2 m.bcstate.protoState
          (nokiamodem.next m i).1.bcstate.protoState) Machine.fresh wholeCallRun :=
  wellFormed_run init_fresh (by simp [wholeCallRun, heldBufferRun, NoDirectSsi])

end CmtSpeech
