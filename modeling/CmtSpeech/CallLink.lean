import CmtSpeech.Agreement
import CmtSpeech.CallServer
import CmtSpeech.Lib.Simulation

/-!
# The connection follows the call

The library and the modem of `ssiLink`, and the application, which starts and ends calls at any
moment.  When everything that was sent has arrived, there is a connection if the application has
started a call last; if it has ended the call, there is none, unless there is speech, which is for
the modem to stop.

* `Serves` — the protocol state goes with the call status.

## Main result

* `connected_iff_called`
-/

namespace CmtSpeech

open Protocol

/-- The protocol state goes with the call status, but for a request that has been postponed until
the one before it is answered. -/
structure Serves (s : BcState) : Prop where
  idle : s.protoState = .disconnected → ¬ s.privState.SsiPending → s.callServerActive = false
  up : s.protoState = .connected → ¬ s.privState.SsiPending → s.callServerActive = true
  connecting : s.privState = .connecting → s.callServerActive = true
  disconnecting : s.privState = .disconnecting → s.callServerActive = false

/-- The state `t` goes with the call status as `s` does, which is the same.  This is what the
operations that do not take a call status do. -/
structure KeepsServed (s t : BcState) : Prop where
  serves : Serves t
  callServerActive : t.callServerActive = s.callServerActive

section
variable {s t u : BcState}

theorem Serves.refl (h : Serves s) : KeepsServed s s := ⟨h, rfl⟩

theorem KeepsServed.trans (h : KeepsServed s t) (h' : KeepsServed t u) : KeepsServed s u :=
  ⟨h'.serves, h'.callServerActive.trans h.callServerActive⟩

/-- Only the three fields matter: whatever else a step changes, the connection still serves the
call. -/
theorem Serves.congr (h : Serves s) (h₁ : t.protoState = s.protoState)
    (h₂ : t.privState = s.privState) (h₃ : t.callServerActive = s.callServerActive) :
    KeepsServed s t := by
  refine ⟨⟨?_, ?_, ?_, ?_⟩, h₃⟩
  · rw [h₁, h₂, h₃]
    exact h.idle
  · rw [h₁, h₂, h₃]
    exact h.up
  · rw [h₂, h₃]
    exact h.connecting
  · rw [h₂, h₃]
    exact h.disconnecting

theorem KeepsServed.written (h : KeepsServed s t) : KeepsServed s t.written :=
  h.trans (h.serves.congr rfl rfl rfl)

/-- There is speech, and no SSI configuration is pending. -/
theorem serves_active (hs : s.protoState = .activeDl ∨ s.protoState = .activeDlul)
    (hp : ¬ s.privState.SsiPending) : Serves s where
  idle h := by rcases hs with hs | hs <;> simp [hs] at h
  up h := by rcases hs with hs | hs <;> simp [hs] at h
  connecting h := absurd (Or.inl h) hp
  disconnecting h := absurd (Or.inr (Or.inl h)) hp

/-- A request for the other state is in flight, and it is the one that the call status asks for. -/
theorem serves_pending {b : Bool} (hp : s.privState = ssiPending b)
    (hc : s.callServerActive = b) : Serves s := by
  cases b with
  | true => constructor <;> simp [hp, hc, PrivState.SsiPending]
  | false => constructor <;> simp [hp, hc, PrivState.SsiPending]

end

/-! ### Operations of the library -/

namespace Protocol

variable {k : Kernel} {v v' : View} {o : List Obs} {op : Op}

/-- A request for what the call status asks for keeps the connection on the way to serving it,
written or not. -/
theorem SendSsi.served {b : Bool} (hk : k.WritesSucceed) (h : SendSsi k b v o v')
    (hc : v.bc.callServerActive = b) : KeepsServed v.bc v'.bc := by
  cases h with
  | refused hb hp =>
    subst hb
    exact ⟨serves_pending (b := false) hp hc, rfl⟩
  | full n hw hr => exact ⟨serves_pending rfl hc, rfl⟩
  | short n hw hr => exact absurd (hk n) hw

theorem Posted.served (hk : k.WritesSucceed) (h : Posted k v o v') (hs : Serves v.bc) :
    KeepsServed v.bc v'.bc := by
  cases h with
  | start hs hp ht =>
    cases ht with
    | full n hw => exact ⟨serves_active (.inl rfl) (by simp), rfl⟩
    | short n hw => exact absurd (hk n) hw
  | restart hs hp => exact ⟨serves_active (.inl rfl) (by simp), rfl⟩
  | stop hs hp hc =>
    refine ⟨⟨by simp, fun _ _ => hc, by simp, by simp⟩, rfl⟩
  | close hs hp hc hq =>
    have hsent := hq.served hk hc
    exact ⟨hsent.serves, hsent.callServerActive⟩
  | keep _ _ => exact hs.refl

theorem SetupReply.served (hk : k.WritesSucceed) (hb : k.BufsSucceed) (h : SetupReply k v o v')
    (hs : Serves v.bc) : KeepsServed v.bc v'.bc := by
  cases h with
  | ok n hc hr =>
    cases hr with
    | full n hw hq => exact (hq.served hk hs).written
    | short n hw => exact absurd (hk n) hw
  | failed n hc hr hs => exact absurd (hb n) hc

/-- A `SPEECH_CONFIG_REQ`, with no SSI configuration pending. -/
theorem SpeechConfig.served {req : SpeechConfigReq} (hk : k.WritesSucceed) (hb : k.BufsSucceed)
    (h : SpeechConfig k req v o v') (hn : ¬ v.bc.privState.SsiPending) (hs : Serves v.bc) :
    KeepsServed v.bc v'.bc := by
  have hpend : ¬ (speechRequested req v).bc.privState.SsiPending :=
    not_ssiPending_speechPending req
  have hreq : KeepsServed v.bc (speechRequested req v).bc := by
    refine ⟨⟨fun h _ => hs.idle h hn, fun h _ => hs.up h hn, ?_, ?_⟩, rfl⟩
    · exact fun h => absurd (Or.inl h) hpend
    · exact fun h => absurd (Or.inr (Or.inl h)) hpend
  cases h with
  | now hr => exact hreq.trans (hr.served hk hb hreq.serves)
  | defer => exact hreq

/-- A successful response: what was postponed is asked for now. -/
theorem SsiResp.served {resp : SsiConfigResp} (h : SsiResp k resp v o v')
    (hr : resp.result = ssiConfigResSuccess) (hs : Serves v.bc) : KeepsServed v.bc v'.bc := by
  cases h with
  | connected _ hp => exact ⟨⟨by simp, fun _ _ => hs.connecting hp, by simp, by simp⟩, rfl⟩
  | disconnected _ hp =>
    refine ⟨⟨fun _ _ => rfl, by simp, by simp, by simp⟩, ?_⟩
    exact (hs.disconnecting hp).symm
  | reconnect _ hp hc hq =>
    have hactive := hq.callServerActive
    exact ⟨serves_pending (b := true) rfl (hactive.trans hc), hactive⟩
  | redisconnect _ hp hc hq =>
    have hactive := hq.callServerActive
    exact ⟨serves_pending (b := false) rfl (hactive.trans hc), hactive⟩
  | ignored _ h₁ h₂ h₃ => exact hs.refl
  | errorPending hr' hp hs => exact absurd hr hr'
  | error hr' h₁ h₂ hs => exact absurd hr hr'

/-- A message of the modem keeps the connection on the way to serving the call. -/
theorem Recv.served {cmd : Cmd} (hk : k.WritesSucceed) (hb : k.BufsSucceed)
    (h : Recv k cmd v o v') (hc : SsiSuccessWord cmd ∨ SpeechStartWord cmd)
    (hn : SpeechConfigReqWord cmd → ¬ v.bc.privState.SsiPending) (hs : Serves v.bc) :
    KeepsServed v.bc v'.bc := by
  rcases hc with ⟨⟨hd, ht⟩, hr⟩ | ⟨⟨hd, ht⟩, -⟩
  · obtain ⟨o₁, e, v₁, -, hq, rfl⟩ := h.ssiResp_inv k hd ht
    rw [afterSsiResp_bc]
    exact hq.served hr hs
  · obtain ⟨o₁, e, -, hq⟩ := h.speechConfig_inv k hd ht
    exact hq.served hk hb (hn ⟨hd, ht⟩) hs

/-- The application starts or ends a call: the connection is there, is asked for, or will be asked
for when the pending request is answered. -/
theorem CallStatus.served {b : Bool} {t : Bool} (hk : k.WritesSucceed) (h : CallStatus k b v o v')
    (hw : v.bc.WellFormed) (ha : Agrees v.bc t) :
    Serves { v'.bc with callServerActive := b } := by
  cases h with
  | blocked hp => exact absurd hp ha.noDeact
  | disconnect h₁ hs' h =>
    cases h with
    | refused hb hp => exact serves_pending (b := false) hp rfl
    | full n hw hr => exact serves_pending (b := false) rfl rfl
    | short n hw hr => exact absurd (hk n) hw
  | postpone hs' hp => constructor <;> simp [PrivState.SsiPending]
  | noCall h₁ hs' h₂ =>
    refine ⟨fun _ _ => rfl, fun h => absurd h hs', fun h => absurd h h₂, fun _ => rfl⟩
  | connect hs' h =>
    cases h with
    | refused hb hp => exact absurd hb (by decide)
    | full n hw hr => exact serves_pending (b := true) rfl rfl
    | short n hw hr => exact absurd (hk n) hw
  | reconnect hs' hp => constructor <;> simp [PrivState.SsiPending]
  -- A reset is underway, and while it is the two sides do not agree.
  | reset hs' h =>
    have hst := ha.state
    rcases hs' with hs' | hs' <;> simp [hs'] at hst
  | crashed hs' hc hi h => simp [ha.ioErrors] at hi
  -- Nothing is to be done: there is a connection already, and it is not being ended.
  | already h =>
    have hne : v.bc.privState ≠ .disconnecting := by
      intro hp
      have hconn := hw.disconnecting hp
      rcases h with ⟨-, hne⟩ | ⟨h | h, -⟩
      · exact hne hp
      · simp [hconn] at h
      · simp [hconn] at h
    have hup : v.bc.protoState ≠ .disconnected := by
      rcases h with ⟨h, -⟩ | ⟨h | h, -⟩ <;> simp [h]
    exact ⟨fun h => absurd h hup, fun _ _ => rfl, fun _ => rfl, fun h => absurd h hne⟩

/-- An operation of the application or the driver other than a call status. -/
theorem ProtoStep.served {t : Bool} (hk : k.WritesSucceed) (hb : k.BufsSucceed)
    (h : ProtoStep k op v o v') (hop : AppOp op) (hcs : ∀ b, op ≠ .stateChangeCallStatus b)
    (ha : Agrees v.bc t) (hs : Serves v.bc) : KeepsServed v.bc v'.bc := by
  have hne : domainControl ≠ domainInternal := by decide
  cases h with
  | recv h =>
    cases h with
    | control hd e h tstamp he => exact absurd (hd.symm.trans hop.1) hne
    | testRampNoBufs hd ht n hc => exact absurd (hd.symm.trans hop.1) hne
    | testRamp hd ht h => exact absurd (hd.symm.trans hop.1) hne
    | csError hd ht e he => exact absurd ht hop.2
    | data hd ht => exact hs.refl
    | unknown h => exact hs.refl
  | setWbPreference h => exact hs.congr rfl rfl rfl
  | callStatus h => exact absurd rfl (hcs _)
  | callConnect => exact hs.congr rfl rfl rfl
  | error h => exact absurd hop id
  | sendTiming h => exact absurd hop id
  | sendSsi h => exact absurd hop id
  | testReq h => exact absurd hop id
  | dlAcquireTest hs' =>
    have hst := ha.state
    simp [hs'] at hst
  | dlReleaseReply hp h => exact h.served hk hb hs
  | ulReleaseReply hp h => exact h.served hk hb hs
  | _ => exact hs.refl

/-- A call status of the application is served, and is the one that the history records. -/
theorem ProtoStep.called {b t : Bool} (hk : k.WritesSucceed)
    (h : ProtoStep k (.stateChangeCallStatus b) v o v') (hw : v.bc.WellFormed)
    (ha : Agrees v.bc t) :
    Serves v'.bc ∧ v'.bc.callServerActive = b ∧ ∀ last, o.foldl lastCallStatus last = some b := by
  cases h with
  | callStatus h => exact ⟨h.served hk hw ha, rfl, fun _ => h.each.2⟩

end Protocol

/-! ### Runs of the two sides -/

/-- The invariant of the two sides and the application, whose last call status was `last`. -/
structure LinkState.Called (st : LinkState) (last : Option Bool) : Prop where
  ok : st.Ok
  serves : Serves st.lib.bcstate
  active : st.lib.bcstate.callServerActive = true ↔ last = some true

theorem lastCallStatus_visible (last : Option Bool) (o : Obs) (h : o.visible = false) :
    lastCallStatus last o = last := by
  cases o with
  | callStatus b => exact absurd h (by simp [Obs.visible])
  | _ => rfl

/-- What the application has said in an operation can be seen at the protocol layer. -/
theorem lastCallStatus_next (m : Machine) (i : Step) (last : Option Bool) :
    (nokiamodem.next m i).2.foldl lastCallStatus last =
      (nokiamodem.visible Obs.visible m i).foldl lastCallStatus last :=
  (Lts.foldl_visible lastCallStatus_visible last _).symm

/-- An operation in which the application says nothing about a call. -/
theorem LinkState.Called.kept {st st' : LinkState} {last : Option Bool} {i : Step}
    (h : st.Called last) (hok : st'.Ok) (hlib : st'.lib = (nokiamodem.next st.lib i).1)
    (hkeep : KeepsServed st.lib.bcstate (nokiamodem.next st.lib i).1.bcstate)
    (hlast : ∀ last, (nokiamodem.visible Obs.visible st.lib i).foldl lastCallStatus last = last) :
    st'.Called ((nokiamodem.next st.lib i).2.foldl lastCallStatus last) := by
  rw [lastCallStatus_next, hlast]
  refine ⟨hok, ?_, ?_⟩
  · rw [hlib]
    exact hkeep.serves
  · rw [hlib, hkeep.callServerActive]
    exact h.active

/-- The words the modem sends complete no reset: it answers requests for the connection and asks
for speech. -/
theorem not_completesReset {s : BcState} {cmd : Cmd}
    (hcmd : SsiSuccessWord cmd ∨ SpeechStartWord cmd) : ¬ CompletesReset s (.recv cmd) := by
  rintro ⟨cmd', heq, ⟨-, ht⟩, -⟩
  cases heq
  rcases hcmd with ⟨⟨-, ht'⟩, -⟩ | ⟨⟨-, ht'⟩, -⟩
  · exact absurd (ht.symm.trans ht') (by decide)
  · exact absurd (ht.symm.trans ht') (by decide)

theorem called_app {st : LinkState} {last : Option Bool} (h : st.Called last) {k : Kernel} {op : Op}
    (hk : k.WritesSucceed) (hop : AppOp op) (hb : k.BufsSucceed) :
    (ssiLink.next st (.app k op)).1.Called
      ((ssiLink.next st (.app k op)).2.foldl lastCallStatus last) := by
  have hok : (ssiLink.next st (.app k op)).1.Ok := linkOk_next h.ok ⟨hk, hop⟩ hb
  have hstep : ProtoStep k op _ _ _ := nokiamodem_refines st.lib (k, op)
  by_cases hcs : ∃ b, op = .stateChangeCallStatus b
  · obtain ⟨b, rfl⟩ := hcs
    obtain ⟨hserves, hactive, hlast⟩ := hstep.called hk h.ok.wellFormed h.ok.agrees
    refine ⟨hok, hserves, ?_⟩
    show _ ↔ (nokiamodem.next st.lib (k, .stateChangeCallStatus b)).2.foldl _ last = _
    rw [lastCallStatus_next, hlast, Option.some.injEq]
    exact Eq.congr_left hactive
  · have hnone : ∀ b, op ≠ .stateChangeCallStatus b := fun b hb => hcs ⟨b, hb⟩
    have hssi : ∀ b, op ≠ .sendSsiConfigRequest b := by
      rintro b rfl
      exact hop
    have hreset (s : BcState) : ¬ CompletesReset s op := by
      rintro ⟨cmd, rfl, ⟨hd, -⟩, -⟩
      exact absurd (hd.symm.trans hop.1) (by decide)
    exact h.kept hok rfl (hstep.served hk hb hop hnone h.ok.agrees h.serves)
      (hstep.unprompted hssi hnone (hreset _)).last

theorem called_deliver {st : LinkState} {last : Option Bool} (h : st.Called last) {k : Kernel}
    (hk : k.WritesSucceed) (hu : Undisturbed st (.deliver k)) :
    (ssiLink.next st (.deliver k)).1.Called
      ((ssiLink.next st (.deliver k)).2.foldl lastCallStatus last) := by
  have hok : (ssiLink.next st (.deliver k)).1.Ok := linkOk_next h.ok hk hu
  obtain ⟨hb, hcross⟩ := hu
  simp only [ssiLink] at hok ⊢
  cases hdown : st.down with
  | nil => exact h
  | cons cmd down =>
    rw [hdown] at hok
    have hrecv : Recv k cmd _ _ _ := (nokiamodem_refines st.lib (k, .recv cmd)).recv_inv k
    have hcmd : SsiSuccessWord cmd ∨ SpeechStartWord cmd := h.ok.down cmd (by simp [hdown])
    have hn := hcross cmd (by simp [hdown])
    exact h.kept hok rfl (hrecv.served hk hb hcmd hn h.serves)
      (hrecv.unprompted (not_completesReset hcmd)).last

/-- Every step that meets the assumptions keeps the invariant. -/
theorem ssiLink_called :
    ssiLink.Simulated LinkState.Called (fun st i => i.Assumed ∧ Undisturbed st i)
      (fun _ last out last' => last' = out.foldl lastCallStatus last) := by
  rintro st last i h ⟨ha, hu⟩
  refine ⟨_, rfl, ?_⟩
  cases i with
  | app k op => exact called_app h ha.1 ha.2 hu
  | deliver k => exact called_deliver h ha hu
  | handle resp =>
    have hok : (ssiLink.next st (.handle resp)).1.Ok := linkOk_next h.ok ha hu
    simp only [ssiLink] at hok ⊢
    cases hup : st.up with
    | nil => exact h
    | cons msg up =>
      rw [hup] at hok
      have hlib : (st.handle msg resp up).lib = st.lib := by
        unfold LinkState.handle
        split <;> rfl
      refine ⟨hok, ?_, ?_⟩
      · rw [hlib]
        exact h.serves
      · rw [hlib]
        exact h.active
  | ask req =>
    have hok : (ssiLink.next st (.ask req)).1.Ok := linkOk_next h.ok ha hu
    simp only [ssiLink] at hok ⊢
    split
    · next hc =>
      rw [if_pos hc] at hok
      exact ⟨hok, h.serves, h.active⟩
    · exact h

theorem called_init {st : LinkState} (h : ssiLink.init st) : st.Called none := by
  refine ⟨linkOk_init h, ?_, ?_⟩
  · obtain ⟨⟨area, old, hlib⟩, -⟩ := h
    rw [hlib]
    constructor <;> simp [cmtspeechOpen, BcState.bcOpen]
  · obtain ⟨⟨area, old, hlib⟩, -⟩ := h
    simp [hlib, cmtspeechOpen, BcState.bcOpen]

/-- **The connection follows the call** in every run with successful writes in which the driver
takes every layout and no `SPEECH_CONFIG_REQ` crosses a pending SSI configuration: whenever both
channels are empty, the modem has a connection exactly if the application has started a call last,
or there still is speech. -/
theorem connected_iff_called {st : LinkState} (h : ssiLink.init st) {is : List LinkStep}
    (ha : ∀ i ∈ is, i.Assumed) (hu : ssiLink.Along Undisturbed st is)
    (hup : (ssiLink.exec st is).up = []) (hdown : (ssiLink.exec st is).down = []) :
    let state := (ssiLink.exec st is).lib.bcstate.protoState
    (ssiLink.exec st is).connected = true ↔
      (ssiLink.trace st is).foldl lastCallStatus none = some true ∨
        state = .activeDl ∨ state = .activeDlul := by
  have hall : ssiLink.Along (fun st i => i.Assumed ∧ Undisturbed st i) st is := by
    rw [Lts.along_and, ssiLink.along_forall]
    exact ⟨ha, hu⟩
  obtain ⟨last, hcalled, hlast⟩ := ssiLink_called.run (P := fun _ _ => True)
    (I := fun last seen => last = seen.foldl lastCallStatus none) (l := [])
    (fun _ _ _ _ _ => trivial)
    (fun _ last seen out last' hseen _ hout => by rw [hout, hseen, List.foldl_append])
    (called_init h) rfl hall
  rw [List.nil_append] at hlast
  have hp : ¬ (ssiLink.exec st is).lib.bcstate.privState.SsiPending := by
    intro hq
    have := hcalled.ok.owed hq
    simp [hup, hdown, RequestsSsi] at this
  have hsettled := hcalled.ok.agrees.settled hp
  rw [hup, List.foldl_nil, BcState.isSsiConnectionEnabled_iff] at hsettled
  have hactive := hcalled.active
  rw [← hlast, ← hsettled, ← hactive]
  rcases hcalled.ok.agrees.state with hs | hs | hs | hs
  · simp [hs, hcalled.serves.idle hs hp]
  · simp [hs, hcalled.serves.up hs hp]
  · simp [hs]
  · simp [hs]

/-- A call is set up, and ended at once, before there is any speech. -/
def shortCallRun : List LinkStep :=
  connectLinkRun ++
    [.app .accepting (.stateChangeCallStatus false), .handle (msgEncodeSsiConfigResp 1 0),
      .deliver .accepting]

theorem connected_iff_called_short :
    let state := (ssiLink.exec .fresh shortCallRun).lib.bcstate.protoState
    (ssiLink.exec .fresh shortCallRun).connected = true ↔
      (ssiLink.trace .fresh shortCallRun).foldl lastCallStatus none = some true ∨
        state = .activeDl ∨ state = .activeDlul := by
  have hno (down : List Cmd) (h : ∀ cmd, down.head? = some cmd → ¬ SpeechConfigReqWord cmd)
      (p : Prop) : ∀ cmd, down.head? = some cmd → SpeechConfigReqWord cmd → p :=
    fun cmd hc hw => absurd hw (h cmd hc)
  have hbufs := accepting_ioctlsSucceed.2.2
  refine connected_iff_called init_linkFresh ?_ ?_ (by decide) (by decide)
  · simp only [shortCallRun, connectLinkRun, List.cons_append, List.nil_append,
      List.forall_mem_cons, LinkStep.Assumed]
    exact ⟨⟨accepting_writesSucceed, trivial⟩, by decide, accepting_writesSucceed,
      ⟨accepting_writesSucceed, trivial⟩, by decide, accepting_writesSucceed, by simp⟩
  · refine ⟨hbufs, trivial, ⟨hbufs, hno _ ?_ _⟩, hbufs, trivial, ⟨hbufs, hno _ ?_ _⟩, trivial⟩
    · rintro cmd ⟨⟩
      decide
    · rintro cmd ⟨⟩
      decide

end CmtSpeech
