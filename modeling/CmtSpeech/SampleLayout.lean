import CmtSpeech.Agreement
import CmtSpeech.DataStep

/-!
# The sample layout of a connection

The layout of the samples is negotiated by the `SSI_CONFIG_RESP` that takes the library from
`DISCONNECTED` to `CONNECTED`, and the data path relies on it as long as there is a
connection.  The branch of the response handler for a request that was waited for sets it;
the branch for a request that was postponed connects as well, and leaves it as it is.

* `entryLayout` — the layout of that response.
* `LayoutAgrees` — the layout in force is that one.
* `MissesLayout` — the responses that connect without it.

## Main result

* `sampleLayout_agrees_iff`
-/

namespace CmtSpeech

open Protocol

/-- The sample layout an `SSI_CONFIG_RESP` carries: by default it is swapped. -/
def SsiConfigResp.sampleLayout (resp : SsiConfigResp) : ℤ :=
  if (resp.layout.toNat : ℤ) = sampleLayoutNoPref then sampleLayoutSwappedLe
  else resp.layout.toNat

theorem SsiConfigResp.sampleLayout_ne (resp : SsiConfigResp) : resp.sampleLayout ≠ -1 := by
  unfold SsiConfigResp.sampleLayout
  split
  · decide
  · omega

/-- The layout of the connection after a successful response that takes the protocol state
from `s` to `t`: a new one from `DISCONNECTED` to `CONNECTED`. -/
def enteredWith (g : Option ℤ) (resp : SsiConfigResp) (s t : ProtoState) : Option ℤ :=
  if s = .disconnected ∧ t = .connected then some resp.sampleLayout else g

/-- The layout of the successful response that took the library from `DISCONNECTED` to
`CONNECTED` last, after one more observation. -/
def entryLayout (g : Option ℤ) : Obs → Option ℤ
  | .queued e =>
    match e.msg with
    | .ssiConfigResp resp _ =>
      if resp.result = ssiConfigResSuccess then enteredWith g resp e.prevState e.state else g
    | _ => g
  | _ => g

/-- While there is a connection, the layout is that of the response, and it is set.  `-1` is what
a reset leaves there. -/
def LayoutAgrees (s : BcState) (g : Option ℤ) : Prop :=
  s.isSsiConnectionEnabled = true → g = some s.sampleLayout ∧ s.sampleLayout ≠ -1

/-- A successful response connects, and leaves another layout than that of the response the
library was connected by. -/
structure BcState.Misses (s : BcState) (g : Option ℤ) (resp : SsiConfigResp) : Prop where
  connects : s.privState = .connecting ∨
    s.privState = .ssiConfigPend ∧ s.callServerActive = false
  layout : enteredWith g resp s.protoState .connected ≠ some (s.layoutAfter resp)

/-- The operations in which that happens: a successful response connects, and the layout it
carries is not the one that is set. -/
def MissesLayout (s : BcState) (g : Option ℤ) : Op → Prop
  | .checkPending true (some cmd) =>
    SsiSuccessWord cmd ∧ s.Misses g (msgDecodeSsiConfigResp cmd)
  | _ => False

/-! ### Steps that connect nothing -/

/-- There is a connection in `t` only if there was one in `s`, with the same layout, so that
nothing is new about the layout. -/
def StaysConnected (s t : BcState) : Prop :=
  t.isSsiConnectionEnabled = true →
    s.isSsiConnectionEnabled = true ∧ t.sampleLayout = s.sampleLayout

namespace StaysConnected

variable {s t u : BcState}

theorem of_eq (hs : t.protoState = s.protoState) (hl : t.sampleLayout = s.sampleLayout) :
    StaysConnected s t := by
  intro h
  rw [BcState.isSsiConnectionEnabled_iff, hs] at h
  exact ⟨s.isSsiConnectionEnabled_iff.mpr h, hl⟩

theorem refl (s : BcState) : StaysConnected s s := of_eq rfl rfl

theorem trans (h₁ : StaysConnected s t) (h₂ : StaysConnected t u) : StaysConnected s u := by
  intro h
  obtain ⟨ht, hl⟩ := h₂ h
  exact ⟨(h₁ ht).1, hl.trans (h₁ ht).2⟩

/-- Between two states with a connection the layout stays the one the connection was made with. -/
theorem between (hs : s.isSsiConnectionEnabled = true) (hl : t.sampleLayout = s.sampleLayout) :
    StaysConnected s t := fun _ => ⟨hs, hl⟩

/-- The connection is gone, and with it the layout has nothing to agree with. -/
theorem off (ht : t.isSsiConnectionEnabled = false) : StaysConnected s t := by
  intro h
  rw [ht] at h
  cases h

end StaysConnected

theorem BcState.enabled_of_active {s : BcState}
    (h : s.protoState = .activeDl ∨ s.protoState = .activeDlul) :
    s.isSsiConnectionEnabled = true := s.isSsiConnectionEnabled_iff.mpr (Or.inr h)

theorem BcState.not_enabled_of_disconnected {s : BcState} (h : s.protoState = .disconnected) :
    s.isSsiConnectionEnabled = false := by
  simp [BcState.isSsiConnectionEnabled, h]

theorem BcState.not_enabled_of_invalid {s : BcState} (h : s.protoState = .invalid) :
    s.isSsiConnectionEnabled = false := by
  simp [BcState.isSsiConnectionEnabled, h]

namespace Protocol

variable {k : Kernel} {v v' : View} {o : List Obs} {op : Op}

theorem SendTiming.staysConnected (h : SendTiming k v o v') : StaysConnected v.bc v'.bc := by
  cases h <;> exact .of_eq rfl rfl

theorem SendSsi.staysConnected {b : Bool} (h : SendSsi k b v o v') :
    StaysConnected v.bc v'.bc := .of_eq h.protoState h.sampleLayout

theorem SendReset.staysConnected (h : SendReset k v o v') : StaysConnected v.bc v'.bc := by
  cases h with
  | full n hw => exact .off (BcState.not_enabled_of_invalid rfl)
  | _ => exact .of_eq rfl rfl

theorem Posted.staysConnected (h : Posted k v o v') : StaysConnected v.bc v'.bc := by
  have hstep (p : ProtoState) (hs : v.bc.isSsiConnectionEnabled = true) :
      StaysConnected v.bc (v.bc.privStateChangeTo (some p) .inSync) := .between hs rfl
  cases h with
  | start hs hp ht =>
    exact (hstep _ (v.bc.isSsiConnectionEnabled_iff.mpr (Or.inl hs))).trans ht.staysConnected
  | restart hs hp => exact hstep _ (BcState.enabled_of_active (Or.inr hs))
  | stop hs hp hc => exact hstep _ (BcState.enabled_of_active hs)
  | close hs hp hc hq => exact (hstep _ (BcState.enabled_of_active hs)).trans hq.staysConnected
  | keep ha hd => exact .refl _

theorem SetupReply.staysConnected (h : SetupReply k v o v') : StaysConnected v.bc v'.bc := by
  cases h with
  | ok n hc hr =>
    cases hr with
    | full n hw hp => exact hp.staysConnected.trans (.of_eq rfl rfl)
    | short n hw => exact .of_eq rfl rfl
  | failed n hc hr hs =>
    refine .trans ?_ hs.staysConnected
    cases hr <;> exact .of_eq rfl rfl

theorem SpeechConfig.staysConnected {req : SpeechConfigReq} (h : SpeechConfig k req v o v') :
    StaysConnected v.bc v'.bc := by
  have hreq : StaysConnected v.bc (speechRequested req v).bc := .of_eq rfl rfl
  cases h with
  | now hr => exact hreq.trans hr.staysConnected
  | defer => exact hreq

/-- A response that reports an error connects nothing. -/
theorem SsiResp.staysConnected {resp : SsiConfigResp} (h : SsiResp k resp v o v')
    (hr : resp.result ≠ ssiConfigResSuccess) : StaysConnected v.bc v'.bc := by
  cases h with
  | errorPending _ hp hs => exact .trans (.of_eq rfl rfl) hs.staysConnected
  | error _ h₁ h₂ hs => exact hs.staysConnected
  | _ => exact absurd ‹_› hr

theorem Control.staysConnected {cmd : Cmd} (h : Control k cmd v o v')
    (hr : msgGetType cmd = ssiConfigResp →
      (msgDecodeSsiConfigResp cmd).result ≠ ssiConfigResSuccess) :
    StaysConnected v.bc v'.bc := by
  have hoff : StaysConnected v.bc v.bc.privResetStateToDisconnected :=
    .off (BcState.not_enabled_of_disconnected rfl)
  cases h with
  | speechConfig ht h => exact h.staysConnected
  | uplink ht =>
    rw [View.withBc_bc]
    split
    · next hs => exact .between (BcState.enabled_of_active (Or.inl hs)) rfl
    · exact .refl _
  | timing ht =>
    rw [View.withBc_bc]
    obtain ⟨hs, heq⟩ | ⟨hs, hp, heq⟩ | ⟨hs, heq⟩ := bcHandleTimingConfigNtf_cases v.bc
    · rw [heq]
      exact .between (BcState.enabled_of_active (Or.inl hs)) rfl
    · rw [heq]
      exact .of_eq rfl rfl
    · rw [heq]
      exact .refl _
  -- An error: after the reset that it brings there is no connection.
  | ssiResp ht h =>
    rw [afterSsiResp_bc]
    exact h.staysConnected (hr ht)
  | resetReq ht h => exact .off (BcState.not_enabled_of_disconnected rfl)
  | resetResp ht hp => exact hoff
  | resetRespConnect ht hp h => exact hoff.trans h.staysConnected

theorem CallStatus.staysConnected {b : Bool} (h : CallStatus k b v o v') :
    StaysConnected v.bc v'.bc := by
  cases h with
  | disconnect h₁ hs h => exact h.staysConnected
  | connect hs h => exact h.staysConnected
  | reset hs h => exact h.staysConnected.trans (.of_eq rfl rfl)
  | crashed hs hc hi h =>
    exact .trans (.off (BcState.not_enabled_of_disconnected rfl)) h.staysConnected
  | noCall h₁ hs h₂ => exact .refl _
  | already h => exact .refl _
  | _ => exact .of_eq rfl rfl

/-- Only a response that reports success connects. -/
theorem ProtoStep.staysConnected (h : ProtoStep k op v o v')
    (hn : ∀ cmd, op = .recv cmd → ¬ SsiSuccessWord cmd) : StaysConnected v.bc v'.bc := by
  cases h with
  | @recv cmd v v' o h =>
    cases h with
    | control hd e h tstamp he =>
      exact h.staysConnected fun ht hr => hn cmd rfl ⟨⟨hd, ht⟩, hr⟩
    | testRamp hd ht h => cases h <;> exact .of_eq rfl rfl
    | csError hd ht e he => exact .off (BcState.not_enabled_of_disconnected rfl)
    | _ => exact .of_eq rfl rfl
  | callStatus h => exact h.staysConnected.trans (.of_eq rfl rfl)
  | error h => exact h.staysConnected
  | sendTiming h => exact h.staysConnected
  | sendSsi h => exact h.staysConnected
  | testReq h =>
    cases h with
    | full hs n hw => exact .off rfl
    | _ => exact .of_eq rfl rfl
  | dlAcquireTest hs => exact .off (BcState.not_enabled_of_disconnected rfl)
  | dlReleaseReply hp h => exact h.staysConnected
  | ulReleaseReply hp h => exact h.staysConnected
  | _ => exact .of_eq rfl rfl

/-- A response that reports success, from a state that agrees. -/
theorem SsiResp.layoutAgrees_iff {resp : SsiConfigResp} (h : SsiResp k resp v o v')
    (hr : resp.result = ssiConfigResSuccess) {g : Option ℤ} (hg : ∀ l ∈ g, l ≠ -1)
    (ha : LayoutAgrees v.bc g) :
    LayoutAgrees v'.bc (enteredWith g resp v.bc.protoState v'.bc.protoState) ↔
      ¬ v.bc.Misses g resp := by
  -- a response that connects
  have hconn (hs : v'.bc.protoState = .connected)
      (hl : v'.bc.sampleLayout = v.bc.layoutAfter resp)
      (hp : v.bc.privState = .connecting ∨
        v.bc.privState = .ssiConfigPend ∧ v.bc.callServerActive = false) :
      LayoutAgrees v'.bc (enteredWith g resp v.bc.protoState v'.bc.protoState) ↔
        ¬ v.bc.Misses g resp := by
    have hon : v'.bc.isSsiConnectionEnabled = true :=
      v'.bc.isSsiConnectionEnabled_iff.mpr (Or.inl hs)
    rw [LayoutAgrees, hl, imp_iff_right hon, hs]
    constructor
    · rintro ⟨heq, -⟩ hm
      exact hm.layout heq
    · intro hm
      have heq : enteredWith g resp v.bc.protoState .connected = some (v.bc.layoutAfter resp) :=
        not_not.mp fun hne => hm ⟨hp, hne⟩
      refine ⟨heq, ?_⟩
      unfold enteredWith at heq
      split at heq
      · exact Option.some.inj heq ▸ resp.sampleLayout_ne
      · exact hg _ heq
  have hoff (hs : v'.bc.protoState = .disconnected) {g' : Option ℤ} : LayoutAgrees v'.bc g' := by
    intro hon
    rw [BcState.not_enabled_of_disconnected hs] at hon
    cases hon
  cases h with
  | connected _ hp => exact hconn rfl (by simp [BcState.layoutAfter, hp]) (Or.inl hp)
  | disconnected _ hp =>
    refine iff_of_true (hoff rfl) ?_
    rintro ⟨hc | ⟨hc, -⟩, -⟩ <;> simp [hp] at hc
  | reconnect _ hp hc hq =>
    refine iff_of_true (hoff rfl) ?_
    rintro ⟨hc' | ⟨-, hc'⟩, -⟩
    · simp [hp] at hc'
    · simp [hc] at hc'
  | redisconnect _ hp hc hq =>
    exact hconn rfl (by simp [BcState.layoutAfter, hp, hq.sampleLayout]) (Or.inr ⟨hp, hc⟩)
  | ignored _ h₁ h₂ h₃ =>
    refine iff_of_true ?_ fun hm => hm.connects.elim h₁ fun hc => h₃ hc.1
    rw [enteredWith, if_neg fun hs => by simp [hs.1] at hs]
    exact ha
  | errorPending hn => exact absurd hr hn
  | error hn => exact absurd hr hn

end Protocol

/-! ### Runs -/

/-- The layout of a connection is never the unset one. -/
theorem enteredWith_ne {g : Option ℤ} (hg : ∀ l ∈ g, l ≠ -1) (resp : SsiConfigResp)
    (s t : ProtoState) : ∀ l ∈ enteredWith g resp s t, l ≠ -1 := by
  unfold enteredWith
  split
  · intro l hl
    exact Option.some.inj hl ▸ resp.sampleLayout_ne
  · exact hg

theorem entryLayout_noEvent (g : Option ℤ) (o : Obs) (ho : o.event? = none) :
    entryLayout g o = g := by
  cases o with
  | queued e => cases ho
  | _ => rfl

theorem eventMsg_ne_ssiConfigResp {cmd : Cmd} (ht : msgGetType cmd ≠ ssiConfigResp)
    {tstamp : Timespec} {resp : SsiConfigResp} {version : BitVec 8} :
    eventMsg cmd tstamp ≠ .ssiConfigResp resp version := by
  unfold eventMsg
  rw [if_neg ht]
  repeat' split
  all_goals simp

/-- The event of a word moves the layout of the connection only for a response that reports
success. -/
theorem entryLayout_reports {g : Option ℤ} {e : Event} {cmd : Cmd} {tstamp : Timespec}
    {s t : ProtoState} (he : Reports e (eventType cmd) (eventMsg cmd tstamp) s t) :
    entryLayout g (.queued e) =
      if msgGetType cmd = ssiConfigResp ∧
          (msgDecodeSsiConfigResp cmd).result = ssiConfigResSuccess then
        enteredWith g (msgDecodeSsiConfigResp cmd) s t
      else g := by
  rw [entryLayout, he.msg, he.prevState, he.state]
  by_cases ht : msgGetType cmd = ssiConfigResp
  · simp [eventMsg, ht]
  · rw [if_neg fun h => ht h.1]
    split
    · next heq => exact absurd heq (eventMsg_ne_ssiConfigResp ht)
    · rfl

/-- One step keeps the layout at the one of the entry if and only if it does not miss it. -/
theorem layoutAgrees_next {m : Machine} {i : Step} {g : Option ℤ} (hg : ∀ l ∈ g, l ≠ -1)
    (ha : LayoutAgrees m.bcstate g) :
    (∀ l ∈ (nokiamodem.next m i).2.foldl entryLayout g, l ≠ -1) ∧
      (LayoutAgrees (nokiamodem.next m i).1.bcstate ((nokiamodem.next m i).2.foldl entryLayout g) ↔
        ¬ MissesLayout m.bcstate g i.2) := by
  obtain ⟨k, op⟩ := i
  have hstep : ProtoStep k op m.view _ (nokiamodem.next m (k, op)).1.view :=
    nokiamodem_refines m (k, op)
  rw [foldl_events entryLayout_noEvent]
  -- what connects nothing keeps the layout
  have hkeep (hn : ∀ cmd, op = .recv cmd → ¬ SsiSuccessWord cmd) :
      LayoutAgrees (nokiamodem.next m (k, op)).1.bcstate g := by
    intro hon
    obtain ⟨hon', hl⟩ := hstep.staysConnected hn hon
    rw [show (nokiamodem.next m (k, op)).1.bcstate.sampleLayout = _ from hl]
    exact ha hon'
  by_cases hop : ∃ cmd, op = .recv cmd
  · obtain ⟨cmd, rfl⟩ := hop
    obtain ⟨es, hes, -, hev⟩ := next_recvEvents m k cmd
    rw [hes]
    have hword (hn : ¬ SsiSuccessWord cmd) :
        LayoutAgrees (nokiamodem.next m (k, .recv cmd)).1.bcstate g ↔
          ¬ MissesLayout m.bcstate g (.recv cmd) := by
      refine iff_of_true (hkeep ?_) fun hm => hn hm.1
      rintro _ ⟨⟩
      exact hn
    cases hev with
    | control hd hu ht hc e tstamp he =>
      rw [List.map_cons, List.foldl_cons, List.map_nil, List.foldl_nil, entryLayout_reports he]
      by_cases hw : msgGetType cmd = ssiConfigResp ∧
          (msgDecodeSsiConfigResp cmd).result = ssiConfigResSuccess
      · rw [if_pos hw]
        refine ⟨enteredWith_ne hg _ _ _, ?_⟩
        obtain ⟨v₁, hssi, hv₁⟩ := hc.ssiResp_inv k hw.1
        have hbc : (nokiamodem.next m (k, .recv cmd)).1.view.bc = v₁.bc := by
          rw [hv₁, afterSsiResp_bc]
        rw [show (nokiamodem.next m (k, .recv cmd)).1.bcstate = _ from hbc, hbc,
          hssi.layoutAgrees_iff hw.2 hg ha]
        exact not_congr (and_iff_right ⟨⟨hd, hw.1⟩, hw.2⟩).symm
      · rw [if_neg hw]
        exact ⟨hg, hword fun hs => hw ⟨hs.1.2, hs.2⟩⟩
    | csError hd ht e he hv =>
      rw [List.map_cons, List.foldl_cons, List.map_nil, List.foldl_nil, entryLayout, he.msg]
      refine ⟨hg, hword fun hs => ?_⟩
      exact absurd (hd.symm.trans hs.1.1) (by decide)
    | silent hw hs =>
      refine ⟨hg, hword fun hs => hw (Or.inl ⟨hs.1.1, ?_⟩)⟩
      rw [hs.1.2]
      decide
  · have hno := not_exists.mp hop
    rw [next_noEvent m k hno]
    refine ⟨hg, iff_of_true (hkeep fun cmd heq => absurd heq (hno cmd)) ?_⟩
    intro hm
    match op, hm with
    | .checkPending true (some cmd), _ => exact hno cmd rfl

/-- **The sample layout is the negotiated one** in every state with a connection, throughout a
run, if and only if no response of the run connects without it. -/
theorem sampleLayout_agrees_iff {m : Machine} (hm : nokiamodem.init m) (is : List Step) :
    (nokiamodem.withGhost none entryLayout).Always (fun p => LayoutAgrees p.1.bcstate p.2)
        (m, none) is ↔
      (nokiamodem.withGhost none entryLayout).Along
        (fun p i => ¬ MissesLayout p.1.bcstate p.2 i.2) (m, none) is := by
  refine Lts.always_iff_along (nokiamodem.withGhost none entryLayout)
    (I := fun p => ∀ l ∈ p.2, l ≠ -1) (P := fun _ _ => True) ?_ ?_ (by simp) ?_
    (Lts.along_true _ _ _)
  · intro p i hi hq _ _
    exact (layoutAgrees_next hi hq).1
  · intro p i hi hq _
    exact (layoutAgrees_next hi hq).2
  · obtain ⟨area, old, rfl⟩ := hm
    intro hon
    simp [cmtspeechOpen, BcState.bcOpen, BcState.isSsiConnectionEnabled] at hon

/-- A call ends before the modem has answered the request to connect for it. -/
def abandonedCallRun : List Step :=
  [(.accepting, .stateChangeCallStatus true), (.accepting, .stateChangeCallStatus false),
    (.accepting, .recv (msgEncodeSsiConfigResp 1 0))]

/-- A run that ends connected, where a layout is due. -/
theorem sampleLayout_agrees_abandonedCall :
    (nokiamodem.withGhost none entryLayout).Always (fun p => LayoutAgrees p.1.bcstate p.2)
        (Machine.fresh, none) abandonedCallRun ↔
      (nokiamodem.withGhost none entryLayout).Along
        (fun p i => ¬ MissesLayout p.1.bcstate p.2 i.2) (Machine.fresh, none)
        abandonedCallRun :=
  sampleLayout_agrees_iff init_fresh abandonedCallRun

/-- Connected, with the layout unset: the call was ended and the connection came about all the
same. -/
theorem sampleLayout_unset :
    nokiamodem.init Machine.fresh ∧
      (∀ i ∈ abandonedCallRun, i.1.WritesSucceed ∧ i.1.IoctlsSucceed) ∧
      (nokiamodem.exec Machine.fresh abandonedCallRun).bcstate.protoState = .connected ∧
      (nokiamodem.exec Machine.fresh abandonedCallRun).bcstate.sampleLayout = -1 ∧
      ¬ (nokiamodem.withGhost none entryLayout).Always
        (fun p => LayoutAgrees p.1.bcstate p.2) (Machine.fresh, none) abandonedCallRun := by
  refine ⟨init_fresh, ?_, by decide, by decide, ?_⟩
  · simp only [abandonedCallRun, List.forall_mem_cons, accepting_writesSucceed,
      accepting_ioctlsSucceed]
    simp
  · intro h
    exact absurd ((h abandonedCallRun List.prefix_rfl) (by decide)).2 (by decide)

end CmtSpeech
