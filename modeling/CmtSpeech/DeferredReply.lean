import CmtSpeech.SpeechConfig
import Mathlib.Data.List.Induction

/-!
# The direction of a deferred reply

Where a `SPEECH_CONFIG_REQ` asked the protocol to go is kept only in `priv_state` until the
reply is written.  While the application holds buffers the reply is deferred, and in this
window requests and notifications overwrite the field.

* `WindowOp` — what may happen in the window.
* `StartsUplink`, `AsksTiming` — what overwrites the field.
* `KeepsDirection` — the windows after which the reply still goes where it was asked to.
* `Window` — the state in the window.

## Main result

* `speechConfig_target_iff`
-/

namespace CmtSpeech

open Protocol

/-- Where a request asks the protocol to go: to `ACTIVE_DL` if it starts a stream, and back to
`CONNECTED` if it ends one. -/
def SpeechConfigReq.target (req : SpeechConfigReq) : ProtoState :=
  if req.speechDataStream ≠ 0 then .activeDl else .connected

/-- A `TIMING_CONFIG_NTF` or an `UPLINK_CONFIG_NTF`.  Either of them starts the uplink: older
firmware of the modem sends only the first. -/
def NtfWord (cmd : Cmd) : Prop :=
  msgGetDomain cmd = domainControl ∧
    (msgGetType cmd = timingConfigNtf ∨ msgGetType cmd = uplinkConfigNtf)

/-- The operations of a window: the words are notifications and those of the data path; no
call, reset or test ramp starts or ends. -/
def WindowOp : Op → Prop
  | .checkPending true (some cmd) =>
    NtfWord cmd ∨ msgGetDomain cmd = domainInternal ∧ msgGetType cmd ≠ csError
  | .stateChangeCallStatus _ | .stateChangeError | .sendSsiConfigRequest _
  | .testDataRampReq _ _ => False
  | _ => True

/-- A notification that the uplink runs.  If one arrives while the reply waits, the library goes
on to `ACTIVE_DLUL` before it has answered. -/
def StartsUplink (i : Step) : Prop := ∃ cmd, i.2 = .recv cmd ∧ NtfWord cmd

/-- A timing request that is written in full.  It changes `priv_state`, which the reply then no
longer finds as the request had left it. -/
def AsksTiming (i : Step) : Prop :=
  i.2 = .sendTimingRequest ∧ (i.1.write 0).res = ctrlLen

/-- The windows a request keeps its direction in: `p` is the state it arrives in, `target`
where it asks to go. -/
def KeepsDirection (p target : ProtoState) (ws : List Step) : Prop :=
  p = .connected ∧ target = .connected ∨
    (p = .activeDl ∧ target = .activeDl ∨ ∀ i ∈ ws, ¬ AsksTiming i) ∧
      (p = .activeDl → ∀ i ∈ ws, ¬ StartsUplink i)

theorem keepsDirection_iff (p target : ProtoState) (ws : List Step) :
    KeepsDirection p target ws ↔
      p = .connected ∧ target = .connected ∨
        (p = .activeDl ∧ target = .activeDl ∨ ¬ ∃ i ∈ ws, AsksTiming i) ∧
          (p = .activeDl → ¬ ∃ i ∈ ws, StartsUplink i) := by
  simp [KeepsDirection]

/-- The state in a window: it was entered in `p` with `mark`; `up` and `timing` are whether
a notification and a timing request have been seen. -/
structure Window (p : ProtoState) (mark : PrivState) (up timing : Prop) (s : BcState) : Prop where
  moved : p = .activeDl → up → s.protoState = .activeDlul
  stays : ¬ (p = .activeDl ∧ up) → s.protoState = p
  kept : ¬ (p = .activeDl ∧ up) → ¬ timing → s.privState = mark
  lost : p = .activeDl ∧ up ∨ timing → ¬ s.privState.SpeechPending

namespace Window

variable {p : ProtoState} {mark : PrivState} {up timing : Prop} {s t : BcState}

/-- An operation that touches neither state leaves the window as it is. -/
theorem of_eq (h : Window p mark up timing s)
    (h₁ : t.protoState = s.protoState) (h₂ : t.privState = s.privState) :
    Window p mark up timing t := by
  obtain ⟨hm, hs, hk, hl⟩ := h
  exact ⟨h₁ ▸ hm, h₁ ▸ hs, h₂ ▸ hk, h₂ ▸ hl⟩

/-- The uplink starts in the window: ACTIVE_DL becomes ACTIVE_DLUL, and the mark of the request is
lost with it. -/
theorem uplink (h : Window p mark up timing s) :
    Window p mark True timing
      (if s.protoState = .activeDl then s.privStateChangeTo (some .activeDlul) .inSync else s) := by
  by_cases hs : s.protoState = .activeDl
  · rw [if_pos hs]
    -- the first notification, in a window entered in `ACTIVE_DL`
    have hp : p = .activeDl := by
      by_cases hu : p = .activeDl ∧ up
      · exact hu.1
      · exact (h.stays hu).symm.trans hs
    refine ⟨?_, ?_, ?_, ?_⟩
    · intro _ _
      rfl
    · intro hn
      exact absurd ⟨hp, trivial⟩ hn
    · intro hn
      exact absurd ⟨hp, trivial⟩ hn
    · intro _
      simp [PrivState.SpeechPending]
  · rw [if_neg hs]
    have hup (hp : p = .activeDl) : up := by
      by_contra hu
      exact hs ((h.stays fun h => hu h.2).trans hp)
    have hn' (hn : ¬ (p = .activeDl ∧ True)) : ¬ (p = .activeDl ∧ up) :=
      fun h => hn ⟨h.1, trivial⟩
    refine ⟨?_, ?_, ?_, ?_⟩
    · intro hp _
      exact h.moved hp (hup hp)
    · intro hn
      exact h.stays (hn' hn)
    · intro hn
      exact h.kept (hn' hn)
    · intro hl
      refine h.lost (hl.imp_left ?_)
      intro hp
      exact ⟨hp.1, hup hp.1⟩

/-- A timing transaction ends in the window: it is not the mark of the request, which stays. -/
theorem endTiming (h : Window p mark up timing s)
    (hmark : mark.SpeechPending) :
    Window p mark up timing
      (if s.privState = .timing then s.privStateChangeTo none .inSync else s) := by
  by_cases hs : s.privState = .timing
  · rw [if_pos hs]
    refine ⟨h.moved, h.stays, ?_, ?_⟩
    · intro hn ht
      have hm : mark = .timing := (h.kept hn ht).symm.trans hs
      rcases hmark with hmark | hmark <;> simp [hm] at hmark
    · intro _
      simp [PrivState.SpeechPending]
  · rwa [if_neg hs]

theorem congr (h : Window p mark up timing s) {up' timing' : Prop} (hu : up ↔ up')
    (ht : timing ↔ timing') : Window p mark up' timing' s := by
  rw [← propext hu, ← propext ht]
  exact h

end Window

namespace Protocol

variable {k : Kernel} {v v' : View} {o : List Obs} {op : Op}

theorem SendTiming.bc_full (h : SendTiming k v o v') (hf : WritesInFull o) :
    v'.bc.protoState = v.bc.protoState ∧ v'.bc.privState = .timing := by
  cases h with
  | full n hw => simp
  | short n hw => simp [hw] at hf

theorem SendTiming.bc_short (h : SendTiming k v o v') (hf : ¬ WritesInFull o) :
    v'.bc.protoState = v.bc.protoState ∧ v'.bc.privState = v.bc.privState := by
  cases h with
  | full n hw => simp [hw] at hf
  | short n hw => simp

variable {p : ProtoState} {mark : PrivState} {up timing : Prop}

/-- A notification in the window: the state may move on to ACTIVE_DLUL, and to no other. -/
theorem Control.window {cmd : Cmd} (h : Control k cmd v o v')
    (hn : msgGetType cmd = timingConfigNtf ∨ msgGetType cmd = uplinkConfigNtf)
    (hmark : mark.SpeechPending) (hw : Window p mark up timing v.bc) :
    Window p mark True timing v'.bc := by
  cases h with
  | uplink ht => exact hw.uplink
  | timing ht => exact hw.uplink.endTiming hmark
  | _ => simp_all

theorem Control.respPend {cmd : Cmd} (h : Control k cmd v o v')
    (hn : msgGetType cmd = timingConfigNtf ∨ msgGetType cmd = uplinkConfigNtf) :
    v'.respPend = v.respPend := by
  cases h with
  | uplink ht => rfl
  | timing ht => rfl
  | _ => simp_all

/-- The words of a window are notifications, or they leave the view as it is. -/
theorem Recv.windowOp {cmd : Cmd} (h : Recv k cmd v o v') (hop : WindowOp (.recv cmd)) :
    (∃ o₁, Control k cmd v o₁ v' ∧ NtfWord cmd) ∨ v' = v ∧ ¬ NtfWord cmd := by
  have hne : domainControl ≠ domainInternal := by decide
  cases h with
  -- In the control domain only the two notifications are allowed in the window.
  | control hd e h tstamp he =>
    exact Or.inl ⟨_, h, hop.resolve_right fun hi => hne (hd.symm.trans hi.1)⟩
  | testRampNoBufs hd ht n hc =>
    obtain ⟨-, hn⟩ := hop.resolve_right fun hi => hne (hd.symm.trans hi.1)
    rcases hn with hn | hn <;> simp [hn] at ht
  | testRamp hd ht h =>
    obtain ⟨-, hn⟩ := hop.resolve_right fun hi => hne (hd.symm.trans hi.1)
    rcases hn with hn | hn <;> simp [hn] at ht
  | csError hd ht e he =>
    rcases hop with hn | hi
    · exact absurd (hn.1.symm.trans hd) hne
    · exact absurd ht hi.2
  | data hd ht => exact Or.inr ⟨rfl, fun hn => hne (hn.1.symm.trans hd)⟩
  | unknown h =>
    refine Or.inr ⟨rfl, ?_⟩
    intro hn
    rcases h with ⟨-, hu⟩ | ⟨hd, -⟩
    · rcases hn.2 with ht | ht
      · exact hu.ne (by decide) ht
      · exact hu.ne (by decide) ht
    · exact hd hn.1

/-- In a window a reply that is deferred was deferred before. -/
theorem ProtoStep.respPend_of_window (h : ProtoStep k op v o v') (hop : WindowOp op)
    (hp : v'.respPend = true) : v.respPend = true := by
  cases h with
  | recv h =>
    rcases h.windowOp hop with ⟨o₁, hc, hn⟩ | ⟨rfl, -⟩
    · exact (hc.respPend hn.2).symm.trans hp
    · exact hp
  | callStatus h => exact absurd hop id
  | error h => exact absurd hop id
  | sendSsi h => exact absurd hop id
  | testReq h => exact absurd hop id
  | sendTiming h => exact h.respPend.symm.trans hp
  | dlReleaseReply hr h => exact hr
  | ulReleaseReply hr h => exact hr
  | _ => exact hp

/-- One operation of a window that leaves the reply deferred. -/
theorem ProtoStep.window (h : ProtoStep k op v o v') (hop : WindowOp op)
    (hp : v'.respPend = true) (hne : p ≠ .testRampPingActive) (hmark : mark.SpeechPending)
    (hw : Window p mark up timing v.bc) :
    Window p mark (up ∨ ∃ cmd, op = .recv cmd ∧ NtfWord cmd)
      (timing ∨ op = .sendTimingRequest ∧ WritesInFull o) v'.bc := by
  have hkeep {t : BcState} (h₁ : t.protoState = v.bc.protoState)
      (h₂ : t.privState = v.bc.privState) (hu : ¬ ∃ cmd, op = .recv cmd ∧ NtfWord cmd)
      (ht : ¬ (op = .sendTimingRequest ∧ WritesInFull o)) :
      Window p mark (up ∨ ∃ cmd, op = .recv cmd ∧ NtfWord cmd)
        (timing ∨ op = .sendTimingRequest ∧ WritesInFull o) t := by
    simp only [hu, ht, or_false]
    exact hw.of_eq h₁ h₂
  cases h with
  | recv h =>
    rcases h.windowOp hop with ⟨o₁, hc, hn⟩ | ⟨rfl, hn⟩
    · exact (hc.window hn.2 hmark hw).congr (by simp [hn]) (by simp)
    · exact hkeep rfl rfl (by simpa using hn) (by simp)
  | nothing h =>
    refine hkeep rfl rfl ?_ (by simp)
    rintro ⟨cmd, heq, -⟩
    cases heq
    simp at h
  | callStatus h => exact absurd hop id
  | error h => exact absurd hop id
  | sendSsi h => exact absurd hop id
  | testReq h => exact absurd hop id
  | sendTiming h =>
    -- written in full it overwrites the mark, otherwise it leaves the state alone
    by_cases hf : WritesInFull o
    · obtain ⟨h₁, h₂⟩ := h.bc_full hf
      simp only [reduceCtorEq, false_and, exists_false, or_false]
      refine ⟨h₁ ▸ hw.moved, h₁ ▸ hw.stays, ?_, ?_⟩
      · intro _ hn
        exact absurd (Or.inr ⟨trivial, hf⟩) hn
      · intro _
        simp [h₂, PrivState.SpeechPending]
    · obtain ⟨h₁, h₂⟩ := h.bc_short hf
      exact hkeep h₁ h₂ (by simp) fun h => hf h.2
  | dlAcquireTest hs =>
    -- no test ramp runs in a window
    by_cases hu : p = .activeDl ∧ up
    · simp [hw.moved hu.1 hu.2] at hs
    · exact absurd ((hw.stays hu).symm.trans hs) hne
  | dlReleaseReply hr h => simp [h.respPend] at hp
  | ulReleaseReply hr h => simp [h.respPend] at hp
  | _ => exact hkeep rfl rfl (by simp) (by simp)

/-- A request that is deferred opens a window: the state stays, and the request is marked in
`priv_state`. -/
theorem Recv.window {cmd : Cmd} (h : Recv k cmd v o v') (hc : SpeechConfigReqWord cmd)
    (hp : v'.respPend = true) :
    Window v.bc.protoState (speechPending (msgDecodeSpeechConfigReq cmd)) False False v'.bc := by
  obtain ⟨o₁, e, -, h⟩ := h.speechConfig_inv k hc.1 hc.2
  cases h with
  | now hr => simp [hr.respPend] at hp
  | defer => constructor <;> simp [speechRequested]

/-- Where a successful reply takes the protocol, by the state it finds and by what `priv_state`
says of the request. -/
def replied (p : ProtoState) (q : PrivState) : ProtoState :=
  if q = .configActPend ∧ (p = .connected ∨ p = .activeDlul) then .activeDl
  else if q = .configDeactPend ∧ (p = .activeDl ∨ p = .activeDlul) then .connected
  else p

theorem Posted.replied (h : Posted k v o v') :
    v'.bc.protoState = replied v.bc.protoState v.bc.privState := by
  cases h with
  | start hs hp ht =>
    have hdl : v'.bc.protoState = .activeDl := ht.protoState
    simp [Protocol.replied, hdl, hs, hp]
  | restart hs hp => simp [Protocol.replied, hs, hp]
  | stop hs hp hc => simp [Protocol.replied, hs, hp]
  | close hs hp hc hq =>
    have hconn : v'.bc.protoState = .connected := hq.protoState
    simp [Protocol.replied, hconn, hs, hp]
  | keep ha hd =>
    rw [Protocol.replied, if_neg, if_neg]
    · rintro ⟨hq, hp⟩
      exact hp.elim (hd hq).1 (hd hq).2
    · rintro ⟨hq, hp⟩
      exact hp.elim (ha hq).1 (ha hq).2

/-- A reply at the end of a window reaches the state that was asked for if and only if the mark of
the request has survived, or the state is there already. -/
theorem Window.replied_eq_target_iff {s : BcState} {req : SpeechConfigReq}
    (h : Window p (speechPending req) up timing s)
    (hp : p = .connected ∨ p = .activeDl ∨ p = .activeDlul) :
    replied s.protoState s.privState = req.target ↔
      p = .connected ∧ req.target = .connected ∨
        (p = .activeDl ∧ req.target = .activeDl ∨ ¬ timing) ∧ (p = .activeDl → ¬ up) := by
  have hact : speechPending req = .configActPend ∧ req.target = .activeDl ∨
      speechPending req = .configDeactPend ∧ req.target = .connected := by
    rw [speechPending, SpeechConfigReq.target]
    split
    · exact Or.inl ⟨rfl, rfl⟩
    · exact Or.inr ⟨rfl, rfl⟩
  by_cases hl : p = .activeDl ∧ up ∨ timing
  · -- the direction is lost, so the reply leaves the state alone
    have hlost : replied s.protoState s.privState = s.protoState := by
      have hq := not_or.mp (h.lost hl)
      simp [replied, hq.1, hq.2]
    rw [hlost]
    by_cases hu : p = .activeDl ∧ up
    · rw [h.moved hu.1 hu.2]
      rcases hact with ⟨-, ht⟩ | ⟨-, ht⟩ <;> simp [ht, hu.1, hu.2]
    · have htm := hl.resolve_left hu
      rw [h.stays hu]
      rcases hp with rfl | rfl | rfl <;> rcases hact with ⟨-, ht⟩ | ⟨-, ht⟩ <;> simp_all
  · obtain ⟨hu, htm⟩ := not_or.mp hl
    rw [h.stays hu, h.kept hu htm]
    rcases hp with rfl | rfl | rfl <;> rcases hact with ⟨hq, ht⟩ | ⟨hq, ht⟩ <;>
      simp_all [replied]

/-- In a window only a release comes to the reply. -/
theorem MayReply.release {respPend : Bool} {i : Kernel × Op} (h : MayReply respPend i.2)
    (hw : WindowOp i.2) (s : BcState) :
    respPend = true ∧ privAtReply s i.2 = s.privState ∧ ¬ StartsUplink i ∧ ¬ AsksTiming i := by
  obtain ⟨k, op⟩ := i
  match op, h, hw with
  | .dlBufferRelease _, h, _ => exact ⟨h, rfl, by simp [StartsUplink], by simp [AsksTiming]⟩
  | .ulBufferRelease _, h, _ => exact ⟨h, rfl, by simp [StartsUplink], by simp [AsksTiming]⟩
  | .checkPending true (some cmd), h, hw =>
    obtain ⟨hd, ht⟩ : SpeechConfigReqWord cmd := h
    rcases hw with ⟨-, hn⟩ | ⟨hi, -⟩
    · rw [ht] at hn
      exact absurd hn (by decide)
    · exact absurd (hd.symm.trans hi) (by decide)

end Protocol

/-- A timing request is the only thing its operation writes. -/
theorem writesInFull_sendTimingRequest (m : Machine) (k : Kernel) :
    WritesInFull (nokiamodem.next m (k, .sendTimingRequest)).2 ↔ (k.write 0).res = ctrlLen := by
  have hw := writesInFull_bcWriteCommand k
    (leafPost_bcPostCommand k _ (Or.inl msgGetType_newTimingConfigReq)) (m := m.begin)
    (by simp [Machine.log])
  rw [← writesInFull_visible]
  show WritesInFull (sendTimingRequest k (bcPostCommand k) m.begin).2.log ↔ _
  rw [sendTimingRequest, bcSendTimingRequest]
  split
  · exact hw
  · exact hw

/-- The state in a window, as long as the reply is deferred. -/
theorem window_exec {m : Machine} {p : ProtoState} {mark : PrivState}
    (hne : p ≠ .testRampPingActive) (hmark : mark.SpeechPending)
    (hm : m.buf.speechConfigRespPend = true → Window p mark False False m.bcstate)
    {ws : List Step} (hw : ∀ i ∈ ws, WindowOp i.2) :
    (nokiamodem.exec m ws).buf.speechConfigRespPend = true →
      Window p mark (∃ i ∈ ws, StartsUplink i) (∃ i ∈ ws, AsksTiming i)
        (nokiamodem.exec m ws).bcstate := by
  -- from the last step back: a reply deferred at the end was deferred all along
  induction ws using List.reverseRecOn with
  | nil =>
    intro hp
    exact (hm hp).congr (by simp) (by simp)
  | append_singleton ws i ih =>
    intro hp
    rw [Lts.exec_append] at hp ⊢
    obtain ⟨k, op⟩ := i
    have hstep : ProtoStep k op _ _ _ := nokiamodem_refines (nokiamodem.exec m ws) (k, op)
    have hop : WindowOp op := hw (k, op) (by simp)
    have hwin := ih (fun i hi => hw i (by simp [hi])) (hstep.respPend_of_window hop hp)
    refine (hstep.window hop hp hne hmark hwin).congr ?_ ?_
    · simp only [List.mem_append, List.mem_singleton, or_and_right, exists_or, exists_eq_left]
      rfl
    · simp only [List.mem_append, List.mem_singleton, or_and_right, exists_or, exists_eq_left]
      refine or_congr_right (and_congr_right ?_)
      intro hop
      cases hop
      rw [Lts.visible, writesInFull_visible, writesInFull_sendTimingRequest]

/-- **A reply goes where the request asked**, however long it was deferred, exactly when the
window between the two keeps the direction.  The run is a `SPEECH_CONFIG_REQ` and the window
after it, and the last step writes the reply. -/
theorem speechConfig_target_iff {m : Machine} (hm : m.bcstate.isSsiConnectionEnabled = true)
    {k : Kernel} {cmd : Cmd} (hc : SpeechConfigReqWord cmd) {ws : List Step}
    (hw : ∀ i ∈ ws, WindowOp i.2) {is : List Step} {i : Step}
    (hrun : (k, .recv cmd) :: ws = is ++ [i]) {msg : Cmd} {s : BcState}
    (hs : .posted msg s ∈ (nokiamodem.next (nokiamodem.exec m is) i).2)
    (hk : msg.kind = .speechConfigResp 0) :
    s.protoState = (msgDecodeSpeechConfigReq cmd).target ↔
      KeepsDirection m.bcstate.protoState (msgDecodeSpeechConfigReq cmd).target ws := by
  have hp : m.bcstate.protoState = .connected ∨ m.bcstate.protoState = .activeDl ∨
      m.bcstate.protoState = .activeDlul := by
    exact (BcState.isSsiConnectionEnabled_iff _).mp hm
  have hstep : ProtoStep i.1 i.2 _ _ _ := nokiamodem_refines (nokiamodem.exec m is) i
  have hvis : Obs.posted msg s ∈ nokiamodem.visible Obs.visible (nokiamodem.exec m is) i := by
    simpa [Lts.visible, Obs.visible] using hs
  obtain ⟨hmay, v₀, o₀, hr, hm₀, hbc⟩ := hstep.reply_inv hvis hk
  obtain ⟨-, o₁, v₁, hpost, rfl⟩ := (hr.posted hm₀ hk).resolve_right (by simp)
  have hrep := hpost.replied
  rw [hbc] at hrep
  rw [BcState.written_protoState, hrep, keepsDirection_iff]
  cases is with
  | nil =>
    -- answered at once
    obtain ⟨rfl, rfl⟩ := List.cons.inj hrun
    refine Window.replied_eq_target_iff ?_ hp
    constructor <;> simp [Machine.view, privAtReply]
  | cons j js =>
    obtain ⟨rfl, rfl⟩ := List.cons.inj hrun
    obtain ⟨hresp, hpriv, hup, htm⟩ := MayReply.release hmay (hw i (by simp))
      (nokiamodem.exec m ((k, .recv cmd) :: js)).bcstate
    -- the window up to the release, and then with the release in it
    have hopen : Window m.bcstate.protoState (speechPending (msgDecodeSpeechConfigReq cmd))
        (∃ i ∈ js, StartsUplink i) (∃ i ∈ js, AsksTiming i)
        (nokiamodem.exec m ((k, .recv cmd) :: js)).bcstate := by
      refine window_exec (m := (nokiamodem.next m (k, .recv cmd)).1) ?_
        (speechPending_cases _) (fun hp' => ?_) (fun j hj => hw j (by simp [hj])) hresp
      · rcases hp with hp | hp | hp <;> simp [hp]
      · exact (ProtoStep.recv_inv k (nokiamodem_refines m (k, .recv cmd))).window hc hp'
    have hreply : Window m.bcstate.protoState (speechPending (msgDecodeSpeechConfigReq cmd))
        (∃ j ∈ js ++ [i], StartsUplink j) (∃ j ∈ js ++ [i], AsksTiming j)
        ((nokiamodem.exec m ((k, .recv cmd) :: js)).bcstate.privStateChangeTo none
          (privAtReply (nokiamodem.exec m ((k, .recv cmd) :: js)).bcstate i.2)) := by
      refine Window.congr (hopen.of_eq (by rfl) hpriv) ?_ ?_
      · simp [or_and_right, exists_or, hup]
      · simp [or_and_right, exists_or, htm]
    exact Window.replied_eq_target_iff hreply hp

/-- The call ends while the buffer is held, and comes to its reply. -/
theorem speechConfig_target_held :
    (nokiamodem.exec (nokiamodem.exec Machine.fresh heldBufferRun)
        [(.accepting, .recv (speechConfigReqMsg false)),
          (.accepting, .ulBufferRelease (some 0))]).bcstate.protoState = .connected ↔
      KeepsDirection .activeDlul .connected [(.accepting, .ulBufferRelease (some 0))] :=
  have hc : SpeechConfigReqWord (speechConfigReqMsg false) := by decide
  have hrun : (Kernel.accepting, Op.recv (speechConfigReqMsg false)) ::
      [(Kernel.accepting, Op.ulBufferRelease (some 0))] =
    [(.accepting, .recv (speechConfigReqMsg false))] ++ [(.accepting, .ulBufferRelease (some 0))] :=
    rfl
  have hk : (msgEncodeSpeechConfigResp 0).kind = .speechConfigResp 0 := by decide
  speechConfig_target_iff (m := nokiamodem.exec Machine.fresh heldBufferRun) (by decide) hc
    (by simp [WindowOp]) hrun (by decide) hk

/-- A timing request of the application while the buffer is held. -/
def timingWindow : List Step :=
  [(.accepting, .sendTimingRequest), (.accepting, .ulBufferRelease (some 0))]

theorem speechConfig_target_lost :
    nokiamodem.init Machine.fresh ∧ (∀ i ∈ timingWindow, WindowOp i.2) ∧
      (nokiamodem.exec Machine.fresh heldBufferRun).bcstate.protoState = .activeDlul ∧
      ¬ ∀ msg s, .posted msg s ∈ nokiamodem.trace (nokiamodem.exec Machine.fresh heldBufferRun)
          ((.accepting, .recv (speechConfigReqMsg false)) :: timingWindow) →
        msg.kind = .speechConfigResp 0 →
        s.protoState = (msgDecodeSpeechConfigReq (speechConfigReqMsg false)).target := by
  refine ⟨init_fresh, by simp [timingWindow, WindowOp], by decide, ?_⟩
  intro h
  have := h (msgEncodeSpeechConfigResp 0)
    (nokiamodem.exec (nokiamodem.exec Machine.fresh heldBufferRun)
      ((.accepting, .recv (speechConfigReqMsg false)) :: timingWindow)).bcstate
    (by decide) (by decide)
  revert this
  decide

end CmtSpeech
