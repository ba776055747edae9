import CmtSpeech.Wakeline
import CmtSpeech.WellFormed

/-!
# One SSI configuration at a time

How many `SSI_CONFIG_REQ` are on their way, against the marks `priv_state` keeps of them.
A call status may send another request although one is marked; a `SPEECH_CONFIG_REQ`, a
timing request and a test ramp overwrite the mark.

* `InFlight` — at most one request is on its way, and it is marked.
* `Overlaps` — the steps that send a second request, or forget the first.

## Main result

* `ssiOutstanding_le_one` — in runs whose writes succeed, at most one request is on its way
  as long as no step overlaps.
-/

namespace CmtSpeech

open Protocol

/-- At most one of the requests on their way, `n` in number, and a mark for it: while one is on
its way, the library is in a state in which it waits for the answer, or waits for a reset. -/
structure InFlight (s : BcState) (n : ℕ) : Prop where
  le_one : n ≤ 1
  marked : n = 1 → s.privState.SsiPending ∨ s.protoState = .invalid

namespace InFlight

variable {s t : BcState} {n : ℕ}

theorem zero (s : BcState) : InFlight s 0 := ⟨Nat.zero_le 1, fun h => absurd h Nat.zero_ne_one⟩

theorem one (h : s.privState.SsiPending ∨ s.protoState = .invalid) : InFlight s 1 :=
  ⟨le_rfl, fun _ => h⟩

/-- Nothing is on its way in a state without a mark. -/
theorem eq_zero (h : InFlight s n) (hp : ¬ s.privState.SsiPending) (hs : s.protoState ≠ .invalid) :
    n = 0 := by
  have hn : n ≠ 1 := fun hn => (h.marked hn).elim hp hs
  have := h.le_one
  omega

/-- Marks other than those of a request may be cleared. -/
theorem clear (h : InFlight s n) (hp : ¬ s.privState.SsiPending)
    (hs : t.protoState = s.protoState) : InFlight t n :=
  ⟨h.le_one, fun h1 => Or.inr (hs ▸ (h.marked h1).resolve_left hp)⟩

theorem congr (h : InFlight s n) (h₁ : t.protoState = s.protoState)
    (h₂ : t.privState = s.privState) : InFlight t n :=
  ⟨h.le_one, h₁ ▸ h₂ ▸ h.marked⟩

end InFlight

/-- No observation raises the number of requests above one. -/
abbrev AtMostOne (n : ℕ) (o : Obs) : Prop := n ≤ 1 → ssiOutstanding n o ≤ 1

/-- What an operation that leaves `s` does to the requests on their way: there is at most one
after each of its messages, and not only at its end. -/
structure KeepsOne (n : ℕ) (o : List Obs) (s : BcState) : Prop where
  each : Lts.Each ssiOutstanding AtMostOne n o
  inFlight : InFlight s (o.foldl ssiOutstanding n)

/-- No request is written and none is answered: the observations leave the number of requests as
it is. -/
def Idle (o : List Obs) : Prop := ∀ x ∈ o, ∀ n, ssiOutstanding n x = n

theorem Idle.foldl {o : List Obs} (h : Idle o) (n : ℕ) : o.foldl ssiOutstanding n = n := by
  induction o with
  | nil => rfl
  | cons x o ih =>
    rw [List.foldl_cons, h x List.mem_cons_self]
    exact ih fun y hy => h y (List.mem_cons_of_mem x hy)

theorem Idle.each {o : List Obs} (h : Idle o) (n : ℕ) : Lts.Each ssiOutstanding AtMostOne n o := by
  induction o with
  | nil => trivial
  | cons x o ih =>
    rw [Lts.each_cons, AtMostOne, h x List.mem_cons_self]
    exact ⟨id, ih fun y hy => h y (List.mem_cons_of_mem x hy)⟩

theorem Idle.keepsOne {o : List Obs} (h : Idle o) {n : ℕ} {s : BcState} (hn : InFlight s n) :
    KeepsOne n o s := ⟨h.each n, (h.foldl n).symm ▸ hn⟩

/-- A silent part before another one adds no request and no response. -/
theorem KeepsOne.after {o₁ o₂ : List Obs} {n : ℕ} {s : BcState} (h₁ : Idle o₁)
    (h₂ : KeepsOne n o₂ s) : KeepsOne n (o₁ ++ o₂) s := by
  refine ⟨?_, ?_⟩
  · rw [Lts.each_append, h₁.foldl]
    exact ⟨h₁.each n, h₂.each⟩
  · rw [List.foldl_append, h₁.foldl]
    exact h₂.inFlight

/-- A silent part after another one adds none either, as long as it leaves the state. -/
theorem KeepsOne.before {o₁ o₂ : List Obs} {n : ℕ} {s t : BcState} (h₁ : KeepsOne n o₁ s)
    (h₂ : Idle o₂) (hp : t.protoState = s.protoState) (hq : t.privState = s.privState) :
    KeepsOne n (o₁ ++ o₂) t := by
  refine ⟨?_, ?_⟩
  · rw [Lts.each_append]
    exact ⟨h₁.each, h₂.each _⟩
  · rw [List.foldl_append, h₂.foldl]
    exact h₁.inFlight.congr hp hq

@[simp] theorem idle_nil : Idle [] := by
  simp [Idle]

@[simp] theorem idle_cons (x : Obs) (o : List Obs) :
    Idle (x :: o) ↔ (∀ n, ssiOutstanding n x = n) ∧ Idle o := by
  simp [Idle]

@[simp] theorem ssiOutstanding_posted (n : ℕ) (msg : Cmd) (s : BcState) :
    ssiOutstanding n (.posted msg s) = n := rfl

@[simp] theorem ssiOutstanding_queued (n : ℕ) (e : Event) : ssiOutstanding n (.queued e) = n := rfl

@[simp] theorem ssiOutstanding_callStatus (n : ℕ) (b : Bool) :
    ssiOutstanding n (.callStatus b) = n := rfl

theorem ssiOutstanding_other (n : ℕ) {msg : Cmd} (w : WriteRes)
    (h : ∀ b, msg.kind ≠ .ssiConfigReq b) : ssiOutstanding n (.write msg w) = n := by
  rw [ssiOutstanding]
  cases hk : msg.kind with
  | ssiConfigReq b => exact absurd hk (h b)
  | _ => rfl

theorem ssiOutstanding_ssiConfigRequest (n : ℕ) (s : BcState) (b : Bool) {w : WriteRes}
    (hw : w.res = ctrlLen) : ssiOutstanding n (.write (ssiConfigRequest s b) w) = n + 1 := by
  simp [ssiOutstanding, hw]

namespace Protocol

variable {k : Kernel} {v v' : View} {o : List Obs} {op : Op} {n : ℕ}

theorem Send.idle {msg : Cmd} (h : Send k msg v o v') (hm : msg.kind = .other) : Idle o := by
  cases h <;> simp [ssiOutstanding_other, hm]

theorem SendTiming.idle (h : SendTiming k v o v') : Idle o := by
  cases h <;> simp [ssiOutstanding_other]

theorem SendReset.idle (h : SendReset k v o v') : Idle o := by
  cases h <;> simp [ssiOutstanding_other]

theorem ReplyErr.idle (h : ReplyErr k v o v') : Idle o := by
  cases h <;> simp [ssiOutstanding_other]

/-- A request when none is on its way makes one, and the state says so. -/
theorem SendSsi.keepsOne {b : Bool} (hk : k.WritesSucceed) (h : SendSsi k b v o v') :
    KeepsOne 0 o v'.bc := by
  cases h with
  | refused hb hp => exact idle_nil.keepsOne (.zero _)
  | full i hw hr =>
    refine ⟨?_, ?_⟩
    · simp [AtMostOne, ssiOutstanding_ssiConfigRequest _ _ _ hw]
    · simp only [List.foldl_cons, List.foldl_nil, ssiOutstanding_ssiConfigRequest _ _ _ hw,
        ssiOutstanding_posted, zero_add]
      exact .one (Or.inl (by cases b <;> simp [PrivState.SsiPending]))
  | short i hw hr => exact absurd (hk i) hw

/-- A request to close the connection, which is refused when one is on its way. -/
theorem SendSsi.keepsOne_disconnecting (h : SendSsi k false v o v')
    (hp : v.bc.privState = .disconnecting) (hn : InFlight v.bc n) : KeepsOne n o v'.bc := by
  cases h with
  | refused hb hp => exact idle_nil.keepsOne hn
  | full i hw hr => exact absurd ⟨rfl, hp⟩ hr
  | short i hw hr => exact absurd ⟨rfl, hp⟩ hr

theorem Posted.keepsOne (hk : k.WritesSucceed) (h : Posted k v o v') (hn : InFlight v.bc n) :
    KeepsOne n o v'.bc := by
  cases h with
  | start hs hp ht =>
    obtain rfl := hn.eq_zero (by simp [hp, PrivState.SsiPending]) (by simp [hs])
    exact ht.idle.keepsOne (.zero _)
  | restart hs hp =>
    obtain rfl := hn.eq_zero (by simp [hp, PrivState.SsiPending]) (by simp [hs])
    exact idle_nil.keepsOne (.zero _)
  | stop hs hp hc =>
    have hne : v.bc.protoState ≠ .invalid := by rcases hs with hs | hs <;> simp [hs]
    obtain rfl := hn.eq_zero (by simp [hp, PrivState.SsiPending]) hne
    exact idle_nil.keepsOne (.zero _)
  | close hs hp hc hq =>
    have hne : v.bc.protoState ≠ .invalid := by rcases hs with hs | hs <;> simp [hs]
    obtain rfl := hn.eq_zero (by simp [hp, PrivState.SsiPending]) hne
    exact hq.keepsOne hk
  | keep ha hd => exact idle_nil.keepsOne hn

/-- Without a wakeline nothing is on its way, except while the library waits for a reset. -/
theorem invalid_of_wake_eq_zero (hn : InFlight v.bc 1) (hw : v.bc.WellFormed) (hl : v.LineUp)
    (h0 : v.wake = 0) : v.bc.protoState = .invalid := by
  have hline : ¬ v.bc.NeedsLine := fun h => (hl h).ne_zero h0
  rw [BcState.needsLine_iff] at hline
  refine (hn.marked rfl).resolve_left ?_
  intro hp
  rcases hp with hp | hp | hp
  · exact hline (Or.inr (Or.inl hp))
  · exact hline (Or.inl (Or.inl (hw.disconnecting hp)))
  · exact hline (Or.inr (Or.inr hp))

/-- After a reset request nothing depends on the mark. -/
theorem SendReset.keepsOne (hk : k.WritesSucceed) (h : SendReset k v o v')
    (hn : n = 1 → v.bc.privState.SsiPending ∨ v.bc.protoState = .invalid ∨ v.wake ≠ 0)
    (hle : n ≤ 1) : KeepsOne n o v'.bc := by
  refine h.idle.keepsOne ⟨hle, ?_⟩
  intro h1
  cases h with
  | noLine i hl hv =>
    rcases hn h1 with hp | hs | hw
    · exact Or.inl hp
    · exact Or.inr hs
    · exact absurd hv hw
  | full i hw => exact Or.inr rfl
  | short i hw hn => exact absurd (hk i) hw
  | failed i hw hn => exact absurd (hk i) hw

theorem SetupReply.keepsOne (hk : k.WritesSucceed) (h : SetupReply k v o v')
    (hw : v.bc.WellFormed) (hl : v.LineUp) (hn : InFlight v.bc n) : KeepsOne n o v'.bc := by
  cases h with
  | ok i hc hr =>
    cases hr with
    | full i hwr hp =>
      have hidle : Idle [.write (msgEncodeSpeechConfigResp 0) (k.write i)] := by
        simp [ssiOutstanding_other]
      exact KeepsOne.after hidle ((hp.keepsOne hk hn).before (by simp) rfl rfl)
    | short i hwr => exact absurd (hk i) hwr
  | failed i hc hr hs =>
    refine KeepsOne.after hr.idle (hs.keepsOne hk ?_ hn.le_one)
    intro h1
    subst h1
    -- the failed reply erases the mark, but then the wakeline is still up for the reset
    by_cases h0 : v.wake = 0
    · refine Or.inr (Or.inl ?_)
      have hinv := invalid_of_wake_eq_zero hn hw hl h0
      exact hr.protoState.trans hinv
    · refine Or.inr (Or.inr ?_)
      rw [hr.wake]
      exact h0

/-- A `SPEECH_CONFIG_REQ` while no SSI configuration is pending. -/
theorem SpeechConfig.keepsOne {req : SpeechConfigReq} (hk : k.WritesSucceed)
    (h : SpeechConfig k req v o v') (hl : v.LineUp) (hp : ¬ v.bc.privState.SsiPending)
    (hn : InFlight v.bc n) : KeepsOne n o v'.bc := by
  have hn' : InFlight (speechRequested req v).bc n := hn.clear hp rfl
  cases h with
  | now hr =>
    exact hr.keepsOne hk (wellFormed_speechPending v.bc req) (lineUp_speechRequested req hl) hn'
  | defer => exact idle_nil.keepsOne hn'

/-- The response leaves nothing on its way, so another request may follow. -/
theorem SsiResp.keepsOne {resp : SsiConfigResp} (hk : k.WritesSucceed)
    (h : SsiResp k resp v o v') : KeepsOne 0 o v'.bc := by
  have hset {b : Bool} {v₁ : View} {p : ProtoState} (hq : SendSsi k b v o v₁) :
      KeepsOne 0 o (v₁.bc.privStateChangeTo (some p) (ssiPending b)) := by
    obtain ⟨he, hn⟩ := hq.keepsOne hk
    exact ⟨he, hn.le_one, fun _ => Or.inl (by cases b <;> simp [PrivState.SsiPending])⟩
  cases h with
  | reconnect hr hp hc hq => exact hset hq
  | redisconnect hr hp hc hq => exact hset hq
  | errorPending hr hp hs => exact hs.idle.keepsOne (.zero _)
  | error hr h₁ h₂ hs => exact hs.idle.keepsOne (.zero _)
  | _ => exact idle_nil.keepsOne (.zero _)

/-! ### Inbound words -/

/-- An inbound word, and what follows it: the word is counted first, as it may be the response
that was waited for. -/
theorem keepsOne_recv {cmd : Cmd} {s : BcState} (hle : n ≤ 1)
    (h : KeepsOne (ssiOutstanding n (.recv cmd)) o s) : KeepsOne n (.recv cmd :: o) s := by
  refine ⟨⟨?_, h.each⟩, h.inFlight⟩
  intro _
  simp only [ssiOutstanding]
  split
  · exact Nat.zero_le 1
  · split <;> omega

theorem ssiOutstanding_recv (n : ℕ) {cmd : Cmd} (h : AnswersNothing cmd) :
    ssiOutstanding n (.recv cmd) = n := by
  simp only [ssiOutstanding, if_neg h.reset, if_neg h.ssi]

theorem ssiOutstanding_reset (n : ℕ) {cmd : Cmd} (h : ResetWord cmd) :
    ssiOutstanding n (.recv cmd) = 0 := by
  simp only [ssiOutstanding, if_pos h]

theorem Control.keepsOne {cmd : Cmd} (hk : k.WritesSucceed) (h : Control k cmd v o v')
    (hd : msgGetDomain cmd = domainControl) (hl : v.LineUp) (hw : v.bc.WellFormed)
    (hp : SpeechConfigReqWord cmd → ¬ v.bc.privState.SsiPending) (hn : InFlight v.bc n) :
    KeepsOne (ssiOutstanding n (.recv cmd)) o v'.bc := by
  -- a notification moves a stream, and no request is on its way then
  have hstream (hs : v.bc.protoState = .activeDl) : n = 0 :=
    hn.eq_zero (hw.not_ssiPending (by simp [hs]) (by simp [hs])) (by simp [hs])
  cases h with
  | speechConfig ht h =>
    rw [ssiOutstanding_recv n (answersNothing_of_type hd ht (by decide))]
    exact h.keepsOne hk hl (hp ⟨hd, ht⟩) hn
  | uplink ht =>
    rw [ssiOutstanding_recv n (answersNothing_of_type hd ht (by decide)), View.withBc_bc]
    refine idle_nil.keepsOne ?_
    split
    · next hs => exact hstream hs ▸ .zero _
    · exact hn
  | timing ht =>
    rw [ssiOutstanding_recv n (answersNothing_of_type hd ht (by decide)), View.withBc_bc]
    refine idle_nil.keepsOne ?_
    obtain ⟨hs, heq⟩ | ⟨hs, hp, heq⟩ | ⟨hs, heq⟩ := bcHandleTimingConfigNtf_cases v.bc
    · exact hstream hs ▸ .zero _
    · rw [heq]
      exact hn.clear (by simp [hp]) rfl
    · rwa [heq]
  | ssiResp ht h =>
    -- one request at most is on its way, and this word answers it
    have hz : ssiOutstanding n (.recv cmd) = 0 := by
      have := hn.le_one
      have hr : ¬ ResetWord cmd := by simp [ResetWord, hd, ht]
      have hs : SsiConfigRespWord cmd := ⟨hd, ht⟩
      simp only [ssiOutstanding, if_neg hr, if_pos hs]
      omega
    rw [hz, afterSsiResp_bc]
    exact h.keepsOne hk
  | resetReq ht h =>
    rw [ssiOutstanding_reset n (by simp [ResetWord, hd, ht])]
    exact (h.idle (by simp)).keepsOne (.zero _)
  | resetResp ht hp =>
    rw [ssiOutstanding_reset n (by simp [ResetWord, hd, ht])]
    exact idle_nil.keepsOne (.zero _)
  | resetRespConnect ht hp h =>
    rw [ssiOutstanding_reset n (by simp [ResetWord, hd, ht]), View.release_bc]
    exact h.keepsOne hk

theorem Recv.keepsOne {cmd : Cmd} (hk : k.WritesSucceed) (h : Recv k cmd v o v')
    (hw : v.bc.WellFormed) (hl : v.LineUp)
    (hp : SpeechConfigReqWord cmd → ¬ v.bc.privState.SsiPending) (hn : InFlight v.bc n) :
    KeepsOne n o v'.bc := by
  cases h with
  | control hd e h tstamp he =>
    exact keepsOne_recv hn.le_one
      ((h.keepsOne hk hd hl hw hp hn).before (by simp [Idle, ssiOutstanding]) rfl rfl)
  | testRampNoBufs hd ht i hc =>
    refine keepsOne_recv hn.le_one ?_
    rw [ssiOutstanding_recv n (answersNothing_of_type hd ht (by decide))]
    exact idle_nil.keepsOne hn
  | testRamp hd ht h =>
    refine keepsOne_recv hn.le_one ?_
    rw [ssiOutstanding_recv n (answersNothing_of_type hd ht (by decide))]
    exact (h.idle (kind_driverMessage 0)).keepsOne (hn.congr h.protoState h.privState)
  -- A reset of the driver: what was outstanding is not waited for any more.
  | csError hd ht e he =>
    refine keepsOne_recv hn.le_one ?_
    rw [ssiOutstanding_reset n (Or.inr ⟨hd, ht⟩)]
    exact (by simp : Idle [.queued e]).keepsOne (.zero _)
  | data hd ht =>
    refine keepsOne_recv hn.le_one ?_
    rw [ssiOutstanding_recv n (answersNothing_of_data hd ht)]
    exact idle_nil.keepsOne hn
  | unknown h =>
    refine keepsOne_recv hn.le_one ?_
    rw [ssiOutstanding_recv n (answersNothing_of_unknown h)]
    exact idle_nil.keepsOne hn

end Protocol

/-- The steps that send a request while one is on its way, or overwrite its mark.  The mark is all
that the library knows of the request, and there is room for one. -/
def Overlaps (s : BcState) : Op → Prop
  | .stateChangeCallStatus true =>
    s.protoState = .disconnected ∧ (s.privState = .connecting ∨ s.privState = .ssiConfigPend)
  | .stateChangeCallStatus false => s.protoState = .connected ∧ s.privState = .ssiConfigPend
  | .checkPending true (some cmd) => SpeechConfigReqWord cmd ∧ s.privState.SsiPending
  | .sendTimingRequest => s.privState.SsiPending
  | .testDataRampReq _ _ => s.protoState = .disconnected ∧ s.privState.SsiPending
  | _ => False

namespace Protocol

variable {k : Kernel} {v v' : View} {o : List Obs} {op : Op} {n : ℕ}

theorem CallStatus.keepsOne {b : Bool} (hk : k.WritesSucceed) (h : CallStatus k b v o v')
    (hw : v.bc.WellFormed) (ho : ¬ Overlaps v.bc (.stateChangeCallStatus b))
    (hn : InFlight v.bc n) : KeepsOne n o v'.bc := by
  cases h with
  | blocked hp => exact idle_nil.keepsOne (hn.congr rfl rfl)
  | disconnect h₁ hs h =>
    by_cases hp : v.bc.privState = .disconnecting
    · exact h.keepsOne_disconnecting hp hn
    · have hnp : ¬ v.bc.privState.SsiPending := by
        rintro (hq | hq | hq)
        · simp [hw.connecting hq] at hs
        · exact hp hq
        · exact ho ⟨hs, hq⟩
      obtain rfl := hn.eq_zero hnp (by simp [hs])
      exact h.keepsOne hk
  | postpone hs hp =>
    exact idle_nil.keepsOne ⟨hn.le_one, fun _ => Or.inl (Or.inr (Or.inr rfl))⟩
  | connect hs h =>
    -- every mark that goes with `DISCONNECTED` makes the step overlap
    have hnp : ¬ v.bc.privState.SsiPending := by
      rintro (hq | hq | hq)
      · exact ho ⟨hs, Or.inl hq⟩
      · simp [hw.disconnecting hq] at hs
      · exact ho ⟨hs, Or.inr hq⟩
    obtain rfl := hn.eq_zero hnp (by simp [hs])
    exact h.keepsOne hk
  | reconnect hs hp =>
    exact idle_nil.keepsOne ⟨hn.le_one, fun _ => Or.inl (Or.inr (Or.inr rfl))⟩
  | reset hs h =>
    have hnp : ¬ v.bc.privState.SsiPending := by
      refine hw.not_ssiPending ?_ ?_ <;> rcases hs with hs | hs <;> simp [hs]
    refine h.idle.keepsOne ⟨hn.le_one, fun h1 => Or.inr ?_⟩
    have hinv := (hn.marked h1).resolve_left hnp
    cases h <;> first | rfl | exact hinv
  | crashed hs hc hi h =>
    have hnp : ¬ v.bc.privState.SsiPending := by
      refine hw.not_ssiPending ?_ ?_ <;> rcases hs with hs | hs <;> simp [hs]
    obtain rfl := hn.eq_zero hnp (by rcases hs with hs | hs <;> simp [hs])
    exact h.keepsOne hk
  | _ => exact idle_nil.keepsOne hn

/-- A test ramp starts in `DISCONNECTED`, when nothing is on its way. -/
theorem TestReq.keepsOne {msg : Cmd} {ramplen : BitVec 8} (hk : k.WritesSucceed)
    (h : TestReq k msg ramplen v o v') (hm : msg.kind = .other)
    (ho : ¬ (v.bc.protoState = .disconnected ∧ v.bc.privState.SsiPending))
    (hn : InFlight v.bc n) : KeepsOne n o v'.bc := by
  cases h with
  | full hs i hw =>
    have hidle : Idle [.write msg (k.write i), .posted msg v.bc.written] := by
      simp [ssiOutstanding_other, hm]
    obtain rfl := hn.eq_zero (fun hp => ho ⟨hs, hp⟩) (by simp [hs])
    exact hidle.keepsOne (.zero _)
  | short hs i hw => exact absurd (hk i) hw
  | _ => exact idle_nil.keepsOne hn

/-- One operation that does not overlap keeps at most one request on its way. -/
theorem ProtoStep.keepsOne (hk : k.WritesSucceed) (h : ProtoStep k op v o v')
    (hd : NoDirectSsi (k, op)) (hw : v.bc.WellFormed) (hl : v.LineUp)
    (ho : ¬ Overlaps v.bc op) (hn : InFlight v.bc n) : KeepsOne n o v'.bc := by
  cases h with
  | recv h => exact h.keepsOne hk hw hl (fun hc hp => ho ⟨hc, hp⟩) hn
  | setWbPreference h => exact idle_nil.keepsOne (hn.congr rfl rfl)
  | @callStatus b _ _ _ h =>
    have hidle : Idle [.callStatus b] := by simp
    obtain ⟨he, hn'⟩ := h.keepsOne hk hw ho hn
    exact KeepsOne.after hidle ⟨he, hn'.congr rfl rfl⟩
  | callConnect => exact idle_nil.keepsOne (hn.congr rfl rfl)
  | error h =>
    exact h.keepsOne hk (fun h1 => (hn.marked h1).imp_right Or.inl) hn.le_one
  | sendTiming h => exact h.idle.keepsOne (hn.clear ho h.protoState)
  | sendSsi h => exact absurd rfl (hd _)
  | testReq h => exact h.keepsOne hk (kind_testRampMsg _ _) ho hn
  | dlAcquireTest hs =>
    obtain rfl := hn.eq_zero (hw.not_ssiPending (by simp [hs]) (by simp [hs])) (by simp [hs])
    exact idle_nil.keepsOne (.zero _)
  | dlReleaseReply hp h => exact h.keepsOne hk hw hl hn
  | ulReleaseReply hp h => exact h.keepsOne hk hw hl hn
  | _ => exact idle_nil.keepsOne hn

end Protocol

/-- **At most one SSI configuration request is on its way**, at every moment of a run from
`cmtspeech_open` whose writes succeed, as long as no step overlaps. -/
theorem ssiOutstanding_le_one {m : Machine} (hm : nokiamodem.init m) {is : List Step}
    (hk : ∀ i ∈ is, i.1.WritesSucceed) (hd : ∀ i ∈ is, NoDirectSsi i)
    (ho : nokiamodem.Along (fun m i => ¬ Overlaps m.bcstate i.2) m is) :
    ∀ pre, pre <+: nokiamodem.trace m is → pre.foldl ssiOutstanding 0 ≤ 1 := by
  have hall : nokiamodem.Along (fun m i => (i.1.WritesSucceed ∧ NoDirectSsi i) ∧
      ¬ Overlaps m.bcstate i.2) m is := by
    rw [Lts.along_and, nokiamodem.along_forall (fun i => i.1.WritesSucceed ∧ NoDirectSsi i)]
    exact ⟨fun i hi => ⟨hk i hi, hd i hi⟩, ho⟩
  refine (Lts.each_preserves_iff (P := (· ≤ 1)) (Nat.zero_le 1) _).mp ?_
  refine nokiamodem_refines.each
    (I := fun v n => v.bc.WellFormed ∧ v.LineUp ∧ InFlight v.bc n) ssiOutstanding_hidden
    (fun n o hvis => by rw [ssiOutstanding_hidden n o hvis]; exact id)
    (P := fun v i _ => (i.1.WritesSucceed ∧ NoDirectSsi i) ∧ ¬ Overlaps v.bc i.2)
    (fun v n i o v' hI hp h => ?_) ⟨wellFormed_init hm, lineUp_init hm, .zero _⟩ hall
  obtain ⟨hw, hl, hn⟩ := hI
  obtain ⟨⟨hk, hd⟩, ho⟩ := hp
  have hstep : Protocol.ProtoStep i.1 i.2 v o v' := h
  obtain ⟨he, hn'⟩ := hstep.keepsOne hk hd hw hl ho hn
  exact ⟨he, hstep.wellFormed hd hw, hstep.lineUp (hstep.complete hk) hl, hn'⟩

/-- Two calls, the second made after the modem has answered both requests of the first. -/
def twoCallsRun : List Step :=
  [(.accepting, .stateChangeCallStatus true), (.accepting, .recv (msgEncodeSsiConfigResp 1 0)),
    (.accepting, .stateChangeCallStatus false), (.accepting, .recv (msgEncodeSsiConfigResp 1 0)),
    (.accepting, .stateChangeCallStatus true)]

theorem ssiOutstanding_twoCalls :
    (nokiamodem.trace Machine.fresh twoCallsRun).foldl ssiOutstanding 0 ≤ 1 := by
  have hno : nokiamodem.Along (fun m i => ¬ Overlaps m.bcstate i.2) Machine.fresh
      twoCallsRun := by
    refine ⟨?_, ?_, ?_, ?_, ?_, trivial⟩
    · rintro ⟨-, hp | hp⟩ <;> exact absurd hp (by decide)
    · exact fun h => absurd h.1 (by decide)
    · exact fun h => absurd h.2 (by decide)
    · exact fun h => absurd h.1 (by decide)
    · rintro ⟨-, hp | hp⟩ <;> exact absurd hp (by decide)
  exact ssiOutstanding_le_one init_fresh (by simp [twoCallsRun, accepting_writesSucceed])
    (by simp [twoCallsRun, NoDirectSsi]) hno _ List.prefix_rfl

/-- A call that ends and starts again before the modem has answered. -/
def burstRun : List Step :=
  [(.accepting, .stateChangeCallStatus true), (.accepting, .stateChangeCallStatus false),
    (.accepting, .stateChangeCallStatus true)]

theorem ssiOutstanding_two :
    nokiamodem.init Machine.fresh ∧ (∀ i ∈ burstRun, i.1.WritesSucceed) ∧
      (∀ i ∈ burstRun, ∃ b, i.2 = .stateChangeCallStatus b) ∧
      (nokiamodem.trace Machine.fresh burstRun).foldl ssiOutstanding 0 = 2 :=
  ⟨init_fresh, by simp [burstRun, accepting_writesSucceed],
    by simp [burstRun], by decide⟩

end CmtSpeech
