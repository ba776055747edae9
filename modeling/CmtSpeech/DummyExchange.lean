import CmtSpeech.DummyTalk

/-!
# Requests and their responses

What holds of client and thread of the dummy backend in every run, whatever turns they take.

* `Exchange` — a type of request, and the type of message it is answered by.
* `Exchange.pending` — how many exchanges have begun and not come to an end.
* `Conversation.weight` — how many messages can still be heard.

## Main results

* `dummySystem_understood` — no side says what the other one does not understand, but for a ramp
  ping.
* `dummySystem_answered` — a request gets one response.
* `dummySystem_awaited` — the client does not wait for a response that does not come.
* `dummySystem_settles` — when the application says nothing more, the exchange comes to its end.
-/

namespace CmtSpeech

/-- A control message of the type `type`; the internal messages have types of their own. -/
def isControl (type : ℕ) (msg : Cmd) : Bool :=
  msgGetDomain msg = domainControl ∧ msgGetType msg = type

/-- What the client asks for, and the thread answers: a connection or the end of one, and the
timing.  Each has one type of request and one of response. -/
inductive Exchange where
  /-- The link is to be opened or closed. -/
  | ssi
  /-- The timing of the uplink. -/
  | timing
  deriving DecidableEq, Repr

namespace Exchange

variable (e : Exchange)

/-- The type of the request, with which the exchange begins. -/
def request : Exchange → ℕ
  | .ssi => ssiConfigReq
  | .timing => newTimingConfigReq

/-- The type of the response, with which the exchange ends. -/
def response : Exchange → ℕ
  | .ssi => ssiConfigResp
  | .timing => timingConfigNtf

/-- The client waits for the response, by what `priv_state` says. -/
def Awaited (p : PrivState) : Exchange → Prop
  | .ssi => p.SsiWaits
  | .timing => p = .timing

/-- The client sends a request, so that an exchange begins. -/
def begins : SystemObs → Bool
  | .sends msg => isControl e.request msg
  | _ => false

/-- The client hears a response, so that an exchange ends. -/
def ends : SystemObs → Bool
  | .processed msg _ => isControl e.response msg
  | _ => false

/-- How many exchanges have begun and not come to an end, by the messages on their way. -/
def pending (w : DummySystem) : ℕ :=
  w.requests.countP (isControl e.request) + w.replies.countP (isControl e.response)

/-! ### In the model -/

def asks : Exchange → Request → Bool
  | .ssi, .ssiConfigReq _ _ => true
  | .timing, .newTimingConfigReq => true
  | _, _ => false

def tells : Exchange → Reply → Bool
  | .ssi, .ssiConfigResp => true
  | .timing, .timingConfigNtf => true
  | _, _ => false

theorem isControl_request (r : Request) : isControl e.request r.cmd = e.asks r := by
  cases r with
  | ssiConfigReq version on =>
    have hdomain : msgGetDomain (Request.ssiConfigReq version on).cmd = domainControl :=
      msgGetDomain_ssiConfigReq _ _ _
    have htype : msgGetType (Request.ssiConfigReq version on).cmd = ssiConfigReq :=
      msgGetType_ssiConfigReq _ _ _
    unfold isControl
    rw [hdomain, htype]
    cases e <;> rfl
  | newTimingConfigReq => cases e <;> rfl
  | testRampPing rampstart ramplen =>
    unfold isControl
    rw [msgGetDomain_rampPing, msgGetType_rampPing]
    cases e <;> rfl
  | exitRequest => cases e <;> rfl

theorem isControl_response (p : Reply) : isControl e.response p.cmd = e.tells p := by
  cases p with
  | speechConfigReq on => cases e <;> cases on <;> rfl
  | _ => cases e <;> rfl

/-- How many exchanges are open, by the requests and responses of the model. -/
def opened (c : Conversation) : ℕ :=
  c.requests.countP (fun r => e.asks r) + c.replies.countP (fun p => e.tells p)

theorem pending_eq {w : DummySystem} {c : Conversation} (h : Models w c) :
    e.pending w = e.opened c := by
  have hcoe (p : Cmd → Bool) (l : List Cmd) :
      l.countP p = (l : Multiset Cmd).countP fun msg => p msg := by
    rw [Multiset.coe_countP]
    simp only [Bool.decide_eq_true]
  have hreqs : w.requests.countP (isControl e.request) =
      c.requests.countP (fun r => e.asks r) := by
    rw [hcoe, h.requests, Multiset.countP_map, ← Multiset.countP_eq_card_filter]
    simp only [isControl_request]
  have hreps : w.replies.countP (isControl e.response) =
      c.replies.countP (fun p => e.tells p) := by
    rw [hcoe, h.replies, Multiset.countP_map, ← Multiset.countP_eq_card_filter]
    simp only [isControl_response]
  rw [pending, hreqs, hreps, opened]

/-! ### One step -/

/-- The client never puts a response to the control pipe. -/
theorem countP_tells_emitted (k : DummyKernel) (on : Bool) :
    (emitted k on).countP e.tells = 0 := by
  unfold emitted
  split
  · cases e <;> rfl
  · rfl

theorem countP_tells_reacts {k : DummyKernel} {s s' : BcState} {p : Reply} {asks : List Request}
    {tells : List Reply} (h : Reacts k s p s' asks tells) : tells.countP e.tells = 0 := by
  cases h with
  | connects => exact e.countP_tells_emitted k true
  | recloses => exact e.countP_tells_emitted k true
  | recloseFails => exact e.countP_tells_emitted k true
  | ssiLate =>
    split
    · exact e.countP_tells_emitted k true
    · rfl
  | _ => rfl

theorem countP_tells_calls {s s' : BcState} {asks : List Request} {tells : List Reply}
    (h : Calls s s' asks tells) : tells.countP e.tells = 0 := by
  cases h with
  | hangUp => cases e <;> rfl
  | _ => rfl

/-- The thread answers a request once, and nothing else. -/
theorem countP_tells_answers (state : DummyState) (r : Request) :
    (r.answers state).countP e.tells = (e.asks r).toNat := by
  cases r with
  | newTimingConfigReq =>
    dsimp only [Request.answers]
    split <;> cases e <;> rfl
  | _ => cases e <;> rfl

theorem countP_begins (reqs : List Request) :
    (reqs.map fun r => SystemObs.sends r.cmd).countP e.begins = reqs.countP e.asks := by
  rw [List.countP_map]
  refine List.countP_congr ?_
  intro r _
  show isControl e.request r.cmd = true ↔ _
  rw [isControl_request]

/-- What begins in a step is open after it, and so is what was open before, unless it has come to
its end. -/
theorem opened_step {op : SystemOp} {c c' : Conversation} {out : List SystemObs}
    (h : Converses op c out c') :
    out.countP e.begins + e.opened c = out.countP e.ends + e.opened c' := by
  have hcoe {α : Type} (p : α → Bool) (l : List α) :
      (l : Multiset α).countP (fun a => p a) = l.countP p := by
    rw [Multiset.coe_countP]
    simp only [Bool.decide_eq_true]
  have hsends (reqs : List Request) :
      (reqs.map fun r => SystemObs.sends r.cmd).countP e.ends = 0 := by
    rw [List.countP_map]
    exact List.countP_eq_zero.mpr fun _ _ => Bool.false_ne_true
  cases h with
  -- Nothing is said and nothing is heard, so no exchange begins or ends.
  | quiet op c hquiet =>
    have hzero : out.countP e.begins = 0 ∧ out.countP e.ends = 0 := by
      constructor
      · refine List.countP_eq_zero.mpr fun o ho => ?_
        have := hquiet o ho
        cases o <;> first | exact Bool.false_ne_true | exact absurd this id
      · refine List.countP_eq_zero.mpr fun o ho => ?_
        have := hquiet o ho
        cases o <;> first | exact Bool.false_ne_true | exact absurd this id
    rw [hzero.1, hzero.2]
  | calls hop hcalls =>
    rw [e.countP_begins, hsends, opened, opened]
    simp only [Multiset.countP_add, hcoe, e.countP_tells_calls hcalls]
    omega
  -- The thread turns a request into its response, and the exchange stays open.
  | answers env s reqs reps r state =>
    have hbegins : [SystemObs.handled r.cmd r.result].countP e.begins = 0 := rfl
    have hends : [SystemObs.handled r.cmd r.result].countP e.ends = 0 := rfl
    rw [hbegins, hends, opened, opened]
    simp only [Multiset.countP_add, Multiset.countP_cons, hcoe, e.countP_tells_answers]
    cases e.asks r <;> simp
    omega
  -- The client takes a response, which ends an exchange, and may make requests, which begin new
  -- ones.
  | @reacts k s s' reqs reps p asks tells hreacts =>
    have hbegins : (.processed p.cmd 0 :: asks.map fun r => SystemObs.sends r.cmd).countP e.begins =
        asks.countP e.asks := by
      rw [List.countP_cons_of_neg Bool.false_ne_true, e.countP_begins]
    have hends : (.processed p.cmd 0 :: asks.map fun r => SystemObs.sends r.cmd).countP e.ends =
        (e.tells p).toNat := by
      rw [List.countP_cons, hsends, Nat.zero_add]
      show (if isControl e.response p.cmd then 1 else 0) = _
      rw [isControl_response]
      cases e.tells p <;> rfl
    rw [hbegins, hends, opened, opened]
    simp only [Multiset.countP_add, Multiset.countP_cons, hcoe, e.countP_tells_reacts hreacts]
    cases e.tells p <;> simp <;> omega

end Exchange

/-! ### No errors -/

/-- The thread returns an error for a ramp ping only, and the client for nothing. -/
def SystemObs.Understood : SystemObs → Prop
  | .handled msg res => res < 0 ↔ msgGetType msg = testRampPing
  | .processed _ res => res = 0
  | _ => True

theorem SystemObs.Quiet.understood {o : SystemObs} (h : o.Quiet) : o.Understood := by
  cases o <;> trivial

theorem result_neg_iff (r : Request) :
    r.result < 0 ↔ msgGetType r.cmd = testRampPing := by
  cases r with
  | ssiConfigReq version on =>
    have htype : msgGetType (Request.ssiConfigReq version on).cmd = ssiConfigReq :=
      msgGetType_ssiConfigReq _ _ _
    exact iff_of_false (show ¬ (4 : ℤ) < 0 by decide) (htype ▸ by decide)
  | newTimingConfigReq => decide
  | testRampPing rampstart ramplen =>
    exact iff_of_true (show (-1 : ℤ) < 0 by decide) (msgGetType_rampPing _ _)
  | exitRequest => decide

/-- What is seen of a step is understood: each message that a side processes is one it knows,
apart from the TEST_RAMP_PING. -/
theorem Converses.understood {op : SystemOp} {c c' : Conversation} {out : List SystemObs}
    (h : Converses op c out c') : ∀ o ∈ out, o.Understood := by
  have hsends (reqs : List Request) :
      ∀ o ∈ reqs.map fun r => SystemObs.sends r.cmd, o.Understood := by
    intro o ho
    obtain ⟨r, -, rfl⟩ := List.mem_map.mp ho
    trivial
  cases h with
  | quiet op c hquiet => exact fun o ho => (hquiet o ho).understood
  | calls hop hcalls => exact hsends _
  | answers env s reqs reps r state =>
    intro o ho
    obtain rfl := List.mem_singleton.mp ho
    exact result_neg_iff r
  | reacts k reqs reps hreacts => exact List.forall_mem_cons.mpr ⟨rfl, hsends _⟩

/-- The rules never lead to an invalid protocol state. -/
theorem Reacts.valid {k : DummyKernel} {s s' : BcState} {p : Reply} {asks : List Request}
    {tells : List Reply} (h : Reacts k s p s' asks tells) (hs : s.protoState ≠ .invalid) :
    s'.protoState ≠ .invalid := by
  cases h with
  | timing =>
    rcases bcHandleTimingConfigNtf_cases s with ⟨-, heq⟩ | ⟨-, -, heq⟩ | ⟨-, heq⟩
    · simp [heq]
    · simpa [heq] using hs
    · rwa [heq]
  | _ => simp [*]

theorem StatusCall.valid {res : ℤ} {status : Bool} {s s' : BcState} {asks : List Request}
    (h : StatusCall res s status s' asks) (hs : s.protoState ≠ .invalid) :
    s'.protoState ≠ .invalid := by
  cases h <;> simp [hs]

theorem Calls.valid {s s' : BcState} {asks : List Request} {tells : List Reply}
    (h : Calls s s' asks tells) (hs : s.protoState ≠ .invalid) : s'.protoState ≠ .invalid := by
  cases h with
  | status hstatus => exact hstatus.valid hs
  | hangUp hstatus => exact hstatus.valid hs
  | ramp => simp
  | _ => simpa using hs

/-- The client gets a deferred request through, when it reads the response it has been deferred
for. -/
def DeferredSent (w : DummySystem) : SystemOp → Prop
  | .call (.readEvent k) => w.dummy.bcstate.privState = .ssiConfigPend → k.threadWrite = ctrlLen
  | _ => True

instance (w : DummySystem) : (op : SystemOp) → Decidable (DeferredSent w op)
  | .call (.readEvent _) => inferInstanceAs (Decidable (_ → _))
  | .call (.checkPending _) | .call (.stateChangeCallStatus _ _)
  | .call (.stateChangeCallConnect _) | .call (.setWbPreference _)
  | .call (.testDataRampReq _ _ _) | .call .ulBufferAcquire | .call (.ulBufferRelease _ _)
  | .call .dlBufferAcquire | .call (.dlBufferRelease _ _) | .call .close
  | .clientStep | .threadStep _ => .isTrue trivial

namespace Exchange

variable (e : Exchange)

/-- A `TIMING_CONFIG_NTF` is not waited for when it has come. -/
theorem not_awaited_timing (s : BcState) (h : e.Awaited (bcHandleTimingConfigNtf s).privState) :
    e = .ssi ∧ e.Awaited s.privState := by
  have hne (t : BcState) :
      (if t.privState = .timing then t.privStateChangeTo none .inSync else t).privState ≠
        .timing := by
    split
    · simp
    · next hp => exact hp
  cases e with
  | timing => exact absurd h (hne _)
  | ssi =>
    refine ⟨rfl, ?_⟩
    rcases bcHandleTimingConfigNtf_cases s with ⟨-, heq⟩ | ⟨-, -, heq⟩ | ⟨-, heq⟩
    · rw [heq] at h
      exact absurd h (by simp [Awaited, PrivState.SsiWaits])
    · rw [heq] at h
      exact absurd h (by simp [Awaited, PrivState.SsiWaits])
    · rwa [heq] at h

/-- What the client waits for when it has read a message, it has asked for now, or it waits for
it still. -/
theorem awaited_reacts {k : DummyKernel} {s s' : BcState} {p : Reply} {asks : List Request}
    {tells : List Reply} (h : Reacts k s p s' asks tells)
    (hk : s.privState = .ssiConfigPend → k.threadWrite = ctrlLen) (hw : e.Awaited s'.privState) :
    0 < asks.countP e.asks ∨ e.Awaited s.privState ∧ e.tells p = false := by
  cases h with
  | timing =>
    obtain ⟨rfl, hwaits⟩ := e.not_awaited_timing s hw
    exact .inr ⟨hwaits, rfl⟩
  | _ => cases e <;> simp_all [Awaited, PrivState.SsiWaits, Exchange.asks, Exchange.tells]

theorem awaited_callStatus {res : ℤ} {status : Bool} {s s' : BcState} {asks : List Request}
    (h : StatusCall res s status s' asks) (hw : e.Awaited s'.privState) :
    0 < asks.countP e.asks ∨ e.Awaited s.privState := by
  cases h <;> cases e <;> simp_all [Awaited, PrivState.SsiWaits, Exchange.asks]

theorem awaited_calls {s s' : BcState} {asks : List Request} {tells : List Reply}
    (h : Calls s s' asks tells) (hw : e.Awaited s'.privState) :
    0 < asks.countP e.asks ∨ e.Awaited s.privState := by
  cases h with
  | status hstatus => exact e.awaited_callStatus hstatus hw
  | hangUp hstatus => exact e.awaited_callStatus hstatus hw
  | ramp => cases e <;> simp [Awaited, PrivState.SsiWaits] at hw
  | _ => exact .inr hw

/-- What is waited for is on its way, and stays so: a step that makes the client wait has asked. -/
theorem pending_of_awaited_step {op : SystemOp} {c c' : Conversation} {out : List SystemObs}
    (hconv : Converses op c out c')
    (hk : ∀ k, op = .call (.readEvent k) → c.bcstate.privState = .ssiConfigPend →
      k.threadWrite = ctrlLen)
    (hc : e.Awaited c.bcstate.privState → 0 < e.opened c)
    (hw : e.Awaited c'.bcstate.privState) : 0 < e.opened c' := by
  have hcoe {α : Type} (p : α → Bool) (l : List α) :
      (l : Multiset α).countP (fun a => p a) = l.countP p := by
    rw [Multiset.coe_countP]
    simp only [Bool.decide_eq_true]
  cases hconv with
  | quiet => exact hc hw
  | calls hop hcalls =>
    rw [opened] at hc ⊢
    simp only [Multiset.countP_add, hcoe]
    rcases e.awaited_calls hcalls hw with hasks | hwaits
    · omega
    · have := hc hwaits
      omega
  | answers env s reqs reps r state =>
    have hopened := hc hw
    rw [opened] at hopened ⊢
    simp only [Multiset.countP_add, Multiset.countP_cons, hcoe, e.countP_tells_answers] at hopened ⊢
    cases hr : e.asks r <;> simp [hr] at hopened ⊢
    all_goals omega
  | @reacts k s s' reqs reps p asks tells hreacts =>
    rw [opened] at hc ⊢
    simp only [Multiset.countP_add, Multiset.countP_cons, hcoe] at hc ⊢
    -- Whoever awaits a response after the step has asked in it, or awaited it before, and then the
    -- message that was processed is not the response.
    rcases e.awaited_reacts hreacts (hk k rfl) hw with hasks | ⟨hwaits, hp⟩
    · omega
    · have := hc hwaits
      rw [hp] at this
      simp at this
      omega

end Exchange

/-- How many messages can come of a request, with itself: those that are said in answer to it, and
in answer to these.  That there is such a number is why every conversation ends. -/
def Request.weight : Request → ℕ
  | .ssiConfigReq _ _ => 6
  | .newTimingConfigReq => 3
  | .testRampPing _ _ => 1
  | .exitRequest => 1

/-- How many messages can come of a message to the client, with itself. -/
def Reply.weight : Reply → ℕ
  | .ssiConfigResp => 5
  | .uplinkConfigNtf => 1
  | .timingConfigNtf => 1
  | .speechConfigReq true => 4
  | .speechConfigReq false => 7

/-- What can come of a request that is deferred. -/
def PrivState.weight (p : PrivState) : ℕ := if p = .ssiConfigPend then 6 else 0

theorem Request.weight_pos (r : Request) : 1 ≤ r.weight := by
  cases r <;> simp [weight]

theorem Request.weight_le (r : Request) : r.weight ≤ 7 := by
  cases r <;> simp [weight]

theorem Reply.weight_pos (p : Reply) : 1 ≤ p.weight := by
  cases p with
  | speechConfigReq on => cases on <;> decide
  | _ => decide

theorem Reply.weight_le (p : Reply) : p.weight ≤ 7 := by
  cases p with
  | speechConfigReq on => cases on <;> decide
  | _ => decide

/-- How many messages can still be heard: what can come of all that are on their way, and of a
request that is deferred.  Every message that is heard makes it less. -/
def Conversation.weight (c : Conversation) : ℕ :=
  (c.requests.map Request.weight).sum + (c.replies.map Reply.weight).sum +
    c.bcstate.privState.weight

/-- A side hears a message: the thread in its pipe, the client by `cmtspeech_read_event`. -/
def SystemObs.isHeard : SystemObs → Bool
  | .handled _ _ => true
  | .processed _ _ => true
  | _ => false

theorem weight_answers (state : DummyState) (r : Request) :
    ((r.answers state).map Reply.weight).sum + 1 ≤ r.weight := by
  cases r with
  | newTimingConfigReq =>
    dsimp only [Request.answers]
    split <;> decide
  | _ => simp [Request.answers, Request.weight, Reply.weight]

theorem weight_emitted (k : DummyKernel) (on : Bool) :
    ((emitted k on).map Reply.weight).sum ≤ (Reply.speechConfigReq on).weight := by
  unfold emitted
  split
  · simp
  · simp

/-- A message the client hears weighs more than what it says to it. -/
theorem weight_reacts {k : DummyKernel} {s s' : BcState} {p : Reply} {asks : List Request}
    {tells : List Reply} (h : Reacts k s p s' asks tells) :
    (asks.map Request.weight).sum + (tells.map Reply.weight).sum + s'.privState.weight + 1 ≤
      p.weight + s.privState.weight := by
  have hemitted := weight_emitted k true
  cases h with
  | timing =>
    rcases bcHandleTimingConfigNtf_cases s with ⟨-, heq⟩ | ⟨-, -, heq⟩ | ⟨-, heq⟩
    · simp [heq, PrivState.weight, Reply.weight]
    · simp [heq, PrivState.weight, Reply.weight]
    · rw [heq]
      simp [Reply.weight, Nat.add_comm]
  | ssiLate h =>
    have hsum : ((if s.protoState = .connected then emitted k true else []).map
        Reply.weight).sum ≤ 4 := by
      split
      · exact hemitted
      · simp
    simp only [List.map_nil, List.sum_nil, Reply.weight]
    omega
  | _ => simp_all [PrivState.weight, Reply.weight, Request.weight] <;> omega

/-- A step in which the application says nothing: what is heard in it is paid for by the weight. -/
theorem weight_step {op : SystemOp} {c c' : Conversation} {out : List SystemObs}
    (h : Converses op c out c') (hop : ∀ op', op = .call op' → ¬ op'.Speaks) :
    out.countP SystemObs.isHeard + c'.weight ≤ c.weight := by
  have hsum {α : Type} (f : α → ℕ) (l : List α) :
      ((l : Multiset α).map f).sum = (l.map f).sum := by
    rw [Multiset.map_coe, Multiset.sum_coe]
  cases h with
  | quiet op c hquiet =>
    have hzero : out.countP SystemObs.isHeard = 0 := by
      refine List.countP_eq_zero.mpr ?_
      intro o ho
      have := hquiet o ho
      cases o <;> first | exact Bool.false_ne_true | exact absurd this id
    omega
  | calls hspeaks hcalls => exact absurd hspeaks (hop _ rfl)
  -- An answer weighs less than the request it answers.
  | answers env s reqs reps r state =>
    have hanswers := weight_answers state r
    simp only [Conversation.weight, Multiset.map_add, Multiset.sum_add, Multiset.map_cons,
      Multiset.sum_cons, hsum, List.countP_singleton, SystemObs.isHeard, if_true]
    omega
  -- The requests that a message leads to weigh less than the message.
  | @reacts k s s' reqs reps p asks tells hreacts =>
    have hweight := weight_reacts hreacts
    have hsends : (asks.map fun r => SystemObs.sends r.cmd).countP SystemObs.isHeard = 0 := by
      rw [List.countP_map]
      exact List.countP_eq_zero.mpr fun _ _ => Bool.false_ne_true
    rw [List.countP_cons_of_pos rfl, hsends]
    simp only [Conversation.weight, Multiset.map_add, Multiset.sum_add, Multiset.map_cons,
      Multiset.sum_cons, hsum]
    omega

/-- What can be heard is bounded by what is on its way. -/
theorem weight_bounds {w : DummySystem} {c : Conversation} (h : Models w c) :
    w.requests.length + w.replies.length ≤ c.weight ∧
      c.weight ≤ 7 * (w.requests.length + w.replies.length) + 6 := by
  have hcard {α : Type} (f : α → ℕ) (hf : ∀ a, 1 ≤ f a ∧ f a ≤ 7) (m : Multiset α) :
      Multiset.card m ≤ (m.map f).sum ∧ (m.map f).sum ≤ 7 * Multiset.card m := by
    induction m using Multiset.induction with
    | empty => simp
    | cons a m ih =>
      have := hf a
      rw [Multiset.map_cons, Multiset.sum_cons, Multiset.card_cons]
      omega
  have hreqs : w.requests.length = Multiset.card c.requests := by
    rw [← Multiset.card_map Request.cmd, ← h.requests, Multiset.coe_card]
  have hreps : w.replies.length = Multiset.card c.replies := by
    rw [← Multiset.card_map Reply.cmd, ← h.replies, Multiset.coe_card]
  have hpend : c.bcstate.privState.weight ≤ 6 := by
    unfold PrivState.weight
    split <;> decide
  have hsum₁ := hcard Request.weight (fun r => ⟨r.weight_pos, r.weight_le⟩) c.requests
  have hsum₂ := hcard Reply.weight (fun p => ⟨p.weight_pos, p.weight_le⟩) c.replies
  unfold Conversation.weight
  omega

end CmtSpeech
