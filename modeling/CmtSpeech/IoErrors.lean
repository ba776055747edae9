import CmtSpeech.SendFailure
import CmtSpeech.SpeechConfig

/-!
# The errors of the control channel

`io_errors` counts the control writes that failed since the last one that was complete.  A
reset of the protocol and a call-status change that a pending reply blocks are excused: they
set the count to 0 and raise it without a write.  The count is lost in two other ways.  It is
set after a message has been post-processed, and post-processing a `SPEECH_CONFIG_RESP` may
write another message: when that write fails, it is not counted.  And the library goes to
`DISCONNECTED` by the function that resets the protocol, also where nobody has asked for a
reset: at the end of a connection, and for a call that finds the one before it crashed.

* `streak` — how many writes have failed in a row.
* `excuses` — the operations after which `io_errors` may count something else.
* `controlStreak` — the backend with the streak.
* `SwallowsFailure` — the steps that do not count a failed write.
* `ClearsErrors` — the steps that set the count to 0 without a complete write.

## Main result

* `ioErrors_streak_iff`
-/

namespace CmtSpeech

open Protocol

/-! ### Streaks -/

/-- One more write: how many have failed since the last complete one, `none` when the count
has been excused since then. -/
def streak (g : Option ℕ) (w : WriteRes) : Option ℕ :=
  if w.res = ctrlLen then some 0 else g.map (· + 1)

/-- The streak after the writes of a trace, begun with the streak `g` before it. -/
def streakOf (g : Option ℕ) (out : List Obs) : Option ℕ :=
  (out.filterMap Obs.writeRes).foldl streak g

/-- A reset of the protocol sets `io_errors` to 0, and a call-status change that a pending reply
blocks counts as an error.  Neither says anything about the control channel, so the streak is
unknown until the next complete write. -/
def excuses (s : BcState) : Op → Bool
  | .checkPending true (some cmd) => decide (ResetWord cmd)
  | .stateChangeCallStatus false => s.privState = .configDeactPend
  | _ => false

/-- A `RESET_CONN_REQ` resets the protocol again after it has been answered. -/
def answersReset : Op → Bool
  | .checkPending true (some cmd) =>
    decide (msgGetDomain cmd = domainControl ∧ msgGetType cmd = resetConnReq)
  | _ => false

/-- The streak after a step: unknown once the step excuses the library from it, and counted on
from there at the next write in full. -/
def streakNext (m : Machine) (i : Step) (g : Option ℕ) : Option ℕ :=
  if answersReset i.2 then none
  else streakOf (if excuses m.bcstate i.2 then none else g) (nokiamodem.next m i).2

/-- The backend with the streak, which is what `io_errors` should be as long as it is known. -/
def controlStreak : Lts (Machine × Option ℕ) Step Obs :=
  nokiamodem.withRecord (some 0) streakNext

/-- `io_errors` is the streak, as far as the streak is known: of a state in which the count has
been excused nothing is said. -/
def Tells (g : Option ℕ) (s : BcState) : Prop := ∀ n, g = some n → s.ioErrors = n

theorem tells_none (s : BcState) : Tells none s := nofun

theorem tells_some (n : ℕ) (s : BcState) : Tells (some n) s ↔ s.ioErrors = n := by
  simp [Tells]

/-- A complete write ends the streak, and the count is 0. -/
theorem tells_full {w : WriteRes} {g : Option ℕ} {s : BcState} (hw : w.res = ctrlLen)
    (hs : s.ioErrors = 0) : Tells (streak g w) s := by
  rw [streak, if_pos hw, tells_some]
  exact hs

/-- A write that is not complete makes the streak longer by one, and the count too. -/
theorem tells_short {w : WriteRes} {g : Option ℕ} {s s' : BcState} (hw : w.res ≠ ctrlLen)
    (h : Tells g s) (hs : s'.ioErrors = s.ioErrors + 1) : Tells (streak g w) s' := by
  rw [streak, if_neg hw]
  cases g with
  | none => exact tells_none s'
  | some n =>
    rw [tells_some] at h
    rw [Option.map_some, tells_some, hs, h]

/-- Where the count has been set back to 0 and `j` writes have failed since, it is the streak
only if the streak is unknown. -/
theorem tells_cleared_iff {g : Option ℕ} {s s' : BcState} {j : ℕ} (hg : Tells g s)
    (hpos : 0 < s.ioErrors) (hs : s'.ioErrors = j) : Tells (g.map (· + j)) s' ↔ g = none := by
  cases g with
  | none => exact iff_of_true (tells_none s') rfl
  | some n =>
    rw [tells_some] at hg
    rw [Option.map_some, tells_some, hs]
    exact iff_of_false (by omega) (by simp)

theorem streakOf_append (g : Option ℕ) (xs ys : List Obs) :
    streakOf g (xs ++ ys) = streakOf (streakOf g xs) ys := by
  rw [streakOf, List.filterMap_append, List.foldl_append]
  rfl

theorem filterMap_writeRes_visible (out : List Obs) :
    (out.filter Obs.visible).filterMap Obs.writeRes = out.filterMap Obs.writeRes := by
  rw [List.filterMap_filter]
  refine List.filterMap_congr fun o _ => ?_
  cases o <;> rfl

theorem streakOf_visible (g : Option ℕ) (out : List Obs) :
    streakOf g (out.filter Obs.visible) = streakOf g out := by
  rw [streakOf, filterMap_writeRes_visible]
  rfl

namespace Protocol

/-- The count of the errors follows what is written. -/
def Counts (v : View) (o : List Obs) (v' : View) : Prop :=
  ∀ g, Tells g v.bc → Tells (streakOf g o) v'.bc

variable {k : Kernel} {v v' v'' : View} {o o' : List Obs} {op : Op}

theorem Counts.trans (h : Counts v o v') (h' : Counts v' o' v'') : Counts v (o ++ o') v'' := by
  intro g hg
  rw [streakOf_append]
  exact h' _ (h g hg)

/-- Nothing is written, and the count stays; so does the streak. -/
theorem counts_silent (ho : o.filterMap Obs.writeRes = []) (hs : v'.bc.ioErrors = v.bc.ioErrors) :
    Counts v o v' := by
  intro g hg n hn
  rw [streakOf, ho] at hn
  rw [hs]
  exact hg n hn

/-- One message is written, and the count goes by it as the streak does. -/
theorem counts_write {w : WriteRes} (ho : o.filterMap Obs.writeRes = [w])
    (hfull : w.res = ctrlLen → v'.bc.ioErrors = 0)
    (hshort : w.res ≠ ctrlLen → v'.bc.ioErrors = v.bc.ioErrors + 1) : Counts v o v' := by
  intro g hg
  rw [streakOf, ho]
  by_cases hw : w.res = ctrlLen
  · exact tells_full hw (hfull hw)
  · exact tells_short hw hg (hshort hw)

theorem Send.counts {msg : Cmd} (h : Send k msg v o v') : Counts v o v' := by
  cases h with
  | full n hw => exact counts_write rfl (fun _ => rfl) fun hn => absurd hw hn
  | short n hw => exact counts_write rfl (fun hf => absurd hf hw) fun _ => rfl

theorem SendTiming.counts (h : SendTiming k v o v') : Counts v o v' := by
  cases h with
  | full n hw => exact counts_write rfl (fun _ => rfl) fun hn => absurd hw hn
  | short n hw => exact counts_write rfl (fun hf => absurd hf hw) fun _ => rfl

theorem SendSsi.counts {b : Bool} (h : SendSsi k b v o v') : Counts v o v' := by
  cases h with
  | refused hb hp => exact counts_silent rfl rfl
  | full n hw hr => exact counts_write rfl (fun _ => rfl) fun hn => absurd hw hn
  | short n hw hr => exact counts_write rfl (fun hf => absurd hf hw) fun _ => rfl

theorem SendReset.counts (h : SendReset k v o v') : Counts v o v' := by
  cases h with
  | noLine n hl hv => exact counts_silent rfl rfl
  | full n hw => exact counts_write rfl (fun _ => rfl) fun hn => absurd hw hn
  | short n hw hn => exact counts_write rfl (fun hf => absurd hf hw) fun _ => rfl
  | failed n hw hn => exact counts_write rfl (fun hf => absurd hf hw) fun _ => rfl

theorem ReplyErr.counts (h : ReplyErr k v o v') : Counts v o v' := by
  cases h with
  | full n hw => exact counts_write rfl (fun _ => rfl) fun hn => absurd hw hn
  | short n hw => exact counts_write rfl (fun hf => absurd hf hw) fun _ => rfl

theorem TestReq.counts {msg : Cmd} {ramplen : BitVec 8} (h : TestReq k msg ramplen v o v') :
    Counts v o v' := by
  cases h with
  | full hs n hw => exact counts_write rfl (fun _ => rfl) fun hn => absurd hw hn
  | short hs n hw => exact counts_write rfl (fun hf => absurd hf hw) fun _ => rfl
  | _ => exact counts_silent rfl rfl

/-- A reply that is not reported as a success: its writes are counted in their order, those of the
reset too. -/
theorem SetupReply.counts (h : SetupReply k v o v') (hr : ¬ ReportsSuccess o) :
    Counts v o v' := by
  cases h with
  | ok n hc h =>
    cases h with
    | @full n hw o₁ v₁ hp =>
      exact absurd ⟨_, v₁.bc.written, by simp, kind_speechConfigResp 0⟩ hr
    | short n hw => exact counts_write rfl (fun hf => absurd hf hw) fun _ => rfl
  | failed n hc h hs =>
    have hfirst : Counts { v with respPend := false } _ _ := h.counts
    exact Counts.trans (v := v) hfirst hs.counts

/-- After a reply that is reported as a success nothing is counted. -/
theorem SetupReply.ioErrors (h : SetupReply k v o v') (hr : ReportsSuccess o) :
    v'.bc.ioErrors = 0 := by
  cases h with
  | ok n hc h =>
    cases h with
    | full n hw hp => rfl
    | short n hw => simp [ReportsSuccess] at hr
  | failed n hc h hs =>
    rw [reportsSuccess_append] at hr
    exact absurd hr (not_or.mpr ⟨h.not_reportsSuccess, hs.noReply.not_reportsSuccess⟩)

/-- The operation goes to `DISCONNECTED` by the function that resets the protocol, where
errors have been counted, although nothing has reset it.  The response that ends a connection
does so, and so does a call that finds the one before it crashed; `sent` is whether the new
connection that the call asks for goes out, since a complete write starts the count anew. -/
def Clears (s : BcState) (sent : Prop) : Op → Prop
  | .checkPending true (some cmd) =>
    SsiConfigRespWord cmd ∧ (msgDecodeSsiConfigResp cmd).result = ssiConfigResSuccess ∧
      s.privState = .disconnecting ∧ 0 < s.ioErrors
  | .stateChangeCallStatus true =>
    (s.protoState = .activeDl ∨ s.protoState = .activeDlul) ∧ s.callServerActive = false ∧
      0 < s.ioErrors ∧ ¬ sent
  | _ => False

theorem excuses_recv_iff (s : BcState) (cmd : Cmd) :
    excuses s (.recv cmd) = true ↔ ResetWord cmd := decide_eq_true_iff

theorem excuses_ssiConfigResp {s : BcState} {cmd : Cmd} (hc : SsiConfigRespWord cmd) :
    excuses s (.recv cmd) = false := by
  refine decide_eq_false ?_
  rintro (⟨-, ht | ht⟩ | ⟨hd, -⟩)
  · exact absurd (hc.2.symm.trans ht) (by decide)
  · exact absurd (hc.2.symm.trans ht) (by decide)
  · exact absurd (hc.1.symm.trans hd) (by decide)

/-- The streak an operation starts from is known, or has been excused by the operation itself. -/
theorem tells_excused {g : Option ℕ} {s : BcState} (hg : Tells g s) (op : Op) :
    Tells (if excuses s op then none else g) s := by
  split
  · exact tells_none s
  · exact hg

theorem CallStatus.tells {b : Bool} {g : Option ℕ} (h : CallStatus k b v o v')
    (hc : ¬ Clears v.bc (WritesInFull o) (.stateChangeCallStatus b)) (hg : Tells g v.bc) :
    Tells (streakOf (if excuses v.bc (.stateChangeCallStatus b) then none else g) o) v'.bc := by
  have hg₁ := tells_excused hg (.stateChangeCallStatus b)
  cases h with
  | blocked hp =>
    rw [if_pos (by simpa [excuses] using hp)]
    exact tells_none _
  | crashed hs hc' hi h =>
    cases h with
    | refused hb hp => exact absurd hb (by decide)
    | full n hw hr => exact tells_full hw rfl
    | short n hw hr => exact absurd ⟨hs, hc', hi, by simp [hw]⟩ hc
  | disconnect h₁ hs h => exact h.counts _ hg₁
  | connect hs h => exact h.counts _ hg₁
  | reset hs h => exact h.counts _ hg₁
  | _ => exact hg₁

/-- A call that finds the one before it crashed starts to count anew. -/
theorem CallStatus.tells_clears {g : Option ℕ} (h : CallStatus k true v o v')
    (hc : Clears v.bc (WritesInFull o) (.stateChangeCallStatus true)) (hg : Tells g v.bc) :
    Tells (streakOf g o) v'.bc ↔ g = none := by
  obtain ⟨hs, hcall, hi, hn⟩ := hc
  cases h with
  | crashed hs' hc' hi' h =>
    cases h with
    | refused hb hp => exact absurd hb (by decide)
    | full n hw hr => simp [hw] at hn
    | @short n hw hr =>
      show Tells (streak g (k.write n)) _ ↔ _
      rw [streak, if_neg hw]
      exact tells_cleared_iff hg hi rfl
  | connect hs' h => rcases hs with hs | hs <;> exact absurd (hs'.symm.trans hs) (by decide)
  | reconnect hs' hp => rcases hs with hs | hs <;> exact absurd (hs'.symm.trans hs) (by decide)
  | reset hs' h => rcases hs with hs | hs <;> rw [hs] at hs' <;> exact absurd hs' (by decide)
  | already h =>
    rcases h with ⟨hs', -⟩ | ⟨-, hc' | hi'⟩
    · rcases hs with hs | hs <;> exact absurd (hs'.symm.trans hs) (by decide)
    · exact absurd (hcall.symm.trans hc') (by decide)
    · exact absurd hi' (by omega)

/-- An `SSI_CONFIG_RESP` keeps the count, unless it ends a connection and there is one. -/
theorem SsiResp.counts {resp : SsiConfigResp} (h : SsiResp k resp v o v')
    (hd : ¬ (resp.result = ssiConfigResSuccess ∧ v.bc.privState = .disconnecting ∧
      0 < v.bc.ioErrors)) : Counts v o v' := by
  cases h with
  | disconnected hr hp =>
    have hzero : v.bc.ioErrors = 0 := by
      by_contra hne
      exact hd ⟨hr, hp, by omega⟩
    exact counts_silent rfl hzero.symm
  | reconnect hr hp hc hq => exact hq.counts
  | redisconnect hr hp hc hq => exact hq.counts
  | errorPending hr hp hs => exact hs.counts
  | error hr h₁ h₂ hs => exact hs.counts
  | _ => exact counts_silent rfl rfl

theorem Control.tells {cmd : Cmd} {g : Option ℕ} (h : Control k cmd v o v')
    (hd : msgGetDomain cmd = domainControl) (ht : msgGetType cmd ≠ resetConnReq)
    (hr : ¬ ReportsSuccess o) (hc : ¬ Clears v.bc (WritesInFull o) (.recv cmd))
    (hg : Tells g v.bc) :
    Tells (streakOf (if excuses v.bc (.recv cmd) then none else g) o) v'.bc := by
  have hg₁ := tells_excused hg (.recv cmd)
  cases h with
  | speechConfig _ h =>
    cases h with
    | now h => exact h.counts hr _ hg₁
    | defer => exact hg₁
  | uplink _ =>
    refine counts_silent (v := v) rfl ?_ _ hg₁
    rw [View.withBc_bc]
    split <;> rfl
  | timing _ =>
    refine counts_silent (v := v) rfl ?_ _ hg₁
    rcases bcHandleTimingConfigNtf_cases v.bc with ⟨-, heq⟩ | ⟨-, -, heq⟩ | ⟨-, heq⟩
    · rw [View.withBc_bc, heq]
      rfl
    · rw [View.withBc_bc, heq]
      rfl
    · rw [View.withBc_bc, heq]
  -- The end of a connection clears the count; that response is excluded by `hc`.
  | ssiResp ht' h =>
    rw [afterSsiResp_bc]
    exact h.counts (fun hdis => hc ⟨⟨hd, ht'⟩, hdis⟩) _ hg₁
  | resetReq ht' h => exact absurd ht' ht
  | resetResp ht' hp =>
    rw [if_pos ((excuses_recv_iff _ _).mpr (.inl ⟨hd, .inr ht'⟩))]
    exact tells_none _
  | resetRespConnect ht' hp h =>
    rw [if_pos ((excuses_recv_iff _ _).mpr (.inl ⟨hd, .inr ht'⟩))]
    exact h.counts none (tells_none _)

theorem streakOf_recv (g : Option ℕ) (cmd : Cmd) (out : List Obs) :
    streakOf g (.recv cmd :: out) = streakOf g out := rfl

theorem streakOf_queued (g : Option ℕ) (out : List Obs) (e : Event) :
    streakOf g (out ++ [.queued e]) = streakOf g out := by
  rw [streakOf_append]
  rfl

/-- A word that does not make a reply leaves the count at the streak, unless it clears the count. -/
theorem Recv.tells {cmd : Cmd} {g : Option ℕ} (h : Recv k cmd v o v')
    (ha : answersReset (.recv cmd) = false) (hr : ¬ ReportsSuccess o)
    (hc : ¬ Clears v.bc (WritesInFull o) (.recv cmd)) (hg : Tells g v.bc) :
    Tells (streakOf (if excuses v.bc (.recv cmd) then none else g) o) v'.bc := by
  have hg₁ := tells_excused hg (.recv cmd)
  cases h with
  | @control hd o₁ v₁ e h tstamp he =>
    rw [streakOf_recv, streakOf_queued]
    refine h.tells hd (fun ht => ?_) (fun hs => hr ?_) hc hg
    · rw [answersReset, decide_eq_true ⟨hd, ht⟩] at ha
      cases ha
    · obtain ⟨msg, s, hm, hk⟩ := hs
      exact ⟨msg, s, by simp [hm], hk⟩
  | testRampNoBufs hd ht n hc => exact hg₁
  | testRamp hd ht h => exact h.counts _ hg₁
  | csError hd ht e he =>
    rw [if_pos ((excuses_recv_iff _ _).mpr (.inr ⟨hd, ht⟩))]
    exact tells_none _
  | data hd ht => exact hg₁
  | unknown h => exact hg₁

/-- An operation that neither reports success nor clears the errors. -/
theorem ProtoStep.tells {g : Option ℕ} (h : ProtoStep k op v o v') (ha : answersReset op = false)
    (hr : ¬ ReportsSuccess o) (hc : ¬ Clears v.bc (WritesInFull o) op) (hg : Tells g v.bc) :
    Tells (streakOf (if excuses v.bc op then none else g) o) v'.bc := by
  have hg₁ := tells_excused hg op
  cases h with
  | recv h => exact h.tells ha hr hc hg
  | @callStatus b _ _ o h =>
    refine h.tells (fun hc' => hc ?_) hg
    cases b with
    | false => exact hc'
    | true =>
      obtain ⟨hs, hcall, hi, hn⟩ := hc'
      exact ⟨hs, hcall, hi, fun hf => hn ((writesInFull_cons (by simp) o).mp hf)⟩
  | error h => exact h.counts _ hg₁
  | sendTiming h => exact h.counts _ hg₁
  | sendSsi h => exact h.counts _ hg₁
  | testReq h => exact h.counts _ hg₁
  | dlReleaseReply hp h => exact h.counts hr _ hg₁
  | ulReleaseReply hp h => exact h.counts hr _ hg₁
  | _ => exact hg₁

/-- An operation that clears the errors: the count is the streak only if that is unknown. -/
theorem ProtoStep.tells_clears {g : Option ℕ} (h : ProtoStep k op v o v')
    (hc : Clears v.bc (WritesInFull o) op) (hg : Tells g v.bc) :
    Tells (streakOf (if excuses v.bc op then none else g) o) v'.bc ↔ g = none := by
  cases h with
  | @recv cmd _ _ _ h =>
    obtain ⟨hw, hr, hp, hi⟩ := hc
    obtain ⟨o₁, e, v₁, rfl, hresp, rfl⟩ := h.ssiResp_inv k hw.1 hw.2
    rw [if_neg (by simp [excuses_ssiConfigResp hw]), streakOf_recv, streakOf_queued,
      afterSsiResp_bc]
    cases hresp with
    | disconnected _ _ =>
      -- No write is made in the step, so the streak stays what it was, and is above zero.
      have hzero : Tells (g.map (· + 0)) v.bc.privResetStateToDisconnected ↔ g = none :=
        tells_cleared_iff hg hi rfl
      show Tells g _ ↔ _
      simpa using hzero
    | connected _ hp' => exact absurd (hp.symm.trans hp') (by decide)
    | reconnect _ hp' => exact absurd (hp.symm.trans hp') (by decide)
    | redisconnect _ hp' => exact absurd (hp.symm.trans hp') (by decide)
    | ignored _ _ h₂ _ => exact absurd hp h₂
    | errorPending hr' => exact absurd hr hr'
    | error hr' => exact absurd hr hr'
  | nothing h =>
    rcases h with rfl | rfl
    · exact hc.elim
    · next flags => cases flags <;> exact hc.elim
  | @callStatus b _ _ o h =>
    cases b with
    | false => exact hc.elim
    | true =>
      obtain ⟨hs, hcall, hi, hn⟩ := hc
      rw [if_neg (by simp [excuses])]
      refine h.tells_clears ⟨hs, hcall, hi, ?_⟩ hg
      exact fun hf => hn ((writesInFull_cons (by simp) o).mpr hf)
  | _ => exact hc.elim

/-- An operation that reports success leaves no errors. -/
theorem ProtoStep.ioErrors (h : ProtoStep k op v o v') (hr : ReportsSuccess o) :
    v'.bc.ioErrors = 0 := by
  obtain ⟨msg, s, hm, hk⟩ := hr
  obtain ⟨-, v₀, o₀, h₀, hm₀, -⟩ := h.reply_inv hm hk
  exact h₀.ioErrors ⟨msg, s, hm₀, hk⟩

end Protocol
/-! ### Replies -/

/-- The states in which a reply that reports success is followed by a request: a call starts,
or the last one has ended. -/
def ReplySends (s : BcState) (q : PrivState) : Prop :=
  s.protoState = .connected ∧ q = .configActPend ∨
    (s.protoState = .activeDl ∨ s.protoState = .activeDlul) ∧ q = .configDeactPend ∧
      s.callServerActive = false

instance (s : BcState) (q : PrivState) : Decidable (ReplySends s q) :=
  inferInstanceAs (Decidable (_ ∨ _))

section
variable (k : Kernel) (m : Machine)

/-- What post-processing a reply writes: one request in the states of `ReplySends`, and otherwise
nothing. -/
theorem writes_bcPostCommand_speechConfigResp :
    (bcPostCommand k (msgEncodeSpeechConfigResp 0) m).writes =
      m.writes ++ if ReplySends m.bcstate m.bcstate.privState then [k.write m.tick] else [] := by
  rw [← bcPostCommand_fix, postCommandBody, if_pos (msgGetDomain_speechConfigResp 0),
    msgGetType_speechConfigResp, if_neg (by decide), if_pos rfl, if_neg (by decide)]
  -- The two requests of the post-processing: the timing from CONNECTED, the end of the connection
  -- from an active state.
  by_cases hc : m.bcstate.protoState = .connected
  · rw [if_pos hc]
    by_cases hp : m.bcstate.privState = .configActPend
    · rw [if_pos hp, if_pos (.inl ⟨hc, hp⟩), writes_sendTimingRequest]
      rfl
    · rw [if_neg hp, if_neg (by simp [ReplySends, hc, hp])]
      simp
  · rw [if_neg hc]
    by_cases ha : m.bcstate.protoState = .activeDl ∨ m.bcstate.protoState = .activeDlul
    · rw [if_pos ha]
      by_cases hp : m.bcstate.privState = .configActPend
      · have hnone : ¬ ReplySends m.bcstate m.bcstate.privState := by simp [ReplySends, hc, hp]
        rw [if_pos hp, if_neg hnone, List.append_nil]
        split <;> rfl
      · rw [if_neg hp]
        by_cases hd : m.bcstate.privState = .configDeactPend
        · rw [if_pos hd]
          by_cases hs : m.bcstate.callServerActive = true
          · have hnone : ¬ ReplySends m.bcstate m.bcstate.privState := by
              simp [ReplySends, hc, hs]
            rw [if_neg hnone, if_neg (not_not.mpr (by exact hs)), List.append_nil]
            rfl
          · have hsome : ReplySends m.bcstate m.bcstate.privState :=
              .inr ⟨ha, hd, by simpa using hs⟩
            rw [if_pos hsome, if_pos (by exact hs),
              writes_sendSsiConfigRequest k (by simp)]
            rfl
        · rw [if_neg hd, if_neg (by simp [ReplySends, hc, hd]), List.append_nil]
    · rw [if_neg ha, if_neg (by simp [ReplySends, hc, ha]), List.append_nil]

/-- What a reply that reports success writes, when it is the first thing an operation does. -/
theorem writes_privSetupAndSendSpeechConfigReply (ht : m.tick = 0) (hk : k.ReplySent) :
    (privSetupAndSendSpeechConfigReply k m).2.writes = m.writes ++
      k.write 2 :: if ReplySends m.bcstate m.bcstate.privState then [k.write 3] else [] := by
  rw [privSetupAndSendSpeechConfigReply]
  have hl := log_privSetupDriverBufconfig k
    (m.modBuf fun b => { b with speechConfigRespPend := false })
  have hbc : (privSetupDriverBufconfig k
      (m.modBuf fun b => { b with speechConfigRespPend := false })).2.bcstate = m.bcstate := by
    have hview := view_privSetupDriverBufconfig k
      (m.modBuf fun b => { b with speechConfigRespPend := false })
    refine (congrArg View.bc hview).trans ?_
    rw [View.configured]
    split <;> rfl
  obtain ⟨htick, hfst⟩ := privSetupDriverBufconfig_tick k
    (m.modBuf fun b => { b with speechConfigRespPend := false })
  rw [Machine.modBuf_tick, ht] at htick hfst
  generalize privSetupDriverBufconfig k
    (m.modBuf fun b => { b with speechConfigRespPend := false }) = c at hl hbc htick hfst ⊢
  have hc : c.1 = 0 := hfst.trans hk.1
  have hw : (k.write c.2.tick).res = ctrlLen := by
    rw [htick]
    exact hk.2
  simp only [if_pos hc, if_neg (not_not.mpr hc)]
  -- The post-processing runs inside the write of the reply; its write is the third call of the
  -- kernel.
  have hpost := writes_bcPostCommand_speechConfigResp k
    (c.2.syscall (.write (msgEncodeSpeechConfigResp 0) (k.write c.2.tick)))
  rw [Machine.syscall_bcstate, Machine.syscall_tick, hbc, htick] at hpost
  rw [privWrite, bcWriteCommand_full k (by simp) hw, Machine.writes, log_emit _ _ rfl, log_modBc,
    List.filterMap_append, List.filterMap_cons_none rfl, List.filterMap_nil, List.append_nil,
    htick]
  refine hpost.trans ?_
  rw [Machine.writes, log_syscall_visible _ _ rfl, hl, List.filterMap_append,
    List.append_assoc]
  rfl

theorem writes_privDrvbufLayoutChangeBufferReleased {slot : Slot} (ht : m.tick = 0)
    (hk : k.ReplySent)
    (hz : privLockedBufdescs (m.buf.mapFlags slot (· &&& ~~~bufLocked)) = 0) :
    (privDrvbufLayoutChangeBufferReleased k slot m).writes = m.writes ++
      k.write 2 :: if ReplySends m.bcstate m.bcstate.privState then [k.write 3] else [] := by
  have hr := writes_privSetupAndSendSpeechConfigReply k
    (m.modBuf fun b => b.mapFlags slot (· &&& ~~~bufLocked)) ht hk
  unfold privDrvbufLayoutChangeBufferReleased
  dsimp only
  rw [if_pos (by exact hz)]
  split
  · exact hr
  · exact hr

theorem writes_privHandleSpeechConfig (req : SpeechConfigReq) (ht : m.tick = 0) (hk : k.ReplySent)
    (hz : privLockedBufdescs m.buf = 0) :
    (privHandleSpeechConfig k req m).writes = m.writes ++
      k.write 2 :: if ReplySends m.bcstate m.bcstate.privState then [k.write 3] else [] := by
  rw [privHandleSpeechConfig]
  generalize hm₁ : m.modBuf _ = m₁
  have ht₁ : m₁.tick = 0 := by rw [← hm₁]; exact ht
  have hz₁ : privLockedBufdescs m₁.buf = 0 := by rw [← hm₁]; exact hz
  have hr := writes_privSetupAndSendSpeechConfigReply k m₁ ht₁ hk
  rw [← hm₁] at hr
  rw [if_pos hz₁, ← hm₁]
  exact hr

/-- What a step that reports success writes: the reply, and at most one request after it. -/
theorem writes_of_reportsSuccess {op : Op} (h : ComesToReply m.buf op) (hk : k.ReplySent) :
    (nokiamodem.next m (k, op)).1.writes =
      k.write 2 :: if ReplySends m.bcstate (privAtReply m.bcstate op) then [k.write 3] else [] := by
  match op, h with
  | .checkPending true (some cmd), h =>
    obtain ⟨hw, hz⟩ : SpeechConfigReqWord cmd ∧ privLockedBufdescs m.buf = 0 := h
    obtain ⟨e, hl⟩ := log_recv_control m k hw.1 (by rw [hw.2]; decide) (by rw [hw.2]; decide)
    rw [bcHandleCommand_speechConfigReq k _ hw.2,
      handleCommandBackend_speechConfigReq k _ _ hw.2] at hl
    rw [Machine.writes, hl, List.filterMap_append, List.filterMap_cons_none rfl,
      List.filterMap_nil, List.append_nil]
    refine (writes_privHandleSpeechConfig k _ _ rfl hk (by exact hz)).trans ?_
    rfl
  | .dlBufferRelease i, h =>
    obtain ⟨hheld, hp, hz⟩ : _ ≠ _ ∧ m.buf.LastHeld (.dl (m.buf.dlbufdesc i).bd.index) := h
    show (dlBufferRelease k i m.begin).2.writes = _
    rw [dlBufferRelease, if_neg (by exact hheld), if_pos (by exact hp)]
    exact writes_privDrvbufLayoutChangeBufferReleased k m.begin rfl hk hz
  | .ulBufferRelease (some i), h =>
    obtain ⟨hp, hz⟩ : m.buf.LastHeld (.ul (m.buf.ulbufdesc i).bd.index) := h
    show (ulBufferRelease k (some i) m.begin).2.writes = _
    rw [ulBufferRelease]
    dsimp only
    rw [if_pos (by exact hp)]
    exact writes_privDrvbufLayoutChangeBufferReleased k m.begin rfl hk hz

end

/-- The step writes a reply that reports success and not the request that follows it: the
count of the failed write is reset with the reply. -/
def SwallowsFailure (m : Machine) (i : Step) : Prop :=
  (ComesToReply m.buf i.2 ∧ i.1.ReplySent) ∧
    ReplySends m.bcstate (privAtReply m.bcstate i.2) ∧ (i.1.write 3).res ≠ ctrlLen

/-- The step sets the count of the errors back to 0, although nothing has reset the protocol
and no message gets out: a successful `SSI_CONFIG_RESP` ends the connection, or a call finds
the one before it crashed and cannot ask for a new connection. -/
def ClearsErrors (m : Machine) (i : Step) : Prop :=
  Clears m.bcstate (i.1.SsiSent m.d.wakelineUsers true) i.2

/-- The only write of a call that finds a crash is the request for a new connection. -/
theorem clears_iff (m : Machine) (i : Step) :
    Clears m.bcstate (WritesInFull (nokiamodem.next m i).2) i.2 ↔ ClearsErrors m i := by
  obtain ⟨k, op⟩ := i
  cases op with
  | stateChangeCallStatus b =>
    cases b with
    | false => exact Iff.rfl
    | true =>
      refine and_congr_right fun hs => and_congr_right fun hc => and_congr_right fun hi => ?_
      exact not_congr (writesInFull_callStatus_crashed m k hs hc hi)
  | checkPending flags word => cases flags <;> cases word <;> exact Iff.rfl
  | _ => exact Iff.rfl

/-- The step loses count of the failed writes: it swallows one, or it clears the count while
the streak is known. -/
def LosesCount (p : Machine × Option ℕ) (i : Step) : Prop :=
  SwallowsFailure p.1 i ∨ p.2 ≠ none ∧ ClearsErrors p.1 i

/-- A request for a speech configuration is no request to reset. -/
theorem answersReset_of_comesToReply {b : BufState} {op : Op} (h : ComesToReply b op) :
    answersReset op = false := by
  unfold ComesToReply at h
  split at h
  · refine decide_eq_false fun hreset => ?_
    exact absurd (h.1.2.symm.trans hreset.2) (by decide)
  · rfl
  · rfl
  · exact h.elim

/-- Nor does a step clear the errors in which a reply is made. -/
theorem not_clearsErrors_of_comesToReply {m : Machine} {k : Kernel} {op : Op}
    (h : ComesToReply m.buf op) : ¬ ClearsErrors m (k, op) := by
  intro hc
  match op, hc, h with
  | .checkPending true (some cmd), ⟨hw, _⟩, h =>
    exact absurd (h.1.2.symm.trans hw.2) (by decide)

theorem answersReset_of_clearsErrors {m : Machine} {k : Kernel} {op : Op}
    (h : ClearsErrors m (k, op)) : answersReset op = false := by
  match op, h with
  | .checkPending true (some cmd), ⟨hw, _⟩ =>
    refine decide_eq_false fun hreset => ?_
    exact absurd (hw.2.symm.trans hreset.2) (by decide)
  | .stateChangeCallStatus true, _ => rfl

/-- A step that makes a reply and reports success: what is counted depends on the request that
follows the reply. -/
theorem tells_reported_iff {m : Machine} (g : Option ℕ) {k : Kernel} {op : Op}
    (hr : ComesToReply m.buf op ∧ k.ReplySent) :
    Tells (streakNext m (k, op) g) (nokiamodem.next m (k, op)).1.bcstate ↔
      ¬ SwallowsFailure m (k, op) := by
  have hstep : ProtoStep k op m.view _ (nokiamodem.next m (k, op)).1.view :=
    nokiamodem_refines m (k, op)
  have hsuccess : ReportsSuccess (nokiamodem.visible Obs.visible m (k, op)) := by
    rw [Lts.visible, reportsSuccess_visible]
    exact (reportsSuccess_iff m (k, op)).mpr hr
  have hzero : (nokiamodem.next m (k, op)).1.bcstate.ioErrors = 0 := hstep.ioErrors hsuccess
  have hanswers := answersReset_of_comesToReply hr.1
  have hwrites := writes_of_reportsSuccess k m hr.1 hr.2
  have hfull : (k.write 2).res = ctrlLen := hr.2.2
  have hout : (nokiamodem.next m (k, op)).2.filterMap Obs.writeRes =
      (nokiamodem.next m (k, op)).1.writes := by
    rw [Machine.writes]
    exact (filterMap_writeRes_visible _).symm
  rw [streakNext, if_neg (by simp [hanswers]), streakOf, hout, hwrites, SwallowsFailure,
    and_iff_right hr, List.foldl_cons, streak, if_pos hfull]
  -- The count is 0 after the step in any case.  The streak is too, unless the request that follows
  -- the reply has failed.
  by_cases hs : ReplySends m.bcstate (privAtReply m.bcstate op)
  · rw [if_pos hs, and_iff_right hs, not_not, List.foldl_cons, List.foldl_nil, streak]
    by_cases hw : (k.write 3).res = ctrlLen
    · rw [if_pos hw, tells_some, iff_true_right hw]
      exact hzero
    · rw [if_neg hw, Option.map_some, tells_some, hzero]
      exact iff_of_false (by decide) hw
  · rw [if_neg hs, List.foldl_nil, tells_some]
    exact iff_of_true hzero fun h => hs h.1

/-- One step keeps the count at the streak if and only if it does not lose count. -/
theorem tells_next_iff {m : Machine} {g : Option ℕ} (hg : Tells g m.bcstate) (i : Step) :
    Tells (streakNext m i g) (nokiamodem.next m i).1.bcstate ↔ ¬ LosesCount (m, g) i := by
  obtain ⟨k, op⟩ := i
  have hstep : ProtoStep k op m.view _ (nokiamodem.next m (k, op)).1.view :=
    nokiamodem_refines m (k, op)
  -- The observations that are left out of the view are no control writes.
  have hclears :
      Clears m.view.bc (WritesInFull (nokiamodem.visible Obs.visible m (k, op))) op ↔
        ClearsErrors m (k, op) := by
    rw [Lts.visible, writesInFull_visible]
    exact clears_iff m (k, op)
  rw [LosesCount, not_or]
  by_cases hr : ComesToReply m.buf op ∧ k.ReplySent
  · rw [tells_reported_iff g hr]
    exact (and_iff_left fun h => not_clearsErrors_of_comesToReply hr.1 h.2).symm
  · have hnot : ¬ SwallowsFailure m (k, op) := fun h => hr h.1
    rw [and_iff_right hnot]
    by_cases hc : ClearsErrors m (k, op)
    · rw [streakNext, if_neg (by simp [answersReset_of_clearsErrors hc]), ← streakOf_visible,
        and_iff_left hc, not_not]
      exact hstep.tells_clears (hclears.mpr hc) hg
    · refine iff_of_true ?_ fun h => hc h.2
      rw [streakNext]
      cases ha : answersReset op with
      | true => exact tells_none _
      | false =>
        rw [if_neg (by simp), ← streakOf_visible]
        refine hstep.tells ha (fun h => hr ?_) (mt hclears.mp hc) hg
        rw [Lts.visible, reportsSuccess_visible] at h
        exact (reportsSuccess_iff m (k, op)).mp h

/-- **`io_errors` tells the truth** throughout a run, unless a reset of the protocol or a blocked
call-status change has excused it since the last complete write, if and only if no step of the
run loses count: none writes a `SPEECH_CONFIG_RESP` that reports success and fails to write the
request that follows it, and none clears the count while the streak is known. -/
theorem ioErrors_streak_iff {m : Machine} (h : nokiamodem.init m) (is : List Step) :
    controlStreak.Always (fun p => ∀ n, p.2 = some n → p.1.bcstate.ioErrors = n) (m, some 0) is ↔
      controlStreak.Along (fun p i => ¬ LosesCount p i) (m, some 0) is := by
  obtain ⟨area, old, rfl⟩ := h
  have hinit : Tells (some 0) (cmtspeechOpen area old).bcstate := (tells_some _ _).mpr rfl
  exact controlStreak.always_iff_along (I := fun _ => True) (P := fun _ _ => True)
    (fun _ _ _ _ _ _ => trivial) (fun p i _ hq _ => tells_next_iff hq i) trivial hinit
    (controlStreak.along_true _ _)

/-- A kernel that takes the reply, and not the timing request that follows it.  The count is then
cleared for the reply, after it was raised for the request. -/
def Kernel.losingTiming : Kernel :=
  { Kernel.accepting with write := fun n => if n = 3 then ⟨-1, eio⟩ else ⟨ctrlLen, 0⟩ }

/-- A call whose timing request is lost: the kernel refuses the write with which a downlink is
answered. -/
def lostTimingRun : List Step :=
  [(.accepting, .stateChangeCallStatus true), (.accepting, .recv (msgEncodeSsiConfigResp 1 0)),
    (.losingTiming, .recv (speechConfigReqMsg true))]

/-- The last control write has failed, and no error is counted. -/
theorem ioErrors_forgotten :
    nokiamodem.init Machine.fresh ∧
      (controlStreak.exec (Machine.fresh, some 0) lostTimingRun).2 = some 1 ∧
      (controlStreak.exec (Machine.fresh, some 0) lostTimingRun).1.bcstate.ioErrors = 0 :=
  ⟨init_fresh, by decide, by decide⟩

/-- A call that ends, and a timing request that fails before the modem has answered. -/
def clearedRun : List Step :=
  [(.accepting, .stateChangeCallStatus true), (.accepting, .recv (msgEncodeSsiConfigResp 1 0)),
    (.accepting, .stateChangeCallStatus false), (.unwritable, .sendTimingRequest),
    (.accepting, .recv (msgEncodeSsiConfigResp 1 0))]

theorem ioErrors_streak_cleared :
    controlStreak.Always (fun p => ∀ n, p.2 = some n → p.1.bcstate.ioErrors = n)
        (Machine.fresh, some 0) clearedRun ↔
      controlStreak.Along (fun p i => ¬ LosesCount p i) (Machine.fresh, some 0) clearedRun :=
  ioErrors_streak_iff init_fresh clearedRun

end CmtSpeech
