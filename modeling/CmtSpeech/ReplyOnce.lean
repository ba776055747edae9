import CmtSpeech.DataStep
import CmtSpeech.DeferredReply

/-!
# A deferred reply is sent once, and not too early

While the application holds buffers, the reply to a `SPEECH_CONFIG_REQ` waits: the pending
flag is set, no buffer is given out any more, and the descriptors stay as they are.  The
release that leaves no buffer held makes the reply, and nothing else does.  Which buffers are
held is no business of the library alone: they are the ones held at the request that no call
has given back since, so the reply waits no longer than the application keeps one of them.

* `Interrupts` — what the run is free of between the request and the reply.
* `GivenBack` — the application has released a buffer.
* `Awaits` — the state while the reply waits.
* `UntilReply` — the runs that are not interrupted before the reply.
* `AnsweredOnce` — when and how often the reply is tried.

## Main result

* `reply_once`
-/

namespace CmtSpeech

/-- A reset, an `SSI_CONFIG_RESP`, a test ramp, or a further `SPEECH_CONFIG_REQ`. -/
def Interrupts (s : BcState) : Op → Prop
  | .checkPending true (some cmd) =>
    (∃ c, PeerResetWord cmd c) ∨ SsiConfigRespWord cmd ∨ TestRampWord cmd ∨
      SpeechConfigReqWord cmd
  | .stateChangeCallStatus true => s.protoState = .invalid ∨ s.protoState = .testRampPingActive
  | .stateChangeError | .testDataRampReq _ _ => True
  | _ => False

/-- One of the calls in `w` gives the buffer `s` back.  The library goes by the index in the
buffer, as it stands in the descriptors of `b`. -/
def GivenBack (b : BufState) (w : List Step) (s : Slot) : Prop :=
  ∃ j ∈ w, j.2.released b = some s

/-- The reply to a request that came with the buffers `b` waits, and the steps `w` have been
taken since: the flag is set, none of the buffers is given out, the descriptors are those of
`b`, and the application still holds the buffers that it has not given back, of which there
is one at least. -/
structure Awaits (b : BufState) (w : List Step) (m : Machine) : Prop where
  respPend : m.buf.speechConfigRespPend = true
  held : 0 < privLockedBufdescs m.buf
  locked : ∀ s, m.buf.Locked s ↔ b.Locked s ∧ ¬ GivenBack b w s
  invalid : ∀ s, m.buf.Invalid s
  refuses : ∀ op : Op, op.acquired m = none
  layout : ∀ s, m.buf.layout s = b.layout s

/-- The steps `ws` are not interrupted until a reply is made.  What happens after the reply is not
restricted. -/
def UntilReply (m : Machine) (ws : List Step) : Prop :=
  ∀ w₁ j w₂, ws = w₁ ++ j :: w₂ → replies (nokiamodem.trace m w₁) = 0 →
    ¬ Interrupts (nokiamodem.exec m w₁).bcstate j.2

/-- No further reply is tried before an interruption, which may bring a request of its own. -/
def NoFurtherReply (m : Machine) (ws : List Step) : Prop :=
  ∀ w, w <+: ws → nokiamodem.Along (fun m i => ¬ Interrupts m.bcstate i.2) m w →
    replies (nokiamodem.trace m w) = 0

/-- The reply waits through `ws`, for the buffers `b`: none is tried, and after each of the steps
the library is still waiting for what the application has not given back. -/
structure Deferred (b : BufState) (m : Machine) (ws : List Step) : Prop where
  silent : replies (nokiamodem.trace m ws) = 0
  awaits : ∀ w, w <+: ws → Awaits b w (nokiamodem.exec m w)

/-- The release `j`, after which no buffer is held, tries the reply: it is the call that gives
back `slot`, the last of the buffers. -/
structure RepliesAt (m : Machine) (j : Step) (slot : Slot) : Prop where
  released : j.2.released m.buf = some slot
  last : privLockedBufdescs (m.buf.unlock slot) = 0
  once : replies (nokiamodem.next m j).2 = 1

/-- The reply to the request `i` is tried once: at once when no buffer is held, and otherwise
by the release with which all that were held have been given back.  Until then it waits, and
it waits to the end of `ws` only if the application keeps one of them so long. -/
inductive AnsweredOnce (m : Machine) (i : Step) (ws : List Step) : Prop
  | now (hfree : privLockedBufdescs m.buf = 0) (hreply : replies (nokiamodem.next m i).2 = 1)
      (hafter : NoFurtherReply (nokiamodem.next m i).1 ws)
  | waiting (hheld : 0 < privLockedBufdescs m.buf) (hreply : replies (nokiamodem.next m i).2 = 0)
      (hkept : ∃ s, m.buf.Locked s ∧ ¬ GivenBack m.buf ws s)
      (hawait : Deferred m.buf (nokiamodem.next m i).1 ws)
  | later {w₁ : List Step} {j : Step} {w₂ : List Step} {slot : Slot}
      (hheld : 0 < privLockedBufdescs m.buf) (hreply : replies (nokiamodem.next m i).2 = 0)
      (hw : ws = w₁ ++ j :: w₂) (hawait : Deferred m.buf (nokiamodem.next m i).1 w₁)
      (hall : ∀ s, m.buf.Locked s → GivenBack m.buf (w₁ ++ [j]) s)
      (hrel : RepliesAt (nokiamodem.exec m (i :: w₁)) j slot)
      (hafter : NoFurtherReply (nokiamodem.exec m (i :: (w₁ ++ [j]))) w₂)

/-! ### One step -/

section
variable {m : Machine} {i : Step}

/-- What rewrites descriptors interrupts: each of these steps is a reset, a ramp, a response or a
further request. -/
theorem interrupts_of_rewrites {op : Op} (h : ResetsBuffers m.bcstate op ∨
    Relays m.buf.slotSize op ∨ Postpones m.buf op ∨ ∃ slotbuf, MovesDl m op slotbuf) :
    Interrupts m.bcstate op := by
  match op, h with
  | .checkPending true (some _), .inl (.inl h) => exact Or.inl h
  | .checkPending true (some _), .inl (.inr h) => exact Or.inr (Or.inl h.1)
  | .stateChangeError, .inl _ => trivial
  | .stateChangeCallStatus true, .inl h => exact h
  | .checkPending true (some _), .inr (.inl h) => exact Or.inr (Or.inr (Or.inl h.1))
  | .testDataRampReq _ _, .inr (.inl _) => trivial
  | .checkPending true (some _), .inr (.inr (.inl h)) => exact Or.inr (Or.inr (Or.inr h.1))
  | .checkPending true (some _), .inr (.inr (.inr ⟨_, .ssiConfigResp hc _ _ _ _⟩)) =>
    exact Or.inr (Or.inl hc)

/-- A step that does not interrupt rewrites no descriptor, or it makes the reply. -/
theorem dataStep_of_not_interrupts (hn : ¬ Interrupts m.bcstate i.2) :
    (Keeps m i.2 (nokiamodem.next m i).1.buf ∧ replies (nokiamodem.next m i).2 = 0 ∧
        ¬ ComesToReply m.buf i.2) ∨
      (ComesToReply m.buf i.2 ∧ replies (nokiamodem.next m i).2 = 1 ∧
        (nokiamodem.next m i).1.buf.Answered) := by
  have hop := mt interrupts_of_rewrites hn
  simp only [not_or] at hop
  obtain ⟨h₁, h₂, h₃, h₄⟩ := hop
  have hstep := dataStep m i
  rw [← replies_filter]
  generalize (nokiamodem.next m i).2.filter Obs.dataPath = o at hstep ⊢
  generalize (nokiamodem.next m i).1.buf = b' at hstep ⊢
  cases hstep with
  | keep h hc => exact Or.inl ⟨h, rfl, hc⟩
  | postpone h hb => exact absurd h h₃
  | reply h ho hb => exact Or.inr ⟨h, ho, hb⟩
  | reset h => exact absurd h h₁
  | relay h hl => exact absurd h h₂
  | moveDl h => exact absurd ⟨_, h⟩ h₄

/-- Without a deferred reply there is none to make, and no step but a request defers one. -/
theorem next_of_answered (hn : ¬ Interrupts m.bcstate i.2)
    (hp : m.buf.speechConfigRespPend = false) :
    replies (nokiamodem.next m i).2 = 0 ∧
      (nokiamodem.next m i).1.buf.speechConfigRespPend = false := by
  rcases dataStep_of_not_interrupts hn with ⟨hk, hr, -⟩ | ⟨hc, -, -⟩
  · exact ⟨hr, hk.respPend.trans hp⟩
  · exfalso
    match i, hc, hn with
    | (_, .checkPending true (some _)), hc, hn => exact hn (Or.inr (Or.inr (Or.inr hc.1)))
    | (_, .dlBufferRelease _), hc, _ => simp [hc.2.1] at hp
    | (_, .ulBufferRelease (some _)), hc, _ => simp [hc.1] at hp

/-- An invalid buffer is not given out, in whichever way it is asked for. -/
theorem acquired_of_invalid (hi : ∀ s, m.buf.Invalid s) (op : Op) : op.acquired m = none := by
  refine Option.eq_none_iff_forall_ne_some.mpr ?_
  intro s hs
  have hk : Keeps m op _ := keeps_of_acquired (i := (.accepting, op)) hs
  exact hk.valid s hs (hi s)

/-- The index of a buffer is part of its layout, so that it is given back as the same one. -/
theorem released_of_layout {b b' : BufState} (h : ∀ s, b'.layout s = b.layout s) (op : Op) :
    op.released b' = op.released b := by
  have hindex (s : Slot) : (b'.layout s).index = (b.layout s).index := by rw [h s]
  cases op with
  | dlBufferRelease i =>
    have hi : (b'.dlbufdesc i).bd.index = (b.dlbufdesc i).bd.index := Fin.ext (hindex (.dl i))
    rw [Op.released, Op.released, hi]
  | ulBufferRelease buf =>
    cases buf with
    | none => rfl
    | some i =>
      have hi : (b'.ulbufdesc i).bd.index = (b.ulbufdesc i).bd.index := Fin.ext (hindex (.ul i))
      rw [Op.released, Op.released, hi]
  | _ => rfl

variable {b : BufState} {w : List Step}

theorem givenBack_concat (j : Step) (s : Slot) :
    GivenBack b (w ++ [j]) s ↔ GivenBack b w s ∨ j.2.released b = some s := by
  simp [GivenBack, or_and_right, exists_or]

theorem awaits_of (hp : m.buf.speechConfigRespPend = true) {s : Slot} (hs : m.buf.Locked s)
    (hlocked : ∀ s, m.buf.Locked s ↔ b.Locked s ∧ ¬ GivenBack b w s)
    (hi : ∀ s, m.buf.Invalid s) (hl : ∀ s, m.buf.layout s = b.layout s) : Awaits b w m where
  respPend := hp
  held := Nat.pos_of_ne_zero ((BufState.privLockedBufdescs_ne_zero_iff _).mpr ⟨s, hs⟩)
  locked := hlocked
  invalid := hi
  refuses := acquired_of_invalid hi
  layout := hl

/-- As long as the reply waits, the application keeps a buffer. -/
theorem Awaits.kept (ha : Awaits b w m) : ∃ s, b.Locked s ∧ ¬ GivenBack b w s := by
  obtain ⟨s, hs⟩ :=
    (BufState.privLockedBufdescs_ne_zero_iff m.buf).mp (Nat.pos_iff_ne_zero.mp ha.held)
  exact ⟨s, (ha.locked s).mp hs⟩

/-- With the release that tries the reply, all buffers have been given back. -/
theorem RepliesAt.givenBack {slot : Slot} (hrel : RepliesAt m i slot) (ha : Awaits b w m)
    {s : Slot} (hs : b.Locked s) : GivenBack b (w ++ [i]) s := by
  rw [givenBack_concat]
  by_contra hkept
  rw [not_or] at hkept
  have hlocked : m.buf.Locked s := (ha.locked s).mpr ⟨hs, hkept.1⟩
  have hfree := (BufState.privLockedBufdescs_eq_zero_iff _).mp hrel.last s
  rw [BufState.locked_unlock, not_and, not_not] at hfree
  rw [← released_of_layout ha.layout, hrel.released, hfree hlocked] at hkept
  exact hkept.2 rfl

/-- A step while the reply waits: it waits on, or the last buffer is taken back. -/
theorem next_of_awaits (hn : ¬ Interrupts m.bcstate i.2) (ha : Awaits b w m) :
    (replies (nokiamodem.next m i).2 = 0 ∧ Awaits b (w ++ [i]) (nokiamodem.next m i).1) ∨
      ∃ slot, RepliesAt m i slot ∧ (nokiamodem.next m i).1.buf.speechConfigRespPend = false := by
  have hne := Nat.pos_iff_ne_zero.mp ha.held
  have hiff := comesToReply_iff hne i.2
  rcases dataStep_of_not_interrupts hn with ⟨hk, hr, hc⟩ | ⟨hc, hr, hb⟩
  · refine Or.inl ⟨hr, ?_⟩
    -- a buffer is still held, or this would have been the last release
    have hheld : ∃ s, (nokiamodem.next m i).1.buf.Locked s := by
      by_contra hfree
      rw [not_exists] at hfree
      obtain ⟨t, ht⟩ := (BufState.privLockedBufdescs_ne_zero_iff _).mp hne
      have hrel (s : Slot) (hs : m.buf.Locked s) : i.2.released m.buf = some s := by
        by_contra hne
        exact hfree s ((hk.locked s).mpr (Or.inr ⟨hs, hne⟩))
      refine hc (hiff.mpr ⟨ha.respPend, t, hrel t ht, ?_⟩)
      rw [BufState.privLockedBufdescs_eq_zero_iff]
      intro s hs
      obtain ⟨hs, hne⟩ := (BufState.locked_unlock t s).mp hs
      exact hne (Option.some.inj ((hrel s hs).symm.trans (hrel t ht)))
    -- no buffer is given out, so the locks go by what is taken back
    have hlocked (s : Slot) : (nokiamodem.next m i).1.buf.Locked s ↔
        b.Locked s ∧ ¬ GivenBack b (w ++ [i]) s := by
      rw [hk.locked, ha.refuses, ha.locked, released_of_layout ha.layout, givenBack_concat,
        not_or, and_assoc]
      simp
    obtain ⟨s, hs⟩ := hheld
    refine awaits_of (hk.respPend.trans ha.respPend) hs hlocked ?_ ?_
    · intro t
      exact (hk.invalid t).mpr (ha.invalid t)
    · intro t
      exact (hk.layout t).trans (ha.layout t)
  · obtain ⟨-, s, hs, h0⟩ := hiff.mp hc
    exact Or.inr ⟨s, ⟨hs, h0, hr⟩, hb.respPend⟩

/-- The request itself: it is answered, or the reply waits. -/
theorem next_of_request {k : Kernel} {cmd : Cmd} (hc : SpeechConfigReqWord cmd) :
    (privLockedBufdescs m.buf = 0 ∧ replies (nokiamodem.next m (k, .recv cmd)).2 = 1 ∧
        (nokiamodem.next m (k, .recv cmd)).1.buf.speechConfigRespPend = false) ∨
      (0 < privLockedBufdescs m.buf ∧ replies (nokiamodem.next m (k, .recv cmd)).2 = 0 ∧
        Awaits m.buf [] (nokiamodem.next m (k, .recv cmd)).1) := by
  have hreplies : replies (nokiamodem.next m (k, .recv cmd)).2 =
      replies (Machine.dataLog (Op.run k m.begin (.recv cmd))) :=
    (replies_filter (nokiamodem.next m (k, .recv cmd)).2).symm
  rw [hreplies]
  rcases data_speechConfigReq k m hc with ⟨hz, hr, hb⟩ | ⟨hz, hlog, hb⟩
  · exact Or.inl ⟨hz, hr, hb.respPend⟩
  · refine Or.inr ⟨Nat.pos_of_ne_zero hz, ?_, ?_⟩
    · rw [hlog]
      rfl
    · obtain ⟨s, hs⟩ := (BufState.privLockedBufdescs_ne_zero_iff _).mp hz
      refine awaits_of hb.respPend ((hb.locked s).mpr hs) ?_ hb.invalid hb.layout
      intro t
      exact (hb.locked t).trans (by simp [GivenBack])

end

/-! ### Runs -/

theorem replies_cons (m : Machine) (i : Step) (ws : List Step) :
    replies (nokiamodem.trace m (i :: ws)) =
      replies (nokiamodem.next m i).2 + replies (nokiamodem.trace (nokiamodem.next m i).1 ws) :=
  replies_append _ _

/-- Without a deferred reply there is none, until the next request. -/
theorem noFurtherReply {m : Machine} (hp : m.buf.speechConfigRespPend = false)
    (ws : List Step) : NoFurtherReply m ws := by
  intro w hw ha
  clear hw
  induction w generalizing m with
  | nil => rfl
  | cons i w ih =>
    obtain ⟨hr, hp'⟩ := next_of_answered ha.1 hp
    rw [replies_cons, hr, ih hp' ha.2]

theorem replies_concat (m : Machine) (ws : List Step) (j : Step) :
    replies (nokiamodem.trace m (ws ++ [j])) =
      replies (nokiamodem.trace m ws) + replies (nokiamodem.next (nokiamodem.exec m ws) j).2 := by
  rw [nokiamodem.trace_append, replies_append, nokiamodem.trace_cons, nokiamodem.trace_nil,
    List.append_nil]

theorem UntilReply.of_concat {m : Machine} {ws : List Step} {j : Step}
    (h : UntilReply m (ws ++ [j])) : UntilReply m ws := by
  intro w₁ j' w₂ hw
  exact h w₁ j' (w₂ ++ [j]) (by rw [hw, List.append_assoc, List.cons_append])

theorem Deferred.nil {b : BufState} {m : Machine} (ha : Awaits b [] m) : Deferred b m [] where
  silent := rfl
  awaits w hw := by rwa [List.prefix_nil.mp hw]

theorem Deferred.last {b : BufState} {m : Machine} {ws : List Step} (h : Deferred b m ws) :
    Awaits b ws (nokiamodem.exec m ws) := h.awaits ws List.prefix_rfl

/-- The reply waits through one more step, if this step makes none and the library goes on
waiting. -/
theorem Deferred.concat {b : BufState} {m : Machine} {ws : List Step} {j : Step}
    (h : Deferred b m ws) (hr : replies (nokiamodem.next (nokiamodem.exec m ws) j).2 = 0)
    (ha : Awaits b (ws ++ [j]) (nokiamodem.next (nokiamodem.exec m ws) j).1) :
    Deferred b m (ws ++ [j]) where
  silent := by rw [replies_concat, h.silent, hr]
  awaits w hw := by
    rcases List.prefix_concat_iff.mp hw with rfl | hw
    · rw [nokiamodem.exec_append]
      exact ha
    · exact h.awaits w hw

/-- A reply that waits is tried by the last release of the run.  The induction is on the run
from its end, since `Awaits` looks back to the request. -/
theorem deferred_or_repliesAt {b : BufState} {m : Machine} {ws : List Step} (ha : Awaits b [] m)
    (hw : UntilReply m ws) :
    Deferred b m ws ∨ ∃ w₁ j w₂ slot, ws = w₁ ++ j :: w₂ ∧ Deferred b m w₁ ∧
      RepliesAt (nokiamodem.exec m w₁) j slot ∧
      (nokiamodem.exec m (w₁ ++ [j])).buf.speechConfigRespPend = false := by
  induction ws using List.reverseRecOn with
  | nil => exact Or.inl (.nil ha)
  | append_singleton ws j ih =>
    rcases ih hw.of_concat with h | ⟨w₁, j', w₂, slot, rfl, h, hrel, hp⟩
    · rcases next_of_awaits (hw ws j [] rfl h.silent) h.last with ⟨hr, ha'⟩ | ⟨slot, hrel, hp⟩
      · exact Or.inl (h.concat hr ha')
      · refine Or.inr ⟨ws, j, [], slot, rfl, h, hrel, ?_⟩
        rw [nokiamodem.exec_append]
        exact hp
    · exact Or.inr ⟨w₁, j', w₂ ++ [j], slot, by simp, h, hrel, hp⟩

/-- **A `SPEECH_CONFIG_REQ` is answered once**, and not while a buffer is held: the reply is tried
in the step of the request, or in the call that gives the last of the buffers back. -/
theorem reply_once (m : Machine) {k : Kernel} {cmd : Cmd} (hc : SpeechConfigReqWord cmd)
    {ws : List Step} (hw : replies (nokiamodem.next m (k, .recv cmd)).2 = 0 →
      UntilReply (nokiamodem.next m (k, .recv cmd)).1 ws) :
    AnsweredOnce m (k, .recv cmd) ws := by
  rcases next_of_request hc with ⟨hfree, hr, hp⟩ | ⟨hheld, hr, ha⟩
  · exact .now hfree hr (noFurtherReply hp ws)
  · rcases deferred_or_repliesAt ha (hw hr) with h | ⟨w₁, j, w₂, slot, rfl, h, hrel, hp⟩
    · exact .waiting hheld hr h.last.kept h
    · exact .later hheld hr rfl h (fun s hs => hrel.givenBack h.last hs) hrel
        (noFurtherReply hp w₂)

/-- Buffer 1 is not held; releasing it again makes no reply, releasing buffer 0 does. -/
theorem reply_once_held :
    AnsweredOnce (nokiamodem.exec Machine.fresh heldBufferRun)
      (.accepting, .recv (speechConfigReqMsg false))
      [(.accepting, .ulBufferRelease (some 1)), (.accepting, .ulBufferRelease (some 0))] := by
  refine reply_once _ (by decide) ?_
  intro _ w₁ j w₂ hw _
  have hj : j ∈ [((.accepting, .ulBufferRelease (some 1)) : Step),
      (.accepting, .ulBufferRelease (some 0))] := by simp [hw]
  simp only [List.mem_cons, List.not_mem_nil, or_false] at hj
  rcases hj with rfl | rfl <;> exact id

end CmtSpeech
