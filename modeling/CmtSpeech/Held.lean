import CmtSpeech.DataStep
import CmtSpeech.DeferredReply

/-!
# A held buffer

From the call that gives it out to the call that takes it back, a buffer is the
application's: its descriptor stays as it is, and a new layout waits.  A
`SPEECH_CONFIG_REQ` is handled that way.  A reset, the layout of a test ramp and the update
of the downlink descriptors are not: they go ahead whoever holds buffers.

* `Op.Releases` — the application gives a buffer back.
* `BufState.Indexed` — a descriptor in use carries its own index.
* `HeldStable` — every buffer held in a run is left alone.
* `Disturbs` — the steps that rewrite descriptors while a buffer is held.

## Main result

* `heldStable_iff`
-/

namespace CmtSpeech

/-- The application gives the buffer `s` back, by the position at which it was given out. -/
def Op.Releases (s : Slot) : Op → Prop
  | .dlBufferRelease i => s = .dl i
  | .ulBufferRelease (some i) => s = .ul i
  | _ => False

/-! ### Indices -/

/-- The marks of a descriptor the application holds or may be given.  Only of such a descriptor is
the index looked at. -/
def InUse (x : BitVec 4) : Prop := x &&& bufLocked ≠ 0 ∨ x &&& bufInvalid = 0

instance (x : BitVec 4) : Decidable (InUse x) := inferInstanceAs (Decidable (_ ∨ _))

theorem inUse_of_invalidate : ∀ x : BitVec 4, InUse (x ||| bufInvalid) → InUse x := by decide

theorem inUse_of_unlock : ∀ x : BitVec 4, InUse (x &&& ~~~bufLocked) → InUse x := by decide

theorem inUse_of_xrun : ∀ x : BitVec 4, InUse (x ||| bufXrun) → InUse x := by decide

theorem inUse_of_unxrun : ∀ x : BitVec 4, InUse (x &&& ~~~bufXrun) → InUse x := by decide

/-- Once one of the descriptors is in use, all carry their own index, so that a buffer which is
given back is the one that was given out. -/
def Indexed {n : ℕ} (desc : Fin n → BufDesc n) : Prop :=
  ∀ i, InUse (desc i).flags → ∀ j, (desc j).bd.index = j

namespace Indexed

variable {n : ℕ} {desc desc' : Fin n → BufDesc n}

theorem of_index (h : ∀ j, (desc j).bd.index = j) : Indexed desc := fun _ _ => h

/-- Indices are kept, and no further descriptor is put to use. -/
theorem of_le (h : Indexed desc) (hi : ∀ j, (desc' j).bd.index = (desc j).bd.index)
    (hu : ∀ j, InUse (desc' j).flags → InUse (desc j).flags) : Indexed desc' := by
  intro i hused j
  rw [hi]
  exact h i (hu i hused) j

/-- The same for one descriptor: its index stays, and it is not in use anew. -/
theorem update (h : Indexed desc) {i : Fin n} {d : BufDesc n}
    (hi : d.bd.index = (desc i).bd.index) (hu : InUse d.flags → InUse (desc i).flags) :
    Indexed (Function.update desc i d) := by
  refine h.of_le ?_ ?_
  · intro j
    by_cases hj : j = i
    · subst hj
      simpa using hi
    · simp [hj]
  · intro j
    by_cases hj : j = i
    · subst hj
      simpa using hu
    · simp [hj]

end Indexed

/-- Both arrays are indexed, so that a buffer that comes back finds its own descriptor. -/
structure BufState.Indexed (b : BufState) : Prop where
  ul : CmtSpeech.Indexed b.ulbufdesc
  dl : CmtSpeech.Indexed b.dlbufdesc

theorem indexed_reset : privResetBufStateToDisconnected.Indexed := by
  have hu : ∀ i, ¬ InUse (privResetBufStateToDisconnected.ulbufdesc i).flags := by decide
  have hd : ∀ i, ¬ InUse (privResetBufStateToDisconnected.dlbufdesc i).flags := by decide
  exact ⟨fun i h => absurd h (hu i), fun i h => absurd h (hd i)⟩

theorem BufState.Indexed.mapFlags {b : BufState} (h : b.Indexed) (s : Slot)
    {f : BitVec 4 → BitVec 4} (hf : ∀ x, InUse (f x) → InUse x) : (b.mapFlags s f).Indexed := by
  cases s with
  | ul i => exact ⟨h.ul.update rfl (hf _), h.dl⟩
  | dl i => exact ⟨h.ul, h.dl.update rfl (hf _)⟩

theorem indexed_invalidate {b : BufState} (h : b.Indexed) :
    (privInvalidateBufferSlots b).Indexed :=
  ⟨h.ul.of_le (fun _ => rfl) fun _ => inUse_of_invalidate _,
    h.dl.of_le (fun _ => rfl) fun _ => inUse_of_invalidate _⟩

/-- No elementary change loses an index: a descriptor in use carries its own. -/
theorem BufStep.indexed {b b' : BufState} (h : BufStep b b') (hb : b.Indexed) : b'.Indexed := by
  cases h with
  | reset => exact indexed_reset
  | layOut area h => exact ⟨.of_index fun _ => rfl, .of_index fun _ => rfl⟩
  | moveDl slotbuf h => exact ⟨hb.ul, .of_index fun _ => rfl⟩
  | defer slotSize => exact indexed_invalidate ⟨hb.ul, hb.dl⟩
  | invalidate => exact indexed_invalidate hb
  | acquireDl i frameFlags spcFlags reserved0 h => exact ⟨hb.ul, hb.dl.update rfl fun _ => .inr h⟩
  | acquireUl i h hl hs => exact ⟨hb.ul.update rfl fun _ => .inr h, hb.dl⟩
  | release slot => exact hb.mapFlags slot inUse_of_unlock
  | overrun i => exact hb.mapFlags (.dl i) inUse_of_xrun
  | reportOverrun i => exact hb.mapFlags (.dl i) inUse_of_unxrun
  | fillUl i frameFlags => exact ⟨hb.ul.update rfl id, hb.dl⟩
  | fillDl i frameFlags => exact ⟨hb.ul, hb.dl.update rfl id⟩
  | _ => exact ⟨hb.ul, hb.dl⟩

theorem indexed_next (m : Machine) (i : Step) (h : m.buf.Indexed) :
    (nokiamodem.next m i).1.buf.Indexed :=
  next_buf_invariant (fun _ _ hs => hs.indexed) m i h

/-- A buffer the application holds is taken back by its own release alone. -/
theorem released_iff {b : BufState} (h : b.Indexed) {s : Slot} (hs : b.Locked s) (op : Op) :
    op.released b = some s ↔ op.Releases s := by
  cases op with
  | dlBufferRelease i =>
    rw [Op.released, Option.some.injEq]
    cases s with
    | ul j => exact iff_of_false (by simp) (by simp [Op.Releases])
    | dl j =>
      rw [h.dl j (.inl hs) i]
      exact eq_comm
  | ulBufferRelease buf =>
    cases buf with
    | none => exact iff_of_false (by simp [Op.released]) id
    | some i =>
      rw [Op.released, Option.some.injEq]
      cases s with
      | ul j =>
        rw [h.ul j (.inl hs) i]
        exact eq_comm
      | dl j => exact iff_of_false (by simp) (by simp [Op.Releases])
  | _ => exact iff_of_false (by simp [Op.released]) id

/-! ### Disturbing a held buffer -/

/-- The operation rewrites descriptors, or asks the driver for a layout, while the
application holds a buffer. -/
inductive Disturbs (m : Machine) (op : Op) : Prop
  | reset {s : Slot} (hs : m.buf.Locked s) (h : ResetsBuffers m.bcstate op)
  | relay {s : Slot} (hs : m.buf.Locked s) (h : Relays m.buf.slotSize op)
  | dropDl {i : Fin dlSlots} {slotbuf : Fin dlSlots → Ptr} (hs : m.buf.Locked (.dl i))
      (h : MovesDl m op slotbuf)
  -- only uplink buffers are held, and the downlink frames are elsewhere
  | moveDl {s : Slot} {i : Fin dlSlots} {slotbuf : Fin dlSlots → Ptr} (hs : m.buf.Locked s)
      (h : MovesDl m op slotbuf)
      (hl : m.buf.layout (.dl i) ≠ .of (slotbuf i) m.buf.slotSize i)

/-- A call that gives a buffer back rewrites no descriptor. -/
theorem Op.Releases.rewrites_nothing {s : Slot} {op : Op} (h : op.Releases s) (m : Machine) :
    ¬ ResetsBuffers m.bcstate op ∧ ¬ Relays m.buf.slotSize op ∧ ¬ Postpones m.buf op ∧
      ∀ slotbuf, ¬ MovesDl m op slotbuf := by
  match op, h with
  | .dlBufferRelease _, _ => exact ⟨id, id, id, fun _ hm => nomatch hm⟩
  | .ulBufferRelease (some _), _ => exact ⟨id, id, id, fun _ hm => nomatch hm⟩

theorem Disturbs.not_releases {m : Machine} {op : Op} (h : Disturbs m op) (s : Slot) :
    ¬ op.Releases s := by
  intro hr
  obtain ⟨h₁, h₂, -, h₃⟩ := hr.rewrites_nothing m
  cases h with
  | reset hs h => exact h₁ h
  | relay hs h => exact h₂ h
  | dropDl hs h => exact h₃ _ h
  | moveDl hs h hl => exact h₃ _ h

/-! ### One step -/

theorem buf_of_movesDl (k : Kernel) {m : Machine} {op : Op} {slotbuf : Fin dlSlots → Ptr}
    (h : MovesDl m op slotbuf) : (op.run k m.begin).buf = m.buf.movedDl slotbuf := by
  cases h with
  | ssiConfigResp hc hr hz hp hs =>
    exact (data_ssiConfigResp k m hc hr).2.2 _ (.ssiConfigResp hc hr hz hp hs)

/-- As long as the application keeps a buffer, no reply is made. -/
theorem not_comesToReply {b : BufState} (h : b.Indexed) {s : Slot} (hs : b.Locked s) {op : Op}
    (hr : ¬ op.Releases s) : ¬ ComesToReply b op := by
  rw [comesToReply_iff ((BufState.privLockedBufdescs_ne_zero_iff b).mpr ⟨s, hs⟩)]
  rintro ⟨-, t, ht, h0⟩
  refine (BufState.privLockedBufdescs_eq_zero_iff _).mp h0 s ?_
  rw [BufState.locked_unlock]
  refine ⟨hs, ?_⟩
  rintro rfl
  exact hr ((released_iff h hs op).mp ht)

/-- A buffer is held after a step because it was given out in it, or held before and not
given back. -/
theorem locked_next {m : Machine} (hi : m.buf.Indexed) (i : Step) {s : Slot}
    (hs : (nokiamodem.next m i).1.buf.Locked s) :
    i.2.acquired m = some s ∨ m.buf.Locked s ∧ ¬ i.2.Releases s := by
  have hstep := dataStep m i
  have hkeep (hl : m.buf.Locked s) (hr : ¬ i.2.Releases s) :
      i.2.acquired m = some s ∨ m.buf.Locked s ∧ ¬ i.2.Releases s := Or.inr ⟨hl, hr⟩
  generalize (nokiamodem.next m i).2.filter Obs.dataPath = o at hstep
  generalize (nokiamodem.next m i).1.buf = b' at hstep hs
  cases hstep with
  | keep h hn =>
    rcases (h.locked s).mp hs with ha | ⟨hl, hr⟩
    · exact Or.inl ha
    · exact hkeep hl fun h => hr ((released_iff hi hl i.2).mpr h)
  | postpone h hb => exact hkeep ((hb.locked s).mp hs) fun hr => (hr.rewrites_nothing m).2.2.1 h
  | reply h ho hb => exact absurd hs (hb.free s)
  | reset h => exact absurd hs (answered_reset.free s)
  | relay h hl => exact hkeep (hl s hs) fun hr => (hr.rewrites_nothing m).2.1 h
  | moveDl h =>
    cases s with
    | ul j => exact hkeep hs fun hr => (hr.rewrites_nothing m).2.2.2 _ h
    | dl j => exact absurd hs (BufState.not_locked_of_flags rfl)

/-- The driver is not asked for a layout: there is no `CS_CONFIG_BUFS` in the trace, whatever its
answer. -/
def NoLayout (out : List Obs) : Prop := ∀ n r, .configBufs n r ∉ out

theorem noLayout_of_filter {out : List Obs} (h : out.filter Obs.dataPath = []) :
    NoLayout out := by
  intro n r hm
  have : Obs.configBufs n r ∈ out.filter Obs.dataPath := List.mem_filter.mpr ⟨hm, rfl⟩
  simp [h] at this

/-- A buffer held before a step that does not disturb it. -/
theorem held_next {m : Machine} (hi : m.buf.Indexed) {i : Step} {s : Slot}
    (hs : m.buf.Locked s) (hr : ¬ i.2.Releases s) (hd : ¬ Disturbs m i.2) :
    (nokiamodem.next m i).1.buf.Locked s ∧
      (∀ t, (nokiamodem.next m i).1.buf.layout t = m.buf.layout t) ∧
      NoLayout (nokiamodem.next m i).2 := by
  have hstep := dataStep m i
  have hout : (nokiamodem.next m i).2.filter Obs.dataPath = [] →
      NoLayout (nokiamodem.next m i).2 := noLayout_of_filter
  generalize (nokiamodem.next m i).2.filter Obs.dataPath = o at hstep hout
  generalize (nokiamodem.next m i).1.buf = b' at hstep ⊢
  cases hstep with
  | keep h hn =>
    refine ⟨(h.locked s).mpr (Or.inr ⟨hs, ?_⟩), h.layout, hout rfl⟩
    exact fun ho => hr ((released_iff hi hs i.2).mp ho)
  | postpone h hb => exact ⟨(hb.locked s).mpr hs, hb.layout, hout rfl⟩
  -- The reply is made when no buffer is held, and `s` is.
  | reply h ho hb => exact absurd h (not_comesToReply hi hs hr)
  | reset h => exact absurd (.reset hs h) hd
  | relay h hl => exact absurd (.relay hs h) hd
  | moveDl h =>
    refine ⟨?_, ?_, hout rfl⟩
    · cases s with
      | ul j => exact hs
      | dl j => exact absurd (.dropDl hs h) hd
    · intro t
      cases t with
      | ul j => rfl
      | dl j =>
        by_contra hl
        exact hd (.moveDl hs h fun heq => hl heq.symm)

/-! ### Runs -/

/-- Through the steps `js` from `m` on, the application keeps the buffer `s`, no descriptor
gets another layout, and the driver is not asked for one. -/
structure StaysPut (m : Machine) (s : Slot) (js : List Step) : Prop where
  locked : (nokiamodem.exec m js).buf.Locked s
  layout : ∀ t, (nokiamodem.exec m js).buf.layout t = m.buf.layout t
  noLayout : NoLayout (nokiamodem.trace m js)

/-- From the call that gives a buffer out until it is given back, the buffer stays put: its layout
stays, it stays held, and the driver is not asked to move it. -/
def HeldStable (m : Machine) (is : List Step) : Prop :=
  ∀ p₁ a p₂ p₃ s, is = p₁ ++ a :: (p₂ ++ p₃) →
    a.2.acquired (nokiamodem.exec m p₁) = some s → (∀ j ∈ p₂, ¬ j.2.Releases s) →
      StaysPut (nokiamodem.exec m (p₁ ++ [a])) s p₂

/-- What a call gives out is the application's, from that call on. -/
theorem locked_of_acquired {m : Machine} {i : Step} {s : Slot} (h : i.2.acquired m = some s) :
    (nokiamodem.next m i).1.buf.Locked s :=
  ((keeps_of_acquired h).locked s).mpr (Or.inl h)

/-- What the application holds it was given, and has not given back since. -/
theorem locked_since {m : Machine} (hm : nokiamodem.init m) {is : List Step} {s : Slot}
    (hs : (nokiamodem.exec m is).buf.Locked s) :
    ∃ p₁ a p₂, is = p₁ ++ a :: p₂ ∧ a.2.acquired (nokiamodem.exec m p₁) = some s ∧
      ∀ j ∈ p₂, ¬ j.2.Releases s := by
  obtain ⟨area, old, rfl⟩ := hm
  refine nokiamodem.exec_since (I := fun m => m.buf.Indexed) (P := fun m => m.buf.Locked s)
    (A := fun m i => i.2.acquired m = some s) (K := fun i => ¬ i.2.Releases s)
    indexed_next ?_ indexed_reset (answered_reset.free s) hs
  intro m i hi hl
  exact locked_next hi i hl

/-- In a run that disturbs no held buffer, a buffer that is not given back stays put. -/
theorem staysPut_of_along {m : Machine} (hi : m.buf.Indexed) {s : Slot} (hs : m.buf.Locked s)
    {js : List Step} (hr : ∀ j ∈ js, ¬ j.2.Releases s)
    (hd : nokiamodem.Along (fun m i => ¬ Disturbs m i.2) m js) : StaysPut m s js := by
  induction js generalizing m with
  | nil => exact ⟨hs, fun _ => rfl, fun n r hm => by simp at hm⟩
  | cons j js ih =>
    obtain ⟨hl, hlayout, hno⟩ := held_next hi hs (hr j List.mem_cons_self) hd.1
    have hrest := ih (indexed_next m j hi) hl (fun i hi => hr i (List.mem_cons_of_mem j hi)) hd.2
    refine ⟨hrest.locked, fun t => (hrest.layout t).trans (hlayout t), ?_⟩
    intro n r hm
    rcases List.mem_append.mp hm with hm | hm
    · exact hno n r hm
    · exact hrest.noLayout n r hm

/-- A disturbed buffer does not stay put: after the step it is not held, lies elsewhere, or the
driver was asked for a layout. -/
theorem Disturbs.not_staysPut {m : Machine} {i : Step} (h : Disturbs m i.2) :
    ∃ s, m.buf.Locked s ∧ ∀ m₁ js, nokiamodem.exec m₁ js = m → StaysPut m₁ s js →
      ¬ StaysPut m₁ s (js ++ [i]) := by
  obtain ⟨k, op⟩ := i
  have hnext {m₁ : Machine} {js : List Step} (hm : nokiamodem.exec m₁ js = m) :
      nokiamodem.exec m₁ (js ++ [(k, op)]) = op.run k m.begin := by
    rw [Lts.exec_append, hm]
    rfl
  cases h with
  | @reset s hs h =>
    refine ⟨s, hs, ?_⟩
    intro m₁ js hm _ hput
    have hl := hput.locked
    rw [hnext hm, buf_of_resetsBuffers k h] at hl
    exact answered_reset.free s hl
  -- A ramp that is relayed asks the driver for a layout; a run with `StaysPut` has no such call.
  | @relay s hs h =>
    refine ⟨s, hs, ?_⟩
    intro m₁ js hm _ hput
    obtain ⟨⟨n, r, hlog⟩, -⟩ := data_of_relays k h
    refine hput.noLayout n r ?_
    rw [Lts.trace_append, hm]
    exact List.mem_append_right _ (List.mem_append_left _ (List.mem_filter.mp hlog).1)
  | @dropDl j slotbuf hs h =>
    refine ⟨.dl j, hs, ?_⟩
    intro m₁ js hm _ hput
    have hl := hput.locked
    rw [hnext hm, buf_of_movesDl k h] at hl
    exact BufState.not_locked_of_flags rfl hl
  | @moveDl s j slotbuf hs h hne =>
    refine ⟨s, hs, fun m₁ js hm hput hput' => hne ?_⟩
    have hbefore := hput.layout (.dl j)
    have hafter := hput'.layout (.dl j)
    rw [hm] at hbefore
    rw [hnext hm, buf_of_movesDl k h] at hafter
    exact hbefore.trans hafter.symm

/-- **A held buffer is stable** throughout a run from `cmtspeech_open`, if and only if no step
of the run rewrites descriptors while one is held. -/
theorem heldStable_iff {m : Machine} (hm : nokiamodem.init m) (is : List Step) :
    HeldStable m is ↔ nokiamodem.Along (fun m i => ¬ Disturbs m i.2) m is := by
  rw [Lts.along_iff_forall_split]
  constructor
  · rintro h pre i post rfl hd
    obtain ⟨s, hs, hnot⟩ := hd.not_staysPut
    -- the buffer was given out at `a` and kept through `p₂`
    obtain ⟨p₁, a, p₂, rfl, ha, hr⟩ := locked_since hm hs
    have hput := h p₁ a p₂ (i :: post) s (by simp) ha hr
    have hput' := h p₁ a (p₂ ++ [i]) post s (by simp) ha fun j hj => by
      rcases List.mem_append.mp hj with hj | hj
      · exact hr j hj
      · exact List.mem_singleton.mp hj ▸ hd.not_releases s
    refine hnot _ p₂ ?_ hput hput'
    rw [← Lts.exec_append, List.append_assoc]
    rfl
  · rintro h p₁ a p₂ p₃ s rfl ha hr
    have hidx : (nokiamodem.exec m (p₁ ++ [a])).buf.Indexed :=
      buf_reachable indexed_reset (fun _ _ hs => hs.indexed) ⟨m, _, hm, rfl⟩
    have hl : (nokiamodem.exec m (p₁ ++ [a])).buf.Locked s := by
      rw [Lts.exec_append]
      exact locked_of_acquired ha
    refine staysPut_of_along hidx hl hr ((nokiamodem.along_iff_forall_split _ _ _).mpr ?_)
    intro pre i post heq
    have hd := h (p₁ ++ [a] ++ pre) i (post ++ p₃) (by simp [heq])
    rwa [Lts.exec_append] at hd

/-- A call in which a buffer is given out and back, as an instance. -/
theorem heldStable_fresh :
    HeldStable Machine.fresh (heldBufferRun ++ [(.accepting, .ulBufferRelease (some 0))]) ↔
      nokiamodem.Along (fun m i => ¬ Disturbs m i.2) Machine.fresh
        (heldBufferRun ++ [(.accepting, .ulBufferRelease (some 0))]) :=
  heldStable_iff init_fresh _

/-- The modem repeats its `SSI_CONFIG_RESP` while the application holds a downlink buffer. -/
def repeatedRespRun : List Step :=
  [(.accepting, .stateChangeCallStatus true), (.accepting, .recv (msgEncodeSsiConfigResp 1 0)),
    (.accepting, .recv (speechConfigReqMsg true)),
    (.accepting, .recv (privMsgEncodeDriverMessage csRxDataReceived 0)),
    (.accepting, .dlBufferAcquire true), (.accepting, .recv (msgEncodeSsiConfigResp 1 0))]

/-- The library forgets that the buffer is held, although every system call of the run succeeds. -/
theorem heldStable_repeatedResp :
    nokiamodem.init Machine.fresh ∧
      (∀ i ∈ repeatedRespRun, i.1.WritesSucceed ∧ i.1.IoctlsSucceed) ∧
      ¬ HeldStable Machine.fresh repeatedRespRun := by
  refine ⟨init_fresh, ?_, ?_⟩
  · simp only [repeatedRespRun, List.forall_mem_cons, accepting_writesSucceed,
      accepting_ioctlsSucceed]
    simp
  · intro h
    have hput := h (repeatedRespRun.take 4) (.accepting, .dlBufferAcquire true)
      [(.accepting, .recv (msgEncodeSsiConfigResp 1 0))] [] (.dl 0) rfl (by decide)
      (by simp [Op.Releases])
    exact absurd hput.locked (by decide)

end CmtSpeech
