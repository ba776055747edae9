import CmtSpeech.Uplink

/-!
# The pause of the uplink

The library sends no frames any more when `ul_errors` has reached `MAX_UL_ERRORS_PAUSE`, until
the driver announces a downlink frame or takes a new layout.  `ul_errors` is declared as the
number of consecutive errors; a frame that is sent does not reset it.

* `sendsSince` — the frames sent since the errors were last forgotten.
* `PauseDue` — what is to pause the uplink.
* `ProperlyPaused` — it is paused for no other reason.
* `PausesEarly` — the releases that pause it after too few errors in a row.

## Main result

* `properlyPaused_iff`
-/

namespace CmtSpeech

/-- The results of the frames sent since a downlink frame was last announced or a layout asked
for, the last one first. -/
def sendsSince (g : List WriteRes) : Obs → List WriteRes
  | .recv cmd => if RxDataWord cmd then [] else g
  | .configBufs _ _ => []
  | .writeData _ w => w :: g
  | _ => g

/-- The backend with the results of the frames sent since the errors were last forgotten, which is
what `ul_errors` is judged by. -/
def frameResults : Lts (Machine × List WriteRes) Step Obs := nokiamodem.withGhost [] sendsSince

/-- One send failed with an error other than `EBUSY`, or the last `MAX_UL_ERRORS_PAUSE` all
failed.  `g` has the results of the sends since the errors were last forgotten, the last one
first. -/
def PauseDue (g : List WriteRes) : Prop :=
  (∃ w ∈ g, w.Broken) ∨
    maxUlErrorsPause ≤ g.length ∧ ∀ w ∈ g.take maxUlErrorsPause, ¬ w.Complete

/-- The errors do not exceed the maximum, and reach it only when a pause is due, so that the
uplink is not paused for errors that lie apart. -/
def ProperlyPaused (m : Machine) (g : List WriteRes) : Prop :=
  m.buf.ulErrors ≤ maxUlErrorsPause ∧ (maxUlErrorsPause ≤ m.buf.ulErrors → PauseDue g)

instance (g : List WriteRes) : Decidable (PauseDue g) := inferInstanceAs (Decidable (_ ∨ _))

instance (m : Machine) (g : List WriteRes) : Decidable (ProperlyPaused m g) :=
  inferInstanceAs (Decidable (_ ∧ _))

/-- The kernel is too busy for a frame, the errors reach the maximum with it, and a frame was
sent in between. -/
def PausesEarly (m : Machine) (g : List WriteRes) (i : Step) : Prop :=
  (∃ j, Sends m i.2 j) ∧ (i.1.write 0).Busy ∧ m.buf.ulErrors = maxUlErrorsPause - 1 ∧
    ∃ w ∈ g.take (maxUlErrorsPause - 1), w.Complete

/-- Below the maximum, the errors are the sends that found the kernel busy, for any other failure
sets them to the maximum at once. -/
def CountsBusy (m : Machine) (g : List WriteRes) : Prop :=
  m.buf.ulErrors < maxUlErrorsPause →
    (∀ w ∈ g, ¬ w.Broken) ∧ m.buf.ulErrors = g.countP fun w => w.Busy

/-! ### Steps -/

/-- Without frames, the errors and the results stay, or both are forgotten. -/
theorem foldl_frameless {out : List Obs} (h : out.filter Obs.isFrame = []) (u : Uplink)
    (g : List WriteRes) :
    (out.foldl Uplink.step u).errors = u.errors ∧ out.foldl sendsSince g = g ∨
      (out.foldl Uplink.step u).errors = 0 ∧ out.foldl sendsSince g = [] := by
  induction out generalizing u g with
  | nil => exact Or.inl ⟨rfl, rfl⟩
  | cons o out ih =>
    have hrest : out.filter Obs.isFrame = [] :=
      List.filter_eq_nil_iff.mpr fun x hx =>
        List.filter_eq_nil_iff.mp h x (List.mem_cons_of_mem o hx)
    have hframe : o.isFrame = false :=
      Bool.eq_false_of_not_eq_true (List.filter_eq_nil_iff.mp h o List.mem_cons_self)
    -- `o` does nothing, or forgets the errors
    have ho : (u.step o).errors = u.errors ∧ sendsSince g o = g ∨
        (u.step o).errors = 0 ∧ sendsSince g o = [] := by
      cases o with
      | recv cmd =>
        rw [Uplink.step, sendsSince]
        split
        · exact Or.inr ⟨rfl, rfl⟩
        · exact Or.inl ⟨rfl, rfl⟩
      | configBufs n r => exact Or.inr ⟨rfl, rfl⟩
      | writeData msg w => exact absurd hframe (by simp [Obs.isFrame])
      | _ => exact Or.inl ⟨rfl, rfl⟩
    rw [List.foldl_cons, List.foldl_cons]
    rcases ih hrest (u.step o) (sendsSince g o) with ⟨he, hg⟩ | h
    · rcases ho with ⟨he', hg'⟩ | ⟨he', hg'⟩
      · exact Or.inl ⟨he.trans he', hg.trans hg'⟩
      · exact Or.inr ⟨he.trans he', hg.trans hg'⟩
    · exact Or.inr h

section
variable {m : Machine} {g : List WriteRes}

/-- A step without a frame leaves the errors and the history of sends, or clears both. -/
theorem frameless_next {i : Step} (h : ∀ j, ¬ Sends m i.2 j) :
    (nokiamodem.next m i).1.buf.ulErrors = m.buf.ulErrors ∧
        (nokiamodem.next m i).2.foldl sendsSince g = g ∨
      (nokiamodem.next m i).1.buf.ulErrors = 0 ∧
        (nokiamodem.next m i).2.foldl sendsSince g = [] := by
  have herrors := congrArg Uplink.errors (uplink_next m i)
  rcases frames_next m i with ⟨j, w, hs, -⟩ | ⟨-, hout⟩
  · exact absurd hs (h j)
  · have hfold := foldl_frameless hout m.uplink g
    rw [← herrors] at hfold
    exact hfold

/-- A step that sends a frame: it is allowed to, the result goes into the history, and the errors
are counted by it. -/
theorem frame_next {k : Kernel} {op : Op} {j : Fin ulSlots} (h : Sends m op j) :
    m.buf.ulErrors < maxUlErrorsPause ∧
      (nokiamodem.next m (k, op)).2.foldl sendsSince g = k.write 0 :: g ∧
      (nokiamodem.next m (k, op)).1.buf.ulErrors =
        if (k.write 0).Complete then m.buf.ulErrors
        else if (k.write 0).Busy then m.buf.ulErrors + 1 else maxUlErrorsPause := by
  have hout := out_of_sends (k := k) h
  have herrors := congrArg Uplink.errors (uplink_next m (k, op))
  rw [hout, List.foldl_cons, List.foldl_nil, Uplink.step, Uplink.sent] at herrors
  refine ⟨?_, by rw [hout]; rfl, ?_⟩
  · cases h with
    | release hp he hs => exact he
  · refine herrors.trans ?_
    split_ifs <;> rfl

theorem countsBusy_next (hc : CountsBusy m g) (i : Step) :
    CountsBusy (nokiamodem.next m i).1 ((nokiamodem.next m i).2.foldl sendsSince g) := by
  obtain ⟨k, op⟩ := i
  by_cases hs : ∃ j, Sends m op j
  · obtain ⟨j, hs⟩ := hs
    obtain ⟨hlt, hg, he⟩ := frame_next (k := k) (g := g) hs
    obtain ⟨hnone, hcount⟩ := hc hlt
    rw [CountsBusy, hg, he, List.forall_mem_cons, List.countP_cons]
    by_cases hw : (k.write 0).Complete
    · have hb : ¬ (k.write 0).Busy := fun hb => hb.not_complete hw
      rw [if_pos hw]
      exact fun _ => ⟨⟨fun h => h.1 hw, hnone⟩, by simp [hb, hcount]⟩
    · rw [if_neg hw]
      by_cases hb : (k.write 0).Busy
      · rw [if_pos hb]
        exact fun _ => ⟨⟨fun h => h.2 hb, hnone⟩, by simp [hb, hcount]⟩
      · rw [if_neg hb]
        exact fun h => absurd h (lt_irrefl _)
  · rcases frameless_next (g := g) (i := (k, op)) (not_exists.mp hs) with ⟨he, hg⟩ | ⟨he, hg⟩
    · rw [CountsBusy, he, hg]
      exact hc
    · rw [CountsBusy, he, hg]
      exact fun _ => ⟨fun w hw => absurd hw List.not_mem_nil, rfl⟩

/-- One step keeps the pause proper if and only if it does not pause early. -/
theorem properlyPaused_next_iff (hc : CountsBusy m g) (hp : ProperlyPaused m g) (i : Step) :
    ProperlyPaused (nokiamodem.next m i).1 ((nokiamodem.next m i).2.foldl sendsSince g) ↔
      ¬ PausesEarly m g i := by
  obtain ⟨k, op⟩ := i
  by_cases hs : ∃ j, Sends m op j
  · obtain ⟨j, hsend⟩ := id hs
    obtain ⟨hlt, hg, he⟩ := frame_next (k := k) (g := g) hsend
    obtain ⟨hnone, hcount⟩ := hc hlt
    rw [ProperlyPaused, PausesEarly, and_iff_right hs, hg, he]
    -- A frame that is sent does not count as an error, and one that fails with another error pauses
    -- at once.
    by_cases hw : (k.write 0).Complete
    · rw [if_pos hw]
      exact iff_of_true ⟨hlt.le, fun h => absurd hlt (not_lt.mpr h)⟩ fun h => h.1.not_complete hw
    · rw [if_neg hw]
      by_cases hb : (k.write 0).Busy
      · rw [if_pos hb, and_iff_right hb]
        by_cases hlast : m.buf.ulErrors = maxUlErrorsPause - 1
        · -- the fifth error: what counts is whether the four sends before it have failed
          have hlen : maxUlErrorsPause - 1 ≤ g.length := by
            rw [← hlast, hcount]
            exact List.countP_le_length
          have hdue : PauseDue (k.write 0 :: g) ↔
              ∀ w ∈ g.take (maxUlErrorsPause - 1), ¬ w.Complete := by
            constructor
            · rintro (⟨w, hmem, hbroken⟩ | ⟨-, hall⟩)
              · rcases List.mem_cons.mp hmem with rfl | hmem
                · exact absurd hb hbroken.2
                · exact absurd hbroken (hnone w hmem)
              · exact fun w hmem => hall w (List.mem_cons_of_mem _ hmem)
            · intro hall
              exact Or.inr ⟨Nat.succ_le_succ hlen, List.forall_mem_cons.mpr ⟨hw, hall⟩⟩
          have hfive : m.buf.ulErrors + 1 = maxUlErrorsPause := by omega
          rw [and_iff_right hlast, hfive, hdue, and_iff_right le_rfl]
          simp
        · refine iff_of_true ⟨hlt, fun h => ?_⟩ fun h => hlast h.1
          omega
      · rw [if_neg hb]
        refine iff_of_true ⟨le_rfl, fun _ => Or.inl ⟨_, List.mem_cons_self, hw, hb⟩⟩ ?_
        exact fun h => hb h.1
  · have hearly : ¬ PausesEarly m g (k, op) := fun h => hs h.1
    refine iff_of_true ?_ hearly
    rcases frameless_next (g := g) (i := (k, op)) (not_exists.mp hs) with ⟨he, hg⟩ | ⟨he, hg⟩
    · rw [ProperlyPaused, he, hg]
      exact hp
    · rw [ProperlyPaused, he]
      exact ⟨Nat.zero_le _, fun h => absurd h (by decide)⟩

end

/-- **The uplink is paused by consecutive errors** throughout a run, if and only if no frame
finds the kernel busy while `ul_errors` is one below the maximum and one of the frames just
before it was sent. -/
theorem properlyPaused_iff {m : Machine} (h : nokiamodem.init m) (is : List Step) :
    frameResults.Always (fun p => ProperlyPaused p.1 p.2) (m, []) is ↔
      frameResults.Along (fun p i => ¬ PausesEarly p.1 p.2 i) (m, []) is := by
  obtain ⟨area, old, rfl⟩ := h
  refine frameResults.always_iff_along (I := fun p => CountsBusy p.1 p.2) (P := fun _ _ => True)
    (fun p i hc _ _ _ => countsBusy_next hc i)
    (fun p i hc hq _ => properlyPaused_next_iff hc hq i) ?_ ?_ (frameResults.along_true _ _)
  · exact fun _ => ⟨fun w hw => absurd hw List.not_mem_nil, rfl⟩
  · exact ⟨Nat.zero_le _, fun h => absurd h (Nat.not_succ_le_zero _)⟩

/-- A kernel that is busy: every write is refused with `EBUSY`, and the other calls succeed. -/
def Kernel.busy : Kernel := { Kernel.accepting with write := fun _ => ⟨-1, ebusy⟩ }

/-- The application takes uplink buffer `i` and has it sent. -/
def frameSent (k : Kernel) (i : Fin ulSlots) : List Step :=
  [(.accepting, .ulBufferAcquire true), (k, .ulBufferRelease (some i))]

/-- Four frames find the kernel busy, one is sent, and one finds the kernel busy again. -/
def busyAgainRun : List Step :=
  heldBufferRun.take 4 ++ frameSent .busy 0 ++ frameSent .busy 1 ++ frameSent .busy 0 ++
    frameSent .busy 1 ++ frameSent .accepting 0 ++ frameSent .busy 1

theorem properlyPaused_fresh :
    frameResults.Always (fun p => ProperlyPaused p.1 p.2) (Machine.fresh, []) busyAgainRun ↔
      frameResults.Along (fun p i => ¬ PausesEarly p.1 p.2 i) (Machine.fresh, []) busyAgainRun :=
  properlyPaused_iff init_fresh busyAgainRun

/-- The next frame is refused after one error, since a frame that was sent has not cleared the
four before it. -/
theorem properlyPaused_busyAgain :
    nokiamodem.init Machine.fresh ∧
      ¬ frameResults.Always (fun p => ProperlyPaused p.1 p.2) (Machine.fresh, []) busyAgainRun ∧
      (ulBufferRelease .accepting (some 0)
        (nokiamodem.exec Machine.fresh busyAgainRun).begin).1 = -ebusy := by
  refine ⟨init_fresh, ?_, by decide +kernel⟩
  intro h
  have hend : ¬ ProperlyPaused (frameResults.exec (Machine.fresh, []) busyAgainRun).1
      (frameResults.exec (Machine.fresh, []) busyAgainRun).2 := by
    decide +kernel
  exact hend (h busyAgainRun List.prefix_rfl)

end CmtSpeech
