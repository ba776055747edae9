import CmtSpeech.State
import CmtSpeech.Lib.Lts
import Mathlib.Tactic.Ring

/-!
# The poll timer of the dummy backend

The worker thread of the dummy backend (`dummy_common.c`) makes a downlink frame once a
period.  It sleeps in `poll` until the next frame is due; the time a frame was due is kept
as a timestamp, which a frame sent early moves ahead of the clock.

## Main definitions

* `roughDiffNs` — `rough_diff_ns`
* `DummyPollTimer` — `dummy_poll_timer_t`, `DummyPollTimer.prePoll` and the others.
* `deadlineTimeout` — the timeout that ends at the deadline, in full milliseconds.
* `DummyPollTimer.Timely` — when the code computes it.

## Main results

* `prePoll_deadline_iff`
* `lastElapsed_exec` — the timestamp advances by one period for each frame.
-/

namespace CmtSpeech

namespace Timespec

/-- Less than a second in the nanoseconds field, as `clock_gettime` returns its times.  The timer
keeps this of the times it stores. -/
structure Normalised (t : Timespec) : Prop where
  nonneg : 0 ≤ t.tvNsec
  lt : t.tvNsec < 1000000000

/-- The time in nanoseconds, on which the two parts of a `timespec` agree. -/
def ns (t : Timespec) : ℤ := t.tvSec * 1000000000 + t.tvNsec

end Timespec

/-- `rough_diff_ns`: the difference within one second of the clock, and a bound of it or an
approximation otherwise. -/
def roughDiffNs (a b : Timespec) : ℤ :=
  if a.tvSec = b.tvSec then a.tvNsec - b.tvNsec
  else if a.tvSec = b.tvSec + 1 ∧ a.tvNsec - b.tvNsec < 0 then
    999999999 + a.tvNsec - b.tvNsec
  else if a.tvSec > b.tvSec then 999999999
  else -999999999

/-- `dummy_poll_timer_t`: whether and when it elapsed last, when `poll` was prepared, and the
period. -/
structure DummyPollTimer where
  hasElapsed : ℤ
  prepoll : Timespec
  lastElapsed : Timespec
  baseperiodNs : ℤ

namespace DummyPollTimer

/-- `dummy_poll_timer_init`: `prepoll` keeps what is in the memory. -/
def init (self : DummyPollTimer) (periodMs : ℤ) : DummyPollTimer :=
  { self with hasElapsed := 0, baseperiodNs := periodMs * 1000000, lastElapsed := ⟨0, 0⟩ }

variable (self : DummyPollTimer) (now : Timespec)

/-- `dummy_poll_timer_pre_poll`, where `now` is what the clock shows: the timeout, in
milliseconds. -/
def prePoll : ℤ × DummyPollTimer :=
  let self : DummyPollTimer := { self with prepoll := now }
  if self.hasElapsed = 1 then
    let cycle := roughDiffNs self.prepoll self.lastElapsed
    if cycle ≥ self.baseperiodNs then (0, self)
    else ((self.baseperiodNs - cycle).tdiv 1000000 + 1, self)
  else (self.baseperiodNs.tdiv 1000000, self)

/-- `dummy_poll_timer_is_elapsed`: the period is over, or is so within the margin. -/
def isElapsed (marginNs : ℤ) : Bool :=
  roughDiffNs now self.lastElapsed + marginNs ≥ self.baseperiodNs

/-- `dummy_poll_timer_elapsed`: the next period begins now, late as that may be. -/
def elapsed : DummyPollTimer :=
  { self with lastElapsed := now
              hasElapsed := if self.hasElapsed = 0 then 1 else self.hasElapsed }

/-- `dummy_poll_timer_elapsed_fixed_period`: the next period begins where this one ended. -/
def elapsedFixedPeriod : DummyPollTimer :=
  if self.hasElapsed = 0 then { self with hasElapsed := 1, lastElapsed := now }
  else
    let nsec := self.lastElapsed.tvNsec + self.baseperiodNs
    if nsec > 999999999 then
      { self with lastElapsed := ⟨self.lastElapsed.tvSec + 1, nsec - 1000000000⟩ }
    else { self with lastElapsed := { self.lastElapsed with tvNsec := nsec } }

end DummyPollTimer

/-! ### The timeout -/

/-- The timeout when `d` nanoseconds of the period have passed: none at the deadline, and the
first full millisecond after what is left of the period otherwise. -/
def deadlineTimeout (period d : ℤ) : ℤ :=
  if d ≥ period then 0 else (period - d) / 1000000 + 1

/-- The poll does not end before the deadline, nor more than a millisecond after it. -/
theorem deadlineTimeout_spec {period d : ℤ} (h : d < period) :
    period - d < deadlineTimeout period d * 1000000 ∧
      deadlineTimeout period d * 1000000 ≤ period - d + 1000000 := by
  rw [deadlineTimeout, if_neg (by omega)]
  omega

/-- A difference that is one nanosecond short shows at the deadline, and where the timeout
goes up by one. -/
theorem deadlineTimeout_sub_one_iff {p d : ℤ} :
    deadlineTimeout (p * 1000000) (d - 1) = deadlineTimeout (p * 1000000) d ↔
      p * 1000000 < d ∨ d < p * 1000000 ∧ d % 1000000 ≠ 1 := by
  unfold deadlineTimeout
  split_ifs <;> omega

/-- The last of the thousand milliseconds before the timestamp. -/
theorem deadlineTimeout_floor_iff {p d : ℤ} (hp : 0 < p) (hd : -1000000000 < d) (hd' : d < 0) :
    deadlineTimeout (p * 1000000) (-999999999) = deadlineTimeout (p * 1000000) d ↔
      d ≤ -999000000 := by
  rw [deadlineTimeout, deadlineTimeout, if_neg (by omega), if_neg (by omega)]
  omega

/-! ### Seconds -/

/-- Within a second the difference is exact; from one second to the next it is one
nanosecond short, and back to the second before it is as small as it can be. -/
theorem roughDiffNs_cases {a b : Timespec} (ha : a.Normalised) (hb : b.Normalised)
    (hlo : -1000000000 < a.ns - b.ns) (hhi : a.ns - b.ns < 1000000000) :
    a.tvSec = b.tvSec ∧ roughDiffNs a b = a.ns - b.ns ∨
      a.tvSec = b.tvSec + 1 ∧ 0 < a.ns - b.ns ∧ roughDiffNs a b = a.ns - b.ns - 1 ∨
      a.tvSec = b.tvSec - 1 ∧ a.ns - b.ns < 0 ∧ roughDiffNs a b = -999999999 := by
  have ha₀ := ha.nonneg
  have ha₁ := ha.lt
  have hb₀ := hb.nonneg
  have hb₁ := hb.lt
  simp only [Timespec.ns] at hlo hhi ⊢
  unfold roughDiffNs
  rcases lt_trichotomy a.tvSec b.tvSec with hlt | heq | hgt
  · right; right
    rw [if_neg (by omega), if_neg (by omega), if_neg (by omega)]
    omega
  · left
    rw [if_pos heq]
    omega
  · right; left
    rw [if_neg (by omega), if_pos (by omega)]
    omega

namespace DummyPollTimer

variable {self : DummyPollTimer} {now : Timespec}

/-- The timeout for the difference the code computes. -/
theorem prePoll_fst (h : self.hasElapsed = 1) :
    (self.prePoll now).1 =
      deadlineTimeout self.baseperiodNs (roughDiffNs now self.lastElapsed) := by
  unfold prePoll deadlineTimeout
  rw [if_pos h]
  by_cases hge : roughDiffNs now self.lastElapsed ≥ self.baseperiodNs
  · rw [if_pos hge, if_pos hge]
  · have hleft : 0 ≤ self.baseperiodNs - roughDiffNs now self.lastElapsed := by omega
    rw [if_neg hge, if_neg hge]
    exact congrArg (· + 1) (Int.tdiv_eq_ediv_of_nonneg hleft)

/-- How far the clock is past the timestamp of the timer, as a number. -/
def passed (self : DummyPollTimer) (now : Timespec) : ℤ := now.ns - self.lastElapsed.ns

/-- The clock and the timestamp show the same second; or the clock shows the next one, and
the nanosecond that is lost does not matter; or the clock shows the second before, and the
timestamp is almost a second ahead. -/
def Timely (self : DummyPollTimer) (now : Timespec) : Prop :=
  now.tvSec = self.lastElapsed.tvSec ∨
    now.tvSec = self.lastElapsed.tvSec + 1 ∧
      (self.baseperiodNs < self.passed now ∨
        self.passed now < self.baseperiodNs ∧ self.passed now % 1000000 ≠ 1) ∨
    now.tvSec = self.lastElapsed.tvSec - 1 ∧ self.passed now ≤ -999000000

/-- The difference is exact within a second only, or a second less one nanosecond back.  Across
the boundary of a second it is one nanosecond short, since the source adds 999999999 and not a
whole second. -/
def Exact (self : DummyPollTimer) (now : Timespec) : Prop :=
  now.tvSec = self.lastElapsed.tvSec ∨
    now.tvSec = self.lastElapsed.tvSec - 1 ∧ self.passed now = -999999999

end DummyPollTimer

open DummyPollTimer in
/-- **Poll timeouts**: the timeout ends at the deadline of the frame exactly when the clock and
the timestamp show the same second, or where the error of the difference does not matter. -/
theorem prePoll_deadline_iff {timer : DummyPollTimer} {now : Timespec} {p : ℤ} (hp : 0 < p)
    (hperiod : timer.baseperiodNs = p * 1000000) (hnow : now.Normalised)
    (hlast : timer.lastElapsed.Normalised)
    (hlo : -1000000000 < timer.passed now) (hhi : timer.passed now < 1000000000)
    (helapsed : timer.hasElapsed = 1) :
    ((timer.prePoll now).1 = deadlineTimeout timer.baseperiodNs (timer.passed now) ↔
        timer.Timely now) ∧
      (roughDiffNs now timer.lastElapsed = timer.passed now ↔ timer.Exact now) := by
  rw [prePoll_fst helapsed, Timely, Exact, hperiod]
  rcases roughDiffNs_cases hnow hlast hlo hhi with ⟨hsec, hdiff⟩ | ⟨hsec, -, hdiff⟩ |
    ⟨hsec, hneg, hdiff⟩
  · rw [hdiff]
    exact ⟨iff_of_true rfl (.inl hsec), iff_of_true rfl (.inl hsec)⟩
  · have hshort : roughDiffNs now timer.lastElapsed = timer.passed now - 1 := hdiff
    rw [hshort, deadlineTimeout_sub_one_iff]
    omega
  · rw [hdiff, deadlineTimeout_floor_iff hp hlo hneg]
    omega

/-- A timestamp four milliseconds ahead, for a frame sent early at the turn of a second; the
clock shows `earlyNow`. -/
def earlyTimer : DummyPollTimer := ⟨1, ⟨0, 0⟩, ⟨1, 3000000⟩, 20000000⟩

/-- The clock when the frame of `earlyTimer` has been sent. -/
def earlyNow : Timespec := ⟨0, 999000000⟩

theorem prePoll_deadline_iff_early :
    ((earlyTimer.prePoll earlyNow).1 =
        deadlineTimeout earlyTimer.baseperiodNs (earlyTimer.passed earlyNow) ↔
        earlyTimer.Timely earlyNow) ∧
      (roughDiffNs earlyNow earlyTimer.lastElapsed = earlyTimer.passed earlyNow ↔
        earlyTimer.Exact earlyNow) :=
  prePoll_deadline_iff (p := 20) (by decide) rfl ⟨by decide, by decide⟩
    ⟨by decide, by decide⟩ (by decide) (by decide) rfl

/-- The poll is to last 24 milliseconds or a fraction more, and lasts over a second. -/
theorem prePoll_oversleeps :
    earlyTimer.hasElapsed = 1 ∧ earlyTimer.baseperiodNs = 20 * 1000000 ∧
      earlyNow.Normalised ∧ earlyTimer.lastElapsed.Normalised ∧
      earlyTimer.passed earlyNow = -4000000 ∧
      (earlyTimer.prePoll earlyNow).1 = 1020 ∧
      (earlyTimer.prePoll earlyNow).1 ≠
        deadlineTimeout earlyTimer.baseperiodNs (earlyTimer.passed earlyNow) := by
  refine ⟨rfl, rfl, ⟨by decide, by decide⟩, ⟨by decide, by decide⟩, ?_⟩
  decide

/-! ### The frames of the worker thread -/

/-- A call on the timer, by the thread of the dummy backend. -/
inductive PollOp where
  | prePoll
  | isElapsed (marginNs : ℤ)
  | elapsed
  | elapsedFixedPeriod
  deriving DecidableEq

/-- What a call on the timer returns, for the calls that return something. -/
inductive PollObs where
  | timeout (ms : ℤ)
  | elapsed (res : Bool)

/-- The timer, and what the clock shows at each call on it. -/
def pollTimer : Lts DummyPollTimer (Timespec × PollOp) PollObs where
  init timer := ∃ (memory : DummyPollTimer) (periodMs : ℤ), timer = memory.init periodMs
  next timer i := match i.2 with
    | .prePoll => ((timer.prePoll i.1).2, [.timeout (timer.prePoll i.1).1])
    | .isElapsed marginNs => (timer, [.elapsed (timer.isElapsed i.1 marginNs)])
    | .elapsed => (timer.elapsed i.1, [])
    | .elapsedFixedPeriod => (timer.elapsedFixedPeriod i.1, [])

namespace DummyPollTimer

/-- A timer that has elapsed, for a period of less than a second.  From here on its deadlines
follow each other at the distance of the period. -/
structure Running (self : DummyPollTimer) : Prop where
  hasElapsed : self.hasElapsed = 1
  period_nonneg : 0 ≤ self.baseperiodNs
  period_lt : self.baseperiodNs < 1000000000
  normalised : self.lastElapsed.Normalised

variable {self : DummyPollTimer} {now : Timespec}

theorem prePoll_snd : (self.prePoll now).2 = { self with prepoll := now } := by
  unfold prePoll
  dsimp only
  split
  · split <;> rfl
  · rfl

/-- One period more, carried over into the seconds. -/
theorem Running.elapsedFixedPeriod (h : self.Running) (now : Timespec) :
    (self.elapsedFixedPeriod now).Running ∧
      (self.elapsedFixedPeriod now).baseperiodNs = self.baseperiodNs ∧
      (self.elapsedFixedPeriod now).lastElapsed.ns = self.lastElapsed.ns + self.baseperiodNs := by
  obtain ⟨hel, hp₀, hp₁, hn₀, hn₁⟩ := h
  unfold DummyPollTimer.elapsedFixedPeriod
  rw [if_neg (by omega)]
  dsimp only
  split
  -- The period is below a second, so that one second is carried at most.
  · next hcarry =>
    refine ⟨⟨hel, hp₀, hp₁, ⟨?_, ?_⟩⟩, rfl, ?_⟩
    · show 0 ≤ self.lastElapsed.tvNsec + self.baseperiodNs - 1000000000
      omega
    · show self.lastElapsed.tvNsec + self.baseperiodNs - 1000000000 < 1000000000
      omega
    · simp only [Timespec.ns]
      omega
  · next hsame =>
    refine ⟨⟨hel, hp₀, hp₁, ⟨?_, ?_⟩⟩, rfl, ?_⟩
    · show 0 ≤ self.lastElapsed.tvNsec + self.baseperiodNs
      omega
    · show self.lastElapsed.tvNsec + self.baseperiodNs < 1000000000
      omega
    · simp only [Timespec.ns]
      omega

end DummyPollTimer

/-- **Frames are due at a fixed rate**: whatever the clock shows, the timestamp has advanced
by one period for each frame. -/
theorem lastElapsed_exec {timer : DummyPollTimer} (h : timer.Running)
    {is : List (Timespec × PollOp)} (his : ∀ i ∈ is, i.2 ≠ .elapsed) :
    (pollTimer.exec timer is).Running ∧
      (pollTimer.exec timer is).lastElapsed.ns = timer.lastElapsed.ns +
        timer.baseperiodNs * (is.countP fun i => i.2 = .elapsedFixedPeriod) := by
  induction is generalizing timer with
  | nil => simp [h]
  | cons i is ih =>
    obtain ⟨now, op⟩ := i
    obtain ⟨hop, hrest⟩ := List.forall_mem_cons.mp his
    rw [Lts.exec_cons, List.countP_cons]
    cases op with
    | prePoll =>
      have hkeep : (pollTimer.next timer (now, .prePoll)).1 = { timer with prepoll := now } :=
        DummyPollTimer.prePoll_snd
      rw [hkeep]
      have hrun : ({ timer with prepoll := now } : DummyPollTimer).Running := { h with }
      simpa using ih hrun hrest
    | isElapsed marginNs =>
      have hkeep : (pollTimer.next timer (now, .isElapsed marginNs)).1 = timer := rfl
      rw [hkeep]
      simpa using ih h hrest
    -- It would set the timer by the clock, and is not called in these runs.
    | elapsed => exact absurd rfl hop
    | elapsedFixedPeriod =>
      obtain ⟨hrun, hperiod, hns⟩ := h.elapsedFixedPeriod now
      obtain ⟨hrun', hns'⟩ := ih hrun hrest
      refine ⟨hrun', ?_⟩
      show (pollTimer.exec (timer.elapsedFixedPeriod now) is).lastElapsed.ns = _
      rw [hns', hns, hperiod, if_pos (decide_eq_true rfl)]
      push_cast
      ring

end CmtSpeech
