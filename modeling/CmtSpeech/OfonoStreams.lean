import CmtSpeech.OfonoTest

/-!
# The streams of the call client

The client opens and closes its audio streams by what it makes of the events, one transition at a
time, and exits when the stream that records does not fit the state of the protocol.  A reset, a
state that is lost and an uplink that a `TIMING_CONFIG_NTF` starts are transitions it does not
know how to follow.

* `Streams.neededIn` — the streams a state calls for.
* `Severs`, `WordSevers` — the changes the client does not follow.
* `OfonoCtx.Breaks` — the steps that make one.

## Main results

* `ofonoTest_streams_iff`
* `ofonoTest_exits_iff`
-/

namespace CmtSpeech

open Protocol

/-! ### The streams and the state -/

/-- The streams the state calls for: one that records with the uplink, and one that plays with
either direction. -/
def Streams.neededIn (s : ProtoState) : Streams where
  source := s = .activeDlul
  sink := s = .activeDl ∨ s = .activeDlul
  ulActive := s = .activeDlul
  dlActive := s = .activeDl ∨ s = .activeDlul

/-- The streams fit the state: those are open that the state needs, and no others.  Unless
`strict`, the one that plays may be left open when the call is over, which the client does when
the modem resets. -/
def Streams.Fits (strict : Bool) (st : Streams) (s : ProtoState) : Prop :=
  st = neededIn s ∨
    strict = false ∧ s ≠ .activeDl ∧ s ≠ .activeDlul ∧ st = neededIn .activeDl

/-- What `test_handle_cmtspeech_control` does to the streams while PulseAudio works. -/
def Streams.follow (st : Streams) : StateTransition → Streams
  | .tr3DlStart => { st with dlActive := true, sink := true, source := st.source || st.ulActive }
  | .tr4DlulStop => ⟨false, false, false, false⟩
  | .tr11UlStop => { st with ulActive := false, source := false }
  | .tr12UlStart => { st with ulActive := true, source := st.source || st.dlActive }
  | _ => st

/-- Speech is lost on the way from `s` to `t`: the uplink, or if `strict` the downlink alone as
well.  The client opens and closes its streams on the transitions that the library reports, and
for this one it closes none. -/
def Severs (strict : Bool) (s t : ProtoState) : Prop :=
  (s = .activeDlul ∨ strict = true ∧ s = .activeDl) ∧ (t = .disconnected ∨ t = .invalid)

/-- The client does not follow what a word does: it loses the speech, or starts the uplink in the
way of a legacy modem. -/
def WordSevers (strict : Bool) (cmd : Cmd) (s t : ProtoState) : Prop :=
  Severs strict s t ∨ TimingConfigNtfWord cmd ∧ s = .activeDl

section
variable {strict : Bool} {st : Streams} {s t : ProtoState}

theorem Streams.Fits.source (h : st.Fits strict s) : st.source = decide (s = .activeDlul) := by
  rcases h with rfl | ⟨-, -, hs, rfl⟩
  · rfl
  · simp [neededIn, hs]

theorem Streams.Fits.sink (h : st.Fits strict s) (hs : s = .activeDl ∨ s = .activeDlul) :
    st.sink = true := by
  rcases h with rfl | ⟨-, h₁, h₂, -⟩
  · simpa [neededIn] using hs
  · exact absurd hs (not_or.mpr ⟨h₁, h₂⟩)

theorem Streams.Fits.loose (h : st.Fits strict s) : st.Fits false s := by
  rcases h with h | ⟨-, h⟩
  · exact .inl h
  · exact .inr ⟨rfl, h⟩

end

/-- An event is about the word that queues it: it tells the states before and after, and its type
that of the message. -/
theorem RecvEvents.told {k : Kernel} {cmd : Cmd} {v v' : View} {e : Event}
    (h : RecvEvents k cmd v v' [e]) :
    e.prevState = v.bc.protoState ∧ e.state = v'.bc.protoState ∧
      (e.msgType = timingConfigNtf ↔ TimingConfigNtfWord cmd) ∧
      (e.msgType = timingConfigNtf →
        e.state = if e.prevState = .activeDl then .activeDlul else e.prevState) ∧
      (e.msgType = eventReset → e.state = .disconnected) := by
  cases h with
  | control hd hu ht hc e tstamp he =>
    refine ⟨he.prevState, he.state, ?_⟩
    rw [he.msgType, he.prevState, he.state, eventType, TimingConfigNtfWord]
    cases hc with
    -- The uplink is started from ACTIVE_DL, and the state is left alone otherwise.
    | timing ht =>
      simp only [hd, ht]
      refine ⟨by decide, fun _ => ?_, fun h => absurd h (by decide)⟩
      obtain ⟨hs, heq⟩ | ⟨hs, hp, heq⟩ | ⟨hs, heq⟩ := bcHandleTimingConfigNtf_cases v.bc <;>
        simp [heq, hs]
    | speechConfig ht | uplink ht | ssiResp ht =>
      simp only [hd, ht]
      exact ⟨by decide, fun h => absurd h (by decide), fun h => absurd h (by decide)⟩
    | resetReq ht | resetResp ht =>
      simp only [hd, ht]
      exact ⟨by decide, fun h => absurd h (by decide), fun _ => rfl⟩
    | resetRespConnect ht hp h =>
      simp only [hd, ht]
      exact ⟨by decide, fun h => absurd h (by decide), fun _ => h.protoState⟩
  | csError hd ht e he hv =>
    refine ⟨he.prevState, ?_⟩
    rw [he.state, he.msgType, hv, TimingConfigNtfWord, hd]
    exact ⟨rfl, iff_of_false (by decide) fun h => absurd h.1 (by decide),
      fun h => absurd h (by decide), fun _ => rfl⟩

/-- The transitions the client follows, by the states of the event. -/
theorem Streams.follow_event (st : Streams) (e : Event) :
    st.follow (eventToStateTransition e) =
      if e.prevState = .connected ∧ e.state = .activeDl then st.follow .tr3DlStart
      else if (e.prevState = .activeDl ∨ e.prevState = .activeDlul) ∧ e.state = .connected then
        st.follow .tr4DlulStop
      else if e.msgType = timingConfigNtf ∨ e.msgType = eventReset then st
      else if e.prevState = .activeDlul ∧ e.state = .activeDl then st.follow .tr11UlStop
      else if e.prevState = .activeDl ∧ e.state = .activeDlul then st.follow .tr12UlStart
      else st := by
  obtain ⟨t, s, type, msg⟩ := e
  unfold eventToStateTransition
  dsimp only
  by_cases ht : type = timingConfigNtf
  · cases s <;> cases t <;> simp [ht, follow]
  · by_cases hr : type = eventReset <;> cases s <;> cases t <;> simp [ht, hr, follow]

section
variable {op : Op} {bc : BcState} {out : List Obs} {strict : Bool} {st : Streams} {e : Event}
  (hmoves : Moves op bc out e.prevState e.state)
  (htiming : e.msgType = timingConfigNtf →
    e.state = if e.prevState = .activeDl then .activeDlul else e.prevState)
  (hreset : e.msgType = eventReset → e.state = .disconnected)
  (hfits : st.Fits strict e.prevState)

include hmoves htiming hreset hfits

/-- The streams fit after an event exactly if the client follows what has happened. -/
theorem Streams.fits_follow_iff :
    (st.follow (eventToStateTransition e)).Fits strict e.state ↔
      ¬ (Severs strict e.prevState e.state ∨
        e.msgType = timingConfigNtf ∧ e.prevState = .activeDl) := by
  obtain ⟨t, s, type, msg⟩ := e
  rw [follow_event]
  dsimp only at hmoves htiming hreset hfits ⊢
  cases hmoves with
  | refl =>
    rcases hfits with rfl | ⟨rfl, hdl, hul, rfl⟩ <;> cases t <;>
      simp_all [Streams.Fits, neededIn, Severs]
  | single h =>
    cases h with
    -- these two start anywhere
    | error | reset =>
      rcases hfits with rfl | ⟨rfl, hdl, hul, rfl⟩ <;> cases s <;>
        simp_all [Streams.Fits, neededIn, Severs]
    | _ =>
      rcases hfits with rfl | ⟨rfl, hdl, hul, rfl⟩ <;>
        simp_all [Streams.Fits, neededIn, follow, Severs]

/-- The stream that records is right after an event exactly if the client follows what has
happened to the uplink. -/
theorem Streams.source_follow_iff :
    (st.follow (eventToStateTransition e)).source = decide (e.state = .activeDlul) ↔
      ¬ (Severs false e.prevState e.state ∨
        e.msgType = timingConfigNtf ∧ e.prevState = .activeDl) := by
  refine ⟨?_, fun h => ((fits_follow_iff hmoves htiming hreset hfits.loose).mpr h).source⟩
  rintro hs (⟨hul | ⟨hn, -⟩, ht⟩ | ⟨hty, hdl⟩)
  -- the uplink is lost, and all streams stay open
  · obtain rfl : st = neededIn .activeDlul := by simpa [Fits, hul] using hfits
    rw [follow_event] at hs
    rcases ht with ht | ht <;> simp [hul, ht, neededIn] at hs
  · cases hn
  · obtain rfl : st = neededIn .activeDl := by simpa [Fits, hdl] using hfits
    rw [follow_event] at hs
    simp [htiming hty, hdl, hty, neededIn] at hs

end

/-- No event makes the client stop at its assertion. -/
theorem eventToStateTransition_ne (e : Event) : eventToStateTransition e ≠ .tr0NoChange := by
  unfold eventToStateTransition
  split_ifs <;> nofun

/-! ### Parts of a pass -/

/-- PulseAudio works: every stream can be opened, and no call on one fails. -/
def OfonoStep.Works : OfonoStep → Prop
  | .pass env =>
    (env.top.latency = true ∧ env.first.latency = true ∧ env.after.latency = true) ∧
      env.download.latency = true ∧ env.newSink = true ∧ env.newSource = true
  | .dbus _ _ => True

namespace OfonoCtx

/-- The client goes on, and its streams fit the state; it tries the upload only once before there
is a connection. -/
structure Good (strict : Bool) (evbuf : List Event) (ctx : OfonoCtx) : Prop where
  exit : ctx.exit = none
  keeping : Keeping none evbuf ctx.lib
  fits : ctx.toStreams.Fits strict ctx.lib.bcstate.protoState
  first : ctx.first = true → ctx.lib.bcstate.protoState = .disconnected

variable {ctx : OfonoCtx} {strict : Bool} {evbuf : List Event} {r : OfonoCtx × List Obs}

/-- A part of the loop that changes nothing keeps the client good, if it goes on. -/
theorem Good.idles (h : Good strict evbuf ctx) (hr : Idles evbuf ctx r) (hx : r.1.exit = none) :
    Good strict evbuf r.1 where
  exit := hx
  keeping := hr.keeping hx
  fits := by
    rw [hr.streams, hr.bcstate]
    exact h.fits
  first := by
    rw [hr.bcstate]
    exact fun hf => h.first (hr.first hf)

theorem exit_uploadFirst (ctx : OfonoCtx) (env : PassEnv) :
    (ctx.uploadFirst env).1.exit = none ↔
      ctx.exit = none ∧ (ctx.first = true →
        ctx.source = decide (ctx.lib.bcstate.protoState = .activeDlul) ∧
          (ctx.source = true → env.first.latency = true)) := by
  unfold uploadFirst
  split
  · next hf => simp [exit_upload, hf]
  · next hf => simp [hf]

/-- A download goes on if there is a stream to play it. -/
theorem exit_download (env : DownloadEnv) (hx : ctx.exit = none) (hl : env.latency = true)
    (hs : ctx.lib.bcstate.isActive = true → ctx.sink = true) :
    (ctx.testHandleCmtspeechDataDownload env).1.exit = none := by
  unfold testHandleCmtspeechDataDownload
  split
  · next ha =>
    dsimp only
    split
    · exact hx
    · rw [hs ha, hl]
      exact hx
  · exact hx

theorem wrongSource_upload {env : UploadEnv}
    (h : ctx.source ≠ decide (ctx.lib.bcstate.protoState = .activeDlul)) :
    (ctx.testHandleCmtspeechDataUpload env).1.exit = some .wrongSource := by
  rw [testHandleCmtspeechDataUpload, if_pos h]

theorem first_uploadFirst (ctx : OfonoCtx) (env : PassEnv) :
    (ctx.uploadFirst env).1.first = false := by
  unfold uploadFirst
  split
  · rfl
  · next hf => exact Bool.eq_false_iff.mpr hf

/-- While PulseAudio works the client follows each transition. -/
theorem follow_working (ctx : OfonoCtx) (hx : ctx.exit = none) {tr : StateTransition}
    (htr : tr ≠ .tr0NoChange) :
    (ctx.follow tr true true).toStreams = ctx.toStreams.follow tr ∧
      (ctx.follow tr true true).exit = none ∧ (ctx.follow tr true true).first = ctx.first := by
  obtain ⟨⟨source, sink, ul, dl⟩, lib, status, first, cr, dr, dp, exit⟩ := ctx
  obtain rfl : exit = none := hx
  cases tr with
  | tr0NoChange => exact absurd rfl htr
  | tr3DlStart => cases ul <;> cases source <;> exact ⟨rfl, rfl, rfl⟩
  | tr12UlStart => cases dl <;> cases source <;> exact ⟨rfl, rfl, rfl⟩
  | _ => exact ⟨rfl, rfl, rfl⟩

theorem exit_andThen (f : OfonoCtx → OfonoCtx × List Obs) :
    (andThen r f).1.exit = none ↔ r.1.exit = none ∧ (f r.1).1.exit = none := by
  unfold andThen
  split
  · next hx => exact ⟨fun h => ⟨hx, h⟩, And.right⟩
  · next hx => exact ⟨fun h => absurd h hx, fun h => absurd h.1 hx⟩

theorem andThen_fst (hx : r.1.exit = none) (f : OfonoCtx → OfonoCtx × List Obs) :
    (andThen r f).1 = (f r.1).1 := by
  rw [andThen, if_pos hx]

/-! ### A word -/

theorem Good.top (h : Good strict [] ctx) {env : PassEnv} (hl : env.top.latency = true) :
    Good strict [] (ctx.top env).1 := by
  refine h.idles (idles_top h.keeping env) ?_
  have hfits := h.fits.source
  unfold OfonoCtx.top poll
  cases hs : ctx.source with
  | false => simpa [hs] using h.exit
  | true =>
    rw [hs] at hfits
    simp only [hs, if_true, exit_upload]
    exact ⟨h.exit, hfits, fun _ => hl⟩

theorem Good.uploadFirst (h : Good strict evbuf ctx) {env : PassEnv}
    (hl : env.first.latency = true) : Good strict evbuf (ctx.uploadFirst env).1 :=
  h.idles (idles_uploadFirst h.keeping env)
    ((exit_uploadFirst ctx env).mpr ⟨h.exit, fun _ => ⟨h.fits.source, fun _ => hl⟩⟩)

theorem Good.download (h : Good strict evbuf ctx) {env : DownloadEnv} (hl : env.latency = true) :
    Good strict evbuf (ctx.testHandleCmtspeechDataDownload env).1 :=
  h.idles (idles_download h.keeping env) <| exit_download env h.exit hl fun hs =>
    h.fits.sink ((BcState.isActive_iff _).mp hs)

/-- A word without an event leaves the client where it is: there is nothing to follow. -/
theorem Good.silent (h : Good strict evbuf ctx) {flags : BitVec 4}
    (hc : flags &&& eventControl = 0) {env : PassEnv} (hw : OfonoStep.Works (.pass env)) :
    Good strict evbuf (ctx.handleFlags flags env).1 := by
  obtain ⟨⟨-, hfirst, -⟩, hdl, -⟩ := hw
  refine h.idles (idles_handleFlags h.keeping hc env) ?_
  have h₁ := h.uploadFirst hfirst
  unfold handleFlags
  rw [exit_andThen, exit_andThen, andThen_fst h₁.exit, if_neg (not_not.mpr hc)]
  split
  · exact ⟨⟨h₁.exit, (h₁.download hdl).exit⟩, (h₁.download hdl).exit⟩
  · exact ⟨⟨h₁.exit, h₁.exit⟩, h₁.exit⟩

/-- An event is read and followed: the streams are opened and closed by the transition it stands
for. -/
theorem control_working {e : Event} (h : Keeping none [e] ctx.lib) (hx : ctx.exit = none)
    {env : PassEnv} (hw : OfonoStep.Works (.pass env)) :
    (ctx.testHandleCmtspeechControl env).1.toStreams =
        ctx.toStreams.follow (eventToStateTransition e) ∧
      (ctx.testHandleCmtspeechControl env).1.exit = none ∧
      (ctx.testHandleCmtspeechControl env).1.first = ctx.first := by
  obtain ⟨-, -, hsink, hsource⟩ := hw
  obtain ⟨-, -, hread, -⟩ := h.readEvent env.pending
  unfold testHandleCmtspeechControl
  dsimp only
  rw [hread, hsink, hsource]
  exact follow_working (ctx.call env.pending .readEvent).1 hx (eventToStateTransition_ne e)

/-- What comes of an event.  The streams have been right for the state `s` before the word, and
the client goes on exactly if the stream that records is right for the state after it. -/
theorem event_working (ctx : OfonoCtx) {e : Event} {s : ProtoState} (h : Keeping none [e] ctx.lib)
    (hx : ctx.exit = none) (hfits : ctx.toStreams.Fits strict s)
    (hfirst : ctx.first = true → s ≠ .activeDlul ∧ ctx.lib.bcstate.protoState ≠ .activeDlul)
    {env : PassEnv} (hw : OfonoStep.Works (.pass env)) :
    (ctx.handleFlags eventControl env).1.exit =
        (if (ctx.toStreams.follow (eventToStateTransition e)).source =
          decide (ctx.lib.bcstate.protoState = .activeDlul) then none else some .wrongSource) ∧
      (ctx.handleFlags eventControl env).1.toStreams =
        ctx.toStreams.follow (eventToStateTransition e) ∧
      (ctx.handleFlags eventControl env).1.lib.bcstate = ctx.lib.bcstate ∧
      (ctx.handleFlags eventControl env).1.first = false := by
  have hidle := idles_uploadFirst h env
  -- the upload before the event is read finds the old streams and the new state
  have hx₁ : (ctx.uploadFirst env).1.exit = none := by
    refine (exit_uploadFirst ctx env).mpr ⟨hx, fun hf => ⟨?_, fun _ => hw.1.2.1⟩⟩
    rw [hfits.source, decide_eq_false (hfirst hf).1, decide_eq_false (hfirst hf).2]
  have hk₁ := hidle.keeping hx₁
  obtain ⟨hk₂, hbc₂, -⟩ := keeping_control hk₁ env
  obtain ⟨hst₂, hx₂, hf₂⟩ := control_working hk₁ hx₁ hw
  have hup := idles_upload hk₂ env.after
  rw [hidle.streams] at hst₂
  rw [handleFlags_event, andThen_fst hx₁, andThen_fst hx₂, hup.streams, hup.bcstate, hbc₂,
    hidle.bcstate, hst₂]
  refine ⟨?_, rfl, rfl, ?_⟩
  · rw [← hst₂, ← hidle.bcstate, ← hbc₂]
    split
    · next hs => exact (exit_upload _ _).mpr ⟨hx₂, hs, fun _ => hw.1.2.2⟩
    · next hs => exact wrongSource_upload hs
  refine Bool.eq_false_iff.mpr fun hf => ?_
  have hf' := (hup.first hf).symm.trans (hf₂.trans (first_uploadFirst ctx env))
  cases hf'

/-! ### Steps -/

/-- What a step comes to: the client goes on unless `broken false`, and its streams fit unless
`broken strict`. -/
structure Outcome (strict : Bool) (broken : Bool → Prop) (ctx' : OfonoCtx) : Prop where
  goesOn : ¬ broken false → ctx'.exit = none
  exits : broken false → ctx'.exit = some .wrongSource
  keeping : ctx'.exit = none → Keeping none [] ctx'.lib
  fits : ctx'.toStreams.Fits strict ctx'.lib.bcstate.protoState ↔ ¬ broken strict
  first : ctx'.first = true → ctx'.lib.bcstate.protoState = .disconnected

theorem Good.outcome (h : Good strict [] ctx) {broken : Bool → Prop} (hb : ∀ b, ¬ broken b) :
    Outcome strict broken ctx :=
  ⟨fun _ => h.exit, fun h => absurd h (hb false), fun _ => h.keeping,
    iff_of_true h.fits (hb strict), h.first⟩

/-- The word that is read takes the streams apart: after it they do not fit the state any more,
since the client does not follow such a transition. -/
def BreaksAt (strict : Bool) (ctx : OfonoCtx) (env : PassEnv) : Prop :=
  ctx.cmtRevents = true ∧ ∃ cmd, env.word = some cmd ∧
    WordSevers strict cmd ctx.lib.bcstate.protoState
      (nokiamodem.next ctx.lib (env.pending, .recv cmd)).1.bcstate.protoState

/-- No word leads from the state before the first one to the uplink. -/
theorem Good.first_ne (h : Good strict evbuf ctx) (hf : ctx.first = true) (k : Kernel) (cmd : Cmd) :
    ctx.lib.bcstate.protoState ≠ .activeDlul ∧
      (nokiamodem.next ctx.lib (k, .recv cmd)).1.bcstate.protoState ≠ .activeDlul := by
  have hmoves := moves_next (i := (k, .recv cmd)) h.keeping.wellFormed
  rw [h.first hf] at hmoves ⊢
  generalize (nokiamodem.next ctx.lib (k, .recv cmd)).1.bcstate.protoState = t at hmoves
  refine ⟨by decide, ?_⟩
  rintro rfl
  cases hmoves with
  | single h => cases h

/-- What comes of a word with an event: the client goes on with the streams that fit, unless the
word severs them. -/
theorem event_outcome {e : Event} (h : Good strict [] ctx) {env : PassEnv} {cmd : Cmd}
    (hw : OfonoStep.Works (.pass env))
    (hrecv : RecvEvents env.pending cmd ctx.lib.view
      (nokiamodem.next ctx.lib (env.pending, .recv cmd)).1.view [e])
    (hkeep : Keeping none [e] (nokiamodem.next ctx.lib (env.pending, .recv cmd)).1) :
    Outcome strict (fun b => WordSevers b cmd ctx.lib.bcstate.protoState
        (nokiamodem.next ctx.lib (env.pending, .recv cmd)).1.bcstate.protoState)
      ((ctx.call env.pending (.recv cmd)).1.handleFlags eventControl env).1 := by
  obtain ⟨hprev, hstate, hword, htiming, hreset⟩ := hrecv.told
  have hprev : e.prevState = ctx.lib.bcstate.protoState := hprev
  have hstate : e.state =
    (nokiamodem.next ctx.lib (env.pending, .recv cmd)).1.bcstate.protoState := hstate
  obtain ⟨hexit, hstreams, hbc, hf⟩ := event_working (ctx.call env.pending (.recv cmd)).1 hkeep
    h.exit h.fits (fun hf => h.first_ne hf env.pending cmd) hw
  -- The event tells the state before and after; which of the moves it is decides about the streams.
  have hmoves := moves_next (i := (env.pending, .recv cmd)) h.keeping.wellFormed
  have hfits := h.fits
  rw [← hprev, ← hstate] at hmoves
  rw [← hprev] at hfits
  have hsource := Streams.source_follow_iff hmoves htiming hreset hfits
  have hfollow := Streams.fits_follow_iff hmoves htiming hreset hfits
  rw [hword, hprev, hstate] at hsource hfollow
  refine ⟨?_, ?_, (settled_handleFlags_event hkeep env).keeping, ?_, ?_⟩
  · exact fun hb => hexit.trans (if_pos (hsource.mpr hb))
  · exact fun hb => hexit.trans (if_neg fun hs => hsource.mp hs hb)
  · rw [hstreams, hbc]
    exact hfollow
  · rw [hf]
    nofun

/-- What a word queues is read and followed in the same pass, so that no event is left for the
next. -/
theorem word_outcome (h : Good strict [] ctx) {env : PassEnv} {cmd : Cmd} {es : List Event}
    (hw : OfonoStep.Works (.pass env))
    (hes : (nokiamodem.next ctx.lib (env.pending, .recv cmd)).2.filterMap Obs.event? = es)
    (hrecv : RecvEvents env.pending cmd ctx.lib.view
      (nokiamodem.next ctx.lib (env.pending, .recv cmd)).1.view es)
    (hkeep : Keeping none es (nokiamodem.next ctx.lib (env.pending, .recv cmd)).1) :
    Outcome strict (fun b => WordSevers b cmd ctx.lib.bcstate.protoState
        (nokiamodem.next ctx.lib (env.pending, .recv cmd)).1.bcstate.protoState)
      (if (checkPending env.pending true (some cmd) ctx.lib.begin).1 > 0 then
        (ctx.call env.pending (.recv cmd)).1.handleFlags
          (checkPending env.pending true (some cmd) ctx.lib.begin).2.1 env
      else ctx.call env.pending (.recv cmd)).1 := by
  have hrecv' := hrecv
  cases hrecv with
  | silent hword hs =>
    have hstate : (nokiamodem.next ctx.lib (env.pending, .recv cmd)).1.bcstate.protoState =
        ctx.lib.bcstate.protoState := hs
    have hgood : Good strict [] (ctx.call env.pending (.recv cmd)).1 := by
      refine ⟨h.exit, hkeep, ?_, fun hf => hstate.trans (h.first hf)⟩
      exact hstate ▸ h.fits
    -- the state stays, and a `TIMING_CONFIG_NTF` would have queued an event
    have hbroken : ∀ b, ¬ WordSevers b cmd ctx.lib.bcstate.protoState
        (nokiamodem.next ctx.lib (env.pending, .recv cmd)).1.bcstate.protoState := by
      rintro b (⟨hb, ht⟩ | ⟨⟨hd, ht⟩, -⟩)
      · rw [hstate] at ht
        rcases ht with ht | ht <;> rw [ht] at hb <;> simp at hb
      · exact hword (.inl ⟨hd, by rw [ht]; decide, by rw [ht]; decide⟩)
    split
    · exact (hgood.silent (checkPending_noEvent _ _ hes) hw).outcome hbroken
    · exact hgood.outcome hbroken
  | control | csError =>
    obtain ⟨hres, hflags⟩ := checkPending_event _ _ hes
    rw [hres, hflags, if_pos one_pos]
    exact event_outcome h hw hrecv' hkeep

theorem handleCmt_outcome (h : Good strict [] ctx) {env : PassEnv}
    (hw : OfonoStep.Works (.pass env)) :
    Outcome strict (fun b => ctx.BreaksAt b env) (ctx.handleCmt env).1 := by
  unfold handleCmt BreaksAt
  split
  · next hrev =>
    match hword : env.word with
    | none =>
      have hgood : Good strict [] (ctx.call env.pending (.checkPending true none)).1 :=
        ⟨h.exit, ⟨h.keeping.wellFormed, h.keeping.indexed, h.keeping.respPend, h.keeping.locked,
          h.keeping.evbuf⟩, h.fits, h.first⟩
      refine hgood.outcome fun b => ?_
      rintro ⟨-, cmd, hcmd, -⟩
      cases hcmd
    | some cmd =>
      obtain ⟨es, hes, hrecv, hkeep, -⟩ := h.keeping.recv env.pending cmd
      have hout := word_outcome h hw hes hrecv hkeep
      have hbroken : (fun b => ctx.cmtRevents = true ∧ ∃ c, some cmd = some c ∧
          WordSevers b c ctx.lib.bcstate.protoState
            (nokiamodem.next ctx.lib (env.pending, .recv c)).1.bcstate.protoState) =
          fun b => WordSevers b cmd ctx.lib.bcstate.protoState
            (nokiamodem.next ctx.lib (env.pending, .recv cmd)).1.bcstate.protoState := by
        simp [hrev]
      rw [hbroken]
      dsimp only
      split at hout
      · next hres =>
        rw [if_pos hres, andThen_fst h.exit]
        exact hout
      · next hres =>
        rw [if_neg hres]
        exact hout
  · next hrev => exact h.outcome fun b hb => hrev hb.1

/-- The client does not follow what this step does: it reads a word that takes its streams apart,
or D-Bus tells it of a call status that does, for which there is no event. -/
def Breaks (strict : Bool) (ctx : OfonoCtx) : OfonoStep → Prop
  | .pass env => ctx.Reads env ∧ ∃ cmd, env.word = some cmd ∧
      WordSevers strict cmd ctx.lib.bcstate.protoState
        (nokiamodem.next (ctx.top env).1.lib (env.pending, .recv cmd)).1.bcstate.protoState
  | .dbus k state => (ctx.dbusPolled = true ∧ ctx.dbusRevents = true) ∧
      state ≠ ctx.callServerStatus ∧ Severs strict ctx.lib.bcstate.protoState
        (nokiamodem.next ctx.lib (k, .stateChangeCallStatus state)).1.bcstate.protoState

theorem pass_outcome (h : Good strict [] ctx) {env : PassEnv}
    (hw : OfonoStep.Works (.pass env)) :
    Outcome strict (fun b => ctx.Breaks b (.pass env)) (ctx.testMainloopPass env).1 := by
  have htop := h.top hw.1.1
  have hbc := (idles_top h.keeping env).bcstate
  have hout := handleCmt_outcome htop hw
  have hbroken : (fun b => ctx.Breaks b (.pass env)) = fun b => (ctx.top env).1.BreaksAt b env := by
    funext b
    rw [Breaks, BreaksAt, reads_iff h.exit, hbc, and_iff_right htop.exit]
  rw [hbroken, testMainloopPass, andThen_fst htop.exit]
  exact hout

end OfonoCtx

/-! ### Messages of D-Bus -/

/-- A change of the call status may take the protocol state from `s` to `t`.  The client takes no
notice of these changes, since they come without an event. -/
def CallMoves (s t : ProtoState) : Prop :=
  t = s ∨ (s = .activeDl ∨ s = .activeDlul) ∧ t = .disconnected ∨
    (s = .invalid ∨ s = .testRampPingActive) ∧ t = .invalid

theorem Protocol.CallStatus.callMoves {k : Kernel} {b : Bool} {v v' : View} {o : List Obs}
    (h : CallStatus k b v o v') : CallMoves v.bc.protoState v'.bc.protoState := by
  cases h with
  | disconnect h₁ hs h => exact .inl h.protoState
  | connect hs h => exact .inl h.protoState
  | reset hs h =>
    cases h with
    | full n hw => exact .inr (.inr ⟨hs, rfl⟩)
    | _ => exact .inl rfl
  | crashed hs hc hi h => exact .inr (.inl ⟨hs, h.protoState⟩)
  | _ => exact .inl rfl

theorem callMoves_next (m : Machine) (k : Kernel) (b : Bool) :
    CallMoves m.bcstate.protoState
      (nokiamodem.next m (k, .stateChangeCallStatus b)).1.bcstate.protoState := by
  have hproto : ProtoStep k (.stateChangeCallStatus b) _ _ _ :=
    nokiamodem_refines m (k, .stateChangeCallStatus b)
  show CallMoves m.view.bc.protoState
    (nokiamodem.next m (k, .stateChangeCallStatus b)).1.view.bc.protoState
  generalize (nokiamodem.next m (k, .stateChangeCallStatus b)).1.view = v' at hproto ⊢
  generalize nokiamodem.visible Obs.visible m (k, .stateChangeCallStatus b) = o at hproto
  cases hproto with
  | callStatus h => exact h.callMoves

/-- The streams stay as they are, and fit unless the speech is lost. -/
theorem Streams.Fits.callMoves_iff {strict : Bool} {st : Streams} {s t : ProtoState}
    (h : st.Fits strict s) (hm : CallMoves s t) : st.Fits strict t ↔ ¬ Severs strict s t := by
  rcases hm with rfl | ⟨rfl | rfl, rfl⟩ | ⟨rfl | rfl, rfl⟩
  · refine iff_of_true h ?_
    rintro ⟨hs, rfl | rfl⟩ <;> simp at hs
  all_goals
    rcases h with rfl | ⟨rfl, hdl, hul, rfl⟩ <;> simp_all [Streams.Fits, neededIn, Severs]

namespace OfonoCtx

variable {ctx : OfonoCtx} {strict : Bool}

/-- The library's state after a message of D-Bus; the rest of the client is what it was. -/
theorem dbus_same (ctx : OfonoCtx) (k : Kernel) (state : Bool) :
    let ctx' := (ofonoTest.next ctx (.dbus k state)).1
    ctx'.exit = ctx.exit ∧ ctx'.toStreams = ctx.toStreams ∧ ctx'.first = ctx.first ∧
      (ctx'.lib = ctx.lib ∧ (ctx.exit = none → ∀ b, ¬ ctx.Breaks b (.dbus k state)) ∨
        ctx'.lib = (nokiamodem.next ctx.lib (k, .stateChangeCallStatus state)).1 ∧
          ∀ b, ctx.Breaks b (.dbus k state) ↔ Severs b ctx.lib.bcstate.protoState
            (nokiamodem.next ctx.lib (k, .stateChangeCallStatus state)).1.bcstate.protoState) := by
  simp only [ofonoTest, Breaks]
  split
  · next hx =>
    split
    · next hr =>
      unfold testHandleDbusOfono
      split
      · next hne => exact ⟨rfl, rfl, rfl, .inr ⟨rfl, fun b => by simp [hr, hne]⟩⟩
      · next heq => exact ⟨rfl, rfl, rfl, .inl ⟨rfl, fun _ b hb => heq hb.2.1⟩⟩
    · next hr => exact ⟨rfl, rfl, rfl, .inl ⟨rfl, fun _ b hb => hr hb.1⟩⟩
  · next hx => exact ⟨rfl, rfl, rfl, .inl ⟨rfl, fun h => absurd h hx⟩⟩

theorem dbus_outcome (h : Good strict [] ctx) (k : Kernel) (state : Bool) :
    let ctx' := (ofonoTest.next ctx (.dbus k state)).1
    ctx'.exit = none ∧ Keeping none [] ctx'.lib ∧
      (ctx'.toStreams.Fits strict ctx'.lib.bcstate.protoState ↔
        ¬ ctx.Breaks strict (.dbus k state)) ∧
      (ctx'.first = true → ctx'.lib.bcstate.protoState = .disconnected) := by
  obtain ⟨hexit, hstreams, hfirst, hlib⟩ := dbus_same ctx k state
  have hkeep := (step_spec (fun _ => h.keeping) (.dbus k state)).1
  generalize (ofonoTest.next ctx (.dbus k state)).1 = ctx' at *
  refine ⟨hexit.trans h.exit, hkeep (hexit.trans h.exit), ?_⟩
  rw [hstreams, hfirst]
  rcases hlib with ⟨hlib, hb⟩ | ⟨hlib, hb⟩
  · rw [hlib]
    exact ⟨iff_of_true h.fits (hb h.exit strict), h.first⟩
  · have hm := callMoves_next ctx.lib k state
    rw [hlib, hb]
    refine ⟨h.fits.callMoves_iff hm, fun hf => ?_⟩
    rw [h.first hf] at hm
    rcases hm with hm | ⟨hm | hm, -⟩ | ⟨hm | hm, -⟩
    · exact hm
    all_goals cases hm

/-! ### Runs -/

theorem next_pass (hx : ctx.exit = none) (env : PassEnv) :
    ofonoTest.next ctx (.pass env) = ctx.testMainloopPass env := if_pos hx

theorem next_exit (hx : ctx.exit ≠ none) (step : OfonoStep) :
    ofonoTest.next ctx step = (ctx, []) := if_neg hx

theorem Breaks.of_uplink {step : OfonoStep} (h : ctx.Breaks false step) :
    ctx.Breaks strict step := by
  have hs {s t : ProtoState} (h : Severs false s t) : Severs strict s t :=
    ⟨.inl (h.1.resolve_right fun h => nomatch h.1), h.2⟩
  cases step with
  | pass env =>
    obtain ⟨hr, cmd, hcmd, hb⟩ := h
    exact ⟨hr, cmd, hcmd, hb.imp_left hs⟩
  | dbus k state =>
    obtain ⟨hr, hne, hb⟩ := h
    exact ⟨hr, hne, hs hb⟩

/-- A step the client follows leaves it running, with the streams that fit the state. -/
theorem Good.next (h : Good strict [] ctx) {step : OfonoStep} (hw : step.Works)
    (hb : ¬ ctx.Breaks strict step) : Good strict [] (ofonoTest.next ctx step).1 := by
  cases step with
  | pass env =>
    have hout := pass_outcome h hw
    rw [next_pass h.exit]
    have hx := hout.goesOn fun hb' => hb hb'.of_uplink
    exact ⟨hx, hout.keeping hx, hout.fits.mpr hb, hout.first⟩
  | dbus k state =>
    obtain ⟨hx, hkeep, hfits, hfirst⟩ := dbus_outcome h k state
    exact ⟨hx, hkeep, hfits.mpr hb, hfirst⟩

/-- The client has found the stream that records wrong, or will in its next pass: it records while
the library is not in `ACTIVE_DLUL`, which `test_mainloop` takes for an error, and exits. -/
def Doomed (ctx : OfonoCtx) : Prop :=
  ctx.exit = some .wrongSource ∨
    ctx.exit = none ∧ ctx.source = true ∧ ctx.lib.bcstate.protoState ≠ .activeDlul

theorem Doomed.pass (h : ctx.Doomed) (env : PassEnv) :
    (ofonoTest.next ctx (.pass env)).1.exit = some .wrongSource := by
  rcases h with hx | ⟨hx, hs, hul⟩
  · rw [next_exit (by rw [hx]; nofun)]
    exact hx
  · have htop : (ctx.top env).1.exit = some .wrongSource := by
      unfold top poll
      simp only [hs, if_true]
      exact wrongSource_upload (by simp [hs, hul])
    rw [next_pass hx, testMainloopPass, andThen, if_neg (by rw [htop]; nofun)]
    exact htop

theorem Doomed.next (h : ctx.Doomed) (step : OfonoStep) :
    Doomed (ofonoTest.next ctx step).1 := by
  cases step with
  | pass env => exact .inl (h.pass env)
  | dbus k state =>
    obtain ⟨hexit, hstreams, -, hlib⟩ := dbus_same ctx k state
    rcases h with hx | ⟨hx, hs, hul⟩
    · exact .inl (hexit.trans hx)
    · refine .inr ⟨hexit.trans hx, (congrArg Streams.source hstreams).trans hs, ?_⟩
      rcases hlib with ⟨hlib, -⟩ | ⟨hlib, -⟩ <;> rw [hlib]
      · exact hul
      · rcases callMoves_next ctx.lib k state with hm | ⟨-, hm⟩ | ⟨-, hm⟩ <;> rw [hm]
        · exact hul
        all_goals decide

/-- A step that takes the uplink away dooms the client. -/
theorem Good.doomed (h : Good false [] ctx) {step : OfonoStep} (hw : step.Works)
    (hb : ctx.Breaks false step) : Doomed (ofonoTest.next ctx step).1 := by
  cases step with
  | pass env =>
    have hout := pass_outcome h hw
    rw [next_pass h.exit]
    exact .inl (hout.exits hb)
  | dbus k state =>
    obtain ⟨hexit, hstreams, -, hlib⟩ := dbus_same ctx k state
    rcases hlib with ⟨-, hb'⟩ | ⟨hlib, hb'⟩
    · exact absurd hb (hb' h.exit false)
    · obtain ⟨hs, ht⟩ := (hb' false).mp hb
      have hs := hs.resolve_right fun h => nomatch h.1
      refine .inr ⟨hexit.trans h.exit, ?_, ?_⟩
      · rw [hstreams, h.fits.source, hs]
        rfl
      · rw [hlib]
        rcases ht with ht | ht <;> rw [ht] <;> decide

/-- From the first step that takes the uplink away the client is doomed. -/
theorem Good.exec (h : Good false [] ctx) {is : List OfonoStep} (his : ∀ i ∈ is, i.Works) :
    (ofonoTest.Along (fun ctx step => ¬ ctx.Breaks false step) ctx is ∧
        Good false [] (ofonoTest.exec ctx is)) ∨
      (¬ ofonoTest.Along (fun ctx step => ¬ ctx.Breaks false step) ctx is ∧
        Doomed (ofonoTest.exec ctx is)) := by
  -- good up to the first step that breaks, and doomed from there
  induction is generalizing ctx with
  | nil => exact .inl ⟨trivial, h⟩
  | cons step is ih =>
    obtain ⟨hw, his⟩ := List.forall_mem_cons.mp his
    by_cases hb : ctx.Breaks false step
    · refine .inr ⟨fun ha => ha.1 hb, ?_⟩
      rw [ofonoTest.exec_cons]
      exact ofonoTest.exec_invariant (P := fun _ _ => True) (fun _ step h _ => h.next step)
        (h.doomed hw hb) (ofonoTest.along_true _ _)
    · refine (ih (h.next hw hb) his).imp ?_ ?_
      · exact fun ⟨ha, hgood⟩ => ⟨⟨hb, ha⟩, hgood⟩
      · exact fun ⟨ha, hdoomed⟩ => ⟨fun ha' => ha ha'.2, hdoomed⟩

end OfonoCtx

theorem good_init {ctx : OfonoCtx} (h : ofonoTest.init ctx) (strict : Bool) :
    OfonoCtx.Good strict [] ctx := by
  have hstate : ctx.lib.bcstate.protoState = .disconnected := by
    obtain ⟨area, old, hlib⟩ := h.1
    rw [hlib]
    rfl
  refine ⟨h.2.2.2.2.2, keeping_init h, .inl ?_, fun _ => hstate⟩
  rw [h.2.1, hstate]
  rfl

/-- **The streams follow the protocol** exactly as long as the speech is neither lost in a reset
nor started in the way of a legacy modem: as long as PulseAudio works, the client goes on with the
streams that the state calls for throughout a run, if and only if no step of it breaks them. -/
theorem ofonoTest_streams_iff {ctx : OfonoCtx} (h : ofonoTest.init ctx) {is : List OfonoStep}
    (his : ∀ i ∈ is, i.Works) :
    ofonoTest.Always (fun ctx => ctx.exit = none ∧
        ctx.toStreams = .neededIn ctx.lib.bcstate.protoState) ctx is ↔
      ofonoTest.Along (fun ctx step => ¬ ctx.Breaks true step) ctx is := by
  refine ofonoTest.always_iff_along (I := OfonoCtx.Good true [])
    (P := fun _ step => step.Works) ?_ ?_ (good_init h true) ?_ ?_
  · exact fun ctx step hgood _ hw hb => hgood.next hw hb
  · intro ctx step hgood _ hw
    refine ⟨fun hq hb => ?_, fun hb => ?_⟩
    · cases step with
      | pass env =>
        rw [OfonoCtx.next_pass hgood.exit] at hq
        exact (OfonoCtx.pass_outcome hgood hw).fits.mp (.inl hq.2) hb
      | dbus k state => exact (OfonoCtx.dbus_outcome hgood k state).2.2.1.mp (.inl hq.2) hb
    · have hgood' := hgood.next hw hb
      exact ⟨hgood'.exit, hgood'.fits.resolve_right fun h => nomatch h.1⟩
  · exact ⟨(good_init h true).exit, (good_init h true).fits.resolve_right fun h => nomatch h.1⟩
  · exact (ofonoTest.along_forall _ _ _).mpr his

/-- **The client gives up** exactly when the uplink is lost: as long as PulseAudio works, a run that
ends with a pass leaves it running if and only if no step has taken the uplink away or started it in
the way of a legacy modem, and otherwise it has exited over the stream that records. -/
theorem ofonoTest_exits_iff {ctx : OfonoCtx} (h : ofonoTest.init ctx) {is : List OfonoStep}
    {env : PassEnv} (his : ∀ i ∈ is ++ [.pass env], i.Works) :
    let ctx' := ofonoTest.exec ctx (is ++ [.pass env])
    (ctx'.exit = none ↔
        ofonoTest.Along (fun ctx step => ¬ ctx.Breaks false step) ctx (is ++ [.pass env])) ∧
      (ctx'.exit ≠ none → ctx'.exit = some .wrongSource) := by
  obtain ⟨his, hlast⟩ := List.forall_mem_append.mp his
  have hw : (OfonoStep.pass env).Works := hlast _ (List.mem_singleton_self _)
  intro ctx'
  have hctx : ctx' = (ofonoTest.next (ofonoTest.exec ctx is) (.pass env)).1 :=
    ofonoTest.exec_append ctx is [.pass env]
  rw [hctx, ofonoTest.along_append, ofonoTest.along_cons]
  -- a client that is doomed before the last pass finds the stream wrong in it
  rcases (good_init h false).exec his with ⟨ha, hgood⟩ | ⟨ha, hdoomed⟩
  · have hout := OfonoCtx.pass_outcome hgood hw
    rw [OfonoCtx.next_pass hgood.exit]
    by_cases hb : (ofonoTest.exec ctx is).Breaks false (.pass env)
    · have hx := hout.exits hb
      exact ⟨iff_of_false (by rw [hx]; nofun) fun h => h.2.1 hb, fun _ => hx⟩
    · have hx := hout.goesOn hb
      exact ⟨iff_of_true hx ⟨ha, hb, trivial⟩, fun h => absurd hx h⟩
  · have hx := hdoomed.pass env
    exact ⟨iff_of_false (by rw [hx]; nofun) fun h => ha h.1, fun _ => hx⟩

theorem works_ready (word : Option Cmd) : (OfonoStep.pass (.ready word)).Works :=
  ⟨⟨rfl, rfl, rfl⟩, rfl, rfl, rfl⟩

/-- A call that comes to speech in both directions. -/
def speechRun : List OfonoStep :=
  [.pass (.ready none), .dbus .accepting true, .pass (.ready (some (msgEncodeSsiConfigResp 1 0))),
    .pass (.ready (some (speechConfigReqMsg true))),
    .pass (.ready (some msgEncodeUplinkConfigNtf))]

theorem works_speechRun : ∀ i ∈ speechRun, i.Works := by
  simp only [speechRun, List.forall_mem_cons]
  exact ⟨works_ready _, trivial, works_ready _, works_ready _, works_ready _, by simp⟩

example : (ofonoTest.exec .fresh speechRun).toStreams = .neededIn .activeDlul := by decide

-- the modem resets itself while there is speech
example : (ofonoTest.exec .fresh
    (speechRun ++ [.pass (.ready (some msgEncodeResetConnReq))])).exit = some .wrongSource := by
  decide +kernel

theorem ofonoTest_streams_iff_speech :
    ofonoTest.Always (fun ctx => ctx.exit = none ∧
        ctx.toStreams = .neededIn ctx.lib.bcstate.protoState) .fresh speechRun ↔
      ofonoTest.Along (fun ctx step => ¬ ctx.Breaks true step) .fresh speechRun :=
  ofonoTest_streams_iff init_ofonoFresh works_speechRun

theorem ofonoTest_exits_iff_reset :
    let env := PassEnv.ready (some msgEncodeResetConnReq)
    let ctx' := ofonoTest.exec .fresh (speechRun ++ [.pass env])
    (ctx'.exit = none ↔ ofonoTest.Along (fun ctx step => ¬ ctx.Breaks false step) .fresh
        (speechRun ++ [.pass env])) ∧
      (ctx'.exit ≠ none → ctx'.exit = some .wrongSource) := by
  refine ofonoTest_exits_iff init_ofonoFresh (List.forall_mem_append.mpr ⟨works_speechRun, ?_⟩)
  simp only [List.forall_mem_singleton]
  exact works_ready _

end CmtSpeech
