import CmtSpeech.Lib.Lts
import CmtSpeech.Memory

/-!
# The tone of the dummy backend

The downlink frames of the dummy backend contain a tone (`dummy_common.c`), which is a sine or what
a file holds.  It is played over and over, one sample after the other, and the next frame goes on
where the last one has stopped.  The length of the tone is counted in octets, and the position in
samples of two octets.

* `DummyTone` — `dummy_tone_t`
* `dummyToneInitialize`, `DummyTone.fillBuffer`, `DummyTone.fillBufferSlot`
* `ToneSafe` — nothing but the tone is read, and it is played without a gap.
* `ToneEnv.OneOctet` — the file has one octet, which is half a sample.

## Main results

* `fillLoop_eq`, `ToneCall.step_at` — what one call emits.
* `played_accepted` — a tone that is accepted plays the sine, or the file.
* `toneSafe_iff`
-/

namespace CmtSpeech

abbrev spcFlagsSpeech : BitVec 8 := 0x01

/-! ### Samples in memory -/

/-- Memory, by the distance from a pointer, so that what lies outside of a buffer can be spoken
of. -/
abbrev Octets : Type := ℤ → BitVec 8

namespace Octets

/-- The element `i` of an array of `int16_t`, the low octet first. -/
def sample (mem : Octets) (i : ℤ) : BitVec 16 := mem (2 * i + 1) ++ mem (2 * i)

/-- `memcpy` of a sample to the place of element `i`. -/
def setSample (mem : Octets) (i : ℤ) (value : BitVec 16) : Octets := fun o =>
  if o = 2 * i then value.setWidth 8
  else if o = 2 * i + 1 then (value >>> 8).setWidth 8
  else mem o

/-- `memcpy` of a header to the start of a buffer. -/
def setHeader (mem : Octets) (header : Cmd) : Octets := fun o =>
  if 0 ≤ o ∧ o < dataHeaderLen then header.octet o.toNat else mem o

/-- The memory after `octets` have been put to the pointer. -/
def write (mem : Octets) (octets : List (BitVec 8)) : Octets := fun o =>
  if 0 ≤ o then octets.getD o.toNat (mem o) else mem o

/-- The samples `i`, `i + 1`, … of an array, `n` of them. -/
def samples (mem : Octets) (i : ℤ) (n : ℕ) : List (BitVec 16) :=
  (List.range n).map fun j : ℕ => mem.sample (i + j)

end Octets

/-! ### The tone -/

/-- `dummy_tone_t`: the samples, how many octets they have, and where the playing is. -/
structure DummyTone where
  /-- The memory around `tone_buf`. -/
  toneBuf : Octets
  /-- In octets. -/
  toneLen : ℤ
  /-- In samples. -/
  tonePos : ℤ

/-- What is seen of a call: the places of the tone that are read, the divisions by zero, and the
samples that are in the buffer afterwards. -/
inductive ToneObs where
  /-- `tone_buf[pos]` is read. -/
  | read (pos : ℤ)
  | divisionByZero
  /-- A sample is in the buffer when the call returns. -/
  | emitted (value : BitVec 16)
  deriving DecidableEq, Repr

/-- The fields of a `cmtspeech_buffer_t` a slot is filled by. -/
structure ToneSlot where
  data : Octets
  size : ℤ
  count : ℤ
  pcount : ℤ

namespace DummyTone

/-- The loop of the two functions that fill a buffer, over `n` samples from sample `i` of the
buffer on.  A division by zero ends the process. -/
def fillLoop : ℕ → ℤ → DummyTone → Octets → List ToneObs × Option (DummyTone × Octets)
  | 0, _, tone, buf => ([], some (tone, buf))
  | n + 1, i, tone, buf =>
    let value := tone.toneBuf.sample tone.tonePos
    let buf := buf.setSample i value
    if tone.toneLen.tdiv 2 = 0 then ([.read tone.tonePos, .divisionByZero], none)
    else
      let r := fillLoop n (i + 1)
        { tone with tonePos := (tone.tonePos + 1).tmod (tone.toneLen.tdiv 2) } buf
      (.read tone.tonePos :: r.1, r.2)

variable (tone : DummyTone)

/-- `dummy_tone_fill_buffer`: one sample after another, for as many as the buffer has room for. -/
def fillBuffer (buf : Octets) (bufsize : ℤ) : List ToneObs × Option (DummyTone × Octets) :=
  fillLoop (bufsize.tdiv 2).toNat 0 tone buf

/-- The header of a frame of the tone, as the thread fills it in. -/
def header (counter : BitVec 16) : DlDataHeader where
  frameCounter := counter
  spcFlags := spcFlagsSpeech
  dataLength := dataLength20ms
  sampleRate := sampleRate16khz
  codecSampleRate := sampleRateNone
  dataType := dataTypeValid

/-- The buffer of a slot with the header in it. -/
def slotData (slot : ToneSlot) (counter : BitVec 16) : Octets :=
  match msgEncodeDlDataHeaderV5 dataHeaderLen (header counter) with
  | some buf => slot.data.setHeader buf
  | none => slot.data

/-- `dummy_tone_fill_buffer_slot`: the samples come after the header, which has the size of two. -/
def fillBufferSlot (slot : ToneSlot) (counter : BitVec 16) :
    List ToneObs × Option (DummyTone × ToneSlot) :=
  let r := fillLoop (slot.size.tdiv 2 - 2).toNat 2 tone (slotData slot counter)
  (r.1, r.2.map fun q =>
    (q.1, { slot with data := q.2, count := slot.size, pcount := slot.size - dataHeaderLen }))

end DummyTone

/-! ### Initialisation -/

/-- A file that has been opened, by what the calls on it return. -/
structure ToneFile where
  /-- What `ftell` returns at the end. -/
  length : ℤ
  /-- What the `fseek` back to the start returns. -/
  rewind : ℤ
  /-- What there is to read. -/
  octets : List (BitVec 8)

/-- What `dummy_tone_initialize` asks the system: the variable of the environment, the file, and
the memory it is given. -/
structure ToneEnv where
  /-- `getenv("DUMMYSRC")` -/
  dummysrc : Option String
  fopen : String → Option ToneFile
  /-- Whether there is memory for the samples, and what is in it and around it. -/
  malloc : Option Octets

/-- The 400 Hz sine, as an array of `int16_t`. -/
def sinwave : List (BitVec 16) :=
  [0, 2531, 4814, 6626, 7790, 8191, 7790, 6626, 4814, 2531,
    0, -2531, -4814, -6626, -7790, -8191, -7790, -6626, -4814, -2531]

/-- The octets of an array of `int16_t`, the low one of each first. -/
def octetsOf (values : List (BitVec 16)) : List (BitVec 8) :=
  values.flatMap fun value : BitVec 16 => [value.setWidth 8, (value >>> 8).setWidth 8]

/-- `int len = ftell(f)`, which is cut to an `int`. -/
def ToneFile.len (f : ToneFile) : ℤ := f.length.bmod (2 ^ 32)

/-- The branch of `dummy_tone_initialize` for a file.  A file that cannot be opened or is empty is
refused. -/
def dummyToneFromFile (mem : Option Octets) (f : ToneFile) : Option DummyTone :=
  if f.rewind = 0 ∧ f.len > 0 then
    mem.bind fun mem =>
      let readBytes := (f.octets.take f.len.toNat).length
      if f.len ≠ readBytes then none
      else some { toneBuf := mem.write (f.octets.take f.len.toNat), toneLen := f.len, tonePos := 0 }
  else none

/-- `dummy_tone_initialize`: the sine, or the file of the name, and nothing without either. -/
def dummyToneInitialize (env : ToneEnv) (typestr : Option String) : Option DummyTone :=
  match env.dummysrc.or typestr with
  | none => none
  | some src =>
    if src = "sine" then
      env.malloc.map fun mem =>
        { toneBuf := mem.write (octetsOf sinwave), toneLen := 2 * 20, tonePos := 0 }
    else (env.fopen src).bind (dummyToneFromFile env.malloc)

/-! ### Runs -/

/-- A call that fills a buffer: of samples alone, or of a slot with its header. -/
inductive ToneCall where
  | fillBuffer (buf : Octets) (bufsize : ℤ)
  | fillBufferSlot (slot : ToneSlot) (counter : BitVec 16)

namespace ToneCall

/-- Where in the buffer the samples start: a slot has its header before them. -/
def first : ToneCall → ℤ
  | .fillBuffer _ _ => 0
  | .fillBufferSlot _ _ => 2

/-- How many samples the call asks for, by the size of what it fills. -/
def count : ToneCall → ℕ
  | .fillBuffer _ bufsize => (bufsize.tdiv 2).toNat
  | .fillBufferSlot slot _ => (slot.size.tdiv 2 - 2).toNat

/-- What the call does to the tone and to the buffer. -/
def run (tone : DummyTone) : ToneCall → List ToneObs × Option (DummyTone × Octets)
  | .fillBuffer buf bufsize => tone.fillBuffer buf bufsize
  | .fillBufferSlot slot counter =>
    let r := tone.fillBufferSlot slot counter
    (r.1, r.2.map fun q => (q.1, q.2.data))

/-- The samples emitted are those in the buffer after the call. -/
def step (tone : DummyTone) (c : ToneCall) : Option DummyTone × List ToneObs :=
  let r := c.run tone
  match r.2 with
  | some (tone, buf) => (some tone, r.1 ++ (buf.samples c.first c.count).map .emitted)
  | none => (none, r.1)

end ToneCall

/-- A tone in use; there is none after a division by zero, which ends the process. -/
def dummyTone : Lts (Option DummyTone) ToneCall ToneObs where
  init s := ∃ env typestr tone, dummyToneInitialize env typestr = some tone ∧ s = some tone
  next
    | some tone, c => c.step tone
    | none, _ => (none, [])

/-! ### The buffer -/

namespace Octets

variable (mem : Octets)

theorem sample_setSample (i : ℤ) (value : BitVec 16) :
    (mem.setSample i value).sample i = value := by
  have hne : ¬ 2 * i + 1 = 2 * i := by omega
  unfold sample setSample
  rw [if_pos rfl, if_neg hne, if_pos rfl]
  ext j hj
  rw [BitVec.getElem_append]
  by_cases hlow : j < 8
  · rw [dif_pos hlow, BitVec.getElem_setWidth, BitVec.getLsbD_eq_getElem hj]
  · rw [dif_neg hlow, BitVec.getElem_setWidth, BitVec.getLsbD_ushiftRight,
      Nat.add_sub_cancel' (Nat.le_of_not_lt hlow), BitVec.getLsbD_eq_getElem hj]

/-- A sample is put to its two octets, and leaves the others as they are. -/
theorem setSample_outside {i o : ℤ} (ho : o < 2 * i ∨ 2 * (i + 1) ≤ o) (value : BitVec 16) :
    mem.setSample i value o = mem o := by
  unfold setSample
  rw [if_neg (by omega), if_neg (by omega)]

variable {mem}

theorem sample_congr {mem' : Octets} {i : ℤ} (h : ∀ o, 2 * i ≤ o → o < 2 * (i + 1) →
    mem' o = mem o) : mem'.sample i = mem.sample i := by
  unfold sample
  rw [h (2 * i) (by omega) (by omega), h (2 * i + 1) (by omega) (by omega)]

theorem samples_succ (mem : Octets) (i : ℤ) (n : ℕ) :
    mem.samples i (n + 1) = mem.sample i :: mem.samples (i + 1) n := by
  unfold samples
  rw [List.range_succ_eq_map, List.map_cons, List.map_map, Nat.cast_zero, add_zero]
  refine congrArg _ (List.map_congr_left fun j _ => ?_)
  rw [Function.comp_apply, Nat.cast_succ, add_assoc, add_comm (1 : ℤ)]

end Octets

/-! ### The position -/

namespace DummyTone

variable (tone : DummyTone)

/-- The length in samples; the last octet of an odd length does not count, and a file of one octet
has none. -/
def period : ℤ := tone.toneLen.tdiv 2

/-- The sample that is played as number `m`: the tone is played over and over, so this is a
remainder. -/
def played (m : ℕ) : BitVec 16 := tone.toneBuf.sample (m % tone.period)

/-- The tone when `m` samples have been played.  Only the position has changed. -/
def after (m : ℕ) : DummyTone := { tone with tonePos := m % tone.period }

@[simp] theorem after_toneBuf (m : ℕ) : (tone.after m).toneBuf = tone.toneBuf := rfl

@[simp] theorem after_toneLen (m : ℕ) : (tone.after m).toneLen = tone.toneLen := rfl

@[simp] theorem after_tonePos (m : ℕ) : (tone.after m).tonePos = m % tone.period := rfl

/-- The position is one of the tone.  `dummy_tone_fill_buffer_slot` reads the samples at it
without looking. -/
def InTone : Prop := 0 ≤ tone.tonePos ∧ tone.tonePos < tone.period

instance : Decidable tone.InTone := inferInstanceAs (Decidable (_ ∧ _))

variable {tone}

theorem inTone_after (h : 0 < tone.period) (m : ℕ) : (tone.after m).InTone :=
  ⟨Int.emod_nonneg _ h.ne', Int.emod_lt_of_pos _ h⟩

/-- The samples of the tone end before the tone does. -/
theorem two_mul_period_le (h : 0 ≤ tone.toneLen) : 2 * tone.period ≤ tone.toneLen := by
  rw [period, Int.tdiv_eq_ediv_of_nonneg h]
  omega

/-- The step of the position: C's remainder is that of arithmetic, since the position is not
negative. -/
theorem tonePos_step (h : 0 < tone.period) (m : ℕ) :
    ((m : ℤ) % tone.period + 1).tmod tone.period = ((m + 1 : ℕ) : ℤ) % tone.period := by
  have hpos := Int.emod_nonneg (m : ℤ) h.ne'
  rw [Int.tmod_eq_emod_of_nonneg (by omega), Int.emod_add_emod, Nat.cast_succ]

/-- **One loop**: the next `n` samples are read, and come to the buffer from sample `i` on. -/
theorem fillLoop_eq (h : 0 < tone.period) (n : ℕ) (m : ℕ) (i : ℤ) (buf : Octets) :
    ∃ buf' : Octets,
      fillLoop n i (tone.after m) buf =
        ((List.range' m n).map fun m => .read (m % tone.period),
          some (tone.after (m + n), buf')) ∧
      buf'.samples i n = (List.range' m n).map tone.played ∧
      ∀ o, o < 2 * i ∨ 2 * (i + n) ≤ o → buf' o = buf o := by
  induction n generalizing m i buf with
  | zero => exact ⟨buf, rfl, rfl, fun _ _ => rfl⟩
  | succ n ih =>
    -- The remainder is taken by the period of the tone, which is positive, so that it is defined.
    have hdiv : ¬ (tone.after m).toneLen.tdiv 2 = 0 := h.ne'
    have hstep : { tone.after m with
        tonePos := ((tone.after m).tonePos + 1).tmod ((tone.after m).toneLen.tdiv 2) } =
          tone.after (m + 1) := congrArg (DummyTone.mk _ _) (tonePos_step h m)
    obtain ⟨buf', hloop, hsamples, hkept⟩ := ih (m + 1) (i + 1) (buf.setSample i (tone.played m))
    refine ⟨buf', ?_, ?_, ?_⟩
    · rw [fillLoop]
      dsimp only
      rw [if_neg hdiv, hstep]
      show (_ :: (fillLoop n (i + 1) _ (buf.setSample i (tone.played m))).1,
        (fillLoop n (i + 1) _ (buf.setSample i (tone.played m))).2) = _
      rw [hloop, List.range'_succ, List.map_cons, Nat.add_right_comm, Nat.add_assoc]
      rfl
    · -- the samples after it come to other places
      have hfirst : buf'.sample i = tone.played m := by
        rw [← buf.sample_setSample i (tone.played m)]
        exact Octets.sample_congr fun o _ ho => hkept o (Or.inl ho)
      rw [Octets.samples_succ, hfirst, hsamples, List.range'_succ, List.map_cons]
    · intro o ho
      rw [hkept o (by omega), buf.setSample_outside (by omega)]

end DummyTone

/-! ### Calls -/

section
variable {tone : DummyTone}

/-- Both calls are the loop, on a buffer of their own. -/
theorem ToneCall.run_eq (tone : DummyTone) (c : ToneCall) :
    ∃ buf, c.run tone = DummyTone.fillLoop c.count c.first tone buf := by
  cases c with
  | fillBuffer buf bufsize => exact ⟨buf, rfl⟩
  | fillBufferSlot slot counter =>
    refine ⟨DummyTone.slotData slot counter, Prod.ext rfl ?_⟩
    unfold ToneCall.run DummyTone.fillBufferSlot
    dsimp only
    rw [Option.map_map]
    exact Option.map_id_apply

/-- **One call** goes on where the last one has stopped. -/
theorem ToneCall.step_at (h : 0 < tone.period) (m : ℕ) (c : ToneCall) :
    c.step (tone.after m) = (some (tone.after (m + c.count)),
      ((List.range' m c.count).map fun m : ℕ => .read (m % tone.period)) ++
        (List.range' m c.count).map fun m => .emitted (tone.played m)) := by
  obtain ⟨buf, hrun⟩ := c.run_eq (tone.after m)
  obtain ⟨buf', hloop, hsamples, -⟩ := DummyTone.fillLoop_eq h c.count m c.first buf
  unfold ToneCall.step
  rw [hrun, hloop]
  dsimp only
  rw [hsamples, List.map_map]
  rfl

/-! ### Runs -/

/-- The sample that is emitted, among the other observations. -/
def ToneObs.value : ToneObs → Option (BitVec 16)
  | .emitted value => some value
  | _ => none

/-- How many samples a run asks for, in all its calls together. -/
def samplesAsked (calls : List ToneCall) : ℕ := (calls.map ToneCall.count).sum

/-- What is seen where nothing but the tone is read: every position is below the length, and the
two octets there are octets of the tone. -/
def ToneObs.Inside (tone : DummyTone) : ToneObs → Prop
  | .read pos => 0 ≤ pos ∧ pos < tone.period ∧ 2 * (pos + 1) ≤ tone.toneLen
  | .divisionByZero => False
  | .emitted _ => True

/-- Nothing but the tone is read in a run, nothing is divided by zero, the position stays one of
the tone, and the samples are emitted one after the other. -/
structure ToneSafe (tone : DummyTone) (calls : List ToneCall) : Prop where
  inside : ∀ o ∈ dummyTone.trace (some tone) calls, o.Inside tone
  position : dummyTone.Always (fun s => ∃ t, s = some t ∧ t.InTone) (some tone) calls
  emitted : (dummyTone.trace (some tone) calls).filterMap ToneObs.value =
    (List.range (samplesAsked calls)).map tone.played

theorem exec_dummyTone (h : 0 < tone.period) (calls : List ToneCall) (m : ℕ) :
    dummyTone.exec (some (tone.after m)) calls =
      some (tone.after (m + samplesAsked calls)) := by
  induction calls generalizing m with
  | nil => rfl
  | cons c calls ih =>
    have hnext : (dummyTone.next (some (tone.after m)) c).1 = some (tone.after (m + c.count)) :=
      congrArg Prod.fst (c.step_at h m)
    rw [Lts.exec_cons, hnext, ih, Nat.add_assoc]
    rfl

/-- One call emits the samples from the `m`-th on. -/
theorem ToneCall.emitted_step (h : 0 < tone.period) (m : ℕ) (c : ToneCall) :
    (c.step (tone.after m)).2.filterMap ToneObs.value =
      (List.range' m c.count).map tone.played := by
  have hreads : ((List.range' m c.count).map fun m : ℕ =>
      ToneObs.read (m % tone.period)).filterMap ToneObs.value = [] := by
    rw [List.filterMap_map]
    exact List.filterMap_eq_nil_iff.mpr fun _ _ => rfl
  have hemitted : ((List.range' m c.count).map fun m =>
      ToneObs.emitted (tone.played m)).filterMap ToneObs.value =
        (List.range' m c.count).map tone.played := by
    rw [List.filterMap_map]
    exact congrFun (List.filterMap_eq_map (f := tone.played)) _
  rw [c.step_at h m, List.filterMap_append, hreads, hemitted, List.nil_append]

/-- The samples of a run are those from the `m`-th on. -/
theorem emitted_dummyTone (h : 0 < tone.period) (calls : List ToneCall) (m : ℕ) :
    (dummyTone.trace (some (tone.after m)) calls).filterMap ToneObs.value =
      (List.range' m (samplesAsked calls)).map tone.played := by
  induction calls generalizing m with
  | nil => rfl
  | cons c calls ih =>
    have hnext : (dummyTone.next (some (tone.after m)) c).1 = some (tone.after (m + c.count)) :=
      congrArg Prod.fst (c.step_at h m)
    have hemitted : (dummyTone.next (some (tone.after m)) c).2.filterMap ToneObs.value = _ :=
      c.emitted_step h m
    have hasked : samplesAsked (c :: calls) = c.count + samplesAsked calls := rfl
    rw [Lts.trace_cons, List.filterMap_append, hemitted, hnext, ih, hasked, ← List.map_append,
      List.range'_append_1]

/-- One call reads nothing but the tone: each sample it takes lies before the end of it. -/
theorem ToneCall.inside_step (h : 0 < tone.period) (hlen : 0 ≤ tone.toneLen) (m : ℕ)
    (c : ToneCall) : ∀ o ∈ (c.step (tone.after m)).2, o.Inside tone := by
  intro o ho
  have hfits := DummyTone.two_mul_period_le hlen
  rw [c.step_at h m, List.mem_append, List.mem_map, List.mem_map] at ho
  rcases ho with ⟨m, -, rfl⟩ | ⟨m, -, rfl⟩
  · have hin := DummyTone.inTone_after h m
    have hnonneg : 0 ≤ (m : ℤ) % tone.period := hin.1
    have hlt : (m : ℤ) % tone.period < tone.period := hin.2
    exact ⟨hnonneg, hlt, by omega⟩
  · trivial

/-- A tone that has a sample is played as it should be. -/
theorem toneSafe_of_pos (h : 0 < tone.period) (hlen : 0 ≤ tone.toneLen) (hpos : tone.tonePos = 0)
    (calls : List ToneCall) : ToneSafe tone calls := by
  have hstart : tone.after 0 = tone := by
    rw [DummyTone.after, Nat.cast_zero, Int.zero_emod, ← hpos]
  have hexec (calls : List ToneCall) : dummyTone.exec (some tone) calls =
      some (tone.after (samplesAsked calls)) := by
    have hrun := exec_dummyTone h calls 0
    rwa [hstart, Nat.zero_add] at hrun
  refine ⟨?_, ?_, ?_⟩
  · refine dummyTone.forall_trace (I := fun s => ∃ m, s = some (tone.after m)) ?_ ?_
      ⟨0, congrArg some hstart.symm⟩
    · rintro _ c ⟨m, rfl⟩
      exact ⟨_, congrArg Prod.fst (c.step_at h m)⟩
    · rintro _ c ⟨m, rfl⟩
      exact c.inside_step h hlen m
  · intro calls _
    exact ⟨_, hexec calls, DummyTone.inTone_after h _⟩
  · have hrun := emitted_dummyTone h calls 0
    rwa [hstart, ← List.range_eq_range'] at hrun

end

/-! ### Tones that are accepted -/

/-- The tone is a file of one octet, so far as an `int` shows its length. -/
def ToneEnv.OneOctet (env : ToneEnv) (typestr : Option String) : Prop :=
  ∃ src f, env.dummysrc.or typestr = some src ∧ src ≠ "sine" ∧ env.fopen src = some f ∧ f.len = 1

/-- The octets of the sine, or of the file whose name is in the environment or else in the
argument. -/
def ToneEnv.source (env : ToneEnv) (typestr : Option String) : Option (List (BitVec 8)) :=
  (env.dummysrc.or typestr).bind fun src =>
    if src = "sine" then some (octetsOf sinwave)
    else (env.fopen src).map fun f => f.octets.take f.len.toNat

/-- What a tone is when it is accepted: it starts at the beginning, it is as long as the file,
which is not empty, and its memory holds the octets of the file. -/
structure DummyTone.Holds (tone : DummyTone) (octets : List (BitVec 8)) : Prop where
  tonePos : tone.tonePos = 0
  toneLen : tone.toneLen = octets.length
  toneLen_pos : 0 < tone.toneLen
  toneBuf : ∃ mem : Octets, tone.toneBuf = mem.write octets

section
variable {env : ToneEnv} {typestr : Option String} {tone : DummyTone}

theorem dummyToneFromFile_spec {mem : Option Octets} {f : ToneFile}
    (h : dummyToneFromFile mem f = some tone) :
    tone.toneLen = f.len ∧ tone.Holds (f.octets.take f.len.toNat) := by
  unfold dummyToneFromFile at h
  split at h
  · next hlen =>
    obtain ⟨mem, -, h⟩ := Option.bind_eq_some_iff.mp h
    dsimp only at h
    split at h
    · cases h
    · next hread =>
      obtain rfl := Option.some.inj h
      exact ⟨rfl, rfl, not_not.mp hread, hlen.2, mem, rfl⟩
  · cases h

/-- An accepted tone holds its source, and the position is at the start. -/
theorem dummyToneInitialize_spec (h : dummyToneInitialize env typestr = some tone) :
    (∃ octets, env.source typestr = some octets ∧ tone.Holds octets) ∧
      (tone.toneLen = 1 ↔ env.OneOctet typestr) := by
  unfold dummyToneInitialize at h
  unfold ToneEnv.source ToneEnv.OneOctet
  cases hsrc : env.dummysrc.or typestr with
  | none =>
    rw [hsrc] at h
    cases h
  | some src =>
    rw [hsrc] at h
    dsimp only at h
    by_cases hsine : src = "sine"
    · rw [if_pos hsine] at h
      obtain ⟨mem, -, rfl⟩ := Option.map_eq_some_iff.mp h
      refine ⟨⟨octetsOf sinwave, if_pos hsine, rfl, ?_, show (0 : ℤ) < 2 * 20 by decide, mem, rfl⟩,
        ?_⟩
      · show (2 * 20 : ℤ) = (octetsOf sinwave).length
        decide
      refine iff_of_false (show ¬ (2 * 20 : ℤ) = 1 by decide) ?_
      rintro ⟨src', f, hsrc', hne, -⟩
      obtain rfl := Option.some.inj hsrc'
      exact hne hsine
    -- A file: its octets are the tone, cut to the length that `ftell` has given.
    · rw [if_neg hsine] at h
      obtain ⟨f, hf, h⟩ := Option.bind_eq_some_iff.mp h
      obtain ⟨hlen, hholds⟩ := dummyToneFromFile_spec h
      refine ⟨⟨f.octets.take f.len.toNat, ?_, hholds⟩, ?_⟩
      · rw [Option.bind_some, if_neg hsine, hf]
        rfl
      · constructor
        · intro hone
          exact ⟨src, f, rfl, hsine, hf, hlen.symm.trans hone⟩
        · rintro ⟨src', f', hsrc', -, hf', hone⟩
          obtain rfl := Option.some.inj hsrc'
          obtain rfl := Option.some.inj (hf.symm.trans hf')
          exact hlen.trans hone

/-- The sample `k` of a tone that is given by its octets. -/
def octetSample (octets : List (BitVec 8)) (k : ℕ) : BitVec 16 :=
  octets.getD (2 * k + 1) 0 ++ octets.getD (2 * k) 0

theorem Octets.sample_write (mem : Octets) {octets : List (BitVec 8)} {k : ℕ}
    (hk : 2 * k + 1 < octets.length) : (mem.write octets).sample k = octetSample octets k := by
  have hoctet (o : ℕ) (ho : o < octets.length) : mem.write octets o = octets.getD o 0 := by
    unfold write
    rw [if_pos (Int.natCast_nonneg o), Int.toNat_natCast, List.getD_eq_getElem?_getD,
      List.getD_eq_getElem?_getD, List.getElem?_eq_getElem ho]
    rfl
  have hlow : mem.write octets (2 * k) = octets.getD (2 * k) 0 := hoctet (2 * k) (by omega)
  have hhigh : mem.write octets (2 * k + 1) = octets.getD (2 * k + 1) 0 := hoctet (2 * k + 1) hk
  rw [sample, hlow, hhigh, octetSample]

/-- An accepted tone plays its source over and over. -/
theorem played_accepted (h : dummyToneInitialize env typestr = some tone)
    (hone : ¬ env.OneOctet typestr) :
    ∃ octets, env.source typestr = some octets ∧
      ∀ m, tone.played m = octetSample octets (m % (octets.length / 2)) := by
  obtain ⟨⟨octets, hsource, hholds⟩, hlen⟩ := dummyToneInitialize_spec h
  refine ⟨octets, hsource, ?_⟩
  intro m
  obtain ⟨mem, hmem⟩ := hholds.toneBuf
  have hpos := hholds.toneLen_pos
  have hne : tone.toneLen ≠ 1 := mt hlen.mp hone
  rw [hholds.toneLen] at hpos hne
  have hperiod : tone.period = (octets.length / 2 : ℕ) := by
    rw [DummyTone.period, hholds.toneLen, Int.tdiv_eq_ediv_of_nonneg hpos.le]
    rfl
  have hlt : m % (octets.length / 2) < octets.length / 2 := Nat.mod_lt _ (by omega)
  rw [DummyTone.played, hmem, hperiod, ← Int.natCast_mod]
  exact mem.sample_write (by omega)

example : ∀ k < 20, octetSample (octetsOf sinwave) k = sinwave.getD k 0 := by decide

/-- **The tone is played without a gap**, and nothing else is read, in every run from an accepted
tone, unless the tone is a file of one octet. -/
theorem toneSafe_iff (h : dummyToneInitialize env typestr = some tone) (calls : List ToneCall) :
    ToneSafe tone calls ↔ ¬ env.OneOctet typestr := by
  obtain ⟨⟨octets, -, hholds⟩, hone⟩ := dummyToneInitialize_spec h
  have hlen := hholds.toneLen_pos
  have hperiod : tone.period = tone.toneLen / 2 := Int.tdiv_eq_ediv_of_nonneg hlen.le
  rw [← hone]
  constructor
  · intro hsafe heq
    obtain ⟨t, ht, hin⟩ := hsafe.position [] List.nil_prefix
    obtain rfl := Option.some.inj ht
    obtain ⟨hnonneg, hlt⟩ := hin
    omega
  · intro hne
    exact toneSafe_of_pos (by omega) hlen.le hholds.tonePos calls

end

/-! ### Two files -/

/-- A file that can be read as a whole: its length is what the calls say it is. -/
def ToneFile.of (octets : List (BitVec 8)) : ToneFile := ⟨octets.length, 0, octets⟩

/-- A system with one file, which `DUMMYSRC` names. -/
def ToneEnv.file (octets : List (BitVec 8)) : ToneEnv where
  dummysrc := some "tone"
  fopen _ := some (.of octets)
  malloc := some fun _ => 0

/-- A tone of the given octets in zeroed memory, with the playing at the first sample. -/
def DummyTone.start (octets : List (BitVec 8)) : DummyTone :=
  ⟨Octets.write (fun _ => 0) octets, octets.length, 0⟩

/-- A frame of three samples, and one of two after its header. -/
def twoFrames : List ToneCall :=
  [.fillBuffer (fun _ => 0) 6, .fillBufferSlot ⟨fun _ => 0, 8, 0, 0⟩ 0]

/-- A file of five octets, which are two samples and an octet that is never read. -/
theorem toneSafe_fiveOctets : ToneSafe (.start [1, 0, 2, 0, 3]) twoFrames := by
  have hinit : dummyToneInitialize (.file [1, 0, 2, 0, 3]) none =
      some (.start [1, 0, 2, 0, 3]) := rfl
  refine (toneSafe_iff hinit twoFrames).mpr ?_
  rintro ⟨src, f, -, -, hf, hone⟩
  obtain rfl := Option.some.inj hf
  exact absurd hone (by decide)

/-- A file of one octet: a sample is read that the file does not have, and the process divides by
zero. -/
theorem not_toneSafe_oneOctet :
    dummyToneInitialize (.file [1]) none = some (.start [1]) ∧
      dummyTone.trace (some (.start [1])) twoFrames = [.read 0, .divisionByZero] ∧
      ¬ (ToneObs.read 0).Inside (.start [1]) ∧ ¬ ToneSafe (.start [1]) twoFrames := by
  have htrace : dummyTone.trace (some (.start [1])) twoFrames = [.read 0, .divisionByZero] := rfl
  refine ⟨rfl, htrace, ?_, ?_⟩
  · rintro ⟨-, hlt, -⟩
    exact absurd hlt (by decide)
  · intro hsafe
    have hdiv := hsafe.inside .divisionByZero
    rw [htrace] at hdiv
    exact hdiv (by decide)

end CmtSpeech
