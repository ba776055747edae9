import CmtSpeech.Memory
import CmtSpeech.UplinkPause

/-!
# The numbers of the uplink frames

The counter of `cmtspeech_ul_buffer_release` is static: all instances of a process count
together, and one that is opened anew goes on counting.  Only a frame that the kernel takes
moves it.

* `Process` — the instances of a process and the counter.
* `ulHeader` — the header of an uplink frame.
* `process` — a process as a transition system, which emits the headers of the frames sent.

## Main result

* `frameCounter_trace`
-/

namespace CmtSpeech

/-! ### A process -/

/-- What a process does with one of its instances; the counter is shared by all of them. -/
inductive ProcessOp where
  /-- `cmtspeech_open`: what the driver maps, and what the allocated memory held. -/
  | opens (area : MmapArea) (memory : Machine)
  | calls (i : Step)
  /-- `cmtspeech_close` -/
  | closes

/-- The instances of a process, which share `ul_counter`, a static variable in the source. -/
structure Process where
  ulCounter : BitVec 16
  instances : ℕ → Option Machine

/-- The header of the frame in the uplink buffer of descriptor `i`; there is none without
memory for the frame. -/
def Machine.ulHeader (m : Machine) (i : Fin ulSlots) : Option UlDataHeader :=
  if (m.buf.ulbufdesc i).bd.data = .null then none
  else msgDecodeUlDataHeader dataHeaderLen (m.d.load4 (m.buf.ulbufdesc i).bd.data)

/-- The header of the frame an operation sends, in the state it leaves: nothing is written to
the frame after `CS_TX_DATA_READY`. -/
def Op.ulHeader (m : Machine) : Op → Option UlDataHeader
  | .ulBufferRelease (some i) => m.ulHeader i
  | _ => none

/-- The kernel takes a frame as a whole, which is when the frame counter moves on. -/
def Obs.isSent : Obs → Bool
  | .writeData _ w => w.Complete
  | _ => false

namespace Process

/-- Instance `n` as the code sees it: with the counter of the process, which another instance may
have changed. -/
def load (p : Process) (m : Machine) : Machine := { m with ulCounter := p.ulCounter }

/-- The process after instance `n` has become `m`. -/
def store (p : Process) (n : ℕ) (m : Machine) : Process :=
  ⟨m.ulCounter, Function.update p.instances n (some m)⟩

/-- A step of a process: the headers of the frames sent. -/
def next (p : Process) (n : ℕ) : ProcessOp → Process × List (Option UlDataHeader)
  | .opens area memory => (p.store n (cmtspeechOpen area (p.load memory)), [])
  | .calls i =>
    match p.instances n with
    | none => (p, [])
    | some m =>
      let r := nokiamodem.next (p.load m) i
      (p.store n r.1, (r.2.filter Obs.isSent).map fun _ => i.2.ulHeader r.1)
  | .closes => ({ p with instances := Function.update p.instances n none }, [])

end Process

/-- A process, from its start on.  Instances are opened and used in any order, each with a kernel
of its own. -/
def process : Lts Process (ℕ × ProcessOp) (Option UlDataHeader) where
  init p := p = ⟨0, fun _ => none⟩
  next p c := p.next c.1 c.2

/-! ### The header -/

/-- The header an encoder has stored, with all bits of the counter. -/
theorem msgDecode_of_msgEncode {h h' : UlDataHeader} {c : Cmd}
    (henc : msgEncodeUlDataHeader dataHeaderLen h = some c)
    (hdec : msgDecodeUlDataHeader dataHeaderLen c = some h') :
    h'.frameCounter = h.frameCounter := by
  have hround := msgDecode_msgEncodeUlDataHeader (show (4 : ℤ) ≤ dataHeaderLen by decide) h
  rw [henc, Option.bind_some, hdec, Option.some.injEq] at hround
  rw [hround]
  show BitVec.ofNat 16 (h.frameCounter.toNat % 2 ^ 16) = h.frameCounter
  rw [Nat.mod_eq_of_lt h.frameCounter.isLt, BitVec.ofNat_toNat, BitVec.setWidth_eq]

section
variable (k : Kernel) (m : Machine)

/-- The frame of a release carries the counter as it stood before, and not as it is advanced
after. -/
theorem ulHeader_ulBufferSend (i : Fin ulSlots) :
    ∀ h ∈ (ulBufferSend k i m).2.ulHeader i, h.frameCounter = m.ulCounter := by
  unfold ulBufferSend
  dsimp only
  generalize hm : m.modD _ = m₁
  have hheader : ∀ h ∈ m₁.ulHeader i, h.frameCounter = m.ulCounter := by
    intro h hh
    rw [← hm, Machine.ulHeader, Machine.modD_buf] at hh
    split at hh
    · cases hh
    · next hp =>
      obtain ⟨c, hc, -⟩ := msgEncodeUlDataHeader_word (show (4 : ℤ) ≤ dataHeaderLen by decide)
        ⟨m.ulCounter, m.buf.confDataLength, m.buf.confSampleRate,
          BitVec.ofInt 8 (m.buf.ulbufdesc i).bd.frameFlags⟩
      rw [Machine.modD_d, DriverState.load4_store4 _ hp, hc, Option.getD_some] at hh
      exact msgDecode_of_msgEncode hc hh
  split
  · exact hheader
  · split
    · exact hheader
    · exact hheader

end

theorem ulHeader_unlock (m : Machine) (s : Slot) (i : Fin ulSlots) :
    (m.modBuf fun b => b.mapFlags s (· &&& ~~~bufLocked)).ulHeader i = m.ulHeader i := by
  have hdata : ((m.buf.mapFlags s (· &&& ~~~bufLocked)).ulbufdesc i).bd.data =
      (m.buf.ulbufdesc i).bd.data := congrArg Layout.data (m.buf.layout_mapFlags s (.ul i) _)
  rw [Machine.ulHeader, Machine.ulHeader, Machine.modBuf_buf, hdata]
  rfl

/-- The header of a frame a step sends carries the counter before the step. -/
theorem frameCounter_next {m : Machine} {i : Step} (hs : ∃ j, Sends m i.2 j) :
    ∀ h ∈ i.2.ulHeader (nokiamodem.next m i).1, h.frameCounter = m.ulCounter := by
  obtain ⟨k, op⟩ := i
  obtain ⟨j, hs⟩ := hs
  obtain ⟨i, rfl⟩ : ∃ i, op = .ulBufferRelease (some i) := by
    cases hs
    exact ⟨_, rfl⟩
  intro h hh
  refine ulHeader_ulBufferSend k m.begin i h ?_
  have hnext : (nokiamodem.next m (k, .ulBufferRelease (some i))).1 =
      (Op.ulBufferRelease (some i)).run k m.begin := rfl
  rwa [hnext, (run_of_sends hs).2, Op.ulHeader, ulHeader_unlock] at hh

/-! ### The counter -/

/-- The counter goes up by 4 with each frame the kernel takes. -/
theorem counter_foldl (out : List Obs) (u : Uplink) {n : ℕ}
    (hu : u.counter = BitVec.ofNat 16 (4 * n)) :
    (out.foldl Uplink.step u).counter =
      BitVec.ofNat 16 (4 * (n + (out.filter Obs.isSent).length)) := by
  induction out generalizing u n with
  | nil => exact hu
  | cons o out ih =>
    rw [List.foldl_cons]
    -- The counter goes on by four with each frame sent, and with nothing else.
    by_cases ho : o.isSent = true
    · have hstep : (u.step o).counter = BitVec.ofNat 16 (4 * (n + 1)) := by
        cases o with
        | writeData msg w =>
          have hw : w.Complete := of_decide_eq_true ho
          rw [Uplink.step, Uplink.sent, if_pos hw]
          dsimp only
          rw [hu, Nat.mul_succ, BitVec.ofNat_add]
          rfl
        | _ => cases ho
      rw [ih _ hstep, List.filter_cons_of_pos ho, List.length_cons]
      congr 2
      omega
    · have hstep : (u.step o).counter = BitVec.ofNat 16 (4 * n) := by
        rw [← hu]
        cases o with
        | writeData msg w =>
          have hw : ¬ w.Complete := fun hw => ho (decide_eq_true hw)
          rw [Uplink.step, Uplink.sent, if_neg hw]
          split <;> rfl
        | recv cmd =>
          rw [Uplink.step]
          split <;> rfl
        | _ => rfl
      rw [ih _ hstep, List.filter_cons_of_neg ho]

/-- A step hands over the frame of a release, or none. -/
theorem sent_next (m : Machine) (i : Step) :
    (∃ j, Sends m i.2 j) ∧ ((nokiamodem.next m i).2.filter Obs.isSent).length ≤ 1 ∨
      (nokiamodem.next m i).2.filter Obs.isSent = [] := by
  rcases frames_next m i with ⟨j, w, hs, -⟩ | ⟨-, hout⟩
  · refine Or.inl ⟨⟨j, hs⟩, (List.length_filter_le _ _).trans ?_⟩
    rw [out_of_sends (k := i.1) hs, List.length_singleton]
  · refine Or.inr (List.filter_eq_nil_iff.mpr fun o ho hsent => ?_)
    refine List.filter_eq_nil_iff.mp hout o ho ?_
    cases o with
    | writeData msg w => rfl
    | _ => cases hsent

/-- The headers in `out` have the numbers from `n` on. -/
def Numbered (n : ℕ) (out : List (Option UlDataHeader)) : Prop :=
  ∀ k f, out[k]? = some f → ∀ h ∈ f, h.frameCounter.toNat = 4 * (n + k) % 2 ^ 16

theorem numbered_append {n : ℕ} {xs ys : List (Option UlDataHeader)} (hx : Numbered n xs)
    (hy : Numbered (n + xs.length) ys) : Numbered n (xs ++ ys) := by
  intro k f hf h hh
  rcases lt_or_ge k xs.length with hk | hk
  · rw [List.getElem?_append_left hk] at hf
    exact hx k f hf h hh
  · rw [List.getElem?_append_right hk] at hf
    rw [hy (k - xs.length) f hf h hh]
    congr 2
    omega

/-- One step of a process, with whichever of its instances: a frame sent is numbered next, and the
counter has gone on. -/
theorem process_next {p : Process} {n : ℕ} (hp : p.ulCounter = BitVec.ofNat 16 (4 * n))
    (c : ℕ × ProcessOp) :
    Numbered n (process.next p c).2 ∧ (process.next p c).1.ulCounter =
      BitVec.ofNat 16 (4 * (n + (process.next p c).2.length)) := by
  obtain ⟨id, op⟩ := c
  cases op with
  | opens area memory => exact ⟨fun k f hf => absurd hf (by simp [process, Process.next]), hp⟩
  | closes => exact ⟨fun k f hf => absurd hf (by simp [process, Process.next]), hp⟩
  | calls i =>
    show Numbered n (p.next id (.calls i)).2 ∧ (p.next id (.calls i)).1.ulCounter =
      BitVec.ofNat 16 (4 * (n + (p.next id (.calls i)).2.length))
    rw [Process.next]
    split
    · exact ⟨fun k f hf => absurd hf (by simp), hp⟩
    · next m hm =>
      refine ⟨?_, ?_⟩
      · intro k f hf h hh
        rw [List.getElem?_map, Option.map_eq_some_iff] at hf
        obtain ⟨o, ho, rfl⟩ := hf
        -- A call sends one frame at most, and it is numbered from the counter before the call.
        rcases sent_next (p.load m) i with ⟨hs, hlen⟩ | hnil
        · have hk : k = 0 := by
            have hlt := (List.getElem?_eq_some_iff.mp ho).1
            omega
          have hcounter : h.frameCounter = p.ulCounter := frameCounter_next hs h hh
          rw [hcounter, hp, hk, BitVec.toNat_ofNat, Nat.add_zero]
        · rw [hnil] at ho
          cases ho
      · have hcounter := congrArg Uplink.counter (uplink_next (p.load m) i)
        rw [counter_foldl _ _ (n := n) hp] at hcounter
        rw [List.length_map]
        exact hcounter

/-- A run of a process: its frames are numbered one after the other, across all instances. -/
theorem process_trace {p : Process} {n : ℕ} (hp : p.ulCounter = BitVec.ofNat 16 (4 * n))
    (cs : List (ℕ × ProcessOp)) : Numbered n (process.trace p cs) := by
  induction cs generalizing p n with
  | nil => exact fun k f hf => absurd hf (by simp)
  | cons c cs ih =>
    obtain ⟨hnum, hcounter⟩ := process_next hp c
    rw [Lts.trace_cons]
    exact numbered_append hnum (ih hcounter)

/-- **Uplink frames are numbered** by fours: in every run of a process, with any number of
instances, the header of the `k`-th frame the kernel takes carries `4 * k`, in 16 bits. -/
theorem frameCounter_trace {p : Process} (hp : process.init p) (cs : List (ℕ × ProcessOp))
    {k : ℕ} {f : Option UlDataHeader} (hf : (process.trace p cs)[k]? = some f) :
    ∀ h ∈ f, h.frameCounter.toNat = 4 * k % 2 ^ 16 := by
  have hstart : p.ulCounter = BitVec.ofNat 16 (4 * 0) := by
    rw [hp]
    rfl
  intro h hh
  have hnum := process_trace hstart cs k f hf h hh
  rwa [Nat.zero_add] at hnum

/-- Two frames of one instance, with one that finds the kernel busy in between, and a frame of
an instance opened after that. -/
def numberedRun : List (ℕ × ProcessOp) :=
  (0, .opens .blank .zeroed) :: (heldBufferRun.take 4 ++ frameSent .accepting 0 ++
      frameSent .busy 1 ++ frameSent .accepting 0).map (fun i => (0, .calls i)) ++
    (1, .opens .blank .zeroed) :: (heldBufferRun.take 4 ++
      frameSent .accepting 0).map fun i => (1, .calls i)

theorem frameCounter_numbered :
    process.init ⟨0, fun _ => none⟩ ∧
      ∃ h, (process.trace ⟨0, fun _ => none⟩ numberedRun)[2]? = some (some h) ∧
        h.frameCounter.toNat = 4 * 2 % 2 ^ 16 := by
  have hsome : ((process.trace ⟨0, fun _ => none⟩ numberedRun)[2]?.bind id).isSome := by
    decide +kernel
  obtain ⟨h, hh⟩ := Option.isSome_iff_exists.mp hsome
  obtain ⟨f, hf, hfh⟩ := Option.bind_eq_some_iff.mp hh
  exact ⟨rfl, h, hf.trans (congrArg some hfh), frameCounter_trace rfl numberedRun hf h hfh⟩

end CmtSpeech
