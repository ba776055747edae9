import CmtSpeech.Driver
import CmtSpeech.Lib.BoundedFifo
import Mathlib.Algebra.Order.Ring.Int

/-!
# The ring of the event queue

`sal_ring.h`, and the two calls of `cmtspeech_nokiamodem.c` on the ring `evbuf`, octet for
octet: events of `e` octets in a ring of `n * e` octets.  The rest of the development works
with the list of queued events; here is what that list stands for.

The ring computes in `int`.  With the oldest event in the last slot, `ring_buffer_avail_for_write`
adds the size of the buffer to an index that is almost as large, and in a buffer of more than
2 ^ 30 octets the sum may leave the range: then a ring that holds a single event is taken for a
full one.

## Main definitions

* `asInt` — what a register of 32 bits makes of a sum.

* `RingBuffer` — `ring_buffer_t`, `RingBuffer.cavailForWrite` and the others.
* `RingBuffer.privQueueControlEvent`, `RingBuffer.privDequeueControlEvent`
* `RingBuffer.Holds` — the ring holds a queue of events.

## Main results

* `evbuf_refines_fifo` — the ring is a bounded queue, as long as its sums are in range.
* `evbuf_overflows` — a ring of three slots of 2 ^ 29 octets is not.
* `holds_privQueueControlEvent`, `holds_privDequeueControlEvent` — the list of the driver
  state is the queue its ring holds.
-/

namespace CmtSpeech

/-- What is left of a sum in an `int`.  C does not say what a sum out of range is; a register of
32 bits keeps it modulo 2 ^ 32. -/
def asInt (x : ℤ) : ℤ := x.bmod (2 ^ 32)

theorem asInt_eq {x : ℤ} (hge : -2 ^ 31 ≤ x) (hlt : x < 2 ^ 31) : asInt x = x :=
  Int.bmod_eq_of_le hge hlt

/-- `ring_buffer_t`, with the memory around `data`.  The fields are `int`s, and what the calls
compute from them is cut to an `int` again. -/
structure RingBuffer where
  readIdx : ℤ
  writeIdx : ℤ
  size : ℤ
  data : ℤ → BitVec 8

/-- What a call on the event queue checks, copies and returns.  Both the assertion and the extent
of each copy are there to be looked at. -/
inductive QueueObs (e : ℕ) where
  | softAssert (holds : Bool)
  /-- `len` octets from or to `data + offset`. -/
  | memcpy (offset len : ℤ)
  | queued (res : ℤ)
  | dequeued (res : ℤ) (event : Option (Vector (BitVec 8) e))

namespace RingBuffer

/-- `ring_buffer_init`; the caller has computed the size as a `size_t`. -/
def ringBufferInit (buf : ℤ → BitVec 8) (size : ℤ) : RingBuffer where
  readIdx := 0
  writeIdx := 0
  size := asInt size
  data := buf

variable (ring : RingBuffer)

/-- `ring_buffer_avail_for_read`: the octets that can be read, over the end of the buffer or not. -/
def availForRead : ℤ := (asInt (ring.writeIdx - ring.readIdx + ring.size)).tmod ring.size

/-- `ring_buffer_cavail_for_read`: those that can be read from one piece of the buffer. -/
def cavailForRead : ℤ :=
  if ring.writeIdx ≥ ring.readIdx then asInt (ring.writeIdx - ring.readIdx)
  else asInt (ring.size - ring.readIdx)

/-- `ring_buffer_avail_for_write`: the octets that can be written, of which one is always kept
open. -/
def availForWrite : ℤ :=
  if ring.readIdx = ring.writeIdx then asInt (ring.size - 1)
  else (asInt (ring.readIdx - ring.writeIdx - 1 + ring.size)).tmod ring.size

/-- `ring_buffer_cavail_for_write`: those that can be written to one piece of the buffer. -/
def cavailForWrite : ℤ :=
  if ring.readIdx > ring.writeIdx then ring.availForWrite
  else if ring.readIdx = 0 then asInt (ring.size - ring.writeIdx - 1)
  else asInt (ring.size - ring.writeIdx)

/-- `ring_buffer_move_read`, which does not care about an overrun. -/
def moveRead (n : ℤ) : RingBuffer :=
  { ring with readIdx := (asInt (ring.readIdx + n)).tmod ring.size }

/-- `ring_buffer_move_write`, which does not care about an overrun. -/
def moveWrite (n : ℤ) : RingBuffer :=
  { ring with writeIdx := (asInt (ring.writeIdx + n)).tmod ring.size }

/-- The octets of an event at `data + offset`. -/
def eventAt (e : ℕ) (offset : ℤ) : Vector (BitVec 8) e :=
  Vector.ofFn fun i => ring.data (offset + i)

/-- `memcpy` of an event to `data + offset`; the octets before and after it stay what they are. -/
def putEvent {e : ℕ} (offset : ℤ) (event : Vector (BitVec 8) e) : RingBuffer :=
  { ring with
    data := fun p =>
      if h : offset ≤ p ∧ p < offset + e then event[(p - offset).toNat] else ring.data p }

/-- `priv_queue_control_event`: the place to write is taken before the oldest event is
dropped. -/
def privQueueControlEvent {e : ℕ} (event : Vector (BitVec 8) e) :
    RingBuffer × List (QueueObs e) :=
  let dst := ring.writeIdx
  let r : ℤ × RingBuffer :=
    if ring.cavailForWrite < e then (-1, ring.moveRead e) else (0, ring)
  ((r.2.putEvent dst event).moveWrite e,
    [.softAssert (r.2.cavailForWrite ≥ e), .memcpy dst e, .queued r.1])

/-- `priv_dequeue_control_event`: the copy is made only when a whole event lies in one piece. -/
def privDequeueControlEvent (e : ℕ) : RingBuffer × List (QueueObs e) :=
  let src := ring.readIdx
  if ring.cavailForRead < e then (ring, [.dequeued (-1) none])
  else (ring.moveRead e, [.memcpy src e, .dequeued 0 (some (ring.eventAt e src))])

/-- A call on the queue: the operations of a queue by the functions of the backend. -/
def run {e : ℕ} : FifoOp (Vector (BitVec 8) e) → RingBuffer × List (QueueObs e)
  | .enqueue event => ring.privQueueControlEvent event
  | .dequeue => ring.privDequeueControlEvent e

/-- The events that can be read, the oldest one first: those in the slots from the read index up
to the write index. -/
def contents (e : ℕ) : List (Vector (BitVec 8) e) :=
  (List.range (ring.availForRead / e).toNat).map fun i : ℕ =>
    ring.eventAt e ((ring.readIdx + i * e).tmod ring.size)

/-- Slot `s` of the ring: the `e` octets from the multiple `s * e` on, read as one event. -/
def slot (e s : ℕ) : Vector (BitVec 8) e := ring.eventAt e (s * e : ℕ)

end RingBuffer

/-- The ring of `cmtspeech_open`, and the calls on it.  Its size is that of the buffer as C
computes it. -/
def eventRing (e n : ℕ) : Lts RingBuffer (FifoOp (Vector (BitVec 8) e)) (QueueObs e) where
  init ring := ∃ buf, ring = .ringBufferInit buf (n * e)
  next ring op := ring.run op

namespace QueueObs

variable {e : ℕ}

/-- What is returned, as opposed to what is done to the ring. -/
def isRes : QueueObs e → Bool
  | .queued _ | .dequeued _ _ => true
  | .softAssert _ | .memcpy _ _ => false

/-- The assertion holds, and the copy lies in one contiguous segment of the buffer: `memcpy`
writes no octet that is not the ring's. -/
def Sound (size : ℤ) : QueueObs e → Prop
  | .softAssert holds => holds = true
  | .memcpy offset len => 0 ≤ offset ∧ offset + len ≤ size
  | .queued _ | .dequeued _ _ => True

/-- What the calls return for the result of an operation on a queue. -/
def ofRes : FifoRes (Vector (BitVec 8) e) → QueueObs e
  | .appended => .queued 0
  | .lost => .queued (-1)
  | .empty => .dequeued (-1) none
  | .removed event => .dequeued 0 (some event)

end QueueObs

/-! ### Offsets and slots -/

section
variable {e n r w : ℕ}

/-- Offsets wrap around as the slots do, so that the ring can be seen as one of slots. -/
theorem tmod_slot (s n e : ℕ) : ((s * e : ℕ) : ℤ).tmod ((n * e : ℕ) : ℤ) = (s % n * e : ℕ) := by
  rw [← Int.ofNat_tmod, Nat.mul_mod_mul_right]

theorem slot_le_iff (he : 0 < e) : r * e ≤ w * e + e ↔ r ≤ w + 1 := by
  rw [← Nat.succ_mul]
  exact Nat.mul_le_mul_right_iff he

/-- A slot ends where the next one starts, at the latest. -/
theorem slot_add_le (h : r < w) : r * e + e ≤ w * e := by
  rw [← Nat.succ_mul]
  exact Nat.mul_le_mul_right e h

theorem slot_lt (he : 0 < e) (h : r < w) : r * e < w * e := Nat.mul_lt_mul_of_pos_right h he

end

namespace RingBuffer

variable {e n r w : ℕ} {ring : RingBuffer}

/-- Both indices are at slots, of a buffer that is not too large: the most the calls ever compute
is the size and the index of the last slot, added up. -/
structure OnSlots (ring : RingBuffer) (e n r w : ℕ) : Prop where
  size_lt : n * e < 2 ^ 31
  sum_lt : 2 * (n * e) < 2 ^ 31 + e
  size_eq : ring.size = (n * e : ℕ)
  readIdx_eq : ring.readIdx = (r * e : ℕ)
  writeIdx_eq : ring.writeIdx = (w * e : ℕ)

theorem OnSlots.moveRead (h : ring.OnSlots e n r w) (hr : r < n) :
    (ring.moveRead e).OnSlots e n ((r + 1) % n) w := by
  refine { h with readIdx_eq := ?_ }
  have hsize := h.size_lt
  have hend := slot_add_le (e := e) hr
  show (asInt (ring.readIdx + e)).tmod ring.size = _
  rw [h.readIdx_eq, h.size_eq, asInt_eq (by omega) (by omega), ← tmod_slot, Nat.succ_mul,
    Nat.cast_add]

theorem OnSlots.moveWrite (h : ring.OnSlots e n r w) (hw : w < n) :
    (ring.moveWrite e).OnSlots e n r ((w + 1) % n) := by
  refine { h with writeIdx_eq := ?_ }
  have hsize := h.size_lt
  have hend := slot_add_le (e := e) hw
  show (asInt (ring.writeIdx + e)).tmod ring.size = _
  rw [h.writeIdx_eq, h.size_eq, asInt_eq (by omega) (by omega), ← tmod_slot, Nat.succ_mul,
    Nat.cast_add]

theorem OnSlots.putEvent (h : ring.OnSlots e n r w) (offset : ℤ) (event : Vector (BitVec 8) e) :
    (ring.putEvent offset event).OnSlots e n r w :=
  { h with }

/-- Nothing can be read when the indices are equal. -/
theorem OnSlots.cavailForRead_lt_iff (h : ring.OnSlots e n r w) (he : 0 < e) (hr : r < n)
    (hw : w < n) : ring.cavailForRead < e ↔ w = r := by
  have hsize := h.size_lt
  have hr' := slot_add_le (e := e) hr
  have hw' := slot_add_le (e := e) hw
  rw [cavailForRead, h.size_eq, h.readIdx_eq, h.writeIdx_eq, asInt_eq (by omega) (by omega),
    asInt_eq (by omega) (by omega)]
  rcases lt_trichotomy w r with hlt | rfl | hlt
  · have hidx := slot_lt he hlt
    rw [if_neg (by omega)]
    omega
  · rw [if_pos le_rfl]
    omega
  · have hidx := slot_add_le (e := e) hlt
    rw [if_pos (by omega)]
    omega

/-- No event can be written when only the slot before the oldest one is open: then one
octet of room is missing. -/
theorem OnSlots.cavailForWrite_lt_iff (h : ring.OnSlots e n r w) (he : 0 < e) (hr : r < n)
    (hw : w < n) : ring.cavailForWrite < e ↔ (w + 1) % n = r := by
  have hsize := slot_add_le (e := e) hw
  have hread := slot_add_le (e := e) hr
  have hint := h.size_lt
  have hsum := h.sum_lt
  rw [cavailForWrite, availForWrite, h.size_eq, h.readIdx_eq, h.writeIdx_eq,
    asInt_eq (x := _ - _ - 1) (by omega) (by omega), asInt_eq (x := _ - (w * e : ℕ))
      (by omega) (by omega), asInt_eq (x := _ + _) (by omega) (by omega)]
  -- The sums are `int`s, so they are what they say; what is left is where the free octets lie.
  rcases lt_or_ge w r with hlt | hle
  · -- the octets up to the one before the oldest event
    have hidx := slot_lt he hlt
    have hend := slot_lt he hr
    have hmod : (((r * e : ℕ) : ℤ) - (w * e : ℕ) - 1 + (n * e : ℕ)).tmod (n * e : ℕ) =
        (r * e : ℕ) - (w * e : ℕ) - 1 := by
      rw [Int.tmod_eq_emod_of_nonneg (by omega), Int.add_emod_right]
      exact Int.emod_eq_of_lt (by omega) (by omega)
    have hroom := slot_le_iff (r := r) (w := w) he
    rw [if_pos (by omega), if_neg (by omega), hmod, Nat.mod_eq_of_lt (by omega)]
    omega
  · rw [if_neg (by have := Nat.mul_le_mul_right e hle; omega)]
    by_cases h₀ : r = 0
    · -- the last octet of the buffer stays open
      subst h₀
      have hroom := slot_le_iff (r := n) (w := w) he
      rw [if_pos (by simp)]
      rcases Nat.lt_or_ge (w + 1) n with hlt | hge
      · rw [Nat.mod_eq_of_lt hlt]
        omega
      · have hlast : w + 1 = n := by omega
        rw [hlast, Nat.mod_self]
        omega
    · -- up to the end of the buffer, where whole slots are left
      have hpos := Nat.mul_pos (Nat.pos_of_ne_zero h₀) he
      rw [if_neg (by omega)]
      rcases Nat.lt_or_ge (w + 1) n with hlt | hge
      · rw [Nat.mod_eq_of_lt hlt]
        omega
      · have hlast : w + 1 = n := by omega
        rw [hlast, Nat.mod_self]
        omega

/-! ### Reading and writing slots -/

section
variable (ring) (event : Vector (BitVec 8) e)

@[simp] theorem slot_moveRead (k : ℤ) (s : ℕ) : (ring.moveRead k).slot e s = ring.slot e s := rfl

@[simp] theorem slot_moveWrite (k : ℤ) (s : ℕ) : (ring.moveWrite k).slot e s = ring.slot e s := rfl

/-- Reading back what has been written: the octets of a slot are those of the event. -/
theorem slot_putEvent_self (w : ℕ) : (ring.putEvent (w * e : ℕ) event).slot e w = event := by
  apply Vector.ext
  intro i hi
  simp [slot, eventAt, putEvent]

/-- The other slots are not written, for the slots do not overlap. -/
theorem slot_putEvent_of_ne {s w : ℕ} (h : s ≠ w) :
    (ring.putEvent (w * e : ℕ) event).slot e s = ring.slot e s := by
  apply Vector.ext
  intro i hi
  have hout : ¬ (((w * e : ℕ) : ℤ) ≤ (s * e : ℕ) + i ∧
      ((s * e : ℕ) : ℤ) + i < (w * e : ℕ) + e) := by
    rcases lt_or_gt_of_ne h with hlt | hlt
    · have hle := slot_add_le (e := e) hlt
      omega
    · have hle := slot_add_le (e := e) hlt
      omega
  simp only [slot, eventAt, putEvent, Vector.getElem_ofFn]
  rw [dif_neg hout]

end

/-! ### The queue a ring holds -/

/-- The ring holds the queue `q`, its oldest event in slot `head`. -/
structure Holds (ring : RingBuffer) (e n head : ℕ) (q : List (Vector (BitVec 8) e)) :
    Prop where
  inCells : InCells (ring.slot e) n head q
  onSlots : ring.OnSlots e n head ((head + q.length) % n)

variable {head : ℕ} {q : List (Vector (BitVec 8) e)} {event : Vector (BitVec 8) e}

theorem holds_ringBufferInit (hn : 0 < n) (hsize : n * e < 2 ^ 31)
    (hsum : 2 * (n * e) < 2 ^ 31 + e) (buf : ℤ → BitVec 8) :
    (ringBufferInit buf (n * e)).Holds e n 0 [] := by
  have hcut : asInt ((n : ℤ) * e) = (n * e : ℕ) := by
    rw [← Nat.cast_mul]
    exact asInt_eq (by omega) (by omega)
  refine ⟨InCells.nil hn _, ⟨hsize, hsum, ?_, ?_, ?_⟩⟩
  · simpa only [ringBufferInit] using hcut
  · simp [ringBufferInit]
  · simp [ringBufferInit]

namespace Holds

theorem availForRead_eq (h : ring.Holds e n head q) :
    ring.availForRead = (q.length * e : ℕ) := by
  have hhead := slot_add_le (e := e) h.inCells.head_lt
  have hn : 0 < n := Nat.zero_lt_of_lt h.inCells.head_lt
  have htail := slot_add_le (e := e) (Nat.mod_lt (head + q.length) hn)
  have hint := h.onSlots.sum_lt
  have hsum : (((head + q.length) % n * e : ℕ) : ℤ) - (head * e : ℕ) + (n * e : ℕ) =
      (((head + q.length) % n + n - head) * e : ℕ) := by
    rw [Nat.sub_mul, Nat.add_mul]
    omega
  rw [availForRead, h.onSlots.size_eq, h.onSlots.readIdx_eq, h.onSlots.writeIdx_eq,
    asInt_eq (by omega) (by omega), hsum, tmod_slot, h.inCells.distance]

/-- What can be read from the ring is the queue, from its head on. -/
theorem contents_eq (h : ring.Holds e n head q) (he : 0 < e) : ring.contents e = q := by
  have hlen : (ring.availForRead / e).toNat = q.length := by
    rw [h.availForRead_eq, Nat.cast_mul, Int.mul_ediv_cancel _ (by omega), Int.toNat_natCast]
  rw [contents, hlen]
  apply List.ext_getElem
  · rw [List.length_map, List.length_range]
  · intro i hi hi'
    rw [List.getElem_map, List.getElem_range, h.onSlots.readIdx_eq, h.onSlots.size_eq,
      ← Nat.cast_mul, ← Nat.cast_add, ← Nat.add_mul, tmod_slot]
    exact h.inCells.cell_eq i hi'

/-- Writing the slot at the tail appends the event, as long as one slot stays open. -/
theorem write (h : ring.Holds e n head q) (hroom : q.length + 1 < n) :
    ((ring.putEvent ring.writeIdx event).moveWrite e).Holds e n head (q ++ [event]) := by
  have hw := h.onSlots.writeIdx_eq
  refine ⟨h.inCells.push hroom ?_ ?_, ?_⟩
  · rw [slot_moveWrite, hw]
    exact slot_putEvent_self ring event _
  · intro s _ hs
    rw [slot_moveWrite, hw]
    exact slot_putEvent_of_ne ring event hs
  · rw [← InCells.tail_push]
    exact (h.onSlots.putEvent _ _).moveWrite (Nat.mod_lt _ (Nat.zero_lt_of_lt hroom))

/-- Moving the read index past the oldest event leaves the rest of the queue. -/
theorem drop {a : Vector (BitVec 8) e} (h : ring.Holds e n head (a :: q)) :
    (ring.moveRead e).Holds e n ((head + 1) % n) q := by
  refine ⟨h.inCells.pop, ?_⟩
  rw [InCells.tail_pop n head a q]
  exact h.onSlots.moveRead h.inCells.head_lt

theorem cavailForRead_lt_iff (h : ring.Holds e n head q) (he : 0 < e) :
    ring.cavailForRead < e ↔ q = [] := by
  have hn : 0 < n := Nat.zero_lt_of_lt h.inCells.head_lt
  rw [h.onSlots.cavailForRead_lt_iff he h.inCells.head_lt (Nat.mod_lt _ hn)]
  exact h.inCells.eq_nil_iff

theorem cavailForWrite_lt_iff (h : ring.Holds e n head q) (he : 0 < e) :
    ring.cavailForWrite < e ↔ q.length + 1 = n := by
  have hn : 0 < n := Nat.zero_lt_of_lt h.inCells.head_lt
  rw [h.onSlots.cavailForWrite_lt_iff he h.inCells.head_lt (Nat.mod_lt _ hn)]
  exact h.inCells.full_iff

/-- A slot lies in one segment of the buffer, as a multiple of the size of an event. -/
theorem sound_memcpy {s : ℕ} (hs : s < n) :
    (QueueObs.memcpy (e := e) (s * e : ℕ) e).Sound (n * e) := by
  have hle := slot_add_le (e := e) hs
  exact ⟨Int.natCast_nonneg _, by omega⟩

/-- Queueing an event that fits: one copy to the tail, the index moved, and 0 returned. -/
theorem queue_of_lt (h : ring.Holds e n head q) (he : 0 < e) (hroom : q.length + 1 < n) :
    ring.privQueueControlEvent event = ((ring.putEvent ring.writeIdx event).moveWrite e,
      [.softAssert true, .memcpy ring.writeIdx e, .queued 0]) := by
  have hcavail : ¬ ring.cavailForWrite < e := by
    rw [h.cavailForWrite_lt_iff he]
    omega
  unfold privQueueControlEvent
  simp only [if_neg hcavail, decide_eq_true (not_lt.mp hcavail)]

/-- Queueing an event in a full ring: the oldest event is dropped, and the new one is
written where the write index was. -/
theorem queue_of_full {a : Vector (BitVec 8) e} (h : ring.Holds e n head (a :: q)) (he : 0 < e)
    (hfull : (a :: q).length + 1 = n) :
    ring.privQueueControlEvent event =
      (((ring.moveRead e).putEvent ring.writeIdx event).moveWrite e,
        [.softAssert true, .memcpy ring.writeIdx e, .queued (-1)]) := by
  have hcavail : ring.cavailForWrite < e := (h.cavailForWrite_lt_iff he).mpr hfull
  have hcavail' : ¬ (ring.moveRead e).cavailForWrite < e := by
    rw [h.drop.cavailForWrite_lt_iff he]
    rw [List.length_cons] at hfull
    omega
  unfold privQueueControlEvent
  simp only [if_pos hcavail, decide_eq_true (not_lt.mp hcavail')]

/-- One call: the ring does to its queue what the bounded queue does, returns the same, and
copies within the buffer. -/
theorem run (h : ring.Holds e n head q) (he : 0 < e) (hn : 2 ≤ n)
    (op : FifoOp (Vector (BitVec 8) e)) :
    (∃ head', (ring.run op).1.Holds e n head' ((BoundedFifo _ (n - 1)).next q op).1) ∧
      (ring.run op).2.filter QueueObs.isRes =
        ((BoundedFifo _ (n - 1)).next q op).2.map QueueObs.ofRes ∧
      ∀ o ∈ (ring.run op).2, o.Sound (n * e) := by
  cases op with
  | enqueue event =>
    have htail : (QueueObs.memcpy (e := e) ring.writeIdx e).Sound (n * e) := by
      rw [h.onSlots.writeIdx_eq]
      exact sound_memcpy (Nat.mod_lt _ (by omega))
    by_cases hroom : q.length + 1 < n
    · rw [BoundedFifo.next_enqueue_of_lt (by omega), RingBuffer.run, h.queue_of_lt he hroom]
      refine ⟨⟨head, h.write hroom⟩, rfl, ?_⟩
      simp only [List.forall_mem_cons]
      exact ⟨rfl, htail, trivial, by simp⟩
    -- The ring is full: the oldest event is dropped, and its slot is the one left open after that.
    · have hlt := h.inCells.room
      cases q with
      | nil => rw [List.length_nil] at hroom; omega
      | cons a q =>
        have hfull : (a :: q).length + 1 = n := by omega
        rw [BoundedFifo.next_enqueue_of_le (by omega), RingBuffer.run, h.queue_of_full he hfull]
        refine ⟨⟨(head + 1) % n, h.drop.write ?_⟩, rfl, ?_⟩
        · rwa [List.length_cons] at hlt
        · simp only [List.forall_mem_cons]
          exact ⟨rfl, htail, trivial, by simp⟩
  | dequeue =>
    rw [RingBuffer.run, privDequeueControlEvent]
    cases q with
    | nil =>
      have hempty : ring.cavailForRead < e := (h.cavailForRead_lt_iff he).mpr rfl
      simp only [if_pos hempty]
      refine ⟨⟨head, h⟩, rfl, ?_⟩
      simp only [List.forall_mem_cons]
      exact ⟨trivial, by simp⟩
    | cons a q =>
      have hsome : ¬ ring.cavailForRead < e := by simp [h.cavailForRead_lt_iff he]
      have hhead : ring.eventAt e ring.readIdx = a := by
        rw [h.onSlots.readIdx_eq]
        exact h.inCells.cell_head
      simp only [if_neg hsome, hhead]
      refine ⟨⟨(head + 1) % n, h.drop⟩, rfl, ?_⟩
      simp only [List.forall_mem_cons]
      refine ⟨?_, trivial, by simp⟩
      rw [h.onSlots.readIdx_eq]
      exact sound_memcpy h.inCells.head_lt

end Holds

end RingBuffer

/-- **The event queue is a bounded queue**, as long as what the ring computes is an `int`, which
it is in every buffer of at most 2 ^ 30 octets: whatever the calls, the ring holds, the oldest
event first, what a queue of at most `n - 1` events holds, and returns the same; the
assertion before a copy never fails, and no copy crosses the end of the buffer. -/
theorem evbuf_refines_fifo {e n : ℕ} (he : 1 ≤ e) (hn : 2 ≤ n)
    (hint : (2 * n - 1) * e < 2 ^ 31) {ring : RingBuffer}
    (hring : (eventRing e n).init ring) (ops : List (FifoOp (Vector (BitVec 8) e))) :
    ((eventRing e n).exec ring ops).contents e = (BoundedFifo _ (n - 1)).exec [] ops ∧
      (((eventRing e n).exec ring ops).contents e).length ≤ n - 1 ∧
      ((eventRing e n).trace ring ops).filter QueueObs.isRes =
        ((BoundedFifo _ (n - 1)).trace [] ops).map QueueObs.ofRes ∧
      ∀ o ∈ (eventRing e n).trace ring ops, o.Sound (n * e) := by
  obtain ⟨buf, rfl⟩ := hring
  have hinit : (RingBuffer.ringBufferInit buf (n * e)).Holds e n 0 [] := by
    have hslot := Nat.mul_le_mul_right e hn
    rw [Nat.sub_mul, Nat.mul_assoc, Nat.one_mul] at hint
    exact RingBuffer.holds_ringBufferInit (by omega) (by omega) (by omega) buf
  -- The ring holds what the queue holds, from some slot on; each call keeps it so.
  obtain ⟨⟨head, hexec⟩, htrace⟩ := (eventRing e n).simulation
    (R := fun ring q => ∃ head, ring.Holds e n head q)
    (fun ring q op ⟨head, h⟩ => ⟨(h.run he hn op).1, (h.run he hn op).2.1⟩) ops ⟨0, hinit⟩
  have hcontents := hexec.contents_eq he
  refine ⟨hcontents, ?_, htrace, ?_⟩
  · rw [hcontents]
    exact BoundedFifo.length_exec (by omega) ops
  · refine (eventRing e n).forall_trace (I := fun ring => ∃ head q, ring.Holds e n head q)
      ?_ ?_ ⟨0, [], hinit⟩
    · rintro ring op ⟨head, q, h⟩
      obtain ⟨head', h'⟩ := (h.run he hn op).1
      exact ⟨head', _, h'⟩
    · rintro ring op ⟨head, q, h⟩
      exact (h.run he hn op).2.2

/-- One event in a ring of two slots: the second event drops the first. -/
theorem evbuf_refines_fifo_two :
    ((eventRing 1 2).exec (.ringBufferInit (fun _ => 0) ((1 : ℕ) * (2 : ℕ)))
        [.enqueue #v[7], .enqueue #v[9], .dequeue, .dequeue]).contents 1 =
      (BoundedFifo (Vector (BitVec 8) 1) (2 - 1)).exec []
        [.enqueue #v[7], .enqueue #v[9], .dequeue, .dequeue] ∧
    (((eventRing 1 2).exec (.ringBufferInit (fun _ => 0) ((1 : ℕ) * (2 : ℕ)))
        [.enqueue #v[7], .enqueue #v[9], .dequeue, .dequeue]).contents 1).length ≤ 2 - 1 ∧
    ((eventRing 1 2).trace (.ringBufferInit (fun _ => 0) ((1 : ℕ) * (2 : ℕ)))
        [.enqueue #v[7], .enqueue #v[9], .dequeue, .dequeue]).filter QueueObs.isRes =
      ((BoundedFifo (Vector (BitVec 8) 1) (2 - 1)).trace []
        [.enqueue #v[7], .enqueue #v[9], .dequeue, .dequeue]).map QueueObs.ofRes ∧
    ∀ o ∈ (eventRing 1 2).trace (.ringBufferInit (fun _ => 0) ((1 : ℕ) * (2 : ℕ)))
        [.enqueue #v[7], .enqueue #v[9], .dequeue, .dequeue], o.Sound ((2 : ℕ) * (1 : ℕ)) :=
  evbuf_refines_fifo (by decide) (by decide) (by decide) ⟨fun _ => 0, rfl⟩ _

/-! ### A ring that is too large -/

/-- What queueing an event returned, `0` when there was room and `-1` when not. -/
def QueueObs.queuedRes {e : ℕ} : QueueObs e → Option ℤ
  | .queued res => some res
  | _ => none

/-- The oldest event comes to be in the last slot: two events have come and gone, one is in the
ring, and one more is queued. -/
def lastSlotOps {α : Type} (event : α) : List (FifoOp α) :=
  [.enqueue event, .dequeue, .enqueue event, .dequeue, .enqueue event, .enqueue event]

/-- The read index 2 ^ 30 and the size, less 1, add up to more than an `int` holds, so the second
event is queued with the first one dropped. -/
theorem evbuf_overflows :
    let event := Vector.replicate (2 ^ 29) (0 : BitVec 8)
    let ring := RingBuffer.ringBufferInit (fun _ => 0) ((3 : ℕ) * (2 ^ 29 : ℕ))
    (eventRing (2 ^ 29) 3).init ring ∧
      ((eventRing (2 ^ 29) 3).trace ring (lastSlotOps event)).filter QueueObs.isRes ≠
        ((BoundedFifo _ (3 - 1)).trace [] (lastSlotOps event)).map QueueObs.ofRes := by
  intro event ring
  refine ⟨⟨_, rfl⟩, ?_⟩
  intro heq
  have hres := congrArg (List.filterMap QueueObs.queuedRes) heq
  exact absurd hres (by decide +kernel)

/-! ### The list of the driver state

The driver state keeps the queued events themselves; `enc` is how the compiler lays an event
out in memory. -/

section
variable {e head : ℕ} {ring : RingBuffer} {m : Machine} (enc : Event → Vector (BitVec 8) e)

/-- Queueing an event, in the ring and in the list. -/
theorem holds_privQueueControlEvent (he : 0 < e)
    (h : ring.Holds e eventBufferSize head (m.d.evbuf.map enc)) (event : Event) :
    (∃ head', (ring.privQueueControlEvent (enc event)).1.Holds e eventBufferSize head'
        ((privQueueControlEvent event m).2.d.evbuf.map enc)) ∧
      (ring.privQueueControlEvent (enc event)).2.filter QueueObs.isRes =
        [.queued (privQueueControlEvent event m).1] := by
  obtain ⟨hnext, hres, -⟩ := h.run he (by decide) (.enqueue (enc event))
  by_cases hfull : m.d.evbuf.length ≥ eventCapacity
  · have hlist : (privQueueControlEvent event m).2.d.evbuf = m.d.evbuf.tail ++ [event] :=
      congrArg (· ++ [event]) (if_pos hfull)
    have hlost : (privQueueControlEvent event m).1 = -1 := if_pos hfull
    rw [BoundedFifo.next_enqueue_of_le (by rwa [List.length_map])] at hnext hres
    rw [hlist, hlost, List.map_append, List.map_tail]
    exact ⟨hnext, hres⟩
  · have hlist : (privQueueControlEvent event m).2.d.evbuf = m.d.evbuf ++ [event] :=
      congrArg (· ++ [event]) (if_neg hfull)
    have hkept : (privQueueControlEvent event m).1 = 0 := if_neg hfull
    rw [BoundedFifo.next_enqueue_of_lt (by rwa [List.length_map, ← not_le])] at hnext hres
    rw [hlist, hkept, List.map_append]
    exact ⟨hnext, hres⟩

/-- Taking an event out of the ring and out of the list. -/
theorem holds_privDequeueControlEvent (he : 0 < e)
    (h : ring.Holds e eventBufferSize head (m.d.evbuf.map enc)) :
    (∃ head', (ring.privDequeueControlEvent e).1.Holds e eventBufferSize head'
        ((privDequeueControlEvent m).2.d.evbuf.map enc)) ∧
      (ring.privDequeueControlEvent e).2.filter QueueObs.isRes =
        [match (privDequeueControlEvent m).1 with
          | none => .dequeued (-1) none
          | some event => .dequeued 0 (some (enc event))] := by
  obtain ⟨hnext, hres, -⟩ := h.run he (by decide) .dequeue
  unfold privDequeueControlEvent
  cases hq : m.d.evbuf with
  | nil =>
    rw [hq] at hnext hres
    simp only [hq]
    exact ⟨hnext, hres⟩
  | cons event rest =>
    rw [hq] at hnext hres
    exact ⟨hnext, hres⟩

end

end CmtSpeech
