import CmtSpeech.EventRing
import CmtSpeech.Lib.Lts

/-!
# The space of a ring buffer

Both indices of a ring lie in the buffer, and one octet of it stays open: what can be read
and what can be written add up to all octets but one.  Where the buffer ends, a transfer is
made in two segments.  In a buffer of less than 2 ^ 30 octets no sum leaves the range of an
`int`, so the calls compute what they say.

* `RingBuffer.InBuffer` — the indices lie in the buffer.
* `RingMove` — a move of one of the indices, and the amount it changes what can be read by.
* `ringMoves` — the ring under moves.

## Main results

* `ringSpace_laws`
-/

namespace CmtSpeech

namespace RingBuffer

/-- The indices lie in the buffer, which is small enough for every sum of two of its offsets.
Within these bounds `int` does not overflow, and the sums of the source are what they seem. -/
structure InBuffer (ring : RingBuffer) : Prop where
  one_le_size : 1 ≤ ring.size
  size_lt : ring.size < 2 ^ 30
  readIdx_nonneg : 0 ≤ ring.readIdx
  readIdx_lt : ring.readIdx < ring.size
  writeIdx_nonneg : 0 ≤ ring.writeIdx
  writeIdx_lt : ring.writeIdx < ring.size

/-- A remainder of `%` where one turn at most has to be taken off. -/
theorem tmod_of_lt_two_mul {a s : ℤ} (h₀ : 0 ≤ a) (h : a < 2 * s) :
    a.tmod s = if a < s then a else a - s := by
  rw [Int.tmod_eq_emod_of_nonneg h₀]
  split
  · next hlt => exact Int.emod_eq_of_lt h₀ hlt
  · next hge =>
    have hback : (a - s + s) % s = (a - s) % s := Int.add_emod_right (a - s) s
    rw [Int.sub_add_cancel] at hback
    rw [hback]
    exact Int.emod_eq_of_lt (by omega) (by omega)

namespace InBuffer

variable {ring : RingBuffer} (h : ring.InBuffer)

include h

/-- What can be read lies from the read index up to the write index. -/
theorem availForRead_eq :
    ring.availForRead = if ring.readIdx ≤ ring.writeIdx then ring.writeIdx - ring.readIdx
      else ring.writeIdx - ring.readIdx + ring.size := by
  obtain ⟨hsize, hint, hr, hr', hw, hw'⟩ := h
  rw [availForRead, asInt_eq (by omega) (by omega), tmod_of_lt_two_mul (by omega) (by omega)]
  split <;> split <;> omega

/-- What can be written lies from the write index up to the octet before the read index. -/
theorem availForWrite_eq :
    ring.availForWrite = if ring.readIdx ≤ ring.writeIdx
      then ring.readIdx - ring.writeIdx - 1 + ring.size
      else ring.readIdx - ring.writeIdx - 1 := by
  obtain ⟨hsize, hint, hr, hr', hw, hw'⟩ := h
  rw [availForWrite, asInt_eq (x := ring.size - 1) (by omega) (by omega)]
  by_cases heq : ring.readIdx = ring.writeIdx
  · rw [if_pos heq, if_pos heq.le]
    omega
  · rw [if_neg heq, asInt_eq (by omega) (by omega), tmod_of_lt_two_mul (by omega) (by omega)]
    split <;> split <;> omega

/-- The segment to read next ends at the write index or at the end of the buffer. -/
theorem cavailForRead_eq :
    ring.cavailForRead = if ring.readIdx ≤ ring.writeIdx then ring.writeIdx - ring.readIdx
      else ring.size - ring.readIdx := by
  obtain ⟨hsize, hint, hr, hr', hw, hw'⟩ := h
  rw [cavailForRead, asInt_eq (by omega) (by omega), asInt_eq (by omega) (by omega)]

/-- The segment to write next ends at the read index, at the end of the buffer or, when that
is where the open octet is, before it. -/
theorem cavailForWrite_eq :
    ring.cavailForWrite = if ring.writeIdx < ring.readIdx
      then ring.readIdx - ring.writeIdx - 1
      else if ring.readIdx = 0 then ring.size - ring.writeIdx - 1
      else ring.size - ring.writeIdx := by
  have havail := h.availForWrite_eq
  obtain ⟨hsize, hint, hr, hr', hw, hw'⟩ := h
  rw [cavailForWrite, asInt_eq (x := _ - _ - 1) (by omega) (by omega),
    asInt_eq (x := _ - _) (by omega) (by omega)]
  by_cases hlt : ring.writeIdx < ring.readIdx
  · rw [if_pos hlt, if_pos hlt, havail, if_neg (by omega)]
  · rw [if_neg hlt, if_neg hlt]

theorem availForRead_le : ring.availForRead ≤ ring.size := by
  have hr := h.readIdx_nonneg
  have hw := h.writeIdx_lt
  rw [h.availForRead_eq]
  split <;> omega

theorem availForWrite_le : ring.availForWrite ≤ ring.size := by
  have hr := h.readIdx_lt
  have hw := h.writeIdx_nonneg
  rw [h.availForWrite_eq]
  split <;> omega

/-- One octet stays open, so that a full ring can be told from an empty one. -/
theorem availForRead_add_availForWrite :
    ring.availForRead + ring.availForWrite = ring.size - 1 := by
  rw [h.availForRead_eq, h.availForWrite_eq]
  split <;> omega

/-! ### Segments -/

theorem cavailForRead_nonneg : 0 ≤ ring.cavailForRead := by
  have hr := h.readIdx_lt
  rw [h.cavailForRead_eq]
  split <;> omega

theorem cavailForRead_le : ring.cavailForRead ≤ ring.availForRead := by
  have hw := h.writeIdx_nonneg
  rw [h.cavailForRead_eq, h.availForRead_eq]
  split <;> omega

/-- The segment to read next lies in the buffer, and ends at the end of it at the latest. -/
theorem readIdx_add_cavailForRead_le : ring.readIdx + ring.cavailForRead ≤ ring.size := by
  have hw := h.writeIdx_lt
  rw [h.cavailForRead_eq]
  split <;> omega

theorem cavailForRead_pos (hpos : 0 < ring.availForRead) : 0 < ring.cavailForRead := by
  have hr := h.readIdx_lt
  rw [h.availForRead_eq] at hpos
  rw [h.cavailForRead_eq]
  split at hpos <;> split <;> omega

theorem cavailForWrite_nonneg : 0 ≤ ring.cavailForWrite := by
  have hw := h.writeIdx_lt
  rw [h.cavailForWrite_eq]
  split_ifs <;> omega

theorem cavailForWrite_le : ring.cavailForWrite ≤ ring.availForWrite := by
  have hr := h.readIdx_nonneg
  rw [h.cavailForWrite_eq, h.availForWrite_eq]
  split_ifs <;> omega

/-- The segment to write next lies in the buffer, and ends at the end of it at the latest. -/
theorem writeIdx_add_cavailForWrite_le : ring.writeIdx + ring.cavailForWrite ≤ ring.size := by
  have hr := h.readIdx_lt
  rw [h.cavailForWrite_eq]
  split_ifs <;> omega

theorem cavailForWrite_pos (hpos : 0 < ring.availForWrite) : 0 < ring.cavailForWrite := by
  have hw := h.writeIdx_lt
  rw [h.availForWrite_eq] at hpos
  rw [h.cavailForWrite_eq]
  split_ifs at hpos ⊢ <;> omega

/-! ### Moves -/

theorem moveRead {n : ℤ} (h₀ : 0 ≤ n) (hn : n ≤ ring.size) : (ring.moveRead n).InBuffer := by
  obtain ⟨hsize, hint, hr, hr', hw, hw'⟩ := h
  have hsum : asInt (ring.readIdx + n) = ring.readIdx + n := asInt_eq (by omega) (by omega)
  refine ⟨hsize, hint, Int.tmod_nonneg _ ?_, Int.tmod_lt_of_pos _ (by omega), hw, hw'⟩
  rw [hsum]
  omega

theorem moveWrite {n : ℤ} (h₀ : 0 ≤ n) (hn : n ≤ ring.size) : (ring.moveWrite n).InBuffer := by
  obtain ⟨hsize, hint, hr, hr', hw, hw'⟩ := h
  have hsum : asInt (ring.writeIdx + n) = ring.writeIdx + n := asInt_eq (by omega) (by omega)
  refine ⟨hsize, hint, hr, hr', Int.tmod_nonneg _ ?_, Int.tmod_lt_of_pos _ (by omega)⟩
  rw [hsum]
  omega

theorem readIdx_moveRead {n : ℤ} (h₀ : 0 ≤ n) (hn : n ≤ ring.size) :
    (ring.moveRead n).readIdx = if ring.readIdx + n < ring.size then ring.readIdx + n
      else ring.readIdx + n - ring.size := by
  obtain ⟨hsize, hint, hr, hr', hw, hw'⟩ := h
  have hsum : asInt (ring.readIdx + n) = ring.readIdx + n := asInt_eq (by omega) (by omega)
  rw [RingBuffer.moveRead, hsum]
  exact tmod_of_lt_two_mul (by omega) (by omega)

theorem writeIdx_moveWrite {n : ℤ} (h₀ : 0 ≤ n) (hn : n ≤ ring.size) :
    (ring.moveWrite n).writeIdx = if ring.writeIdx + n < ring.size then ring.writeIdx + n
      else ring.writeIdx + n - ring.size := by
  obtain ⟨hsize, hint, hr, hr', hw, hw'⟩ := h
  have hsum : asInt (ring.writeIdx + n) = ring.writeIdx + n := asInt_eq (by omega) (by omega)
  rw [RingBuffer.moveWrite, hsum]
  exact tmod_of_lt_two_mul (by omega) (by omega)

/-- Reading takes what it reads from what can be read. -/
theorem availForRead_moveRead {n : ℤ} (h₀ : 0 ≤ n) (hn : n ≤ ring.availForRead) :
    (ring.moveRead n).availForRead = ring.availForRead - n := by
  have hsize := hn.trans h.availForRead_le
  rw [(h.moveRead h₀ hsize).availForRead_eq, h.readIdx_moveRead h₀ hsize]
  rw [h.availForRead_eq] at hn ⊢
  obtain ⟨-, -, hr, hr', hw, hw'⟩ := h
  show (if _ ≤ ring.writeIdx then ring.writeIdx - _ else ring.writeIdx - _ + ring.size) = _
  split_ifs at hn ⊢ <;> omega

/-- Writing adds what it writes to what can be read, also when the index wraps. -/
theorem availForRead_moveWrite {n : ℤ} (h₀ : 0 ≤ n) (hn : n ≤ ring.availForWrite) :
    (ring.moveWrite n).availForRead = ring.availForRead + n := by
  have hsize := hn.trans h.availForWrite_le
  rw [(h.moveWrite h₀ hsize).availForRead_eq, h.writeIdx_moveWrite h₀ hsize]
  rw [h.availForWrite_eq] at hn
  rw [h.availForRead_eq]
  obtain ⟨-, -, hr, hr', hw, hw'⟩ := h
  show (if ring.readIdx ≤ _ then _ - ring.readIdx else _ - ring.readIdx + ring.size) = _
  split_ifs at hn ⊢ <;> omega

/-- After the first segment, the second one is all that is left to read. -/
theorem cavailForRead_moveRead :
    (ring.moveRead ring.cavailForRead).cavailForRead =
      ring.availForRead - ring.cavailForRead := by
  have hle := h.cavailForRead_le
  have h₀ := h.cavailForRead_nonneg
  have hr := h.readIdx_nonneg
  have hseg := h.readIdx_add_cavailForRead_le
  have hmove := h.availForRead_moveRead h₀ hle
  have hend : (ring.moveRead ring.cavailForRead).readIdx ≤ ring.writeIdx := by
    rw [h.readIdx_moveRead h₀ (by omega), h.cavailForRead_eq]
    have hw := h.writeIdx_nonneg
    have hw' := h.writeIdx_lt
    split_ifs <;> omega
  have hin := h.moveRead h₀ (hle.trans h.availForRead_le)
  rw [← hmove, hin.cavailForRead_eq, hin.availForRead_eq]
  exact (if_pos hend).trans (if_pos hend).symm

/-- After the first segment, the second one is all that is left to write. -/
theorem cavailForWrite_moveWrite :
    (ring.moveWrite ring.cavailForWrite).cavailForWrite =
      ring.availForWrite - ring.cavailForWrite := by
  have h₀ := h.cavailForWrite_nonneg
  have hidx := h.writeIdx_nonneg
  have hseg := h.writeIdx_add_cavailForWrite_le
  rw [(h.moveWrite h₀ (by omega)).cavailForWrite_eq, h.writeIdx_moveWrite h₀ (by omega),
    h.availForWrite_eq]
  show (if _ < ring.readIdx then ring.readIdx - _ - 1
    else if ring.readIdx = 0 then ring.size - _ - 1 else ring.size - _) = _
  rw [h.cavailForWrite_eq]
  obtain ⟨hsize, -, hr, hr', hw, hw'⟩ := h
  split_ifs <;> omega

end InBuffer

end RingBuffer

/-! ### Runs -/

/-- A move of one of the indices, by any distance the caller gives. -/
inductive RingMove where
  | read (n : ℤ)
  | write (n : ℤ)

namespace RingMove

/-- What is read, or the room to write, is there. -/
def Fits (ring : RingBuffer) : RingMove → Prop
  | .read n => 0 ≤ n ∧ n ≤ ring.availForRead
  | .write n => 0 ≤ n ∧ n ≤ ring.availForWrite

/-- How much more can be read after the move: what was written, or less what was read. -/
def gain : RingMove → ℤ
  | .read n => -n
  | .write n => n

end RingMove

/-- The ring under moves of its indices, whatever is copied in between. -/
def ringMoves : Lts RingBuffer RingMove Empty where
  init ring := ring.InBuffer
  next ring
    | .read n => (ring.moveRead n, [])
    | .write n => (ring.moveWrite n, [])

namespace RingBuffer.InBuffer

variable {ring : RingBuffer}

/-- One move within the space there is keeps the indices in the buffer, and changes what can be
read by just its length. -/
theorem move (h : ring.InBuffer) {move : RingMove} (hfits : move.Fits ring) :
    (ringMoves.next ring move).1.InBuffer ∧
      (ringMoves.next ring move).1.size = ring.size ∧
      (ringMoves.next ring move).1.availForRead = ring.availForRead + move.gain := by
  cases move with
  | read n =>
    have hsize := hfits.2.trans h.availForRead_le
    exact ⟨h.moveRead hfits.1 hsize, rfl, h.availForRead_moveRead hfits.1 hfits.2⟩
  | write n =>
    have hsize := hfits.2.trans h.availForWrite_le
    exact ⟨h.moveWrite hfits.1 hsize, rfl, h.availForRead_moveWrite hfits.1 hfits.2⟩

/-- Any number of moves, each within the space there is then. -/
theorem moves (h : ring.InBuffer) {moves : List RingMove}
    (hfits : ringMoves.Along (fun ring move => move.Fits ring) ring moves) :
    (ringMoves.exec ring moves).InBuffer ∧ (ringMoves.exec ring moves).size = ring.size ∧
      ringMoves.Along (fun ring move => (ringMoves.next ring move).1.availForRead =
        ring.availForRead + move.gain) ring moves ∧
      (ringMoves.exec ring moves).availForRead =
        ring.availForRead + (moves.map RingMove.gain).sum := by
  induction moves generalizing ring with
  | nil => exact ⟨h, rfl, trivial, by simp⟩
  | cons move moves ih =>
    obtain ⟨hin, hsize, hgain⟩ := h.move hfits.1
    obtain ⟨hin', hsize', halong, havail⟩ := ih hin hfits.2
    refine ⟨hin', hsize'.trans hsize, ⟨hgain, halong⟩, ?_⟩
    rw [Lts.exec_cons, havail, hgain, List.map_cons, List.sum_cons]
    omega

end RingBuffer.InBuffer

/-- **Space laws**: one octet stays open; each segment is contiguous, and not empty unless
nothing can be read or written; the second segment is what the first one leaves; and moves
within the space there is keep the indices in the buffer and account for what can be read. -/
theorem ringSpace_laws {ring : RingBuffer} (h : ring.InBuffer) :
    ring.availForRead + ring.availForWrite = ring.size - 1 ∧
      (0 ≤ ring.cavailForRead ∧ ring.cavailForRead ≤ ring.availForRead ∧
        ring.readIdx + ring.cavailForRead ≤ ring.size ∧
        (0 < ring.availForRead → 0 < ring.cavailForRead)) ∧
      (0 ≤ ring.cavailForWrite ∧ ring.cavailForWrite ≤ ring.availForWrite ∧
        ring.writeIdx + ring.cavailForWrite ≤ ring.size ∧
        (0 < ring.availForWrite → 0 < ring.cavailForWrite)) ∧
      (ring.moveRead ring.cavailForRead).cavailForRead =
        ring.availForRead - ring.cavailForRead ∧
      (ring.moveWrite ring.cavailForWrite).cavailForWrite =
        ring.availForWrite - ring.cavailForWrite ∧
      ∀ moves, ringMoves.Along (fun ring move => move.Fits ring) ring moves →
        (ringMoves.exec ring moves).InBuffer ∧ (ringMoves.exec ring moves).size = ring.size ∧
          ringMoves.Along (fun ring move => (ringMoves.next ring move).1.availForRead =
            ring.availForRead + move.gain) ring moves ∧
          (ringMoves.exec ring moves).availForRead =
            ring.availForRead + (moves.map RingMove.gain).sum := by
  -- Each law is a lemma of its own; the moves are an induction over them.
  refine ⟨h.availForRead_add_availForWrite, ⟨h.cavailForRead_nonneg, h.cavailForRead_le,
    h.readIdx_add_cavailForRead_le, h.cavailForRead_pos⟩, ⟨h.cavailForWrite_nonneg,
    h.cavailForWrite_le, h.writeIdx_add_cavailForWrite_le, h.cavailForWrite_pos⟩,
    h.cavailForRead_moveRead, h.cavailForWrite_moveWrite, ?_⟩
  intro moves hfits
  exact h.moves hfits

/-- A ring of 16 octets, three of which, the last one and the first two, can be read. -/
def wrappedRing : RingBuffer := ⟨15, 2, 16, fun _ => 0⟩

theorem inBuffer_wrappedRing : wrappedRing.InBuffer := by
  constructor <;> decide

theorem ringSpace_laws_wrappedRing :
    wrappedRing.availForRead + wrappedRing.availForWrite = wrappedRing.size - 1 ∧
      (0 ≤ wrappedRing.cavailForRead ∧ wrappedRing.cavailForRead ≤ wrappedRing.availForRead ∧
        wrappedRing.readIdx + wrappedRing.cavailForRead ≤ wrappedRing.size ∧
        (0 < wrappedRing.availForRead → 0 < wrappedRing.cavailForRead)) ∧
      (0 ≤ wrappedRing.cavailForWrite ∧
        wrappedRing.cavailForWrite ≤ wrappedRing.availForWrite ∧
        wrappedRing.writeIdx + wrappedRing.cavailForWrite ≤ wrappedRing.size ∧
        (0 < wrappedRing.availForWrite → 0 < wrappedRing.cavailForWrite)) ∧
      (wrappedRing.moveRead wrappedRing.cavailForRead).cavailForRead =
        wrappedRing.availForRead - wrappedRing.cavailForRead ∧
      (wrappedRing.moveWrite wrappedRing.cavailForWrite).cavailForWrite =
        wrappedRing.availForWrite - wrappedRing.cavailForWrite ∧
      ∀ moves, ringMoves.Along (fun ring move => move.Fits ring) wrappedRing moves →
        (ringMoves.exec wrappedRing moves).InBuffer ∧
          (ringMoves.exec wrappedRing moves).size = wrappedRing.size ∧
          ringMoves.Along (fun ring move => (ringMoves.next ring move).1.availForRead =
            ring.availForRead + move.gain) wrappedRing moves ∧
          (ringMoves.exec wrappedRing moves).availForRead =
            wrappedRing.availForRead + (moves.map RingMove.gain).sum :=
  ringSpace_laws inBuffer_wrappedRing

end CmtSpeech
