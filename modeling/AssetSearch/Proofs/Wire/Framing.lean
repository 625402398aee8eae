/-
# Writing frames and reading them back

Whatever the payloads hold, the frames written for them are read back one by one, and what follows
them on the stream is left alone.  A payload that is too long leaves no trace on the stream.

Key definitions: `Frame.written`, `Frame.readTimes`.  Key statements: `Frame.read_write`,
`Frame.readTimes_written`, `Frame.read_written_frames`.
-/
import AssetSearch.Proofs.Wire.Streams

namespace AssetSearch.Wire.Frame

/-! ## What is written -/

/-- What is put on a stream for some payloads, one after the other. -/
def written (payloads : List (List UInt8)) : List UInt8 :=
  payloads.flatMap fun payload => (put payload).1

theorem put_of_le {payload : List UInt8} (h : payload.length ≤ maxLength) :
    put payload = (header payload.length ++ payload, .ok ()) := by
  rw [put, checkLength, if_neg (Nat.not_lt.2 h)]

theorem put_of_lt {payload : List UInt8} (h : maxLength < payload.length) :
    put payload = ([], .error (tooLong payload.length)) := by
  rw [put, checkLength, if_pos h]

theorem write_of_le {payload : List UInt8} (h : payload.length ≤ maxLength) :
    write payload = .ok (header payload.length ++ payload) := by
  rw [write, put_of_le h]
  rfl

theorem write_of_lt {payload : List UInt8} (h : maxLength < payload.length) :
    write payload = .error (tooLong payload.length) := by
  rw [write, put_of_lt h]
  rfl

theorem written_cons (payload : List UInt8) (payloads : List (List UInt8)) :
    written (payload :: payloads) = (put payload).1 ++ written payloads :=
  List.flatMap_cons

/-- Only a payload that is not too long has a frame. -/
theorem write_eq_ok_iff {payload frame : List UInt8} :
    write payload = .ok frame ↔
      payload.length ≤ maxLength ∧ frame = header payload.length ++ payload := by
  by_cases hlong : maxLength < payload.length
  · simp [write_of_lt hlong, Nat.not_le.2 hlong]
  · simp [write_of_le (Nat.le_of_not_lt hlong), Nat.le_of_not_lt hlong, eq_comm]

/-- The frame of a payload is what is put on the stream. -/
theorem put_of_write {payload frame : List UInt8} (h : write payload = .ok frame) :
    put payload = (frame, .ok ()) := by
  obtain ⟨hshort, rfl⟩ := write_eq_ok_iff.1 h
  exact put_of_le hshort

/-! ## What is read back -/

/-- Reads so many frames: their payloads, and what is left of the stream. -/
def readTimes : Nat → List UInt8 → Option (List (List UInt8) × List UInt8)
  | 0, bytes => some ([], bytes)
  | n + 1, bytes =>
    match read bytes with
    | .frame payload rest =>
      (readTimes n rest).map fun (payloads, left) => (payload :: payloads, left)
    | _ => none

theorem readTimes_succ {bytes payload rest : List UInt8} (h : read bytes = .frame payload rest)
    (n : Nat) :
    readTimes (n + 1) bytes
      = (readTimes n rest).map fun (payloads, left) => (payload :: payloads, left) := by
  rw [readTimes, h]

/-- A frame that was written is read, whatever follows. -/
theorem read_write {payload frame : List UInt8} (h : write payload = .ok frame)
    (rest : List UInt8) : read (frame ++ rest) = .frame payload rest := by
  obtain ⟨hshort, rfl⟩ := write_eq_ok_iff.1 h
  exact read_header_append hshort rest

/-- **The frames of some payloads are read back**, without those that were too long to be written,
and nothing behind them is touched. -/
theorem readTimes_written (payloads : List (List UInt8)) (trailing : List UInt8) :
    readTimes (payloads.filter fun payload => payload.length ≤ maxLength).length
        (written payloads ++ trailing)
      = some (payloads.filter fun payload => payload.length ≤ maxLength, trailing) := by
  induction payloads with
  | nil => rfl
  | cons payload payloads ih =>
    rw [written_cons, List.append_assoc]
    by_cases hshort : payload.length ≤ maxLength
    · have hread := read_header_append hshort (written payloads ++ trailing)
      rw [List.filter_cons_of_pos (by simpa using hshort), put_of_le hshort, List.length_cons,
        readTimes_succ hread, ih]
      rfl
    · -- nothing was written, so the stream is that of the other payloads
      rw [List.filter_cons_of_neg (by simpa using hshort), put_of_lt (Nat.lt_of_not_le hshort)]
      exact ih

/-- The length in front of a frame is accepted, also before the payload has arrived. -/
theorem read_take_of_write {payload frame : List UInt8} (h : write payload = .ok frame)
    (rest : List UInt8) (n : Nat) (left : List UInt8) :
    read (frame.take 4 ++ rest) ≠ .oversized n left := by
  obtain ⟨hshort, rfl⟩ := write_eq_ok_iff.1 h
  show read (_ :: _ :: _ :: _ :: rest) ≠ _
  rw [read_cons, lengthOf_header hshort, if_neg (Nat.not_lt.2 hshort)]
  split <;> simp

/-! ## The result -/

/-- **Frames survive the stream.**  Payloads that are not too long are all written; as many reads
give them back in their order and leave just the bytes behind them.  A payload that is too long is
refused without a byte, so that no length that was ever written is refused by the reader. -/
theorem read_written_frames (payloads : List (List UInt8)) (trailing : List UInt8)
    (hshort : ∀ payload ∈ payloads, payload.length ≤ maxLength) :
    (∀ payload ∈ payloads, write payload = .ok (header payload.length ++ payload) ∧
      put payload = (header payload.length ++ payload, .ok ())) ∧
    readTimes payloads.length (written payloads ++ trailing) = some (payloads, trailing) ∧
    (∀ payload : List UInt8, maxLength < payload.length →
      write payload = .error (tooLong payload.length) ∧
        put payload = ([], .error (tooLong payload.length)) ∧ written [payload] = []) ∧
    ∀ payload frame rest left : List UInt8, ∀ n, write payload = .ok frame →
      read (frame.take 4 ++ rest) ≠ .oversized n left := by
  refine ⟨?_, ?_, ?_, ?_⟩
  · intro payload hmem
    exact ⟨write_of_le (hshort payload hmem), put_of_le (hshort payload hmem)⟩
  · have hall : payloads.filter (fun payload => payload.length ≤ maxLength) = payloads :=
      List.filter_eq_self.2 fun payload hmem => by simpa using hshort payload hmem
    have hread := readTimes_written payloads trailing
    rwa [hall] at hread
  · intro payload hlong
    have hput := put_of_lt hlong
    refine ⟨write_of_lt hlong, hput, ?_⟩
    rw [written_cons, hput]
    rfl
  · intro payload frame rest left n hwrite
    exact read_take_of_write hwrite rest n left

/-- A payload of just the greatest length, and an empty one, in front of bytes that are no frame. -/
theorem read_written_longest :
    (∀ payload ∈ [List.replicate maxLength (0 : UInt8), []], payload.length ≤ maxLength) ∧
    readTimes 2 (written [List.replicate maxLength 0, []] ++ [255, 255, 255, 255])
      = some ([List.replicate maxLength 0, []], [255, 255, 255, 255]) := by
  have hshort : ∀ payload ∈ [List.replicate maxLength (0 : UInt8), []],
      payload.length ≤ maxLength := by
    simp
  have hread := read_written_frames [List.replicate maxLength 0, []] [255, 255, 255, 255] hshort
  exact ⟨hshort, hread.2.1⟩

end AssetSearch.Wire.Frame
