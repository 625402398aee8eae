/-
# The messages in a stream

The messages that a connection reads in a stream of bytes, and what ends the reading.  Nothing
behind a frame that cannot be read matters any more.

Key definitions: `scan`, `Reads`, `BadStart`.  Key statements:
`Frame.read_header_append`, `reads_of_scan`, `scan_append_of_stop`, `Link.drain_eq`.
-/
import Mathlib.Tactic.Common
import AssetSearch.Wire.Link

namespace AssetSearch.Wire

/-! ## Frames in front of other bytes -/

namespace Frame

/-- The four bytes of a length stand for it. -/
theorem lengthOf_header {n : Nat} (h : n ≤ maxLength) :
    lengthOf (UInt8.ofNat (n >>> 24)) (UInt8.ofNat (n >>> 16)) (UInt8.ofNat (n >>> 8))
      (UInt8.ofNat n) = n := by
  simp only [lengthOf, UInt8.toNat_ofNat', Nat.shiftLeft_eq, Nat.shiftRight_eq_div_pow]
  unfold maxLength at h
  omega

/-- Four bytes are a length, and the rest is measured by it. -/
theorem read_cons (a b c d : UInt8) (rest : List UInt8) :
    read (a :: b :: c :: d :: rest) =
      if maxLength < lengthOf a b c d then .oversized (lengthOf a b c d) rest
      else if hasLength (lengthOf a b c d) rest then
        .frame (rest.take (lengthOf a b c d)) (rest.drop (lengthOf a b c d))
      else .cut := rfl

/-- A payload behind its length is read, whatever follows. -/
theorem read_header_append {payload : List UInt8} (h : payload.length ≤ maxLength)
    (rest : List UInt8) :
    read (header payload.length ++ payload ++ rest) = .frame payload rest := by
  have hhas : hasLength payload.length (payload ++ rest) = true := by
    rw [hasLength_iff, List.length_append]
    omega
  show read (_ :: _ :: _ :: _ :: (payload ++ rest)) = _
  rw [read_cons, lengthOf_header h, if_neg (Nat.not_lt.2 h), if_pos hhas, List.take_left,
    List.drop_left]

/-- A frame is read, whatever follows. -/
theorem read_append_of_frame {bytes payload rest : List UInt8}
    (h : read bytes = .frame payload rest) (more : List UInt8) :
    read (bytes ++ more) = .frame payload (rest ++ more) := by
  unfold read at h
  split at h
  · next a b c d tail =>
    dsimp only at h
    split at h
    · cases h
    · next hshort =>
      split at h
      · next hhas =>
        obtain ⟨rfl, rfl⟩ := Start.frame.inj h
        rw [hasLength_iff] at hhas
        have hmore : hasLength (lengthOf a b c d) (tail ++ more) = true := by
          rw [hasLength_iff, List.length_append]
          omega
        simp [read, hshort, hmore, List.take_append_of_le_length hhas,
          List.drop_append_of_le_length hhas]
      · cases h
  · cases h

/-- A length that is too long is seen, whatever follows. -/
theorem read_append_of_oversized {bytes rest : List UInt8} {n : Nat}
    (h : read bytes = .oversized n rest) (more : List UInt8) :
    read (bytes ++ more) = .oversized n (rest ++ more) := by
  unfold read at h
  split at h
  · next a b c d tail =>
    dsimp only at h
    split at h
    · next hlong =>
      obtain ⟨rfl, rfl⟩ := Start.oversized.inj h
      simp [read, hlong]
    · split at h <;> cases h
  · cases h

end Frame

/-! ## The messages in a stream -/

/-- The messages at the start of some bytes, and the bytes of the incomplete frame behind them;
nothing is left when a frame is too long or cannot be understood. -/
def scan (bytes : List UInt8) : List Incoming × Option (List UInt8) :=
  match _h : Frame.read bytes with
  | .frame payload rest =>
    match Incoming.ofBytes payload with
    | .error _ => ([], none)
    | .ok m =>
      let (ms, left) := scan rest
      (m :: ms, left)
  | .oversized _ _ => ([], none)
  | .done => ([], some bytes)
  | .cut => ([], some bytes)
termination_by bytes.length
decreasing_by exact Frame.length_lt_of_read _h

/-- What can end the reading at the start of some bytes: a length that is too long, or a whole frame
that cannot be understood. -/
def BadStart (bytes : List UInt8) : Prop :=
  (∃ n rest, Frame.read bytes = .oversized n rest) ∨
    ∃ payload rest e, Frame.read bytes = .frame payload rest ∧ Incoming.ofBytes payload = .error e

theorem scan_of_frame {bytes payload rest : List UInt8} {m : Incoming}
    (h : Frame.read bytes = .frame payload rest) (hm : Incoming.ofBytes payload = .ok m) :
    scan bytes = (m :: (scan rest).1, (scan rest).2) := by
  rw [scan]
  split <;> simp_all

theorem scan_of_badStart {bytes : List UInt8} (h : BadStart bytes) : scan bytes = ([], none) := by
  rw [scan]
  rcases h with ⟨n, rest, h⟩ | ⟨payload, rest, e, h, he⟩
  · split <;> simp_all
  · split <;> simp_all

theorem scan_of_done {bytes : List UInt8} (h : Frame.read bytes = .done) :
    scan bytes = ([], some bytes) := by
  rw [scan]
  split <;> simp_all

theorem scan_of_cut {bytes : List UInt8} (h : Frame.read bytes = .cut) :
    scan bytes = ([], some bytes) := by
  rw [scan]
  split <;> simp_all

/-- Bytes hold some messages, with other bytes behind them. -/
inductive Reads : List UInt8 → List Incoming → List UInt8 → Prop where
  | nil (bytes : List UInt8) : Reads bytes [] bytes
  | cons {bytes payload rest left : List UInt8} {m : Incoming} {ms : List Incoming}
      (frame : Frame.read bytes = .frame payload rest) (message : Incoming.ofBytes payload = .ok m)
      (more : Reads rest ms left) : Reads bytes (m :: ms) left

/-- What can end the reading ends it, whatever follows. -/
theorem BadStart.append {bytes : List UInt8} (h : BadStart bytes) (more : List UInt8) :
    BadStart (bytes ++ more) := by
  rcases h with ⟨n, rest, h⟩ | ⟨payload, rest, e, h, he⟩
  · exact .inl ⟨n, rest ++ more, Frame.read_append_of_oversized h more⟩
  · exact .inr ⟨payload, rest ++ more, e, Frame.read_append_of_frame h more, he⟩

/-- Messages are read, whatever follows. -/
theorem Reads.append {bytes left : List UInt8} {ms : List Incoming} (h : Reads bytes ms left)
    (more : List UInt8) : Reads (bytes ++ more) ms (left ++ more) := by
  induction h with
  | nil bytes => exact .nil _
  | cons hframe hm _ ih => exact .cons (Frame.read_append_of_frame hframe more) hm ih

/-- Scanning goes through the messages at the start. -/
theorem Reads.scan_eq {bytes left : List UInt8} {ms : List Incoming} (h : Reads bytes ms left) :
    scan bytes = (ms ++ (scan left).1, (scan left).2) := by
  induction h with
  | nil bytes => rfl
  | cons hframe hm _ ih => rw [scan_of_frame hframe hm, ih, List.cons_append]

/-- **What scanning finds**: messages, and then either an incomplete frame or what ends the
reading. -/
theorem reads_of_scan (bytes : List UInt8) :
    ∃ left, Reads bytes (scan bytes).1 left ∧
      ((scan bytes).2 = none ∧ BadStart left ∨
        (scan bytes).2 = some left ∧ (Frame.read left = .done ∨ Frame.read left = .cut)) := by
  fun_induction scan bytes with
  | case1 bytes payload rest hread e hbad =>
    exact ⟨bytes, .nil bytes, .inl ⟨rfl, .inr ⟨payload, rest, e, hread, hbad⟩⟩⟩
  | case2 bytes payload rest hread m hm ms left hscan ih =>
    -- only a frame that is understood leads on; every other start is an end
    rw [hscan] at ih
    obtain ⟨behind, hreads, hend⟩ := ih
    exact ⟨behind, .cons hread hm hreads, hend⟩
  | case3 bytes n rest hread => exact ⟨bytes, .nil bytes, .inl ⟨rfl, .inl ⟨n, rest, hread⟩⟩⟩
  | case4 bytes hread => exact ⟨bytes, .nil bytes, .inr ⟨rfl, .inl hread⟩⟩
  | case5 bytes hread => exact ⟨bytes, .nil bytes, .inr ⟨rfl, .inr hread⟩⟩

/-- Nothing is found behind what ends the reading. -/
theorem Reads.scan_of_badStart {bytes left : List UInt8} {ms : List Incoming}
    (h : Reads bytes ms left) (hbad : BadStart left) : scan bytes = (ms, none) := by
  rw [h.scan_eq, Wire.scan_of_badStart hbad, List.append_nil]

/-- Bytes behind what ends the reading do not matter. -/
theorem scan_append_of_stop {bytes : List UInt8} {ms : List Incoming}
    (h : scan bytes = (ms, none)) (more : List UInt8) : scan (bytes ++ more) = (ms, none) := by
  obtain ⟨left, hreads, hend⟩ := reads_of_scan bytes
  rw [h] at hreads hend
  rcases hend with ⟨-, hbad⟩ | ⟨hend, -⟩
  · exact (hreads.append more).scan_of_badStart (hbad.append more)
  · cases hend

namespace Link

/-- Several messages, one after the other. -/
def handleAll (l : Link) : List Incoming → Link × List Effect
  | [] => (l, [])
  | m :: ms =>
    let (l', effects) := l.handle m
    let (l'', more) := l'.handleAll ms
    (l'', effects ++ more)

/-- The end of some bytes: what is incomplete is kept, and a frame that cannot be read ends the
reading. -/
def settle (l : Link) : Option (List UInt8) → Link
  | some bytes => { l with buffer := bytes }
  | none => l.shut

/-- Reading bytes is handling the messages in them, and then keeping what is left. -/
theorem drain_eq (l : Link) (bytes : List UInt8) :
    l.drain bytes =
      ((l.handleAll (scan bytes).1).1.settle (scan bytes).2, (l.handleAll (scan bytes).1).2) := by
  fun_induction drain l bytes with
  | case1 l bytes payload rest hread e hbad =>
    rw [scan_of_badStart (.inr ⟨payload, rest, e, hread, hbad⟩)]
    rfl
  | case2 l bytes payload rest hread m hm l' effects hhandle l'' more hmore ih =>
    rw [scan_of_frame hread hm]
    simp_all [handleAll]
  | case3 l bytes n rest hread =>
    rw [scan_of_badStart (.inl ⟨n, rest, hread⟩)]
    rfl
  | case4 l bytes hread =>
    rw [scan_of_done hread]
    rfl
  | case5 l bytes hread =>
    rw [scan_of_cut hread]
    rfl

end Link

end AssetSearch.Wire
