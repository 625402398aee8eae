/-
# Frames

A stream of bytes is cut into frames: four bytes with the length of the payload, most significant
first, and the payload.  A payload longer than 16 MiB is neither written nor read.

Key definitions: `Frame.header`, `Frame.put`, `Frame.read` and `Frame.readAll`.
-/
import AssetSearch.Failure

namespace AssetSearch.Wire.Frame

/-- The longest payload. -/
def maxLength : Nat :=
  16 * 1024 * 1024

/-- The length as four bytes, most significant first. -/
def header (n : Nat) : List UInt8 :=
  [UInt8.ofNat (n >>> 24), UInt8.ofNat (n >>> 16), UInt8.ofNat (n >>> 8), UInt8.ofNat n]

/-- The number that four bytes stand for. -/
def lengthOf (a b c d : UInt8) : Nat :=
  a.toNat <<< 24 + b.toNat <<< 16 + c.toNat <<< 8 + d.toNat

/-- The failure of a payload that is too long. -/
def tooLong (n : Nat) : Failure :=
  .invalidField "ipc_frame" s!"frame of {n} bytes exceeds the {maxLength} byte limit"

/-- A payload must not be too long. -/
def checkLength (n : Nat) : Outcome Unit :=
  if maxLength < n then .error (tooLong n) else .ok ()

/-! ## Writing -/

/-- Puts a payload on a stream: the bytes that go out, and what comes of it.  The length is checked
before the first byte. -/
def put (payload : List UInt8) : List UInt8 × Outcome Unit :=
  match checkLength payload.length with
  | .error e => ([], .error e)
  | .ok () => (header payload.length ++ payload, .ok ())

/-- The frame of a payload, if it can be put on a stream. -/
def write (payload : List UInt8) : Outcome (List UInt8) :=
  let (bytes, outcome) := put payload
  outcome.map fun _ => bytes

/-! ## Reading -/

/-- What the start of a stream holds. -/
inductive Start where
  /-- A frame, and the rest of the stream. -/
  | frame (payload rest : List UInt8)
  /-- The end of the stream, before another length is complete. -/
  | done
  /-- A length that is too long, and the rest behind it. -/
  | oversized (length : Nat) (rest : List UInt8)
  /-- The end of the stream inside a payload. -/
  | cut
  deriving DecidableEq

/-- Whether a list has at least `n` items. -/
def hasLength {α : Type} : Nat → List α → Bool
  | 0, _ => true
  | _ + 1, [] => false
  | n + 1, _ :: rest => hasLength n rest

/-- Reads one frame from the start of a stream. -/
def read : List UInt8 → Start
  | a :: b :: c :: d :: rest =>
    let n := lengthOf a b c d
    if maxLength < n then .oversized n rest
    else if hasLength n rest then .frame (rest.take n) (rest.drop n)
    else .cut
  | _ => .done

theorem hasLength_iff {α : Type} (n : Nat) (s : List α) : hasLength n s = true ↔ n ≤ s.length := by
  induction s generalizing n with
  | nil => cases n <;> simp [hasLength]
  | cons a s ih => cases n <;> simp [hasLength, ih]

theorem length_lt_of_read {s payload rest : List UInt8} (h : read s = .frame payload rest) :
    rest.length < s.length := by
  unfold read at h
  split at h
  · rename_i a b c d tail
    dsimp only at h
    split at h
    · cases h
    · split at h
      · cases h
        simp only [List.length_drop, List.length_cons]
        omega
      · cases h
  · cases h

/-- How the reading of a stream ends. -/
inductive Ending where
  /-- Between two frames. -/
  | clean
  | oversized (length : Nat)
  /-- Inside a payload. -/
  | cut
  deriving DecidableEq

/-- All frames of a stream, how the reading ends, and what is left unread. -/
def readAll (s : List UInt8) : List (List UInt8) × Ending × List UInt8 :=
  match _h : read s with
  | .frame payload rest =>
    let (frames, ending, unread) := readAll rest
    (payload :: frames, ending, unread)
  | .done => ([], .clean, [])
  | .oversized n rest => ([], .oversized n, rest)
  | .cut => ([], .cut, [])
termination_by s.length
decreasing_by exact length_lt_of_read _h

end AssetSearch.Wire.Frame
