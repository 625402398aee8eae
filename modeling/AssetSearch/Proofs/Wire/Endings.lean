/-
# How the reading of a stream ends

Any bytes at all are frames and a rest that starts with none.  Reading goes through the frames,
which are just what would have been written for their payloads, and the rest alone decides how it
ends and what it leaves unread.

Key definitions: `Frame.bigEndian`, `Frame.Ending.failure?`, `Frame.EndsAt`.  Key statements:
`written_of_read`, `endsAt_of_read`, `read_any_stream`.
-/
import AssetSearch.Proofs.Wire.Framing

namespace AssetSearch.Wire.Frame

/-! ## Lengths -/

/-- The number that bytes stand for, most significant first. -/
def bigEndian (bytes : List UInt8) : Nat :=
  bytes.foldl (fun n byte => 256 * n + byte.toNat) 0

theorem lengthOf_eq (a b c d : UInt8) : lengthOf a b c d = bigEndian [a, b, c, d] := by
  simp only [lengthOf, bigEndian, Nat.shiftLeft_eq, List.foldl_cons, List.foldl_nil]
  omega

/-- The length in front of a frame is the only one with its four bytes. -/
theorem header_lengthOf (a b c d : UInt8) : header (lengthOf a b c d) = [a, b, c, d] := by
  have ha := a.toNat_lt
  have hb := b.toNat_lt
  have hc := c.toNat_lt
  have hd := d.toNat_lt
  simp only [header, lengthOf, Nat.shiftLeft_eq, Nat.shiftRight_eq_div_pow, List.cons.injEq,
    ← UInt8.toNat_inj, UInt8.toNat_ofNat', and_true]
  omega

/-- Four bytes and what follows them, or too few bytes for a length. -/
theorem length_lt_or_eq_cons (s : List UInt8) :
    s.length < 4 ∨ ∃ a b c d tail, s = a :: b :: c :: d :: tail := by
  rcases s with _ | ⟨a, _ | ⟨b, _ | ⟨c, _ | ⟨d, tail⟩⟩⟩⟩
  · exact .inl (by simp)
  · exact .inl (by simp)
  · exact .inl (by simp)
  · exact .inl (by simp)
  · exact .inr ⟨a, b, c, d, tail, rfl⟩

theorem read_of_length_lt {s : List UInt8} (h : s.length < 4) : read s = .done := by
  unfold read
  split
  · simp only [List.length_cons] at h
    omega
  · rfl

/-! ## One frame -/

/-- **Reading undoes writing**: a frame that is read is the one that would be written. -/
theorem written_of_read {s payload rest : List UInt8} (h : read s = .frame payload rest) :
    write payload = .ok (header payload.length ++ payload) ∧
      s = header payload.length ++ payload ++ rest := by
  rcases length_lt_or_eq_cons s with hshort | ⟨a, b, c, d, tail, rfl⟩
  · rw [read_of_length_lt hshort] at h
    cases h
  rw [read_cons] at h
  split at h
  · cases h
  next hlimit =>
    split at h
    · next hhas =>
      obtain ⟨rfl, rfl⟩ := Start.frame.inj h
      have hlength : (tail.take (lengthOf a b c d)).length = lengthOf a b c d :=
        List.length_take_of_le ((hasLength_iff _ _).1 hhas)
      rw [hlength, header_lengthOf, List.append_assoc, List.take_append_drop]
      refine ⟨?_, rfl⟩
      have hshort : (tail.take (lengthOf a b c d)).length ≤ maxLength := by
        rw [hlength]
        exact Nat.le_of_not_lt hlimit
      have hwrite := write_of_le hshort
      rwa [hlength, header_lengthOf] at hwrite
    · cases h

/-! ## The end -/

/-- The failure with which the reading ends, unless it ends between two frames; a source of bytes
that runs dry inside a payload says so in its own words. -/
def Ending.failure? (words : String) : Ending → Option Failure
  | clean => none
  | oversized n => some (tooLong n)
  | cut => some (.io words none)

/-- How reading ends that has come to the given rest of a stream: what is reported, and what stays
unread. -/
structure EndsAt (rest : List UInt8) (ending : Ending) (unread : List UInt8) : Prop where
  clean : ∀ words, ending.failure? words = none ↔ rest.length < 4
  oversized : ∀ words, (∃ n, ending.failure? words = some (tooLong n)) ↔
    4 ≤ rest.length ∧ maxLength < bigEndian (rest.take 4)
  cut : ∀ words, ending.failure? words = some (.io words none) ↔
    4 ≤ rest.length ∧ bigEndian (rest.take 4) ≤ maxLength ∧
      (rest.drop 4).length < bigEndian (rest.take 4)
  /-- A length that is too long is reported as it stands there. -/
  length : ∀ n, ending = .oversized n → n = bigEndian (rest.take 4)
  /-- Only behind a length that is too long anything stays unread, and then all of it. -/
  unread : unread
    = if maxLength < bigEndian (rest.take 4) ∧ 4 ≤ rest.length then rest.drop 4 else []

theorem readAll_of_frame {s payload rest : List UInt8} (h : read s = .frame payload rest) :
    readAll s = (payload :: (readAll rest).1, (readAll rest).2) := by
  rw [readAll]
  split <;> simp_all

theorem readAll_of_done {s : List UInt8} (h : read s = .done) : readAll s = ([], .clean, []) := by
  rw [readAll]
  split <;> simp_all

theorem readAll_of_oversized {s rest : List UInt8} {n : Nat} (h : read s = .oversized n rest) :
    readAll s = ([], .oversized n, rest) := by
  rw [readAll]
  split <;> simp_all

theorem readAll_of_cut {s : List UInt8} (h : read s = .cut) : readAll s = ([], .cut, []) := by
  rw [readAll]
  split <;> simp_all

/-- **What starts with no frame ends the reading**, in one of three ways. -/
theorem endsAt_of_read {s : List UInt8} (h : ∀ payload rest, read s ≠ .frame payload rest) :
    (readAll s).1 = [] ∧ EndsAt s (readAll s).2.1 (readAll s).2.2 := by
  rcases length_lt_or_eq_cons s with hshort | ⟨a, b, c, d, tail, rfl⟩
  · rw [readAll_of_done (read_of_length_lt hshort)]
    have hnot : ¬ 4 ≤ s.length := by omega
    exact ⟨rfl, by simp [Ending.failure?, hshort], by simp [Ending.failure?, hnot],
      by simp [Ending.failure?, hnot], by simp, by simp [hnot]⟩
  have hread := read_cons a b c d tail
  rw [lengthOf_eq] at hread
  split at hread
  · next hlimit =>
    rw [readAll_of_oversized hread]
    refine ⟨rfl, ?_, ?_, ?_, ?_, ?_⟩
    · simp [Ending.failure?]
    · simp [Ending.failure?, hlimit]
    · -- the length cannot be too long and within the limit at once
      intro words
      constructor
      · intro hio
        cases hio
      · rintro ⟨-, hle, -⟩
        exact absurd hlimit (Nat.not_lt.2 hle)
    · simp
    · simp [hlimit]
  next hlimit =>
    split at hread
    · exact absurd hread (h _ _)
    · next hhas =>
      have hlacks : tail.length < bigEndian [a, b, c, d] := by
        rw [hasLength_iff] at hhas
        omega
      rw [readAll_of_cut hread]
      refine ⟨rfl, ?_, ?_, ?_, ?_, ?_⟩
      · simp [Ending.failure?]
      · simp [Ending.failure?, tooLong, hlimit]
      · simpa [Ending.failure?, hlacks] using hlimit
      · simp
      · simp [hlimit]

/-! ## The whole stream -/

/-- No call gives a frame any more where none starts. -/
theorem readTimes_of_not_frame {s : List UInt8}
    (h : ∀ payload rest, read s ≠ .frame payload rest) (n : Nat) : readTimes (n + 1) s = none := by
  rw [readTimes]
  split
  · next payload rest hread => exact absurd hread (h payload rest)
  · rfl

/-- **Reading any bytes.**  They are frames as they would have been written for the payloads that
are read, and a rest.  So many calls as there are payloads give them, no further call gives one, and
four bytes or more are used up each time; and the rest decides how the reading ends. -/
theorem read_any_stream (s : List UInt8) :
    ∃ rest,
      s = written (readAll s).1 ++ rest ∧
      (∀ payload ∈ (readAll s).1, write payload = .ok (header payload.length ++ payload)) ∧
      readTimes (readAll s).1.length s = some ((readAll s).1, rest) ∧
      (∀ n, (readAll s).1.length < n → readTimes n s = none) ∧
      4 * (readAll s).1.length ≤ s.length ∧
      EndsAt rest (readAll s).2.1 (readAll s).2.2 := by
  -- the induction goes along the frames; each leaves a shorter stream
  induction hlength : s.length using Nat.strongRecOn generalizing s with
  | _ length ih =>
  subst hlength
  by_cases h : ∃ payload rest, read s = .frame payload rest
  · obtain ⟨payload, tail, hread⟩ := h
    obtain ⟨rest, hs, hwritten, htimes, hmore, hcount, hend⟩ :=
      ih tail.length (length_lt_of_read hread) tail rfl
    obtain ⟨hwrite, hsplit⟩ := written_of_read hread
    have hadd : s.length = 4 + payload.length + tail.length := by
      rw [hsplit, List.length_append, List.length_append]
      rfl
    rw [readAll_of_frame hread]
    refine ⟨rest, ?_, ?_, ?_, ?_, ?_, hend⟩
    · rw [written_cons, put_of_write hwrite, List.append_assoc, ← hs]
      exact hsplit
    · exact List.forall_mem_cons.2 ⟨hwrite, hwritten⟩
    · rw [List.length_cons, readTimes_succ hread, htimes]
      rfl
    · intro n hn
      obtain ⟨n, rfl⟩ := Nat.exists_eq_add_one_of_ne_zero (Nat.ne_zero_of_lt hn)
      rw [readTimes_succ hread, hmore n (Nat.lt_of_succ_lt_succ hn)]
      rfl
    · rw [List.length_cons]
      omega
  · have hno : ∀ payload rest, read s ≠ .frame payload rest := by
      intro payload rest hread
      exact h ⟨payload, rest, hread⟩
    obtain ⟨hnil, hend⟩ := endsAt_of_read hno
    rw [hnil]
    refine ⟨s, rfl, by simp, rfl, ?_, by simp, hend⟩
    intro n hn
    obtain ⟨n, rfl⟩ := Nat.exists_eq_add_one_of_ne_zero (Nat.ne_zero_of_lt hn)
    exact readTimes_of_not_frame hno n

end AssetSearch.Wire.Frame
