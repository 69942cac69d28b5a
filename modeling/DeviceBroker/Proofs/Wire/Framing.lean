import DeviceBroker.Proofs.Bytes
import DeviceBroker.Wire.Frame

/-!
# Frames on a stream

A body within the limit comes back from its frame, whatever follows it on the
stream, and as long as a byte of the frame is missing nothing is read. What the
front of a stream shows does not change when more bytes come, so a reader that
is fed in pieces completes the same bodies and is left in the same place as one
that is fed at once.
-/

namespace DeviceBroker

namespace Frame

variable {maxBytes : Nat} {body stream rest left : List UInt8}

/-- The frame of a body: its length, and then the body. -/
def ofBody (body : List UInt8) : List UInt8 := Bytes.bigEndian lengthBytes body.length ++ body

theorem length_ofBody (body : List UInt8) : (ofBody body).length = lengthBytes + body.length := by
  rw [ofBody, List.length_append, Bytes.length_bigEndian]

theorem encode_of_le (h : body.length ≤ effectiveMax maxBytes) :
    encode maxBytes body = .ok (ofBody body) := if_pos h

/-- A body that a frame can hold is short. -/
theorem length_lt_of_le (h : body.length ≤ effectiveMax maxBytes) : body.length < 2 ^ 64 := by
  have hmax : effectiveMax maxBytes ≤ 2 ^ 32 - 1 := Nat.min_le_right _ _
  omega

/-- The length of a body within the limit can be read back. -/
theorem ofBigEndian_length (h : body.length ≤ effectiveMax maxBytes) :
    Bytes.ofBigEndian (Bytes.bigEndian lengthBytes body.length) = body.length := by
  rw [Bytes.ofBigEndian_bigEndian]
  have hmax : effectiveMax maxBytes ≤ 256 ^ lengthBytes - 1 := Nat.min_le_right _ _
  have hpos : 0 < 256 ^ lengthBytes := by decide
  exact Nat.mod_eq_of_lt (by omega)

/-! ### The front of a stream -/

theorem front_of_short (h : stream.length < lengthBytes) : front maxBytes stream = .partly :=
  if_pos h

theorem front_nil (maxBytes : Nat) : front maxBytes [] = .partly := front_of_short (by decide)

/-- What the front shows once the length of the first frame is there. -/
theorem front_append {header : List UInt8} {length : Nat} (hheader : header.length = lengthBytes)
    (hlength : Bytes.ofBigEndian header = length) (rest : List UInt8) :
    front maxBytes (header ++ rest) =
      if effectiveMax maxBytes < length then .oversized
      else if rest.length < length then .partly
      else .frame (rest.take length) (rest.drop length) := by
  have hlong : ¬ (header ++ rest).length < lengthBytes := by
    rw [List.length_append]
    omega
  rw [front, if_neg hlong, List.take_left' hheader, List.drop_left' hheader, hlength]

theorem exists_header (h : ¬ stream.length < lengthBytes) :
    ∃ header rest, header.length = lengthBytes ∧ stream = header ++ rest :=
  ⟨_, _, List.length_take_of_le (Nat.le_of_not_lt h), (List.take_append_drop _ stream).symm⟩

theorem front_ofBody_append (h : body.length ≤ effectiveMax maxBytes) (rest : List UInt8) :
    front maxBytes (ofBody body ++ rest) = .frame body rest := by
  rw [ofBody, List.append_assoc, front_append (Bytes.length_bigEndian _ _) (ofBigEndian_length h),
    if_neg (Nat.not_lt.mpr h), if_neg (by simp), List.take_left, List.drop_left]

/-- What is read at the front of a stream is the frame that stands there. -/
theorem eq_append_of_front (h : front maxBytes stream = .frame body rest) :
    stream = ofBody body ++ rest ∧ body.length ≤ effectiveMax maxBytes := by
  by_cases hshort : stream.length < lengthBytes
  · rw [front_of_short hshort] at h
    cases h
  · obtain ⟨header, got, hheader, rfl⟩ := exists_header hshort
    rw [front_append hheader rfl] at h
    split at h
    · cases h
    · rename_i hsize
      split at h
      · cases h
      · rename_i hgot
        cases h
        have hlength : (got.take (Bytes.ofBigEndian header)).length = Bytes.ofBigEndian header :=
          List.length_take_of_le (Nat.le_of_not_lt hgot)
        rw [ofBody, hlength, ← hheader, Bytes.bigEndian_ofBigEndian, List.append_assoc,
          List.take_append_drop]
        exact ⟨rfl, Nat.le_of_not_lt hsize⟩

/-- Until its last byte has come, a frame is not read. -/
theorem front_of_isPrefix (h : body.length ≤ effectiveMax maxBytes) (hpre : stream <+: ofBody body)
    (hne : stream ≠ ofBody body) : front maxBytes stream = .partly := by
  obtain ⟨missing, hmissing⟩ := hpre
  have hpos : 0 < missing.length := by
    refine List.length_pos_iff.mpr fun hnil => hne ?_
    rw [← hmissing, hnil, List.append_nil]
  by_cases hshort : stream.length < lengthBytes
  · exact front_of_short hshort
  · obtain ⟨header, got, hheader, rfl⟩ := exists_header hshort
    rw [List.append_assoc, ofBody] at hmissing
    obtain ⟨rfl, hbody⟩ :=
      List.append_inj hmissing (hheader.trans (Bytes.length_bigEndian _ _).symm)
    have hlength := congrArg List.length hbody
    rw [List.length_append] at hlength
    rw [front_append hheader (ofBigEndian_length h), if_neg (Nat.not_lt.mpr h),
      if_pos (by omega)]

/-- A front that shows anything shows it still when more bytes have come. -/
theorem front_append_of_frame (h : front maxBytes stream = .frame body rest) (more : List UInt8) :
    front maxBytes (stream ++ more) = .frame body (rest ++ more) := by
  by_cases hshort : stream.length < lengthBytes
  · rw [front_of_short hshort] at h
    cases h
  · obtain ⟨header, got, hheader, rfl⟩ := exists_header hshort
    rw [front_append hheader rfl] at h
    rw [List.append_assoc, front_append hheader rfl]
    split at h
    · cases h
    · rename_i hsize
      split at h
      · cases h
      · rename_i hgot
        cases h
        rw [if_neg hsize, if_neg (by rw [List.length_append]; omega),
          List.take_append_of_le_length (by omega), List.drop_append_of_le_length (by omega)]

theorem front_append_of_oversized (h : front maxBytes stream = .oversized) (more : List UInt8) :
    front maxBytes (stream ++ more) = .oversized := by
  by_cases hshort : stream.length < lengthBytes
  · rw [front_of_short hshort] at h
    cases h
  · obtain ⟨header, got, hheader, rfl⟩ := exists_header hshort
    rw [front_append hheader rfl] at h
    rw [List.append_assoc, front_append hheader rfl]
    split at h
    · rename_i hsize
      rw [if_pos hsize]
    · split at h
      · cases h
      · cases h

/-! ### Splitting a stream -/

theorem split_eq (maxBytes : Nat) (stream : List UInt8) :
    split maxBytes stream =
      match front maxBytes stream with
      | .partly => ([], .ok stream)
      | .oversized => ([], .error .tooBig)
      | .frame body rest => (body :: (split maxBytes rest).1, (split maxBytes rest).2) := by
  rw [split]
  split
  · rename_i hfront
    simp only [hfront]
  · rename_i hfront
    simp only [hfront]
  · rename_i hfront
    simp only [hfront]

theorem split_of_partly (h : front maxBytes stream = .partly) :
    split maxBytes stream = ([], .ok stream) := by
  rw [split_eq, h]

theorem split_of_oversized (h : front maxBytes stream = .oversized) :
    split maxBytes stream = ([], .error .tooBig) := by
  rw [split_eq, h]

theorem split_of_frame (h : front maxBytes stream = .frame body rest) :
    split maxBytes stream = (body :: (split maxBytes rest).1, (split maxBytes rest).2) := by
  rw [split_eq, h]

/-- What is left of a stream shows no frame. -/
theorem front_of_split (h : (split maxBytes stream).2 = .ok left) :
    front maxBytes left = .partly := by
  induction stream using split.induct maxBytes with
  | case1 stream hfront =>
    rw [split_of_partly hfront] at h
    cases h
    exact hfront
  | case2 stream hfront =>
    rw [split_of_oversized hfront] at h
    cases h
  | case3 stream body rest hfront _ _ _ _ ih =>
    rw [split_of_frame hfront] at h
    exact ih h

/-- More bytes go on where the bytes before them have left off. -/
theorem split_append (maxBytes : Nat) (stream more : List UInt8) :
    split maxBytes (stream ++ more) =
      match (split maxBytes stream).2 with
      | .error e => ((split maxBytes stream).1, .error e)
      | .ok left =>
        ((split maxBytes stream).1 ++ (split maxBytes (left ++ more)).1,
          (split maxBytes (left ++ more)).2) := by
  induction stream using split.induct maxBytes with
  | case1 stream hfront =>
    rw [split_of_partly hfront]
    rfl
  | case2 stream hfront =>
    rw [split_of_oversized hfront, split_of_oversized (front_append_of_oversized hfront more)]
  | case3 stream body rest hfront _ _ _ _ ih =>
    rw [split_of_frame hfront, split_of_frame (front_append_of_frame hfront more), ih]
    cases (split maxBytes rest).2 with
    | error e => rfl
    | ok left => rfl

theorem split_ofBody (h : body.length ≤ effectiveMax maxBytes) :
    split maxBytes (ofBody body) = ([body], .ok []) := by
  have hfront := front_ofBody_append h []
  rw [List.append_nil] at hfront
  rw [split_of_frame hfront, split_of_partly (front_of_short (by decide))]

end Frame

namespace Framer

/-- The reader has no frame left to read. -/
def Settled (f : Framer) : Prop := Frame.front f.maxBytes f.pending = .partly

theorem settled_start (maxBytes : Nat) : (start maxBytes).Settled :=
  Frame.front_of_short (by decide : ([] : List UInt8).length < Frame.lengthBytes)

theorem feed_nil {f : Framer} (h : f.Settled) : f.feed [] = ([], .ok f) := by
  rw [feed, List.append_nil, Frame.split_of_partly h]
  rfl

theorem settled_of_feed {f f' : Framer} {chunk : List UInt8} (h : (f.feed chunk).2 = .ok f') :
    f'.Settled ∧ f'.maxBytes = f.maxBytes := by
  rw [feed] at h
  cases hleft : (Frame.split f.maxBytes (f.pending ++ chunk)).2 with
  | error e =>
    simp only [hleft] at h
    cases h
  | ok left =>
    simp only [hleft] at h
    cases h
    exact ⟨Frame.front_of_split hleft, rfl⟩

section Append

variable {f f' : Framer} {chunk : List UInt8} {bodies : List (List UInt8)}

/-- A reader that is fed twice completes what it does when it is fed both at once. -/
theorem feed_append_of_ok (h : f.feed chunk = (bodies, .ok f')) (more : List UInt8) :
    f.feed (chunk ++ more) = (bodies ++ (f'.feed more).1, (f'.feed more).2) := by
  have happend := Frame.split_append f.maxBytes (f.pending ++ chunk) more
  rw [List.append_assoc] at happend
  rw [feed] at h ⊢
  rcases hsplit : Frame.split f.maxBytes (f.pending ++ chunk) with ⟨found, left⟩
  rw [hsplit] at h happend
  cases left with
  | error e => cases h
  | ok left =>
    cases h
    rw [happend]
    rfl

theorem feed_append_of_error {e : FrameError} (h : f.feed chunk = (bodies, .error e))
    (more : List UInt8) : f.feed (chunk ++ more) = (bodies, .error e) := by
  have happend := Frame.split_append f.maxBytes (f.pending ++ chunk) more
  rw [List.append_assoc] at happend
  rw [feed] at h ⊢
  rcases hsplit : Frame.split f.maxBytes (f.pending ++ chunk) with ⟨found, left⟩
  rw [hsplit] at h happend
  cases left with
  | error e => cases h; rw [happend]; rfl
  | ok left => cases h

end Append

theorem feed_start_ofBody {maxBytes : Nat} {body : List UInt8}
    (h : body.length ≤ Frame.effectiveMax maxBytes) :
    (start maxBytes).feed (Frame.ofBody body) = ([body], .ok (start maxBytes)) := by
  have hsplit : Frame.split (start maxBytes).maxBytes ((start maxBytes).pending ++
      Frame.ofBody body) = ([body], .ok []) := Frame.split_ofBody h
  rw [feed, hsplit]
  rfl

end Framer

end DeviceBroker
