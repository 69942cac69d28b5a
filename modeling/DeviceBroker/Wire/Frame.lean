import DeviceBroker.Bytes

/-!
# Frames

On a stream every frame body follows its length in four bytes, most
significant first. A body above the limit is refused as soon as its length is
known. `Framer` keeps the bytes of a frame that has not arrived in full, and
`feed` gives the bodies that a chunk of the stream completes, however the
stream is cut into chunks.
-/

namespace DeviceBroker

/-- Why a stream cannot be read on or a body cannot be written. -/
inductive FrameError where
  /-- The frame is larger than the limit. -/
  | tooBig
  /-- The stream ended inside a frame. -/
  | truncated
  deriving DecidableEq, Repr

def FrameError.message : FrameError → String
  | .tooBig => "frame size too big"
  | .truncated => "bytes remaining on stream"

namespace Frame

def lengthBytes : Nat := 4

/-- The largest body under a limit: its length has to fit the bytes of a length. -/
def effectiveMax (maxBytes : Nat) : Nat := min maxBytes (UInt32.size - 1)

/-- A body behind its length, unless it is too big. -/
def encode (maxBytes : Nat) (body : List UInt8) : Except FrameError (List UInt8) :=
  if body.length ≤ effectiveMax maxBytes then
    .ok (Bytes.bigEndian lengthBytes body.length ++ body)
  else .error .tooBig

/-- What the front of a stream holds. -/
inductive Front where
  /-- The frame has not arrived in full. -/
  | partly
  /-- A frame body and what follows it. -/
  | frame (body rest : List UInt8)
  /-- A length above the limit. -/
  | oversized

/-- Look at the front of a stream. -/
def front (maxBytes : Nat) (stream : List UInt8) : Front :=
  if stream.length < lengthBytes then .partly
  else
    let length := Bytes.ofBigEndian (stream.take lengthBytes)
    let rest := stream.drop lengthBytes
    if effectiveMax maxBytes < length then .oversized
    else if rest.length < length then .partly
    else .frame (rest.take length) (rest.drop length)

theorem length_lt_of_front_eq_frame {maxBytes : Nat} {stream body rest : List UInt8}
    (h : front maxBytes stream = .frame body rest) : rest.length < stream.length := by
  unfold front at h
  split at h
  · cases h
  · rename_i long
    simp only at h
    split at h
    · cases h
    · split at h
      · cases h
      · cases h
        simp only [List.length_drop]
        have : lengthBytes = 4 := rfl
        omega

/-- The bodies of all complete frames, and what is left of the stream after
them: the beginning of a frame, or an error. -/
def split (maxBytes : Nat) (stream : List UInt8) :
    List (List UInt8) × Except FrameError (List UInt8) :=
  match h : front maxBytes stream with
  | .partly => ([], .ok stream)
  | .oversized => ([], .error .tooBig)
  | .frame body rest =>
    have := length_lt_of_front_eq_frame h
    let (bodies, left) := split maxBytes rest
    (body :: bodies, left)
termination_by stream.length

end Frame

/-- A reader of frames: the limit, and the bytes that wait for their frame to
be complete. -/
@[ext] structure Framer where
  maxBytes : Nat
  pending : List UInt8
  deriving DecidableEq, Repr

namespace Framer

/-- A reader at the start of a stream. -/
def start (maxBytes : Nat) : Framer := ⟨maxBytes, []⟩

/-- The bodies that a chunk completes, and the reader after them or an error. -/
def feed (f : Framer) (chunk : List UInt8) : List (List UInt8) × Except FrameError Framer :=
  let (bodies, left) := Frame.split f.maxBytes (f.pending ++ chunk)
  (bodies, left.map fun pending => ⟨f.maxBytes, pending⟩)

/-- What the end of the stream means: an error inside a frame. -/
def finish (f : Framer) : Except FrameError Unit :=
  if f.pending.isEmpty then .ok () else .error .truncated

end Framer

end DeviceBroker
