import DeviceBroker.Proofs.Wire.Framing

/-!
# Streams in chunks

Bytes come from a network in chunks, and where one chunk ends and the next one
begins means nothing. A reader that is fed chunk by chunk finds the bodies that
the whole stream holds and stops at the same length above the limit, wherever
the cuts are: in a length, in a body, or nowhere. The bodies that are refused on
reading are those that cannot be written either.

A reader can also take a length off the stream as soon as it is complete and then
wait for so many bytes. Such a `StagedFramer` never reads a length twice; what it
finds is the same.
-/

namespace DeviceBroker

namespace Framer

variable {maxBytes : Nat}

/-- Feed chunks one after another, up to the first error. -/
def feedAll : Framer → List (List UInt8) → List (List UInt8) × Except FrameError Framer
  | f, [] => ([], .ok f)
  | f, chunk :: chunks =>
    match f.feed chunk with
    | (bodies, .error e) => (bodies, .error e)
    | (bodies, .ok f) => (bodies ++ (f.feedAll chunks).1, (f.feedAll chunks).2)

/-- Chunks that are fed one after another do what they do at once. -/
theorem feedAll_eq_feed {f : Framer} (h : f.Settled) (chunks : List (List UInt8)) :
    f.feedAll chunks = f.feed chunks.flatten := by
  induction chunks generalizing f with
  | nil => exact (feed_nil h).symm
  | cons chunk chunks ih =>
    rw [feedAll, List.flatten_cons]
    rcases hfeed : f.feed chunk with ⟨bodies, e | f'⟩
    · exact (feed_append_of_error hfeed _).symm
    · have hsettled : f'.Settled := (settled_of_feed (congrArg Prod.snd hfeed)).1
      rw [feed_append_of_ok hfeed, ← ih hsettled]

/-- Where a stream is cut makes no difference. -/
theorem feedAll_congr {f : Framer} (h : f.Settled) {chunks chunks' : List (List UInt8)}
    (same : chunks.flatten = chunks'.flatten) : f.feedAll chunks = f.feedAll chunks' := by
  rw [feedAll_eq_feed h, feedAll_eq_feed h, same]

/-- The frames of bodies within the limit hold these bodies and nothing else. -/
theorem feed_ofBodies (bodies : List (List UInt8))
    (h : ∀ body ∈ bodies, body.length ≤ Frame.effectiveMax maxBytes) :
    (start maxBytes).feed (bodies.flatMap Frame.ofBody) = (bodies, .ok (start maxBytes)) := by
  induction bodies with
  | nil => exact feed_nil (settled_start maxBytes)
  | cons body bodies ih =>
    rw [List.forall_mem_cons] at h
    rw [List.flatMap_cons, feed_append_of_ok (feed_start_ofBody h.1), ih h.2]
    rfl

/-- Reading fails in no other way than at a length above the limit. -/
theorem eq_tooBig_of_feed {f : Framer} {chunk : List UInt8} {e : FrameError}
    (h : (f.feed chunk).2 = .error e) : e = .tooBig := by
  rw [feed] at h
  generalize f.pending ++ chunk = stream at h
  induction stream using Frame.split.induct f.maxBytes with
  | case1 stream hfront =>
    rw [Frame.split_of_partly hfront] at h
    cases h
  | case2 stream hfront =>
    rw [Frame.split_of_oversized hfront] at h
    cases h
    rfl
  | case3 stream body rest hfront _ _ _ _ ih =>
    rw [Frame.split_of_frame hfront] at h
    exact ih h

/-- A length above the limit is refused, whatever follows it; no other length is. -/
theorem feed_header_iff {header : List UInt8} (h : header.length = Frame.lengthBytes)
    (rest : List UInt8) :
    (start maxBytes).feed (header ++ rest) = ([], .error .tooBig) ↔
      Frame.effectiveMax maxBytes < Bytes.ofBigEndian header := by
  have hfront := @Frame.front_append maxBytes _ _ h rfl rest
  have hfeed : (start maxBytes).feed (header ++ rest) =
      ((Frame.split maxBytes (header ++ rest)).1,
        (Frame.split maxBytes (header ++ rest)).2.map (Framer.mk maxBytes)) := rfl
  rw [hfeed]
  constructor
  · intro hrefused
    refine Nat.lt_of_not_le fun hle => ?_
    rw [if_neg (Nat.not_lt.mpr hle)] at hfront
    split at hfront
    · rw [Frame.split_of_partly hfront] at hrefused
      cases hrefused
    · rw [Frame.split_of_frame hfront] at hrefused
      cases hrefused
  · intro hlt
    rw [if_pos hlt] at hfront
    rw [Frame.split_of_oversized hfront]
    rfl

end Framer

namespace Frame

variable {maxBytes : Nat} {body : List UInt8}

theorem encode_eq_error_iff : encode maxBytes body = .error .tooBig ↔
    effectiveMax maxBytes < body.length := by
  rw [encode]
  split
  · rename_i hle
    exact ⟨nofun, fun hlt => absurd hle (Nat.not_le_of_lt hlt)⟩
  · rename_i hnot
    exact ⟨fun _ => Nat.lt_of_not_le hnot, fun _ => rfl⟩

theorem effectiveMax_lt (maxBytes : Nat) : effectiveMax maxBytes < 256 ^ lengthBytes :=
  Nat.lt_of_le_of_lt (Nat.min_le_right _ _) (by decide)

theorem encodeAll_of_le {bodies : List (List UInt8)}
    (h : ∀ body ∈ bodies, body.length ≤ effectiveMax maxBytes) :
    bodies.mapM (encode maxBytes) = .ok (bodies.map ofBody) := by
  induction bodies with
  | nil => rfl
  | cons body bodies ih =>
    rw [List.forall_mem_cons] at h
    rw [List.mapM_cons, encode_of_le h.1, ih h.2]
    rfl

end Frame

/-! ## A reader in two stages -/

/-- A reader that holds the length of the body that is due, once this is known, and the
bytes that have come after it. -/
@[ext] structure StagedFramer where
  maxBytes : Nat
  due : Option Nat
  held : List UInt8

namespace StagedFramer

variable {d d' : StagedFramer} {body : List UInt8}

/-- A reader at the start of a stream. -/
def start (maxBytes : Nat) : StagedFramer := ⟨maxBytes, none, []⟩

/-- What a reader can do with the bytes that it holds. -/
inductive Next where
  /-- It waits for more bytes. -/
  | waiting (d : StagedFramer)
  /-- A body has come in full. -/
  | found (body : List UInt8) (d : StagedFramer)
  /-- A length is above the limit. -/
  | oversized

/-- Wait for the bytes of a body. -/
def await (d : StagedFramer) (length : Nat) : Next :=
  if d.held.length < length then .waiting { d with due := some length }
  else .found (d.held.take length) { d with due := none, held := d.held.drop length }

/-- Take a length off the stream, unless one is known already, and wait for its body. -/
def next (d : StagedFramer) : Next :=
  match d.due with
  | some length => d.await length
  | none =>
    if d.held.length < Frame.lengthBytes then .waiting d
    else
      let length := Bytes.ofBigEndian (d.held.take Frame.lengthBytes)
      if Frame.effectiveMax d.maxBytes < length then .oversized
      else { d with held := d.held.drop Frame.lengthBytes }.await length

/-- The bytes of the frame that has not been found in full, as they came. -/
def unread (d : StagedFramer) : List UInt8 :=
  match d.due with
  | none => d.held
  | some length => Bytes.bigEndian Frame.lengthBytes length ++ d.held

/-- A length that was taken off the stream is within the limit. -/
def Bounded (d : StagedFramer) : Prop := ∀ length ∈ d.due, length ≤ Frame.effectiveMax d.maxBytes

theorem bounded_start (maxBytes : Nat) : (start maxBytes).Bounded := nofun

/-- What a step of a reader has to do with the front of what is unread. -/
inductive Agrees (d : StagedFramer) : Next → Frame.Front → Prop
  | waiting {d' : StagedFramer} (bounded : d'.Bounded) (maxBytes : d'.maxBytes = d.maxBytes)
    (unread : d'.unread = d.unread) : Agrees d (.waiting d') .partly
  | found {body : List UInt8} {d' : StagedFramer} (bounded : d'.Bounded)
    (maxBytes : d'.maxBytes = d.maxBytes) : Agrees d (.found body d') (.frame body d'.unread)
  | oversized : Agrees d .oversized .oversized

theorem agrees_await {length : Nat} (h : length ≤ Frame.effectiveMax d.maxBytes)
    (hd : d'.maxBytes = d.maxBytes)
    (hu : d'.unread = Bytes.bigEndian Frame.lengthBytes length ++ d.held) :
    Agrees d' (d.await length) (Frame.front d.maxBytes d'.unread) := by
  have hlength : Bytes.ofBigEndian (Bytes.bigEndian Frame.lengthBytes length) = length := by
    rw [Bytes.ofBigEndian_bigEndian]
    exact Nat.mod_eq_of_lt (Nat.lt_of_le_of_lt h (Frame.effectiveMax_lt d.maxBytes))
  rw [hu, Frame.front_append (Bytes.length_bigEndian _ _) hlength, if_neg (Nat.not_lt.mpr h), await]
  split
  · exact .waiting (fun _ hl => Option.some.inj hl ▸ h) hd.symm hu.symm
  · have hread : StagedFramer.Bounded { d with due := none, held := d.held.drop length } := nofun
    exact .found hread hd.symm

/-- A step finds at the front of what is unread what stands there. -/
theorem agrees_next (h : d.Bounded) : Agrees d d.next (Frame.front d.maxBytes d.unread) := by
  obtain ⟨maxBytes, due, held⟩ := d
  cases due with
  | some length => exact agrees_await (d := ⟨maxBytes, some length, held⟩) (h length rfl) rfl rfl
  | none =>
    rw [next]
    dsimp only
    by_cases hshort : held.length < Frame.lengthBytes
    · have hfront : Frame.front maxBytes held = .partly := Frame.front_of_short hshort
      rw [if_pos hshort]
      exact hfront ▸ .waiting h rfl rfl
    · have hheader := List.length_take_of_le (Nat.le_of_not_lt hshort)
      have hback := Bytes.bigEndian_ofBigEndian (held.take Frame.lengthBytes)
      rw [hheader] at hback
      rw [if_neg hshort]
      split
      · rename_i hlt
        have hfront : Frame.front maxBytes held = .oversized := by
          rw [Frame.front, if_neg hshort]
          exact if_pos hlt
        exact hfront ▸ .oversized
      · rename_i hle
        refine agrees_await (d := ⟨maxBytes, none, held.drop Frame.lengthBytes⟩)
          (Nat.le_of_not_lt hle) rfl ?_
        change held = _
        rw [hback, List.take_append_drop]

theorem length_unread_of_await {length : Nat} (h : d.await length = .found body d') :
    d'.unread.length ≤ d.held.length := by
  rw [await] at h
  split at h
  · cases h
  · cases h
    change (d.held.drop length).length ≤ _
    rw [List.length_drop]
    omega

/-- What is left after a body is shorter. -/
theorem length_unread_of_next (h : d.next = .found body d') :
    d'.unread.length < d.unread.length := by
  have hpos : 0 < Frame.lengthBytes := by decide
  obtain ⟨maxBytes, due, held⟩ := d
  cases due with
  | some length =>
    have hle := length_unread_of_await h
    change _ < (Bytes.bigEndian _ _ ++ held).length
    rw [List.length_append, Bytes.length_bigEndian]
    dsimp only at hle
    omega
  | none =>
    rw [next] at h
    dsimp only at h
    split at h
    · cases h
    · split at h
      · cases h
      · have hle := length_unread_of_await h
        change _ < held.length
        rw [List.length_drop] at hle
        omega

/-- Give back bodies as long as one is there. -/
def drain (d : StagedFramer) : List (List UInt8) × Except FrameError StagedFramer :=
  match h : d.next with
  | .waiting d' => ([], .ok d')
  | .oversized => ([], .error .tooBig)
  | .found body d' =>
    have := length_unread_of_next h
    (body :: d'.drain.1, d'.drain.2)
termination_by d.unread.length

def feed (d : StagedFramer) (chunk : List UInt8) :
    List (List UInt8) × Except FrameError StagedFramer :=
  drain { d with held := d.held ++ chunk }

/-- Feed chunks one after another, up to the first error. -/
def feedAll : StagedFramer → List (List UInt8) → List (List UInt8) × Except FrameError StagedFramer
  | d, [] => ([], .ok d)
  | d, chunk :: chunks =>
    match d.feed chunk with
    | (bodies, .error e) => (bodies, .error e)
    | (bodies, .ok d) => (bodies ++ (d.feedAll chunks).1, (d.feedAll chunks).2)

/-- The reader that keeps what is unread as it came. -/
def toFramer (d : StagedFramer) : Framer := ⟨d.maxBytes, d.unread⟩

/-- A result of a reader in two stages beside a result of the other reader. -/
structure Matches (found : List (List UInt8) × Except FrameError StagedFramer)
    (expected : List (List UInt8) × Except FrameError Framer) : Prop where
  bodies : found.1 = expected.1
  left : found.2.map toFramer = expected.2
  bounded : ∀ last, found.2 = .ok last → last.Bounded

theorem drain_eq (d : StagedFramer) :
    d.drain =
      match d.next with
      | .waiting d' => ([], .ok d')
      | .oversized => ([], .error .tooBig)
      | .found body d' => (body :: d'.drain.1, d'.drain.2) := by
  rw [drain]
  split
  · rename_i hnext
    simp only [hnext]
  · rename_i hnext
    simp only [hnext]
  · rename_i hnext
    simp only [hnext]

/-- Draining gives back the frames that stand in what is unread. -/
theorem matches_drain (d : StagedFramer) (h : d.Bounded) :
    Matches d.drain ((Frame.split d.maxBytes d.unread).1,
      (Frame.split d.maxBytes d.unread).2.map (Framer.mk d.maxBytes)) := by
  -- The induction is on the bodies that are found; each step agrees with the front.
  induction d using drain.induct with
  | case1 d d' hnext =>
    have hagrees := agrees_next h
    rw [drain_eq, hnext]
    rw [hnext] at hagrees
    generalize hfront : Frame.front d.maxBytes d.unread = front at hagrees
    cases hagrees with
    | waiting bounded maxBytes unread =>
      rw [Frame.split_of_partly hfront]
      refine ⟨rfl, congrArg Except.ok (Framer.ext maxBytes unread), fun last hlast => ?_⟩
      cases hlast
      exact bounded
  | case2 d hnext =>
    have hagrees := agrees_next h
    rw [drain_eq, hnext]
    rw [hnext] at hagrees
    generalize hfront : Frame.front d.maxBytes d.unread = front at hagrees
    cases hagrees with
    | oversized =>
      rw [Frame.split_of_oversized hfront]
      exact ⟨rfl, rfl, nofun⟩
  | case3 d body d' hnext _ ih =>
    have hagrees := agrees_next h
    rw [drain_eq, hnext]
    rw [hnext] at hagrees
    generalize hfront : Frame.front d.maxBytes d.unread = front at hagrees
    cases hagrees with
    | found bounded maxBytes =>
      obtain ⟨hbodies, hleft, hbounded⟩ := ih bounded
      rw [maxBytes] at hbodies hleft
      rw [Frame.split_of_frame hfront]
      exact ⟨congrArg (List.cons body) hbodies, hleft, hbounded⟩

theorem matches_feed (h : d.Bounded) (chunk : List UInt8) :
    Matches (d.feed chunk) (d.toFramer.feed chunk) := by
  have hunread : unread { d with held := d.held ++ chunk } = d.unread ++ chunk := by
    obtain ⟨maxBytes, due, held⟩ := d
    cases due with
    | none => rfl
    | some length => exact (List.append_assoc _ _ _).symm
  have hmatches := matches_drain { d with held := d.held ++ chunk } h
  rw [hunread] at hmatches
  exact hmatches

/-- Whether it keeps the length apart or not, a reader finds the same in every sequence of
chunks. -/
theorem matches_feedAll (h : d.Bounded) (chunks : List (List UInt8)) :
    Matches (d.feedAll chunks) (d.toFramer.feedAll chunks) := by
  induction chunks generalizing d with
  | nil =>
    refine ⟨rfl, rfl, fun last hlast => ?_⟩
    cases hlast
    exact h
  | cons chunk chunks ih =>
    obtain ⟨hbodies, hleft, hbounded⟩ := matches_feed h chunk
    rw [feedAll, Framer.feedAll]
    rcases hstaged : d.feed chunk with ⟨bodies, e | last⟩
    · rw [hstaged] at hbodies hleft
      rcases hplain : d.toFramer.feed chunk with ⟨bodies', left'⟩
      rw [hplain] at hbodies hleft
      obtain rfl : Except.error e = left' := hleft
      exact ⟨hbodies, rfl, nofun⟩
    · rw [hstaged] at hbodies hleft hbounded
      rcases hplain : d.toFramer.feed chunk with ⟨bodies', left'⟩
      rw [hplain] at hbodies hleft
      obtain rfl : Except.ok last.toFramer = left' := hleft
      obtain ⟨hmore, hlast, hgood⟩ := ih (hbounded last rfl)
      obtain rfl : bodies = bodies' := hbodies
      exact ⟨congrArg (bodies ++ ·) hmore, hlast, hgood⟩

end StagedFramer

/-! ## Cuts make no difference -/

/-- Reading under a limit does not depend on how a stream is cut. -/
structure Framer.Seamless (maxBytes : Nat) : Prop where
  /-- Bodies within the limit can be written, and however their frames are cut, these bodies
  come back in order, without an error, and nothing is left over. -/
  bodies : ∀ bodies : List (List UInt8),
    (∀ body ∈ bodies, body.length ≤ maxBytes ∧ body.length < 2 ^ 32) →
    ∃ frames, bodies.mapM (Frame.encode maxBytes) = .ok frames ∧
      ∀ chunks, chunks.flatten = frames.flatten →
        (start maxBytes).feedAll chunks = (bodies, .ok (start maxBytes)) ∧
          (start maxBytes).finish = .ok ()
  /-- Of any stream at all, what is found and what it ends with depend on its bytes alone. -/
  cuts : ∀ chunks chunks' : List (List UInt8), chunks.flatten = chunks'.flatten →
    (start maxBytes).feedAll chunks = (start maxBytes).feedAll chunks'
  /-- There is one failure, and the bytes that come after it do not matter. -/
  failure : ∀ chunks bodies e, (start maxBytes).feedAll chunks = (bodies, .error e) →
    e = .tooBig ∧ ∀ more, (start maxBytes).feedAll (chunks ++ more) = (bodies, .error .tooBig)
  /-- A body cannot be written exactly if it would be refused on reading, under any length of
  four bytes that says how long it is. -/
  refusals : ∀ body, Frame.encode maxBytes body = .error .tooBig ↔
    ∀ header, header.length = 4 → Bytes.ofBigEndian header = body.length →
      (start maxBytes).feedAll [header, body] = ([], .error .tooBig)
  /-- A length is refused as soon as its last byte is there. -/
  atOnce : ∀ header, header.length = 4 →
    ((start maxBytes).feedAll [header] = ([], .error .tooBig) ↔
      min maxBytes (2 ^ 32 - 1) < Bytes.ofBigEndian header)
  /-- A reader that takes a length off the stream before the body is there finds the same bodies
  and fails on the same streams. -/
  staged : ∀ chunks,
    ((StagedFramer.start maxBytes).feedAll chunks).1 = ((start maxBytes).feedAll chunks).1 ∧
      ((StagedFramer.start maxBytes).feedAll chunks).2.map StagedFramer.toFramer =
        ((start maxBytes).feedAll chunks).2

/-- Readers are seamless under every limit. -/
theorem Framer.seamless (maxBytes : Nat) : Seamless maxBytes := by
  have hsettled := settled_start maxBytes
  constructor
  case bodies =>
    intro bodies hle
    have hfit : ∀ body ∈ bodies, body.length ≤ Frame.effectiveMax maxBytes := fun body hbody =>
      Nat.le_min.mpr ⟨(hle body hbody).1, Nat.le_pred_of_lt (hle body hbody).2⟩
    refine ⟨_, Frame.encodeAll_of_le hfit, fun chunks hchunks => ⟨?_, rfl⟩⟩
    rw [feedAll_eq_feed hsettled, hchunks, ← List.flatMap_def]
    exact feed_ofBodies bodies hfit
  case cuts => exact fun chunks chunks' same => feedAll_congr hsettled same
  case failure =>
    intro chunks bodies e hfeed
    rw [feedAll_eq_feed hsettled] at hfeed
    obtain rfl := eq_tooBig_of_feed (congrArg Prod.snd hfeed)
    refine ⟨rfl, fun more => ?_⟩
    rw [feedAll_eq_feed hsettled, List.flatten_append]
    exact feed_append_of_error hfeed _
  case refusals =>
    intro body
    rw [Frame.encode_eq_error_iff]
    constructor
    · intro hlt header hheader hlength
      rw [feedAll_eq_feed hsettled]
      exact (feed_header_iff hheader _).mpr (hlength ▸ hlt)
    · -- A body within the limit has a length of four bytes, and that one is not refused.
      intro hrefused
      refine Nat.lt_of_not_le fun hle => ?_
      have hback := Frame.ofBigEndian_length hle
      have hfed := hrefused _ (Bytes.length_bigEndian _ _) hback
      rw [feedAll_eq_feed hsettled] at hfed
      have hlt := (feed_header_iff (Bytes.length_bigEndian _ _) _).mp hfed
      rw [hback] at hlt
      exact Nat.not_lt.mpr hle hlt
  case atOnce =>
    intro header hheader
    rw [feedAll_eq_feed hsettled, List.flatten_cons]
    exact feed_header_iff hheader _
  case staged =>
    intro chunks
    obtain ⟨hbodies, hleft, -⟩ :=
      StagedFramer.matches_feedAll (StagedFramer.bounded_start maxBytes) chunks
    exact ⟨hbodies, hleft⟩

end DeviceBroker
