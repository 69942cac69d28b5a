import DeviceBroker.Proofs.Broker.Arrays
import DeviceBroker.Proofs.Broker.Steady
import DeviceBroker.Proofs.Bytes

/-!
# Polling

A poll reads one word of a buffer until the word shows the expected bits. Here
nothing comes between its reads, so every read of a poll sees the same word,
and the first one decides: either it is the only one, or the poll reads as
often as it may and gives up. Beyond the count of its calls the driver is then
what it was, and so is the broker.
-/

namespace DeviceBroker

variable {cards : Nat}

/-- The word of some bytes at a position, extended with zeros. -/
def wordAt (content : Nat → UInt8) (offset : UInt64) (width : UInt32) : UInt64 :=
  .ofNat (Bytes.ofLittleEndian (window content offset.toNat width.toNat))

/-- A word that a poll may look at: one of the four widths, inside the buffer. -/
def BufferEntry.HasWord (entry : BufferEntry) (offset : UInt64) (width : UInt32) : Prop :=
  (width = 1 ∨ width = 2 ∨ width = 4 ∨ width = 8) ∧
    offset.toNat + width.toNat ≤ entry.length.toNat

instance (entry : BufferEntry) (offset : UInt64) (width : UInt32) :
    Decidable (entry.HasWord offset width) :=
  inferInstanceAs (Decidable (_ ∧ _))

theorem Service.mem_pollWidths {width : UInt32} :
    width ∈ pollWidths ↔ width = 1 ∨ width = 2 ∨ width = 4 ∨ width = 8 := by
  simp [pollWidths]

theorem length_window (content : Nat → UInt8) (offset count : Nat) :
    (window content offset count).length = count := by
  rw [window, List.length_map, List.length_range]

theorem toNat_wordAt {entry : BufferEntry} {offset : UInt64} {width : UInt32}
    (h : entry.HasWord offset width) (content : Nat → UInt8) :
    (wordAt content offset width).toNat =
      Bytes.ofLittleEndian (window content offset.toNat width.toNat) := by
  have hlt := Bytes.ofLittleEndian_lt (window content offset.toNat width.toNat)
  rw [length_window] at hlt
  have hwidth : width.toNat ≤ 8 := by
    obtain ⟨rfl | rfl | rfl | rfl, -⟩ := h <;> decide
  have hpow : 256 ^ width.toNat ≤ 256 ^ 8 := Nat.pow_le_pow_right (by decide) hwidth
  exact Nat.mod_eq_of_lt (Nat.lt_of_lt_of_le hlt hpow)

namespace Broker

/-- A request is answered with a result after so many calls of the driver, each
of them the given one. The count of calls apart, nothing has changed. -/
def AnswersAfter (b : Broker cards) (request : Request) (count : Nat) (call : DeviceCall)
    (result : Except Fault request.operation.Value) : Prop :=
  b.handle request = (.ofResult request.operation result, b.recount (b.device.calls + count)) ∧
    (request.program b.payloadLimit).calls b = List.replicate count call

/-- What a live buffer answers to polls of a word through its owner. -/
structure Polls (b : Broker cards) (content : Nat → UInt8) (id : RemoteId) (entry : BufferEntry)
    (handle : HandleEntry) (offset : UInt64) (width : UInt32) : Prop where
  /-- No bit of the bytes is lost in the word. -/
  extended : entry.HasWord offset width →
    (wordAt content offset width).toNat =
      Bytes.ofLittleEndian (window content offset.toNat width.toNat)
  refused : ¬ entry.HasWord offset width → ∀ mask expected sleepMicros attempts,
    b.handle (.bufferPoll entry.owner id offset width mask expected sleepMicros attempts) =
        (.ofResult .bufferPoll (.error .invalidParam), b) ∧
      (Request.program b.payloadLimit
        (.bufferPoll entry.owner id offset width mask expected sleepMicros attempts)).calls b = []
  shown : entry.HasWord offset width → ∀ mask expected sleepMicros attempts,
    wordAt content offset width &&& mask = expected &&& mask →
    b.AnswersAfter (.bufferPoll entry.owner id offset width mask expected sleepMicros attempts) 1
      (.bufferRead handle.handle entry.workspace offset width.toUInt64) (.ok ())
  /-- A poll that may read no times reads once. -/
  exhausted : entry.HasWord offset width → ∀ mask expected sleepMicros attempts,
    wordAt content offset width &&& mask ≠ expected &&& mask →
    b.AnswersAfter (.bufferPoll entry.owner id offset width mask expected sleepMicros attempts)
      (max attempts.toNat 1)
      (.bufferRead handle.handle entry.workspace offset width.toUInt64) (.error .busy)

end Broker

open Service

namespace Shelved

variable {b : Broker cards} {content : Nat → UInt8} {id : RemoteId} {entry : BufferEntry}
  {handle : HandleEntry} {memory : Memory} {offset : UInt64} {width : UInt32}
  {mask expected : UInt64}

/-! ## The loop -/

theorem recount (h : Shelved b content id entry handle memory) (n : Nat) :
    Shelved (b.recount n) content id entry handle memory :=
  ⟨h.owner, h.live, h.stored, h.size, h.bytes⟩

/-- What a read of a word returns. -/
theorem word_slice (h : Shelved b content id entry handle memory)
    (hrange : offset.toNat + width.toNat ≤ entry.length.toNat) :
    UInt64.ofNat ((memory.slice offset.toNat width.toUInt64.toNat).word 0 width.toNat) =
      wordAt content offset width := by
  have hbytes : ((memory.slice offset.toNat width.toUInt64.toNat).slice 0 width.toNat).toList =
      (memory.slice offset.toNat width.toUInt64.toNat).toList := by
    rw [Memory.toList_slice]
    exact List.map_congr_left fun i _ => congrArg _ (Nat.zero_add i)
  rw [Memory.word, hbytes, h.toList_slice hrange, wordAt, UInt32.toNat_toUInt64]

/-- One turn of the loop. -/
theorem exec_poll_succ (h : Shelved b content id entry handle memory)
    (ha : b.device.armed .bufferRead = none)
    (hrange : offset.toNat + width.toNat ≤ entry.length.toNat) (attempts : Nat) :
    exec (poll handle.handle entry.workspace offset width mask expected (attempts + 1)) b =
      if wordAt content offset width &&& mask = expected &&& mask then
        (.ok (), b.recount (b.device.calls + 1))
      else
        exec (poll handle.handle entry.workspace offset width mask expected attempts)
          (b.recount (b.device.calls + 1)) := by
  have hread : exec (device (.bufferRead handle.handle entry.workspace offset width.toUInt64)) b =
    _ := h.exec_read ha hrange
  have hturn : exec (poll handle.handle entry.workspace offset width mask expected
      (attempts + 1)) b = _ := exec_bind_of_ok _ hread
  rw [hturn, h.word_slice hrange]
  split <;> rfl

/-- A poll that never sees the expected bits makes all the reads that it may: a
read changes no byte, so the next one returns the same word. -/
theorem exec_poll_of_ne (h : Shelved b content id entry handle memory)
    (ha : b.device.armed .bufferRead = none)
    (hrange : offset.toNat + width.toNat ≤ entry.length.toNat)
    (hword : wordAt content offset width &&& mask ≠ expected &&& mask) (attempts : Nat) :
    exec (poll handle.handle entry.workspace offset width mask expected attempts) b =
      (.error .busy, b.recount (b.device.calls + attempts)) := by
  induction attempts generalizing b with
  | zero => rfl
  | succ attempts ih =>
    have hrest := ih (h.recount (b.device.calls + 1)) ha
    have hcount : b.device.calls + 1 + attempts = b.device.calls + (attempts + 1) := by omega
    rw [h.exec_poll_succ ha hrange, if_neg hword, hrest, ← hcount]
    rfl

/-! ## The request -/

theorem exec_bufferPoll (h : Shelved b content id entry handle memory)
    (hw : entry.HasWord offset width) (mask expected sleepMicros attempts : UInt64) :
    exec (Request.serve b.payloadLimit
        (.bufferPoll entry.owner id offset width mask expected sleepMicros attempts)) b =
      exec (poll handle.handle entry.workspace offset width mask expected (max attempts.toNat 1))
        b := by
  have hwidth : pollWidths.contains width = true :=
    List.contains_iff_mem.mpr (mem_pollWidths.mpr hw.1)
  have hrange : offset.toNat + width.toUInt64.toNat ≤ entry.length.toNat := hw.2
  have hrequire : exec (require (pollWidths.contains width) .invalidParam) b = (.ok (), b) := by
    rw [hwidth]
    rfl
  exact (exec_bind_of_ok _ hrequire).trans (exec_bind_of_ok _ (h.exec_range hrange))

theorem vet_bufferPoll (h : Shelved b content id entry handle memory)
    (hw : ¬ entry.HasWord offset width) (mask expected sleepMicros attempts : UInt64) :
    b.vet (.bufferPoll entry.owner id offset width mask expected sleepMicros attempts) =
      .error .invalidParam := by
  change (Broker.ensure (pollWidths.contains width) .invalidParam >>= fun _ =>
    b.vetRange entry.owner id offset width.toUInt64) = _
  cases hc : pollWidths.contains width with
  | false => rfl
  | true =>
    have hwidth := mem_pollWidths.mp (List.contains_iff_mem.mp hc)
    exact h.vetRange_of_not_le fun hrange => hw ⟨hwidth, hrange⟩

/-- A poll calls the driver for reads of its word only. -/
theorem calls_bufferPoll (h : Shelved b content id entry handle memory)
    (offset : UInt64) (width : UInt32) (mask expected sleepMicros attempts : UInt64) :
    ∀ call ∈ (Request.program b.payloadLimit
        (.bufferPoll entry.owner id offset width mask expected sleepMicros attempts)).calls b,
      call = .bufferRead handle.handle entry.workspace offset width.toUInt64 := by
  have hsteady : Steady (Request.serve b.payloadLimit
      (.bufferPoll entry.owner id offset width mask expected sleepMicros attempts)) b
      (.bufferRead handle.handle entry.workspace offset width.toUInt64 = ·) := by
    refine steady_require_bind fun _ => steady_bufferRange_bind fun owner buffer hh hf _ => ?_
    obtain rfl := Option.some.inj (hh.symm.trans h.owner)
    obtain rfl := Option.some.inj (hf.symm.trans h.live)
    exact steady_poll rfl mask expected _ b
  rw [← Program.map_call_exchanges, Request.exchanges_program, List.forall_mem_map]
  exact fun x hx => (hsteady.calls x hx).2.symm

/-- How a poll of a word ends is how its loop does. -/
theorem answersAfter_of_exec (h : Shelved b content id entry handle memory)
    (hw : entry.HasWord offset width) {sleepMicros attempts : UInt64} {count : Nat}
    {result : Except Fault Unit}
    (he : exec (poll handle.handle entry.workspace offset width mask expected
      (max attempts.toNat 1)) b = (result, b.recount (b.device.calls + count))) :
    b.AnswersAfter (.bufferPoll entry.owner id offset width mask expected sleepMicros attempts)
      count (.bufferRead handle.handle entry.workspace offset width.toUInt64) result := by
  have hserve := (h.exec_bufferPoll hw mask expected sleepMicros attempts).trans he
  have hhandle : b.handle
      (.bufferPoll entry.owner id offset width mask expected sleepMicros attempts) =
      (.ofResult .bufferPoll result, b.recount (b.device.calls + count)) := by
    rw [Broker.handle_eq, hserve]
  refine ⟨hhandle, List.eq_replicate_iff.mpr
    ⟨?_, h.calls_bufferPoll offset width mask expected sleepMicros attempts⟩⟩
  have hcalls := Program.calls_run (Request.program b.payloadLimit
    (.bufferPoll entry.owner id offset width mask expected sleepMicros attempts)) b
  have hstate : b.device.calls + count = _ :=
    (congrArg (·.2.device.calls) hhandle).symm.trans hcalls
  exact (Nat.add_left_cancel hstate).symm

theorem polls (h : Shelved b content id entry handle memory)
    (ha : b.device.armed .bufferRead = none) (offset : UInt64) (width : UInt32) :
    b.Polls content id entry handle offset width := by
  constructor
  case extended => exact fun hw => toNat_wordAt hw content
  case refused =>
    exact fun hw mask expected sleepMicros attempts =>
      Broker.handle_of_vet_error (h.vet_bufferPoll hw mask expected sleepMicros attempts)
  case shown =>
    intro hw mask expected sleepMicros attempts hword
    obtain ⟨further, hmax⟩ : ∃ n, max attempts.toNat 1 = n + 1 :=
      Nat.exists_eq_add_of_le' (Nat.le_max_right _ 1)
    refine h.answersAfter_of_exec hw ?_
    rw [hmax, h.exec_poll_succ ha hw.2, if_pos hword]
  case exhausted =>
    exact fun hw mask expected sleepMicros attempts hword =>
      h.answersAfter_of_exec hw (h.exec_poll_of_ne ha hw.2 hword _)

end Shelved

namespace Broker

/-- Along every history, while no failure is armed, a poll of a live buffer
through its owner decides by the last bytes that were written: it is refused
without a call if it names no word of the buffer, one read settles it if the
word shows the expected bits, and it gives up after all its reads if not. -/
theorem polls_after (source : IdSource) (images : String → Option (List UInt8)) (limit : UInt64)
    (events : List Event)
    (unarmed : ∀ kind,
      ((start source (.start cards images) limit).after events).device.armed kind = none)
    {id : RemoteId} {entry : BufferEntry}
    (live : (((start source (.start cards images) limit).after events).registry.map .buffer).find?
      id = some entry) :
    ∃ handle,
      (((start source (.start cards images) limit).after events).registry.map .handle).find?
        entry.owner = some handle ∧
      ∀ offset width, ((start source (.start cards images) limit).after events).Polls
        (lastByte ((start source (.start cards images) limit).dialogue events) id) id entry handle
        offset width := by
  obtain ⟨handle, memory, hshelved⟩ :=
    (@stocked_after cards source images limit events).shelved live
  exact ⟨handle, hshelved.owner, hshelved.polls (unarmed _)⟩

/-- A buffer that holds the bytes 9 and 1 at the positions 3 and 4. -/
def wordWritten : List Event :=
  [.serve (.enumerate [] 2), .serve (.openHandle ⟨7, 2⟩ 0),
    .serve (.prepareBuffer ⟨7, 3⟩ 8 none 0), .serve (.bufferWrite ⟨7, 3⟩ ⟨7, 4⟩ 3 [9, 1] 2)]

/-- The upper byte of the word is not masked out in the second poll, which may
read five times. The third one asks for a word past the end. -/
theorem polls_after_wordWritten :
    (((start (.seeded 7) (.start 1 fun _ => none) 4096).after wordWritten).registry.map
      .buffer).find? ⟨7, 4⟩ = some ⟨⟨7, 3⟩, 8, 0, 1, 139638043836416⟩ ∧
    (∀ kind, ((start (.seeded 7) (.start 1 fun _ => none) 4096).after wordWritten).device.armed
      kind = none) ∧
    ((start (.seeded 7) (.start 1 fun _ => none) 4096).after wordWritten).AnswersAfter
      (.bufferPoll ⟨7, 3⟩ ⟨7, 4⟩ 3 2 0xff 9 0 5) 1 (.bufferRead ⟨536870912⟩ 1 3 2) (.ok ()) ∧
    ((start (.seeded 7) (.start 1 fun _ => none) 4096).after wordWritten).AnswersAfter
      (.bufferPoll ⟨7, 3⟩ ⟨7, 4⟩ 3 2 0xffff 9 0 5) 5 (.bufferRead ⟨536870912⟩ 1 3 2)
      (.error .busy) ∧
    (((start (.seeded 7) (.start 1 fun _ => none) 4096).after wordWritten).handle
      (.bufferPoll ⟨7, 3⟩ ⟨7, 4⟩ 7 2 0 0 0 5)).1 =
        .ofResult .bufferPoll (.error .invalidParam) := by
  obtain ⟨handle, howner, hpolls⟩ := @polls_after 1 (.seeded 7) (fun _ => none) 4096 wordWritten
    (fun _ => rfl) ⟨7, 4⟩ ⟨⟨7, 3⟩, 8, 0, 1, 139638043836416⟩ rfl
  obtain rfl := Option.some.inj (howner.symm.trans rfl)
  have hword : BufferEntry.HasWord ⟨⟨7, 3⟩, 8, 0, 1, 139638043836416⟩ 3 2 := by
    decide
  refine ⟨rfl, fun _ => rfl, (hpolls 3 2).shown hword 0xff 9 0 5 rfl,
    (hpolls 3 2).exhausted hword 0xffff 9 0 5 (by decide), ?_⟩
  exact ((hpolls 7 2).refused (by decide) 0 0 0 5).1 ▸ rfl

end Broker

end DeviceBroker
