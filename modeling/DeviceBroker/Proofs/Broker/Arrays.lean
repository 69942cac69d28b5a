import DeviceBroker.Proofs.Broker.Buffers
import DeviceBroker.Proofs.Broker.History

/-!
# Shared buffers along a history

Along every history the bytes of a live buffer are the last ones written to
it. So an access to it is answered as an access to an array of bytes: within
the array it takes place, and outside of it the broker refuses it and stays
as it is. Both layers check the range, the broker against the declared length
and the driver against what it has; they agree because the two are equal.
-/

namespace DeviceBroker

variable {cards : Nat}

/-- The bytes from a position on. -/
def window (content : Nat → UInt8) (offset count : Nat) : List UInt8 :=
  (List.range count).map fun k => content (offset + k)

namespace Broker

/-! ## Histories -/

/-- Only the host of the cards arms failures. -/
theorem unarmed_after_map_serve {b : Broker cards} {kind : CallKind}
    (h : b.device.armed kind = none) (requests : List Request) :
    (b.after (requests.map .serve)).device.armed kind = none := by
  induction requests generalizing b with
  | nil => exact h
  | cons request rest ih =>
    refine ih (handle_preserves (I := fun b => b.device.armed kind = none) (fun b' a _ hb => ?_) h)
    cases a with
    | call c => exact Simulator.armed_call_eq_none hb c
    | _ => exact hb

theorem bounded_handle {b : Broker cards} (h : b.device.holdings.Bounded) (request : Request) :
    (b.handle request).2.device.holdings.Bounded := by
  refine handle_preserves (I := fun b => b.device.holdings.Bounded) (fun b' a _ hb => ?_) h
  cases a with
  | call c => exact Simulator.bounded_call hb c
  | _ => exact hb

theorem sameShelf_disturb (b : Broker cards) (d : Disturbance) : SameShelf (b.disturb d) b := by
  refine ⟨rfl, rfl, ?_⟩
  cases d with
  | arm kind fault => rfl
  | recycle => rfl
  | raise token number bits =>
    exact Simulator.stored_congr (b.device.retouches_raiseError token number bits).handles_eq

/-- Along a history the buffers hold what is expected after what was served. -/
theorem Stocked.after {b : Broker cards} {content : RemoteId → Nat → UInt8} (h : b.Stocked content)
    {past : List Record} (hp : Provenance past b.ownership) (hb : b.device.holdings.Bounded)
    (events : List Event) :
    (b.after events).Stocked fun id i => (b.dialogue events).foldl (stamp id i) (content id i) := by
  induction events generalizing b content past with
  | nil => exact h
  | cons event rest ih =>
    have hnext := provenance_step hp event
    cases event with
    | serve request => exact ih (request.restocks h hp hb) hnext (bounded_handle hb request)
    | disturb d =>
      refine ih (h.congr (b.sameShelf_disturb d)) hnext ?_
      change (b.device.disturb d).holdings.Bounded
      rwa [b.device.holdings_disturb d]

theorem stocked_start (source : IdSource) (images : String → Option (List UInt8)) (limit : UInt64) :
    (start source (.start cards images) limit).Stocked fun _ _ => 0 where
  backed id entry hf := by
    cases (IdentityMap.find?_empty id).symm.trans hf
  distinct id id' entry entry' hf := by
    cases (IdentityMap.find?_empty id).symm.trans hf

theorem stocked_after (source : IdSource) (images : String → Option (List UInt8)) (limit : UInt64)
    (events : List Event) :
    ((start source (.start cards images) limit).after events).Stocked
      (lastByte ((start source (.start cards images) limit).dialogue events)) :=
  (stocked_start source images limit).after (provenance_start cards source images limit)
    (Simulator.allocated_start cards images).holdings events

/-! ## Accesses -/

/-- A request is answered with a value if a condition holds, and refused
without a trace otherwise. -/
def Admits (b : Broker cards) (request : Request) (condition : Prop)
    (value : request.operation.Value) : Prop :=
  (condition → (b.handle request).1 = .ofResult request.operation (.ok value)) ∧
  (¬ condition → b.handle request = (.ofResult request.operation (.error .invalidParam), b))

/-- What a live buffer answers to accesses through its owner. -/
structure Serves (b : Broker cards) (content : RemoteId → Nat → UInt8) (id : RemoteId)
    (entry : BufferEntry) : Prop where
  fill : ∀ offset byte count, b.Admits (.bufferFill entry.owner id offset byte count)
    (offset.toNat + count.toNat ≤ entry.length.toNat) ()
  write : ∀ offset source count, b.Admits (.bufferWrite entry.owner id offset source count)
    (count ≤ b.payloadLimit ∧ count.toNat ≤ source.length ∧
      offset.toNat + count.toNat ≤ entry.length.toNat) ()
  read : ∀ offset count, b.Admits (.bufferRead entry.owner id offset count)
    (count ≤ b.payloadLimit ∧ offset.toNat + count.toNat ≤ entry.length.toNat)
    (window (content id) offset.toNat count.toNat)
  /-- Two ranges compare as lists of bytes do in the lexicographic order. -/
  compare : ∀ otherId (other : BufferEntry), (b.registry.map .buffer).find? otherId = some other →
    other.owner = entry.owner → ∀ offset otherOffset count,
    b.Admits (.bufferCompare entry.owner id offset otherId otherOffset count)
      (offset.toNat + count.toNat ≤ entry.length.toNat ∧
        otherOffset.toNat + count.toNat ≤ other.length.toNat)
      (if window (content id) offset.toNat count.toNat <
          window (content otherId) otherOffset.toNat count.toNat then -1
        else if window (content id) offset.toNat count.toNat =
          window (content otherId) otherOffset.toNat count.toNat then 0
        else 1)
  pattern : ∀ name, b.Admits (.bufferPattern entry.owner id name) (FillPattern.IsName name) ()

end Broker

open Service

section

variable {b : Broker cards} {content : RemoteId → Nat → UInt8} {id : RemoteId}
  {handle : HandleEntry} {entry : BufferEntry} {memory : Memory} {offset count : UInt64}

theorem admits_of {request : Request} {condition : Prop} {value : request.operation.Value}
    (granted : condition → ∃ b', exec (request.serve b.payloadLimit) b = (.ok value, b'))
    (refused : ¬ condition → b.vet request = .error .invalidParam) :
    b.Admits request condition value := by
  constructor
  · intro h
    obtain ⟨b', he⟩ := granted h
    rw [Broker.handle_eq, he]
  · exact fun h => (Broker.handle_of_vet_error (refused h)).1

theorem exec_require_bind_of {condition : Prop} [Decidable condition] {α : Type} (h : condition)
    (fault : Fault) (next : Unit → Service α) :
    exec (require (decide condition) fault >>= next) b = exec (next ()) b := by
  rw [decide_eq_true h]
  rfl

theorem ensure_bind_of {condition : Prop} [Decidable condition] {α : Type} (h : condition)
    (fault : Fault) (next : Unit → Except Fault α) :
    (Broker.ensure (decide condition) fault >>= next) = next () := by
  rw [decide_eq_true h]
  rfl

theorem ensure_bind_of_not {condition : Prop} [Decidable condition] {α : Type} (h : ¬ condition)
    (fault : Fault) (next : Unit → Except Fault α) :
    (Broker.ensure (decide condition) fault >>= next) = .error fault := by
  rw [decide_eq_false h]
  rfl

theorem exec_bufferRead {native : NativeHandle} {workspace : Nat}
    (ha : b.device.armed .bufferRead = none)
    (hs : b.device.stored (native, workspace) = some memory)
    (h : offset.toNat + count.toNat ≤ memory.size) :
    exec (device (.bufferRead native workspace offset count)) b =
      (.ok (memory.slice offset.toNat count.toNat), b.recount (b.device.calls + 1)) := by
  rw [exec_device, Simulator.call_of_unarmed ha]
  exact congrArg (Prod.mk · _) (Simulator.readBuffer_eq hs h)

theorem exec_bufferWrite {native : NativeHandle} {workspace : Nat} {data : Memory}
    (ha : b.device.armed .bufferWrite = none)
    (hs : b.device.stored (native, workspace) = some memory)
    (h : offset.toNat + data.size ≤ memory.size) :
    ∃ b', exec (device (.bufferWrite native workspace offset data)) b = (.ok (), b') := by
  obtain ⟨t, ht⟩ := Simulator.writeBuffer_isOk hs h
  rw [exec_device, Simulator.call_of_unarmed ha]
  change ∃ b', ((b.device.commit (b.device.writeBuffer native workspace offset data)).1, _) = _
  rw [ht]
  exact ⟨_, rfl⟩

theorem sign_compareOfLessAndEq (left right : List UInt8) :
    sign (compareOfLessAndEq left right) =
      if left < right then -1 else if left = right then 0 else 1 := by
  unfold compareOfLessAndEq
  split
  · rfl
  · split <;> rfl

/-- A live buffer with the handle that owns it and the bytes that the driver
has for it. -/
structure Shelved (b : Broker cards) (content : Nat → UInt8) (id : RemoteId) (entry : BufferEntry)
    (handle : HandleEntry) (memory : Memory) : Prop where
  owner : (b.registry.map .handle).find? entry.owner = some handle
  live : (b.registry.map .buffer).find? id = some entry
  stored : b.device.stored (handle.handle, entry.workspace) = some memory
  size : memory.size = entry.length.toNat
  bytes : ∀ i < entry.length.toNat, memory.byte i = content i

theorem Broker.Stocked.shelved (h : b.Stocked content)
    (hf : (b.registry.map .buffer).find? id = some entry) :
    ∃ handle memory, Shelved b (content id) id entry handle memory := by
  obtain ⟨native, memory, hn, hs, hsize, hbytes⟩ := h.backed id entry hf
  obtain ⟨handle, hh, rfl⟩ := Option.map_eq_some_iff.mp hn
  exact ⟨handle, memory, hh, hf, hs, hsize, hbytes⟩

namespace Shelved

variable {bytes : Nat → UInt8} (h : Shelved b bytes id entry handle memory)

include h

theorem toList_memory : memory.toList = (List.range entry.length.toNat).map bytes := by
  rw [Memory.toList, h.size]
  exact List.map_congr_left fun i hi => h.bytes i (List.mem_range.mp hi)

theorem toList_slice (hrange : offset.toNat + count.toNat ≤ entry.length.toNat) :
    (memory.slice offset.toNat count.toNat).toList = window bytes offset.toNat count.toNat := by
  rw [Memory.toList_slice]
  refine List.map_congr_left fun i hi => h.bytes _ ?_
  have hlt := List.mem_range.mp hi
  omega

theorem exec_range (hrange : offset.toNat + count.toNat ≤ entry.length.toNat) :
    exec (bufferRange entry.owner id offset count) b = (.ok (handle, entry), b) := by
  have hcovers : entry.covers offset count = true := decide_eq_true hrange
  rw [exec_bufferRange h.owner h.live, if_neg (fun hne => hne rfl), if_pos hcovers]

theorem vetRange_eq : b.vetRange entry.owner id offset count =
    Broker.ensure (decide (offset.toNat + count.toNat ≤ entry.length.toNat)) .invalidParam := by
  rw [Broker.vetRange_of_some h.owner h.live, if_pos rfl]
  rfl

theorem vetRange_of_not_le (hrange : ¬ offset.toNat + count.toNat ≤ entry.length.toNat) :
    b.vetRange entry.owner id offset count = .error .invalidParam := by
  rw [h.vetRange_eq, decide_eq_false hrange]
  rfl

theorem exec_read (ha : b.device.armed .bufferRead = none)
    (hrange : offset.toNat + count.toNat ≤ entry.length.toNat) :
    exec (device (.bufferRead handle.handle entry.workspace offset count)) b =
      (.ok (memory.slice offset.toNat count.toNat), b.recount (b.device.calls + 1)) :=
  exec_bufferRead ha h.stored (h.size ▸ hrange)

theorem fill (ha : b.device.armed .bufferWrite = none) (offset : UInt64) (byte : UInt8)
    (count : UInt64) : b.Admits (.bufferFill entry.owner id offset byte count)
      (offset.toNat + count.toNat ≤ entry.length.toNat) () := by
  refine admits_of (fun hrange => ?_) fun hrange => h.vetRange_of_not_le hrange
  have hsize : offset.toNat + (Memory.fill count.toNat byte).size ≤ memory.size := h.size ▸ hrange
  obtain ⟨b', hwrite⟩ := exec_bufferWrite ha h.stored hsize
  exact ⟨b', (exec_bind_of_ok _ (h.exec_range hrange)).trans hwrite⟩

theorem write (ha : b.device.armed .bufferWrite = none) (offset : UInt64) (source : List UInt8)
    (count : UInt64) : b.Admits (.bufferWrite entry.owner id offset source count)
      (count ≤ b.payloadLimit ∧ count.toNat ≤ source.length ∧
        offset.toNat + count.toNat ≤ entry.length.toNat) () := by
  refine admits_of (fun ⟨hlimit, hlength, hrange⟩ => ?_) fun hcondition => ?_
  · have hsize : offset.toNat + (Memory.ofList (source.take count.toNat)).size ≤ memory.size := by
      rwa [Memory.size_ofList, List.length_take_of_le hlength, h.size]
    obtain ⟨b', hwrite⟩ := exec_bufferWrite ha h.stored hsize
    refine ⟨b', (exec_require_bind_of hlimit _ _).trans ?_⟩
    refine (exec_require_bind_of hlength _ _).trans ?_
    exact (exec_bind_of_ok _ (h.exec_range hrange)).trans hwrite
  · by_cases hlimit : count ≤ b.payloadLimit
    · refine (ensure_bind_of hlimit _ _).trans ?_
      by_cases hlength : count.toNat ≤ source.length
      · refine (ensure_bind_of hlength _ _).trans ?_
        exact h.vetRange_of_not_le fun hrange => hcondition ⟨hlimit, hlength, hrange⟩
      · exact ensure_bind_of_not hlength _ _
    · exact ensure_bind_of_not hlimit _ _

theorem read (ha : b.device.armed .bufferRead = none) (offset count : UInt64) :
    b.Admits (.bufferRead entry.owner id offset count)
      (count ≤ b.payloadLimit ∧ offset.toNat + count.toNat ≤ entry.length.toNat)
      (window bytes offset.toNat count.toNat) := by
  refine admits_of (fun ⟨hlimit, hrange⟩ => ?_) fun hcondition => ?_
  · have hserve : exec (Request.serve b.payloadLimit (.bufferRead entry.owner id offset count)) b =
        _ :=
      (exec_require_bind_of hlimit _ _).trans <|
        (exec_bind_of_ok _ (h.exec_range hrange)).trans (exec_bind_of_ok _ (h.exec_read ha hrange))
    rw [hserve, exec_pure, h.toList_slice hrange, List.take_of_length_le (by simp [window])]
    exact ⟨_, rfl⟩
  · by_cases hlimit : count ≤ b.payloadLimit
    · refine (ensure_bind_of hlimit _ _).trans ?_
      exact h.vetRange_of_not_le fun hrange => hcondition ⟨hlimit, hrange⟩
    · exact ensure_bind_of_not hlimit _ _

theorem compare (ha : b.device.armed .bufferRead = none) {otherId : RemoteId}
    {other : BufferEntry} {otherHandle : HandleEntry} {otherMemory : Memory}
    {otherBytes : Nat → UInt8}
    (ho : Shelved b otherBytes otherId other otherHandle otherMemory)
    (howner : other.owner = entry.owner) (offset otherOffset count : UInt64) :
    b.Admits (.bufferCompare entry.owner id offset otherId otherOffset count)
      (offset.toNat + count.toNat ≤ entry.length.toNat ∧
        otherOffset.toNat + count.toNat ≤ other.length.toNat)
      (if window bytes offset.toNat count.toNat < window otherBytes otherOffset.toNat count.toNat
        then -1
        else if window bytes offset.toNat count.toNat =
          window otherBytes otherOffset.toNat count.toNat then 0
        else 1) := by
  obtain rfl : otherHandle = handle :=
    Option.some.inj (ho.owner.symm.trans (howner ▸ h.owner))
  refine admits_of (fun ⟨hleft, hright⟩ => ?_) fun hcondition => ?_
  · have hsecond := exec_bufferRead (b := b.recount (b.device.calls + 1)) ha ho.stored
      (ho.size ▸ hright)
    have hserve : exec (Request.serve b.payloadLimit
        (.bufferCompare entry.owner id offset otherId otherOffset count)) b = _ :=
      (exec_bind_of_ok _ (h.exec_range hleft)).trans <|
        (exec_bind_of_ok _ (howner ▸ ho.exec_range hright)).trans <|
          (exec_bind_of_ok _ (h.exec_read ha hleft)).trans (exec_bind_of_ok _ hsecond)
    rw [hserve, exec_pure, Memory.compareLex_eq, sign_compareOfLessAndEq, h.toList_slice hleft,
      ho.toList_slice hright]
    exact ⟨_, rfl⟩
  · change (b.vetRange entry.owner id offset count >>= fun _ =>
      b.vetRange entry.owner otherId otherOffset count) = _
    rw [h.vetRange_eq]
    by_cases hleft : offset.toNat + count.toNat ≤ entry.length.toNat
    · rw [ensure_bind_of hleft, ← howner]
      exact ho.vetRange_of_not_le fun hright => hcondition ⟨hleft, hright⟩
    · exact ensure_bind_of_not hleft _ _

theorem pattern (ha : b.device.armed .bufferWrite = none) (name : String) :
    b.Admits (.bufferPattern entry.owner id name) (FillPattern.IsName name) () := by
  have howned : exec (lookupOwned .buffer id entry.owner) b = (.ok entry, b) := by
    rw [exec_lookupOwned, h.live]
    exact if_pos rfl
  have hserve : exec (Request.serve b.payloadLimit (.bufferPattern entry.owner id name)) b = _ :=
    (exec_bind_of_ok _ (exec_lookup_of_some h.owner)).trans (exec_bind_of_ok _ howned)
  refine admits_of (fun hsome => ?_) fun hnone => ?_
  · obtain ⟨pattern, hname⟩ :=
      Option.isSome_iff_exists.mp ((FillPattern.isSome_ofName?_iff name).mpr hsome)
    have hsize : (0 : UInt64).toNat + (pattern.fill entry.length.toNat).size ≤ memory.size := by
      rw [h.size]
      exact Nat.le_of_eq (Nat.zero_add _)
    obtain ⟨b', hwrite⟩ := exec_bufferWrite ha h.stored hsize
    rw [hserve, hname]
    exact ⟨b', hwrite⟩
  · refine (Broker.resolve_bind_of_some h.owner _).trans ?_
    refine (Broker.resolveOwned_bind_of_some h.live _ _).trans ((if_pos rfl).trans ?_)
    rw [Bool.eq_false_iff.mpr fun hsome => hnone ((FillPattern.isSome_ofName?_iff name).mp hsome)]
    rfl

end Shelved

end

namespace Broker

/-- A broker that holds what is expected serves its buffers as arrays of bytes. -/
theorem Stocked.serves {b : Broker cards} {content : RemoteId → Nat → UInt8}
    (h : b.Stocked content) (unarmed : ∀ kind, b.device.armed kind = none) {id : RemoteId}
    {entry : BufferEntry} (live : (b.registry.map .buffer).find? id = some entry) :
    b.Serves content id entry := by
  obtain ⟨handle, memory, hshelved⟩ := h.shelved live
  constructor
  case fill => exact hshelved.fill (unarmed _)
  case write => exact hshelved.write (unarmed _)
  case read => exact hshelved.read (unarmed _)
  case pattern => exact hshelved.pattern (unarmed _)
  case compare =>
    intro otherId other hother howner
    obtain ⟨_, _, hcompared⟩ := h.shelved hother
    exact hshelved.compare (unarmed _) hcompared howner

/-- What a live buffer holds: as many bytes as were declared, each the last one
that was written at its position. -/
def Holds (b : Broker cards) (content : Nat → UInt8) (entry : BufferEntry) : Prop :=
  ∃ handle memory, (b.registry.map .handle).find? entry.owner = some handle ∧
    b.device.stored (handle.handle, entry.workspace) = some memory ∧
    memory.toList = (List.range entry.length.toNat).map content

/-- Along every history a live buffer is an array of bytes: it holds the last
bytes that were written to it, and while no failure is armed its owner has
access to them wherever the array has bytes. -/
theorem sharedArray_after (source : IdSource) (images : String → Option (List UInt8))
    (limit : UInt64) (events : List Event) {id : RemoteId} {entry : BufferEntry}
    (live : (((start source (.start cards images) limit).after events).registry.map .buffer).find?
      id = some entry) :
    ((start source (.start cards images) limit).after events).Holds
        (lastByte ((start source (.start cards images) limit).dialogue events) id) entry ∧
      ((∀ kind,
          ((start source (.start cards images) limit).after events).device.armed kind = none) →
        ((start source (.start cards images) limit).after events).Serves
          (lastByte ((start source (.start cards images) limit).dialogue events)) id entry) := by
  have hstocked := @stocked_after cards source images limit events
  obtain ⟨handle, memory, hshelved⟩ := hstocked.shelved live
  exact ⟨⟨handle, memory, hshelved.owner, hshelved.stored, hshelved.toList_memory⟩,
    fun unarmed => hstocked.serves unarmed live⟩

/-- Two buffers of one handle. The first is filled with a pattern, and then a part of it and
one byte of that part are written again; the second is filled. -/
def overwriting : List Request :=
  [.enumerate [] 2, .openHandle ⟨7, 2⟩ 0, .prepareBuffer ⟨7, 3⟩ 8 none 0,
    .prepareBuffer ⟨7, 3⟩ 8 none 0, .bufferPattern ⟨7, 3⟩ ⟨7, 4⟩ "DeadBeef",
    .bufferFill ⟨7, 3⟩ ⟨7, 4⟩ 2 5 3, .bufferWrite ⟨7, 3⟩ ⟨7, 4⟩ 3 [9, 1] 1,
    .bufferFill ⟨7, 3⟩ ⟨7, 5⟩ 0 255 8]

def overwritten : Broker 1 :=
  (start (.seeded 7) (.start 1 fun _ => none) 4096).after (overwriting.map .serve)

/-- The first buffer is read, found to be less than the second, and filled with another
pattern. A name that is not in the table is refused. -/
theorem sharedArray_of_two_writes :
    (overwritten.registry.map .buffer).find? ⟨7, 4⟩ =
        some ⟨⟨7, 3⟩, 8, 0, 1, 139638043836416⟩ ∧
      (overwritten.handle (.bufferRead ⟨7, 3⟩ ⟨7, 4⟩ 0 8)).1 =
        .ofResult .bufferRead (.ok [0xef, 0xbe, 5, 9, 5, 0xbe, 0xad, 0xde]) ∧
      (overwritten.handle (.bufferCompare ⟨7, 3⟩ ⟨7, 4⟩ 1 ⟨7, 5⟩ 0 4)).1 =
        .ofResult .bufferCompare (.ok (-1)) ∧
      (overwritten.handle (.bufferPattern ⟨7, 3⟩ ⟨7, 4⟩ "INCR")).1 =
        .ofResult .bufferPattern (.ok ()) ∧
      (overwritten.handle (.bufferPattern ⟨7, 3⟩ ⟨7, 4⟩ "walking-ones")).1 =
        .ofResult .bufferPattern (.error .invalidParam) := by
  have live : (overwritten.registry.map .buffer).find? ⟨7, 4⟩ =
      some ⟨⟨7, 3⟩, 8, 0, 1, 139638043836416⟩ := by decide +kernel
  have live' : (overwritten.registry.map .buffer).find? ⟨7, 5⟩ =
      some ⟨⟨7, 3⟩, 8, 0, 2, 139638110945280⟩ := by decide +kernel
  have limit : overwritten.payloadLimit = 4096 := by decide +kernel
  have hserves : overwritten.Serves _ ⟨7, 4⟩ _ :=
    (@sharedArray_after 1 (.seeded 7) (fun _ => none) 4096 (overwriting.map .serve) ⟨7, 4⟩ _
      live).2 fun kind => unarmed_after_map_serve rfl overwriting
  have hread := (hserves.read 0 8).1 ⟨limit ▸ by decide, by decide⟩
  have hcompare := (hserves.compare ⟨7, 5⟩ _ live' rfl 1 0 4).1 ⟨by decide, by decide⟩
  have hnamed := (hserves.pattern "INCR").1 (by decide)
  have hrefused := (hserves.pattern "walking-ones").2 (by decide)
  refine ⟨live, hread.trans ?bytes, hcompare.trans ?order, hnamed, congrArg Prod.fst hrefused⟩
  case bytes =>
    exact congrArg (fun bytes => Reply.ofResult .bufferRead (.ok bytes)) (by decide +kernel)
  case order =>
    exact congrArg (fun order => Reply.ofResult .bufferCompare (.ok order)) (by decide +kernel)

end Broker

end DeviceBroker
