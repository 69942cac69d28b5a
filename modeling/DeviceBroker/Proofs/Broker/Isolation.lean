import DeviceBroker.Proofs.Broker.Trace
import DeviceBroker.Proofs.Broker.Vetting

/-!
# Isolation of owners

A handle gives access to its own children only. A request that names a mapping
or a buffer through a live handle that does not own it is answered by the
broker alone, without a trace; and whenever the driver is called with a child,
in a history of requests served one after another, that child was created
through the very handle that the request names.
-/

namespace DeviceBroker.Broker

variable {cards : Nat}

/-- A request names something live through a live handle that does not own it. -/
structure Foreign (b : Broker cards) (request : Request) (handleId : RemoteId)
    (cls : ResourceClass) (id : RemoteId) : Prop where
  names_handle : (.handle, handleId) ∈ request.references
  names : (cls, id) ∈ request.references
  live : ∃ handle, (b.registry.map .handle).find? handleId = some handle
  owned : ∃ entry owner, (b.registry.map cls).find? id = some entry ∧
    cls.owner? entry = some owner ∧ owner ≠ handleId

/-- The fault that a request is answered with that names what another handle
owns. It is `notFound`, unless something is looked at before the owner: the
size of the payload, the width of the word, the first range of a comparison,
and, where something is to be destroyed, whether somebody else is about it. -/
def mismatch (b : Broker cards) : Request → Fault
  | .unmapMmio _ mappingId _ =>
    if (b.registry.map .mapping).claimed mappingId then .busy else .notFound
  | .releaseBuffer _ bufferId =>
    if (b.registry.map .buffer).claimed bufferId then .busy else .notFound
  | .bufferWrite _ _ _ source count =>
    if count ≤ b.payloadLimit ∧ count.toNat ≤ source.length then .notFound else .invalidParam
  | .bufferRead _ _ _ count => if count ≤ b.payloadLimit then .notFound else .invalidParam
  | .bufferPoll _ _ _ width _ _ _ _ =>
    if width ∈ Service.pollWidths then .notFound else .invalidParam
  | .bufferCompare handleId firstId firstOffset _ _ count =>
    match (b.registry.map .buffer).find? firstId with
    | none => .invalidParam
    | some first =>
      if first.owner = handleId ∧ first.covers firstOffset count = false then .invalidParam
      else .notFound
  | _ => .notFound

variable {b : Broker cards} {request : Request} {handleId id : RemoteId} {cls : ResourceClass}

/-- What is foreign is a child, so it is not the handle that the request names. -/
theorem Foreign.names_of_pair {one two : RemoteId} {kind : ResourceClass}
    (h : b.Foreign request handleId cls id)
    (hrefs : request.references = [(.handle, one), (kind, two)]) : (cls, id) = (kind, two) := by
  have hnames := h.names
  rw [hrefs] at hnames
  rcases List.mem_pair.mp hnames with heq | heq
  · obtain ⟨rfl, -⟩ := Prod.mk.inj heq
    obtain ⟨entry, owner, -, ho, -⟩ := h.owned
    cases ho
  · exact heq

/-- The two references of a request that names a child of a handle. -/
theorem Foreign.of_pair {one two : RemoteId} {kind : ResourceClass}
    (h : b.Foreign request handleId cls id)
    (hrefs : request.references = [(.handle, one), (kind, two)]) (hkind : kind ≠ .handle) :
    (∃ handle, (b.registry.map .handle).find? one = some handle) ∧
      ∃ entry owner, (b.registry.map kind).find? two = some entry ∧
        kind.owner? entry = some owner ∧ owner ≠ one := by
  obtain ⟨rfl, rfl⟩ := Prod.mk.inj (h.names_of_pair hrefs)
  have hhandle := h.names_handle
  rw [hrefs] at hhandle
  rcases List.mem_pair.mp hhandle with heq | heq
  · obtain ⟨-, rfl⟩ := Prod.mk.inj heq
    exact ⟨h.live, h.owned⟩
  · exact absurd (Prod.mk.inj heq).1.symm hkind

theorem Foreign.buffer {one two : RemoteId} (h : b.Foreign request handleId cls id)
    (hrefs : request.references = [(.handle, one), (.buffer, two)]) :
    ∃ handle buffer, (b.registry.map .handle).find? one = some handle ∧
      (b.registry.map .buffer).find? two = some buffer ∧ buffer.owner ≠ one := by
  obtain ⟨⟨handle, hh⟩, buffer, owner, hf, ho, hne⟩ := h.of_pair hrefs (by decide)
  obtain rfl := Option.some.inj ho
  exact ⟨handle, buffer, hh, hf, hne⟩

/-- The fault is `notFound`, unless a check of the arguments comes first, or
what is to be destroyed is already being destroyed. -/
theorem mismatch_cases (h : b.Foreign request handleId cls id) :
    b.mismatch request = .notFound ∨
    b.mismatch request = .invalidParam ∧
      request.operation ∈ [.bufferWrite, .bufferRead, .bufferPoll, .bufferCompare] ∨
    b.mismatch request = .busy ∧ request.operation ∈ [.unmapMmio, .releaseBuffer] ∧
      (b.registry.map cls).claimed id = true := by
  cases request with
  | unmapMmio one mappingId region =>
    obtain ⟨rfl, rfl⟩ := Prod.mk.inj (h.names_of_pair rfl)
    rw [mismatch]
    split
    · rename_i hc
      exact .inr (.inr ⟨rfl, by simp [Request.operation], hc⟩)
    · exact .inl rfl
  | releaseBuffer one bufferId =>
    obtain ⟨rfl, rfl⟩ := Prod.mk.inj (h.names_of_pair rfl)
    rw [mismatch]
    split
    · rename_i hc
      exact .inr (.inr ⟨rfl, by simp [Request.operation], hc⟩)
    · exact .inl rfl
  | bufferWrite | bufferRead | bufferPoll =>
    rw [mismatch]
    split
    · exact .inl rfl
    · exact .inr (.inl ⟨rfl, by simp [Request.operation]⟩)
  | bufferCompare =>
    rw [mismatch]
    split
    · exact .inr (.inl ⟨rfl, by simp [Request.operation]⟩)
    · split
      · exact .inr (.inl ⟨rfl, by simp [Request.operation]⟩)
      · exact .inl rfl
  | _ => exact .inl rfl

/-- A comparison that names a foreign buffer: the first range is looked at
before the second, which then has to be the foreign one. -/
theorem vet_compare_of_foreign {firstId secondId : RemoteId}
    {firstOffset secondOffset count : UInt64}
    (h : b.Foreign (.bufferCompare handleId firstId firstOffset secondId secondOffset count)
      handleId cls id) :
    b.vet (.bufferCompare handleId firstId firstOffset secondId secondOffset count) =
      .error (b.mismatch
        (.bufferCompare handleId firstId firstOffset secondId secondOffset count)) := by
  obtain ⟨-, hnames, ⟨handle, hh⟩, entry, owner, hf, ho, hne⟩ := h
  rw [vet, mismatch]
  cases hfirst : (b.registry.map .buffer).find? firstId with
  | none =>
    rw [vetRange_of_none hh hfirst]
    rfl
  | some first =>
    rw [vetRange_of_some hh hfirst]
    by_cases hown : first.owner = handleId
    · rw [if_pos hown, ensure_bind]
      cases hcovers : first.covers firstOffset count with
      | false => simp [hown, hcovers]
      | true =>
        have hsecond : (cls, id) = (.buffer, secondId) := by
          simp only [Request.references, List.mem_cons, List.not_mem_nil, or_false] at hnames
          rcases hnames with heq | heq | heq
          · obtain ⟨rfl, -⟩ := Prod.mk.inj heq
            cases ho
          · obtain ⟨rfl, rfl⟩ := Prod.mk.inj heq
            obtain rfl := Option.some.inj (hfirst.symm.trans hf)
            exact absurd (hown.symm.trans (Option.some.inj ho)) hne.symm
          · exact heq
        obtain ⟨rfl, rfl⟩ := Prod.mk.inj hsecond
        obtain rfl := Option.some.inj ho
        rw [vetRange_of_some hh hf, if_neg hne]
        simp [hcovers]
    · rw [if_neg hown]
      exact congrArg Except.error (if_neg fun both => hown both.1).symm

theorem vet_of_foreign (h : b.Foreign request handleId cls id) :
    b.vet request = .error (b.mismatch request) := by
  cases request with
  | unmapMmio handleId mappingId region =>
    obtain ⟨⟨handle, hh⟩, entry, owner, hf, ho, hne⟩ := h.of_pair rfl (by decide)
    obtain rfl := Option.some.inj ho
    rw [vet, resolve_bind_of_some hh, resolveUnclaimed_bind_of_some hf, ensure_bind, mismatch]
    split
    · rfl
    · exact if_neg (by simpa using hne)
  | releaseBuffer handleId bufferId =>
    obtain ⟨handle, buffer, hh, hf, hne⟩ := h.buffer rfl
    rw [vet, resolve_bind_of_some hh, resolveUnclaimed_bind_of_some hf, mismatch]
    split
    · rfl
    · exact if_neg (by simpa using hne)
  | getIoAddress handleId bufferId =>
    obtain ⟨handle, buffer, hh, hf, hne⟩ := h.buffer rfl
    rw [vet, resolve_bind_of_some hh, resolveOwned_bind_of_some hf]
    exact if_neg fun heq => hne (Option.some.inj heq)
  | bufferPattern handleId bufferId pattern =>
    obtain ⟨handle, buffer, hh, hf, hne⟩ := h.buffer rfl
    rw [vet, resolve_bind_of_some hh, resolveOwned_bind_of_some hf]
    exact if_neg fun heq => hne (Option.some.inj heq)
  | bufferFill handleId bufferId offset byte count =>
    obtain ⟨handle, buffer, hh, hf, hne⟩ := h.buffer rfl
    rw [vet, vetRange_of_some hh hf, if_neg hne]
    rfl
  | bufferWrite handleId bufferId offset source count =>
    obtain ⟨handle, buffer, hh, hf, hne⟩ := h.buffer rfl
    rw [vet, ensure_bind, ensure_bind, vetRange_of_some hh hf, if_neg hne, mismatch]
    by_cases hlimit : count ≤ b.payloadLimit
    · by_cases hlength : count.toNat ≤ source.length <;> simp [hlimit, hlength]
    · simp [hlimit]
  | bufferRead handleId bufferId offset count =>
    obtain ⟨handle, buffer, hh, hf, hne⟩ := h.buffer rfl
    rw [vet, ensure_bind, vetRange_of_some hh hf, if_neg hne, mismatch]
    by_cases hlimit : count ≤ b.payloadLimit <;> simp [hlimit]
  | bufferPoll handleId bufferId offset width mask expected sleepMicros attempts =>
    obtain ⟨handle, buffer, hh, hf, hne⟩ := h.buffer rfl
    rw [vet, ensure_bind, vetRange_of_some hh hf, if_neg hne, mismatch]
    by_cases hwidth : width ∈ Service.pollWidths <;> simp [hwidth]
  | bufferCompare one firstId firstOffset secondId secondOffset count =>
    obtain rfl : handleId = one := by simpa [Request.references] using h.names_handle
    exact vet_compare_of_foreign h
  | enumerate filters maxTokens =>
    obtain ⟨filter, -, heq⟩ := List.mem_filterMap.mp h.names_handle
    obtain ⟨parent, -, heq⟩ := Option.map_eq_some_iff.mp heq
    cases heq
  | _ =>
    obtain ⟨-, hnames, -, entry, owner, -, ho, -⟩ := h
    obtain ⟨rfl, -⟩ := Prod.mk.inj (List.mem_singleton.mp hnames)
    cases ho

/-- Owners are isolated. A request that names what another handle owns is
refused and leaves everything as it was, without a call of the driver. And
whenever a request of a history calls the driver with a child, the call has the
native value of the live handle that the request names, and the child was
created through this handle. -/
theorem isolated (cards : Nat) :
    (∀ (b : Broker cards) (request : Request) (handleId : RemoteId) (cls : ResourceClass)
      (id : RemoteId), b.Foreign request handleId cls id →
      b.handle request = (.answer request.operation (.error (b.mismatch request)), b) ∧
        (request.program b.payloadLimit).calls b = [] ∧
        (b.mismatch request = .notFound ∨
        b.mismatch request = .invalidParam ∧
          request.operation ∈ [.bufferWrite, .bufferRead, .bufferPoll, .bufferCompare] ∨
        b.mismatch request = .busy ∧ request.operation ∈ [.unmapMmio, .releaseBuffer] ∧
          (b.registry.map cls).claimed id = true)) ∧
    ∀ (source : IdSource) (images : String → Option (List UInt8)) (limit : UInt64)
      (events : List Event) (request : Request) (before later : List Exchange) (x : Exchange)
      (native : NativeHandle) (child : Child),
      (request.program limit).exchanges ((start source (.start cards images) limit).after events) =
        before ++ x :: later →
      x.call.child? = some (native, child) →
      ∃ handleId handle, request.handle? = some handleId ∧
        (((start source (.start cards images) limit).after events).registry.map .handle).find?
          handleId = some handle ∧
        handle.handle = native ∧
        Created ((start source (.start cards images) limit).trace events ++
          before.map (Record.mk request)) handleId native child := by
  refine ⟨fun b request handleId cls id foreign => ?_, ?_⟩
  · obtain ⟨hhandle, hcalls⟩ := handle_of_vet_error (vet_of_foreign foreign)
    exact ⟨hhandle, hcalls, mismatch_cases foreign⟩
  intro source images limit events request before later x native child hx hchild
  obtain ⟨handleId, hr, hn, hcreated⟩ :=
    backed_after source images limit events request hx native child hchild
  obtain ⟨handle, hlive, hnative⟩ := Option.map_eq_some_iff.mp hn
  exact ⟨handleId, handle, hr, hlive, hnative, hcreated⟩

/-- Two handles, of which the first has a buffer. -/
def neighbours : List Event :=
  [.serve (.enumerate [] 2), .serve (.openHandle ⟨7, 2⟩ 0), .serve (.openHandle ⟨7, 1⟩ 0),
    .serve (.prepareBuffer ⟨7, 3⟩ 4096 none 0)]

/-- The second handle may not release the buffer, and the first reads from it. -/
theorem isolated_neighbours :
    ((start (.seeded 7) (.start 1 fun _ => none) 4096).after neighbours).handle
        (.releaseBuffer ⟨7, 4⟩ ⟨7, 5⟩) =
      (.answer .releaseBuffer (.error .notFound),
        (start (.seeded 7) (.start 1 fun _ => none) 4096).after neighbours) ∧
    ∃ native child,
      (((Request.bufferRead ⟨7, 3⟩ ⟨7, 5⟩ 0 16).program 4096).exchanges
        ((start (.seeded 7) (.start 1 fun _ => none) 4096).after neighbours)).map
          (fun x => x.call.child?) = [some (native, child)] ∧
      Created ((start (.seeded 7) (.start 1 fun _ => none) 4096).trace neighbours)
        ⟨7, 3⟩ native child := by
  have foreign : ((start (.seeded 7) (.start 1 fun _ => none) 4096).after neighbours).Foreign
      (.releaseBuffer ⟨7, 4⟩ ⟨7, 5⟩) ⟨7, 4⟩ .buffer ⟨7, 5⟩ :=
    ⟨by decide, by decide, ⟨_, rfl⟩, _, _, rfl, rfl, by decide⟩
  refine ⟨((isolated 1).1 _ _ _ _ _ foreign).1, _, _, rfl, ?_⟩
  obtain ⟨handleId, handle, hr, hlive, -, hcreated⟩ :=
    (isolated 1).2 (.seeded 7) (fun _ => none) 4096 neighbours (.bufferRead ⟨7, 3⟩ ⟨7, 5⟩ 0 16)
      [] [] _ _ _ rfl rfl
  obtain rfl : ⟨7, 3⟩ = handleId := Option.some.inj hr
  exact hcreated

end DeviceBroker.Broker
