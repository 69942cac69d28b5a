import DeviceBroker.Proofs.Broker.Execution
import DeviceBroker.Proofs.Broker.Workload

/-!
# Requests with dangling references

A request references resources by identifier, and a reference dangles if its
identifier does not resolve in the map of its class. One such reference is
enough for the request to be refused, whichever of the references it is and
whatever the others resolve to; then neither the registry nor the driver has
changed, and in particular the driver was not called and no claim is left.
-/

namespace DeviceBroker

variable {cards : Nat} {α β : Type}

/-- The identifiers that a request references, with their classes, in the order
in which they are resolved. -/
def Request.references : Request → List (ResourceClass × RemoteId)
  | .enumerate filters _ => filters.filterMap fun filter => filter.parent.map (Prod.mk .token)
  | .destroyToken tokenId => [(.token, tokenId)]
  | .cloneToken sourceId => [(.token, sourceId)]
  | .getProperties tokenId => [(.token, tokenId)]
  | .updateProperties tokenId => [(.token, tokenId)]
  | .openHandle tokenId _ => [(.token, tokenId)]
  | .closeHandle handleId => [(.handle, handleId)]
  | .resetHandle handleId => [(.handle, handleId)]
  | .getHandleProperties handleId => [(.handle, handleId)]
  | .mapMmio handleId _ => [(.handle, handleId)]
  | .unmapMmio handleId mappingId _ => [(.handle, handleId), (.mapping, mappingId)]
  | .readMmio32 handleId _ _ => [(.handle, handleId)]
  | .writeMmio32 handleId _ _ _ => [(.handle, handleId)]
  | .readMmio64 handleId _ _ => [(.handle, handleId)]
  | .writeMmio64 handleId _ _ _ => [(.handle, handleId)]
  | .readMmio512 handleId _ _ => [(.handle, handleId)]
  | .writeMmio512 handleId _ _ _ => [(.handle, handleId)]
  | .prepareBuffer handleId _ _ _ => [(.handle, handleId)]
  | .releaseBuffer handleId bufferId => [(.handle, handleId), (.buffer, bufferId)]
  | .getIoAddress handleId bufferId => [(.handle, handleId), (.buffer, bufferId)]
  | .readError tokenId _ => [(.token, tokenId)]
  | .getErrorInfo tokenId _ => [(.token, tokenId)]
  | .clearError tokenId _ => [(.token, tokenId)]
  | .clearAllErrors tokenId => [(.token, tokenId)]
  | .tokenGetObject tokenId _ _ => [(.token, tokenId)]
  | .handleGetObject handleId _ _ => [(.handle, handleId)]
  | .destroyObject objectId => [(.object, objectId)]
  | .objectGetType objectId => [(.object, objectId)]
  | .objectGetName objectId => [(.object, objectId)]
  | .objectGetSize objectId _ => [(.object, objectId)]
  | .objectRead objectId _ _ _ => [(.object, objectId)]
  | .objectRead64 objectId _ => [(.object, objectId)]
  | .objectWrite64 objectId _ _ => [(.object, objectId)]
  | .objectGetObject objectId _ _ => [(.object, objectId)]
  | .objectGetObjectAt objectId _ => [(.object, objectId)]
  | .setUserClock handleId _ _ _ => [(.handle, handleId)]
  | .getUserClock handleId _ => [(.handle, handleId)]
  | .getNumMetrics handleId => [(.handle, handleId)]
  | .getMetricsInfo handleId _ => [(.handle, handleId)]
  | .getMetricsByIndex handleId _ => [(.handle, handleId)]
  | .getMetricsByName handleId _ => [(.handle, handleId)]
  | .getMetricThresholds handleId _ => [(.handle, handleId)]
  | .reconfigureSlot handleId _ _ _ => [(.handle, handleId)]
  | .bufferFill handleId bufferId _ _ _ => [(.handle, handleId), (.buffer, bufferId)]
  | .bufferWrite handleId bufferId _ _ _ => [(.handle, handleId), (.buffer, bufferId)]
  | .bufferRead handleId bufferId _ _ => [(.handle, handleId), (.buffer, bufferId)]
  | .bufferPoll handleId bufferId _ _ _ _ _ _ => [(.handle, handleId), (.buffer, bufferId)]
  | .bufferCompare handleId firstId _ secondId _ _ =>
    [(.handle, handleId), (.buffer, firstId), (.buffer, secondId)]
  | .bufferPattern handleId bufferId _ => [(.handle, handleId), (.buffer, bufferId)]

/-- The fault that a request with a dangling reference is refused with. It is
`notFound` only for a comparison whose first buffer is live and belongs to
another handle. -/
def Broker.refusal (b : Broker cards) : Request → Fault
  | .bufferCompare handleId firstId _ _ _ _ =>
    match (b.registry.map .handle).find? handleId, (b.registry.map .buffer).find? firstId with
    | some _, some first => if first.owner = handleId then .invalidParam else .notFound
    | _, _ => .invalidParam
  | _ => .invalidParam

namespace Service

/-- A service that fails and leaves the broker as it was. -/
def Refuses (s : Service α) (b : Broker cards) (fault : Fault) : Prop :=
  exec s b = (.error fault, b)

variable {b : Broker cards} {fault : Fault}

theorem Refuses.bind {s : Service α} (h : Refuses s b fault) (next : α → Service β) :
    Refuses (s >>= next) b fault :=
  exec_bind_of_error next h

theorem refuses_lookup {cls : ResourceClass} {id : RemoteId}
    (h : (b.registry.map cls).find? id = none) : Refuses (lookup cls id) b .invalidParam :=
  exec_lookup_of_none h

theorem refuses_lookup_bind {cls : ResourceClass} {id : RemoteId} {next : cls.Entry → Service α}
    (h : ∀ entry, (b.registry.map cls).find? id = some entry →
      Refuses (next entry) b .invalidParam) :
    Refuses (lookup cls id >>= next) b .invalidParam := by
  cases hf : (b.registry.map cls).find? id with
  | none => exact (refuses_lookup hf).bind next
  | some entry =>
      unfold Refuses
      rw [exec_bind_of_ok next (exec_lookup_of_some hf)]
      exact h entry hf

theorem refuses_require_bind {condition : Bool} {next : Unit → Service α}
    (h : Refuses (next ()) b .invalidParam) :
    Refuses (require condition .invalidParam >>= next) b .invalidParam := by
  unfold Refuses
  rw [exec_require_bind]
  split
  · exact h
  · rfl

theorem refuses_lookupOwned {cls : ResourceClass} {id : RemoteId} (owner : RemoteId)
    (h : (b.registry.map cls).find? id = none) :
    Refuses (lookupOwned cls id owner) b .invalidParam := by
  unfold Refuses
  rw [exec_lookupOwned, h]

theorem refuses_teardown {cls : ResourceClass} {id : RemoteId}
    (destroy : cls.Entry → Service Unit) (h : (b.registry.map cls).find? id = none) :
    Refuses (teardown cls id destroy) b .invalidParam :=
  exec_teardown_of_none destroy h

/-- Where one of two references dangles, the second does once the first is looked up. -/
theorem refuses_lookup_bind_of_or {one two : ResourceClass} {i j : RemoteId}
    {next : one.Entry → Service α}
    (h : (b.registry.map one).find? i = none ∨ (b.registry.map two).find? j = none)
    (hnext : ∀ entry, (b.registry.map two).find? j = none → Refuses (next entry) b .invalidParam) :
    Refuses (lookup one i >>= next) b .invalidParam := by
  apply refuses_lookup_bind
  intro entry hf
  rcases h with hn | hn
  · rw [hf] at hn
    cases hn
  · exact hnext entry hn

theorem refuses_bufferRange {handleId bufferId : RemoteId} (offset count : UInt64)
    (h : (b.registry.map .handle).find? handleId = none ∨
      (b.registry.map .buffer).find? bufferId = none) :
    Refuses (bufferRange handleId bufferId offset count) b .invalidParam := by
  apply refuses_lookup_bind_of_or h
  intro handle hn
  exact (refuses_lookupOwned handleId hn).bind _

theorem refuses_importFilter {filter : Properties RemoteId} {parent : RemoteId}
    (hp : filter.parent = some parent) (h : (b.registry.map .token).find? parent = none) :
    Refuses (importFilter filter) b .invalidParam := by
  unfold importFilter Properties.mapParentM
  rw [hp]
  exact ((refuses_lookup h).bind _).bind _

/-- A filter whose parent resolves, or that has none, is converted in place. -/
theorem importFilter_cases (filter : Properties RemoteId) (b : Broker cards) :
    (∃ native, exec (importFilter filter) b = (.ok native, b)) ∨
      Refuses (importFilter filter) b .invalidParam := by
  cases hp : filter.parent with
  | none =>
      left
      unfold importFilter Properties.mapParentM
      rw [hp]
      exact ⟨_, rfl⟩
  | some parent =>
      cases h : (b.registry.map .token).find? parent with
      | none => exact .inr (refuses_importFilter hp h)
      | some entry =>
          left
          unfold importFilter Properties.mapParentM
          rw [hp]
          refine ⟨filter.withParent (some entry.token), ?_⟩
          have hlook : exec (do return (← lookup .token parent).token) b = (.ok entry.token, b) :=
            exec_bind_of_ok _ (exec_lookup_of_some h)
          exact exec_bind_of_ok _ hlook

/-- The first filter whose parent dangles ends the conversion of all filters. -/
theorem refuses_importFilters {filters : List (Properties RemoteId)} {filter : Properties RemoteId}
    {parent : RemoteId} (mem : filter ∈ filters) (hp : filter.parent = some parent)
    (h : (b.registry.map .token).find? parent = none) :
    Refuses (filters.mapM importFilter) b .invalidParam := by
  induction filters with
  | nil => cases mem
  | cons first rest ih =>
      rw [List.mapM_cons]
      -- A filter in front either dangles itself or is converted without a trace.
      rcases List.mem_cons.mp mem with rfl | hrest
      · exact (refuses_importFilter hp h).bind _
      · rcases importFilter_cases first b with ⟨native, hfirst⟩ | hfirst
        · unfold Refuses
          rw [exec_bind_of_ok _ hfirst]
          exact (ih hrest).bind _
        · exact hfirst.bind _

theorem refuses_compare {handleId firstId secondId : RemoteId} {offset count : UInt64}
    {next : HandleEntry × BufferEntry → Service α} (secondOffset : UInt64)
    (h : (b.registry.map .handle).find? handleId = none ∨
      (b.registry.map .buffer).find? firstId = none ∨
      (b.registry.map .buffer).find? secondId = none)
    (hnext : ∀ pair, (b.registry.map .buffer).find? secondId = none →
      Refuses (next pair) b .invalidParam) :
    Refuses (bufferRange handleId firstId offset count >>= next) b
      (b.refusal (.bufferCompare handleId firstId offset secondId secondOffset count)) := by
  cases hh : (b.registry.map .handle).find? handleId with
  | none =>
      simp only [Broker.refusal, hh]
      exact (refuses_bufferRange offset count (.inl hh)).bind next
  | some handle =>
      cases hf : (b.registry.map .buffer).find? firstId with
      | none =>
          simp only [Broker.refusal, hh, hf]
          exact (refuses_bufferRange offset count (.inr hf)).bind next
      | some first =>
          have hsecond : (b.registry.map .buffer).find? secondId = none := by
            simpa [hh, hf] using h
          have hrange := exec_bufferRange hh hf offset count
          simp only [Broker.refusal, hh, hf]
          -- A first buffer of another handle is reported before the second is looked at.
          by_cases ho : first.owner = handleId
          · rw [if_neg (not_not_intro ho)] at hrange
            rw [if_pos ho]
            by_cases hc : first.covers offset count = true
            · rw [if_pos hc] at hrange
              unfold Refuses
              rw [exec_bind_of_ok next hrange]
              exact hnext _ hsecond
            · rw [if_neg hc] at hrange
              exact exec_bind_of_error next hrange
          · rw [if_pos ho] at hrange
            rw [if_neg ho]
            exact exec_bind_of_error next hrange

end Service

namespace Registry

variable {r : Registry} {cls one two : ResourceClass} {id i j : RemoteId}

theorem dangling_of_mem_pair (mem : (cls, id) ∈ [(one, i), (two, j)])
    (h : (r.map cls).find? id = none) :
    (r.map one).find? i = none ∨ (r.map two).find? j = none := by
  rcases List.mem_pair.mp mem with heq | heq
  · obtain ⟨rfl, rfl⟩ := Prod.mk.inj heq
    exact .inl h
  · obtain ⟨rfl, rfl⟩ := Prod.mk.inj heq
    exact .inr h

end Registry

open Service

/-- Serving a request with a dangling reference fails before anything happens. -/
theorem Request.refuses_serve {b : Broker cards} {request : Request} {cls : ResourceClass}
    {id : RemoteId} (limit : UInt64) (mem : (cls, id) ∈ request.references)
    (h : (b.registry.map cls).find? id = none) :
    Refuses (request.serve limit) b (b.refusal request) := by
  cases request with
  | enumerate filters maxTokens =>
      obtain ⟨filter, hmem, heq⟩ := List.mem_filterMap.mp mem
      obtain ⟨parent, hp, heq⟩ := Option.map_eq_some_iff.mp heq
      obtain ⟨rfl, rfl⟩ := Prod.mk.inj heq
      exact (refuses_importFilters hmem hp h).bind _
  | destroyToken tokenId =>
      obtain ⟨rfl, rfl⟩ := Prod.mk.inj (List.mem_singleton.mp mem)
      exact refuses_teardown _ h
  | closeHandle handleId =>
      obtain ⟨rfl, rfl⟩ := Prod.mk.inj (List.mem_singleton.mp mem)
      exact (refuses_teardown _ h).bind _
  | destroyObject objectId =>
      obtain ⟨rfl, rfl⟩ := Prod.mk.inj (List.mem_singleton.mp mem)
      exact refuses_teardown _ h
  | unmapMmio handleId mappingId region =>
      apply refuses_lookup_bind_of_or (Registry.dangling_of_mem_pair mem h)
      intro handle hn
      exact refuses_teardown _ hn
  | releaseBuffer handleId bufferId =>
      apply refuses_lookup_bind_of_or (Registry.dangling_of_mem_pair mem h)
      intro handle hn
      exact refuses_teardown _ hn
  | getIoAddress handleId bufferId =>
      apply refuses_lookup_bind_of_or (Registry.dangling_of_mem_pair mem h)
      intro handle hn
      exact (refuses_lookupOwned handleId hn).bind _
  | bufferPattern handleId bufferId pattern =>
      apply refuses_lookup_bind_of_or (Registry.dangling_of_mem_pair mem h)
      intro handle hn
      exact (refuses_lookupOwned handleId hn).bind _
  | bufferFill handleId bufferId offset byte count =>
      exact (refuses_bufferRange _ _ (Registry.dangling_of_mem_pair mem h)).bind _
  | bufferWrite handleId bufferId offset source count =>
      refine refuses_require_bind (refuses_require_bind ?_)
      exact (refuses_bufferRange _ _ (Registry.dangling_of_mem_pair mem h)).bind _
  | bufferRead handleId bufferId offset count =>
      refine refuses_require_bind ?_
      exact (refuses_bufferRange _ _ (Registry.dangling_of_mem_pair mem h)).bind _
  | bufferPoll handleId bufferId offset width mask expected sleepMicros attempts =>
      refine refuses_require_bind ?_
      exact (refuses_bufferRange _ _ (Registry.dangling_of_mem_pair mem h)).bind _
  | bufferCompare handleId firstId firstOffset secondId secondOffset count =>
      refine refuses_compare secondOffset ?_ fun pair hsecond =>
        (refuses_bufferRange _ _ (.inr hsecond)).bind _
      simp only [Request.references, List.mem_cons, Prod.mk.injEq] at mem
      rcases mem with ⟨rfl, rfl⟩ | ⟨rfl, rfl⟩ | ⟨rfl, rfl⟩ | hnil
      · exact .inl h
      · exact .inr (.inl h)
      · exact .inr (.inr h)
      · cases hnil
  | _ =>
      obtain ⟨rfl, rfl⟩ := Prod.mk.inj (List.mem_singleton.mp mem)
      exact (refuses_lookup h).bind _

namespace Broker

/-- Only the comparison of a buffer that belongs to another handle is refused
with something else than `invalidParam`. -/
theorem refusal_cases (b : Broker cards) (request : Request) :
    b.refusal request = .invalidParam ∨
    b.refusal request = .notFound ∧
      ∃ handleId firstId firstOffset secondId secondOffset count first,
        request = .bufferCompare handleId firstId firstOffset secondId secondOffset count ∧
        (b.registry.map .buffer).find? firstId = some first ∧ first.owner ≠ handleId := by
  cases request with
  | bufferCompare handleId firstId firstOffset secondId secondOffset count =>
      simp only [refusal]
      split
      · rename_i first _ hf
        by_cases ho : first.owner = handleId
        · exact .inl (if_pos ho)
        · exact .inr ⟨if_neg ho, _, _, _, _, _, _, first, rfl, hf, ho⟩
      · exact .inl rfl
  | _ => exact .inl rfl

/-- A request that references the sentinel, or an identifier that is not live
in the map of its class, is refused and leaves the broker as it was: the maps
with their claims, the source of identifiers, and the driver with its count of
calls. -/
theorem handle_of_dangling {b : Broker cards} {request : Request} {cls : ResourceClass}
    {id : RemoteId} (mem : (cls, id) ∈ request.references)
    (dangling : id = .sentinel ∨ (b.registry.map cls).slots.find? id = none) :
    b.handle request = (.answer request.operation (.error (b.refusal request)), b) ∧
      (b.refusal request = .invalidParam ∨
        b.refusal request = .notFound ∧
          ∃ handleId firstId firstOffset secondId secondOffset count first,
            request = .bufferCompare handleId firstId firstOffset secondId secondOffset count ∧
            (b.registry.map .buffer).find? firstId = some first ∧ first.owner ≠ handleId) := by
  have hn := ((b.registry.map cls).find?_eq_none_iff id).mpr dangling
  have hexec : exec (request.serve b.payloadLimit) b = (.error (b.refusal request), b) :=
    request.refuses_serve b.payloadLimit mem hn
  refine ⟨?_, b.refusal_cases request⟩
  rw [handle_eq, hexec]
  rfl

/-- One filter names a token that another request is tearing down, and the next
filter names a token that was never issued. -/
theorem handle_of_dangling_parent :
    (ResourceClass.token, (⟨7, 9⟩ : RemoteId)) ∈
      (Request.enumerate [{ parent := some ⟨7, 1⟩ }, { parent := some ⟨7, 9⟩ }] 4).references ∧
    ((((Workload.start (.seeded 7) (.start 1 fun _ => none) 4096).after
      [.accept (.enumerate [] 2), .advance 0, .accept (.destroyToken ⟨7, 1⟩), .advance 0,
        .advance 0, .advance 1]).broker.registry.map .token).slots.find? ⟨7, 9⟩).isNone = true ∧
    ((Workload.start (.seeded 7) (.start 1 fun _ => none) 4096).after
      [.accept (.enumerate [] 2), .advance 0, .accept (.destroyToken ⟨7, 1⟩), .advance 0,
        .advance 0, .advance 1]).broker.handle
      (.enumerate [{ parent := some ⟨7, 1⟩ }, { parent := some ⟨7, 9⟩ }] 4) =
      (.answer .enumerate (.error .invalidParam),
        ((Workload.start (.seeded 7) (.start 1 fun _ => none) 4096).after
          [.accept (.enumerate [] 2), .advance 0, .accept (.destroyToken ⟨7, 1⟩), .advance 0,
            .advance 0, .advance 1]).broker) := by
  have mem : (ResourceClass.token, (⟨7, 9⟩ : RemoteId)) ∈
      (Request.enumerate [{ parent := some ⟨7, 1⟩ }, { parent := some ⟨7, 9⟩ }] 4).references := by
    decide
  exact ⟨mem, by decide,
    (handle_of_dangling mem (.inr (Option.isNone_iff_eq_none.mp (by decide)))).1⟩

end Broker

end DeviceBroker
