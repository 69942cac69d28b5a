import DeviceBroker.Proofs.Broker.History
import DeviceBroker.Proofs.Broker.Origins
import DeviceBroker.Proofs.Broker.Teardowns
import DeviceBroker.Proofs.Simulator.Openings

/-!
# Who a native handle is open for

A native handle that is open was opened by some request, its tenant, and as
long as no identifier could be registered in vain only a request to close that
identifier closes it again. So what a request reaches through an identifier is
the handle that was opened for it, until the closing of the identifier has
called the driver. From then on, and while the identifier still resolves, the
value may be anybody's: nobody's if closed values are not given out again, and
else that of another request that has opened it since.
-/

namespace DeviceBroker

variable {cards : Nat}

/-! ## Opening and closing -/

namespace Deed

/-- The native handle that a deed has opened. -/
def opens? : Deed → Option NativeHandle
  | ⟨.call (.openHandle _ _), .ok native⟩ => some native
  | _ => none

/-- The native handle that a deed has closed. -/
def closes? : Deed → Option NativeHandle
  | ⟨.call (.closeHandle native), .ok _⟩ => some native
  | _ => none

theorem opens?_iff {deed : Deed} {native : NativeHandle} :
    deed.opens? = some native ↔
      ∃ token flags, deed = ⟨.call (.openHandle token flags), .ok native⟩ := by
  constructor
  · intro h
    unfold opens? at h
    split at h
    · cases h
      exact ⟨_, _, rfl⟩
    · cases h
  · rintro ⟨token, flags, rfl⟩
    rfl

theorem closes?_iff {deed : Deed} {native : NativeHandle} :
    deed.closes? = some native ↔ deed = ⟨.call (.closeHandle native), .ok ()⟩ := by
  constructor
  · intro h
    unfold closes? at h
    split at h
    · cases h
      rfl
    · cases h
  · rintro rfl
    rfl

end Deed

theorem opened_iff {past : List Deed} {native : NativeHandle} :
    Opened past native ↔ ∃ deed ∈ past, deed.opens? = some native := by
  constructor
  · rintro ⟨token, flags, hm⟩
    exact ⟨_, hm, rfl⟩
  · rintro ⟨deed, hm, ho⟩
    obtain ⟨token, flags, rfl⟩ := Deed.opens?_iff.mp ho
    exact ⟨token, flags, hm⟩

/-- The request that has opened a native handle which nobody has closed since. -/
def tenant (native : NativeHandle) (turns : List Turn) : Option Nat :=
  turns.foldl (fun place turn =>
    if turn.deed.opens? = some native then some turn.place
    else if turn.deed.closes? = some native then none
    else place) none

theorem tenant_concat (native : NativeHandle) (turns : List Turn) (turn : Turn) :
    tenant native (turns ++ [turn]) =
      if turn.deed.opens? = some native then some turn.place
      else if turn.deed.closes? = some native then none
      else tenant native turns := by
  simp [tenant]

/-- What a call does to whether a native handle is open. -/
theorem Simulator.Serves.handle_eq {s t : Simulator cards} {call : DeviceCall}
    {answer : Except Fault call.Value} (h : s.Serves call (answer, t)) (native : NativeHandle) :
    t.holdings.handle native =
      if Deed.opens? ⟨.call call, answer⟩ = some native then true
      else if Deed.closes? ⟨.call call, answer⟩ = some native then false
      else s.holdings.handle native := by
  cases answer with
  | error fault =>
    have hsame : t.holdings = s.holdings := h
    rw [hsame]
    cases call <;> rfl
  | ok value =>
    rw [h.2]
    cases call with
    | openHandle token flags =>
      by_cases hn : native = value
      · subst hn
        exact (override_self _ _ _).trans (if_pos rfl).symm
      · have hne : (some value : Option NativeHandle) ≠ some native :=
          fun h => hn (Option.some.inj h).symm
        exact (override_of_ne _ _ hn).trans ((if_neg hne).trans (if_neg nofun)).symm
    | closeHandle handle =>
      by_cases hn : native = handle
      · subst hn
        exact (override_self _ _ _).trans ((if_neg nofun).trans (if_pos rfl)).symm
      · have hne : some handle ≠ some native := fun h => hn (Option.some.inj h).symm
        exact (override_of_ne _ _ hn).trans ((if_neg nofun).trans (if_neg hne)).symm
    | enumerate filters maxTokens =>
      exact congrFun (Holdings.handle_foldl_track _ s.holdings) native
    | getProperties token | updateProperties token | getHandleProperties handle =>
      simp only [Holdings.after]
      cases value.parent <;> rfl
    | _ => rfl

/-- What an action does to whether a native handle is open. -/
theorem Broker.handle_perform (b : Broker cards) (a : Action) (native : NativeHandle) :
    (b.perform a).2.device.holdings.handle native =
      if Deed.opens? ⟨a, (b.perform a).1⟩ = some native then true
      else if Deed.closes? ⟨a, (b.perform a).1⟩ = some native then false
      else b.device.holdings.handle native := by
  cases a with
  | call call => exact Simulator.Serves.handle_eq (b.device.serves_call call) native
  | _ => rfl

/-- What a call that opens a native handle finds, and what it leaves. -/
theorem Simulator.opens_call {s t : Simulator cards} {call : DeviceCall}
    {answer : Except Fault call.Value} (hserves : s.Serves call (answer, t))
    (htends : s.Tends call (answer, t)) {native : NativeHandle}
    (h : Deed.opens? ⟨.call call, answer⟩ = some native) :
    s.holdings.handle native = false ∧
      ∃ slot, native = handleAt slot ∧ (s.recycling = false → s.nextHandle ≤ slot) ∧
        slot < t.nextHandle := by
  obtain ⟨token, flags, hdeed⟩ := Deed.opens?_iff.mp h
  cases hdeed
  obtain ⟨⟨slot, rfl, hslot⟩, hafter⟩ := htends
  have hnext : t.nextHandle = max s.nextHandle ((handleAt slot).raw - firstHandle + 1) :=
    congrArg Openings.nextHandle hafter
  refine ⟨hserves.1, slot, rfl, hslot, ?_⟩
  rw [hnext]
  simp [handleAt]

/-- What an action that opens a native handle finds, and what it leaves. -/
theorem Broker.opens_perform {b : Broker cards} {a : Action} {native : NativeHandle}
    (h : Deed.opens? ⟨a, (b.perform a).1⟩ = some native) :
    b.device.holdings.handle native = false ∧
      ∃ slot, native = Simulator.handleAt slot ∧
        (b.device.recycling = false → b.device.nextHandle ≤ slot) ∧
        slot < (b.perform a).2.device.nextHandle := by
  cases a with
  | call call =>
    exact Simulator.opens_call (b.device.serves_call call) (b.device.openings_call call) h
  | _ => cases h

theorem Simulator.handleOf_of_closed {s : Simulator cards} {native : NativeHandle}
    (h : s.handles.contains native = false) : s.handleOf native = .error .invalidParam := by
  unfold handleOf
  rw [(s.handles.find?_eq_none_iff native).mpr h]

/-- Nothing is served through a native handle that is not open. -/
theorem Simulator.serve_of_closed {s : Simulator cards} {native : NativeHandle}
    (h : s.handles.contains native = false) {call : DeviceCall} (hc : call.handle? = some native) :
    ∃ fault, (s.serve call).1 = .error fault := by
  have hn := handleOf_of_closed h
  cases call <;> cases hc
  -- Some arguments are checked before the handle is.
  case prepareBuffer length address flags =>
    have herror : ∃ fault, s.prepareBuffer native length address flags = .error fault := by
      unfold prepareBuffer
      split
      · exact ⟨_, rfl⟩
      split
      · exact ⟨_, rfl⟩
      split
      · exact ⟨_, rfl⟩
      · exact ⟨_, by rw [hn]⟩
    obtain ⟨fault, herror⟩ := herror
    exact ⟨fault, congrArg (fun result => (s.commit result).1) herror⟩
  case setUserClock highHz lowHz flags =>
    have herror : ∃ fault, s.setUserClock native highHz lowHz = .error fault := by
      unfold setUserClock
      split
      · exact ⟨_, rfl⟩
      · exact ⟨_, by rw [hn]⟩
    obtain ⟨fault, herror⟩ := herror
    exact ⟨fault, congrArg (fun result => (s.commit result).1) herror⟩
  case reconfigureSlot slot path flags =>
    have herror : ∃ fault, s.reconfigureSlot native slot path = .error fault := by
      unfold reconfigureSlot
      split
      · exact ⟨_, rfl⟩
      · exact ⟨_, by rw [hn]⟩
    obtain ⟨fault, herror⟩ := herror
    exact ⟨fault, congrArg (fun result => (s.commit result).1) herror⟩
  all_goals
    refine ⟨.invalidParam, ?_⟩
    simp only [serve, closeHandle, resetHandle, handleProperties, mapMmio, unmapMmio, readMmio32,
      writeRegister, readMmio64, readMmio512, readRegister, regionFor, releaseBuffer, bufferOf,
      ioAddress, readBuffer, writeBuffer, handleObject, userClock, sampleMetrics, hn]
    rfl

theorem Simulator.call_of_closed {s : Simulator cards} {native : NativeHandle}
    (h : s.handles.contains native = false) {call : DeviceCall} (hc : call.handle? = some native) :
    ∃ fault, (s.call call).1 = .error fault := by
  unfold Simulator.call
  dsimp only
  cases s.armed call.kind with
  | some fault => exact ⟨fault, rfl⟩
  | none =>
    exact serve_of_closed (s := ({ s with calls := s.calls + 1 } : Simulator cards)) h hc

theorem Broker.nextHandle_le_perform (b : Broker cards) (a : Action) :
    (b.perform a).2.device.recycling = b.device.recycling ∧
      b.device.nextHandle ≤ (b.perform a).2.device.nextHandle := by
  cases a with
  | call call => exact Simulator.Tends.nextHandle_le (b.device.openings_call call)
  | _ => exact ⟨rfl, Nat.le_refl _⟩

/-! ## Tenants and identifiers -/

/-- The request at a place has opened a native handle and has registered it
under an identifier. -/
structure Opens (turns : List Turn) (place : Nat) (id : RemoteId) (native : NativeHandle) :
    Prop where
  opened : Opened (deedsAt turns place) native
  registered : ∃ tokenId, ⟨.register .handle ⟨native, tokenId⟩, some id⟩ ∈ deedsAt turns place

/-- A request to close an identifier has closed a native handle. -/
def Closed (turns : List Turn) (id : RemoteId) (native : NativeHandle) : Prop :=
  ∃ turn ∈ turns, turn.request = .closeHandle id ∧ turn.deed.closes? = some native

theorem Closed.append {turns : List Turn} {id : RemoteId} {native : NativeHandle}
    (h : Closed turns id native) (more : List Turn) : Closed (turns ++ more) id native := by
  obtain ⟨turn, hm, hturn⟩ := h
  exact ⟨turn, List.mem_append_left _ hm, hturn⟩

section

variable {turns : List Turn} {place : Nat} {entry entry' : HandleEntry}
  {answer answer' : Option RemoteId} {id : RemoteId} {native : NativeHandle}

/-- Who registers a handle has opened it before. -/
theorem Lawful.opened_of_registered (h : Lawful turns)
    (hm : ⟨.register .handle entry, answer⟩ ∈ deedsAt turns place) :
    Opened (deedsAt turns place) entry.handle := by
  obtain ⟨turn, hturn, rfl, hd⟩ := mem_deedsAt.mp hm
  obtain ⟨before, later, rfl⟩ := List.append_of_mem hturn
  have hpermits := h before turn later rfl
  rw [hd] at hpermits
  rw [deedsAt_append]
  exact hpermits.1.append _

/-- A request registers no more than one handle. -/
theorem Lawful.register_unique (h : Lawful turns)
    (hm : ⟨.register .handle entry, answer⟩ ∈ deedsAt turns place)
    (hm' : ⟨.register .handle entry', answer'⟩ ∈ deedsAt turns place) :
    entry = entry' ∧ answer = answer' := by
  induction turns using List.reverseRecOn with
  | nil => exact absurd hm List.not_mem_nil
  | append_singleton turns turn ih =>
    have hlast := h.last
    rcases mem_deedsAt_concat.mp hm with hold | ⟨rfl, hd⟩
    · rcases mem_deedsAt_concat.mp hm' with hold' | ⟨rfl, hd'⟩
      · exact ih h.of_append hold hold'
      · rw [hd'] at hlast
        exact absurd hold (hlast.2 entry answer)
    · rcases mem_deedsAt_concat.mp hm' with hold' | ⟨-, hd'⟩
      · rw [hd] at hlast
        exact absurd hold' (hlast.2 entry' answer')
      · rw [hd] at hd'
        cases hd'
        exact ⟨rfl, rfl⟩

/-- Who has opened a native handle is its tenant until it is closed: always if
no identifier was registered for it yet, and otherwise as long as closing that
identifier has not called the driver. -/
structure Tenancy (turns : List Turn) : Prop where
  registered : ∀ place id native, Opens turns place id native →
    tenant native turns = some place ∨ Closed turns id native
  pending : ∀ place native, Opened (deedsAt turns place) native →
    (∀ entry answer, ⟨.register .handle entry, answer⟩ ∉ deedsAt turns place) →
    tenant native turns = some place

/-- Who has opened a handle did so before the last turn, or with it. -/
theorem opened_of_concat {turn : Turn} (h : Opened (deedsAt (turns ++ [turn]) place) native) :
    Opened (deedsAt turns place) native ∨
      turn.place = place ∧ turn.deed.opens? = some native := by
  obtain ⟨deed, hm, ho⟩ := opened_iff.mp h
  rcases mem_deedsAt_concat.mp hm with hm | ⟨hp, rfl⟩
  · exact .inl (opened_iff.mpr ⟨deed, hm, ho⟩)
  · exact .inr ⟨hp, ho⟩

/-- A turn keeps the tenancies if it opens only what is not open, and closes
only what was registered under the identifier to be closed. -/
theorem Tenancy.concat (h : Tenancy turns) {turn : Turn} (hl : Lawful (turns ++ [turn]))
    (hopens : ∀ native, turn.deed.opens? = some native → tenant native turns = none)
    (hcloses : ∀ native, turn.deed.closes? = some native →
      ∃ id, turn.request = .closeHandle id ∧ (∃ place, Opens turns place id native) ∧
        ¬ Closed turns id native) : Tenancy (turns ++ [turn]) := by
  -- A tenant stays unless the turn closes its handle, under the identifier that it has registered.
  have hstays : ∀ {native place}, tenant native turns = some place →
      turn.deed.closes? ≠ some native → tenant native (turns ++ [turn]) = some place := by
    intro native place ht hc
    have ho : turn.deed.opens? ≠ some native := by
      intro ho
      rw [hopens native ho] at ht
      cases ht
    rw [tenant_concat, if_neg ho, if_neg hc, ht]
  have hleaves : ∀ {native place}, tenant native turns = some place →
      turn.deed.closes? = some native →
      ∃ id, turn.request = .closeHandle id ∧ Opens turns place id native := by
    intro native place ht hc
    obtain ⟨id, hrequest, ⟨place', hopens'⟩, hnot⟩ := hcloses native hc
    have ht' := (h.registered place' id native hopens').resolve_right hnot
    obtain rfl : place = place' := Option.some.inj (ht.symm.trans ht')
    exact ⟨id, hrequest, hopens'⟩
  have hlast := hl.last
  refine ⟨fun place id native hopen => ?_, fun place native hopen hnone => ?_⟩
  · obtain ⟨tokenId, hm⟩ := hopen.registered
    rcases mem_deedsAt_concat.mp hm with hm | ⟨rfl, hd⟩
    · have hopened : Opened (deedsAt turns place) native := hl.of_append.opened_of_registered hm
      rcases h.registered place id native ⟨hopened, tokenId, hm⟩ with ht | hclosed
      · by_cases hc : turn.deed.closes? = some native
        · obtain ⟨other, hrequest, hopens'⟩ := hleaves ht hc
          -- One place registers one identifier, so it is the one that is being closed.
          obtain ⟨tokenId', hm'⟩ := hopens'.registered
          obtain ⟨-, hid⟩ := hl.of_append.register_unique hm hm'
          obtain rfl := Option.some.inj hid
          exact .inr ⟨turn, by simp, hrequest, hc⟩
        · exact .inl (hstays ht hc)
      · exact .inr (hclosed.append _)
    · -- The handle is registered just now.
      rw [hd] at hlast
      refine .inl (hstays (h.pending turn.place native hlast.1 hlast.2) ?_)
      rw [hd]
      exact nofun
  · have hnone' : ∀ entry answer, ⟨.register .handle entry, answer⟩ ∉ deedsAt turns place :=
      fun entry answer hm => hnone entry answer (mem_deedsAt_concat.mpr (.inl hm))
    rcases opened_of_concat hopen with hopen | ⟨rfl, ho⟩
    · have ht := h.pending place native hopen hnone'
      refine hstays ht fun hc => ?_
      obtain ⟨other, -, hopens'⟩ := hleaves ht hc
      obtain ⟨tokenId, hm⟩ := hopens'.registered
      exact hnone' _ _ hm
    · rw [tenant_concat, if_pos ho]

end

namespace Workload

/-- The driver has a native handle open exactly if the handle has a tenant. -/
theorem handle_eq_isSome_tenant (source : IdSource) (images : String → Option (List UInt8))
    (limit : UInt64) (events : List Event) (native : NativeHandle) :
    ((start source (.start cards images) limit).after events).broker.device.holdings.handle native =
      (tenant native ((start source (.start cards images) limit).turns events)).isSome := by
  induction events using List.reverseRecOn with
  | nil => rfl
  | append_singleton events event ih =>
    rw [after_concat, turns_concat]
    obtain ⟨turn, next, -, hby, htakes, hstep⟩ | ⟨hby, hstep⟩ :=
      ((start source (.start cards images) limit).after events).step_cases event
    · have hperform :=
        ((start source (.start cards images) limit).after events).broker.handle_perform
          turn.deed.action native
      rw [← htakes.answer] at hperform
      rw [hby, hstep, tenant_concat]
      refine hperform.trans ?_
      split
      · rfl
      split
      · rfl
      · exact ih
    · rw [hby, List.append_nil, ← ih]
      obtain ⟨request, hstep⟩ | ⟨d, -, hstep⟩ | hstep := hstep
      · rw [hstep]
      · rw [hstep]
        change (Simulator.disturb _ d).holdings.handle native = _
        rw [Simulator.holdings_disturb]
      · rw [hstep]

section Sequence

variable {salt limit : UInt64} {images : String → Option (List UInt8)} {events : List Event}

/-- A request that has resolved an identifier to a handle was preceded by one
that has opened the handle and registered it under the identifier. -/
theorem exists_opens_of_resolved {place : Nat} {id : RemoteId} {entry : HandleEntry}
    (h : Resolved (deedsAt ((start (.seeded salt) (.start cards images) limit).turns events) place)
      id entry) :
    ∃ opener, Opens ((start (.seeded salt) (.start cards images) limit).turns events) opener id
      entry.handle := by
  have horderly := orderly_after (.seeded salt) (.start cards images) limit events
  obtain ⟨turn, hm, hd⟩ := exists_register_of_resolved h
  have hregistered : ⟨.register .handle entry, some id⟩ ∈
      deedsAt ((start (.seeded salt) (.start cards images) limit).turns events) turn.place :=
    mem_deedsAt.mpr ⟨turn, hm, rfl, hd⟩
  exact ⟨turn.place, horderly.lawful.opened_of_registered hregistered, entry.tokenId, hregistered⟩

/-- While the sequence lasts, an identifier is closed no more than once. -/
theorem not_closed_of_closes (drawn : ((start (.seeded salt) (.start cards images) limit).after
      events).registry.drawn < 2 ^ 64) {before : List Turn} {turn : Turn} {id : RemoteId}
    {native native' : NativeHandle}
    (hturns : (start (.seeded salt) (.start cards images) limit).turns events = before ++ [turn])
    (hr : turn.request = .closeHandle id) (hc : turn.deed.closes? = some native) :
    ¬ Closed before id native' := by
  rintro ⟨other, hm, hr', hc'⟩
  have hspent : ∀ {turn : Turn} {native}, turn.request = .closeHandle id →
      turn.deed.closes? = some native →
      (if turn.deed.succeeds then turn.request.target? else none) = some (.handle, id) := by
    intro turn native hr hc
    rw [Deed.closes?_iff.mp hc, hr]
    rfl
  have hle := Nat.le_trans (count_destroyed_le (.seeded salt) (.start cards images) limit events
    (.handle, id)) (count_created_le_one drawn (.handle, id))
  have hbefore : (.handle, id) ∈ destroyed before :=
    List.mem_filterMap.mpr ⟨other, hm, hspent hr' hc'⟩
  have hpos := List.count_pos_iff.mpr hbefore
  have hlast : destroyed [turn] = [(.handle, id)] := by
    unfold destroyed
    rw [List.filterMap_cons, hspent hr hc]
    rfl
  have happend : destroyed (before ++ [turn]) = destroyed before ++ destroyed [turn] :=
    List.filterMap_append
  rw [hturns, happend, hlast, List.count_append, List.count_singleton_self] at hle
  omega

/-- Along every schedule whoever opens a handle is its tenant until the
identifier that it is registered under is closed. -/
theorem tenancy_after (drawn : ((start (.seeded salt) (.start cards images) limit).after
      events).registry.drawn < 2 ^ 64) :
    Tenancy ((start (.seeded salt) (.start cards images) limit).turns events) := by
  induction events using List.reverseRecOn with
  | nil =>
    refine ⟨fun place id native h => ?_, fun place native h => ?_⟩
    · obtain ⟨_, _, hm⟩ := h.opened
      exact absurd hm List.not_mem_nil
    · obtain ⟨_, _, hm⟩ := h
      exact absurd hm List.not_mem_nil
  | append_singleton events event ih =>
    have htenancy := ih (Nat.lt_of_le_of_lt (drawn_le_concat _ events event) drawn)
    have hlawful := (orderly_after (.seeded salt) (.start cards images) limit
      (events ++ [event])).lawful
    have hturns := turns_concat (start (.seeded salt) (.start cards images) limit) events event
    obtain ⟨turn, next, -, hby, htakes, hstep⟩ | ⟨hby, -⟩ :=
      ((start (.seeded salt) (.start cards images) limit).after events).step_cases event
    · rw [hby] at hturns
      rw [hturns] at hlawful ⊢
      refine htenancy.concat hlawful (fun native ho => ?_) fun native hc => ?_
      · have hanswer : (⟨turn.deed.action, turn.deed.answer⟩ : Deed).opens? = some native := ho
        rw [htakes.answer] at hanswer
        have hfree := (Broker.opens_perform hanswer).1
        rw [handle_eq_isSome_tenant] at hfree
        exact Option.not_isSome_iff_eq_none.mp (by rw [hfree]; exact Bool.false_ne_true)
      · have hpermits := hlawful.last
        rw [Deed.closes?_iff.mp hc] at hpermits
        rcases hpermits.1 with ⟨id, hr⟩ | ⟨tokenId, flags, -, hm⟩
        · refine ⟨id, hr, ?_, not_closed_of_closes drawn hturns hr hc⟩
          obtain ⟨-, entry, hholding, hdestroys⟩ := hpermits.2.2 .handle id (by rw [hr]; rfl)
          obtain rfl : native = entry.handle := by cases hdestroys; rfl
          exact exists_opens_of_resolved (.inr hholding.granted)
        · -- No identifier is missing, so no handle is closed because of that.
          obtain ⟨other, hother, -, hd⟩ := mem_deedsAt.mp hm
          refine absurd hd (register_ne_none drawn ?_ rfl)
          rw [hturns]
          exact List.mem_append_left _ hother
    · rw [hturns, hby, List.append_nil]
      exact htenancy

end Sequence

/-- While closed values are not given out again, every value is opened by one
request only. -/
structure OpenedOnce (turns : List Turn) (device : Simulator cards) : Prop where
  recycling : device.recycling = false
  slot : ∀ turn ∈ turns, ∀ native, turn.deed.opens? = some native →
    ∃ slot < device.nextHandle, native = Simulator.handleAt slot
  unique : ∀ one ∈ turns, ∀ two ∈ turns, ∀ native, one.deed.opens? = some native →
    two.deed.opens? = some native → one.place = two.place

theorem OpenedOnce.le {turns : List Turn} {device device' : Simulator cards}
    (h : OpenedOnce turns device) (hr : device'.recycling = device.recycling)
    (hn : device.nextHandle ≤ device'.nextHandle) : OpenedOnce turns device' where
  recycling := hr.trans h.recycling
  slot turn hm native ho := by
    obtain ⟨slot, hlt, hslot⟩ := h.slot turn hm native ho
    exact ⟨slot, Nat.lt_of_lt_of_le hlt hn, hslot⟩
  unique := h.unique

/-- A value that is opened lies beyond all values that were opened before. -/
theorem OpenedOnce.concat {turns : List Turn} {b : Broker cards} (h : OpenedOnce turns b.device)
    {turn : Turn} (ha : turn.deed.answer = (b.perform turn.deed.action).1) :
    OpenedOnce (turns ++ [turn]) (b.perform turn.deed.action).2.device := by
  have hle := b.nextHandle_le_perform turn.deed.action
  have hkept := h.le hle.1 hle.2
  have hnew : ∀ native, turn.deed.opens? = some native →
      (∃ slot < (b.perform turn.deed.action).2.device.nextHandle,
        native = Simulator.handleAt slot) ∧
      ∀ other ∈ turns, other.deed.opens? ≠ some native := by
    intro native ho
    have hanswer : (⟨turn.deed.action, turn.deed.answer⟩ : Deed).opens? = some native := ho
    rw [ha] at hanswer
    obtain ⟨-, slot, rfl, hslot, hlt⟩ := Broker.opens_perform hanswer
    refine ⟨⟨slot, hlt, rfl⟩, fun other hm ho' => ?_⟩
    obtain ⟨slot', hlt', heq⟩ := h.slot other hm _ ho'
    have hsame : slot = slot' := Nat.add_left_cancel (congrArg NativeHandle.raw heq)
    have := hslot h.recycling
    omega
  refine ⟨hkept.recycling, fun other hm native ho => ?_, fun one hm two hm' native ho ho' => ?_⟩
  · rcases List.mem_append.mp hm with hm | hm
    · exact hkept.slot other hm native ho
    · obtain rfl := List.mem_singleton.mp hm
      exact (hnew native ho).1
  · rcases List.mem_append.mp hm with hone | hone <;>
      rcases List.mem_append.mp hm' with htwo | htwo
    · exact hkept.unique one hone two htwo native ho ho'
    · obtain rfl := List.mem_singleton.mp htwo
      exact absurd ho ((hnew native ho').2 one hone)
    · obtain rfl := List.mem_singleton.mp hone
      exact absurd ho' ((hnew native ho).2 two htwo)
    · rw [List.mem_singleton.mp hone, List.mem_singleton.mp htwo]

theorem openedOnce_after (source : IdSource) (images : String → Option (List UInt8))
    (limit : UInt64) {events : List Event} (h : ∀ event ∈ events, event ≠ .disturb .recycle) :
    OpenedOnce ((start source (.start cards images) limit).turns events)
      ((start source (.start cards images) limit).after events).broker.device := by
  induction events using List.reverseRecOn with
  | nil =>
    exact ⟨rfl, fun _ hm => absurd hm List.not_mem_nil, fun _ hm => absurd hm List.not_mem_nil⟩
  | append_singleton events event ih =>
    have hbefore := ih fun other hm => h other (List.mem_append_left _ hm)
    rw [after_concat, turns_concat]
    obtain ⟨turn, next, -, hby, htakes, hstep⟩ | ⟨hby, hstep⟩ :=
      ((start source (.start cards images) limit).after events).step_cases event
    · rw [hby, hstep]
      exact hbefore.concat htakes.answer
    · rw [hby, List.append_nil]
      obtain ⟨request, hstep⟩ | ⟨d, rfl, hstep⟩ | hstep := hstep
      · rw [hstep]
        exact hbefore
      · rw [hstep]
        have hopenings := ((start source (.start cards images) limit).after
          events).broker.device.openings_disturb d
        exact hbefore.le
          (Simulator.recycling_disturb _ fun hd => h (.disturb d) (by simp) (by rw [hd]))
          (Nat.le_of_eq (congrArg Openings.nextHandle hopenings).symm)
      · rwa [hstep]

/-- A tenant has opened its handle. -/
theorem exists_opens?_of_tenant {native : NativeHandle} {turns : List Turn} {place : Nat}
    (h : tenant native turns = some place) :
    ∃ turn ∈ turns, turn.place = place ∧ turn.deed.opens? = some native := by
  induction turns using List.reverseRecOn with
  | nil => cases h
  | append_singleton turns turn ih =>
    rw [tenant_concat] at h
    split at h
    · rename_i ho
      exact ⟨turn, by simp, Option.some.inj h, ho⟩
    split at h
    · cases h
    · obtain ⟨other, hm, hother⟩ := ih h
      exact ⟨other, List.mem_append_left _ hm, hother⟩

/-- What the requests reach through the handles that they name after a schedule. -/
structure ReachesOwn (w : Workload cards) (events : List Event) : Prop where
  /-- The driver has a native handle open exactly if the handle has a tenant. -/
  isOpen : ∀ native, (w.after events).broker.device.handles.contains native =
    (tenant native (w.turns events)).isSome
  /-- A call for a request that names an identifier goes to the native handle
  that was opened for the identifier, and who has opened it for that is still
  its tenant, unless a request to close the identifier has closed it. -/
  call : ∀ event turn id call answer native, (w.after events).turnBy event = [turn] →
    turn.request.handle? = some id → turn.deed = ⟨.call call, answer⟩ →
    call.handle? = some native → ∃ opener, Opens (w.turns events) opener id native ∧
      (tenant native (w.turns events) = some opener ∨ Closed (w.turns events) id native)
  /-- A call through a native handle without a tenant fails. -/
  vacant : ∀ event turn call answer native, (w.after events).turnBy event = [turn] →
    turn.deed = ⟨.call call, answer⟩ → call.handle? = some native →
    tenant native (w.turns events) = none → ∃ fault, answer = .error fault
  /-- If closed values are not given out again, nobody else becomes the tenant
  of a handle that was opened for an identifier. -/
  retired : (∀ event ∈ events, event ≠ .disturb .recycle) → ∀ opener id native,
    Opens (w.turns events) opener id native →
    tenant native (w.turns events) = some opener ∨ tenant native (w.turns events) = none

/-- Along every schedule a request reaches through an identifier the handle
that was opened for it, until the identifier is being closed. -/
theorem reachesOwn_of_drawn_lt (salt limit : UInt64) (images : String → Option (List UInt8))
    (events : List Event)
    (drawn : ((start (.seeded salt) (.start cards images) limit).after events).registry.drawn <
      2 ^ 64) :
    (start (.seeded salt) (.start cards images) limit).ReachesOwn events := by
  have htenancy := tenancy_after drawn
  have hopen := @handle_eq_isSome_tenant cards (.seeded salt) images limit events
  constructor
  · exact hopen
  · intro event turn id call answer native hby hh hd hn
    have hlawful := (orderly_after (.seeded salt) (.start cards images) limit
      (events ++ [event])).lawful
    rw [turns_concat, hby] at hlawful
    have hpermits := hlawful.last
    rw [hd] at hpermits
    have hreaches := hpermits.2.1 native hn
    unfold Request.Reaches at hreaches
    rw [hh] at hreaches
    obtain ⟨entry, hresolved, rfl⟩ := hreaches
    obtain ⟨opener, hopens⟩ := exists_opens_of_resolved hresolved
    exact ⟨opener, hopens, htenancy.registered opener id entry.handle hopens⟩
  · intro event turn call answer native hby hd hn ht
    obtain ⟨other, next, -, hother, htakes, -⟩ | ⟨hnil, -⟩ :=
      ((start (.seeded salt) (.start cards images) limit).after events).step_cases event
    · obtain rfl : turn = other := by simpa using hby.symm.trans hother
      have hanswer := htakes.answer
      rw [hd] at hanswer
      have hclosed := hopen native
      rw [ht] at hclosed
      obtain ⟨fault, hfault⟩ := Simulator.call_of_closed hclosed hn
      exact ⟨fault, hanswer.trans hfault⟩
    · rw [hby] at hnil
      cases hnil
  · intro hrecycle opener id native hopens
    have honce := @openedOnce_after cards (.seeded salt) images limit events hrecycle
    cases ht : tenant native ((start (.seeded salt) (.start cards images) limit).turns events) with
    | none => exact .inr rfl
    | some place =>
      obtain ⟨one, hm, rfl, ho⟩ := exists_opens?_of_tenant ht
      obtain ⟨deed, hdeed, ho'⟩ := opened_iff.mp hopens.opened
      obtain ⟨two, hm', rfl, rfl⟩ := mem_deedsAt.mp hdeed
      exact .inl (congrArg some (honce.unique one hm two hm' native ho ho'))

/-- Closed values are given out again. The accelerator is opened, closing it has
called the driver but has not removed the identifier yet, and the management
device is opened. -/
def closeOvertaken : List Event :=
  .disturb .recycle :: opening ++ [.accept (.closeHandle ⟨7, 3⟩), .advance 2, .advance 2] ++
    .accept (.openHandle ⟨7, 1⟩ 0) :: .replicate 3 (.advance 3) ++
    [.accept (.getHandleProperties ⟨7, 3⟩), .advance 4]

theorem reachesOwn_closeOvertaken :
    (solo.after closeOvertaken).registry.drawn < 2 ^ 64 ∧ solo.ReachesOwn closeOvertaken :=
  ⟨by decide, reachesOwn_of_drawn_lt 7 4096 _ closeOvertaken (by decide)⟩

/-- A request that names the identifier of the accelerator reaches the handle
that was opened later, for another identifier, and reports on the management device. -/
theorem misdirected_of_closeOvertaken :
    Opens (solo.turns closeOvertaken) 1 ⟨7, 3⟩ ⟨0x20000000⟩ ∧
    Opens (solo.turns closeOvertaken) 3 ⟨7, 4⟩ ⟨0x20000000⟩ ∧
    tenant ⟨0x20000000⟩ (solo.turns closeOvertaken) = some 3 ∧
    ∃ turn properties, (solo.after closeOvertaken).turnBy (.advance 4) = [turn] ∧
      turn.request = .getHandleProperties ⟨7, 3⟩ ∧
      turn.deed = ⟨.call (.getHandleProperties ⟨0x20000000⟩), .ok properties⟩ ∧
      properties.kind = some .device := by
  have hfirst : deedsAt (solo.turns closeOvertaken) 1 =
      [⟨.find .token ⟨7, 2⟩, some ⟨⟨0x1001⟩⟩⟩,
        ⟨.call (.openHandle ⟨0x1001⟩ 0), .ok ⟨0x20000000⟩⟩,
        ⟨.register .handle ⟨⟨0x20000000⟩, ⟨7, 2⟩⟩, some ⟨7, 3⟩⟩] := rfl
  have hsecond : deedsAt (solo.turns closeOvertaken) 3 =
      [⟨.find .token ⟨7, 1⟩, some ⟨⟨0x1000⟩⟩⟩,
        ⟨.call (.openHandle ⟨0x1000⟩ 0), .ok ⟨0x20000000⟩⟩,
        ⟨.register .handle ⟨⟨0x20000000⟩, ⟨7, 1⟩⟩, some ⟨7, 4⟩⟩] := rfl
  refine ⟨⟨⟨⟨0x1001⟩, 0, ?_⟩, ⟨7, 2⟩, ?_⟩, ⟨⟨⟨0x1000⟩, 0, ?_⟩, ⟨7, 1⟩, ?_⟩, rfl,
    _, _, rfl, rfl, rfl, rfl⟩
  · rw [hfirst]
    simp
  · rw [hfirst]
    simp
  · rw [hsecond]
    simp
  · rw [hsecond]
    simp

end Workload

end DeviceBroker
