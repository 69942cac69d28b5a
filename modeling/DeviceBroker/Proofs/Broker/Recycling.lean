import DeviceBroker.Proofs.Broker.History
import DeviceBroker.Proofs.Broker.Renaming
import DeviceBroker.Proofs.Broker.Trace

/-!
# The values of handles cannot be observed

Two histories that differ only in whether closed values of handles are given
out again run in lockstep: at every point one broker is the other with its
handles renamed. A new handle gets two values that neither side uses, and the
renaming is changed by swapping them in. Nothing else looks at the values, so
all replies are the same.
-/

namespace DeviceBroker

variable {cards : Nat}

/-! ## Opening a handle -/

/-- The renaming that also matches two values that have been chosen for one new handle. -/
def Recasting.meeting (c : Recasting) (one other : NativeHandle) (nextHandle : Nat) :
    Recasting where
  names := (Equiv.swap one (c.names.symm other)).trans c.names
  nextHandle := nextHandle
  recycling := c.recycling

section

variable (c : Recasting) (one other : NativeHandle) (nextHandle : Nat)

@[simp] theorem Recasting.names_meeting_self :
    (c.meeting one other nextHandle).names one = other := by
  simp [meeting]

theorem Recasting.names_meeting_of_ne {handle : NativeHandle} (h : handle ≠ one)
    (h' : handle ≠ c.names.symm other) :
    (c.meeting one other nextHandle).names handle = c.names handle := by
  simp [meeting, Equiv.swap_apply_of_ne_of_ne h h']

end

namespace Simulator

/-- A value that no recast handle has is the new name of one that no handle has. -/
theorem contains_symm_of_recast {s : Simulator cards} {c : Recasting} {other : NativeHandle}
    (h : (s.recast c).handles.contains other = false) :
    s.handles.contains (c.names.symm other) = false := by
  refine Eq.trans (s.handles.contains_relabel c.names (fun state => state) _).symm ?_
  rwa [Equiv.apply_symm_apply]

/-- Opening a handle is refused alike, or it gets two values that are both new. -/
theorem openHandle_recast (s : Simulator cards) (c : Recasting) (token : NativeToken)
    (flags : UInt32) :
    (∃ fault, s.openHandle token flags = .error fault ∧
      (s.recast c).openHandle token flags = .error fault) ∨
    ∃ handle other nextHandle t, s.handles.contains handle = false ∧
      s.handles.contains (c.names.symm other) = false ∧
      s.openHandle token flags = .ok (handle, t) ∧
      (s.recast c).openHandle token flags =
        .ok (other, t.recast (c.meeting handle other nextHandle)) := by
  unfold openHandle
  rw [siteOf_recast]
  cases s.siteOf token with
  | error fault => exact .inl ⟨fault, rfl, rfl⟩
  | ok site =>
    dsimp only
    rw [resources_recast]
    split
    · exact .inl ⟨.busy, rfl, rfl⟩
    · have hfree := s.not_contains_freeSlot
      have hfree' := contains_symm_of_recast (s.recast c).not_contains_freeSlot
      refine .inr ⟨_, _, max c.nextHandle ((s.recast c).freeSlot + 1), _, hfree, hfree', rfl, ?_⟩
      have hold : s.handles.relabel c.names (fun state => state) =
          s.handles.relabel (c.meeting (handleAt s.freeSlot) (handleAt (s.recast c).freeSlot)
            (max c.nextHandle ((s.recast c).freeSlot + 1))).names fun state => state := by
        refine Table.relabel_congr fun handle state hs => ⟨Eq.symm ?_, rfl⟩
        have hopen : s.handles.contains handle = true := (Table.contains_iff _ _).mpr ⟨state, hs⟩
        refine c.names_meeting_of_ne _ _ _ ?_ ?_
        · rintro rfl
          cases hopen.symm.trans hfree
        · rintro rfl
          cases hopen.symm.trans hfree'
      have hnew : (s.recast c).handles.insert (handleAt (s.recast c).freeSlot)
          ⟨site, !Flags.has flags Flags.openShared, fun _ => false, .empty⟩ = _ :=
        congrArg (Table.insert · _ _) hold
      refine congrArg (fun t => Except.ok (_, t)) ?_
      rw [hnew]
      unfold recast
      dsimp only
      rw [Table.relabel_insert, Recasting.names_meeting_self]
      rfl

theorem call_openHandle_recast (s : Simulator cards) (c : Recasting) (token : NativeToken)
    (flags : UInt32) :
    (∃ fault t, s.call (.openHandle token flags) = (.error fault, t) ∧
      (s.recast c).call (.openHandle token flags) = (.error fault, t.recast c)) ∨
    ∃ handle other nextHandle t, s.handles.contains handle = false ∧
      s.handles.contains (c.names.symm other) = false ∧
      s.call (.openHandle token flags) = (.ok handle, t) ∧
      (s.recast c).call (.openHandle token flags) =
        (.ok other, t.recast (c.meeting handle other nextHandle)) := by
  have harmed : (s.recast c).armed = s.armed := rfl
  cases ha : s.armed (DeviceCall.openHandle token flags).kind with
  | some fault =>
    rw [call_of_armed ha, call_of_armed (harmed ▸ ha)]
    exact .inl ⟨fault, _, rfl, rfl⟩
  | none =>
    rw [call_of_unarmed ha, call_of_unarmed (harmed ▸ ha)]
    have hserve : ∀ t : Simulator cards,
        t.serve (.openHandle token flags) = t.commit (t.openHandle token flags) := fun _ => rfl
    rw [hserve, hserve]
    rcases s.openHandle_recast c token flags with
      ⟨fault, hs, hm⟩ | ⟨handle, other, nextHandle, t, hone, hother, hs, hm⟩
    · rw [hs, hm]
      exact .inl ⟨fault, _, rfl, rfl⟩
    · rw [hs, hm]
      exact .inr ⟨handle, other, nextHandle, _, hone, hother, rfl, rfl⟩

end Simulator

/-! ## Requests -/

namespace Broker

/-- The handles that the registry remembers are open, so a value that is newly
given out is none of them. -/
def Remembers (b : Broker cards) : Prop :=
  ∀ id slot, b.registry.handles.slots.find? id = some slot →
    b.device.handles.contains slot.entry.handle = true

theorem rename_meeting {b : Broker cards} (h : b.Remembers) (c : Recasting)
    {one other : NativeHandle} (nextHandle : Nat) (hone : b.device.handles.contains one = false)
    (hother : b.device.handles.contains (c.names.symm other) = false) :
    b.registry.rename (c.meeting one other nextHandle).names = b.registry.rename c.names := by
  unfold Registry.rename
  congr 1
  refine IdentityMap.rename_congr fun id slot hs => ?_
  have hopen := h id slot hs
  refine HandleEntry.ext (c.names_meeting_of_ne _ _ _ ?_ ?_) rfl
  · intro heq
    rw [heq, hone] at hopen
    cases hopen
  · intro heq
    rw [heq, hother] at hopen
    cases hopen

end Broker

open Service

/-- A handle is opened alike, up to the two values that are chosen for it. -/
theorem exec_openHandle_recast {b : Broker cards} (h : b.Remembers) (c : Recasting)
    (token : NativeToken) (flags : UInt32) :
    (∃ fault b', exec (device (.openHandle token flags)) b = (.error fault, b') ∧
      exec (device (.openHandle token flags)) (b.recast c) = (.error fault, b'.recast c)) ∨
    ∃ handle other nextHandle b', exec (device (.openHandle token flags)) b = (.ok handle, b') ∧
      exec (device (.openHandle token flags)) (b.recast c) =
        (.ok other, b'.recast (c.meeting handle other nextHandle)) := by
  have hdevice : (b.recast c).device = b.device.recast c := rfl
  rw [exec_device, exec_device, hdevice]
  rcases b.device.call_openHandle_recast c token flags with
    ⟨fault, t, hs, hm⟩ | ⟨handle, other, nextHandle, t, hone, hother, hs, hm⟩
  · rw [hs, hm]
    exact .inl ⟨fault, _, rfl, rfl⟩
  · rw [hs, hm]
    refine .inr ⟨handle, other, nextHandle, _, rfl, congrArg (Prod.mk _) ?_⟩
    exact congrArg (Broker.mk · _ _) (Broker.rename_meeting h c nextHandle hone hother).symm

/-- A handle with two values is registered alike. -/
theorem mirrored_trackHandle {c : Recasting} {handle other : NativeHandle}
    (h : c.names handle = other) (tokenId : RemoteId) :
    Mirrored c
      (do let handleId ← registerOrUndo .handle ⟨handle, tokenId⟩ (.closeHandle handle)
          return (⟨handleId, tokenId⟩ : HandleHeader))
      (do let handleId ← registerOrUndo .handle ⟨other, tokenId⟩ (.closeHandle other)
          return (⟨handleId, tokenId⟩ : HandleHeader)) := by
  subst h
  exact (mirrored_registerOrUndo .handle ⟨handle, tokenId⟩ (by nofun)).bind
    fun _ => mirrored_pure c _

/-- A recast broker replies as the broker does, and stays a recast of it. -/
theorem Broker.handle_recast {b : Broker cards} (h : b.Remembers) (c : Recasting)
    (request : Request) :
    ∃ c', (b.recast c).handle request =
      ((b.handle request).1, (b.handle request).2.recast c') := by
  have hlimit : (b.recast c).payloadLimit = b.payloadLimit := rfl
  rw [handle_eq, handle_eq, hlimit]
  by_cases ho : request.operation ≠ .openHandle
  · have hmirrored := request.mirrored_serve c ho b.payloadLimit cards b
    exact ⟨c, congrArg (fun outcome => (Reply.ofResult _ outcome.1, outcome.2)) hmirrored⟩
  cases request with
  | openHandle tokenId flags =>
    have hfind : ((b.recast c).registry.map .token).find? tokenId =
        (b.registry.map .token).find? tokenId := rfl
    unfold Request.serve
    cases hf : (b.registry.map .token).find? tokenId with
    | none =>
      rw [exec_bind_of_error _ (exec_lookup_of_none hf),
        exec_bind_of_error _ (exec_lookup_of_none (hfind.trans hf))]
      exact ⟨c, rfl⟩
    | some entry =>
      rw [exec_bind_of_ok _ (exec_lookup_of_some hf),
        exec_bind_of_ok _ (exec_lookup_of_some (hfind.trans hf))]
      rcases exec_openHandle_recast h c entry.token flags with
        ⟨fault, b', hs, hm⟩ | ⟨handle, other, nextHandle, b', hs, hm⟩
      · rw [exec_bind_of_error _ hs, exec_bind_of_error _ hm]
        exact ⟨c, rfl⟩
      · rw [exec_bind_of_ok _ hs, exec_bind_of_ok _ hm]
        have htracked := mirrored_trackHandle
          (c.names_meeting_self handle other nextHandle) tokenId
        exact ⟨c.meeting handle other nextHandle,
          congrArg (fun outcome => (Reply.ofResult .openHandle outcome.1, outcome.2))
            (htracked cards b')⟩
  | _ => exact absurd nofun ho

/-! ## Histories -/

/-- The sentinel has no slot, whatever the source of identifiers yields. -/
def Registry.Nominal (r : Registry) : Prop := ∀ cls, (r.map cls).slots.find? .sentinel = none

theorem Registry.nominal_empty (source : IdSource) : (Registry.empty source).Nominal := by
  intro cls
  cases cls <;> rfl

theorem Registry.Step.nominal {r r' : Registry} {issued : Option RemoteId}
    (h : Registry.Step r issued r') (hn : r.Nominal) : r'.Nominal := by
  intro cls
  refine Option.eq_none_iff_forall_ne_some.mpr fun slot hs => ?_
  cases h with
  | shrink within =>
    obtain ⟨old, ho, -⟩ := slots_of_within within hs
    exact nomatch (hn cls).symm.trans ho
  | waste within =>
    obtain ⟨old, ho, -⟩ := slots_of_within within (map_withSource _ _ cls ▸ hs)
    exact nomatch (hn cls).symm.trans ho
  | issue entry admitted slots natives =>
    obtain ⟨hv, -, -⟩ := (IdentityMap.admits_iff _ _ _).mp admitted
    rcases slots_of_put slots (map_withSource _ _ cls ▸ hs) with ⟨hid, -⟩ | hold
    · exact hv hid.symm
    · exact nomatch (hn cls).symm.trans hold

namespace Broker

theorem nominal_step {b : Broker cards} (h : b.registry.Nominal) (event : Event) :
    (b.step event).registry.Nominal := by
  cases event with
  | serve request =>
    exact (request.program b.payloadLimit).run_preserves (I := fun b => b.registry.Nominal)
      (fun b' a hb => (b'.step_perform a).nominal hb) h
  | disturb d => exact h

theorem remembers_of_provenance {b : Broker cards} {past : List Record}
    (h : Provenance past b.ownership) (hn : b.registry.Nominal) : b.Remembers := by
  intro id slot hs
  have hv : id ≠ .sentinel := by
    rintro rfl
    exact nomatch (hn .handle).symm.trans hs
  have hlive := IdentityMap.find?_of_slots hv hs
  exact h.opened id slot.entry.handle (congrArg (Option.map HandleEntry.handle) hlive)

/-- Whether an event has the values of closed handles given out again. -/
def Event.recycles : Event → Bool
  | .disturb .recycle => true
  | _ => false

/-- The same history with the values of closed handles never given out again. -/
def withoutRecycling (events : List Event) : List Event :=
  events.filter fun event => !event.recycles

/-- Unless values are given out again from now on, recast cards are disturbed alike. -/
theorem disturb_recast (b : Broker cards) (c : Recasting) {d : Disturbance}
    (h : Event.recycles (.disturb d) = false) :
    (b.recast c).disturb d = (b.disturb d).recast c := by
  cases d with
  | recycle => cases h
  | arm kind fault => rfl
  | raise token number bits =>
    unfold disturb Simulator.disturb Simulator.raiseError
    have hregister : (b.recast c).device.errorRegister token number =
        b.device.errorRegister token number := rfl
    dsimp only
    rw [hregister]
    cases b.device.errorRegister token number <;> rfl

/-- A recast broker goes through a history in lockstep with the broker that
goes through it without recycling. -/
theorem lockstep {b : Broker cards} {past : List Record} (hp : Provenance past b.ownership)
    (hn : b.registry.Nominal) (c : Recasting) (events : List Event) :
    (b.recast c).dialogue events = b.dialogue (withoutRecycling events) ∧
      ∃ c', (b.recast c).after events = (b.after (withoutRecycling events)).recast c' := by
  induction events generalizing b past c with
  | nil => exact ⟨rfl, c, rfl⟩
  | cons event rest ih =>
    cases event with
    | serve request =>
      obtain ⟨c', hc⟩ := handle_recast (remembers_of_provenance hp hn) c request
      obtain ⟨hdialogue, last, hafter⟩ := ih (provenance_step hp (.serve request))
        (nominal_step hn (.serve request)) c'
      have hstep : ((b.recast c).handle request).2 = (b.handle request).2.recast c' :=
        congrArg Prod.snd hc
      refine ⟨?_, last, (congrArg (Broker.after · rest) hstep).trans hafter⟩
      change (request, ((b.recast c).handle request).1) :: _ = (request, (b.handle request).1) :: _
      rw [hstep, congrArg Prod.fst hc]
      exact congrArg _ hdialogue
    | disturb d =>
      cases hd : Event.recycles (.disturb d) with
      | false =>
        have hkept : withoutRecycling (.disturb d :: rest) = .disturb d :: withoutRecycling rest :=
          List.filter_cons_of_pos (by rw [hd]; rfl)
        rw [hkept, dialogue, dialogue, after_cons, after_cons]
        change (Broker.dialogue ((b.recast c).disturb d) rest = _) ∧
          ∃ c', Broker.after ((b.recast c).disturb d) rest = _
        rw [disturb_recast b c hd]
        exact ih (provenance_step hp (.disturb d)) (nominal_step hn (.disturb d)) c
      | true =>
        obtain rfl : d = .recycle := by cases d <;> first | rfl | cases hd
        exact ih hp hn { c with recycling := true }

/-- What is seen of a broker by those who never look at the values of handles. -/
structure LooksLike (b b' : Broker cards) : Prop where
  ids : ∀ cls, (b.registry.map cls).ids = (b'.registry.map cls).ids
  openHandles : b.device.openHandles = b'.device.openHandles
  calls : b.device.calls = b'.device.calls

theorem looksLike_recast (b : Broker cards) (c : Recasting) : (b.recast c).LooksLike b where
  ids cls := by rw [map_recast, IdentityMap.ids_rename]
  openHandles := b.device.handles.size_relabel c.names _
  calls := rfl

theorem recast_refl (b : Broker cards) :
    b.recast ⟨Equiv.refl NativeHandle, b.device.nextHandle, b.device.recycling⟩ = b := by
  unfold recast Simulator.recast
  rw [Registry.rename_refl, Table.relabel_refl]

/-- Whether closed values of handles are given out again, and from when on,
shows neither in any reply nor in which identifiers are live, how many handles
are open and how many calls there were. -/
theorem recycling_unobservable (source : IdSource) (images : String → Option (List UInt8))
    (limit : UInt64) (events : List Event) :
    (start source (.start cards images) limit).dialogue events =
        (start source (.start cards images) limit).dialogue (withoutRecycling events) ∧
      ((start source (.start cards images) limit).after events).LooksLike
        ((start source (.start cards images) limit).after (withoutRecycling events)) := by
  have hlockstep := lockstep (provenance_start cards source images limit)
    (Registry.nominal_empty source) ⟨Equiv.refl NativeHandle, 0, false⟩ events
  rw [show (start source (.start cards images) limit).recast ⟨Equiv.refl NativeHandle, 0, false⟩ =
    start source (.start cards images) limit from recast_refl _] at hlockstep
  obtain ⟨hdialogue, c, hafter⟩ := hlockstep
  exact ⟨hdialogue, hafter ▸ looksLike_recast _ c⟩

end Broker

end DeviceBroker
