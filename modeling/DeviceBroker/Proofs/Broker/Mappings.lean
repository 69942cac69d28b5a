import DeviceBroker.Proofs.Broker.Freshness
import DeviceBroker.Proofs.Broker.Regions
import DeviceBroker.Proofs.Broker.Slots

/-!
# What live mappings stand for

Every mapping has an identifier of its own, but the driver has a region mapped
or not, whatever the number of identifiers. So in a history of requests served
one after another, a live mapping belongs to a live handle, and its region is
mapped, unless it was `Withdrawn`: unmapped through another mapping of the same
region, and not mapped again. Exactly then the driver refuses to unmap it.
-/

namespace DeviceBroker

open Service

variable {cards : Nat}

/-! ## Between requests -/

/-- All claims that are held were granted to one request, which is to settle them. -/
structure HoldsAll (request : Request) (past : List Deed) (b : Broker cards) : Prop where
  granted : ∀ cls id entry, ⟨.claim cls id, .ok entry⟩ ∈ past → request.target? = some (cls, id)
  held : ∀ cls id entry, (b.registry.map cls).slots.find? id = some ⟨entry, true⟩ →
    Holding past cls id entry

theorem HoldsAll.perform {request : Request} {past : List Deed} {b : Broker cards}
    (h : HoldsAll request past b) {a : Action} (hp : request.Permits past a) :
    HoldsAll request (past ++ [⟨a, (b.perform a).1⟩]) (b.perform a).2 where
  granted cls id entry hm := by
    rcases List.mem_append.mp hm with hm | hm
    · exact h.granted cls id entry hm
    · have haction := congrArg Deed.action (List.mem_singleton.mp hm)
      subst haction
      exact hp.1
  held cls id entry hs := by
    have hchange := b.slotChange_perform a cls id
    rw [hs] at hchange
    generalize hd : (⟨a, (b.perform a).1⟩ : Deed) = deed,
      hslot : (b.registry.map cls).slots.find? id = slot at hchange ⊢
    cases hchange with
    | same untouched =>
      exact (h.held cls id entry hslot).append_one fun how settled =>
        untouched.unsettled entry how settled rfl
    | claimed =>
      obtain rfl : a = .claim cls id := congrArg Deed.action hd
      refine ⟨List.mem_append_right _ (List.mem_singleton_self _), fun how settled hm => ?_⟩
      rcases List.mem_append.mp hm with hm | hm
      · exact hp.2 how settled hm
      · cases List.mem_singleton.mp hm

namespace Broker

/-- No claim is held. -/
def Unclaimed (b : Broker cards) : Prop :=
  ∀ cls id entry, (b.registry.map cls).slots.find? id ≠ some ⟨entry, true⟩

/-- A request gives back or uses up every claim that it is granted. -/
theorem unclaimed_handle {b : Broker cards} (h : b.Unclaimed) (request : Request) :
    (b.handle request).2.Unclaimed := by
  have hstart : HoldsAll request [] b :=
    ⟨fun _ _ _ hm => absurd hm List.not_mem_nil, fun cls id entry hs => absurd hs (h cls id entry)⟩
  obtain ⟨past, haccepts, hall⟩ := (request.obeys_program b.payloadLimit).run_tracks
    (fun past b' a hpermits hb => HoldsAll.perform hb hpermits) hstart
  intro cls id entry hs
  have hholding := hall.held cls id entry hs
  have hends := haccepts cls id (hall.granted cls id entry hholding.granted)
  obtain ⟨how, settled, hsettle, -⟩ := hends.settled entry hholding.granted
  exact hholding.unsettled how settled hsettle

theorem unclaimed_after {b : Broker cards} (h : b.Unclaimed) (events : List Event) :
    (b.after events).Unclaimed := by
  induction events generalizing b with
  | nil => exact h
  | cons event rest ih =>
    cases event with
    | serve request => exact ih (unclaimed_handle h request)
    | disturb d => exact ih (b := b.disturb d) h

theorem after_concat (b : Broker cards) (events : List Event) (event : Event) :
    b.after (events ++ [event]) = (b.after events).step event := by
  simp [after]

theorem unclaimed_start (source : IdSource) (device : Simulator cards) (limit : UInt64) :
    (start source device limit).Unclaimed := by
  intro cls id entry hs
  cases cls <;> cases hs

/-- A history only extends a registry, while the sequence of identifiers lasts. -/
theorem extends_step {salt : UInt64} {b : Broker cards} {event : Event}
    (hsound : b.registry.Sound salt) (hb : (b.step event).registry.drawn < 2 ^ 64) :
    (b.step event).registry.Extends b.registry := by
  cases event with
  | serve request =>
    obtain ⟨count, hcount⟩ := Workload.exists_schedule_handle ⟨b, []⟩ request
    have hsame := congrArg Broker.registry hcount
    have hlt := hb
    change (b.handle request).2.registry.drawn < 2 ^ 64 at hlt
    change (b.handle request).2.registry.Extends b.registry
    rw [← hsame] at hlt ⊢
    exact (Workload.after_sound (w := ⟨b, []⟩) _ hsound hlt).2
  | disturb d => exact .refl _

/-- A handle that is live before and after an event keeps its native value. -/
theorem native?_of_step {salt : UInt64} {b : Broker cards} {event : Event}
    (hsound : b.registry.Sound salt) (hb : (b.step event).registry.drawn < 2 ^ 64) {id : RemoteId}
    {native native' : NativeHandle} (h : b.native? id = some native)
    (h' : (b.step event).native? id = some native') : native = native' := by
  obtain ⟨entry, hf, rfl⟩ := Option.map_eq_some_iff.mp h
  obtain ⟨entry', hf', rfl⟩ := Option.map_eq_some_iff.mp h'
  have hbefore := (extends_step hsound hb).find?_of_live hsound hf hf'
  rw [hf] at hbefore
  exact congrArg HandleEntry.handle (Option.some.inj hbefore)

end Broker

/-! ## One request -/

theorem mapped_override (mapped : NativeHandle → UInt32 → Bool) (native other : NativeHandle)
    (region number : UInt32) (value : Bool) :
    override mapped other (override (mapped other) number value) native region =
      if native = other ∧ region = number then value else mapped native region := by
  by_cases hn : native = other
  · subst hn
    by_cases hr : region = number
    · simp [hr]
    · simp [hr, override_of_ne _ _ hr]
  · simp [hn, override_of_ne _ _ hn]

/-- If the region of a live mapping was mapped exactly if it was not withdrawn
before a request, so it is after it. -/
theorem Remapping.mapped_iff {b b' : Broker cards} {request : Request} {id owner : RemoteId}
    {region : UInt32} {native : NativeHandle} (h : Remapping b request b')
    (hdistinct : ∀ one two value, b.native? one = some value → b.native? two = some value →
      one = two)
    (hid : b'.region? id = some (owner, region))
    (hsame : ∀ value, b.native? owner = some value → value = native) {withdrawn : Prop}
    (hbefore : b.region? id = some (owner, region) →
      b.native? owner = some native ∧ (b.mapped native region = true ↔ ¬ withdrawn)) :
    b'.mapped native region = true ↔
      ¬ ((∃ other, request = .unmapMmio owner other region ∧ other ≠ id ∧
          b.region? id = some (owner, region) ∧ b.Grants (.unmapMmio owner other region)) ∨
        withdrawn ∧
          ¬ (request = .mapMmio owner region ∧ b.Grants (.mapMmio owner region))) := by
  have hrest : ∀ {unmapped remapped : Prop}, ¬ unmapped → ¬ remapped →
      (¬ withdrawn ↔ ¬ (unmapped ∨ withdrawn ∧ ¬ remapped)) :=
    fun hu hr => not_congr ((or_iff_right hu).trans (and_iff_left hr)).symm
  cases h with
  | kept mapped regions failed =>
    obtain ⟨-, hiff⟩ := hbefore (regions id _ hid)
    rw [mapped, hiff]
    refine hrest ?_ ?_
    · rintro ⟨other, rfl, -, -, hgrants⟩
      exact failed (.inr rfl) hgrants
    · rintro ⟨rfl, hgrants⟩
      exact failed (.inl rfl) hgrants
  | @closed handleId closing _ live mapped regions =>
    obtain ⟨hlive, hne⟩ := regions id _ hid
    obtain ⟨hn, hiff⟩ := hbefore hlive
    have hother : native ≠ closing := by
      rintro rfl
      exact hne (hdistinct owner handleId native hn live)
    rw [mapped, override_of_ne _ _ hother, hiff]
    exact hrest nofun nofun
  | @mapped handleId number opening _ live granted mapped regions =>
    rw [mapped, mapped_override]
    by_cases hr : owner = handleId ∧ region = number
    · obtain ⟨rfl, rfl⟩ := hr
      rw [if_pos ⟨(hsame opening live).symm, rfl⟩]
      refine iff_of_true rfl ?_
      rintro (⟨other, heq, -⟩ | ⟨-, hnot⟩)
      · cases heq
      · exact hnot ⟨rfl, granted⟩
    · obtain ⟨hn, hiff⟩ :=
        hbefore ((regions id _ hid).resolve_right fun heq => hr (Prod.mk.inj heq))
      have hother : ¬ (native = opening ∧ region = number) := by
        rintro ⟨rfl, hnumber⟩
        exact hr ⟨hdistinct owner handleId native hn live, hnumber⟩
      rw [if_neg hother, hiff]
      refine hrest nofun ?_
      rintro ⟨heq, -⟩
      cases heq
      exact hr ⟨rfl, rfl⟩
  | @unmapped handleId mappingId number opening _ live granted mapped regions =>
    obtain ⟨hlive, hne⟩ := regions id _ hid
    obtain ⟨hn, hiff⟩ := hbefore hlive
    rw [mapped, mapped_override]
    by_cases hr : owner = handleId ∧ region = number
    · obtain ⟨rfl, rfl⟩ := hr
      rw [if_pos ⟨(hsame opening live).symm, rfl⟩]
      exact iff_of_false nofun fun hnot => hnot (.inl ⟨mappingId, rfl, hne.symm, hlive, granted⟩)
    · have hother : ¬ (native = opening ∧ region = number) := by
        rintro ⟨rfl, hnumber⟩
        exact hr ⟨hdistinct owner handleId native hn live, hnumber⟩
      rw [if_neg hother, hiff]
      refine hrest ?_ nofun
      rintro ⟨other, heq, -⟩
      cases heq
      exact hr ⟨rfl, rfl⟩

namespace Broker

/-! ## Histories -/

/-- Since a mapping was live, its region was unmapped through another mapping,
and the region was not mapped again. -/
def Withdrawn (b : Broker cards) (events : List Event) (id owner : RemoteId) (region : UInt32) :
    Prop :=
  ∃ early other late, events = early ++ .serve (.unmapMmio owner other region) :: late ∧
    other ≠ id ∧ (b.after early).region? id = some (owner, region) ∧
    (b.after early).Grants (.unmapMmio owner other region) ∧
    ∀ one two, late = one ++ .serve (.mapMmio owner region) :: two →
      ¬ (b.after (early ++ .serve (.unmapMmio owner other region) :: one)).Grants
        (.mapMmio owner region)

theorem withdrawn_concat {b : Broker cards} {events : List Event} {event : Event}
    {id owner : RemoteId} {region : UInt32} :
    b.Withdrawn (events ++ [event]) id owner region ↔
      (∃ other, event = .serve (.unmapMmio owner other region) ∧ other ≠ id ∧
        (b.after events).region? id = some (owner, region) ∧
        (b.after events).Grants (.unmapMmio owner other region)) ∨
      b.Withdrawn events id owner region ∧
        ¬ (event = .serve (.mapMmio owner region) ∧
          (b.after events).Grants (.mapMmio owner region)) := by
  constructor
  · rintro ⟨early, other, late, heq, hne, hlive, hgrants, hlater⟩
    rcases concat_split heq with ⟨rfl, rfl, -⟩ | ⟨more, rfl, rfl⟩
    · exact .inl ⟨other, rfl, hne, hlive, hgrants⟩
    · refine .inr ⟨⟨early, other, more, rfl, hne, hlive, hgrants, fun one two hmore => ?_⟩, ?_⟩
      · exact hlater one (two ++ [event]) (by rw [hmore]; simp)
      · rintro ⟨rfl, hmap⟩
        exact hlater more [] rfl hmap
  · rintro (⟨other, rfl, hne, hlive, hgrants⟩ | ⟨⟨early, other, late, rfl, hne, hlive, hgrants,
      hlater⟩, hnot⟩)
    · exact ⟨events, other, [], rfl, hne, hlive, hgrants, fun one two h => by simp at h⟩
    · refine ⟨early, other, late ++ [event], by simp, hne, hlive, hgrants, fun one two heq => ?_⟩
      rcases concat_split heq with ⟨rfl, rfl, -⟩ | ⟨more, hlate, -⟩
      · exact fun hmap => hnot ⟨rfl, hmap⟩
      · exact hlater one more hlate

section

variable {salt : UInt64} {b : Broker cards} {past : List Record} {id owner : RemoteId}
  {region : UInt32} {native : NativeHandle}

/-- The owner of a live mapping is a live handle. -/
theorem native?_of_region? (hp : Provenance past b.ownership)
    (h : b.region? id = some (owner, region)) : ∃ native, b.native? owner = some native := by
  obtain ⟨native, hn, -⟩ := hp.created .mapping id owner _ (region?_eq_some_iff.mp h)
  exact ⟨native, hn⟩

/-- The region of a live mapping is mapped through its owner exactly if it was not withdrawn. -/
def Faithful (b : Broker cards) (events : List Event) : Prop :=
  ∀ id owner region native, (b.after events).region? id = some (owner, region) →
    (b.after events).native? owner = some native →
    ((b.after events).mapped native region = true ↔ ¬ b.Withdrawn events id owner region)

theorem faithful_concat {events : List Event} {event : Event} (h : b.Faithful events)
    (hp : Provenance past (b.after events).ownership)
    (hsound : (b.after events).registry.Sound salt)
    (hb : ((b.after events).step event).registry.drawn < 2 ^ 64) :
    b.Faithful (events ++ [event]) := by
  intro id owner region native hid hn
  rw [after_concat] at hid hn ⊢
  rw [withdrawn_concat]
  have hsame : ∀ value, (b.after events).native? owner = some value → value = native :=
    fun value hv => native?_of_step hsound hb hv hn
  have hbefore : (b.after events).region? id = some (owner, region) →
      (b.after events).native? owner = some native ∧
      ((b.after events).mapped native region = true ↔ ¬ b.Withdrawn events id owner region) := by
    intro hlive
    obtain ⟨value, hv⟩ := native?_of_region? hp hlive
    obtain rfl := hsame value hv
    exact ⟨hv, h id owner region value hlive hv⟩
  cases event with
  | disturb d =>
    obtain ⟨-, hiff⟩ := hbefore hid
    have hmapped := congrArg Openings.mapped ((b.after events).device.openings_disturb d)
    change ((b.after events).disturb d).mapped = (b.after events).mapped at hmapped
    change ((b.after events).disturb d).mapped native region = true ↔ _
    rw [hmapped, hiff]
    simp
  | serve request =>
    have hremapping := request.remapping hsound hb
    simp only [Event.serve.injEq]
    exact hremapping.mapped_iff hp.distinct hid hsame hbefore

theorem sound_after {events : List Event} (h : b.registry.Sound salt)
    (hb : (b.after events).registry.drawn < 2 ^ 64) : (b.after events).registry.Sound salt := by
  induction events generalizing b with
  | nil => exact h
  | cons event rest ih =>
    have hmid := Nat.lt_of_le_of_lt ((b.step event).drawn_le_after rest) hb
    exact ih (sound_step event h hmid) hb

theorem faithful_after {images : String → Option (List UInt8)} {limit : UInt64}
    {events : List Event}
    (drawn : ((start (.seeded salt) (.start cards images) limit).after events).registry.drawn <
      2 ^ 64) : (start (.seeded salt) (.start cards images) limit).Faithful events := by
  induction events using List.reverseRecOn with
  | nil =>
    intro id owner region native hid
    have hnone : (start (.seeded salt) (.start cards images) limit).region? id = none :=
      congrArg (Option.map _) (IdentityMap.find?_empty id)
    exact absurd (hnone.symm.trans hid) nofun
  | append_singleton events event ih =>
    have hstep := drawn
    rw [after_concat] at hstep
    have hmid := Nat.lt_of_le_of_lt (drawn_le_step _ event) hstep
    have hp := provenance_after (provenance_start cards (.seeded salt) images limit) events
    exact faithful_concat (ih hmid) hp
      (sound_after (Registry.sound_empty (IdSource.effectiveSalt_ne_zero salt)) hmid) hstep

end

/-- What the driver answers to a live mapping that is to be unmapped through its
owner depends on the region alone, if no failure is armed. -/
theorem handle_unmapMmio {b : Broker cards} (hu : b.Unclaimed) {id : RemoteId}
    {entry : MappingEntry} {handle : HandleEntry}
    (live : (b.registry.map .mapping).find? id = some entry)
    (owned : (b.registry.map .handle).find? entry.owner = some handle)
    (unarmed : b.device.armed .unmapMmio = none) :
    (b.handle (.unmapMmio entry.owner id entry.region)).1 =
      .ofResult .unmapMmio
        (if b.mapped handle.handle entry.region then .ok () else .error .invalidParam) := by
  obtain ⟨hv, ⟨found, claimed⟩, hs, heq⟩ := IdentityMap.slots_of_find? live
  obtain rfl : found = entry := heq
  cases claimed with
  | true => exact absurd hs (hu _ _ _)
  | false =>
  rw [handle_eq]
  have hanswer : (exec (Service.device (.unmapMmio handle.handle found.region)) b).1 =
      if b.mapped handle.handle found.region = true then .ok () else .error .invalidParam :=
    Simulator.answer_call_unmapMmio unarmed handle.handle found.region
  have hserve : (exec (Request.serve b.payloadLimit (.unmapMmio found.owner id found.region)) b).1 =
      _ := (congrArg Prod.fst (exec_bind_of_ok _ (exec_lookup_of_some owned))).trans
    (exec_teardown_fst
      (deviceOnly_require_bind (deviceOnly_require_bind (deviceOnly_device _))) hv hs)
  refine congrArg (Reply.ofResult .unmapMmio)
    (hserve.trans (Eq.trans (congrArg Prod.fst ?_) hanswer))
  -- Both checks compare the entry with what was recorded in it.
  exact ((exec_require_bind _ _ _ b).trans (if_pos (beq_self_eq_true _))).trans
    ((exec_require_bind _ _ _ b).trans (if_pos (beq_self_eq_true _)))

/-- What stands behind a live mapping after a history: a live handle that owns
it, and what the driver keeps for that handle. -/
structure Backing (b : Broker cards) (events : List Event) (id : RemoteId) (entry : MappingEntry)
    (handle : HandleEntry) (state : OpenHandle cards) : Prop where
  owner : ((b.after events).registry.map .handle).find? entry.owner = some handle
  opened : (b.after events).device.handles.find? handle.handle = some state
  /-- The region is mapped unless the mapping was withdrawn. -/
  mapped : state.mapped entry.region = true ↔ ¬ b.Withdrawn events id entry.owner entry.region
  /-- If no failure is armed, the mapping can be unmapped exactly if its region is mapped. -/
  answer : (b.after events).device.armed .unmapMmio = none →
    ((b.after events).handle (.unmapMmio entry.owner id entry.region)).1 =
      .ofResult .unmapMmio (if state.mapped entry.region then .ok () else .error .invalidParam)

/-- Along a history, a live mapping belongs to a live handle, and the driver has
its region mapped for that handle unless the mapping was withdrawn. -/
theorem mapped_unless_withdrawn {salt limit : UInt64} {images : String → Option (List UInt8)}
    {events : List Event}
    (drawn : ((start (.seeded salt) (.start cards images) limit).after events).registry.drawn <
      2 ^ 64) (id : RemoteId) (entry : MappingEntry)
    (live : (((start (.seeded salt) (.start cards images) limit).after
      events).registry.map .mapping).find? id = some entry) :
    ∃ handle state, (start (.seeded salt) (.start cards images) limit).Backing events id entry
      handle state := by
  have hunclaimed := unclaimed_after
    (unclaimed_start (.seeded salt) (.start cards images) limit) events
  have hprovenance := provenance_after (provenance_start cards (.seeded salt) images limit) events
  have hid : ((start (.seeded salt) (.start cards images) limit).after events).region? id =
      some (entry.owner, entry.region) := congrArg (Option.map _) live
  obtain ⟨native, hn⟩ := native?_of_region? hprovenance hid
  have hiff := faithful_after drawn id entry.owner entry.region native hid hn
  obtain ⟨state, hs⟩ := (Table.contains_iff _ _).mp (hprovenance.opened _ _ hn)
  obtain ⟨handle, hh, rfl⟩ := Option.map_eq_some_iff.mp hn
  have hmapped : ((start (.seeded salt) (.start cards images) limit).after events).mapped
      handle.handle entry.region = state.mapped entry.region :=
    congrArg (Option.any fun state : OpenHandle cards => state.mapped entry.region) hs
  rw [hmapped] at hiff
  refine ⟨handle, state, hh, hs, hiff, fun unarmed => ?_⟩
  rw [← hmapped]
  exact handle_unmapMmio hunclaimed live hh unarmed

/-- A region is mapped twice, and unmapped through the first of the two mappings. -/
def sharedRegion : List Event :=
  [.serve (.enumerate [] 2), .serve (.openHandle ⟨7, 2⟩ 0), .serve (.mapMmio ⟨7, 3⟩ 0),
    .serve (.mapMmio ⟨7, 3⟩ 0), .serve (.unmapMmio ⟨7, 3⟩ ⟨7, 4⟩ 0)]

/-- The mapping that was left behind stands for the region again once that is mapped again. -/
theorem mapped_unless_withdrawn_remapped :
    ((start (.seeded 7) (.start 1 fun _ => none) 4096).after
      (sharedRegion ++ [.serve (.mapMmio ⟨7, 3⟩ 0)])).registry.drawn < 2 ^ 64 ∧
    (((start (.seeded 7) (.start 1 fun _ => none) 4096).after
      (sharedRegion ++ [.serve (.mapMmio ⟨7, 3⟩ 0)])).registry.map .mapping).find? ⟨7, 5⟩ =
      some ⟨⟨7, 3⟩, 0, 0x40100000⟩ ∧
    ∃ handle state, (start (.seeded 7) (.start 1 fun _ => none) 4096).Backing
      (sharedRegion ++ [.serve (.mapMmio ⟨7, 3⟩ 0)]) ⟨7, 5⟩ ⟨⟨7, 3⟩, 0, 0x40100000⟩ handle state :=
  ⟨by decide, rfl, mapped_unless_withdrawn (by decide) ⟨7, 5⟩ ⟨⟨7, 3⟩, 0, 0x40100000⟩ rfl⟩

/-- The second mapping is live, as is its owner, but the region is not mapped any
more; nothing is armed, and to unmap it through its owner is refused. -/
theorem unmapped_of_sharedRegion :
    (((start (.seeded 7) (.start 1 fun _ => none) 4096).after
      sharedRegion).registry.map .mapping).find? ⟨7, 5⟩ = some ⟨⟨7, 3⟩, 0, 0x40100000⟩ ∧
    (∃ handle state,
      (((start (.seeded 7) (.start 1 fun _ => none) 4096).after
        sharedRegion).registry.map .handle).find? ⟨7, 3⟩ = some handle ∧
      ((start (.seeded 7) (.start 1 fun _ => none) 4096).after
        sharedRegion).device.handles.find? handle.handle = some state ∧
      state.mapped 0 = false) ∧
    ((start (.seeded 7) (.start 1 fun _ => none) 4096).after
      sharedRegion).device.armed .unmapMmio = none ∧
    (((start (.seeded 7) (.start 1 fun _ => none) 4096).after
      sharedRegion).handle (.unmapMmio ⟨7, 3⟩ ⟨7, 5⟩ 0)).1 =
      .ofResult .unmapMmio (.error .invalidParam) :=
  ⟨rfl, ⟨_, _, rfl, rfl, rfl⟩, rfl, rfl⟩

end Broker

end DeviceBroker
