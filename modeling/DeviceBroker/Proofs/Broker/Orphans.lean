import DeviceBroker.Proofs.Broker.Origins
import DeviceBroker.Proofs.Broker.Teardowns

/-!
# Children and their owners

A mapping or a buffer is registered for a handle that was looked up before the
driver was called, and closing the handle removes what the handle owns at that
time. So a child outlives its owner in one way only: the removal falls between
the look-up and the registration. Nobody removes such an orphan along with its
owner any more, and as its owner does not come back, no request that names the
owner is served.
-/

namespace DeviceBroker

variable {cards : Nat}

theorem Request.eq_closeHandle {request : Request} {id : RemoteId}
    (h : request.target? = some (.handle, id)) : request = .closeHandle id := by
  cases request <;> cases h
  rfl

section

variable {past : List Deed} {cls : ResourceClass} {owner : RemoteId}

/-- Who registers a child has looked up the owner. -/
theorem Founded.find_owner {entry : cls.Entry} (h : Founded past cls entry)
    (ho : cls.owner? entry = some owner) :
    ∃ handle, ⟨.find .handle owner, some handle⟩ ∈ past := by
  cases cls <;> cases ho
  · exact h
  · exact h

/-- Who has removed a handle removes the children, of every class that has them. -/
theorem Request.Ends.removed {request : Request} {reply : Reply} {entry : cls.Entry}
    (h : request.Ends past .handle owner reply) {settled : Bool}
    (hs : ⟨.settle .handle owner .commit, settled⟩ ∈ past) (ho : cls.owner? entry = some owner) :
    ∃ gone, ⟨.removeOwned cls owner, gone⟩ ∈ past := by
  obtain ⟨hmappings, hbuffers⟩ := h.cascaded settled hs
  cases cls <;> cases ho
  · exact hmappings
  · exact hbuffers

end

/-- A child was registered for an owner that was looked up while it was live;
but what the owner owns was removed in between. -/
def Overtaken (turns : List Turn) (cls : ResourceClass) (id owner : RemoteId) : Prop :=
  ∃ one lookup two removal three creation four,
    turns = one ++ lookup :: two ++ removal :: three ++ creation :: four ∧
    lookup.place = creation.place ∧ removal.request = .closeHandle owner ∧
    (∃ handle, lookup.deed = ⟨.find .handle owner, some handle⟩) ∧
    (∃ gone, removal.deed = ⟨.removeOwned cls owner, gone⟩) ∧
    ∃ entry, creation.deed = ⟨.register cls entry, some id⟩ ∧ cls.owner? entry = some owner

theorem Overtaken.append {turns : List Turn} {cls : ResourceClass} {id owner : RemoteId}
    (h : Overtaken turns cls id owner) (more : List Turn) :
    Overtaken (turns ++ more) cls id owner := by
  obtain ⟨one, lookup, two, removal, three, creation, four, rfl, hturns⟩ := h
  exact ⟨one, lookup, two, removal, three, creation, four ++ more, by simp, hturns⟩

/-- The request has been replied to. -/
def Task.ended (task : Task) : Bool :=
  match task.rest with
  | .done _ => true
  | .act _ _ => false

theorem Task.eq_done_of_ended {task : Task} (h : task.ended = true) :
    ∃ reply, task.rest = .done reply := by
  unfold ended at h
  split at h
  · exact ⟨_, ‹_›⟩
  · cases h

namespace Workload

/-- No request is in flight. -/
def Quiescent (w : Workload cards) : Prop := w.tasks.all Task.ended = true

theorem Quiescent.eq_done {w : Workload cards} (h : w.Quiescent) {place : Nat} {task : Task}
    (hget : w.tasks[place]? = some task) : ∃ reply, task.rest = .done reply :=
  Task.eq_done_of_ended (List.all_eq_true.mp h task (List.mem_of_getElem? hget))

/-- A handle is gone only because a claim on it was committed. -/
theorem exists_commit_of_slot?_eq_none {w : Workload cards} {events : List Event} {id : RemoteId}
    {slot : Slot .handle} (h : w.slot? .handle id = some slot)
    (hgone : (w.after events).slot? .handle id = none) :
    ∃ turn ∈ w.turns events, turn.deed = ⟨.settle .handle id .commit, true⟩ := by
  induction events generalizing w slot with
  | nil => exact absurd (h.symm.trans hgone) nofun
  | cons event rest ih =>
    rw [turns_cons]
    have hlater : ∀ {slot : Slot .handle}, (w.step event).slot? .handle id = some slot →
        ∃ turn ∈ w.turnBy event ++ (w.step event).turns rest,
          turn.deed = ⟨.settle .handle id .commit, true⟩ := by
      intro slot hs
      obtain ⟨turn, hm, hd⟩ := ih hs hgone
      exact ⟨turn, List.mem_append_right _ hm, hd⟩
    obtain ⟨-, hsame⟩ | ⟨turn, next, hby, -, hchange⟩ := w.slot?_step event .handle id
    · exact hlater (hsame.trans h)
    rw [h] at hchange
    generalize hs : (w.step event).slot? .handle id = slot', hd : turn.deed = deed at hchange
    cases hchange with
    | same | claimed | released => exact hlater hs
    | committed => exact ⟨turn, by rw [hby]; simp, hd⟩
    | cascaded _ _ _ owned => cases owned

theorem Orderly.request_eq {w : Workload cards} {turns : List Turn} (h : w.Orderly turns)
    {one two : Turn} (hone : one ∈ turns) (htwo : two ∈ turns) (hp : one.place = two.place) :
    one.request = two.request := by
  obtain ⟨rest, hget⟩ := h.known one hone
  obtain ⟨rest', hget'⟩ := h.known two htwo
  rw [hp, hget'] at hget
  exact (congrArg Task.request (Option.some.inj hget)).symm

/-- When no request is in flight, whoever has removed a handle has later removed
what the handle owns. -/
theorem Orderly.exists_removal {w : Workload cards} {before after : List Turn} {commit : Turn}
    (h : w.Orderly (before ++ commit :: after)) (quiet : w.Quiescent) {owner : RemoteId}
    {settled : Bool} (hd : commit.deed = ⟨.settle .handle owner .commit, settled⟩)
    {cls : ResourceClass} {entry : cls.Entry} (ho : cls.owner? entry = some owner) :
    ∃ removal ∈ after, removal.request = .closeHandle owner ∧
      ∃ gone, removal.deed = ⟨.removeOwned cls owner, gone⟩ := by
  have hm : commit ∈ before ++ commit :: after := by simp
  have hpermits := h.lawful before commit after rfl
  rw [hd] at hpermits
  obtain ⟨htarget, ⟨entry', hholding⟩, -⟩ := hpermits
  obtain ⟨rest, htask⟩ := h.known commit hm
  obtain ⟨reply, rfl⟩ := quiet.eq_done htask
  have hends := h.obeys _ _ htask .handle owner htarget
  obtain ⟨gone, hgone⟩ := hends.removed (mem_deedsAt.mpr ⟨commit, hm, rfl, hd⟩) ho
  obtain ⟨removal, hremoval, hplace, hrd⟩ := mem_deedsAt.mp hgone
  refine ⟨removal, ?_, ?_, gone, hrd⟩
  · rcases List.mem_append.mp hremoval with hearlier | hlater
    · -- The removal follows a commit, and none was made before this one.
      obtain ⟨first, second, rfl⟩ := List.append_of_mem hearlier
      have hpermits := h.lawful first removal (second ++ commit :: after) (by simp)
      rw [hrd, hplace] at hpermits
      obtain ⟨-, settled', hsettle⟩ := hpermits
      refine absurd ?_ (hholding.unsettled .commit settled')
      rw [deedsAt_append]
      exact List.mem_append_left _ hsettle
    · refine (List.mem_cons.mp hlater).resolve_left fun heq => ?_
      rw [heq, hd] at hrd
      cases hrd
  · rw [h.request_eq hremoval hm hplace]
    exact Request.eq_closeHandle htarget

section

variable {source : IdSource} {device : Simulator cards} {limit : UInt64} {events : List Event}
  {cls : ResourceClass} {id owner : RemoteId}

/-- A live child was registered by a request that had found its owner live, and
since then what the owner owns was not removed. -/
theorem exists_creation_of_slot? {slot : Slot cls}
    (h : ((start source device limit).after events).slot? cls id = some slot)
    (ho : cls.owner? slot.entry = some owner) :
    ∃ one lookup between creation four handle,
      (start source device limit).turns events =
        one ++ lookup :: (between ++ creation :: four) ∧
      lookup.place = creation.place ∧ lookup.deed = ⟨.find .handle owner, some handle⟩ ∧
      creation.deed = ⟨.register cls slot.entry, some id⟩ ∧
      ∀ turn ∈ four, ∀ gone, turn.deed ≠ ⟨.removeOwned cls owner, gone⟩ := by
  have hcls : cls ≠ .token := by
    rintro rfl
    cases ho
  obtain ⟨before, creation, four, hturns, hcreation, hkept⟩ := exists_register_of_slot? hcls h
  have hfounded := (orderly_after source device limit events).lawful before creation four hturns
  rw [hcreation] at hfounded
  obtain ⟨handle, hfind⟩ := Founded.find_owner hfounded ho
  obtain ⟨lookup, hm, hplace, hlookup⟩ := mem_deedsAt.mp hfind
  obtain ⟨one, between, rfl⟩ := List.append_of_mem hm
  exact ⟨one, lookup, between, creation, four, handle, by rw [hturns]; simp, hplace, hlookup,
    hcreation, fun turn hm gone => hkept turn hm owner gone ho⟩

/-- When no request is in flight, the handle that owns a live child is live,
unless the creation of the child was overtaken by the closing of the handle. -/
theorem live_or_overtaken (quiet : ((start source device limit).after events).Quiescent)
    {slot : Slot cls} (h : ((start source device limit).after events).slot? cls id = some slot)
    (ho : cls.owner? slot.entry = some owner) :
    (∃ handle, ((start source device limit).after events).slot? .handle owner = some handle) ∨
      Overtaken ((start source device limit).turns events) cls id owner := by
  have horderly := orderly_after source device limit events
  obtain ⟨one, lookup, between, creation, four, handle, hturns, hplace, hlookup, hcreation,
    hkept⟩ := exists_creation_of_slot? h ho
  obtain ⟨early, late, claimed, rfl, hearly, hlive⟩ := slot?_of_find hturns hlookup
  cases hend : ((start source device limit).after (early ++ late)).slot? .handle owner with
  | some handle => exact .inl ⟨handle, rfl⟩
  | none =>
    right
    -- The owner was removed after the look-up, and so was what it owned then.
    rw [after_append] at hend
    obtain ⟨commit, hcommit, hd⟩ := exists_commit_of_slot?_eq_none hlive hend
    have hlate : ((start source device limit).after early).turns late =
        lookup :: (between ++ creation :: four) := by
      rw [turns_append, hearly] at hturns
      exact List.append_cancel_left hturns
    obtain ⟨first, second, hsplit⟩ := List.append_of_mem (hlate ▸ hcommit)
    rw [hturns, hsplit, ← List.append_assoc] at horderly
    obtain ⟨removal, hm, hrequest, gone, hrd⟩ := horderly.exists_removal quiet hd ho
    have hremoval : removal ∈ lookup :: (between ++ creation :: four) := by
      rw [hsplit]
      exact List.mem_append_right _ (List.mem_cons_of_mem _ hm)
    -- As the child is still there, it was registered only after that.
    have hbetween : removal ∈ between := by
      rcases List.mem_cons.mp hremoval with rfl | hm
      · cases hlookup.symm.trans hrd
      rcases List.mem_append.mp hm with hm | hm
      · exact hm
      rcases List.mem_cons.mp hm with rfl | hm
      · cases hcreation.symm.trans hrd
      · exact absurd hrd (hkept removal hm gone)
    obtain ⟨two, three, rfl⟩ := List.append_of_mem hbetween
    exact ⟨one, lookup, two, removal, three, creation, four, by rw [hturns]; simp, hplace,
      hrequest, ⟨handle, hlookup⟩, ⟨gone, hrd⟩, slot.entry, hcreation, ho⟩

end

/-- A mapping is created without interruption. -/
def mapped : List Event := opening ++ .accept (.mapMmio ⟨7, 3⟩ 0) :: .replicate 3 (.advance 2)

theorem live_or_overtaken_mapped :
    (solo.after mapped).Quiescent ∧
    (solo.after mapped).slot? .mapping ⟨7, 4⟩ = some ⟨⟨⟨7, 3⟩, 0, 0x40100000⟩, false⟩ ∧
    ((∃ handle, (solo.after mapped).slot? .handle ⟨7, 3⟩ = some handle) ∨
      Overtaken (solo.turns mapped) .mapping ⟨7, 4⟩ ⟨7, 3⟩) :=
  ⟨rfl, rfl, @live_or_overtaken 1 (.seeded 7) (.start 1 fun _ => none) 4096 mapped .mapping ⟨7, 4⟩
    ⟨7, 3⟩ rfl ⟨⟨⟨7, 3⟩, 0, 0x40100000⟩, false⟩ rfl rfl⟩

/-- Between the call of the driver and the registration of a mapping, another
request closes the handle and removes what the handle owns. -/
def mapOvertaken : List Event :=
  opening ++ [.accept (.mapMmio ⟨7, 3⟩ 0), .advance 2, .advance 2] ++
    .accept (.closeHandle ⟨7, 3⟩) :: .replicate 5 (.advance 3) ++ [.advance 2]

/-- No request is in flight, and a mapping is live whose owner is not; to unmap
it through the owner is refused. -/
theorem orphan_of_mapOvertaken :
    (solo.after mapOvertaken).Quiescent ∧
    (∃ slot, (solo.after mapOvertaken).slot? .mapping ⟨7, 4⟩ = some slot ∧
      slot.entry.owner = ⟨7, 3⟩) ∧
    (solo.after mapOvertaken).slot? .handle ⟨7, 3⟩ = none ∧
    ((solo.after mapOvertaken).broker.handle (.unmapMmio ⟨7, 3⟩ ⟨7, 4⟩ 0)).1 =
      .ofResult .unmapMmio (.error .invalidParam) :=
  ⟨rfl, ⟨_, rfl, rfl⟩, rfl, rfl⟩

/-- A handle has no owner, so it is never removed along with one. -/
theorem not_cascaded_handle {source : IdSource} {device : Simulator cards} {limit : UInt64}
    {events : List Event} {id : RemoteId} :
    ¬ Cascaded ((start source device limit).turns events) .handle id := by
  rintro ⟨turn, hm, owner, entry, gone, -, hd, hgone⟩
  obtain ⟨before, later, hsplit⟩ := List.append_of_mem hm
  obtain ⟨early, late, next, -, -, htakes, -⟩ := exists_of_turns_eq hsplit
  have hanswer := htakes.answer
  rw [hd] at hanswer
  rw [show gone = _ from hanswer] at hgone
  cases ((IdentityMap.mem_ownedBy _ owner id entry).mp hgone).2

section Sequence

variable {salt limit : UInt64} {device : Simulator cards} {events : List Event}
  {cls : ResourceClass} {id owner : RemoteId}

/-- While the sequence lasts, a handle does not come back once a claim on it was committed. -/
theorem slot?_eq_none_of_commit
    (drawn : ((start (.seeded salt) device limit).after events).registry.drawn < 2 ^ 64)
    {commit : Turn} (hm : commit ∈ (start (.seeded salt) device limit).turns events)
    {settled : Bool} (hd : commit.deed = ⟨.settle .handle id .commit, settled⟩) :
    ((start (.seeded salt) device limit).after events).slot? .handle id = none := by
  have hlawful := (orderly_after (.seeded salt) device limit events).lawful
  obtain ⟨before, later, hsplit⟩ := List.append_of_mem hm
  have hpermits := hlawful before commit later hsplit
  rw [hd] at hpermits
  obtain ⟨-, ⟨entry, hholding⟩, -⟩ := hpermits
  obtain ⟨early, late, next, rfl, rfl, htakes, -⟩ := exists_of_turns_eq hsplit
  rw [show early ++ .advance commit.place :: late = (early ++ [.advance commit.place]) ++ late by
    simp, after_append] at drawn ⊢
  have hmid := Nat.lt_of_le_of_lt (drawn_le_after _ late) drawn
  have hearly := Nat.lt_of_le_of_lt (drawn_le_concat _ early (.advance commit.place)) hmid
  -- It was live and claimed when the claim was committed, and gone right after.
  have hlive := (slot?_of_holding hearly hholding).resolve_right not_cascaded_handle
  have hchange := slotChange_of_turnBy htakes.turnBy .handle id
  rw [hlive, hd] at hchange
  have hgone := hchange.of_commit
  obtain ⟨hsound, -⟩ := after_sound early (sound_start salt device limit) hearly
  rw [after_concat] at hmid drawn ⊢
  obtain ⟨hsound', hext⟩ := after_sound [.advance commit.place] hsound hmid
  obtain ⟨hsound'', hext'⟩ := after_sound late hsound' drawn
  refine Option.map_eq_none_iff.mp (((hsound''.wellFormed .handle).find?_eq id).symm.trans ?_)
  exact hext.find?_eq_none_of_gone hsound hext'
    (((hsound.wellFormed .handle).find?_eq id).trans (congrArg _ hlive))
    (((hsound'.wellFormed .handle).find?_eq id).trans (congrArg _ hgone))

/-- While the sequence lasts, the owner of a child that was overtaken is gone for good. -/
theorem slot?_owner_of_overtaken
    (drawn : ((start (.seeded salt) device limit).after events).registry.drawn < 2 ^ 64)
    (h : Overtaken ((start (.seeded salt) device limit).turns events) cls id owner) :
    ((start (.seeded salt) device limit).after events).slot? .handle owner = none := by
  have hlawful := (orderly_after (.seeded salt) device limit events).lawful
  obtain ⟨one, lookup, two, removal, three, creation, four, hturns, -, -, -, ⟨gone, hd⟩, -⟩ := h
  have hpermits := hlawful (one ++ lookup :: two) removal (three ++ creation :: four)
    (by rw [hturns]; simp)
  rw [hd] at hpermits
  obtain ⟨-, settled, hsettle⟩ := hpermits
  obtain ⟨commit, hm, -, hd⟩ := mem_deedsAt.mp hsettle
  have hcommit : commit ∈ (start (.seeded salt) device limit).turns events := by
    rw [hturns, List.append_assoc]
    exact List.mem_append_left _ hm
  exact slot?_eq_none_of_commit drawn hcommit hd

end Sequence

end Workload

end DeviceBroker
