import DeviceBroker.Proofs.Broker.Workload
import DeviceBroker.Proofs.Simulator.Cores

/-!
# Who has a resource open

A resource has a count of the handles that are open on it and a flag that keeps
others out, and every open handle remembers how it was opened. These are kept
apart, and `Held` says how they belong together: either all handles on the
resource were opened shared and the flag is down, or there is one handle, it
was not opened shared, and the flag is up. Opening and closing keep this and
all other calls leave it alone, so it holds along every run of a driver.
-/

namespace DeviceBroker

variable {cards : Nat} {α : Type}

/-- How a handle was opened: on which resource, and whether others are let in beside it. -/
@[ext] structure Opening (cards : Nat) where
  site : Site cards
  shared : Bool
  deriving DecidableEq

/-- Who has the resources open. -/
@[ext] structure Tenure (cards : Nat) where
  /-- The open handles. -/
  handles : List NativeHandle
  /-- How an open handle was opened. -/
  opening : NativeHandle → Option (Opening cards)
  /-- How many handles a resource counts, and whether it keeps others out. -/
  seat : Site cards → Nat × Bool

namespace Tenure

/-- The handles that are open on a resource. -/
def holders (n : Tenure cards) (site : Site cards) : List NativeHandle :=
  n.handles.filter fun handle => (n.opening handle).map Opening.site = some site

/-- A further handle is open. -/
def join (n : Tenure cards) (handle : NativeHandle) (opening : Opening cards) : Tenure cards where
  handles := handle :: n.handles
  opening := override n.opening handle (some opening)
  seat := override n.seat opening.site ((n.seat opening.site).1 + 1, !opening.shared)

/-- A handle is no longer open. -/
def dismiss (n : Tenure cards) (handle : NativeHandle) (opening : Opening cards) :
    Tenure cards where
  handles := n.handles.filter (· != handle)
  opening := override n.opening handle none
  seat := override n.seat opening.site
    ((n.seat opening.site).1 - 1, if opening.shared then (n.seat opening.site).2 else false)

/-- A resource is held by handles that were all opened shared, or by one that was not. -/
inductive Held (site : Site cards) (opening : NativeHandle → Option (Opening cards)) :
    List NativeHandle → Nat × Bool → Prop
  | shared {holders : List NativeHandle}
      (all : ∀ handle ∈ holders, opening handle = some ⟨site, true⟩) :
      Held site opening holders (holders.length, false)
  | exclusive {handle : NativeHandle} (only : opening handle = some ⟨site, false⟩) :
      Held site opening [handle] (1, true)

/-- Every resource is held as it says, by handles that are each counted once. -/
structure Orderly (n : Tenure cards) : Prop where
  nodup : n.handles.Nodup
  held : ∀ site, Held site n.opening (n.holders site) (n.seat site)

variable {n : Tenure cards} {site : Site cards} {handle : NativeHandle} {shared : Bool}
  {opening : Opening cards}

theorem mem_holders_iff :
    handle ∈ n.holders site ↔
      handle ∈ n.handles ∧ (n.opening handle).map Opening.site = some site := by
  simp [holders]

theorem holders_join (h : handle ∉ n.handles) (other : Site cards) :
    (n.join handle opening).holders other =
      if opening.site = other then handle :: n.holders other else n.holders other := by
  have hrest : n.handles.filter
      (fun one => (override n.opening handle (some opening) one).map Opening.site = some other) =
      n.holders other := by
    refine List.filter_congr fun one hone => ?_
    rw [override_of_ne _ _ fun heq : one = handle => h (heq ▸ hone)]
  unfold holders join at *
  dsimp only
  rw [List.filter_cons, hrest]
  by_cases ho : opening.site = other
  · simp [ho]
  · simp [ho]

theorem holders_dismiss (other : Site cards) :
    (n.dismiss handle opening).holders other = (n.holders other).filter (· != handle) := by
  unfold holders dismiss
  dsimp only
  rw [List.filter_filter, List.filter_filter]
  refine List.filter_congr fun one _ => ?_
  by_cases ho : one = handle
  · simp [ho]
  · simp [ho, override_of_ne, Bool.and_comm]

/-- What is recorded of handles that do not hold the resource does not matter. -/
theorem Held.congr {record record' : NativeHandle → Option (Opening cards)}
    {holders : List NativeHandle} {seat : Nat × Bool} (held : Held site record holders seat)
    (h : ∀ handle ∈ holders, record' handle = record handle) :
    Held site record' holders seat := by
  cases held with
  | shared all => exact .shared fun one hone => (h one hone).trans (all one hone)
  | exclusive only => exact .exclusive ((h _ List.mem_cons_self).trans only)

theorem Held.count {record : NativeHandle → Option (Opening cards)}
    {holders : List NativeHandle} {seat : Nat × Bool} (held : Held site record holders seat) :
    seat.1 = holders.length := by
  cases held with
  | shared all => rfl
  | exclusive only => rfl

/-- A handle may join if all are shared, or if there is no other. -/
def Compatible (n : Tenure cards) (site : Site cards) (shared : Bool) : Prop :=
  ∀ handle ∈ n.holders site, shared = true ∧ n.opening handle = some ⟨site, true⟩

/-- The flag and the count tell whether a handle may join. -/
theorem Orderly.compatible_iff (h : n.Orderly) (site : Site cards) (shared : Bool) :
    n.Compatible site shared ↔
      ((n.seat site).2 || (!shared && decide ((n.seat site).1 > 0))) = false := by
  have held := h.held site
  unfold Compatible
  generalize n.holders site = holders at held ⊢
  generalize n.seat site = seat at held ⊢
  cases held with
  | shared all =>
    cases shared with
    | true => simpa using all
    | false => simp [List.eq_nil_iff_forall_not_mem]
  | exclusive only =>
    simp [only]

theorem Orderly.join (h : n.Orderly) (fresh : handle ∉ n.handles)
    (free : n.Compatible opening.site opening.shared) : (n.join handle opening).Orderly := by
  refine ⟨List.nodup_cons.mpr ⟨fresh, h.nodup⟩, fun site => ?_⟩
  rw [holders_join fresh]
  have held := h.held site
  have hkept : ∀ one ∈ n.holders site, (n.join handle opening).opening one = n.opening one :=
    fun one hone => override_of_ne _ _ fun heq : one = handle =>
      fresh (heq ▸ (mem_holders_iff.mp hone).1)
  by_cases hs : opening.site = site
  · subst hs
    rw [if_pos rfl]
    have hseat : (n.join handle opening).seat opening.site =
        ((n.seat opening.site).1 + 1, !opening.shared) := override_self _ _ _
    have hnew : (n.join handle opening).opening handle = some opening := override_self _ _ _
    rw [hseat]
    obtain ⟨site, shared⟩ := opening
    cases shared with
    | true =>
      -- All the others were opened shared, so all are now.
      rw [held.count]
      refine .shared fun one hone => ?_
      rcases List.mem_cons.mp hone with rfl | hone
      · exact hnew
      · exact (hkept one hone).trans (free one hone).2
    | false =>
      -- There are no others.
      have hnone : n.holders site = [] :=
        List.eq_nil_iff_forall_not_mem.mpr fun one hone => by cases (free one hone).1
      rw [hnone] at held ⊢
      generalize n.seat site = seat at held ⊢
      cases held with
      | shared all => exact .exclusive hnew
  · rw [if_neg hs]
    have hseat : (n.join handle opening).seat site = n.seat site :=
      override_of_ne _ _ (Ne.symm hs)
    rw [hseat]
    exact held.congr hkept

theorem Orderly.dismiss (h : n.Orderly) (present : handle ∈ n.handles)
    (opened : n.opening handle = some opening) : (n.dismiss handle opening).Orderly := by
  refine ⟨h.nodup.filter _, fun site => ?_⟩
  rw [holders_dismiss]
  have held := h.held site
  have hnodup : (n.holders site).Nodup := h.nodup.filter _
  have hkept : ∀ one ∈ (n.holders site).filter (· != handle),
      (n.dismiss handle opening).opening one = n.opening one := fun one hone =>
    override_of_ne _ _ (by simpa using (List.mem_filter.mp hone).2)
  by_cases hs : opening.site = site
  · subst hs
    have hmem : handle ∈ n.holders opening.site :=
      mem_holders_iff.mpr ⟨present, by rw [opened]; rfl⟩
    have hseat : (n.dismiss handle opening).seat opening.site =
        ((n.seat opening.site).1 - 1,
          if opening.shared then (n.seat opening.site).2 else false) := override_self _ _ _
    rw [hseat]
    generalize n.holders opening.site = holders at held hnodup hkept hmem ⊢
    generalize n.seat opening.site = seat at held ⊢
    cases held with
    | shared all =>
      have hcount : holders.length - 1 = (holders.filter (· != handle)).length := by
        rw [← hnodup.erase_eq_filter, List.length_erase_of_mem hmem]
      dsimp only
      rw [hcount, ite_self]
      exact .shared fun one hone =>
        (hkept one hone).trans (all one (List.mem_filter.mp hone).1)
    | exclusive only =>
      obtain rfl := List.mem_singleton.mp hmem
      have hshared : opening.shared = false :=
        congrArg Opening.shared (Option.some.inj (opened.symm.trans only))
      have hnone : [handle].filter (· != handle) = [] := by simp
      rw [hnone, hshared]
      exact .shared fun one hone => by cases hone
  · have hgone : (n.holders site).filter (· != handle) = n.holders site := by
      refine List.filter_eq_self.mpr fun one hone => ?_
      have hne : one ≠ handle := by
        rintro rfl
        have hsite := (mem_holders_iff.mp hone).2
        rw [opened] at hsite
        exact hs (Option.some.inj hsite)
      simpa using hne
    have hseat : (n.dismiss handle opening).seat site = n.seat site :=
      override_of_ne _ _ (Ne.symm hs)
    rw [hgone] at hkept ⊢
    rw [hseat]
    exact held.congr hkept

end Tenure

/-- Whether a call opens or closes a handle, if it succeeds. -/
def DeviceCall.occupies : DeviceCall → Bool
  | .openHandle _ _ | .closeHandle _ => true
  | _ => false

/-- How many handles a resource counts, and whether it keeps others out. -/
def Core.seat (c : Core) : Nat × Bool := (c.openCount, c.exclusive)

namespace Simulator

variable {s t : Simulator cards}

/-- How an open handle was opened. -/
def opening (s : Simulator cards) (handle : NativeHandle) : Option (Opening cards) :=
  (s.handles.find? handle).map fun state => ⟨state.site, !state.exclusive⟩

def tenure (s : Simulator cards) : Tenure cards where
  handles := s.handles.keys
  opening := s.opening
  seat site := (s.cores site).seat

/-! ## Calls that neither open nor close -/

theorem tenure_congr (hk : t.handles.keys = s.handles.keys) (ho : t.opening = s.opening)
    (hs : ∀ site, (t.cores site).seat = (s.cores site).seat) : t.tenure = s.tenure :=
  Tenure.ext hk ho (funext hs)

theorem opening_congr (h : t.handles = s.handles) : t.opening = s.opening := by
  unfold opening
  rw [h]

/-- A handle may change in what is mapped through it and in its buffers. -/
theorem tenure_modify (s : Simulator cards) (handle : NativeHandle)
    {change : OpenHandle cards → OpenHandle cards}
    (hsite : ∀ state, (change state).site = state.site)
    (hexclusive : ∀ state, (change state).exclusive = state.exclusive) :
    ({ s with handles := s.handles.modify handle change } : Simulator cards).tenure =
      s.tenure := by
  refine tenure_congr (s.handles.keys_modify _ _) (funext fun other => ?_) fun _ => rfl
  unfold opening
  rw [Table.find?_modify]
  split
  · cases s.handles.find? other with
    | none => rfl
    | some state => simp [hsite, hexclusive]
  · rfl

theorem tenure_setMapped (s : Simulator cards) (handle : NativeHandle) (region : UInt32)
    (mapped : Bool) : (s.setMapped handle region mapped).tenure = s.tenure :=
  s.tenure_modify handle (fun _ => rfl) fun _ => rfl

theorem tenure_changeBuffers (s : Simulator cards) (handle : NativeHandle)
    (change : Table Nat Buffer → Table Nat Buffer) :
    (s.changeBuffers handle change).tenure = s.tenure :=
  s.tenure_modify handle (fun _ => rfl) fun _ => rfl

theorem tenure_commit {result : Except Fault (α × Simulator cards)}
    (h : ∀ value t, result = .ok (value, t) → t.tenure = s.tenure) :
    (s.commit result).2.tenure = s.tenure :=
  commit_preserves (I := fun t => t.tenure = s.tenure) rfl h

theorem seat_of_override {site : Site cards} {core : Core}
    (h : t.cores = override s.cores site core) (hseat : core.seat = (s.cores site).seat)
    (other : Site cards) : (t.cores other).seat = (s.cores other).seat := by
  rw [h]
  by_cases ho : other = site
  · rw [ho, override_self, hseat]
  · rw [override_of_ne _ _ ho]

theorem seat_commit {result : Except Fault (α × Simulator cards)}
    (h : ∀ value t, result = .ok (value, t) → ∀ site, (t.cores site).seat = (s.cores site).seat)
    (site : Site cards) : ((s.commit result).2.cores site).seat = (s.cores site).seat :=
  commit_preserves (I := fun t => ∀ site, (t.cores site).seat = (s.cores site).seat)
    (fun _ => rfl) h site

theorem seat_serve (s : Simulator cards) {call : DeviceCall} (h : call.occupies = false)
    (site : Site cards) : ((s.serve call).2.cores site).seat = (s.cores site).seat := by
  cases hc : call.touchesCore with
  | false => rw [s.cores_serve hc]
  | true =>
    cases call with
    | openHandle | closeHandle => cases h
    | resetHandle =>
      refine seat_commit (fun _ _ h => ?_) site
      obtain ⟨state, -, hcores⟩ := cores_of_resetHandle h
      exact seat_of_override hcores rfl
    | writeMmio32 | writeMmio64 | writeMmio512 =>
      refine seat_commit (fun _ _ h => ?_) site
      obtain ⟨state, -, hcores⟩ := cores_of_writeRegister h
      exact seat_of_override hcores rfl
    | reconfigureSlot =>
      refine seat_commit (fun _ _ h => ?_) site
      obtain ⟨state, image, guid, -, -, -, -, -, hcores⟩ := cores_of_reconfigureSlot h
      exact seat_of_override hcores rfl
    | _ => cases hc

theorem tenure_serve (s : Simulator cards) {call : DeviceCall} (h : call.occupies = false) :
    (s.serve call).2.tenure = s.tenure := by
  cases ht : call.touchesHandle with
  | false =>
    have hhandles := s.handles_serve ht
    exact tenure_congr (by rw [hhandles]) (opening_congr hhandles) (s.seat_serve h)
  | true =>
    cases call with
    | openHandle | closeHandle => cases h
    | mapMmio =>
      exact tenure_commit fun _ _ h => by
        obtain ⟨-, rfl⟩ := mapMmio_ok h
        exact s.tenure_setMapped _ _ _
    | unmapMmio =>
      exact tenure_commit fun _ _ h => by
        obtain ⟨-, rfl⟩ := unmapMmio_ok h
        exact s.tenure_setMapped _ _ _
    | prepareBuffer =>
      exact tenure_commit fun _ _ h => by
        obtain ⟨state, buffer, -, -, -, rfl⟩ := prepareBuffer_ok h
        exact tenure_changeBuffers _ _ _
    | releaseBuffer =>
      exact tenure_commit fun _ _ h => by
        obtain ⟨-, rfl⟩ := releaseBuffer_ok h
        exact s.tenure_changeBuffers _ _
    | bufferWrite =>
      exact tenure_commit fun _ _ h => by
        obtain ⟨state, buffer, -, -, rfl⟩ := writeBuffer_ok h
        exact s.tenure_changeBuffers _ _
    | _ => cases ht

/-! ## Opening and closing -/

/-- Whether a resource lets a further handle in. -/
theorem openHandle_of_live {token : NativeToken} {site : Site cards}
    (live : s.tokens.find? token = some site) (flags : UInt32) :
    s.openHandle token flags =
      if (s.tenure.seat site).2 ||
          (!Flags.has flags Flags.openShared && decide ((s.tenure.seat site).1 > 0)) then
        .error .busy
      else
        .ok (handleAt s.freeSlot,
          { s.updateResource site fun r =>
              { r with openCount := r.openCount + 1
                       exclusive := !Flags.has flags Flags.openShared } with
            nextHandle := max s.nextHandle (s.freeSlot + 1)
            handles := s.handles.insert (handleAt s.freeSlot)
              ⟨site, !Flags.has flags Flags.openShared, fun _ => false, .empty⟩ }) := by
  unfold openHandle siteOf
  rw [live]
  rfl

theorem tenure_of_openHandle {token : NativeToken} {flags : UInt32} {handle : NativeHandle}
    (h : s.openHandle token flags = .ok (handle, t)) :
    ∃ site, s.tokens.find? token = some site ∧
      ((s.tenure.seat site).2 ||
        (!Flags.has flags Flags.openShared && decide ((s.tenure.seat site).1 > 0))) = false ∧
      handle ∉ s.tenure.handles ∧
      t.tenure = s.tenure.join handle ⟨site, Flags.has flags Flags.openShared⟩ := by
  cases live : s.tokens.find? token with
  | none =>
    unfold openHandle siteOf at h
    rw [live] at h
    cases h
  | some site =>
    rw [openHandle_of_live live] at h
    split at h
    · cases h
    · rename_i hfree
      cases h
      have hclosed := (s.handles.find?_eq_none_iff _).mpr s.not_contains_freeSlot
      refine ⟨site, rfl, Bool.eq_false_iff.mpr hfree,
        Table.not_mem_keys_of_find?_eq_none hclosed, ?_⟩
      apply Tenure.ext
      · exact Table.keys_insert hclosed _
      · funext other
        simp only [tenure, opening, Tenure.join, Table.find?_insert, override]
        split
        · simp
        · rfl
      · funext other
        simp only [tenure, cores, Core.seat, Resource.core, updateResource, Tenure.join, override]
        split
        · rfl
        · rfl

theorem tenure_of_closeHandle {handle : NativeHandle} {value : Unit}
    (h : s.closeHandle handle = .ok (value, t)) :
    ∃ opening, s.opening handle = some opening ∧ handle ∈ s.tenure.handles ∧
      t.tenure = s.tenure.dismiss handle opening := by
  obtain ⟨closed, hf, rfl⟩ := closeHandle_ok h
  refine ⟨⟨closed.site, !closed.exclusive⟩, by simp [opening, hf], ?_, ?_⟩
  · exact (s.handles.mem_keys_iff handle).mpr ((s.handles.contains_iff handle).mpr ⟨closed, hf⟩)
  · apply Tenure.ext
    · exact s.handles.keys_erase handle
    · funext other
      simp only [tenure, opening, Tenure.dismiss, updateResource, Table.find?_erase, override]
      split
      · rfl
      · rfl
    · funext other
      simp only [tenure, cores, Core.seat, Resource.core, updateResource, Tenure.dismiss, override]
      split
      · cases closed.exclusive <;> rfl
      · rfl

/-- What a call does to the tenure: an open that succeeds lets a handle join, a close that
succeeds dismisses one, and anything else is without effect. -/
def Seats (s : Simulator cards) :
    (call : DeviceCall) → Except Fault call.Value × Simulator cards → Prop
  | .openHandle token flags, (.ok handle, t) =>
    ∃ site, s.tokens.find? token = some site ∧
      ((s.tenure.seat site).2 ||
        (!Flags.has flags Flags.openShared && decide ((s.tenure.seat site).1 > 0))) = false ∧
      handle ∉ s.tenure.handles ∧
      t.tenure = s.tenure.join handle ⟨site, Flags.has flags Flags.openShared⟩
  | .closeHandle handle, (.ok _, t) =>
    ∃ opening, s.opening handle = some opening ∧ handle ∈ s.tenure.handles ∧
      t.tenure = s.tenure.dismiss handle opening
  | _, (_, t) => t.tenure = s.tenure

theorem seats_of_error {call : DeviceCall} {fault : Fault} (ht : t.tenure = s.tenure) :
    s.Seats call (.error fault, t) := by
  cases call <;> exact ht

theorem seats_of_eq {call : DeviceCall} (h : call.occupies = false)
    {outcome : Except Fault call.Value × Simulator cards} (ht : outcome.2.tenure = s.tenure) :
    s.Seats call outcome := by
  cases call with
  | openHandle | closeHandle => cases h
  | _ => exact ht

theorem seats_commit {call : DeviceCall} {result : Except Fault (call.Value × Simulator cards)}
    (h : ∀ value t, result = .ok (value, t) → s.Seats call (.ok value, t)) :
    s.Seats call (s.commit result) := by
  cases result with
  | error fault => exact seats_of_error rfl
  | ok outcome => exact h outcome.1 outcome.2 rfl

theorem seats_serve (s : Simulator cards) (call : DeviceCall) : s.Seats call (s.serve call) := by
  cases ho : call.occupies with
  | false => exact seats_of_eq ho (s.tenure_serve ho)
  | true =>
    cases call with
    | openHandle => exact seats_commit fun _ _ h => tenure_of_openHandle h
    | closeHandle => exact seats_commit fun _ _ h => tenure_of_closeHandle h
    | _ => cases ho

theorem seats_call (s : Simulator cards) (call : DeviceCall) : s.Seats call (s.call call) := by
  cases ha : s.armed call.kind with
  | some fault =>
    rw [call_of_armed ha]
    exact seats_of_error rfl
  | none =>
    have hserved := s.seats_serve call
    rw [call_of_unarmed ha]
    generalize s.serve call = outcome at hserved ⊢
    obtain ⟨_ | value, t⟩ := outcome
    · cases call <;> exact hserved
    · cases call <;> exact hserved

/-! ## Runs -/

/-- What can happen to a driver: it is called, or its host interferes. -/
inductive Move where
  | call (call : DeviceCall)
  | disturb (d : Disturbance)

def move (s : Simulator cards) : Move → Simulator cards
  | .call call => (s.call call).2
  | .disturb d => s.disturb d

def run (s : Simulator cards) (moves : List Move) : Simulator cards := moves.foldl move s

/-- A record of how handles were opened, kept from the outside by the answers of the
driver: by the token and the flags of every open that succeeds, and until the close. -/
def note (s : Simulator cards) (record : NativeHandle → Option (Opening cards)) :
    (call : DeviceCall) → Except Fault call.Value → NativeHandle → Option (Opening cards)
  | .openHandle token flags, .ok handle =>
    override record handle
      ((s.tokens.find? token).map fun site => ⟨site, Flags.has flags Flags.openShared⟩)
  | .closeHandle handle, .ok _ => override record handle none
  | _, _ => record

/-- The record after a run. -/
def recordAfter (s : Simulator cards) (record : NativeHandle → Option (Opening cards)) :
    List Move → NativeHandle → Option (Opening cards)
  | [] => record
  | .call call :: rest =>
    (s.move (.call call)).recordAfter (s.note record call (s.call call).1) rest
  | .disturb d :: rest => (s.move (.disturb d)).recordAfter record rest

theorem tenure_disturb (s : Simulator cards) (d : Disturbance) :
    (s.disturb d).tenure = s.tenure := by
  cases d with
  | arm kind fault => rfl
  | recycle => rfl
  | raise token number bits =>
    have hhandles := (s.retouches_raiseError token number bits).handles_eq
    refine tenure_congr (congrArg Table.keys hhandles) (opening_congr hhandles) fun site => ?_
    exact congrArg Core.seat (congrFun (s.cores_raiseError token number bits) site)

/-- A call keeps the resources in order and the record true. -/
theorem orderly_of_seats (h : s.tenure.Orderly) {call : DeviceCall}
    {outcome : Except Fault call.Value × Simulator cards} (hseats : s.Seats call outcome) :
    outcome.2.tenure.Orderly ∧ outcome.2.opening = s.note s.opening call outcome.1 := by
  have quiet : ∀ t : Simulator cards, t.tenure = s.tenure →
      t.tenure.Orderly ∧ t.opening = s.opening :=
    fun t ht => ⟨ht ▸ h, congrArg Tenure.opening ht⟩
  obtain ⟨result, t⟩ := outcome
  cases result with
  | error fault => cases call <;> exact quiet t hseats
  | ok value =>
    cases call with
    | openHandle token flags =>
      obtain ⟨site, live, hfree, hfresh, htenure⟩ := hseats
      refine ⟨htenure ▸ h.join hfresh ((h.compatible_iff site _).mpr hfree), ?_⟩
      rw [note, live]
      exact congrArg Tenure.opening htenure
    | closeHandle handle =>
      obtain ⟨opening, hopened, hpresent, htenure⟩ := hseats
      exact ⟨htenure ▸ h.dismiss hpresent hopened, congrArg Tenure.opening htenure⟩
    | _ => exact quiet t hseats

theorem orderly_run (h : s.tenure.Orderly) (moves : List Move) :
    (s.run moves).tenure.Orderly ∧ (s.run moves).opening = s.recordAfter s.opening moves := by
  induction moves generalizing s with
  | nil => exact ⟨h, rfl⟩
  | cons m rest ih =>
    cases m with
    | call call =>
      obtain ⟨hnext, hrecord⟩ := orderly_of_seats h (s.seats_call call)
      have hrest := ih (s := s.move (.call call)) hnext
      rwa [show (s.move (.call call)).opening = _ from hrecord] at hrest
    | disturb d =>
      have hsame := s.tenure_disturb d
      have hrest := ih (s := s.move (.disturb d)) (hsame ▸ h)
      rwa [show (s.move (.disturb d)).opening = _ from congrArg Tenure.opening hsame] at hrest

theorem orderly_start (cards : Nat) (images : String → Option (List UInt8)) :
    (start cards images).tenure.Orderly := by
  refine ⟨List.nodup_nil, fun site => ?_⟩
  have hseat : (start cards images).tenure.seat site = (0, false) := by
    obtain ⟨card, kind⟩ := site
    cases kind <;> rfl
  rw [hseat]
  exact .shared fun handle hhandle => by cases hhandle

/-! ## What the driver tells about it -/

/-- The open handles on a resource, by a record of how handles were opened. -/
def holders (s : Simulator cards) (record : NativeHandle → Option (Opening cards))
    (site : Site cards) : List NativeHandle :=
  s.handles.keys.filter fun handle => (record handle).map Opening.site = some site

/-- The properties of a resource as a driver reports them, by a token or by a handle. -/
inductive Reports (s : Simulator cards) (site : Site cards) : Properties NativeToken → Prop
  | get {token : NativeToken} {properties : Properties NativeToken}
      (live : s.tokens.find? token = some site)
      (answer : (s.call (.getProperties token)).1 = .ok properties) : Reports s site properties
  | update {token : NativeToken} {properties : Properties NativeToken}
      (live : s.tokens.find? token = some site)
      (answer : (s.call (.updateProperties token)).1 = .ok properties) : Reports s site properties
  | ofHandle {handle : NativeHandle} {state : OpenHandle cards}
      {properties : Properties NativeToken} (opened : s.handles.find? handle = some state)
      (on : state.site = site)
      (answer : (s.call (.getHandleProperties handle)).1 = .ok properties) :
      Reports s site properties

/-- The resources are held as a record of the open handles says. -/
structure HeldBy (s : Simulator cards) (record : NativeHandle → Option (Opening cards)) :
    Prop where
  /-- Exactly the open handles are recorded. -/
  recorded : ∀ handle, s.handles.contains handle = (record handle).isSome
  count : ∀ site, (s.resources site).openCount = (s.holders record site).length
  exclusive : ∀ site, (s.resources site).exclusive = true ↔
    ∃ handle, s.holders record site = [handle] ∧ record handle = some ⟨site, false⟩
  /-- Two handles are open on one resource only if both were opened shared. -/
  together : ∀ site, ∀ one ∈ s.holders record site, ∀ two ∈ s.holders record site, one ≠ two →
    record one = some ⟨site, true⟩ ∧ record two = some ⟨site, true⟩
  /-- An open is refused exactly if it would put two handles on a resource that were
  not both opened shared; else it succeeds, with a handle that was not open. -/
  opens : ∀ token site flags, s.tokens.find? token = some site → s.armed .openHandle = none →
    ((∀ handle ∈ s.holders record site,
        Flags.has flags Flags.openShared = true ∧ record handle = some ⟨site, true⟩) →
      ∃ handle, record handle = none ∧ (s.call (.openHandle token flags)).1 = .ok handle) ∧
    ((¬ ∀ handle ∈ s.holders record site,
        Flags.has flags Flags.openShared = true ∧ record handle = some ⟨site, true⟩) →
      (s.call (.openHandle token flags)).1 = .error .busy)
  /-- The count is never counted down from zero. -/
  closes : ∀ handle, (s.call (.closeHandle handle)).1 = .ok () → ∃ opening,
    record handle = some opening ∧
      ((s.call (.closeHandle handle)).2.resources opening.site).openCount + 1 =
        (s.resources opening.site).openCount
  reported : ∀ site properties, site.kind = .accelerator → s.Reports site properties →
    properties.assignment =
      some (if s.holders record site = [] then .unassigned else .assigned)

theorem properties_of_reports {site : Site cards} {properties : Properties NativeToken}
    (h : s.Reports site properties) : properties = site.properties (s.resources site) := by
  -- An answer is given by the cards as they are, since no failure was armed.
  have served : ∀ call : DeviceCall, ∀ value, (s.call call).1 = .ok value →
      (s.serve call).1 = .ok value := by
    intro call value answer
    cases ha : s.armed call.kind with
    | some fault =>
      rw [call_of_armed ha] at answer
      cases answer
    | none => rwa [call_of_unarmed ha] at answer
  cases h with
  | get live answer | update live answer =>
    have hserved := served _ _ answer
    simp only [serve, tokenProperties, siteOf, live] at hserved
    exact (Except.ok.inj hserved).symm
  | ofHandle opened on answer =>
    subst on
    have hserved := served _ _ answer
    simp only [serve, handleProperties, handleOf, opened] at hserved
    exact (Except.ok.inj hserved).symm

/-- An open through a live token succeeds exactly if the handle may join. -/
theorem answer_openHandle (h : s.tenure.Orderly) {token : NativeToken} {site : Site cards}
    (live : s.tokens.find? token = some site) (unarmed : s.armed .openHandle = none)
    (flags : UInt32) :
    (s.tenure.Compatible site (Flags.has flags Flags.openShared) →
      ∃ handle, s.opening handle = none ∧ (s.call (.openHandle token flags)).1 = .ok handle) ∧
    (¬ s.tenure.Compatible site (Flags.has flags Flags.openShared) →
      (s.call (.openHandle token flags)).1 = .error .busy) := by
  have hcall : s.call (.openHandle token flags) = _ := call_of_unarmed unarmed
  rw [h.compatible_iff site, hcall]
  change (_ → ∃ handle, _ ∧ (s.commit (s.openHandle token flags)).1 = .ok handle) ∧
    (_ → (s.commit (s.openHandle token flags)).1 = .error .busy)
  rw [openHandle_of_live live]
  refine ⟨fun hfree => ?_, fun hbusy => ?_⟩
  · rw [if_neg (Bool.eq_false_iff.mp hfree)]
    refine ⟨handleAt s.freeSlot, ?_, rfl⟩
    rw [opening, (s.handles.find?_eq_none_iff _).mpr s.not_contains_freeSlot]
    rfl
  · rw [if_pos (eq_true_of_ne_false hbusy)]
    rfl

theorem heldBy_of_orderly (h : s.tenure.Orderly) : s.HeldBy s.opening where
  recorded handle := by
    rw [Table.contains_eq, opening, Option.isSome_map]
  count site := (h.held site).count
  exclusive site := by
    have held := h.held site
    change (s.tenure.seat site).2 = true ↔
      ∃ handle, s.tenure.holders site = [handle] ∧ s.tenure.opening handle = some ⟨site, false⟩
    generalize s.tenure.holders site = holders at held ⊢
    generalize s.tenure.seat site = seat at held ⊢
    cases held with
    | shared all =>
      refine ⟨fun hflag => (by cases hflag), ?_⟩
      rintro ⟨handle, rfl, hopened⟩
      rw [all handle List.mem_cons_self] at hopened
      cases hopened
    | exclusive only => exact ⟨fun _ => ⟨_, rfl, only⟩, fun _ => rfl⟩
  together site one hone two htwo hne := by
    have held := h.held site
    change one ∈ s.tenure.holders site at hone
    change two ∈ s.tenure.holders site at htwo
    generalize s.tenure.holders site = holders at held hone htwo
    generalize s.tenure.seat site = seat at held
    cases held with
    | shared all => exact ⟨all one hone, all two htwo⟩
    | exclusive only =>
      rw [List.mem_singleton] at hone htwo
      exact absurd (hone.trans htwo.symm) hne
  opens token site flags live unarmed := answer_openHandle h live unarmed flags
  closes handle closed := by
    have hseats := s.seats_call (.closeHandle handle)
    generalize s.call (.closeHandle handle) = outcome at closed hseats ⊢
    obtain ⟨result, t⟩ := outcome
    dsimp only at closed
    subst closed
    obtain ⟨opening, hopened, hpresent, htenure⟩ := hseats
    refine ⟨opening, hopened, ?_⟩
    have hmem : handle ∈ s.tenure.holders opening.site :=
      Tenure.mem_holders_iff.mpr ⟨hpresent, congrArg (Option.map Opening.site) hopened⟩
    have hafter : (t.tenure.seat opening.site).1 = (s.tenure.seat opening.site).1 - 1 := by
      rw [htenure]
      exact congrArg Prod.fst (override_self _ _ _)
    have hpositive : 0 < (s.tenure.seat opening.site).1 := by
      rw [(h.held opening.site).count]
      exact List.length_pos_of_mem hmem
    change (t.tenure.seat opening.site).1 + 1 = (s.tenure.seat opening.site).1
    omega
  reported site properties hkind hreports := by
    have hcount : (s.resources site).openCount = (s.tenure.holders site).length :=
      (h.held site).count
    obtain ⟨card, kind⟩ := site
    cases hkind
    rw [properties_of_reports hreports]
    change some (if (s.resources ⟨card, .accelerator⟩).openCount > 0 then Assignment.assigned
      else .unassigned) = some (if s.tenure.holders ⟨card, .accelerator⟩ = [] then .unassigned
        else .assigned)
    rw [hcount]
    cases s.tenure.holders ⟨card, .accelerator⟩ with
    | nil => rfl
    | cons handle rest => rfl

/-- Whatever a driver is asked for after its cards have started, and whatever their
host does: it counts the handles on every resource, an exclusive one is the only
one, further ones are let in exactly if all are shared, and an accelerator is
reported as assigned exactly while it is open. -/
theorem heldBy_run (images : String → Option (List UInt8)) (moves : List Move) :
    ((start cards images).run moves).HeldBy
      ((start cards images).recordAfter (fun _ => none) moves) := by
  obtain ⟨horderly, hrecord⟩ := orderly_run (orderly_start cards images) moves
  have hnone : (start cards images).opening = fun _ => none := rfl
  rw [← hnone, ← hrecord]
  exact heldBy_of_orderly horderly

/-- Two shared handles, one of them opened through a clone of the token. -/
example :
    (((start 1 fun _ => none).run
      [.call (.enumerate [] 2), .call (.cloneToken ⟨0x1001⟩),
        .call (.openHandle ⟨0x1001⟩ Flags.openShared),
        .call (.openHandle ⟨0x100000⟩ Flags.openShared)]).resources
          ⟨0, .accelerator⟩).openCount = 2 ∧
    (((start 1 fun _ => none).run
      [.call (.enumerate [] 2), .call (.cloneToken ⟨0x1001⟩),
        .call (.openHandle ⟨0x1001⟩ Flags.openShared),
        .call (.openHandle ⟨0x100000⟩ Flags.openShared)]).call
          (.openHandle ⟨0x1001⟩ 0)).1 = .error .busy :=
  ⟨rfl, rfl⟩

end Simulator

end DeviceBroker
