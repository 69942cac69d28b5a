import DeviceBroker.Proofs.Broker.Steady

/-!
# The trace of a history

A history that starts with an empty registry leaves a trace: the exchanges with
the driver, each with the request on whose behalf it took place. Serving a
request keeps `Provenance` for the trace so far, and every call that it makes
with a child is `Backed` by the trace before the call: the child was created
through the handle that the request names. Steady requests name what is
recorded, which `Provenance` takes back to its creation. Opening and closing a
handle and creating a child are followed exchange by exchange, down to the
undoing of what could not be registered.
-/

namespace DeviceBroker

variable {cards : Nat} {α β : Type}

/-- A call that names a child names one that was created through the handle
that the request names, through the native value that this handle has. -/
def Backed (past : List Record) (request : Request) (handle : RemoteId → Option NativeHandle)
    (call : DeviceCall) : Prop :=
  ∀ native child, call.child? = some (native, child) →
    ∃ id, request.handle? = some id ∧ handle id = some native ∧ Created past id native child

theorem backed_of_none {past : List Record} {request : Request}
    {handle : RemoteId → Option NativeHandle} {call : DeviceCall} (h : call.child? = none) :
    Backed past request handle call := by
  intro native child hc
  rw [h] at hc
  cases hc

theorem Exchange.closes?_error (call : DeviceCall) (fault : Fault) :
    Exchange.closes? ⟨call, .error fault⟩ = none := by
  cases call <;> rfl

namespace Service

/-- A service on behalf of a request whose calls are backed by what was before
them, and after which what is owned is accounted for by the trace. -/
structure Accounts (past : List Record) (request : Request)
    (handle : RemoteId → Option NativeHandle) (s : Service α) (b : Broker cards) : Prop where
  backed : ∀ before x later, exchanges s b = before ++ x :: later →
    Backed (past ++ before.map (Record.mk request)) request handle x.call
  kept : Provenance (past ++ (exchanges s b).map (Record.mk request)) (exec s b).2.ownership

variable {past : List Record} {request : Request} {handle : RemoteId → Option NativeHandle}
  {b : Broker cards}

/-- A service that names no child in its calls. -/
theorem accounts_of_childless {s : Service α} (hx : ∀ x ∈ exchanges s b, x.call.child? = none)
    (hp : Provenance (past ++ (exchanges s b).map (Record.mk request)) (exec s b).2.ownership) :
    Accounts past request handle s b := by
  refine ⟨fun before x later hxs => backed_of_none (hx x ?_), hp⟩
  simp [hxs]

theorem accounts_of_nil {s : Service α} (hx : exchanges s b = [])
    (hp : Provenance past (exec s b).2.ownership) : Accounts past request handle s b :=
  accounts_of_childless (by simp [hx]) (by simpa [hx] using hp)

/-- A service that has a single exchange. -/
theorem accounts_of_singleton {s : Service α} {x : Exchange} (hx : exchanges s b = [x])
    (hb : Backed past request handle x.call)
    (hp : Provenance (past ++ [⟨request, x⟩]) (exec s b).2.ownership) :
    Accounts past request handle s b := by
  refine ⟨fun before y later hxs => ?_, by simpa [hx] using hp⟩
  rw [hx] at hxs
  obtain ⟨rfl, rfl, rfl⟩ : before = [] ∧ x = y ∧ later = [] := by
    cases before <;> simp_all
  simpa using hb

/-- What is vouched for by the registry is backed by the past. -/
theorem Steady.accounts {s : Service α} (h : Steady s b (Vouched b.ownership request))
    (hp : Provenance past b.ownership) :
    Accounts past request b.ownership.handle s b := by
  have hquiet : ∀ xs : List Exchange, (∀ x ∈ xs, x ∈ exchanges s b) →
      ∀ record ∈ xs.map (Record.mk request), ∀ native,
        record.exchange.closes? ≠ some native := by
    intro xs hxs record hr native
    obtain ⟨x, hx, rfl⟩ := List.mem_map.mp hr
    simp [(h.calls x (hxs x hx)).1]
  refine ⟨fun before x later hxs native child hc => ?_, ?_⟩
  · obtain ⟨id, hr, hn, cls, entryId, hchild⟩ := (h.calls x (by simp [hxs])).2 native child hc
    obtain ⟨native', hn', hcreated⟩ := hp.created cls entryId id child hchild
    obtain rfl := Option.some.inj (hn'.symm.trans hn)
    refine ⟨id, hr, hn, hcreated.append fun record hrecord => ?_⟩
    exact hquiet before (fun y hy => by simp [hxs, hy]) record hrecord native'
  · refine (hp.append fun record hr _ native _ => ?_).within h.within
    exact hquiet _ (fun _ hx => hx) record hr native

theorem accounts_lookup_bind {cls : ResourceClass} {id : RemoteId} {next : cls.Entry → Service α}
    (hp : Provenance past b.ownership)
    (hn : ∀ entry, (b.registry.map cls).find? id = some entry →
      Accounts past request handle (next entry) b) :
    Accounts past request handle (lookup cls id >>= next) b := by
  cases hf : (b.registry.map cls).find? id with
  | none =>
    have he := exec_bind_of_error next (exec_lookup_of_none hf)
    refine accounts_of_nil ?_ (by rw [he]; exact hp)
    rw [exchanges_bind, exec_lookup_of_none hf, exchanges_lookup]
    rfl
  | some entry =>
    have he := exec_bind_of_ok next (exec_lookup_of_some hf)
    have hx : exchanges (lookup cls id >>= next) b = exchanges (next entry) b := by
      rw [exchanges_bind, exec_lookup_of_some hf, exchanges_lookup]
      rfl
    obtain ⟨hbacked, hkept⟩ := hn entry hf
    exact ⟨by rwa [hx], by rwa [hx, he]⟩

/-- A call that names no child, and what follows it. -/
theorem accounts_device_bind {call : DeviceCall} {next : call.Value → Service α}
    (hp : Provenance past b.ownership) (hchild : call.child? = none)
    (hn : ∀ value (b' : Broker cards), exec (device call) b = (.ok value, b') →
      Accounts (past ++ [⟨request, ⟨call, .ok value⟩⟩]) request handle (next value) b') :
    Accounts past request handle (device call >>= next) b := by
  cases he : exec (device call) b with
  | mk result b' =>
    have hcall : (b.device.call call).1 = result := congrArg Prod.fst he
    cases result with
    | error fault =>
      have hx : exchanges (device call >>= next) b = [⟨call, .error fault⟩] := by
        rw [exchanges_bind, exchanges_device, he, hcall]
        rfl
      refine accounts_of_singleton hx (backed_of_none hchild) ?_
      rw [exec_bind_of_error next he, ownership_of_error he]
      exact hp.append_one (Exchange.closes?_error call fault)
    | ok value =>
      have hx : exchanges (device call >>= next) b =
          ⟨call, .ok value⟩ :: exchanges (next value) b' := by
        rw [exchanges_bind, exchanges_device, he, hcall]
        rfl
      obtain ⟨hbacked, hkept⟩ := hn value b' he
      refine ⟨fun before x later hxs => ?_, ?_⟩
      · rw [hx] at hxs
        cases before with
        | nil =>
          obtain ⟨rfl, -⟩ := List.cons_eq_cons.mp hxs
          exact backed_of_none hchild
        | cons first before =>
          obtain ⟨rfl, hrest⟩ := List.cons_eq_cons.mp hxs
          simpa using hbacked before x later hrest
      · rw [hx, exec_bind_of_ok next he]
        simpa using hkept

theorem Accounts.bind_pure {s : Service α} (h : Accounts past request handle s b) (f : α → β) :
    Accounts past request handle (s >>= fun value => pure (f value)) b := by
  have hx : exchanges (s >>= fun value => pure (f value)) b = exchanges s b := by
    rw [exchanges_bind]
    generalize exec s b = outcome
    obtain ⟨result, b'⟩ := outcome
    cases result <;> simp
  obtain ⟨hbacked, hkept⟩ := h
  exact ⟨by rwa [hx], by rwa [hx, exec_bind_pure_snd]⟩

/-! ## Registering -/

/-- An identifier that could not be had changes nothing in who owns what. -/
theorem ownership_register_none {cls : ResourceClass} {entry : cls.Entry}
    (hfind : ((b.registry.register cls entry).2.map cls).find? = (b.registry.map cls).find?) :
    Broker.ownership { b with registry := (b.registry.register cls entry).2 } = b.ownership := by
  have hmap : ∀ other, ((b.registry.register cls entry).2.map other).find? =
      (b.registry.map other).find? := by
    intro other
    by_cases ho : other = cls
    · subst ho
      exact hfind
    · rw [b.registry.map_register_of_ne entry ho]
  simp only [Broker.ownership, hmap]

theorem ownership_register_child {cls : ResourceClass} {entry : cls.Entry} {id owner : RemoteId}
    {child : Child} (hentry : cls.child? entry = some (owner, child))
    (hfind : ((b.registry.register cls entry).2.map cls).find? =
      override (b.registry.map cls).find? id (some entry)) :
    Broker.ownership { b with registry := (b.registry.register cls entry).2 } =
      b.ownership.having cls id owner child := by
  have hcls : ResourceClass.handle ≠ cls := by
    rintro rfl
    cases hentry
  simp only [Broker.ownership, Ownership.having, b.registry.map_register_of_ne entry hcls]
  congr 1
  funext other id'
  by_cases ho : other = cls
  · subst ho
    rw [hfind]
    by_cases hi : id' = id
    · simp [hi, hentry]
    · simp [hi, override_of_ne _ _ hi]
  · simp [ho, b.registry.map_register_of_ne entry ho]

theorem ownership_register_handle {entry : HandleEntry} {id : RemoteId}
    (hfind : ((b.registry.register .handle entry).2.map .handle).find? =
      override (b.registry.map .handle).find? id (some entry)) :
    Broker.ownership { b with registry := (b.registry.register .handle entry).2 } =
      b.ownership.named id entry.handle := by
  simp only [Broker.ownership, Ownership.named, hfind]
  congr 1
  · exact comp_override (Option.map HandleEntry.handle) _ _ _
  · funext other id'
    by_cases ho : other = .handle
    · subst ho
      rw [Broker.child_eq_none fun _ => rfl, Broker.child_eq_none fun _ => rfl]
    · rw [@Registry.map_register_of_ne b.registry .handle other entry ho]

/-- A child that was just created is registered under its handle, or destroyed again. -/
theorem accounts_registerChild {cls : ResourceClass} {entry : cls.Entry} {undo : DeviceCall}
    {owner : RemoteId} {native : NativeHandle} {child : Child}
    (hp : Provenance past b.ownership) (hr : request.handle? = some owner)
    (hn : b.ownership.handle owner = some native) (hh : handle owner = some native)
    (hc : Created past owner native child) (hentry : cls.child? entry = some (owner, child))
    (hundo : undo.child? = some (native, child))
    (hcloses : ∀ answer, Exchange.closes? ⟨undo, answer⟩ = none)
    (ha : ∀ held value, (Holdings.after held undo value).handle = held.handle) :
    Accounts past request handle (registerOrUndo cls entry undo) b := by
  have hx := exchanges_registerOrUndo cls entry undo b
  have he := exec_registerOrUndo cls entry undo b
  rcases b.registry.find?_register cls entry with ⟨id, hid, -, hfind⟩ | ⟨hid, hfind⟩
  · rw [hid] at hx he
    refine accounts_of_nil hx ?_
    rw [he, ownership_register_child hentry hfind]
    exact hp.having hn hc cls id
  · rw [hid] at hx he
    refine accounts_of_singleton hx ?_ ?_
    · intro native' child' hchild
      obtain ⟨rfl, rfl⟩ := Prod.mk.inj (Option.some.inj (hundo.symm.trans hchild))
      exact ⟨owner, hr, hh, hc⟩
    · have hundone := ownership_device undo ha
        { b with registry := (b.registry.register cls entry).2 }
      rw [he]
      exact (hundone.trans (ownership_register_none hfind)) ▸ hp.append_one (hcloses _)

/-- A handle that was just opened is registered, or closed again. -/
theorem accounts_registerHandle {native : NativeHandle} (tokenId : RemoteId)
    (hp : Provenance past b.ownership) (free : ∀ id, b.ownership.handle id ≠ some native)
    (ho : b.ownership.isOpen native = true) :
    Accounts past request handle
      (registerOrUndo .handle ⟨native, tokenId⟩ (.closeHandle native)) b := by
  have hx := exchanges_registerOrUndo .handle ⟨native, tokenId⟩ (.closeHandle native) b
  have he := exec_registerOrUndo .handle ⟨native, tokenId⟩ (.closeHandle native) b
  rcases b.registry.find?_register .handle ⟨native, tokenId⟩ with
    ⟨id, hid, hfresh, hfind⟩ | ⟨hid, hfind⟩
  · rw [hid] at hx he
    refine accounts_of_nil hx ?_
    rw [he, ownership_register_handle hfind]
    exact hp.named free ho (congrArg (Option.map HandleEntry.handle) hfresh)
  · rw [hid] at hx he
    refine accounts_of_singleton hx (backed_of_none rfl) ?_
    cases hundo : exec (device (.closeHandle native))
        { b with registry := (b.registry.register .handle ⟨native, tokenId⟩).2 } with
    | mk result b' =>
      have hanswer : (b.device.call (.closeHandle native)).1 = result := congrArg Prod.fst hundo
      have hafter : (exec (registerOrUndo .handle ⟨native, tokenId⟩ (.closeHandle native)) b).2 =
          b' := he ▸ congrArg Prod.snd hundo
      rw [hafter, hanswer]
      cases result with
      | error fault =>
        rw [ownership_of_error hundo, ownership_register_none hfind]
        exact hp.append_one (Exchange.closes?_error _ fault)
      | ok value =>
        -- What is closed again has no identifier, so it is the native value of no handle.
        have hclosing : b'.ownership = b.ownership.closing native := by
          rw [ownership_of_ok hundo, ownership_register_none hfind]
          rfl
        rw [hclosing]
        refine (hp.append fun record hrecord id other hn => ?_).closing free
        obtain rfl := List.mem_singleton.mp hrecord
        intro hclosed
        exact free id (hn.trans hclosed.symm)

/-! ## Closing -/

/-- Removing what a handle owns leaves the children of the others. -/
theorem child_removeOwnedBy {cls : ResourceClass} (m : IdentityMap cls) (handleId id : RemoteId)
    (howner : ∀ entry, cls.owner? entry = (cls.child? entry).map Prod.fst) :
    ((m.removeOwnedBy handleId).2.find? id).bind cls.child? =
      ((m.find? id).bind cls.child?).filter fun owned => owned.1 != handleId := by
  rw [IdentityMap.find?_removeOwnedBy]
  cases m.find? id with
  | none => rfl
  | some entry =>
    simp only [Option.filter_some, howner, Option.bind_some]
    cases hc : cls.child? entry with
    | none => simp [hc]
    | some owned => by_cases ho : owned.1 = handleId <;> simp [Option.filter_some, hc, ho]

theorem ownership_closed {entry : HandleEntry} {handleId : RemoteId} {b' : Broker cards}
    (hd : b'.device.holdings = b.device.holdings.closeAt entry.handle) :
    Broker.ownership { b' with registry := b.registry.closed handleId } =
      b.ownership.without handleId entry.handle := by
  have hhandle : ((b.registry.closed handleId).map .handle).find? =
      override (b.registry.map .handle).find? handleId none :=
    IdentityMap.find?_remove b.registry.handles handleId
  simp only [Broker.ownership, Ownership.without, hhandle, hd]
  congr 1
  · exact comp_override (Option.map HandleEntry.handle) _ _ _
  · funext cls id
    cases cls with
    | mapping => exact child_removeOwnedBy b.registry.mappings handleId id fun _ => rfl
    | buffer => exact child_removeOwnedBy b.registry.buffers handleId id fun _ => rfl
    | token | handle | object =>
      rw [Broker.child_eq_none fun _ => rfl, Broker.child_eq_none fun _ => rfl]
      rfl

/-- What is torn down names no child, and what follows makes no call. -/
theorem accounts_teardown_bind {cls : ResourceClass} {id : RemoteId}
    {destroy : cls.Entry → Service Unit} {next : Unit → Service α}
    (hp : Provenance past b.ownership) (hd : ∀ entry, DeviceOnly (destroy entry))
    (hfree : ∀ entry, RegistryFree (destroy entry))
    (hchild : ∀ entry, ∀ x ∈ exchanges (destroy entry) b, x.call.child? = none)
    (hx : ∀ b' : Broker cards, exchanges (next ()) b' = [])
    (herror : ∀ entry fault b', exec (destroy entry) b = (.error fault, b') →
      Provenance (past ++ (exchanges (destroy entry) b).map (Record.mk request)) b'.ownership)
    (hok : ∀ entry b', (b.registry.map cls).find? id = some entry →
      exec (destroy entry) b = (.ok (), b') →
      Provenance (past ++ (exchanges (destroy entry) b).map (Record.mk request))
        (exec (next ()) { b' with
          registry := b.registry.withMap cls ((b.registry.map cls).remove id).2 }).2.ownership) :
    Accounts past request handle (teardown cls id destroy >>= next) b := by
  rcases exchanges_teardown hfree with ⟨hnone, fault, he⟩ | ⟨entry, hs, hv, hsome⟩
  · refine accounts_of_nil ?_ ?_
    · rw [exchanges_bind, he, hnone]
      rfl
    · rw [exec_bind_of_error next he]
      exact hp
  · have he := exec_teardown_of_unclaimed (hd entry) hv hs
    -- The exchanges of the whole are those of destroying, however that ends.
    have hsame : exchanges (teardown cls id destroy >>= next) b = exchanges (destroy entry) b := by
      rw [exchanges_bind, hsome]
      split
      · rw [hx, List.append_nil]
      · rw [List.append_nil]
    refine accounts_of_childless (by rw [hsame]; exact hchild entry) ?_
    rw [hsame]
    cases hdestroy : exec (destroy entry) b with
    | mk result b' =>
      rw [hdestroy] at he
      cases result with
      | error fault =>
        rw [exec_bind_of_error next he]
        exact herror entry fault b' hdestroy
      | ok value =>
        rw [exec_bind_of_ok next he]
        exact hok entry b' (IdentityMap.find?_of_slots hv hs) hdestroy

/-- A handle that is closed goes with all that it owns. -/
theorem accounts_close (hp : Provenance past b.ownership) (handleId : RemoteId) :
    Accounts past request handle (do
      teardown .handle handleId fun entry => device (.closeHandle entry.handle)
      let _ ← Program.perform (.removeOwned .mapping handleId)
      let _ ← Program.perform (.removeOwned .buffer handleId)
      return ()) b := by
  refine accounts_teardown_bind hp (fun _ => deviceOnly_device _) (fun _ => registryFree_device _)
    (fun entry x hx => ?_) (fun _ => rfl) (fun entry fault b' he => ?_) fun entry b' hf he => ?_
  · rw [List.mem_singleton.mp hx]
    rfl
  · have hanswer : (b.device.call (.closeHandle entry.handle)).1 = .error fault :=
      congrArg Prod.fst he
    rw [ownership_of_error he]
    refine hp.append_one ?_
    simp [hanswer, Exchange.closes?_error]
  · have hanswer : (b.device.call (.closeHandle entry.handle)).1 = .ok () := congrArg Prod.fst he
    have hlive : b.ownership.handle handleId = some entry.handle :=
      congrArg (Option.map HandleEntry.handle) hf
    obtain ⟨-, -, hd⟩ := holdings_of_exec_ok he
    -- The three removals together are the registry without the handle and what it owns.
    change Provenance _ (Broker.ownership { b' with registry := b.registry.closed handleId })
    rw [ownership_closed hd]
    refine hp.without hlive ?_
    simp [hanswer, Exchange.closes?]

end Service

open Service

/-- Serving a request accounts for its exchanges. -/
theorem Request.accounts_serve {past : List Record} {b : Broker cards}
    (hp : Provenance past b.ownership) (limit : UInt64) (request : Request) :
    Accounts past request b.ownership.handle (request.serve limit) b := by
  by_cases hs : request.operation.changesOwnership = false
  · exact (request.steady_serve hs limit b).accounts hp
  cases request with
  | openHandle tokenId flags =>
    refine accounts_lookup_bind hp fun entry _ => accounts_device_bind hp rfl fun native b' he => ?_
    obtain ⟨-, hg, -⟩ := holdings_of_exec_ok he
    have hopened : b'.ownership = b.ownership.opening native := ownership_of_ok he
    -- A native handle that was closed until now is the value of no live handle.
    have hfree : ∀ id, b'.ownership.handle id ≠ some native := by
      intro id hn
      rw [hopened] at hn
      exact absurd ((hp.opened id native hn).symm.trans hg) (by simp)
    refine (accounts_registerHandle tokenId ?_ hfree ?_).bind_pure _
    · rw [hopened]
      exact (hp.append_one rfl).opening native
    · rw [hopened]
      exact override_self _ _ _
  | closeHandle handleId => exact accounts_close hp handleId
  | mapMmio handleId region =>
    refine accounts_lookup_bind hp fun entry hf => accounts_device_bind hp rfl fun base b' he => ?_
    have hsame : b'.ownership = b.ownership := ownership_of_ok he
    have hn : b.ownership.handle handleId = some entry.handle :=
      congrArg (Option.map HandleEntry.handle) hf
    exact accounts_registerChild (by rw [hsame]; exact hp.append_one rfl) rfl (by rw [hsame, hn])
      hn (created_of_last rfl rfl) rfl rfl (fun _ => rfl) fun _ _ => rfl
  | prepareBuffer handleId length address flags =>
    refine accounts_lookup_bind hp fun entry hf => ?_
    refine accounts_device_bind hp rfl fun prepared b' he => ?_
    have hsame : b'.ownership = b.ownership := ownership_of_ok he
    have hn : b.ownership.handle handleId = some entry.handle :=
      congrArg (Option.map HandleEntry.handle) hf
    exact accounts_registerChild (by rw [hsame]; exact hp.append_one rfl) rfl (by rw [hsame, hn])
      hn (created_of_last rfl rfl) rfl rfl (fun _ => rfl) fun _ _ => rfl
  | _ => exact absurd rfl hs

namespace Broker

/-- The exchanges of an event, with the request on whose behalf they take place. -/
def records (b : Broker cards) : Event → List Record
  | .serve request => ((request.program b.payloadLimit).exchanges b).map (Record.mk request)
  | .disturb _ => []

/-- The exchanges of a history, in order. -/
def trace (b : Broker cards) : List Event → List Record
  | [] => []
  | event :: rest => b.records event ++ (b.step event).trace rest

theorem provenance_start (cards : Nat) (source : IdSource) (images : String → Option (List UInt8))
    (limit : UInt64) : Provenance [] (start source (.start cards images) limit).ownership where
  opened id native hn := by simp [ownership, start, Registry.map, Registry.empty] at hn
  distinct id id' native hn := by simp [ownership, start, Registry.map, Registry.empty] at hn
  created cls id owner child hc := by
    have hnone : ((Registry.empty source).map cls).find? id = none := by
      cases cls <;> exact IdentityMap.find?_empty id
    simp [ownership, start, hnone] at hc

theorem provenance_step {past : List Record} {b : Broker cards} (hp : Provenance past b.ownership)
    (event : Event) : Provenance (past ++ b.records event) (b.step event).ownership := by
  cases event with
  | serve request =>
    have hkept := (request.accounts_serve hp b.payloadLimit).kept
    rw [← request.exchanges_program] at hkept
    change Provenance _ (b.handle request).2.ownership
    rw [handle_eq]
    exact hkept
  | disturb d =>
    have hsame : (b.disturb d).ownership = b.ownership := by
      unfold ownership disturb
      dsimp only
      rw [b.device.holdings_disturb d]
    change Provenance (past ++ []) (b.disturb d).ownership
    rw [hsame, List.append_nil]
    exact hp

theorem provenance_after {past : List Record} {b : Broker cards} (hp : Provenance past b.ownership)
    (events : List Event) : Provenance (past ++ b.trace events) (b.after events).ownership := by
  induction events generalizing past b with
  | nil => exact (List.append_nil past).symm ▸ hp
  | cons event rest ih =>
    rw [trace, ← List.append_assoc]
    exact ih (provenance_step hp event)

/-- Along a history every call that names a child is backed by what was before it. -/
theorem backed_after (source : IdSource) (images : String → Option (List UInt8)) (limit : UInt64)
    (events : List Event) (request : Request) {before later : List Exchange} {x : Exchange}
    (hx : (request.program limit).exchanges
      ((start source (.start cards images) limit).after events) = before ++ x :: later) :
    Backed ((start source (.start cards images) limit).trace events ++
        before.map (Record.mk request)) request
      ((start source (.start cards images) limit).after events).ownership.handle x.call := by
  have hp := provenance_after (provenance_start cards source images limit) events
  rw [List.nil_append] at hp
  rw [request.exchanges_program] at hx
  exact (request.accounts_serve hp limit).backed before x later hx

end Broker

end DeviceBroker
