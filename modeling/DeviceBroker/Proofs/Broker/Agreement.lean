import DeviceBroker.Proofs.Broker.Execution
import DeviceBroker.Proofs.Broker.Ledger
import DeviceBroker.Proofs.Broker.Workload

/-!
# Registry and driver agree

Whatever requests are served one after another, with whatever failures armed
in between and with values of closed handles given out again or not, the books
of the registry agree with what the driver holds. Most requests are `Quiet`:
they change neither side. For each of the others one lemma follows it through
its program and finds the change of `Agreement` that it amounts to.
-/

namespace DeviceBroker

variable {cards : Nat} {α β : Type}

/-- The registry and the driver of a broker agree. -/
def Broker.Agrees (b : Broker cards) : Prop := Agreement b.registry.books b.device.holdings

namespace Service

/-! ## Services that change nothing -/

/-- A service that leaves the registry and what the driver holds as they were. -/
def Quiet (s : Service α) : Prop :=
  ∀ (cards : Nat) (b : Broker cards),
    (exec s b).2.registry = b.registry ∧ (exec s b).2.device.holdings = b.device.holdings

theorem quiet_pure (value : α) : Quiet (pure value) := fun _ _ => ⟨rfl, rfl⟩

theorem quiet_throw (fault : Fault) : Quiet (throw fault : Service α) := fun _ _ => ⟨rfl, rfl⟩

theorem quiet_require (condition : Bool) (fault : Fault) : Quiet (require condition fault) :=
  fun _ _ => ⟨rfl, rfl⟩

theorem Quiet.bind {s : Service α} {next : α → Service β} (hs : Quiet s)
    (hn : ∀ value, Quiet (next value)) : Quiet (s >>= next) := by
  intro cards b
  obtain ⟨hr, hd⟩ := hs cards b
  rw [exec_bind]
  generalize exec s b = outcome at hr hd ⊢
  obtain ⟨result, b'⟩ := outcome
  cases result with
  | error fault => exact ⟨hr, hd⟩
  | ok value =>
      obtain ⟨hr', hd'⟩ := hn value cards b'
      exact ⟨hr'.trans hr, hd'.trans hd⟩

theorem quiet_lookup (cls : ResourceClass) (id : RemoteId) : Quiet (lookup cls id) := by
  intro cards b
  rw [exec_lookup]
  split
  · exact ⟨rfl, rfl⟩
  · exact ⟨rfl, rfl⟩

theorem quiet_lookupOwned (cls : ResourceClass) (id owner : RemoteId) :
    Quiet (lookupOwned cls id owner) :=
  (quiet_lookup cls id).bind fun _ => (quiet_require _ _).bind fun _ => quiet_pure _

theorem quiet_bufferRange (handleId bufferId : RemoteId) (offset count : UInt64) :
    Quiet (bufferRange handleId bufferId offset count) :=
  (quiet_lookup _ _).bind fun _ => (quiet_lookupOwned _ _ _).bind fun _ =>
    (quiet_require _ _).bind fun _ => quiet_pure _

theorem holdings_of_exec_error {call : DeviceCall} {b b' : Broker cards} {fault : Fault}
    (h : exec (device call) b = (.error fault, b')) :
    b'.registry = b.registry ∧ b'.device.holdings = b.device.holdings := by
  have hserves := b.device.serves_call call
  rw [exec_device] at h
  obtain ⟨hr, rfl⟩ := Prod.mk.inj h
  refine ⟨rfl, ?_⟩
  generalize b.device.call call = outcome at hr hserves ⊢
  obtain ⟨result, d⟩ := outcome
  subst hr
  exact hserves

theorem holdings_of_exec_ok {call : DeviceCall} {b b' : Broker cards} {value : call.Value}
    (h : exec (device call) b = (.ok value, b')) :
    b'.registry = b.registry ∧ b.device.holdings.Grants call value ∧
      b'.device.holdings = b.device.holdings.after call value := by
  have hserves := b.device.serves_call call
  rw [exec_device] at h
  obtain ⟨hr, rfl⟩ := Prod.mk.inj h
  refine ⟨rfl, ?_⟩
  generalize b.device.call call = outcome at hr hserves ⊢
  obtain ⟨result, d⟩ := outcome
  subst hr
  exact hserves

theorem quiet_device {call : DeviceCall} (h : ∀ held value, Holdings.after held call value = held) :
    Quiet (device call) := by
  intro cards b
  cases he : exec (device call) b with
  | mk result b' =>
      cases result with
      | error fault => exact holdings_of_exec_error he
      | ok value =>
          obtain ⟨hr, -, hd⟩ := holdings_of_exec_ok he
          exact ⟨hr, hd.trans (h _ _)⟩

theorem quiet_poll (handle : NativeHandle) (workspace : Nat) (offset : UInt64) (width : UInt32)
    (mask expected : UInt64) (attempts : Nat) :
    Quiet (poll handle workspace offset width mask expected attempts) := by
  induction attempts with
  | zero => exact quiet_throw _
  | succ attempts ih =>
      refine (quiet_device fun _ _ => rfl).bind fun data => ?_
      split
      · exact quiet_pure _
      · exact ih

theorem quiet_importFilter (filter : Properties RemoteId) : Quiet (importFilter filter) := by
  unfold importFilter Properties.mapParentM
  split
  · exact quiet_pure _
  · exact ((quiet_lookup _ _).bind fun _ => quiet_pure _).bind fun _ => quiet_pure _

theorem Quiet.mapM {s : α → Service β} (h : ∀ value, Quiet (s value)) (values : List α) :
    Quiet (values.mapM s) := by
  induction values with
  | nil => exact quiet_pure _
  | cons value rest ih =>
      rw [List.mapM_cons]
      exact (h value).bind fun _ => ih.bind fun _ => quiet_pure _

theorem Quiet.holdings_of_exec {s : Service α} (h : Quiet s) {b b' : Broker cards}
    {result : Except Fault α} (he : exec s b = (result, b')) :
    b'.device.holdings = b.device.holdings := by
  have hd := (h cards b).2
  rwa [he] at hd

/-! ## Services that keep the agreement -/

/-- A service that ends in agreement, if the registry is sound and the sequence
of identifiers lasts. -/
def Keeps (salt : UInt64) (s : Service α) (b : Broker cards) : Prop :=
  b.registry.Sound salt → (exec s b).2.registry.drawn < 2 ^ 64 → (exec s b).2.Agrees

variable {salt : UInt64} {b : Broker cards}

theorem sound_exec {s : Service α} (h : b.registry.Sound salt)
    (hb : (exec s b).2.registry.drawn < 2 ^ 64) : (exec s b).2.registry.Sound salt :=
  s.run.sound_run h hb

theorem drawn_le_exec_bind (s : Service α) (next : α → Service β) (b : Broker cards) :
    (exec s b).2.registry.drawn ≤ (exec (s >>= next) b).2.registry.drawn := by
  rw [exec_bind]
  generalize exec s b = outcome
  obtain ⟨result, b'⟩ := outcome
  cases result with
  | error fault => exact Nat.le_refl _
  | ok value => exact (next value).run.drawn_le_run b'

theorem Quiet.keeps {s : Service α} (h : Quiet s) (agrees : b.Agrees) : Keeps salt s b := by
  intro _ _
  obtain ⟨hr, hd⟩ := h cards b
  unfold Broker.Agrees
  rw [hr, hd]
  exact agrees

/-- After a quiet service the rest goes on with a broker that agrees as before. -/
theorem Quiet.keeps_bind {s : Service α} {next : α → Service β} (h : Quiet s)
    (agrees : b.Agrees)
    (hn : ∀ value (b' : Broker cards), b'.registry = b.registry → b'.Agrees →
      Keeps salt (next value) b') :
    Keeps salt (s >>= next) b := by
  intro hsound hb
  obtain ⟨hr, hd⟩ := h cards b
  rw [exec_bind] at hb ⊢
  generalize exec s b = outcome at hr hd hb ⊢
  obtain ⟨result, b'⟩ := outcome
  have hagrees : b'.Agrees := by
    unfold Broker.Agrees at agrees ⊢
    rwa [hr, hd]
  cases result with
  | error fault => exact hagrees
  | ok value => exact hn value b' hr hagrees (hr ▸ hsound) hb

theorem keeps_lookup_bind {cls : ResourceClass} {id : RemoteId} {next : cls.Entry → Service α}
    (agrees : b.Agrees)
    (hn : ∀ entry, (b.registry.map cls).find? id = some entry → Keeps salt (next entry) b) :
    Keeps salt (lookup cls id >>= next) b := by
  intro hsound hb
  cases hf : (b.registry.map cls).find? id with
  | none =>
      rw [exec_bind_of_error next (exec_lookup_of_none hf)]
      exact agrees
  | some entry =>
      rw [exec_bind_of_ok next (exec_lookup_of_some hf)] at hb ⊢
      exact hn entry hf hsound hb

/-- After a call that failed the broker still agrees; after one that succeeded
the rest has to book what the driver has changed. -/
theorem keeps_device_bind {call : DeviceCall} {next : call.Value → Service α} (agrees : b.Agrees)
    (hn : ∀ value (b' : Broker cards), b'.registry = b.registry →
      b.device.holdings.Grants call value →
      b'.device.holdings = b.device.holdings.after call value → Keeps salt (next value) b') :
    Keeps salt (device call >>= next) b := by
  intro hsound hb
  cases he : exec (device call) b with
  | mk result b' =>
      cases result with
      | error fault =>
          obtain ⟨hr, hd⟩ := holdings_of_exec_error he
          rw [exec_bind_of_error next he]
          unfold Broker.Agrees
          rw [hr, hd]
          exact agrees
      | ok value =>
          obtain ⟨hr, hg, hd⟩ := holdings_of_exec_ok he
          rw [exec_bind_of_ok next he] at hb ⊢
          exact hn value b' hr hg hd (hr ▸ hsound) hb

/-- The look-up and the call that most requests start with. -/
theorem keeps_lookup_device_bind {cls : ResourceClass} {id : RemoteId}
    {call : cls.Entry → DeviceCall} {next : ∀ entry, (call entry).Value → Service α}
    (agrees : b.Agrees)
    (hn : ∀ entry value (b' : Broker cards) held, (b'.registry.map cls).find? id = some entry →
      Agreement b'.registry.books held → held.Grants (call entry) value →
      b'.device.holdings = held.after (call entry) value → Keeps salt (next entry value) b') :
    Keeps salt (lookup cls id >>= fun entry => device (call entry) >>= next entry) b := by
  refine keeps_lookup_bind agrees fun entry hf => ?_
  refine keeps_device_bind agrees fun value b' hr hg hd => ?_
  rw [← hr] at hf
  exact hn entry value b' b.device.holdings hf (by rw [hr]; exact agrees) hg hd

theorem Keeps.bind_pure {s : Service α} (h : Keeps salt s b) (f : α → β) :
    Keeps salt (s >>= fun value => pure (f value)) b := by
  have hsame : (exec (s >>= fun value => pure (f value)) b).2 = (exec s b).2 := by
    rw [exec_bind]
    generalize exec s b = outcome
    obtain ⟨result, b'⟩ := outcome
    cases result with
    | error fault => rfl
    | ok value => rfl
  intro hsound hb
  rw [hsame] at hb ⊢
  exact h hsound hb

/-! ## Tokens -/

theorem agreement_intern {r : Registry} {held : Holdings} (hsound : r.Sound salt)
    (agrees : Agreement r.books held) {token : NativeToken}
    (hb : (r.intern .token ⟨token⟩).2.drawn < 2 ^ 64) :
    ∃ registration, (r.intern .token ⟨token⟩).1 = some registration ∧
      Agreement (r.intern .token ⟨token⟩).2.books (held.track token) := by
  rcases hsound.intern hb with ⟨registration, hsome, ⟨hr, hlive⟩ | ⟨hnew, hputs⟩⟩
  -- A token that is tracked already was held before, so holding it once more changes nothing.
  · refine ⟨registration, hsome, ?_⟩
    have hheld : held.track token = held := by
      have htrue := agrees.token.holds _ token hlive
      unfold Holdings.track
      rw [← htrue, override_eq_self]
    rw [hr, hheld]
    exact agrees
  · refine ⟨registration, hsome, ?_⟩
    have hfree : held.token token = false := by
      cases hheld : held.token token with
      | false => rfl
      | true =>
          obtain ⟨id, hid⟩ := agrees.token.tracked token hheld
          exact absurd hid (hnew id)
    have hfresh : r.books.token registration.id = none :=
      congrArg (Option.map TokenEntry.token) (hputs.fresh .token)
    rw [Registry.books_of_token hputs.same hputs.rest]
    exact agrees.track hfree hfresh

theorem keeps_intern {token : NativeToken} {held : Holdings}
    (agrees : Agreement b.registry.books held) (hd : b.device.holdings = held.track token) :
    Keeps salt (intern token) b := by
  intro hsound hb
  rw [exec_intern] at hb ⊢
  obtain ⟨registration, -, hagrees⟩ := agreement_intern hsound agrees hb
  unfold Broker.Agrees
  rw [hd]
  exact hagrees

/-- Exporting a token cannot fail: it books the token and leaves the driver alone. -/
theorem exec_exportToken_agrees {native : NativeHeader} {held : Holdings}
    (hsound : b.registry.Sound salt) (agrees : Agreement b.registry.books held)
    (hb : (exec (exportToken native) b).2.registry.drawn < 2 ^ 64) :
    ∃ header r, exec (exportToken native) b = (.ok header, { b with registry := r }) ∧
      Agreement r.books (held.track native.token) := by
  have hdrawn : (b.registry.intern .token ⟨native.token⟩).2.drawn < 2 ^ 64 := by
    rw [exec_exportToken] at hb
    split at hb
    · exact hb
    · exact hb
  obtain ⟨registration, hsome, hagrees⟩ := agreement_intern hsound agrees hdrawn
  rw [exec_exportToken, hsome]
  exact ⟨_, _, rfl, hagrees⟩

theorem keeps_exportToken {native : NativeHeader} {held : Holdings}
    (agrees : Agreement b.registry.books held)
    (hd : b.device.holdings = held.track native.token) : Keeps salt (exportToken native) b := by
  intro hsound hb
  obtain ⟨header, r, he, hagrees⟩ := exec_exportToken_agrees hsound agrees hb
  rw [he]
  unfold Broker.Agrees
  dsimp only
  rw [hd]
  exact hagrees

theorem keeps_exportTokens {natives : List NativeHeader} {held : Holdings}
    (agrees : Agreement b.registry.books held)
    (hd : b.device.holdings = (natives.map NativeHeader.token).foldl Holdings.track held) :
    Keeps salt (natives.mapM exportToken) b := by
  induction natives generalizing b held with
  | nil =>
      intro _ _
      change Agreement b.registry.books b.device.holdings
      rw [hd]
      exact agrees
  | cons native rest ih =>
      intro hsound hb
      rw [List.mapM_cons] at hb ⊢
      -- The driver holds all tokens of the list already; each export books one more of them.
      have hmid := Nat.lt_of_le_of_lt (drawn_le_exec_bind _ _ b) hb
      obtain ⟨header, r, he, hagrees⟩ := exec_exportToken_agrees hsound agrees hmid
      have hsound' := sound_exec hsound hmid
      rw [he] at hsound'
      rw [exec_bind_of_ok _ he] at hb ⊢
      have hrest : Keeps salt (rest.mapM exportToken) { b with registry := r } := ih hagrees hd
      exact hrest.bind_pure (fun headers => header :: headers) hsound' hb

theorem keeps_exportProperties {properties : Properties NativeToken} {held : Holdings}
    (agrees : Agreement b.registry.books held)
    (hd : b.device.holdings = properties.parent.elim held held.track) :
    Keeps salt (exportProperties properties) b := by
  unfold exportProperties Properties.mapParentM
  cases hp : properties.parent with
  | none =>
      intro _ _
      change Agreement b.registry.books b.device.holdings
      rw [hd, hp]
      exact agrees
  | some token =>
      rw [hp] at hd
      exact (keeps_intern agrees hd).bind_pure _

/-! ## Resources that are registered once -/

/-- Registering succeeds, so what the driver has created is not destroyed again. -/
theorem keeps_registerOrUndo {cls : ResourceClass} {entry : cls.Entry} {undo : DeviceCall}
    (hk : cls.nativeKey? entry = none)
    (h : ∀ id r', b.registry.Puts r' cls id entry → Agreement r'.books b.device.holdings) :
    Keeps salt (registerOrUndo cls entry undo) b := by
  intro hsound hb
  have hdrawn : (b.registry.register cls entry).2.drawn < 2 ^ 64 := by
    rw [exec_registerOrUndo] at hb
    split at hb
    · exact hb
    · exact hb
  obtain ⟨id, hsome, hputs⟩ := hsound.register hk hdrawn
  rw [exec_registerOrUndo, hsome]
  exact h id _ hputs

theorem keeps_registerObject {object : NativeObject} {held : Holdings}
    (agrees : Agreement b.registry.books held)
    (hg : object = ⟨Simulator.firstObject + held.nextObject⟩)
    (hd : b.device.holdings = held.openNext object) :
    Keeps salt (registerObject object) b := by
  refine keeps_registerOrUndo rfl fun id r' hputs => ?_
  have hfresh : b.registry.books.object id = none :=
    congrArg (Option.map ObjectEntry.object) (hputs.fresh .object)
  rw [Registry.books_of_object hputs.same hputs.rest, hd]
  subst hg
  exact agrees.openNext hfresh

/-! ## Tearing down -/

/-- If destroying fails the driver must not have changed; if it succeeds, what
follows has to bring the books in order again. -/
theorem keeps_teardown_bind {cls : ResourceClass} {id : RemoteId}
    {destroy : cls.Entry → Service Unit} {next : Unit → Service α} (agrees : b.Agrees)
    (hdevice : ∀ entry, DeviceOnly (destroy entry))
    (herror : ∀ entry fault (b' : Broker cards), exec (destroy entry) b = (.error fault, b') →
      b'.device.holdings = b.device.holdings)
    (hok : ∀ entry (b' : Broker cards), (b.registry.map cls).find? id = some entry →
      exec (destroy entry) b = (.ok (), b') →
      (exec (next ()) { b' with
        registry := b.registry.withMap cls ((b.registry.map cls).remove id).2 }).2.Agrees) :
    Keeps salt (teardown cls id destroy >>= next) b := by
  intro _ _
  cases hf : (b.registry.map cls).find? id with
  | none =>
      rw [exec_bind_of_error next (exec_teardown_of_none destroy hf)]
      exact agrees
  | some entry =>
      have hsame := (hdevice entry).registry_eq b
      rcases exec_teardown_of_some (hdevice entry) hf with he | he
      · rw [exec_bind_of_error next he]
        exact agrees
      · cases hd : exec (destroy entry) b with
        | mk result b' =>
            rw [hd] at he hsame
            cases result with
            | ok _ =>
                rw [exec_bind_of_ok next he]
                exact hok entry b' hf hd
            | error fault =>
                rw [exec_bind_of_error next he]
                dsimp only at hsame
                unfold Broker.Agrees
                dsimp only
                rw [herror entry fault b' hd, hsame]
                exact agrees

theorem keeps_teardown {cls : ResourceClass} {id : RemoteId} {destroy : cls.Entry → Service Unit}
    (agrees : b.Agrees) (hdevice : ∀ entry, DeviceOnly (destroy entry))
    (herror : ∀ entry fault (b' : Broker cards), exec (destroy entry) b = (.error fault, b') →
      b'.device.holdings = b.device.holdings)
    (hok : ∀ entry (b' : Broker cards) r', (b.registry.map cls).find? id = some entry →
      exec (destroy entry) b = (.ok (), b') → b.registry.Drops r' cls id →
      Agreement r'.books b'.device.holdings) :
    Keeps salt (teardown cls id destroy) b := by
  have h : Keeps salt (teardown cls id destroy >>= pure) b :=
    keeps_teardown_bind agrees hdevice herror fun entry b' hf he =>
      hok entry b' _ hf he (b.registry.drops_remove cls id)
  rwa [bind_pure] at h

theorem keeps_destroyToken (agrees : b.Agrees) (tokenId : RemoteId) :
    Keeps salt (teardown .token tokenId fun entry => device (.destroyToken entry.token)) b := by
  refine keeps_teardown agrees (fun _ => deviceOnly_device _)
    (fun entry fault b' he => (holdings_of_exec_error he).2) fun entry b' r' hf he hdrops => ?_
  obtain ⟨-, -, hd⟩ := holdings_of_exec_ok he
  have hlive : b.registry.books.token tokenId = some entry.token :=
    congrArg (Option.map TokenEntry.token) hf
  rw [Registry.books_of_token hdrops.same hdrops.rest, hd]
  exact agrees.untrack hlive

theorem keeps_destroyObject (agrees : b.Agrees) (objectId : RemoteId) :
    Keeps salt (teardown .object objectId fun entry => device (.destroyObject entry.object)) b := by
  refine keeps_teardown agrees (fun _ => deviceOnly_device _)
    (fun entry fault b' he => (holdings_of_exec_error he).2) fun entry b' r' hf he hdrops => ?_
  obtain ⟨-, -, hd⟩ := holdings_of_exec_ok he
  have hlive : b.registry.books.object objectId = some entry.object :=
    congrArg (Option.map ObjectEntry.object) hf
  rw [Registry.books_of_object hdrops.same hdrops.rest, hd]
  exact agrees.destroyObject hlive

/-- A mapping is in no book, so unmapping changes none. -/
theorem keeps_unmap (agrees : b.Agrees) (handle : NativeHandle) (handleId mappingId : RemoteId)
    (region : UInt32) :
    Keeps salt (teardown .mapping mappingId fun mapping => do
      require (mapping.owner == handleId) .notFound
      require (mapping.region == region) .invalidParam
      device (.unmapMmio handle region)) b := by
  -- The driver's own mappings are not among what it is said to hold.
  have hquiet : ∀ mapping : MappingEntry, Quiet (do
      require (mapping.owner == handleId) .notFound
      require (mapping.region == region) .invalidParam
      device (.unmapMmio handle region)) := fun mapping =>
    (quiet_require _ _).bind fun _ => (quiet_require _ _).bind fun _ => quiet_device fun _ _ => rfl
  refine keeps_teardown agrees
    (fun _ => deviceOnly_require_bind (deviceOnly_require_bind (deviceOnly_device _)))
    (fun entry fault b' he => (hquiet entry).holdings_of_exec he) fun entry b' r' _ he hdrops => ?_
  rw [Registry.books_congr hdrops.rest, (hquiet entry).holdings_of_exec he]
  exact agrees

theorem keeps_release {handle : HandleEntry} {handleId : RemoteId} (agrees : b.Agrees)
    (hh : (b.registry.map .handle).find? handleId = some handle) (bufferId : RemoteId) :
    Keeps salt (teardown .buffer bufferId fun buffer => do
      require (buffer.owner == handleId) .notFound
      device (.releaseBuffer handle.handle buffer.workspace)) b := by
  refine keeps_teardown agrees (fun _ => deviceOnly_require_bind (deviceOnly_device _))
    (fun entry fault b' he => ?_) fun entry b' r' hf he hdrops => ?_
  · rcases exec_require_bind_error he with rfl | he
    · rfl
    · exact (holdings_of_exec_error he).2
  · obtain ⟨ho, he⟩ := exec_require_bind_ok he
    obtain ⟨-, -, hd⟩ := holdings_of_exec_ok he
    have howner : b.registry.books.handle entry.owner = some handle.handle := by
      rw [beq_iff_eq.mp ho]
      exact congrArg (Option.map HandleEntry.handle) hh
    have hplace : b.registry.books.place? bufferId = some (handle.handle, entry.workspace) :=
      (Books.place?_eq_some_iff _ _ _).mpr ⟨entry, hf, howner, rfl⟩
    rw [Registry.books_of_buffer hdrops.same hdrops.rest, hd]
    exact agrees.release hplace

/-- Closing a handle removes what it owns from the registry as well. -/
theorem keeps_close (agrees : b.Agrees) (handleId : RemoteId) :
    Keeps salt (do
      teardown .handle handleId fun entry => device (.closeHandle entry.handle)
      let _ ← Program.perform (.removeOwned .mapping handleId)
      let _ ← Program.perform (.removeOwned .buffer handleId)
      return ()) b := by
  refine keeps_teardown_bind agrees (fun _ => deviceOnly_device _)
    (fun entry fault b' he => (holdings_of_exec_error he).2) fun entry b' hf he => ?_
  obtain ⟨-, -, hd⟩ := holdings_of_exec_ok he
  have hlive : b.registry.books.handle handleId = some entry.handle :=
    congrArg (Option.map HandleEntry.handle) hf
  -- The three removals together are the registry without the handle and what it owns.
  change Agreement (b.registry.closed handleId).books b'.device.holdings
  rw [Registry.books_closed, hd]
  exact agrees.close hlive

end Service

open Service

/-- Whether an operation changes neither the books nor what the driver holds. -/
def Operation.isQuiet : Operation → Bool
  | .enumerate | .destroyToken | .cloneToken | .getProperties | .updateProperties | .openHandle
  | .closeHandle | .getHandleProperties | .mapMmio | .unmapMmio | .prepareBuffer | .releaseBuffer
  | .tokenGetObject | .handleGetObject | .destroyObject | .objectGetObject
  | .objectGetObjectAt => false
  | _ => true

theorem Request.quiet_serve {request : Request} (h : request.operation.isQuiet = true)
    (limit : UInt64) : Quiet (request.serve limit) := by
  cases request with
  | enumerate | destroyToken | cloneToken | getProperties | updateProperties | openHandle
  | closeHandle | getHandleProperties | mapMmio | unmapMmio | prepareBuffer | releaseBuffer
  | tokenGetObject | handleGetObject | destroyObject | objectGetObject | objectGetObjectAt =>
      cases h
  | writeMmio512 handleId region offset values =>
      refine (quiet_lookup _ _).bind fun entry => (quiet_require _ _).bind fun _ => ?_
      split
      · exact quiet_throw _
      · exact quiet_device fun _ _ => rfl
  | objectRead objectId offset length flags =>
      refine (quiet_lookup _ _).bind fun entry => (quiet_require _ _).bind fun _ => ?_
      exact (quiet_device fun _ _ => rfl).bind fun _ => quiet_pure _
  | getMetricsInfo | getMetricsByIndex | getMetricsByName | getMetricThresholds =>
      exact (quiet_lookup _ _).bind fun entry =>
        (quiet_device fun _ _ => rfl).bind fun _ => quiet_pure _
  | getIoAddress handleId bufferId =>
      exact (quiet_lookup _ _).bind fun handle => (quiet_lookupOwned _ _ _).bind fun buffer =>
        quiet_device fun _ _ => rfl
  | bufferFill handleId bufferId offset byte count =>
      exact (quiet_bufferRange _ _ _ _).bind fun _ => quiet_device fun _ _ => rfl
  | bufferWrite handleId bufferId offset source count =>
      exact (quiet_require _ _).bind fun _ => (quiet_require _ _).bind fun _ =>
        (quiet_bufferRange _ _ _ _).bind fun _ => quiet_device fun _ _ => rfl
  | bufferRead handleId bufferId offset count =>
      exact (quiet_require _ _).bind fun _ => (quiet_bufferRange _ _ _ _).bind fun _ =>
        (quiet_device fun _ _ => rfl).bind fun _ => quiet_pure _
  | bufferPoll handleId bufferId offset width mask expected sleepMicros attempts =>
      exact (quiet_require _ _).bind fun _ => (quiet_bufferRange _ _ _ _).bind fun _ =>
        quiet_poll _ _ _ _ _ _ _
  | bufferCompare handleId firstId firstOffset secondId secondOffset count =>
      exact (quiet_bufferRange _ _ _ _).bind fun _ => (quiet_bufferRange _ _ _ _).bind fun _ =>
        (quiet_device fun _ _ => rfl).bind fun _ => (quiet_device fun _ _ => rfl).bind fun _ =>
        quiet_pure _
  | bufferPattern handleId bufferId pattern =>
      refine (quiet_lookup _ _).bind fun handle => (quiet_lookupOwned _ _ _).bind fun buffer => ?_
      split
      · exact quiet_throw _
      · exact quiet_device fun _ _ => rfl
  | _ => exact (quiet_lookup _ _).bind fun _ => quiet_device fun _ _ => rfl

/-- Every request keeps registry and driver in agreement. -/
theorem Request.keeps_serve {salt : UInt64} {b : Broker cards} (agrees : b.Agrees)
    (limit : UInt64) (request : Request) : Keeps salt (request.serve limit) b := by
  by_cases hq : request.operation.isQuiet = true
  · exact (quiet_serve hq limit).keeps agrees
  -- What is left creates or ends something, one lemma of `Agreement` for each kind of thing.
  cases request with
  | enumerate filters maxTokens =>
      refine (Quiet.mapM quiet_importFilter filters).keeps_bind agrees
        fun natives b' _ agrees' => ?_
      refine keeps_device_bind agrees' fun listing b'' hr hg hd => ?_
      -- The driver lists no more than it was asked for, so no token is left unbooked.
      have hall : listing.tokens.take maxTokens.toNat = listing.tokens := List.take_of_length_le hg
      rw [hall]
      refine Keeps.bind_pure (keeps_exportTokens ?_ hd) _
      rw [hr]
      exact agrees'
  | destroyToken tokenId => exact keeps_destroyToken agrees tokenId
  | cloneToken sourceId =>
      refine keeps_lookup_device_bind agrees fun source clone b' held _ agrees' _ hd => ?_
      exact keeps_exportToken agrees' hd
  | getProperties id | updateProperties id | getHandleProperties id =>
      refine keeps_lookup_device_bind agrees fun entry properties b' held _ agrees' _ hd => ?_
      exact keeps_exportProperties agrees' hd
  | openHandle tokenId flags =>
      refine keeps_lookup_device_bind agrees fun entry handle b' held _ agrees' hg hd => ?_
      refine Keeps.bind_pure (keeps_registerOrUndo rfl fun id r' hputs => ?_) _
      have hfresh : b'.registry.books.handle id = none :=
        congrArg (Option.map HandleEntry.handle) (hputs.fresh .handle)
      rw [Registry.books_of_handle hputs.same hputs.rest, hd]
      exact agrees'.openAt hg hfresh
  | closeHandle handleId => exact keeps_close agrees handleId
  | mapMmio handleId region =>
      refine keeps_lookup_device_bind agrees fun entry base b' held _ agrees' _ hd => ?_
      refine keeps_registerOrUndo rfl fun id r' hputs => ?_
      rw [Registry.books_congr hputs.rest, hd]
      exact agrees'
  | unmapMmio handleId mappingId region =>
      refine keeps_lookup_bind agrees fun handle _ => ?_
      exact keeps_unmap agrees handle.handle handleId mappingId region
  | prepareBuffer handleId length address flags =>
      refine keeps_lookup_device_bind agrees fun entry prepared b' held hf agrees' hg hd => ?_
      refine keeps_registerOrUndo rfl fun id r' hputs => ?_
      have howner : b'.registry.books.handle handleId = some entry.handle :=
        congrArg (Option.map HandleEntry.handle) hf
      rw [Registry.books_of_buffer hputs.same hputs.rest, hd]
      exact agrees'.prepare howner hg.2 (hputs.fresh .buffer)
  | releaseBuffer handleId bufferId =>
      exact keeps_lookup_bind agrees fun handle hf => keeps_release agrees hf bufferId
  | tokenGetObject id name flags | handleGetObject id name flags | objectGetObject id name flags =>
      refine keeps_lookup_device_bind agrees fun entry object b' held _ agrees' hg hd => ?_
      exact keeps_registerObject agrees' hg hd
  | objectGetObjectAt objectId index =>
      refine keeps_lookup_device_bind agrees fun entry object b' held _ agrees' hg hd => ?_
      exact keeps_registerObject agrees' hg hd
  | destroyObject objectId => exact keeps_destroyObject agrees objectId
  | _ => exact absurd rfl hq

end DeviceBroker
