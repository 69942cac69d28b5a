import DeviceBroker.Proofs.Broker.Cards
import DeviceBroker.Proofs.Broker.Mappings
import DeviceBroker.Proofs.Simulator.Confinement

/-!
# Requests confined to a card

A request that hands out no identifiers is confined to the card of the
identifiers that it names: its reply can be told from what is on that card, and
what it does amends the broker on that card. So two such requests for different
cards can be served in either order: neither the replies nor the broker after
both of them tells which of the two came first.
-/

namespace DeviceBroker

variable {cards : Nat} {α β : Type} {c d : Fin cards} {k : Chart cards}

namespace Service

/-- What a service answers and what it does are told from one card, and what it
does is an amendment of that card. -/
def Confined (k : Chart cards) (c : Fin cards) (s : Service α) (b : Broker cards) : Prop :=
  ∃ result A, Amendment.On k c A ∧
    ∀ b', Broker.AgreesOn k c b b' → exec s b' = (result, b'.amend A)

section

variable {b : Broker cards}

theorem confined_of_unchanged {s : Service α} {result : Except Fault α}
    (h : ∀ b', Broker.AgreesOn k c b b' → exec s b' = (result, b')) : Confined k c s b :=
  ⟨result, .nothing, Amendment.on_nothing, fun b' a => by rw [h b' a, Broker.amend_nothing]⟩

theorem confined_pure (value : α) : Confined k c (pure value) b :=
  confined_of_unchanged fun _ _ => rfl

theorem confined_throw (fault : Fault) : Confined k c (throw fault : Service α) b :=
  confined_of_unchanged fun _ _ => rfl

/-- What comes second finds the broker as the first has amended it. -/
theorem Confined.bind {s : Service α} {next : α → Service β} (h : Confined k c s b)
    (hn : ∀ value A, Amendment.On k c A → exec s b = (.ok value, b.amend A) →
      Confined k c (next value) (b.amend A)) : Confined k c (s >>= next) b := by
  obtain ⟨result, A, hA, hs⟩ := h
  cases result with
  | error fault => exact ⟨.error fault, A, hA, fun b' a => exec_bind_of_error next (hs b' a)⟩
  | ok value =>
    obtain ⟨result, A', hA', hnext⟩ := hn value A hA (hs b (.refl b))
    refine ⟨result, A.andThen A', hA.andThen hA', fun b' a => ?_⟩
    rw [exec_bind_of_ok next (hs b' a), hnext (b'.amend A) (a.amend hA), Broker.amend_amend]

theorem Confined.bind_pure {s : Service α} (h : Confined k c s b) (f : α → β) :
    Confined k c (s >>= fun value => pure (f value)) b :=
  h.bind fun _ _ _ _ => confined_pure _

theorem confined_require_bind {condition : Bool} {fault : Fault} {next : Unit → Service α}
    (h : Confined k c (next ()) b) : Confined k c (require condition fault >>= next) b := by
  cases condition with
  | true => exact h
  | false => exact confined_throw fault

theorem confined_lookup_bind {cls : ResourceClass} {id : RemoteId} {next : cls.Entry → Service α}
    (hid : b.IdOn k c cls id)
    (h : ∀ entry, (b.registry.map cls).find? id = some entry → Confined k c (next entry) b) :
    Confined k c (lookup cls id >>= next) b := by
  cases hf : (b.registry.map cls).find? id with
  | none =>
    exact confined_of_unchanged fun b' a =>
      exec_bind_of_error next (exec_lookup_of_none ((a.find?_eq hid).trans hf))
  | some entry =>
    obtain ⟨result, A, hA, hnext⟩ := h entry hf
    refine ⟨result, A, hA, fun b' a => ?_⟩
    rw [exec_bind_of_ok next (exec_lookup_of_some ((a.find?_eq hid).trans hf)), hnext b' a]

theorem confined_lookupOwned_bind {cls : ResourceClass} {id owner : RemoteId}
    {next : cls.Entry → Service α} (hid : b.IdOn k c cls id)
    (h : ∀ entry, Confined k c (next entry) b) :
    Confined k c (lookupOwned cls id owner >>= next) b := by
  unfold lookupOwned
  simp only [bind_assoc, pure_bind]
  exact confined_lookup_bind hid fun entry _ => confined_require_bind (h entry)

theorem confined_bufferRange_bind {handleId bufferId : RemoteId} {offset count : UInt64}
    {next : HandleEntry × BufferEntry → Service α} (hh : b.IdOn k c .handle handleId)
    (hb : b.IdOn k c .buffer bufferId)
    (h : ∀ handle, (b.registry.map .handle).find? handleId = some handle →
      ∀ buffer, Confined k c (next (handle, buffer)) b) :
    Confined k c (bufferRange handleId bufferId offset count >>= next) b := by
  unfold bufferRange
  simp only [bind_assoc, pure_bind]
  exact confined_lookup_bind hh fun handle hf => confined_lookupOwned_bind hb fun buffer =>
    confined_require_bind (h handle hf buffer)

theorem confined_device (unarmed : ∀ kind, b.device.armed kind = none) (call : DeviceCall)
    (h : call.On c b.device) : Confined k c (device call) b := by
  obtain ⟨result, R, hR, hcall⟩ := Simulator.confined_call unarmed h
  refine ⟨result, ⟨R, .nothing⟩, ⟨hR, nofun⟩, fun b' a => ?_⟩
  have hc : b'.device.call call = (result, b'.device.revise R) := hcall b'.device a.device
  rw [exec_device, hc]
  simp [Broker.amend]

theorem confined_teardown {cls : ResourceClass} {id : RemoteId}
    {destroy : cls.Entry → Service Unit} (hid : b.IdOn k c cls id)
    (hd : ∀ entry, DeviceOnly (destroy entry))
    (h : ∀ entry, (b.registry.map cls).find? id = some entry → Confined k c (destroy entry) b) :
    Confined k c (teardown cls id destroy) b := by
  cases hf : (b.registry.map cls).find? id with
  | none =>
    exact confined_of_unchanged fun b' a =>
      exec_teardown_of_none destroy ((a.find?_eq hid).trans hf)
  | some entry =>
    obtain ⟨hv, ⟨_, claimed⟩, hs, rfl⟩ := IdentityMap.slots_of_find? hf
    have hslot : ∀ b', Broker.AgreesOn k c b b' →
        (b'.registry.map cls).slots.find? id = some ⟨_, claimed⟩ :=
      fun b' a => ((a.slots cls).find?_eq (hid.inside hv)).trans hs
    cases claimed with
    | true =>
      exact confined_of_unchanged fun b' a => exec_teardown_of_claimed destroy hv (hslot b' a)
    | false =>
      obtain ⟨result, A, hA, hdestroy⟩ := h _ hf
      cases result with
      | error fault =>
        refine ⟨.error fault, A, hA, fun b' a => ?_⟩
        rw [exec_teardown_of_unclaimed (hd _) hv (hslot b' a), hdestroy b' a]
      | ok _ =>
        refine ⟨.ok (), ⟨A.revision, .only cls fun other entry =>
          other == id && decide (k cls entry = some c)⟩, Amendment.on_only hA.revision
            fun other entry hs => of_decide_eq_true (Bool.and_eq_true_iff.mp hs).2, fun b' a => ?_⟩
        rw [exec_teardown_of_unclaimed (hd _) hv (hslot b' a), hdestroy b' a, Broker.amend_only,
          (a.idOn hid).remove_eq hv]
        rfl

theorem confined_removeOwned_bind {cls : ResourceClass} {owner : RemoteId} {next : Service α}
    (howned : ∀ entry : cls.Entry, cls.owner? entry = some owner → k cls entry = some c)
    (h : ∀ A, Amendment.On k c A → Confined k c next (b.amend A)) :
    Confined k c (do let _ ← (Program.perform (.removeOwned cls owner) : Program _); next) b := by
  have hA : Amendment.On k c ⟨.nothing, .only cls fun _ entry => cls.owner? entry == some owner⟩ :=
    Amendment.on_only Revision.on_nothing fun _ entry ho => howned entry (beq_iff_eq.mp ho)
  obtain ⟨result, A', hA', hnext⟩ := h _ hA
  refine ⟨result, _, hA.andThen hA', fun b' a => ?_⟩
  have hremoved : (b'.perform (.removeOwned cls owner)).2 =
      b'.amend ⟨.nothing, .only cls fun _ entry => cls.owner? entry == some owner⟩ := by
    rw [Broker.amend_only, ← IdentityMap.removeOwnedBy_eq_prune, Simulator.revise_nothing]
    rfl
  rw [← Broker.amend_amend, ← hnext _ (a.amend hA), ← hremoved]
  rfl

theorem confined_poll (unarmed : ∀ kind, b.device.armed kind = none) {handle : NativeHandle}
    (h : b.device.HandleOn c handle) (workspace : Nat) (offset : UInt64) (width : UInt32)
    (mask expected : UInt64) (attempts : Nat) :
    Confined k c (poll handle workspace offset width mask expected attempts) b := by
  induction attempts generalizing b with
  | zero => exact confined_throw .busy
  | succ attempts ih =>
    unfold poll
    refine (confined_device unarmed (.bufferRead handle workspace offset width.toUInt64) h).bind
      fun data A hA _ => ?_
    split
    · exact confined_pure ()
    · exact ih unarmed (h.revise hA.revision.handles)

end

end Service

/-- Whether an operation hands out identifiers, or lists tokens. -/
def Operation.handsOut : Operation → Bool
  | .enumerate | .cloneToken | .getProperties | .updateProperties | .getHandleProperties
  | .openHandle | .mapMmio | .prepareBuffer | .tokenGetObject | .handleGetObject
  | .objectGetObject | .objectGetObjectAt => true
  | _ => false

/-- What the identifiers resolve to that a request names belongs to a card. -/
def Broker.NamesOn (k : Chart cards) (c : Fin cards) (b : Broker cards) (request : Request) :
    Prop :=
  ∀ cls id, (cls, id) ∈ request.references → b.IdOn k c cls id

namespace Service

variable {b : Broker cards}

theorem confined_token_bind (fits : k.Fits b) {id : RemoteId} {next : TokenEntry → Service α}
    (hid : b.IdOn k c .token id)
    (h : ∀ entry, b.device.TokenOn c entry.token → Confined k c (next entry) b) :
    Confined k c (lookup .token id >>= next) b :=
  confined_lookup_bind hid fun entry hf => h entry (fits.tokenOn (hid entry hf))

theorem confined_handle_bind (fits : k.Fits b) {id : RemoteId} {next : HandleEntry → Service α}
    (hid : b.IdOn k c .handle id)
    (h : ∀ entry, b.device.HandleOn c entry.handle → Confined k c (next entry) b) :
    Confined k c (lookup .handle id >>= next) b :=
  confined_lookup_bind hid fun entry hf => h entry (fits.handleOn (hid entry hf))

theorem confined_object_bind (fits : k.Fits b) {id : RemoteId} {next : ObjectEntry → Service α}
    (hid : b.IdOn k c .object id)
    (h : ∀ entry, b.device.ObjectOn c entry.object → Confined k c (next entry) b) :
    Confined k c (lookup .object id >>= next) b :=
  confined_lookup_bind hid fun entry hf => h entry (fits.objectOn (hid entry hf))

theorem confined_range_bind (fits : k.Fits b) {handleId bufferId : RemoteId}
    {offset count : UInt64} {next : HandleEntry × BufferEntry → Service α}
    (hh : b.IdOn k c .handle handleId) (hb : b.IdOn k c .buffer bufferId)
    (h : ∀ handle buffer, b.device.HandleOn c handle.handle →
      Confined k c (next (handle, buffer)) b) :
    Confined k c (bufferRange handleId bufferId offset count >>= next) b :=
  confined_bufferRange_bind hh hb fun handle hf buffer =>
    h handle buffer (fits.handleOn (hh handle hf))

/-- With a handle goes what it owns, and that is on the card of the handle. -/
theorem confined_closeHandle (fits : k.Fits b) (unarmed : ∀ kind, b.device.armed kind = none)
    {handleId : RemoteId} (hid : b.IdOn k c .handle handleId) (limit : UInt64) :
    Confined k c ((Request.closeHandle handleId).serve limit) b := by
  have htorn : Confined k c
      (teardown .handle handleId fun entry => device (.closeHandle entry.handle)) b :=
    confined_teardown hid (fun _ => deviceOnly_device _) fun entry hf =>
      confined_device unarmed (.closeHandle entry.handle) (fits.handleOn (hid entry hf))
  refine htorn.bind fun _ A hA he => ?_
  cases hf : (b.registry.map .handle).find? handleId with
  | none => cases (exec_teardown_of_none _ hf).symm.trans he
  | some handle =>
    have howned : ∀ (cls : ResourceClass) (entry : cls.Entry),
        cls.owner? entry = some handleId → k cls entry = some c :=
      fun cls entry ho => (fits.owned handleId handle hf cls entry ho).trans (hid handle hf)
    exact confined_removeOwned_bind (howned .mapping) fun _ _ =>
      confined_removeOwned_bind (howned .buffer) fun _ _ => confined_pure ()

end Service

open Service

/-- A request that hands out nothing is confined to the card of what it names. -/
theorem Request.confined_serve {b : Broker cards} (fits : k.Fits b)
    (unarmed : ∀ kind, b.device.armed kind = none) {request : Request}
    (h : request.operation.handsOut = false) (on : b.NamesOn k c request) (limit : UInt64) :
    Confined k c (request.serve limit) b := by
  have first : ∀ {cls id rest}, request.references = (cls, id) :: rest → b.IdOn k c cls id :=
    fun heq => on _ _ (heq ▸ List.mem_cons_self)
  have second : ∀ {cls id rest named}, request.references = named :: (cls, id) :: rest →
      b.IdOn k c cls id :=
    fun heq => on _ _ (heq ▸ List.mem_cons_of_mem _ List.mem_cons_self)
  have third : ∀ {cls id rest named other},
      request.references = named :: other :: (cls, id) :: rest → b.IdOn k c cls id :=
    fun heq => on _ _ (heq ▸ List.mem_cons_of_mem _ (List.mem_cons_of_mem _ List.mem_cons_self))
  cases request with
  | enumerate | cloneToken | getProperties | updateProperties | getHandleProperties | openHandle
  | mapMmio | prepareBuffer | tokenGetObject | handleGetObject | objectGetObject
  | objectGetObjectAt => cases h
  | destroyToken tokenId =>
    exact confined_teardown (first rfl) (fun _ => deviceOnly_device _) fun entry hf =>
      confined_device unarmed (.destroyToken entry.token) (fits.tokenOn (first rfl entry hf))
  | destroyObject objectId =>
    exact confined_teardown (first rfl) (fun _ => deviceOnly_device _) fun entry hf =>
      confined_device unarmed (.destroyObject entry.object) (fits.objectOn (first rfl entry hf))
  | closeHandle handleId => exact confined_closeHandle fits unarmed (first rfl) limit
  | unmapMmio handleId mappingId region =>
    refine confined_handle_bind fits (first rfl) fun entry hentry => ?_
    exact confined_teardown (second rfl)
      (fun _ => deviceOnly_require_bind (deviceOnly_require_bind (deviceOnly_device _)))
      fun mapping _ => confined_require_bind (confined_require_bind
        (confined_device unarmed (.unmapMmio entry.handle region) hentry))
  | releaseBuffer handleId bufferId =>
    refine confined_handle_bind fits (first rfl) fun entry hentry => ?_
    exact confined_teardown (second rfl) (fun _ => deviceOnly_require_bind (deviceOnly_device _))
      fun buffer _ => confined_require_bind
        (confined_device unarmed (.releaseBuffer entry.handle buffer.workspace) hentry)
  | readError | getErrorInfo | clearError | clearAllErrors =>
    exact confined_token_bind fits (first rfl) fun entry hentry => confined_device unarmed _ hentry
  | objectGetType | objectGetName | objectGetSize | objectRead64 | objectWrite64 =>
    exact confined_object_bind fits (first rfl) fun entry hentry =>
      confined_device unarmed _ hentry
  | objectRead objectId offset length flags =>
    refine confined_object_bind fits (first rfl) fun entry hentry => confined_require_bind ?_
    exact (confined_device unarmed (.objectRead entry.object offset length flags)
      hentry).bind_pure _
  | writeMmio512 handleId region offset values =>
    refine confined_handle_bind fits (first rfl) fun entry hentry => confined_require_bind ?_
    split
    · exact confined_throw _
    · exact confined_device unarmed _ hentry
  | getMetricsInfo handleId count =>
    exact confined_handle_bind fits (first rfl) fun entry hentry =>
      (confined_device unarmed (.getMetricsInfo entry.handle count) hentry).bind_pure _
  | getMetricsByIndex handleId numbers =>
    exact confined_handle_bind fits (first rfl) fun entry hentry =>
      (confined_device unarmed (.getMetricsByIndex entry.handle numbers) hentry).bind_pure _
  | getMetricsByName handleId names =>
    exact confined_handle_bind fits (first rfl) fun entry hentry =>
      (confined_device unarmed (.getMetricsByName entry.handle names) hentry).bind_pure _
  | getMetricThresholds handleId count =>
    exact confined_handle_bind fits (first rfl) fun entry hentry =>
      (confined_device unarmed (.getMetricThresholds entry.handle count) hentry).bind_pure _
  | getIoAddress handleId bufferId =>
    refine confined_handle_bind fits (first rfl) fun entry hentry => ?_
    exact confined_lookupOwned_bind (second rfl) fun buffer => confined_device unarmed _ hentry
  | bufferPattern handleId bufferId pattern =>
    refine confined_handle_bind fits (first rfl) fun entry hentry => ?_
    refine confined_lookupOwned_bind (second rfl) fun buffer => ?_
    split
    · exact confined_throw _
    · exact confined_device unarmed _ hentry
  | bufferFill handleId bufferId offset byte count =>
    exact confined_range_bind fits (first rfl) (second rfl) fun handle buffer hentry =>
      confined_device unarmed _ hentry
  | bufferWrite handleId bufferId offset source count =>
    refine confined_require_bind (confined_require_bind ?_)
    exact confined_range_bind fits (first rfl) (second rfl) fun handle buffer hentry =>
      confined_device unarmed _ hentry
  | bufferRead handleId bufferId offset count =>
    refine confined_require_bind (confined_range_bind fits (first rfl) (second rfl)
      fun handle buffer hentry => ?_)
    exact (confined_device unarmed (.bufferRead handle.handle buffer.workspace offset count)
      hentry).bind_pure _
  | bufferPoll handleId bufferId offset width mask expected sleepMicros attempts =>
    refine confined_require_bind (confined_range_bind fits (first rfl) (second rfl)
      fun handle buffer hentry => ?_)
    exact confined_poll unarmed hentry _ _ _ _ _ _
  | bufferCompare handleId firstId firstOffset secondId secondOffset count =>
    refine confined_range_bind fits (first rfl) (second rfl) fun handle one hentry => ?_
    refine confined_range_bind fits (first rfl) (third rfl) fun _ other _ => ?_
    refine (confined_device unarmed (.bufferRead handle.handle one.workspace firstOffset count)
      hentry).bind fun left A hA _ => ?_
    have hstill : (b.amend A).device.HandleOn c handle.handle := hentry.revise hA.revision.handles
    have hunarmed : ∀ kind, (b.amend A).device.armed kind = none := unarmed
    exact (confined_device hunarmed (.bufferRead handle.handle other.workspace secondOffset count)
      hstill).bind_pure _
  | _ =>
    exact confined_handle_bind fits (first rfl) fun entry hentry => confined_device unarmed _ hentry

namespace Broker

/-- In a history of requests served one after another every live identifier
belongs to a card. -/
theorem exists_card {salt limit : UInt64} {images : String → Option (List UInt8)}
    {events : List Event}
    (drawn : ((start (.seeded salt) (.start cards images) limit).after events).registry.drawn <
      2 ^ 64) {cls : ResourceClass} {id : RemoteId} {entry : cls.Entry}
    (live : (((start (.seeded salt) (.start cards images) limit).after events).registry.map
      cls).find? id = some entry) :
    ∃ c, ((start (.seeded salt) (.start cards images) limit).after events).cardOf? cls entry =
      some c := by
  have agrees := agrees_after events (Registry.sound_empty (IdSource.effectiveSalt_ne_zero salt))
    (agrees_start _ images limit) drawn
  have hp := provenance_after (provenance_start cards (.seeded salt) images limit) events
  generalize (start (.seeded salt) (.start cards images) limit).after events = b at *
  have ofHandle : ∀ id handle, (b.registry.map .handle).find? id = some handle →
      ∃ c, b.cardOf? .handle handle = some c := by
    intro id handle hf
    have hopen := hp.opened id handle.handle (congrArg (Option.map HandleEntry.handle) hf)
    obtain ⟨state, hs⟩ := (b.device.holdings_handle_iff handle.handle).mp hopen
    exact ⟨state.card, congrArg (Option.map OpenHandle.card) hs⟩
  have ofOwner : ∀ owner native, b.native? owner = some native →
      ∃ c, b.handleCard? owner = some c := by
    intro owner native hn
    obtain ⟨handle, hf, -⟩ := Option.map_eq_some_iff.mp hn
    obtain ⟨c, hc⟩ := ofHandle owner handle hf
    exact ⟨c, (congrArg (Option.bind · _) hf).trans hc⟩
  cases cls with
  | token =>
    have hheld := agrees.token.holds id entry.token (congrArg (Option.map TokenEntry.token) live)
    obtain ⟨site, hs⟩ := (Table.contains_iff _ _).mp hheld
    exact ⟨site.card, congrArg (Option.map Site.card) hs⟩
  | handle => exact ofHandle id entry live
  | object =>
    have hheld :=
      agrees.object.holds id entry.object (congrArg (Option.map ObjectEntry.object) live)
    obtain ⟨state, hs⟩ := (Table.contains_iff _ _).mp hheld
    exact ⟨state.card, congrArg (Option.map OpenObject.card) hs⟩
  | mapping =>
    obtain ⟨native, hn⟩ := native?_of_region? hp
      (congrArg (Option.map fun entry : MappingEntry => (entry.owner, entry.region)) live)
    exact ofOwner entry.owner native hn
  | buffer =>
    obtain ⟨native, hn, -⟩ := agrees.length id entry live
    exact ofOwner entry.owner native hn

/-- While no failure is armed, requests for different cards that hand out no
identifiers can be served in either order: the replies are the same, and so are
the registry and the cards after both. -/
theorem handle_comm_of_cards_ne {b : Broker cards} (unarmed : ∀ kind, b.device.armed kind = none)
    {one other : Request} (hone : one.operation.handsOut = false)
    (hother : other.operation.handsOut = false) (hne : c ≠ d)
    (onOne : b.NamesOn b.cardOf? c one) (onOther : b.NamesOn b.cardOf? d other) :
    ((b.handle other).2.handle one).1 = (b.handle one).1 ∧
      ((b.handle one).2.handle other).1 = (b.handle other).1 ∧
      ((b.handle one).2.handle other).2 = ((b.handle other).2.handle one).2 := by
  obtain ⟨first, A, hA, hfirst⟩ :=
    one.confined_serve b.fits_cardOf? unarmed hone onOne b.payloadLimit
  obtain ⟨second, A', hA', hsecond⟩ :=
    other.confined_serve b.fits_cardOf? unarmed hother onOther b.payloadLimit
  have hlimit : ∀ A : Amendment cards, (b.amend A).payloadLimit = b.payloadLimit := fun _ => rfl
  have handleOne : ∀ b', b'.payloadLimit = b.payloadLimit → AgreesOn b.cardOf? c b b' →
      b'.handle one = (.ofResult one.operation first, b'.amend A) :=
    fun b' hl a => by rw [handle_eq, hl, hfirst b' a]
  have handleOther : ∀ b', b'.payloadLimit = b.payloadLimit → AgreesOn b.cardOf? d b b' →
      b'.handle other = (.ofResult other.operation second, b'.amend A') :=
    fun b' hl a => by rw [handle_eq, hl, hsecond b' a]
  rw [handleOne b rfl (.refl b), handleOther b rfl (.refl b),
    handleOne _ (hlimit A') (agreesOn_amend hA' hne b),
    handleOther _ (hlimit A) (agreesOn_amend hA hne.symm b)]
  exact ⟨rfl, rfl, amend_comm hA hA' hne b⟩

/-- A handle with a buffer on one card, and the management device of another opened. -/
def twoCards : Broker 2 :=
  (start (.seeded 7)
    (.start 2 fun path => if path = "image" then some (List.replicate 16 1) else none) 4096).after
    [.serve (.enumerate [] 4), .serve (.openHandle ⟨7, 2⟩ 0), .serve (.openHandle ⟨7, 3⟩ 0),
      .serve (.prepareBuffer ⟨7, 5⟩ 8 none 0)]

/-- One card has a handle closed and the other an accelerator loaded. -/
theorem handle_comm_of_close_and_load :
    (twoCards.handle (.closeHandle ⟨7, 5⟩)).1 = .ofResult .closeHandle (.ok ()) ∧
    (twoCards.handle (.reconfigureSlot ⟨7, 6⟩ 0 "image" 0)).1 =
      .ofResult .reconfigureSlot (.ok ()) ∧
    ((twoCards.handle (.closeHandle ⟨7, 5⟩)).2.handle (.reconfigureSlot ⟨7, 6⟩ 0 "image" 0)).2 =
      ((twoCards.handle (.reconfigureSlot ⟨7, 6⟩ 0 "image" 0)).2.handle
        (.closeHandle ⟨7, 5⟩)).2 := by
  refine ⟨rfl, rfl, ?_⟩
  have hfirst : twoCards.NamesOn twoCards.cardOf? 0 (.closeHandle ⟨7, 5⟩) := by
    intro cls id mem entry hf
    obtain ⟨rfl, rfl⟩ := Prod.mk.inj (List.mem_singleton.mp mem)
    obtain rfl := Option.some.inj (hf.symm.trans rfl)
    rfl
  have hsecond : twoCards.NamesOn twoCards.cardOf? 1 (.reconfigureSlot ⟨7, 6⟩ 0 "image" 0) := by
    intro cls id mem entry hf
    obtain ⟨rfl, rfl⟩ := Prod.mk.inj (List.mem_singleton.mp mem)
    obtain rfl := Option.some.inj (hf.symm.trans rfl)
    rfl
  exact (handle_comm_of_cards_ne (fun _ => rfl) rfl rfl (by decide) hfirst hsecond).2.2

end Broker

end DeviceBroker
