import DeviceBroker.Proofs.Broker.Agreement
import DeviceBroker.Proofs.Simulator.Openings

/-!
# Histories

A history serves requests one after another, and the host of the cards may
interfere in between. Along every history that starts with an empty registry
over cards that have just started, the registry and the driver are `InStep`:
nothing that the driver holds is without an identifier, and no identifier
names what the driver does not hold.
-/

namespace DeviceBroker

variable {cards : Nat}

namespace Broker

/-- What can happen to a broker that serves one request at a time. -/
inductive Event where
  | serve (request : Request)
  | disturb (d : Disturbance)

def step (b : Broker cards) : Event → Broker cards
  | .serve request => (b.handle request).2
  | .disturb d => b.disturb d

def after (b : Broker cards) (events : List Event) : Broker cards := events.foldl step b

@[simp] theorem after_nil (b : Broker cards) : b.after [] = b := rfl

theorem after_cons (b : Broker cards) (event : Event) (rest : List Event) :
    b.after (event :: rest) = (b.step event).after rest := rfl

/-- The requests that a history serves, each with its reply, in order. -/
def dialogue (b : Broker cards) : List Event → List (Request × Reply)
  | [] => []
  | .serve request :: rest => (request, (b.handle request).1) :: (b.handle request).2.dialogue rest
  | .disturb d :: rest => (b.disturb d).dialogue rest

theorem drawn_le_step (b : Broker cards) (event : Event) :
    b.registry.drawn ≤ (b.step event).registry.drawn := by
  cases event with
  | serve request => exact (request.program b.payloadLimit).drawn_le_run b
  | disturb d => exact Nat.le_refl _

theorem drawn_le_after (b : Broker cards) (events : List Event) :
    b.registry.drawn ≤ (b.after events).registry.drawn := by
  induction events generalizing b with
  | nil => exact Nat.le_refl _
  | cons event rest ih => exact Nat.le_trans (b.drawn_le_step event) (ih _)

theorem sound_step {salt : UInt64} {b : Broker cards} (event : Event)
    (h : b.registry.Sound salt) (hb : (b.step event).registry.drawn < 2 ^ 64) :
    (b.step event).registry.Sound salt := by
  cases event with
  | serve request => exact (request.program b.payloadLimit).sound_run h hb
  | disturb d => exact h

theorem agrees_disturb {b : Broker cards} (h : b.Agrees) (d : Disturbance) :
    (b.disturb d).Agrees := by
  unfold Agrees disturb
  dsimp only
  rw [b.device.holdings_disturb d]
  exact h

theorem agrees_step {salt : UInt64} {b : Broker cards} (event : Event)
    (hsound : b.registry.Sound salt) (h : b.Agrees)
    (hb : (b.step event).registry.drawn < 2 ^ 64) : (b.step event).Agrees := by
  cases event with
  | serve request =>
      change (b.handle request).2.registry.drawn < 2 ^ 64 at hb
      change (b.handle request).2.Agrees
      rw [handle_eq] at hb ⊢
      exact request.keeps_serve h b.payloadLimit hsound hb
  | disturb d => exact agrees_disturb h d

theorem agrees_after {salt : UInt64} {b : Broker cards} (events : List Event)
    (hsound : b.registry.Sound salt) (h : b.Agrees)
    (hb : (b.after events).registry.drawn < 2 ^ 64) : (b.after events).Agrees := by
  induction events generalizing b with
  | nil => exact h
  | cons event rest ih =>
      have hmid := Nat.lt_of_le_of_lt ((b.step event).drawn_le_after rest) hb
      exact ih (sound_step event hsound hmid) (agrees_step event hsound h hmid) hb

theorem agrees_start (source : IdSource) (images : String → Option (List UInt8))
    (limit : UInt64) : (start source (.start cards images) limit).Agrees := by
  have hbooks := Registry.books_empty source
  change Agreement (Registry.empty source).books (Simulator.start cards images).holdings
  rw [hbooks]
  constructor
  · exact .empty (fun _ => rfl) fun _ => rfl
  · exact .empty (fun _ => rfl) fun _ => rfl
  · exact .empty (fun _ => rfl) fun _ => rfl
  · exact .empty (fun _ => rfl) fun _ => rfl
  · intro id entry hf
    cases hf
  · intro object hheld
    cases hheld
  · intro place hheld
    cases hheld

/-- The live identifiers name what the driver holds, all of it, each thing once. -/
structure InStep (b : Broker cards) : Prop where
  handles : OneToOne (fun id => (b.registry.handles.find? id).map HandleEntry.handle)
    b.device.handles.contains
  tokens : OneToOne (fun id => (b.registry.tokens.find? id).map TokenEntry.token)
    b.device.tokens.contains
  objects : OneToOne (fun id => (b.registry.objects.find? id).map ObjectEntry.object)
    b.device.objects.contains
  /-- A live buffer is owned by a live handle, and under the native handle the
  driver has one buffer with its workspace number, of the declared length. -/
  buffers : ∀ id entry, b.registry.buffers.find? id = some entry →
    ∃ owner state buffer, b.registry.handles.find? entry.owner = some owner ∧
      b.device.handles.find? owner.handle = some state ∧
      state.buffers.pairs.filter (fun pair => pair.1 = entry.workspace) =
        [(entry.workspace, buffer)] ∧
      buffer.data.size = entry.length.toNat
  /-- A buffer of the driver has exactly one identifier. -/
  tracked : ∀ handle state workspace buffer, b.device.handles.find? handle = some state →
    state.buffers.find? workspace = some buffer →
    ∃! id, ∃ entry owner, b.registry.buffers.find? id = some entry ∧
      b.registry.handles.find? entry.owner = some owner ∧
      owner.handle = handle ∧ entry.workspace = workspace

theorem Agrees.inStep {b : Broker cards} (h : b.Agrees) : b.InStep where
  handles := h.handle
  tokens := h.token
  objects := h.object
  buffers id entry hf := by
    obtain ⟨handle, hn, hlength⟩ := h.length id entry hf
    obtain ⟨owner, ho, rfl⟩ := Option.map_eq_some_iff.mp hn
    obtain ⟨state, hs, hsize⟩ := Option.bind_eq_some_iff.mp hlength
    obtain ⟨buffer, hbuffer, hsize⟩ := Option.map_eq_some_iff.mp hsize
    exact ⟨owner, state, buffer, ho, hs, Table.filter_pairs_eq hbuffer, hsize⟩
  tracked handle state workspace buffer hs hbuffer := by
    have hplace : ∀ id, b.registry.books.place? id = some (handle, workspace) ↔
        ∃ entry owner, b.registry.buffers.find? id = some entry ∧
          b.registry.handles.find? entry.owner = some owner ∧
          owner.handle = handle ∧ entry.workspace = workspace := by
      intro id
      rw [Books.place?_eq_some_iff]
      constructor
      · rintro ⟨entry, hf, hn, hw⟩
        obtain ⟨owner, ho, hraw⟩ := Option.map_eq_some_iff.mp hn
        exact ⟨entry, owner, hf, ho, hraw, hw⟩
      · rintro ⟨entry, owner, hf, ho, hraw, hw⟩
        exact ⟨entry, hf, Option.map_eq_some_iff.mpr ⟨owner, ho, hraw⟩, hw⟩
    have hheld : (b.device.holdings.buffer (handle, workspace)).isSome = true := by
      simp [Simulator.holdings, hs, hbuffer]
    obtain ⟨id, hid⟩ := h.buffer.tracked (handle, workspace) hheld
    refine ⟨id, (hplace id).mp hid, fun other hother => ?_⟩
    exact h.buffer.unique other id _ ((hplace other).mpr hother) hid

/-- On cards that have just started, every history that draws fewer than
`2 ^ 64` identifiers keeps the registry and the driver in step. -/
theorem inStep_of_drawn_lt {images : String → Option (List UInt8)} {device : Simulator cards}
    (boot : Simulator.boot? cards images = some device) (salt limit : UInt64)
    (events : List Event)
    (drawn : ((start (.seeded salt) device limit).after events).registry.drawn < 2 ^ 64) :
    ((start (.seeded salt) device limit).after events).InStep := by
  have hdevice : device = .start cards images := by
    unfold Simulator.boot? at boot
    split at boot
    · exact (Option.some.inj boot).symm
    · cases boot
  subst hdevice
  have hsound : (start (.seeded salt) (.start cards images) limit).registry.Sound
      (IdSource.effectiveSalt salt) :=
    Registry.sound_empty (IdSource.effectiveSalt_ne_zero salt)
  exact (agrees_after events hsound (agrees_start _ images limit) drawn).inStep

/-- A buffer is prepared, closing its handle fails once and then succeeds, and
the value of the handle is given out again. -/
theorem inStep_of_handle_opened_twice :
    Simulator.boot? 1 (fun _ => none) = some (.start 1 fun _ => none) ∧
    ((start (.seeded 7) (.start 1 fun _ => none) 4096).after
      [.serve (.enumerate [] 2), .serve (.openHandle ⟨7, 2⟩ 0),
        .serve (.prepareBuffer ⟨7, 3⟩ 4096 none 0), .disturb (.arm .closeHandle .exception),
        .serve (.closeHandle ⟨7, 3⟩), .serve (.closeHandle ⟨7, 3⟩), .disturb .recycle,
        .serve (.openHandle ⟨7, 2⟩ 0), .serve (.prepareBuffer ⟨7, 5⟩ 64 none 0)]).registry.drawn
      < 2 ^ 64 ∧
    ((start (.seeded 7) (.start 1 fun _ => none) 4096).after
      [.serve (.enumerate [] 2), .serve (.openHandle ⟨7, 2⟩ 0),
        .serve (.prepareBuffer ⟨7, 3⟩ 4096 none 0), .disturb (.arm .closeHandle .exception),
        .serve (.closeHandle ⟨7, 3⟩), .serve (.closeHandle ⟨7, 3⟩), .disturb .recycle,
        .serve (.openHandle ⟨7, 2⟩ 0), .serve (.prepareBuffer ⟨7, 5⟩ 64 none 0)]).InStep :=
  ⟨rfl, by decide, inStep_of_drawn_lt rfl 7 4096 _ (by decide)⟩

end Broker

end DeviceBroker
