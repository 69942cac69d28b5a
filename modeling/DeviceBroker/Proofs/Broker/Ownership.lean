import DeviceBroker.Proofs.Broker.Dangling
import DeviceBroker.Proofs.Broker.Exchanges
import DeviceBroker.Proofs.Simulator.Holdings

/-!
# Ownership and where it comes from

Regions are mapped and buffers prepared through a handle, and the entry of such
a child names that handle as its owner. `Ownership` is what the broker and the
driver have of this: the live handles with their native values, the children
with their owners, and the native handles that are open. `Provenance` ties it
to the exchanges of the past: whatever is recorded as the child of a handle was
created on behalf of a request that named this very handle, through the native
value that the handle still has. Opening, closing and creating keep this.
-/

namespace DeviceBroker

variable {cards : Nat}

/-- What is created through a handle, as the driver knows it. -/
inductive Child where
  | region (number : UInt32)
  | buffer (workspace : Nat)
  deriving DecidableEq, Repr

/-- The owner that an entry records, and the child that it stands for. -/
def ResourceClass.child? : (cls : ResourceClass) → cls.Entry → Option (RemoteId × Child)
  | .token, _ => none
  | .handle, _ => none
  | .mapping, entry => some (entry.owner, .region entry.region)
  | .buffer, entry => some (entry.owner, .buffer entry.workspace)
  | .object, _ => none

/-- The child that a call names, and the native handle that it is named through. -/
def DeviceCall.child? : DeviceCall → Option (NativeHandle × Child)
  | .unmapMmio handle region => some (handle, .region region)
  | .releaseBuffer handle workspace => some (handle, .buffer workspace)
  | .getIoAddress handle workspace => some (handle, .buffer workspace)
  | .bufferRead handle workspace _ _ => some (handle, .buffer workspace)
  | .bufferWrite handle workspace _ _ => some (handle, .buffer workspace)
  | _ => none

namespace Exchange

/-- The child that an exchange has created, and the native handle it was created through. -/
def creates? : Exchange → Option (NativeHandle × Child)
  | ⟨.mapMmio handle region, .ok _⟩ => some (handle, .region region)
  | ⟨.prepareBuffer handle _ _ _, .ok prepared⟩ => some (handle, .buffer prepared.workspace)
  | _ => none

/-- The native handle that an exchange has closed. -/
def closes? : Exchange → Option NativeHandle
  | ⟨.closeHandle handle, .ok _⟩ => some handle
  | _ => none

end Exchange

/-- The handle that a request names. -/
def Request.handle? (request : Request) : Option RemoteId := request.references.lookup .handle

/-- An exchange with the driver on behalf of a request. -/
structure Record where
  request : Request
  exchange : Exchange

/-- A child was created on behalf of a request that named a handle, through a
native handle that was not closed since. -/
def Created (past : List Record) (id : RemoteId) (native : NativeHandle) (child : Child) : Prop :=
  ∃ one creation two, past = one ++ creation :: two ∧
    creation.request.handle? = some id ∧
    creation.exchange.creates? = some (native, child) ∧
    ∀ record ∈ two, record.exchange.closes? ≠ some native

section

variable {past : List Record} {id : RemoteId} {native : NativeHandle} {child : Child}

theorem created_of_last {creation : Record} (hr : creation.request.handle? = some id)
    (hc : creation.exchange.creates? = some (native, child)) :
    Created (past ++ [creation]) id native child :=
  ⟨past, creation, [], rfl, hr, hc, fun _ h => absurd h (List.not_mem_nil)⟩

theorem Created.append (h : Created past id native child) {more : List Record}
    (hm : ∀ record ∈ more, record.exchange.closes? ≠ some native) :
    Created (past ++ more) id native child := by
  obtain ⟨one, creation, two, rfl, hr, hc, htwo⟩ := h
  refine ⟨one, creation, two ++ more, by simp, hr, hc, ?_⟩
  exact List.forall_mem_append.mpr ⟨htwo, hm⟩

end

/-- Who owns what. -/
@[ext] structure Ownership where
  /-- The native values of the live handles. -/
  handle : RemoteId → Option NativeHandle
  /-- The live children of every class, with their owners. -/
  child : ResourceClass → RemoteId → Option (RemoteId × Child)
  /-- Whether the driver has a native handle open. -/
  isOpen : NativeHandle → Bool

namespace Ownership

/-- Fewer children, the same handles. -/
structure Within (o' o : Ownership) : Prop where
  handle : o'.handle = o.handle
  child : ∀ cls id owned, o'.child cls id = some owned → o.child cls id = some owned
  isOpen : o'.isOpen = o.isOpen

theorem Within.refl (o : Ownership) : o.Within o := ⟨rfl, fun _ _ _ h => h, rfl⟩

theorem Within.trans {one two three : Ownership} (h : three.Within two) (h' : two.Within one) :
    three.Within one :=
  ⟨h.handle.trans h'.handle, fun cls id owned hc => h'.child cls id owned (h.child cls id owned hc),
    h.isOpen.trans h'.isOpen⟩

/-- One more handle is open in the driver. -/
def opening (o : Ownership) (native : NativeHandle) : Ownership :=
  { o with isOpen := override o.isOpen native true }

/-- A native handle is live under an identifier. -/
def named (o : Ownership) (id : RemoteId) (native : NativeHandle) : Ownership :=
  { o with handle := override o.handle id (some native) }

/-- A native handle is closed that has no identifier. -/
def closing (o : Ownership) (native : NativeHandle) : Ownership :=
  { o with isOpen := override o.isOpen native false }

/-- A handle is gone with its children. -/
def without (o : Ownership) (id : RemoteId) (native : NativeHandle) : Ownership where
  handle := override o.handle id none
  child cls other := (o.child cls other).filter fun owned => owned.1 != id
  isOpen := override o.isOpen native false

/-- One more child is live. -/
def having (o : Ownership) (cls : ResourceClass) (id : RemoteId) (owner : RemoteId)
    (child : Child) : Ownership :=
  { o with
    child := fun cls' id' =>
      if cls' = cls ∧ id' = id then some (owner, child) else o.child cls' id' }

end Ownership

/-- What is owned was created through its owner. -/
structure Provenance (past : List Record) (o : Ownership) : Prop where
  opened : ∀ id native, o.handle id = some native → o.isOpen native = true
  distinct : ∀ id id' native, o.handle id = some native → o.handle id' = some native → id = id'
  created : ∀ cls id owner child, o.child cls id = some (owner, child) →
    ∃ native, o.handle owner = some native ∧ Created past owner native child

namespace Provenance

variable {past : List Record} {o o' : Ownership} {id : RemoteId} {native : NativeHandle}

/-- The past goes on without the closing of a handle that is live. -/
theorem append (h : Provenance past o) {more : List Record}
    (hm : ∀ record ∈ more, ∀ id native, o.handle id = some native →
      record.exchange.closes? ≠ some native) :
    Provenance (past ++ more) o where
  opened := h.opened
  distinct := h.distinct
  created cls id owner child hc := by
    obtain ⟨native, hn, hcreated⟩ := h.created cls id owner child hc
    exact ⟨native, hn, hcreated.append fun record hr => hm record hr owner native hn⟩

theorem append_one (h : Provenance past o) {record : Record}
    (hr : record.exchange.closes? = none) : Provenance (past ++ [record]) o :=
  h.append fun last hlast id native _ => by
    rw [List.mem_singleton.mp hlast, hr]
    exact nofun

theorem within (h : Provenance past o) (hw : o'.Within o) : Provenance past o' where
  opened id native hn := by
    rw [hw.isOpen]
    exact h.opened id native (hw.handle ▸ hn)
  distinct id id' native hn hn' := h.distinct id id' native (hw.handle ▸ hn) (hw.handle ▸ hn')
  created cls id owner child hc := by
    rw [hw.handle]
    exact h.created cls id owner child (hw.child cls id _ hc)

theorem opening (h : Provenance past o) (native : NativeHandle) :
    Provenance past (o.opening native) where
  opened id other hn := by
    by_cases ho : other = native
    · rw [ho]
      exact override_self _ _ _
    · exact (override_of_ne _ _ ho).trans (h.opened id other hn)
  distinct := h.distinct
  created := h.created

/-- A native handle that was not open until now is not the value of another handle. -/
theorem named (h : Provenance past o) (free : ∀ id, o.handle id ≠ some native)
    (ho : o.isOpen native = true) (fresh : o.handle id = none) :
    Provenance past (o.named id native) where
  opened other value hn := by
    by_cases hi : other = id
    · subst hi
      obtain rfl : native = value := by simpa [Ownership.named] using hn
      exact ho
    · exact h.opened other value (by simpa [Ownership.named, override_of_ne _ _ hi] using hn)
  distinct one two value hn hn' := by
    by_cases hi : one = id
    · by_cases hj : two = id
      · rw [hi, hj]
      · subst hi
        obtain rfl : native = value := by simpa [Ownership.named] using hn
        exact absurd (by simpa [Ownership.named, override_of_ne _ _ hj] using hn') (free two)
    · by_cases hj : two = id
      · subst hj
        obtain rfl : native = value := by simpa [Ownership.named] using hn'
        exact absurd (by simpa [Ownership.named, override_of_ne _ _ hi] using hn) (free one)
      · exact h.distinct one two value
          (by simpa [Ownership.named, override_of_ne _ _ hi] using hn)
          (by simpa [Ownership.named, override_of_ne _ _ hj] using hn')
  created cls child owner kind hc := by
    obtain ⟨value, hn, hcreated⟩ := h.created cls child owner kind hc
    have hne : owner ≠ id := by
      rintro rfl
      rw [fresh] at hn
      cases hn
    exact ⟨value, (override_of_ne _ _ hne).trans hn, hcreated⟩

theorem closing (h : Provenance past o) (free : ∀ id, o.handle id ≠ some native) :
    Provenance past (o.closing native) where
  opened id other hn := by
    have hne : other ≠ native := by
      rintro rfl
      exact free id hn
    exact (override_of_ne _ _ hne).trans (h.opened id other hn)
  distinct := h.distinct
  created := h.created

/-- Other handles have other native values, so closing a handle harms only its own children. -/
theorem without (h : Provenance past o) (hn : o.handle id = some native) {record : Record}
    (hr : record.exchange.closes? = some native) :
    Provenance (past ++ [record]) (o.without id native) := by
  have hother : ∀ other value, (o.without id native).handle other = some value →
      other ≠ id ∧ o.handle other = some value ∧ value ≠ native := by
    intro other value hv
    by_cases hi : other = id
    · subst hi
      simp [Ownership.without] at hv
    · have hlive : o.handle other = some value := (override_of_ne _ _ hi).symm.trans hv
      refine ⟨hi, hlive, ?_⟩
      rintro rfl
      exact hi (h.distinct other id value hlive hn)
  refine ⟨fun other value hv => ?_, fun one two value hv hv' => ?_,
    fun cls child owner kind hc => ?_⟩
  · obtain ⟨-, hlive, hne⟩ := hother other value hv
    exact (override_of_ne _ _ hne).trans (h.opened other value hlive)
  · exact h.distinct one two value (hother one value hv).2.1 (hother two value hv').2.1
  · obtain ⟨hlive, hkept⟩ := Option.filter_eq_some_iff.mp hc
    have hi : owner ≠ id := by simpa using hkept
    obtain ⟨value, hv, hcreated⟩ := h.created cls child owner kind hlive
    have hv' : (o.without id native).handle owner = some value :=
      (override_of_ne _ _ hi).trans hv
    refine ⟨value, hv', hcreated.append fun last hlast => ?_⟩
    obtain rfl := List.mem_singleton.mp hlast
    rw [hr]
    exact fun heq => (hother owner value hv').2.2 (Option.some.inj heq).symm

/-- A child is recorded under the handle that it was created through. -/
theorem having (h : Provenance past o) {owner : RemoteId} {child : Child}
    (hn : o.handle owner = some native) (hc : Created past owner native child)
    (cls : ResourceClass) (id : RemoteId) : Provenance past (o.having cls id owner child) where
  opened := h.opened
  distinct := h.distinct
  created cls' id' owner' child' ho := by
    simp only [Ownership.having] at ho
    split at ho
    · obtain ⟨rfl, rfl⟩ := Prod.mk.inj (Option.some.inj ho)
      exact ⟨native, hn, hc⟩
    · exact h.created cls' id' owner' child' ho

end Provenance

end DeviceBroker
