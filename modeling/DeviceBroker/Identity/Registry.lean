import DeviceBroker.Identity.Map
import DeviceBroker.Identity.Source

/-!
# The registry

The identity maps of the five classes and the one source that they draw new
identifiers from. Because the source is shared, an identifier of a sequence is
live in at most one map.
-/

namespace DeviceBroker

/-- Everything the broker has given an identifier to. -/
@[ext] structure Registry where
  tokens : IdentityMap .token
  handles : IdentityMap .handle
  mappings : IdentityMap .mapping
  buffers : IdentityMap .buffer
  objects : IdentityMap .object
  source : IdSource

namespace Registry

def empty (source : IdSource) : Registry :=
  ⟨.empty, .empty, .empty, .empty, .empty, source⟩

def map (r : Registry) : (cls : ResourceClass) → IdentityMap cls
  | .token => r.tokens
  | .handle => r.handles
  | .mapping => r.mappings
  | .buffer => r.buffers
  | .object => r.objects

def withMap (r : Registry) : (cls : ResourceClass) → IdentityMap cls → Registry
  | .token, m => { r with tokens := m }
  | .handle, m => { r with handles := m }
  | .mapping, m => { r with mappings := m }
  | .buffer, m => { r with buffers := m }
  | .object, m => { r with objects := m }

@[simp] theorem map_withMap_self (r : Registry) (cls : ResourceClass) (m : IdentityMap cls) :
    (r.withMap cls m).map cls = m := by
  cases cls <;> rfl

theorem map_withMap_of_ne (r : Registry) {cls other : ResourceClass} (m : IdentityMap cls)
    (h : other ≠ cls) : (r.withMap cls m).map other = r.map other := by
  cases cls <;> cases other <;> simp_all [map, withMap]

@[simp] theorem source_withMap (r : Registry) (cls : ResourceClass) (m : IdentityMap cls) :
    (r.withMap cls m).source = r.source := by
  cases cls <;> rfl

/-- Change the map of one class and keep the rest. -/
def update {α : Type} (r : Registry) (cls : ResourceClass)
    (change : IdentityMap cls → α × IdentityMap cls) : α × Registry :=
  let (answer, m) := change (r.map cls)
  (answer, r.withMap cls m)

def draw (r : Registry) : RemoteId × Registry :=
  let (id, source) := r.source.next
  (id, { r with source := source })

/-- Add an entry under a new identifier; `none` if the identifier is unusable. -/
def register (r : Registry) (cls : ResourceClass) (entry : cls.Entry) :
    Option RemoteId × Registry :=
  let (id, r) := r.draw
  let (added, r) := r.update cls fun m => m.add id entry
  (if added then some id else none, r)

/-- The identifier that tracks the native resource of an entry, or a new one. -/
def intern (r : Registry) (cls : ResourceClass) (entry : cls.Entry) :
    Option Registration × Registry :=
  let (registration, m, source) := (r.map cls).findOrAdd entry IdSource.next r.source
  (registration, { r.withMap cls m with source := source })

/-- The number of live entries of every class, in the order of the classes. -/
def sizes (r : Registry) : List Nat := ResourceClass.all.map fun cls => (r.map cls).size

/-- The counters of every class, in the order of the classes. -/
def stats (r : Registry) : List MapStats := ResourceClass.all.map fun cls => (r.map cls).stats

end Registry

end DeviceBroker
