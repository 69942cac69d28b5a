import DeviceBroker.Identity.Entry
import DeviceBroker.Table

/-!
# Identity maps

An identity map tracks the live entries of one class by remote identifier. A
reverse index finds the identifier of a native resource, and a flag on every
entry says whether somebody is tearing it down. The forward map, the index and
the flags only change together; every operation below is one such change.

A claim is the exclusive right to tear an entry down. While it is held the
entry still resolves. It ends by a commit, which removes the entry, or by a
release, which leaves it live.
-/

namespace DeviceBroker

/-- An entry, and whether a claim is held on it. -/
@[ext] structure Slot (cls : ResourceClass) where
  entry : cls.Entry
  claimed : Bool

/-- Why a claim was not granted. -/
inductive ClaimRefusal where
  /-- The identifier is not live. -/
  | absent
  /-- Another claim on it is held. -/
  | busy
  deriving DecidableEq, Repr

def ClaimRefusal.message : ClaimRefusal → String
  | .absent => "id is not present"
  | .busy => "id is already being torn down"

/-- How an entry came to be tracked. -/
inductive Registration where
  /-- The native resource was tracked already, under this identifier. -/
  | existing (id : RemoteId)
  /-- The entry was added under this identifier. -/
  | inserted (id : RemoteId)
  deriving DecidableEq, Repr

def Registration.id : Registration → RemoteId
  | .existing id => id
  | .inserted id => id

/-- The two ways to end a claim. -/
inductive Settlement where
  | commit
  | release
  deriving DecidableEq, Repr

/-- The size of a map, and the additions, removals and refused additions so far. -/
@[ext] structure MapStats where
  live : Nat
  adds : Nat
  removes : Nat
  rejectedAdds : Nat
  deriving DecidableEq, Repr

/-- The live entries of one class. -/
@[ext] structure IdentityMap (cls : ResourceClass) where
  slots : Table RemoteId (Slot cls)
  /-- The identifier of every native resource that is tracked. -/
  natives : Table Nat RemoteId
  adds : Nat
  removes : Nat
  rejectedAdds : Nat

namespace IdentityMap

variable {cls : ResourceClass}

def empty : IdentityMap cls := ⟨.empty, .empty, 0, 0, 0⟩

/-- The entry of a live identifier. The sentinel never resolves. -/
def find? (m : IdentityMap cls) (id : RemoteId) : Option cls.Entry :=
  if id.isValid then (m.slots.find? id).map Slot.entry else none

def contains (m : IdentityMap cls) (id : RemoteId) : Bool := id.isValid && m.slots.contains id

def findNative? (m : IdentityMap cls) (key : Nat) : Option RemoteId := m.natives.find? key

def size (m : IdentityMap cls) : Nat := m.slots.size

/-- The live identifiers in ascending order. -/
def ids (m : IdentityMap cls) : List RemoteId := m.slots.keys.mergeSort RemoteId.precedes

def stats (m : IdentityMap cls) : MapStats := ⟨m.size, m.adds, m.removes, m.rejectedAdds⟩

@[simp] theorem find?_empty (id : RemoteId) : (empty : IdentityMap cls).find? id = none := by
  simp [find?, empty]

@[simp] theorem find?_sentinel (m : IdentityMap cls) : m.find? .sentinel = none := by
  simp [find?]

@[simp] theorem size_empty : (empty : IdentityMap cls).size = 0 := rfl

/-- Whether an entry can be added under an identifier: the identifier is valid
and new, and the native resource is not tracked yet. -/
def admits (m : IdentityMap cls) (id : RemoteId) (entry : cls.Entry) : Bool :=
  id.isValid && !m.slots.contains id &&
    match cls.nativeKey? entry with
    | none => true
    | some key => !m.natives.contains key

/-- The map with an entry put under an identifier and its native key indexed. -/
def put (m : IdentityMap cls) (id : RemoteId) (entry : cls.Entry) : IdentityMap cls :=
  { m with
    slots := m.slots.insert id ⟨entry, false⟩
    natives := match cls.nativeKey? entry with
      | none => m.natives
      | some key => m.natives.insert key id }

theorem slots_find?_put (m : IdentityMap cls) (id other : RemoteId) (entry : cls.Entry) :
    (m.put id entry).slots.find? other =
      if other = id then some ⟨entry, false⟩ else m.slots.find? other :=
  m.slots.find?_insert id other ⟨entry, false⟩

/-- The map without an identifier and the native key of its entry. -/
def drop (m : IdentityMap cls) (id : RemoteId) : IdentityMap cls :=
  match m.slots.find? id with
  | none => m
  | some slot =>
    { m with
      slots := m.slots.erase id
      natives := match cls.nativeKey? slot.entry with
        | none => m.natives
        | some key => m.natives.erase key }

theorem slots_find?_drop (m : IdentityMap cls) (id other : RemoteId) :
    (m.drop id).slots.find? other = if other = id then none else m.slots.find? other := by
  unfold drop
  split
  · rename_i h
    by_cases ho : other = id
    · subst ho
      simp [h]
    · simp [ho]
  · exact m.slots.find?_erase id other

/-- Add an entry if the map admits it, and count the attempt. -/
def add (m : IdentityMap cls) (id : RemoteId) (entry : cls.Entry) : Bool × IdentityMap cls :=
  if m.admits id entry then
    (true, { m.put id entry with adds := m.adds + 1 })
  else
    (false, { m with rejectedAdds := m.rejectedAdds + 1 })

/-- The identifier that already tracks the native resource of an entry. -/
def tracked? (m : IdentityMap cls) (entry : cls.Entry) : Option RemoteId :=
  (cls.nativeKey? entry).bind m.findNative?

/-- The identifier that tracks the native resource of an entry, or the entry
added under a new identifier. The identifier is only drawn when it is needed,
so the state it is drawn from is threaded through. -/
def findOrAdd {σ : Type} (m : IdentityMap cls) (entry : cls.Entry) (draw : σ → RemoteId × σ)
    (source : σ) : Option Registration × IdentityMap cls × σ :=
  match m.tracked? entry with
  | some id => (some (.existing id), m, source)
  | none =>
    let (id, source) := draw source
    let (added, m) := m.add id entry
    (if added then some (.inserted id) else none, m, source)

/-- Remove an identifier whether or not it is claimed; tells if it was live. -/
def remove (m : IdentityMap cls) (id : RemoteId) : Bool × IdentityMap cls :=
  if m.slots.contains id then
    (true, { m.drop id with removes := m.removes + 1 })
  else
    (false, m)

/-- The map with the claim flag of an identifier set to a value. -/
def mark (m : IdentityMap cls) (id : RemoteId) (claimed : Bool) : IdentityMap cls :=
  { m with slots := m.slots.modify id fun slot => { slot with claimed := claimed } }

theorem slots_find?_mark (m : IdentityMap cls) (id other : RemoteId) (claimed : Bool) :
    (m.mark id claimed).slots.find? other =
      if other = id then (m.slots.find? other).map fun slot => { slot with claimed := claimed }
      else m.slots.find? other :=
  m.slots.find?_modify id other _

/-- Whether an entry is being torn down does not show in what its identifier resolves to. -/
@[simp] theorem find?_mark (m : IdentityMap cls) (id other : RemoteId) (claimed : Bool) :
    (m.mark id claimed).find? other = m.find? other := by
  simp only [find?, slots_find?_mark]
  by_cases h : other = id <;> simp [h, Function.comp_def]

/-- Take the exclusive right to tear an entry down. -/
def claim (m : IdentityMap cls) (id : RemoteId) :
    Except ClaimRefusal cls.Entry × IdentityMap cls :=
  if id.isValid then
    match m.slots.find? id with
    | none => (.error .absent, m)
    | some slot =>
      if slot.claimed then (.error .busy, m) else (.ok slot.entry, m.mark id true)
  else
    (.error .absent, m)

/-- End a claim. Tells whether a claim was there to be ended: the entry may have
been removed by other means in the meantime. -/
def settle (m : IdentityMap cls) (id : RemoteId) (how : Settlement) : Bool × IdentityMap cls :=
  match m.slots.find? id with
  | none => (false, m)
  | some slot =>
    if slot.claimed then
      match how with
      | .commit => (true, { m.drop id with removes := m.removes + 1 })
      | .release => (true, m.mark id false)
    else
      (false, m)

def ownedBy (m : IdentityMap cls) (owner : RemoteId) : List (RemoteId × cls.Entry) :=
  (m.slots.pairs.filter fun p => cls.owner? p.2.entry == some owner).map fun p => (p.1, p.2.entry)

/-- Remove every entry that an identifier owns, claimed or not. -/
def removeOwnedBy (m : IdentityMap cls) (owner : RemoteId) :
    List (RemoteId × cls.Entry) × IdentityMap cls :=
  let owned := m.ownedBy owner
  let rest := owned.foldl (fun m p => m.drop p.1) m
  (owned, { rest with removes := m.removes + owned.length })

end IdentityMap

end DeviceBroker
