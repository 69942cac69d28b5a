import DeviceBroker.RemoteId

/-!
# Sources of identifiers

New identifiers come from one of two sources. A sequence has a nonzero salt and
counts from one, so it never yields the sentinel. A script replays a list and
yields the sentinel when it has run out; it exists to provoke collisions.
-/

namespace DeviceBroker

/-- Where new identifiers come from. -/
inductive IdSource where
  /-- Identifiers under one salt, of which some have been issued. -/
  | sequence (salt : UInt64) (issued : Nat)
  /-- The identifiers still to be replayed. -/
  | script (remaining : List RemoteId)
  deriving DecidableEq, Repr

namespace IdSource

/-- A sequence under a salt; the salt zero counts as one. -/
def seeded (salt : UInt64) : IdSource := .sequence (if salt = 0 then 1 else salt) 0

/-- The next identifier, and the source after it is drawn. -/
def next : IdSource → RemoteId × IdSource
  | .sequence salt issued => (⟨salt, UInt64.ofNat (issued + 1)⟩, .sequence salt (issued + 1))
  | .script [] => (.sentinel, .script [])
  | .script (id :: rest) => (id, .script rest)

def take : Nat → IdSource → List RemoteId × IdSource
  | 0, source => ([], source)
  | count + 1, source =>
    let (id, source) := source.next
    let (ids, source) := take count source
    (id :: ids, source)

/-- A script with more identifiers at its end. A sequence takes none. -/
def push (more : List RemoteId) : IdSource → IdSource
  | .sequence salt issued => .sequence salt issued
  | .script ids => .script (ids ++ more)

def remaining : IdSource → Nat
  | .sequence _ _ => 0
  | .script ids => ids.length

@[simp] theorem next_sequence (salt : UInt64) (issued : Nat) :
    (sequence salt issued).next =
      (⟨salt, UInt64.ofNat (issued + 1)⟩, .sequence salt (issued + 1)) := rfl

@[simp] theorem next_script_nil : (script []).next = (.sentinel, .script []) := rfl

@[simp] theorem next_script_cons (id : RemoteId) (rest : List RemoteId) :
    (script (id :: rest)).next = (id, .script rest) := rfl

end IdSource

end DeviceBroker
