/-!
# Outcomes

What an operation on a device can answer. A `Fault` is a reason for failure;
a `Status` is success or a fault and has a fixed numeric code; an `Outcome`
is a status together with the value that success promises. On the wire the
two travel separately, so an outcome can lack the value it promises: `result?`
is `none` on exactly those.
-/

namespace DeviceBroker

/-- Why a device operation failed. -/
inductive Fault where
  | invalidParam
  | busy
  | exception
  | notFound
  | noMemory
  | notSupported
  | noDriver
  | noDaemon
  | noAccess
  | reconfiguration
  deriving DecidableEq, Repr

namespace Fault

/-- Every fault, in the order of the codes. -/
def all : List Fault :=
  [.invalidParam, .busy, .exception, .notFound, .noMemory, .notSupported, .noDriver, .noDaemon,
   .noAccess, .reconfiguration]

def message : Fault → String
  | .invalidParam => "invalid parameter"
  | .busy => "resource busy"
  | .exception => "exception"
  | .notFound => "not found"
  | .noMemory => "no memory"
  | .notSupported => "not supported"
  | .noDriver => "no driver available"
  | .noDaemon => "no daemon available"
  | .noAccess => "insufficient privileges"
  | .reconfiguration => "reconfiguration error"

end Fault

/-- Success, or the fault that prevented it. -/
inductive Status where
  | success
  | failure (fault : Fault)
  deriving DecidableEq, Repr

namespace Status

def code : Status → UInt32
  | .success => 0
  | .failure .invalidParam => 1
  | .failure .busy => 2
  | .failure .exception => 3
  | .failure .notFound => 4
  | .failure .noMemory => 5
  | .failure .notSupported => 6
  | .failure .noDriver => 7
  | .failure .noDaemon => 8
  | .failure .noAccess => 9
  | .failure .reconfiguration => 10

/-- Every status, in the order of the codes. -/
def all : List Status := .success :: Fault.all.map .failure

/-- The status with a given code; codes outside the table mean nothing. -/
def ofCode? (code : UInt32) : Option Status := all.find? fun s => s.code == code

theorem ofCode?_code (s : Status) : ofCode? s.code = some s := by
  cases s with
  | success => rfl
  | failure f => cases f <;> rfl

theorem code_of_ofCode? {code : UInt32} {s : Status} (h : ofCode? code = some s) :
    s.code = code := by
  have := List.find?_some h
  simpa using this

/-- The status as a result without a value. -/
def toResult : Status → Except Fault Unit
  | .success => .ok ()
  | .failure f => .error f

def message : Status → String
  | .success => "success"
  | .failure f => f.message

end Status

/-- The complaint about a code outside the table. -/
def unknownCodeMessage (code : UInt32) : String := "unknown result code " ++ toString code.toNat

/-- A status and the value that came with it. -/
@[ext] structure Outcome (α : Type) where
  status : Status
  value : Option α
  deriving DecidableEq, Repr

namespace Outcome

variable {α : Type}

def ok (value : α) : Outcome α := ⟨.success, some value⟩

def error (fault : Fault) : Outcome α := ⟨.failure fault, none⟩

def ofResult : Except Fault α → Outcome α
  | .ok value => ok value
  | .error fault => error fault

/-- The result an outcome reports; a success without a value reports none. -/
def result? (o : Outcome α) : Option (Except Fault α) :=
  match o.status, o.value with
  | .failure fault, _ => some (.error fault)
  | .success, some value => some (.ok value)
  | .success, none => none

@[simp] theorem result?_ofResult (r : Except Fault α) : (ofResult r).result? = some r := by
  cases r <;> rfl

theorem result?_eq_none_iff (o : Outcome α) :
    o.result? = none ↔ o.status = .success ∧ o.value = none := by
  obtain ⟨s, v⟩ := o
  cases s <;> cases v <;> simp [result?]

end Outcome

end DeviceBroker
