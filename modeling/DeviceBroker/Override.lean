/-!
# Overriding one value of a function

A total map from keys to values is a function. `override f key value` is the
same function except at one key. Overriding at two keys commutes, and
overriding with the value that is there changes nothing.
-/

namespace DeviceBroker

variable {α β : Type} [DecidableEq α]

/-- The function that differs from `f` at `key` alone. -/
def override (f : α → β) (key : α) (value : β) : α → β :=
  fun x => if x = key then value else f x

@[simp] theorem override_self (f : α → β) (key : α) (value : β) :
    override f key value key = value := by
  simp [override]

theorem override_of_ne (f : α → β) {key x : α} (value : β) (h : x ≠ key) :
    override f key value x = f x := by
  simp [override, h]

@[simp] theorem override_eq_self (f : α → β) (key : α) : override f key (f key) = f := by
  funext x
  by_cases h : x = key
  · rw [h, override_self]
  · exact override_of_ne f _ h

@[simp] theorem override_override (f : α → β) (key : α) (a b : β) :
    override (override f key a) key b = override f key b := by
  funext x
  by_cases h : x = key <;> simp [override, h]

end DeviceBroker
