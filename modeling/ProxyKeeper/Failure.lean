/-!
Failures of the host: a setting that is refused, a thing that is not there, trouble with the event
feed, or a fault of the program itself.
-/

namespace ProxyKeeper

inductive Failure where
  | validation (field reason : String)
  | notFound (kind id : String)
  | feed (cause : String)
  | internal (cause : String)
  deriving Repr, DecidableEq

def Failure.message : Failure → String
  | .validation field reason => s!"Validation failed: {field}: {reason}"
  | .notFound kind id => s!"Entity not found: {kind} with id {id}"
  | .feed cause => s!"Event feed error: {cause}"
  | .internal cause => s!"Internal error: {cause}"

/-- The outcome of a check. -/
abbrev Check := Except Failure Unit

/-- Refuses a field unless a condition holds. -/
def Check.require (condition : Bool) (field reason : String) : Check :=
  if condition then .ok () else .error (.validation field reason)

namespace Check

instance (c : Check) : Decidable (c = .ok ()) :=
  match c with
  | .ok () => isTrue rfl
  | .error _ => isFalse fun h => by cases h

theorem require_eq_ok_iff {condition : Bool} {field reason : String} :
    require condition field reason = .ok () ↔ condition = true := by
  cases condition <;> simp [require]

/-- Of two checks in a row both pass. -/
theorem seq_eq_ok_iff {c d : Check} : (do c; d) = .ok () ↔ c = .ok () ∧ d = .ok () := by
  cases c with
  | ok => exact (and_iff_right rfl).symm
  | error f => exact iff_of_false (fun h => by cases h) fun h => by cases h.1

end Check

end ProxyKeeper
