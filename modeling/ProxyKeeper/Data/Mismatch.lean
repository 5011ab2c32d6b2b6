import ProxyKeeper.Data.Datum

/-!
What can be wrong with the meaning of a datum that is well formed. A `Mismatch` is the cause; each
document format has its own words for it.
-/

namespace ProxyKeeper.Data

/-- What was found in place of the value expected. -/
inductive Found where
  | null
  | flag (value : Bool)
  | number (value : Number)
  | text (value : String)
  | letter (value : Char)
  | list
  | fields
  deriving Repr, DecidableEq

inductive Mismatch where
  /-- A value of another kind. -/
  | wrongType (found : Found) (expected : String)
  /-- A value of the right kind that is out of bounds. -/
  | wrongValue (found : Found) (expected : String)
  /-- A list of fields by position that ends too early. -/
  | tooShort (length : Nat) (expected : String)
  /-- A list of fields by position that goes on after the last field. -/
  | tooLong (length : Nat) (wanted : Nat)
  | unknownVariant (name : String) (known : List String)
  | missingField (name : String)
  | duplicateField (name : String)
  deriving Repr, DecidableEq

/-- Why a datum cannot be taken for a value: a fault of form, or a mismatch and its place. -/
inductive Fault (κ ι : Type) where
  | unreadable (issue : ι)
  | mismatch (mark : κ) (cause : Mismatch)
  deriving Repr, DecidableEq

/-- The same fault with another mark. -/
def Fault.mapMark {κ κ' ι : Type} (f : κ → κ') : Fault κ ι → Fault κ' ι
  | .unreadable issue => .unreadable issue
  | .mismatch mark cause => .mismatch (f mark) cause

/-- A way to take a datum for a value. -/
abbrev Take (κ ι α : Type) := Datum κ ι → Except (Fault κ ι) α

namespace Take

variable {κ ι α β : Type}

def map (f : α → β) (take : Take κ ι α) : Take κ ι β := fun d => (take d).map f

/-- Refuses a datum as being of another kind than expected. -/
def refuse (expected : String) : Take κ ι α
  | .null m => .error (.mismatch m (.wrongType .null expected))
  | .flag m b => .error (.mismatch m (.wrongType (.flag b) expected))
  | .number m n => .error (.mismatch m (.wrongType (.number n) expected))
  | .text m s => .error (.mismatch m (.wrongType (.text s) expected))
  | .letter m c => .error (.mismatch m (.wrongType (.letter c) expected))
  | .list m _ _ => .error (.mismatch m (.wrongType .list expected))
  | .fields m _ _ => .error (.mismatch m (.wrongType .fields expected))
  | .flawed issue _ => .error (.unreadable issue)
  | .broken issue => .error (.unreadable issue)

/-! ## scalars -/

/-- A text; a single letter counts as one. -/
def text : Take κ ι String
  | .text _ s => .ok s
  | .letter _ c => .ok (String.singleton c)
  | d => refuse "a string" d

def flag : Take κ ι Bool
  | .flag _ b => .ok b
  | d => refuse "a boolean" d

/-- A natural number below `bound`, called `expected` in complaints. -/
def natural (bound : Nat) (expected : String) : Take κ ι Nat
  | .number m (.float bits) => refuse expected (.number m (.float bits))
  | .number m n =>
    match n.natural?.filter (· < bound) with
    | some value => .ok value
    | none => .error (.mismatch m (.wrongValue (.number n) expected))
  | d => refuse expected d

/-- A value that may be null. -/
def orNull (take : Take κ ι α) : Take κ ι (Option α)
  | .null _ => .ok none
  | d => (take d).map some

/-! ## lists -/

def items (take : Take κ ι α) : List (Option ι × Datum κ ι) → Except (Fault κ ι) (List α)
  | [] => .ok []
  | (_, d) :: rest => do
    let a ← take d
    return a :: (← items take rest)

/-- A list, element by element. -/
def listOf (take : Take κ ι α) : Take κ ι (List α)
  | .list _ elements ending => do
    let taken ← items take elements
    match ending with
    | .broken used _ _ => throw (.unreadable used)
    | .closed _ | .unreached => return taken
  | d => refuse "a sequence" d

end Take

end ProxyKeeper.Data
