import ProxyKeeper.Data.Number

/-!
A datum: a tree of nulls, flags, numbers, texts, lists and fields that a document holds, with a
mark at every place where a reader may have to report a fault.

The tree of a text that is not well formed stops at a `broken` place. A reader that works its way
through the tree from left to right therefore meets a fault of meaning before a fault of form that
comes later in the text, and never the other way round. A `flawed` place can be passed over but not
used: a number out of range, half of a surrogate pair, a nesting too deep to build.
-/

namespace ProxyKeeper.Data

/-- How a list or a group of fields ends. -/
inductive Ending (κ ι : Type) where
  /-- It is closed; the mark is the place behind it. -/
  | closed (behind : κ)
  /-- No further element can be read: the issue for a reader that uses the elements, for one that
  passes over them, and for one that expects the end here. -/
  | broken (used skipped leaving : ι)
  /-- An element inside is broken, so the end is never reached. -/
  | unreached
  deriving Repr

/-- A datum whose places are marked by `κ` and whose faults of form are `ι`. -/
inductive Datum (κ ι : Type) where
  | null (mark : κ)
  | flag (mark : κ) (value : Bool)
  | number (mark : κ) (value : Number)
  | text (mark : κ) (value : String)
  | letter (mark : κ) (value : Char)
  /-- The elements, each with the issue of a reader that expects the end in front of it. -/
  | list (mark : κ) (items : List (Option ι × Datum κ ι)) (ending : Ending κ ι)
  /-- The members: the place of the name, the flaw of a name that cannot be used, name and value. -/
  | fields (mark : κ) (members : List (κ × Option ι × String × Datum κ ι)) (ending : Ending κ ι)
  | flawed (issue : ι) (inner : Datum κ ι)
  | broken (issue : ι)

/-- A datum of which nothing is reported but what is wrong with it. -/
abbrev Plain := Datum Unit Empty

namespace Datum

variable {κ ι : Type}

/-! ## passing over a datum -/

mutual

/-- The first fault of form that a reader meets who passes over the datum. -/
def skip : Datum κ ι → Option ι
  | .list _ items ending => (skipItems items).orElse fun _ => skipEnding ending
  | .fields _ members ending => (skipMembers members).orElse fun _ => skipEnding ending
  | .flawed _ inner => inner.skip
  | .broken issue => some issue
  | .null _ | .flag .. | .number .. | .text .. | .letter .. => none

def skipItems : List (Option ι × Datum κ ι) → Option ι
  | [] => none
  | (_, d) :: rest => d.skip.orElse fun _ => skipItems rest

def skipMembers : List (κ × Option ι × String × Datum κ ι) → Option ι
  | [] => none
  | (_, _, _, d) :: rest => d.skip.orElse fun _ => skipMembers rest

def skipEnding : Ending κ ι → Option ι
  | .broken _ skipped _ => some skipped
  | .closed _ | .unreached => none

end

/-! ## keeping a datum for later -/

/-- The fault of form of a reader that uses every element up to the end. -/
def useEnding : Ending κ ι → Except ι (Ending Unit Empty)
  | .broken used _ _ => .error used
  | .closed _ | .unreached => .ok (.closed ())

mutual

/-- The datum without its marks, if a reader can use all of it. -/
def plain : Datum κ ι → Except ι Plain
  | .null _ => .ok (.null ())
  | .flag _ b => .ok (.flag () b)
  | .number _ n => .ok (.number () n)
  | .text _ s => .ok (.text () s)
  | .letter _ c => .ok (.letter () c)
  | .list _ items ending => do
    let kept ← plainItems items
    return .list () kept (← useEnding ending)
  | .fields _ members ending => do
    let kept ← plainMembers members
    return .fields () kept (← useEnding ending)
  | .flawed issue _ => .error issue
  | .broken issue => .error issue

def plainItems : List (Option ι × Datum κ ι) → Except ι (List (Option Empty × Plain))
  | [] => .ok []
  | (_, d) :: rest => do
    let kept ← d.plain
    return (none, kept) :: (← plainItems rest)

def plainMembers :
    List (κ × Option ι × String × Datum κ ι) → Except ι (List (Unit × Option Empty × String × Plain))
  | [] => .ok []
  | (_, flaw, name, d) :: rest => do
    if let some issue := flaw then throw issue
    let kept ← d.plain
    return ((), none, name, kept) :: (← plainMembers rest)

end

end Datum

end ProxyKeeper.Data
