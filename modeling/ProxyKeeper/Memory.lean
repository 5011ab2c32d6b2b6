/-!
Memory. A collection of a wanted size is given its room when it is made. A program that asks for more
room than there can be, or than the machine has, does not fail with an error of its own: it crashes.
-/

namespace ProxyKeeper

/-- Why a program crashes. -/
inductive Crash where
  /-- A ring is wanted with more slots than can be numbered. -/
  | ring
  /-- More bytes are wanted than can be addressed. -/
  | overflow
  /-- The machine does not grant the bytes that are wanted. -/
  | exhausted
  deriving Repr, DecidableEq

namespace Crash

def message : Crash → String
  | .ring => "broadcast channel capacity exceeded `usize::MAX / 2`"
  | .overflow => "capacity overflow"
  | .exhausted => "memory allocation failed"

/-- The exit code as a shell tells it: that of a panic, or that of an abort. -/
def exitCode : Crash → Nat
  | .ring | .overflow => 101
  | .exhausted => 134

end Crash

/-- Why something does not come to its end: for a reason that it tells, or because the program crashes. -/
inductive Stop (ε : Type) where
  | failed (cause : ε)
  | crashed (cause : Crash)
  deriving Repr, DecidableEq

def Stop.map {ε ε' : Type} (f : ε → ε') : Stop ε → Stop ε'
  | .failed cause => .failed (f cause)
  | .crashed cause => .crashed cause

/-- The memory of a machine with words of 64 bits. -/
structure Memory where
  /-- The bytes that a slot of a ring takes. -/
  slotBytes : Nat := 40
  /-- Whether the machine grants so many bytes at once. -/
  grants : Nat → Bool

namespace Memory

/-- The most that an address can tell apart, and half of what a word can count. -/
def limit : Nat := 0x7FFFFFFFFFFFFFFF

/-- The bytes of a reference to a value. -/
def referenceBytes : Nat := 8

/-- A machine that grants whatever can be addressed. -/
def ample : Memory := { grants := fun _ => true }

/-- Reserves bytes. -/
def reserve (m : Memory) (bytes : Nat) : Except Crash Unit :=
  if limit < bytes then .error .overflow
  else if bytes = 0 ∨ m.grants bytes = true then .ok ()
  else .error .exhausted

end Memory

end ProxyKeeper
