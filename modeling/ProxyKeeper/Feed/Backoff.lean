/-!
How long a feed waits before it connects again: the first delay, doubled with every failed attempt,
up to a longest delay. The doubling is counted in a factor of 32 bits, which stays at its largest
value once that is reached.
-/

namespace ProxyKeeper.Feed

/-- The delays in milliseconds. -/
structure Backoff where
  initial : Nat := 1000
  longest : Nat := 1000
  deriving Repr, DecidableEq, Inhabited

namespace Backoff

/-- The same delay for every attempt. -/
def fixed (delay : Nat) : Backoff := ⟨delay, delay⟩

/-- The largest number of an attempt, and the largest factor. -/
def limit32 : Nat := 0xFFFFFFFF

/-- What an attempt multiplies the first delay by; from the 32nd attempt on it is `limit32`. -/
def factor (attempt : Nat) : Nat := if attempt < 32 then Nat.pow 2 attempt else limit32

/-- The largest span of time that can be told, in milliseconds. -/
def longestSpan : Nat := (UInt64.size - 1) * 1000 + 999

/-- The delay before the attempt after the one of this number. -/
def delay (b : Backoff) (attempt : Nat) : Nat :=
  min (min (b.initial * factor attempt) longestSpan) b.longest

/-- The number of the next attempt. -/
def next (attempt : Nat) : Nat := min (attempt + 1) limit32

end Backoff

end ProxyKeeper.Feed
