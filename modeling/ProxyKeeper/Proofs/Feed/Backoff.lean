/-
The delays of a feed against their formula: the first delay, doubled with every failed attempt, up to the longest
delay.

A delay is computed in three steps, each with a limit of its own: the power of two stops at the largest factor, the
product at the longest span of time that can be told, and the delay at the longest one that is configured. The second
limit never shows, because no configured delay reaches it (`delay_eq`). The first one does: from the 32nd attempt on
the factor is short of the power, and the delay with it unless the third limit cuts both (`delay_eq_doubled_iff`).
-/
import Mathlib.Algebra.Group.Nat.Defs
import ProxyKeeper.Config.Setup

namespace ProxyKeeper

namespace Feed.Backoff

/-- The delay by the formula. -/
def doubled (b : Backoff) (attempt : Nat) : Nat := min (b.initial * 2 ^ attempt) b.longest

/-! ## the factor -/

theorem lt_two_pow_of_le {k : Nat} (h : 32 ≤ k) : limit32 < 2 ^ k := by
  have hpow : 2 ^ 32 ≤ 2 ^ k := Nat.pow_le_pow_right Nat.two_pos h
  unfold limit32
  omega

theorem two_pow_le_of_lt {k : Nat} (h : k < 32) : 2 ^ k ≤ limit32 := by
  have hpow : 2 ^ k ≤ 2 ^ 31 := Nat.pow_le_pow_right Nat.two_pos (by omega)
  unfold limit32
  omega

theorem factor_of_lt {k : Nat} (h : k < 32) : factor k = 2 ^ k := if_pos h

theorem factor_of_le {k : Nat} (h : 32 ≤ k) : factor k = limit32 := if_neg (Nat.not_lt.2 h)

/-- The power of two that stops at its limit. -/
theorem factor_eq_min (k : Nat) : factor k = min (2 ^ k) limit32 := by
  by_cases hk : k < 32
  · rw [factor_of_lt hk, Nat.min_eq_left (two_pow_le_of_lt hk)]
  · have hk : 32 ≤ k := Nat.not_lt.1 hk
    rw [factor_of_le hk, Nat.min_eq_right (Nat.le_of_lt (lt_two_pow_of_le hk))]

/-! ## the delay -/

variable {b : Backoff}

/-- The limit of the product is above every delay that is configured. -/
theorem delay_eq (h : b.longest ≤ longestSpan) (k : Nat) : b.delay k = min (b.initial * factor k) b.longest := by
  unfold delay
  omega

theorem delay_of_lt (h : b.longest ≤ longestSpan) {k : Nat} (hk : k < 32) : b.delay k = b.doubled k := by
  rw [delay_eq h, factor_of_lt hk, doubled]

theorem delay_of_le (h : b.longest ≤ longestSpan) {k : Nat} (hk : 32 ≤ k) :
    b.delay k = min (b.initial * limit32) b.longest := by
  rw [delay_eq h, factor_of_le hk]

/-- Beyond the largest factor the product is short of the formula's. -/
theorem mul_limit_lt (hpos : 0 < b.initial) {k : Nat} (hk : 32 ≤ k) :
    b.initial * limit32 < b.initial * 2 ^ k :=
  Nat.mul_lt_mul_of_pos_left (lt_two_pow_of_le hk) hpos

theorem delay_le_doubled (h : b.longest ≤ longestSpan) (k : Nat) : b.delay k ≤ b.doubled k := by
  have hfactor : factor k ≤ 2 ^ k := by
    rw [factor_eq_min]
    exact Nat.min_le_left _ _
  have hproduct : b.initial * factor k ≤ b.initial * 2 ^ k := Nat.mul_le_mul_left _ hfactor
  rw [delay_eq h, doubled]
  omega

/-- The formula is kept as long as the power fits, and for good where the longest delay is reached by then. -/
theorem delay_eq_doubled_iff (hpos : 0 < b.initial) (h : b.longest ≤ longestSpan) (k : Nat) :
    b.delay k = b.doubled k ↔ k < 32 ∨ b.longest ≤ b.initial * limit32 := by
  by_cases hk : k < 32
  · exact iff_of_true (delay_of_lt h hk) (.inl hk)
  · have hshort := mul_limit_lt hpos (Nat.not_lt.1 hk)
    rw [delay_of_le h (Nat.not_lt.1 hk), doubled]
    omega

end Feed.Backoff

namespace Config

open Feed (Backoff)

/-- The delays that a configuration may have. -/
theorem backoff_hostSettings {c : Config} {settings : HostSettings} (h : c.hostSettings = .ok settings) :
    let b := settings.ingest.backoff
    b = ⟨c.feed.reconnectInitial.toNat, c.feed.reconnectMax.toNat⟩ ∧
      0 < b.initial ∧ b.initial ≤ b.longest ∧ b.longest < UInt64.size := by
  simp only [hostSettings] at h
  split at h
  · cases h
  · rename_i haccepted
    cases h
    have hzero : c.feed.reconnectInitial.toNat ≠ 0 := fun hz =>
      haccepted (.inl (UInt64.toNat_inj.1 hz))
    have hle : c.feed.reconnectInitial.toNat ≤ c.feed.reconnectMax.toNat :=
      Nat.not_lt.1 fun hlt => haccepted (.inr (UInt64.lt_iff_toNat_lt.2 hlt))
    exact ⟨rfl, Nat.pos_of_ne_zero hzero, hle, c.feed.reconnectMax.toNat_lt_size⟩

/-- **A delay is the first one doubled with every attempt, up to the longest**, for every configuration that is
accepted and every number of an attempt, with a power of two that stays at its largest value of 32 bits. Up to
attempt 31 that is the formula; from the 32nd on it is never more than the formula, and it is the formula exactly
where the longest delay is no more than that largest value times the first. No other limit shows. -/
theorem delays_double_until_the_factor_is_full {c : Config} {settings : HostSettings}
    (h : c.hostSettings = .ok settings) (attempt : UInt32) :
    let b := settings.ingest.backoff
    let k := attempt.toNat
    b = ⟨c.feed.reconnectInitial.toNat, c.feed.reconnectMax.toNat⟩ ∧
      b.delay k = min (b.initial * min (2 ^ k) (2 ^ 32 - 1)) b.longest ∧
      b.delay k ≤ min (b.initial * 2 ^ k) b.longest ∧
      (b.delay k = min (b.initial * 2 ^ k) b.longest ↔
        attempt < 32 ∨ b.longest ≤ b.initial * (2 ^ 32 - 1)) := by
  intro b k
  obtain ⟨hb, hpos, -, hlt⟩ := backoff_hostSettings h
  have hsize : UInt64.size ≤ Backoff.longestSpan := by decide
  have hspan : b.longest ≤ Backoff.longestSpan := Nat.le_trans (Nat.le_of_lt hlt) hsize
  have hiff := Backoff.delay_eq_doubled_iff hpos hspan k
  refine ⟨hb, ?_, Backoff.delay_le_doubled hspan k, ?_⟩
  · rw [Backoff.delay_eq hspan, Backoff.factor_eq_min]
    rfl
  · rw [UInt32.lt_iff_toNat_lt]
    exact hiff

/-- Delays from one millisecond up to `2^32` of them. -/
def patient : Config := { feed := { reconnectInitial := 1, reconnectMax := 0x100000000 } }

theorem delays_of_a_patient_feed :
    ∃ settings, patient.hostSettings = .ok settings ∧
      (settings.ingest.backoff.delay 31 = 2 ^ 31 ∧ settings.ingest.backoff.delay 32 = 2 ^ 32 - 1) := by
  refine ⟨_, rfl, ?_, ?_⟩
  · exact (delays_double_until_the_factor_is_full (c := patient) rfl 31).2.1
  · exact (delays_double_until_the_factor_is_full (c := patient) rfl 32).2.1

/-- The 32nd delay of that feed is a millisecond short of `2^32`. -/
theorem factor_full_before_the_longest_delay :
    ¬ ∀ (c : Config) (settings : HostSettings), c.hostSettings = .ok settings → ∀ attempt : UInt32,
      settings.ingest.backoff.delay attempt.toNat =
        min (settings.ingest.backoff.initial * 2 ^ attempt.toNat) settings.ingest.backoff.longest := by
  intro hformula
  have hshort := hformula patient _ rfl 32
  revert hshort
  decide

end Config

end ProxyKeeper
