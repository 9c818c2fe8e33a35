import Mathlib.Data.Nat.Notation

/-!
# Shares rounded down

The share `r / n` of an amount, rounded down to a whole number.  The library says
how it moves with the amount and with the rate, and what rounding loses when an
amount is split.
-/

namespace Share

/-- The share `r / n` of an amount. -/
def floor (n r a : ℕ) : ℕ := a * r / n

variable {n r : ℕ}

theorem floor_le (hr : r ≤ n) (a : ℕ) : floor n r a ≤ a := by
  refine Nat.div_le_of_le_mul ?_
  rw [Nat.mul_comm n a]
  exact Nat.mul_le_mul_left a hr

theorem floor_mono {a b : ℕ} (h : a ≤ b) : floor n r a ≤ floor n r b :=
  Nat.div_le_div_right (Nat.mul_le_mul_right r h)

theorem floor_mono_rate {r' : ℕ} (h : r' ≤ r) (a : ℕ) : floor n r' a ≤ floor n r a :=
  Nat.div_le_div_right (Nat.mul_le_mul_left a h)

/-- The share of a larger amount grows by no more than the amount. -/
theorem floor_add_le (hn : 0 < n) (hr : r ≤ n) (a d : ℕ) :
    floor n r (a + d) ≤ floor n r a + d := by
  have hgrow : (a + d) * r ≤ a * r + d * n := by
    rw [Nat.add_mul]
    exact Nat.add_le_add_left (Nat.mul_le_mul_left d hr) _
  calc floor n r (a + d) ≤ (a * r + d * n) / n := Nat.div_le_div_right hgrow
    _ = floor n r a + d := Nat.add_mul_div_right _ _ hn

/-- So what is left of an amount grows with it. -/
theorem rest_mono (hn : 0 < n) (hr : r ≤ n) {a b : ℕ} (h : a ≤ b) :
    a - floor n r a ≤ b - floor n r b := by
  obtain ⟨d, rfl⟩ := Nat.exists_eq_add_of_le h
  have hgrow := floor_add_le hn hr a d
  have hle := floor_le hr a
  omega

/-- Splitting an amount loses nothing to the payer. -/
theorem floor_add_floor_le (a b : ℕ) : floor n r a + floor n r b ≤ floor n r (a + b) := by
  rw [floor, floor, floor, Nat.add_mul]
  exact Nat.div_add_div_le_add_div

/-- And costs the other side one unit at most. -/
theorem floor_add_le_succ (hn : 0 < n) (a b : ℕ) :
    floor n r (a + b) ≤ floor n r a + floor n r b + 1 := by
  rw [floor, floor, floor, Nat.add_mul, Nat.add_div hn]
  split
  · exact Nat.le_refl _
  · exact Nat.le_succ _

end Share
