import Mathlib.Data.Nat.Notation
import Mathlib.Data.List.Induction
import Mathlib.Tactic.IntervalCases

/-!
# Positive decimals

The texts of the positive numbers.  `isPositive` tests for one the way a pattern
does, a digit other than zero and then digits, and `value` reads it.  The two say
the same as `toString` of a positive number (`isPositive_iff`, `value_toString`).
-/

namespace Decimal

/-- `[1-9]\d*`. -/
def isPositiveIn : List Char → Bool
  | [] => false
  | c :: cs => c.isDigit && c != '0' && cs.all Char.isDigit

/-- `/^[1-9]\d*$/`. -/
def isPositive (s : String) : Bool := isPositiveIn s.toList

/-- The number a text of digits stands for. -/
def value (s : String) : ℕ := Nat.ofDigitChars 10 s.toList 0

theorem digit_eq {c : Char} (h : c.isDigit = true) : ∃ d < 10, c = Nat.digitChar d := by
  obtain ⟨hlow, hhigh⟩ : 48 ≤ c.toNat ∧ c.toNat ≤ 57 := by
    simpa [Char.isDigit, UInt32.le_iff_toNat_le] using h
  refine ⟨c.toNat - 48, by omega, ?_⟩
  rw [← Char.ofNat_toNat c]
  generalize c.toNat = n at hlow hhigh ⊢
  interval_cases n <;> rfl

/-- One more digit behind a positive decimal. -/
theorem isPositiveIn_concat {ds : List Char} (hds : ds ≠ []) (c : Char) :
    isPositiveIn (ds ++ [c]) = (isPositiveIn ds && c.isDigit) := by
  cases ds with
  | nil => exact absurd rfl hds
  | cons d ds => simp [isPositiveIn, Bool.and_assoc]

/-- Digits without a leading zero are the digits of their value. -/
theorem toDigits_of_isPositiveIn {cs : List Char} (h : isPositiveIn cs = true) :
    ∃ n, 0 < n ∧ cs = Nat.toDigits 10 n := by
  induction cs using List.reverseRecOn with
  | nil => cases h
  | append_singleton ds c ih =>
      cases ds with
      | nil =>
          simp only [List.nil_append, isPositiveIn, List.all_nil, Bool.and_true, Bool.and_eq_true,
            bne_iff_ne] at h
          obtain ⟨d, hd, rfl⟩ := digit_eq h.1
          refine ⟨d, Nat.pos_of_ne_zero fun hzero => ?_, ?_⟩
          · exact h.2 (hzero ▸ rfl)
          · rw [List.nil_append, Nat.toDigits_of_lt_base hd]
      | cons e es =>
          rw [isPositiveIn_concat (List.cons_ne_nil _ _), Bool.and_eq_true] at h
          obtain ⟨n, hn, hdigits⟩ := ih h.1
          obtain ⟨d, hd, rfl⟩ := digit_eq h.2
          refine ⟨10 * n + d, by omega, ?_⟩
          rw [hdigits, ← Nat.toDigits_append_toDigits (by omega) hn hd, Nat.toDigits_of_lt_base hd]

theorem isPositiveIn_toDigits {n : ℕ} (hn : 0 < n) : isPositiveIn (Nat.toDigits 10 n) = true := by
  induction n using Nat.base_induction 10 (by omega) with
  | single m hm =>
      have hdigit : m.digitChar.isDigit = true := by
        rw [Nat.isDigit_digitChar]
        exact decide_eq_true hm
      rw [Nat.toDigits_of_lt_base hm, isPositiveIn, hdigit]
      simp [Nat.ne_of_gt hn]
  | digit m k hk hm ih =>
      rw [← Nat.toDigits_append_toDigits (by omega) hm hk, Nat.toDigits_of_lt_base hk,
        isPositiveIn_concat Nat.toDigits_ne_nil, ih hm, Bool.true_and, Nat.isDigit_digitChar]
      exact decide_eq_true hk

/-- The pattern accepts the texts of the positive numbers and no others. -/
theorem isPositive_iff {s : String} : isPositive s = true ↔ ∃ n : ℕ, 0 < n ∧ s = toString n := by
  constructor
  · intro h
    obtain ⟨n, hn, hdigits⟩ := toDigits_of_isPositiveIn h
    refine ⟨n, hn, String.toList_inj.mp ?_⟩
    rw [hdigits, Nat.toString_eq_repr, Nat.toList_repr]
  · intro h
    obtain ⟨n, hn, rfl⟩ := h
    rw [isPositive, Nat.toString_eq_repr, Nat.toList_repr]
    exact isPositiveIn_toDigits hn

theorem value_toString (n : ℕ) : value (toString n) = n := by
  rw [value, Nat.toString_eq_repr, Nat.toList_repr, Nat.ofDigitChars_ten_toDigits]

end Decimal
