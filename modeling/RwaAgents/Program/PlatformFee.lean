import RwaAgents.Library.Share
import RwaAgents.Program.States

/-!
# The platform fee

`utils/fees.rs`.  The fee is computed in `u128` and cast back to `u64`, and three of
the four steps would panic or lose bits on other numbers.  `GlobalConfig.init` admits
rates up to 10000 hundredths of a percent only, and under such a rate the fee is a
share of the amount (`calculatePlatformFee_eq`), so none of that happens.

No instruction of the program charges it.
-/

namespace RwaTokenization

/-- The `checked_mul` of a `u128`, unwrapped. -/
def checkedMulU128 (a b : ℕ) : Except ProgramError ℕ :=
  if a * b < 2 ^ 128 then return a * b else throw .panic

/-- The `checked_div` of a `u128`, unwrapped. -/
def checkedDivU128 (a b : ℕ) : Except ProgramError ℕ :=
  if b = 0 then throw .panic else return a / b

/-- The `checked_sub` of a `u64`, unwrapped. -/
def checkedSubU64 (a b : ℕ) : Except ProgramError ℕ :=
  if b ≤ a then return a - b else throw .panic

/-- The cast `as u64`. -/
def asU64 (n : ℕ) : ℕ := n % u64Bound

def calculatePlatformFee (amount feeBps : ℕ) : Except ProgramError ℕ := do
  let product ← checkedMulU128 amount feeBps
  return asU64 (← checkedDivU128 product 10000)

def calculateNetAmount (amount feeBps : ℕ) : Except ProgramError ℕ := do
  checkedSubU64 amount (← calculatePlatformFee amount feeBps)

/-! ## The fee as a share -/

section

variable {amount feeBps : ℕ} (hamount : amount < u64Bound) (hrate : feeBps ≤ 10000)

include hamount hrate

/-- The cast does not truncate. -/
theorem share_lt_u64Bound : Share.floor 10000 feeBps amount < u64Bound :=
  Nat.lt_of_le_of_lt (Share.floor_le hrate amount) hamount

theorem calculatePlatformFee_eq :
    calculatePlatformFee amount feeBps = .ok (Share.floor 10000 feeBps amount) := by
  have hproduct : amount * feeBps < 2 ^ 128 := by
    have hle : amount * feeBps ≤ amount * 10000 := Nat.mul_le_mul_left amount hrate
    rw [u64Bound] at hamount
    omega
  have hcast : asU64 (amount * feeBps / 10000) = Share.floor 10000 feeBps amount :=
    Nat.mod_eq_of_lt (share_lt_u64Bound hamount hrate)
  rw [calculatePlatformFee, checkedMulU128, if_pos hproduct]
  exact congrArg Except.ok hcast

theorem calculateNetAmount_eq :
    calculateNetAmount amount feeBps = .ok (amount - Share.floor 10000 feeBps amount) := by
  rw [calculateNetAmount, calculatePlatformFee_eq hamount hrate]
  exact if_pos (Share.floor_le hrate amount)

end

/-- Under every rate that `GlobalConfig.init` admits the fee and the net amount of a
`u64` exist, are exact and add up to it.  Both grow with the amount, the fee grows with
the rate, and splitting an amount lowers its fee by one unit at most. -/
theorem platform_fee_exact {Pubkey : Type} {config config' : GlobalConfig Pubkey}
    {authority : Pubkey} {registrationFee tokenizationFee feeBps : ℕ}
    (hinit : (GlobalConfig.init authority registrationFee tokenizationFee feeBps).run config =
      .ok () config') :
    (∀ amount, amount < u64Bound → ∃ fee net,
      calculatePlatformFee amount feeBps = .ok fee ∧ calculateNetAmount amount feeBps = .ok net ∧
        amount * feeBps / 10000 < u64Bound ∧ fee = amount * feeBps / 10000 ∧ fee ≤ amount ∧
        fee + net = amount) ∧
      (∀ a b, a ≤ b → b < u64Bound → ∀ fee fee' net net',
        calculatePlatformFee a feeBps = .ok fee → calculatePlatformFee b feeBps = .ok fee' →
        calculateNetAmount a feeBps = .ok net → calculateNetAmount b feeBps = .ok net' →
          fee ≤ fee' ∧ net ≤ net') ∧
      (∀ amount feeBps', amount < u64Bound → feeBps' ≤ feeBps → ∀ fee fee',
        calculatePlatformFee amount feeBps' = .ok fee →
        calculatePlatformFee amount feeBps = .ok fee' → fee ≤ fee') ∧
      ∀ a b, a + b < u64Bound → ∀ fee fee' both,
        calculatePlatformFee a feeBps = .ok fee → calculatePlatformFee b feeBps = .ok fee' →
        calculatePlatformFee (a + b) feeBps = .ok both →
          fee + fee' ≤ both ∧ both ≤ fee + fee' + 1 := by
  obtain ⟨-, hrate, -⟩ := GlobalConfig.init_ok.mp hinit
  refine ⟨?_, ?_, ?_, ?_⟩
  · intro amount hamount
    exact ⟨_, _, calculatePlatformFee_eq hamount hrate, calculateNetAmount_eq hamount hrate,
      share_lt_u64Bound hamount hrate, rfl, Share.floor_le hrate amount,
      Nat.add_sub_of_le (Share.floor_le hrate amount)⟩
  · intro a b hab hb fee fee' net net' hfee hfee' hnet hnet'
    have ha := Nat.lt_of_le_of_lt hab hb
    cases (calculatePlatformFee_eq ha hrate).symm.trans hfee
    cases (calculatePlatformFee_eq hb hrate).symm.trans hfee'
    cases (calculateNetAmount_eq ha hrate).symm.trans hnet
    cases (calculateNetAmount_eq hb hrate).symm.trans hnet'
    exact ⟨Share.floor_mono hab, Share.rest_mono (by omega) hrate hab⟩
  · intro amount feeBps' hamount hle fee fee' hfee hfee'
    cases (calculatePlatformFee_eq hamount (Nat.le_trans hle hrate)).symm.trans hfee
    cases (calculatePlatformFee_eq hamount hrate).symm.trans hfee'
    exact Share.floor_mono_rate hle amount
  · intro a b hab fee fee' both hfee hfee' hboth
    cases (calculatePlatformFee_eq (by omega) hrate).symm.trans hfee
    cases (calculatePlatformFee_eq (by omega) hrate).symm.trans hfee'
    cases (calculatePlatformFee_eq hab hrate).symm.trans hboth
    exact ⟨Share.floor_add_floor_le a b, Share.floor_add_le_succ (by omega) a b⟩

/-- The largest amount at the largest rate is all fee. -/
theorem platform_fee_exact_max : ∃ fee net,
    calculatePlatformFee 18446744073709551615 10000 = .ok fee ∧
      calculateNetAmount 18446744073709551615 10000 = .ok net ∧
      fee + net = 18446744073709551615 := by
  have hinit : (GlobalConfig.init (0 : ℕ) 0 0 10000).run (GlobalConfig.zeroed 0) =
      .ok () ⟨0, 0, 0, 10000, true, 0, 0⟩ := rfl
  obtain ⟨fee, net, hfee, hnet, -, -, -, hsum⟩ := (platform_fee_exact hinit).1
    18446744073709551615 (by rw [u64Bound]; omega)
  exact ⟨fee, net, hfee, hnet, hsum⟩

end RwaTokenization
