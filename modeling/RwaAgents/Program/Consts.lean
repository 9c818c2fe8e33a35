import Mathlib.Algebra.Group.Nat.Defs
import RwaAgents.Library.Effect

/-!
# Constants, enumerations and errors of the program

`consts.rs` and `errors.rs` of `programs/rwa-tokenization`.  Lengths are in
bytes.  What the framework, the system program and the token programs answer
when they refuse a call is added in `ProgramError`.
-/

namespace RwaTokenization

/-- Seed of the global configuration address. -/
def globalConfigSeed : String := "rwa_global_config"

/-- Seed of an asset address. -/
def assetSeed : String := "rwa_asset"

/-- Seed of a tokenization address. -/
def tokenizationSeed : String := "rwa_tokenization"

def defaultDecimals : ℕ := 9

def maxUriLength : ℕ := 200

def maxNameLength : ℕ := 100

def maxSymbolLength : ℕ := 10

def maxDescriptionLength : ℕ := 500

/-- The `u64` values are the numbers below. -/
def u64Bound : ℕ := 2 ^ 64

inductive AssetStatus
  /-- Asset is registered but not yet tokenized. -/
  | registered
  /-- Asset is tokenized and active. -/
  | active
  /-- Asset transfers are frozen. -/
  | frozen
  /-- Asset has been liquidated. -/
  | liquidated
  /-- Asset has been redeemed. -/
  | redeemed
deriving DecidableEq, Repr

inductive AssetType
  | realEstate
  | commodity
  | artwork
  | intellectualProperty
  | businessEquity
  | other
deriving DecidableEq, Repr

/-- The errors the program raises itself. -/
inductive RwaTokenizationError
  | assetNotRegistered
  | assetAlreadyTokenized
  | assetNotTokenized
  | unauthorized
  | insufficientBalance
  | invalidAssetStatus
  | invalidMetadata
  | invalidTotalSupply
  | assetFrozen
  | assetLiquidated
  | alreadyInitialized
  | invalidConfiguration
  | verificationFailed
  | slippageExceeded
  | registrationFeeNotPaid
deriving DecidableEq, Repr

/-- The refusals of the account framework. -/
inductive AnchorError
  | accountNotInitialized
  | accountOwnedByWrongProgram
  | accountDidNotDeserialize
  | accountNotSigner
  | constraintSeeds
  | constraintRaw
  | constraintAssociated
deriving DecidableEq, Repr

/-- The refusals of the system program. -/
inductive SystemError
  | accountAlreadyInUse
  | insufficientLamports
  | fromCarriesData
  | missingSignature
deriving DecidableEq, Repr

/-- The refusals of the token programs. -/
inductive TokenError
  | incorrectProgramId
  | accountFrozen
  | insufficientFunds
  | mintMismatch
  | mintDecimalsMismatch
  | ownerMismatch
  | mintCannotFreeze
  | invalidState
  | overflow
deriving DecidableEq, Repr

inductive ProgramError
  | custom (error : RwaTokenizationError)
  | anchor (error : AnchorError)
  | system (error : SystemError)
  | token (error : TokenError)
  /-- An `unwrap` of `none`. -/
  | panic
deriving DecidableEq, Repr

/-- The `checked_add` of the source, which panics past the bound. -/
def checkedAdd {σ : Type} (a b : ℕ) : EStateM ProgramError σ ℕ :=
  if a + b < u64Bound then pure (a + b) else throw .panic

theorem checkedAdd_bind_ok {σ α : Type} {a b : ℕ} {f : ℕ → EStateM ProgramError σ α} {c : α}
    {s s' : σ} :
    (checkedAdd a b >>= f).run s = .ok c s' ↔
      a + b < u64Bound ∧ (f (a + b)).run s = .ok c s' := by
  by_cases h : a + b < u64Bound
  · rw [checkedAdd, if_pos h, pure_bind]
    exact ⟨fun hrun => ⟨h, hrun⟩, And.right⟩
  · rw [checkedAdd, if_neg h]
    exact ⟨fun hrun => (nomatch hrun), fun hrun => absurd hrun.1 h⟩

end RwaTokenization
