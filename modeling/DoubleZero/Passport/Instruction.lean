import DoubleZero.Solana.Account

/-!
# Passport instructions

`passport/src/instruction/mod.rs`.
-/

namespace DoubleZero.Passport

open DoubleZero.Solana

inductive ProgramFlagConfiguration where
  | isPaused (shouldPause : Bool)
  | isRequestAccessPaused (shouldPause : Bool)
  deriving DecidableEq, Repr

inductive ProgramConfiguration where
  | flag (configuration : ProgramFlagConfiguration)
  | doubleZeroLedgerSentinel (sentinelKey : Pubkey)
  | accessRequestDeposit (requestDepositLamports requestFeeLamports : UInt64)
  | solanaValidatorBackupIdsLimit (limit : UInt16)
  deriving DecidableEq, Repr

structure SolanaValidatorAttestation where
  validatorId : Pubkey
  serviceKey : Pubkey
  ed25519Signature : BitVec 512
  deriving DecidableEq, Repr

inductive AccessMode where
  | solanaValidator (attestation : SolanaValidatorAttestation)
  | solanaValidatorWithBackupIds (attestation : SolanaValidatorAttestation)
      (backupIds : List Pubkey)
  deriving DecidableEq, Repr

/-- The attestation that either mode carries. -/
def AccessMode.attestation : AccessMode → SolanaValidatorAttestation
  | .solanaValidator attestation => attestation
  | .solanaValidatorWithBackupIds attestation _ => attestation

def AccessMode.serviceKey (accessMode : AccessMode) : Pubkey := accessMode.attestation.serviceKey

inductive InstructionData where
  | initializeProgram
  | setAdmin (adminKey : Pubkey)
  | configureProgram (setting : ProgramConfiguration)
  | requestAccess (accessMode : AccessMode)
  | grantAccess
  | denyAccess
  deriving DecidableEq, Repr

end DoubleZero.Passport
