import DoubleZero.Lib.Bits
import DoubleZero.Passport.Wire

/-!
# Account types of the passport program

The two zero-copy types of `passport/src/state/`. Padding and the storage gap of the config, which
no code reads, are left out and counted in its size. How a key is displayed is a parameter.
-/

namespace DoubleZero.Passport

open DoubleZero.Lib DoubleZero.Lib.Borsh DoubleZero.Solana

/-- `dzpt2dM8g9qsLxpdddnVvKfjkCLVXd82jrrQVJigCPV`. -/
def ID : Pubkey := ⟨0x97a4aeaaec826fe240e087e0f6d25876b81693dc7cf0f645dead7a36189246c⟩

/-- `ProgramConfig`. -/
structure ProgramConfig where
  flags : BitVec 64
  adminKey : Pubkey
  sentinelKey : Pubkey
  requestDepositLamports : UInt64
  requestFeeLamports : UInt64
  solanaValidatorBackupIdsLimit : UInt16
  deriving DecidableEq, Repr, Inhabited

namespace ProgramConfig

def FLAG_IS_PAUSED_BIT : Nat := 0
def FLAG_IS_REQUEST_ACCESS_PAUSED_BIT : Nat := 1

variable (config : ProgramConfig)

def isPaused : Bool := bit config.flags FLAG_IS_PAUSED_BIT

def setIsPaused (shouldPause : Bool) : ProgramConfig :=
  { config with flags := setBit config.flags FLAG_IS_PAUSED_BIT shouldPause }

def isRequestAccessPaused : Bool := bit config.flags FLAG_IS_REQUEST_ACCESS_PAUSED_BIT

def setIsRequestAccessPaused (shouldPause : Bool) : ProgramConfig :=
  { config with flags := setBit config.flags FLAG_IS_REQUEST_ACCESS_PAUSED_BIT shouldPause }

def checkedRequestDepositLamports : Option UInt64 :=
  if config.requestDepositLamports = 0 then none else some config.requestDepositLamports

end ProgramConfig

def REQUEST_ACCESS_MAX_DATA_SIZE : Nat := 4096

/-- `AccessRequest`. -/
structure AccessRequest where
  serviceKey : Pubkey
  rentBeneficiaryKey : Pubkey
  requestFeeLamports : UInt64
  encodedAccessMode : Bytes
  deriving DecidableEq, Repr

namespace AccessRequest

/-- `checked_access_mode`. -/
def checkedAccessMode (request : AccessRequest) : Option AccessMode :=
  (AccessMode.codec.deserialize request.encodedAccessMode).toOption

/-- What `borsh::to_writer` leaves in the zeroed buffer of a new request. -/
def encodeAccessMode (accessMode : AccessMode) : Written :=
  AccessMode.codec.toWriter (List.replicate REQUEST_ACCESS_MAX_DATA_SIZE 0#8) accessMode

/-- `access_request_message`. -/
def accessRequestMessage (display : Pubkey → String) : AccessMode → String
  | .solanaValidator attestation => "service_key=" ++ display attestation.serviceKey
  | .solanaValidatorWithBackupIds attestation backupIds =>
    "service_key=" ++ display attestation.serviceKey ++ ",backup_ids=" ++
      String.intercalate "," (backupIds.map display)

end AccessRequest

/-- The program's account types. -/
inductive AccountState where
  | programConfig (config : ProgramConfig)
  | accessRequest (request : AccessRequest)
  deriving DecidableEq, Repr

instance : ZeroCopy AccountState ProgramConfig where
  discriminator := "dz::account::program_config"
  size := 344
  wrap := .programConfig
  unwrap | .programConfig c => some c | _ => none
  unwrap_eq_some := by intro d t; cases d <;> simp

instance : ZeroCopy AccountState AccessRequest where
  discriminator := "dz::account::access_request"
  size := 4168
  wrap := .accessRequest
  unwrap | .accessRequest r => some r | _ => none
  unwrap_eq_some := by intro d t; cases d <;> simp

instance : ZeroCopySum AccountState where
  len
    | .programConfig _ => dataEnd AccountState ProgramConfig
    | .accessRequest _ => dataEnd AccountState AccessRequest

end DoubleZero.Passport
