import DoubleZero.Passport.State
import DoubleZero.Solana.Recipe

/-!
# The passport processor

`passport/src/processor.rs`. An access request is paid for when it is made; granting or denying it
moves its lamports by hand and leaves it with none. The runtime rejects an instruction whose
accounts hold more or less after it than before (`process`). Keys are left out of the lines logged.
-/

namespace DoubleZero.Passport

open DoubleZero.Lib DoubleZero.Solana

abbrev PassportLedger := Ledger AccountState

abbrev PassportProcessor (α : Type) := Processor AccountState α

/-- What the program takes from the chain. -/
structure Runtime where
  scheme : AddressScheme
  rent : Rent

/-! ## Addresses -/

def ProgramConfig.seeds : List Seed := [.bytes "program_config"]
def AccessRequest.seeds (serviceKey : Pubkey) : List Seed :=
  [.bytes "access_request", .key serviceKey]

/-- `BPFLoaderUpgradeab1e11111111111111111111111`. -/
def bpfLoaderUpgradeableId : Pubkey :=
  ⟨0x2a8f6914e88a1b0e210153ef763ae2b00c2b93d16c124d2c0537a1004800000⟩

namespace Runtime

variable (rt : Runtime)

/-- `Pubkey::find_program_address(seeds, &ID)`. -/
def find (seeds : List Seed) : Pubkey × UInt8 := rt.scheme.findProgramAddress seeds ID

/-- The address of the access request for a service key. -/
def requestKey (serviceKey : Pubkey) : Pubkey := (rt.find (AccessRequest.seeds serviceKey)).1

def programDataAddress : Pubkey :=
  (rt.scheme.findProgramAddress [.key ID] bpfLoaderUpgradeableId).1

/-- `try_create_account` for an account of this program, paid for by a signer. -/
def createOwned (payer newAccount : AccountInfo) (seeds : List Seed) (bump : UInt8) (dataLen : Nat)
    (additionalLamports : Option Nat) : PassportProcessor Unit := do
  let acct ← account newAccount.key
  tryCreateAccount rt.scheme rt.rent ID (.signer payer.key) (.pda newAccount.key seeds bump)
    acct.lamports dataLen ID additionalLamports

end Runtime

/-! ## Authorities -/

/-- `Authority`. -/
inductive Authority where
  | admin
  | sentinel
  deriving DecidableEq, Repr

def Authority.key (config : ProgramConfig) : Authority → Pubkey
  | .admin => config.adminKey
  | .sentinel => config.sentinelKey

def Authority.label : Authority → String
  | .admin => "admin"
  | .sentinel => "sentinel"

def Authority.tryNextAsAuthorizedAccount (authority : Authority) (config : ProgramConfig) :
    PassportProcessor AccountInfo := do
  let info ← tryNextEnumeratedAccount { mustBeSigner := true }
  require (info.key = authority.key config) .invalidAccountData
    s!"Unauthorized {authority.label} (account {info.index})"
  return info

/-- `VerifiedProgramAuthority::try_next_accounts`. -/
def verifiedProgramAuthority (authority : Authority) :
    PassportProcessor (ZeroCopyAccount ProgramConfig × AccountInfo) := do
  let config ← tryNextZeroCopy ProgramConfig ID
  let info ← authority.tryNextAsAuthorizedAccount config.data
  return (config, info)

/-- `VerifiedProgramAuthorityMut::try_next_accounts`. -/
def verifiedProgramAuthorityMut (authority : Authority) :
    PassportProcessor (ZeroCopyAccount ProgramConfig) := do
  let config ← tryNextZeroCopyMut ProgramConfig ID
  let _info ← authority.tryNextAsAuthorizedAccount config.data
  return config

/-- `UpgradeAuthority::try_next_accounts`. -/
def upgradeAuthority (rt : Runtime) : PassportProcessor Unit := do
  let programData ← tryNextEnumeratedAccount {}
  require (programData.key = rt.programDataAddress) .invalidAccountData
    s!"Invalid program data address (account {programData.index})"
  let owner ← tryNextEnumeratedAccount { mustBeSigner := true }
  let acct ← account programData.key
  match acct.data with
  | .programData (some authority) =>
    require (owner.key = authority) .invalidAccountData
      s!"Owner (account {owner.index}) must match upgrade authority from program data (account {programData.index})"
  | _ => fail .invalidAccountData s!"Invalid program data (account {programData.index})"

def ProgramConfig.tryRequireUnpaused (config : ProgramConfig) : PassportProcessor Unit :=
  require (config.isPaused = false) .invalidAccountData "Program is paused"

/-! ## Lamports by hand -/

/-- Adds to the lamports of an account while those of another are borrowed, which panics when they
are one account. A sum that wraps is left to the runtime, which rejects the instruction. -/
def addLamports (borrowed target : Pubkey) (lamports : Nat) : PassportProcessor Unit := fun s =>
  if target = borrowed then .error (.panic "already mutably borrowed: BorrowError")
  else if (s.ledger target).lamports + lamports < 2 ^ 64 then
    .ok ((), { s with ledger := s.ledger.credit target lamports })
  else .error (.err .unbalancedInstruction "")

/-- Leaves an account without lamports. -/
def clearLamports (k : Pubkey) : PassportProcessor Unit :=
  modifyLedger fun L => L.set k { L k with lamports := 0 }

/-! ## Instructions -/

variable (rt : Runtime)

def tryInitializeProgram : PassportProcessor Unit := do
  let payer ← tryNextEnumeratedAccount {}
  let newProgramConfig ← tryNextEnumeratedAccount {}
  let (expectedKey, bump) := rt.find ProgramConfig.seeds
  require (newProgramConfig.key = expectedKey) .invalidSeeds
    s!"Invalid seeds for program config (account {newProgramConfig.index})"
  rt.createOwned payer newProgramConfig ProgramConfig.seeds bump
    (dataEnd AccountState ProgramConfig) none
  -- Establish the discriminator. Other fields are set by configuring the program.
  let remainingData ← tryInitialize ProgramConfig newProgramConfig
  store newProgramConfig.key (default : ProgramConfig) remainingData

def trySetAdmin (adminKey : Pubkey) : PassportProcessor Unit := do
  upgradeAuthority rt
  let programConfig ← tryNextZeroCopyMut ProgramConfig ID
  store programConfig.info.key { programConfig.data with adminKey := adminKey }
    programConfig.remainingData

/-- The config that a setting leads to. -/
def ProgramConfig.tryConfigure (config : ProgramConfig) :
    ProgramConfiguration → PassportProcessor ProgramConfig
  | .flag (.isPaused shouldPause) => pure (config.setIsPaused shouldPause)
  | .flag (.isRequestAccessPaused shouldPause) => pure (config.setIsRequestAccessPaused shouldPause)
  | .doubleZeroLedgerSentinel sentinelKey => pure { config with sentinelKey := sentinelKey }
  | .accessRequestDeposit depositLamports feeLamports => do
    require (depositLamports ≠ 0) .invalidInstructionData "Deposit lamports must not be zero"
    require (feeLamports < depositLamports) .invalidInstructionData
      "Request fee must be less than the deposit"
    return { config with
      requestDepositLamports := depositLamports, requestFeeLamports := feeLamports }
  | .solanaValidatorBackupIdsLimit limit => do
    require (limit ≠ 0) .invalidInstructionData
      "Solana validator backup IDs limit must not be zero"
    return { config with solanaValidatorBackupIdsLimit := limit }

def tryConfigureProgram (setting : ProgramConfiguration) : PassportProcessor Unit := do
  let programConfig ← verifiedProgramAuthorityMut .admin
  let updated ← programConfig.data.tryConfigure setting
  store programConfig.info.key updated programConfig.remainingData

/-- `TRANSACTION_LEVEL_STACK_HEIGHT`. -/
def TRANSACTION_LEVEL_STACK_HEIGHT : Nat := 1

/-- The service key of an access mode, if its backup IDs are allowed. -/
def ProgramConfig.tryServiceKey (config : ProgramConfig) : AccessMode → PassportProcessor Pubkey
  | .solanaValidator attestation => pure attestation.serviceKey
  | .solanaValidatorWithBackupIds attestation backupIds => do
    require (backupIds ≠ []) .invalidInstructionData "Must provide at least one backup ID"
    require (backupIds.length ≤ config.solanaValidatorBackupIdsLimit.toNat) .invalidInstructionData
      s!"Cannot exceed backup IDs limit {config.solanaValidatorBackupIdsLimit}"
    return attestation.serviceKey

def tryRequestAccess (stackHeight : Nat) (accessMode : AccessMode) : PassportProcessor Unit := do
  require (stackHeight = TRANSACTION_LEVEL_STACK_HEIGHT) .invalidInstructionData
    "Cannot CPI request access"
  let programConfig ← tryNextZeroCopy ProgramConfig ID
  programConfig.data.tryRequireUnpaused
  require (programConfig.data.isRequestAccessPaused = false) .invalidAccountData
    "Request access is paused"
  let serviceKey ← programConfig.data.tryServiceKey accessMode
  require (serviceKey ≠ default) .invalidInstructionData "User service key cannot be zero address"
  let additionalLamports ← okOr programConfig.data.checkedRequestDepositLamports .invalidAccountData
    "Request deposit lamports not configured"
  let payer ← tryNextEnumeratedAccount {}
  let newAccessRequest ← tryNextEnumeratedAccount {}
  let (expectedKey, bump) := rt.find (AccessRequest.seeds serviceKey)
  require (newAccessRequest.key = expectedKey) .invalidSeeds
    s!"Invalid seeds for access request (account {newAccessRequest.index})"
  rt.createOwned payer newAccessRequest (AccessRequest.seeds serviceKey) bump
    (dataEnd AccountState AccessRequest) (some additionalLamports.toNat)
  let remainingData ← tryInitialize AccessRequest newAccessRequest
  let encodedAccessMode ← okOr (AccessRequest.encodeAccessMode accessMode).toOption
    .invalidAccountData "Failed to serialize access mode"
  store newAccessRequest.key
    (⟨serviceKey, payer.key, programConfig.data.requestFeeLamports, encodedAccessMode⟩ :
      AccessRequest) remainingData

def tryGrantAccess : PassportProcessor Unit := do
  let (programConfig, sentinel) ← verifiedProgramAuthority .sentinel
  programConfig.data.tryRequireUnpaused
  let accessRequest ← tryNextZeroCopy AccessRequest ID
  let acct ← account accessRequest.info.key
  let requestFee := accessRequest.data.requestFeeLamports.toNat
  -- `saturating_sub`
  let requestRefund := acct.lamports - requestFee
  addLamports accessRequest.info.key sentinel.key requestFee
  let rentBeneficiary ← tryNextEnumeratedAccount {}
  require (rentBeneficiary.key = accessRequest.data.rentBeneficiaryKey) .invalidAccountData
    s!"Expected rent beneficiary key: {accessRequest.data.rentBeneficiaryKey}"
  addLamports accessRequest.info.key rentBeneficiary.key requestRefund
  -- Zero out the access request lamports to close the account.
  clearLamports accessRequest.info.key

def tryDenyAccess : PassportProcessor Unit := do
  let (programConfig, sentinel) ← verifiedProgramAuthority .sentinel
  programConfig.data.tryRequireUnpaused
  let accessRequest ← tryNextZeroCopy AccessRequest ID
  let acct ← account accessRequest.info.key
  addLamports accessRequest.info.key sentinel.key acct.lamports
  clearLamports accessRequest.info.key

/-! ## One instruction -/

/-- One invocation of the program. -/
structure Call where
  data : InstructionData
  accounts : List AccountMeta
  stackHeight : Nat

/-- The key of the `n`th account. -/
def Call.key? (call : Call) (n : Nat) : Option Pubkey := (call.accounts[n]?).map AccountMeta.key

/-- `try_process_instruction`, on decoded instruction data. -/
def tryProcessInstruction (call : Call) : PassportProcessor Unit :=
  match call.data with
  | .initializeProgram => tryInitializeProgram rt
  | .setAdmin adminKey => trySetAdmin rt adminKey
  | .configureProgram setting => tryConfigureProgram setting
  | .requestAccess accessMode => tryRequestAccess rt call.stackHeight accessMode
  | .grantAccess => tryGrantAccess
  | .denyAccess => tryDenyAccess

/-- The state a processor starts from. -/
def Call.exec (call : Call) (L : PassportLedger) : Exec AccountState :=
  ⟨call.accounts, L, call.accounts, 0⟩

/-- What the accounts of the instruction hold together. -/
def Call.lamports (call : Call) (L : PassportLedger) : Nat :=
  ∑ k ∈ (call.accounts.map AccountMeta.key).toFinset, (L k).lamports

/-- What the program itself does, before the runtime looks at the balance of its accounts. -/
def execute (call : Call) (L : PassportLedger) : Except Failure PassportLedger :=
  match tryProcessInstruction rt call (call.exec L) with
  | .ok (_, s) => .ok s.ledger
  | .error e => .error e

/-- The ledger after an invocation. -/
def process (call : Call) (L : PassportLedger) : Except Failure PassportLedger :=
  match execute rt call L with
  | .ok L' =>
    if call.lamports L' = call.lamports L then .ok L' else .error (.err .unbalancedInstruction "")
  | .error e => .error e

variable {rt} {call : Call} {L L' : PassportLedger}

theorem execute_eq_ok : execute rt call L = .ok L' ↔
    ∃ r, tryProcessInstruction rt call (call.exec L) = .ok r ∧ r.2.ledger = L' := by
  unfold execute
  cases h : tryProcessInstruction rt call (call.exec L) with
  | error e => simp
  | ok r => simp

theorem process_eq_ok : process rt call L = .ok L' ↔
    execute rt call L = .ok L' ∧ call.lamports L' = call.lamports L := by
  unfold process
  cases h : execute rt call L with
  | error e => simp
  | ok L₁ =>
    by_cases hbalance : call.lamports L₁ = call.lamports L
    · simp only [hbalance, if_true, Except.ok.injEq]
      constructor
      · rintro rfl
        exact ⟨rfl, hbalance⟩
      · exact And.left
    · simp only [hbalance, if_false, reduceCtorEq, Except.ok.injEq, false_iff]
      rintro ⟨rfl, heq⟩
      exact hbalance heq

end DoubleZero.Passport
