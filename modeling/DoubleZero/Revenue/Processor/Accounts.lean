import DoubleZero.Revenue.State
import DoubleZero.Solana.Recipe

/-!
# Addresses, authorities and account checks

What every instruction of `processor.rs` is built from: the program's addresses, the parameters that
come from outside (`Runtime`, `Env`), the verified authorities, the token account and mint checks,
the guards on the config and the distribution, and the replay bitmap.
-/

namespace DoubleZero.Revenue

open DoubleZero.Lib DoubleZero.Solana

abbrev RevenueLedger := Ledger AccountState

abbrev RevenueProcessor (α : Type) := Processor AccountState α

/-- What the program takes from the chain and from `svm_hash`. -/
structure Runtime where
  scheme : AddressScheme
  rent : Rent
  /-- `MerkleProof::root_from_pod_leaf`. -/
  rootFromPodLeaf : MerkleProof → Leaf → Hash

/-- The instruction processed just before, as `get_processed_sibling_instruction(0)` shows it. -/
structure SiblingInstruction where
  programId : Pubkey
  /-- The amount, if the data unpacks as `TransferChecked`. -/
  transferChecked : Option UInt64
  accounts : List Pubkey

/-- What one invocation takes from its surroundings: the clock, the sibling instruction, and what
the program it calls across program boundaries does and returns. -/
structure Env where
  unixTimestamp : Int
  sibling : Option SiblingInstruction
  cpi : RevenueLedger → Except ProgramError (RevenueLedger × Option (Pubkey × List (BitVec 8)))

/-! ## Addresses -/

def ProgramConfig.seeds : List Seed := [.bytes "program_config"]
def Journal.seeds : List Seed := [.bytes "journal"]
def Distribution.seeds (dzEpoch : DoubleZeroEpoch) : List Seed :=
  [.bytes "distribution", .le64 dzEpoch]
def ContributorRewards.seeds (serviceKey : Pubkey) : List Seed :=
  [.bytes "contributor_rewards", .key serviceKey]
def SolanaValidatorDeposit.seeds (nodeId : Pubkey) : List Seed :=
  [.bytes "solana_validator_deposit", .key nodeId]
def RewardsIntegration.seeds (programId : Pubkey) : List Seed :=
  [.bytes "rewards_integration", .key programId]
def token2zPdaSeeds (tokenOwner : Pubkey) : List Seed := [.bytes "2z_token", .key tokenOwner]
def swapAuthoritySeeds : List Seed := [.bytes "swap_authority"]
def withdrawSolAuthoritySeeds : List Seed := [.bytes "withdraw_sol"]

/-- `BPFLoaderUpgradeab1e11111111111111111111111`. -/
def bpfLoaderUpgradeableId : Pubkey :=
  ⟨0x2a8f6914e88a1b0e210153ef763ae2b00c2b93d16c124d2c0537a1004800000⟩

namespace Runtime

variable (rt : Runtime)

/-- `Pubkey::find_program_address(seeds, &ID)`. -/
def find (seeds : List Seed) : Pubkey × UInt8 := rt.scheme.findProgramAddress seeds ID

/-- `Pubkey::create_program_address(seeds, &ID)`. -/
def create (seeds : List Seed) (bump : UInt8) : Option Pubkey :=
  rt.scheme.createProgramAddress seeds bump ID

def find2zTokenPdaAddress (tokenOwner : Pubkey) : Pubkey × UInt8 :=
  rt.find (token2zPdaSeeds tokenOwner)

def checked2zTokenPdaAddress (tokenOwner : Pubkey) (bumpSeed : UInt8) : Option Pubkey :=
  rt.create (token2zPdaSeeds tokenOwner) bumpSeed

def findSwapAuthorityAddress : Pubkey × UInt8 := rt.find swapAuthoritySeeds

def findWithdrawSolAuthorityAddress (sol2zSwapProgramId : Pubkey) : Pubkey × UInt8 :=
  rt.scheme.findProgramAddress withdrawSolAuthoritySeeds sol2zSwapProgramId

def programDataAddress : Pubkey :=
  (rt.scheme.findProgramAddress [.key ID] bpfLoaderUpgradeableId).1

def checkedSwapAuthorityAddress (config : ProgramConfig) : Option Pubkey :=
  if config.swapAuthorityBumpSeed = 0 then none
  else rt.create swapAuthoritySeeds config.swapAuthorityBumpSeed

def checkedSwapDestination2zAddress (config : ProgramConfig) : Option Pubkey :=
  (rt.checkedSwapAuthorityAddress config).bind fun swapAuthorityKey =>
    rt.checked2zTokenPdaAddress swapAuthorityKey config.swapDestination2zBumpSeed

def checkedWithdrawSolAuthorityAddress (config : ProgramConfig) : Option Pubkey :=
  if config.sol2zSwapProgramId = default then none
  else rt.scheme.createProgramAddress withdrawSolAuthoritySeeds config.withdrawSolAuthorityBumpSeed
    config.sol2zSwapProgramId

/-- Invokes a native program, signed with program-derived addresses of this program. -/
def invokeSigned (signerSeeds : List (List Seed × UInt8))
    (f : List Pubkey → RevenueLedger → Except ProgramError RevenueLedger) : RevenueProcessor Unit :=
  Solana.invokeSigned rt.scheme ID signerSeeds f

/-- Invokes another program, signed with one program-derived address of this program. What it does
and returns comes from the environment. -/
def invokeForeign (env : Env) (seeds : List Seed) (bump : UInt8) :
    RevenueProcessor (Option (Pubkey × List (BitVec 8))) := fun s =>
  match rt.create seeds bump with
  | none => .error (.err .invalidSeeds "")
  | some _ =>
    match env.cpi s.ledger with
    | .ok (L, returnData) => .ok (returnData, { s with ledger := L })
    | .error e => .error (.err e "")

/-- `try_create_account` for an account of this program, paid for by a signer. -/
def createOwned (payer newAccount : AccountInfo) (seeds : List Seed) (bump : UInt8) (dataLen : Nat)
    (additionalLamports : Option Nat) : RevenueProcessor Unit := do
  let acct ← account newAccount.key
  tryCreateAccount rt.scheme rt.rent ID (.signer payer.key) (.pda newAccount.key seeds bump)
    acct.lamports dataLen ID additionalLamports

/-- `try_create_token_account` for a 2Z token account at its program-derived address. -/
def create2zToken (payer newAccount : AccountInfo) (tokenOwner : Pubkey) (bump : UInt8) :
    RevenueProcessor Unit := do
  let acct ← account newAccount.key
  tryCreateTokenAccount rt.scheme rt.rent ID (.signer payer.key)
    (.pda newAccount.key (token2zPdaSeeds tokenOwner) bump) DOUBLEZERO_MINT_KEY tokenOwner
    acct.lamports

end Runtime

/-! ## Authorities -/

/-- `Authority`. -/
inductive Authority where
  | admin
  | debtAccountant
  | rewardsAccountant
  | contributorManager
  deriving DecidableEq, Repr

def Authority.key (config : ProgramConfig) : Authority → Pubkey
  | .admin => config.adminKey
  | .debtAccountant => config.debtAccountantKey
  | .rewardsAccountant => config.rewardsAccountantKey
  | .contributorManager => config.contributorManagerKey

def Authority.label : Authority → String
  | .admin => "admin"
  | .debtAccountant => "debt accountant"
  | .rewardsAccountant => "rewards accountant"
  | .contributorManager => "contributor manager"

def Authority.tryNextAsAuthorizedAccount (authority : Authority) (config : ProgramConfig) :
    RevenueProcessor Unit := do
  let info ← tryNextEnumeratedAccount { mustBeSigner := true }
  require (info.key = authority.key config) .invalidAccountData
    s!"Unauthorized {authority.label} (account {info.index})"

/-- `VerifiedProgramAuthority::try_next_accounts`. -/
def verifiedProgramAuthority (authority : Authority) :
    RevenueProcessor (ZeroCopyAccount ProgramConfig) := do
  let config ← tryNextZeroCopy ProgramConfig ID
  authority.tryNextAsAuthorizedAccount config.data
  return config

/-- `VerifiedProgramAuthorityMut::try_next_accounts`. -/
def verifiedProgramAuthorityMut (authority : Authority) :
    RevenueProcessor (ZeroCopyAccount ProgramConfig) := do
  let config ← tryNextZeroCopyMut ProgramConfig ID
  authority.tryNextAsAuthorizedAccount config.data
  return config

/-- `UpgradeAuthority::try_next_accounts`. -/
def upgradeAuthority (rt : Runtime) : RevenueProcessor Unit := do
  let programData ← tryNextEnumeratedAccount {}
  require (programData.key = rt.programDataAddress) .invalidAccountData
    s!"Invalid program data address (account {programData.index})"
  let owner ← tryNextEnumeratedAccount { mustBeSigner := true }
  let acct ← account programData.key
  match acct.data with
  | .programData (some authority) =>
    require (owner.key = authority) .invalidAccountData
      s!"Owner (account {owner.index}) must match upgrade authority from program data (account {programData.index})"
  | _ => fail .invalidAccountData s!"Invalid program data (account {programData.index})"

/-! ## Token accounts, mint and token program -/

def tryNext2zMintInfo : RevenueProcessor Unit := do
  let info ← tryNextEnumeratedAccount {}
  require (info.key = DOUBLEZERO_MINT_KEY) .invalidAccountData
    s!"Invalid address for 2Z mint (account {info.index})"

def tryNextTokenProgramInfo : RevenueProcessor Unit := do
  let info ← tryNextEnumeratedAccount {}
  require (info.key = tokenProgramId) .invalidAccountData
    s!"Invalid address for SPL Token program (account {info.index})"

/-- The token PDA `try_next_2z_token_pda_info` expects, with its bump. -/
def Runtime.expected2zTokenPda (rt : Runtime) (tokenOwner : Pubkey) :
    Option UInt8 → Option (Pubkey × UInt8)
  | some bump => (rt.checked2zTokenPdaAddress tokenOwner bump).map fun key => (key, bump)
  | none => some (rt.find2zTokenPdaAddress tokenOwner)

def tryNext2zTokenPdaInfo (rt : Runtime) (tokenOwner : Pubkey) (tokenPdaName : String)
    (tokenPdaBump : Option UInt8) : RevenueProcessor (AccountInfo × UInt8) := do
  let info ← tryNextEnumeratedAccount {}
  let expected ← okOr (rt.expected2zTokenPda tokenOwner tokenPdaBump) .invalidSeeds
    s!"Failed to create {tokenPdaName} 2Z token PDA address with bump seed (account {info.index})"
  require (info.key = expected.1) .invalidSeeds
    s!"Invalid seeds for {tokenPdaName} 2Z token PDA (account {info.index})"
  return (info, expected.2)

/-- `spl_token_interface::state::Account::unpack` of an account's data, whoever owns it. -/
def unpackData : AccountData AccountState → Option TokenAccount
  | .token account => some account
  | _ => none

def tryTokenAccountAmount (info : AccountInfo) : RevenueProcessor UInt64 := do
  let acct ← account info.key
  let token ← okOr (unpackData acct.data) .invalidAccountData ""
  return token.amount

/-! ## Guards -/

def tryLeafIndex (proof : MerkleProof) : RevenueProcessor UInt32 :=
  okOr proof.leafIndex .invalidInstructionData "Merkle proof must use an indexed tree"

def ProgramConfig.tryRequireUnpaused (config : ProgramConfig) : RevenueProcessor Unit :=
  require (config.isPaused = false) .invalidAccountData "Program is paused"

namespace Distribution

variable (d : Distribution)

def tryRequireUnfinalizedDebtCalculation : RevenueProcessor Unit :=
  require (d.isDebtCalculationFinalized = false) .invalidAccountData
    "Distribution debt calculation has already been finalized"

def tryRequireFinalizedDebtCalculation (log : String) : RevenueProcessor Unit :=
  require (d.isDebtCalculationFinalized = true) .invalidAccountData log

def tryRequireUnfinalizedRewardsCalculation : RevenueProcessor Unit :=
  require (d.isRewardsCalculationFinalized = false) .invalidAccountData
    "Distribution rewards have already been finalized"

def tryRequireHasNotSwept2zTokens (log : String) : RevenueProcessor Unit :=
  require (d.hasSwept2zTokens = false) .invalidAccountData log

def isCalculationAllowed (now : Int) : Bool :=
  d.checkedCalculationAllowedTimestamp.any fun allowedTimestamp => now ≥ allowedTimestamp

def tryRequireCalculationAllowed (env : Env) : RevenueProcessor Unit :=
  require (d.isCalculationAllowed env.unixTimestamp = true) .invalidAccountData
    "Distribution calculation is not allowed yet"

end Distribution

/-! ## Replay bitmaps -/

/-- `try_process_remaining_data_leaf_index`. -/
def tryProcessRemainingDataLeafIndex (processedLeafData : List (BitVec 8)) (leafIndex : UInt32) :
    Except Failure (List (BitVec 8)) :=
  match processedLeafData[leafIndex.toNat / 8]? with
  | none => .error (.err .invalidInstructionData "Invalid leaf index")
  | some leafByte =>
    if bit leafByte (leafIndex.toNat % 8) then
      .error (.err .invalidAccountData
        s!"Merkle leaf index {leafIndex} has already been processed")
    else .ok (processedLeafData.set (leafIndex.toNat / 8)
      (setBit leafByte (leafIndex.toNat % 8) true))

/-- Marks a leaf in the bitmap that occupies a range of the remaining data. Slicing out of range
panics; on a replay the caller's own line is the last one logged. -/
def processLeaf (remainingData : List (BitVec 8)) (start stop : UInt32) (leafIndex : UInt32)
    (log : String) : RevenueProcessor (List (BitVec 8)) := fun s =>
  if start ≤ stop ∧ stop.toNat ≤ remainingData.length then
    match tryProcessRemainingDataLeafIndex (window remainingData start.toNat stop.toNat)
      leafIndex with
    | .ok bytes => .ok (splice remainingData start.toNat stop.toNat bytes, s)
    | .error (.err e _) => .error (.err e log)
    | .error (.panic m) => .error (.panic m)
  else .error (.panic "range out of bounds")

/-- `ceil(n / 8)`, as the three resizing instructions compute it. -/
def bitmapLen (n : UInt32) : UInt32 := if n % 8 = 0 then n / 8 else n / 8 + 1

/-- `u32::saturating_add`. -/
def saturatingAdd32 (a b : UInt32) : UInt32 := UInt32.ofNat (min (a.toNat + b.toNat) (2 ^ 32 - 1))

/-- Stores a distribution, grows it by a bitmap, and has the next account pay for what the new
length is short of rent exemption and for `relayLamports` on top. -/
def growDistribution (rt : Runtime) (distribution : ZeroCopyAccount Distribution)
    (updated : Distribution) (additionalDataLen : UInt32) (relayLamports : Nat) :
    RevenueProcessor Unit := do
  let key := distribution.info.key
  store key updated distribution.remainingData
  let acct ← account key
  let newDataLen := acct.data.dataLen + additionalDataLen.toNat
  resize key newDataLen
  let acct ← account key
  let additionalLamportsForResize := rt.rent.minimumBalance newDataLen - acct.lamports
  let payer ← tryNextEnumeratedAccount {}
  rt.invokeSigned [] fun signers =>
    System.transfer signers payer.key key
      (min (relayLamports + additionalLamportsForResize) (2 ^ 64 - 1))

/-! ## Taking the checks apart -/

section Spec

variable {β : Type} {rt : Runtime} {s : Exec AccountState} {r : β × Exec AccountState}

theorem authorized_bind_ok {authority : Authority} {config : ProgramConfig}
    {f : Unit → RevenueProcessor β} :
    (authority.tryNextAsAuthorizedAccount config >>= f) s = .ok r ↔
      ∃ m rest, s.iter = m :: rest ∧ m.isSigner = true ∧ m.key = authority.key config ∧
        f () (s.advance rest) = .ok r := by
  simp only [Authority.tryNextAsAuthorizedAccount, ↓bind_bind_ok, ↓tryNext_bind_ok, ↓require_bind_ok,
    NextAccountOptions.Accepts, Exec.info_key]
  simp

theorem verified_bind_ok {authority : Authority}
    {f : ZeroCopyAccount ProgramConfig → RevenueProcessor β} :
    (verifiedProgramAuthority authority >>= f) s = .ok r ↔
      ∃ m rest, s.iter = m :: rest ∧ ∃ c rem, view ID s.ledger m.key = some (c, rem) ∧
        ∃ m' rest', rest = m' :: rest' ∧ m'.isSigner = true ∧ m'.key = authority.key c ∧
          f ⟨s.info m, c, rem⟩ ((s.advance rest).advance rest') = .ok r := by
  simp only [verifiedProgramAuthority, ↓bind_bind_ok, ↓zeroCopy_bind_ok, ↓authorized_bind_ok,
    ↓pure_bind_ok, Exec.advance_iter]

theorem verifiedMut_bind_ok {authority : Authority}
    {f : ZeroCopyAccount ProgramConfig → RevenueProcessor β} :
    (verifiedProgramAuthorityMut authority >>= f) s = .ok r ↔
      ∃ m rest, s.iter = m :: rest ∧ m.isWritable = true ∧
        ∃ c rem, view ID s.ledger m.key = some (c, rem) ∧
        ∃ m' rest', rest = m' :: rest' ∧ m'.isSigner = true ∧ m'.key = authority.key c ∧
          f ⟨s.info m, c, rem⟩ ((s.advance rest).advance rest') = .ok r := by
  simp only [verifiedProgramAuthorityMut, ↓bind_bind_ok, ↓zeroCopyMut_bind_ok, ↓authorized_bind_ok,
    ↓pure_bind_ok, Exec.advance_iter]

/-- The migration and the admin change go through only with the upgrade authority's signature. -/
theorem upgradeAuthority_bind_ok {f : Unit → RevenueProcessor β} :
    (upgradeAuthority rt >>= f) s = .ok r ↔
      ∃ m rest, s.iter = m :: rest ∧ m.key = rt.programDataAddress ∧
        ∃ m' rest', rest = m' :: rest' ∧ m'.isSigner = true ∧
          (s.ledger m.key).data = .programData (some m'.key) ∧
          f () ((s.advance rest).advance rest') = .ok r := by
  simp only [upgradeAuthority, ↓bind_bind_ok, ↓tryNext_bind_ok, ↓require_bind_ok, ↓account_bind_ok,
    accepts_default, true_and, Exec.advance_iter, Exec.advance_ledger]
  constructor
  · rintro ⟨m, rest, hm, hk, m', rest', hm', ha, h⟩
    have hsig : m'.isSigner = true := ha.1 rfl
    rw [Exec.info_key] at hk
    cases hd : (s.ledger m.key).data with
    | programData authority =>
      cases authority with
      | none => simp only [Exec.info_key, hd, ↓fail_bind_ok] at h
      | some a =>
        rw [Exec.info_key, hd] at h
        obtain ⟨rfl, hf⟩ := require_bind_ok.1 h
        exact ⟨m, rest, hm, hk, m', rest', hm', hsig, hd, hf⟩
    | zeroed len => simp only [Exec.info_key, hd, ↓fail_bind_ok] at h
    | zeroCopy data rem => simp only [Exec.info_key, hd, ↓fail_bind_ok] at h
    | token a => simp only [Exec.info_key, hd, ↓fail_bind_ok] at h
    | other len => simp only [Exec.info_key, hd, ↓fail_bind_ok] at h
  · rintro ⟨m, rest, hm, hk, m', rest', hm', hsig, hd, h⟩
    refine ⟨m, rest, hm, hk, m', rest', hm', ?_, ?_⟩
    · simp [NextAccountOptions.Accepts, hsig]
    · rw [Exec.info_key, hd]
      exact require_bind_ok.2 ⟨rfl, h⟩

theorem mintInfo_bind_ok {f : Unit → RevenueProcessor β} :
    (tryNext2zMintInfo >>= f) s = .ok r ↔
      ∃ m rest, s.iter = m :: rest ∧ m.key = DOUBLEZERO_MINT_KEY ∧
        f () (s.advance rest) = .ok r := by
  simp only [tryNext2zMintInfo, ↓bind_bind_ok, ↓tryNext_bind_ok, ↓require_bind_ok, accepts_default,
    true_and, Exec.info_key]

theorem tokenProgram_bind_ok {f : Unit → RevenueProcessor β} :
    (tryNextTokenProgramInfo >>= f) s = .ok r ↔
      ∃ m rest, s.iter = m :: rest ∧ m.key = tokenProgramId ∧ f () (s.advance rest) = .ok r := by
  simp only [tryNextTokenProgramInfo, ↓bind_bind_ok, ↓tryNext_bind_ok, ↓require_bind_ok,
    accepts_default, true_and, Exec.info_key]

theorem tokenPda_bind_ok {tokenOwner : Pubkey} {name : String} {bump : Option UInt8}
    {f : AccountInfo × UInt8 → RevenueProcessor β} :
    (tryNext2zTokenPdaInfo rt tokenOwner name bump >>= f) s = .ok r ↔
      ∃ m rest, s.iter = m :: rest ∧ ∃ bump', rt.expected2zTokenPda tokenOwner bump =
        some (m.key, bump') ∧ f (s.info m, bump') (s.advance rest) = .ok r := by
  simp only [tryNext2zTokenPdaInfo, ↓bind_bind_ok, ↓tryNext_bind_ok, ↓okOr_bind_ok, ↓require_bind_ok,
    accepts_default, true_and, ↓pure_bind_ok, Exec.info_key]
  constructor
  · rintro ⟨m, rest, hm, ⟨k, bump'⟩, he, hk, h⟩
    exact ⟨m, rest, hm, bump', by rw [he, hk], h⟩
  · rintro ⟨m, rest, hm, bump', he, h⟩
    exact ⟨m, rest, hm, (m.key, bump'), he, rfl, h⟩

theorem tokenAmount_bind_ok {info : AccountInfo} {f : UInt64 → RevenueProcessor β} :
    (tryTokenAccountAmount info >>= f) s = .ok r ↔
      ∃ a, (s.ledger info.key).data = .token a ∧ f a.amount s = .ok r := by
  simp only [tryTokenAccountAmount, ↓bind_bind_ok, ↓account_bind_ok, ↓okOr_bind_ok, ↓pure_bind_ok]
  cases (s.ledger info.key).data <;> simp [unpackData]

theorem invokeSigned_bind_ok {seeds : List Seed} {bump : UInt8}
    {g : List Pubkey → RevenueLedger → Except ProgramError RevenueLedger}
    {f : Unit → RevenueProcessor β} :
    (rt.invokeSigned [(seeds, bump)] g >>= f) s = .ok r ↔
      ∃ key, rt.create seeds bump = some key ∧
        ∃ L, g (s.signers ++ [key]) s.ledger = .ok L ∧ f () { s with ledger := L } = .ok r := by
  have hcreate : rt.create seeds bump = rt.scheme.createProgramAddress seeds bump ID := rfl
  simp only [Runtime.invokeSigned, bind_eq_ok, invokeSigned_eq_ok, List.mapM_cons, List.mapM_nil,
    hcreate]
  cases hk : rt.scheme.createProgramAddress seeds bump ID with
  | none => simp
  | some key =>
    constructor
    · rintro ⟨a, s₁, ⟨derived, hder, L, hL, hp⟩, h⟩
      cases hder
      cases hp
      exact ⟨key, rfl, L, hL, h⟩
    · rintro ⟨_, hkey, L, hL, h⟩
      cases hkey
      exact ⟨_, _, ⟨_, rfl, L, hL, rfl⟩, h⟩

theorem invokeUnsigned_eq_ok {g : List Pubkey → RevenueLedger → Except ProgramError RevenueLedger}
    {r : Unit × Exec AccountState} :
    rt.invokeSigned [] g s = .ok r ↔
      ∃ L, g s.signers s.ledger = .ok L ∧ r = ((), { s with ledger := L }) := by
  simp only [Runtime.invokeSigned, invokeSigned_eq_ok, List.mapM_nil]
  constructor
  · rintro ⟨derived, hder, L, hL, rfl⟩
    cases hder
    exact ⟨L, by simpa using hL, rfl⟩
  · rintro ⟨L, hL, rfl⟩
    exact ⟨[], rfl, L, by simpa using hL, rfl⟩

theorem invokeForeign_bind_ok {env : Env} {seeds : List Seed} {bump : UInt8}
    {f : Option (Pubkey × List (BitVec 8)) → RevenueProcessor β} :
    (rt.invokeForeign env seeds bump >>= f) s = .ok r ↔
      ∃ key, rt.create seeds bump = some key ∧ ∃ L returnData,
        env.cpi s.ledger = .ok (L, returnData) ∧ f returnData { s with ledger := L } = .ok r := by
  simp only [bind_eq_ok, Runtime.invokeForeign]
  cases hk : rt.create seeds bump with
  | none => simp
  | some key =>
    cases hcpi : env.cpi s.ledger with
    | error e => simp
    | ok p =>
      obtain ⟨L, returnData⟩ := p
      simp

end Spec

end DoubleZero.Revenue
