import DoubleZero.Revenue.Processor.Accounts
import DoubleZero.Revenue.Instruction

/-!
# Setting up and configuring the program

The instructions of `processor.rs` that create accounts and change settings: the program config, the
journal, the swap destination, contributors, validator deposits and integrations, and the migration.
-/

namespace DoubleZero.Revenue

open DoubleZero.Lib DoubleZero.Solana

variable (rt : Runtime)

def tryInitializeProgram : RevenueProcessor Unit := do
  let payer ← tryNextEnumeratedAccount {}
  let newProgramConfig ← tryNextEnumeratedAccount {}
  let (expectedKey, bump) := rt.find ProgramConfig.seeds
  require (newProgramConfig.key = expectedKey) .invalidSeeds
    s!"Invalid seeds for program config (account {newProgramConfig.index})"
  -- The maximum data length, in case other fields are added in the future.
  rt.createOwned payer newProgramConfig ProgramConfig.seeds bump MAX_PERMITTED_DATA_INCREASE none
  let (newReserve2z, reserve2zBump) ← tryNext2zTokenPdaInfo rt expectedKey "reserve" none
  tryNext2zMintInfo
  tryNextTokenProgramInfo
  rt.create2zToken payer newReserve2z expectedKey reserve2zBump
  let remainingData ← tryInitialize ProgramConfig newProgramConfig
  let programConfig : ProgramConfig :=
    { (default : ProgramConfig) with bumpSeed := bump, reserve2zBumpSeed := reserve2zBump }
  store newProgramConfig.key (programConfig.setIsPaused true) remainingData

def trySetAdmin (adminKey : Pubkey) : RevenueProcessor Unit := do
  upgradeAuthority rt
  let programConfig ← tryNextZeroCopyMut ProgramConfig ID
  store programConfig.info.key { programConfig.data with adminKey := adminKey }
    programConfig.remainingData

/-- A rate or fee given as a number, as `ok_or_else` rejects it. -/
def tryUnitShare {max : Nat} (value : Nat) (log : String) : RevenueProcessor (UnitShare max) :=
  okOr (UnitShare.new value) .invalidInstructionData log

/-- The config that a setting leads to. -/
def ProgramConfig.tryConfigure (config : ProgramConfig) :
    ProgramConfiguration → RevenueProcessor ProgramConfig
  | .flag (.isPaused shouldPause) => pure (config.setIsPaused shouldPause)
  | .debtAccountant key => pure { config with debtAccountantKey := key }
  | .rewardsAccountant key => pure { config with rewardsAccountantKey := key }
  | .contributorManager key => pure { config with contributorManagerKey := key }
  | .placeholderKey _ => fail .invalidInstructionData ""
  | .sol2zSwapProgram programId => pure { config with
      sol2zSwapProgramId := programId
      withdrawSolAuthorityBumpSeed := (rt.findWithdrawSolAuthorityAddress programId).2 }
  | .solanaValidatorFeeParameters base priority inflation jito fixedSolAmount _ => do
    let base ← tryUnitShare base.toNat
      s!"Invalid Solana validator base block rewards percentage fee parameter: {base}"
    let priority ← tryUnitShare priority.toNat
      s!"Invalid Solana validator priority block rewards percentage fee parameter: {priority}"
    let inflation ← tryUnitShare inflation.toNat
      s!"Invalid Solana validator inflation rewards percentage fee parameter: {inflation}"
    let jito ← tryUnitShare jito.toNat
      s!"Invalid Solana validator Jito tips percentage fee parameter: {jito}"
    return { config with distributionParameters := { config.distributionParameters with
      solanaValidatorFeeParameters := ⟨base, priority, inflation, jito, fixedSolAmount⟩ } }
  | .calculationGracePeriodMinutes minutes => do
    require (minutes ≠ 0) .invalidInstructionData "Calculation grace period is zero"
    require (minutes.toNat ≤ 24 * 60) .invalidInstructionData
      "Calculation grace period exceeds 24 hours"
    return { config with distributionParameters := { config.distributionParameters with
      calculationGracePeriodMinutes := minutes } }
  | .communityBurnRateParameters limit dzEpochsToIncreasing dzEpochsToLimit initialRate => do
    let limit : BurnRate ← tryUnitShare limit.toNat s!"Invalid community burn rate limit: {limit}"
    match initialRate with
    | some initialRate => do
      require (config.nextCompletedDzEpoch = 0) .invalidInstructionData
        "Cannot initialize community burn rate parameters if not zero DZ epoch"
      let initialRate : BurnRate ← tryUnitShare initialRate.toNat
        s!"Invalid initial community burn rate: {initialRate}"
      let params ← okOr (CommunityBurnRateParameters.new initialRate limit dzEpochsToIncreasing
        dzEpochsToLimit) .invalidInstructionData
        s!"  dz_epochs_to_limit: {dzEpochsToLimit}"
      return { config with distributionParameters := { config.distributionParameters with
        communityBurnRateParameters := params } }
    | none => do
      let params := config.distributionParameters.communityBurnRateParameters
      match params.checkedUpdate limit dzEpochsToIncreasing dzEpochsToLimit with
      | some params => pure { config with distributionParameters :=
          { config.distributionParameters with communityBurnRateParameters := params } }
      | none => do
        -- The error path logs the cached rate and panics when there is none.
        let _nextBurnRate ← unwrap! params.nextBurnRate
          "called `Option::unwrap()` on a `None` value"
        fail .invalidInstructionData s!"  new_dz_epochs_to_limit: {dzEpochsToLimit}"
  | .placeholderRelayLamports _ => fail .invalidInstructionData ""
  | .distributeRewardsRelayLamports lamports => do
    require (RelayParameters.MIN_LAMPORTS ≤ lamports) .invalidInstructionData
      "Relay lamports must be greater than the cost of a transaction signature"
    return { config with relayParameters := ⟨lamports⟩ }
  | .minimumEpochDurationToFinalizeRewards duration => do
    require (duration ≠ 0) .invalidInstructionData
      "Minimum epoch duration to finalize rewards is zero"
    return { config with distributionParameters := { config.distributionParameters with
      minimumEpochDurationToFinalizeRewards := duration } }
  | .distributionInitializationGracePeriodMinutes minutes => do
    require (minutes ≠ 0) .invalidInstructionData "Distribution initialization grace period is zero"
    require (minutes.toNat ≤ 48 * 60) .invalidInstructionData
      "Distribution initialization grace period exceeds 48 hours"
    return { config with distributionParameters := { config.distributionParameters with
      initializationGracePeriodMinutes := minutes } }
  | .featureActivation .solanaValidatorDebtWriteOff activationEpoch => do
    require (activationEpoch ≠ 0) .invalidInstructionData "Cannot activate feature at epoch zero"
    return { config with debtWriteOffFeatureActivationEpoch := activationEpoch }

def tryConfigureProgram (setting : ProgramConfiguration) : RevenueProcessor Unit := do
  let programConfig ← verifiedProgramAuthorityMut .admin
  let updated ← programConfig.data.tryConfigure rt setting
  store programConfig.info.key updated programConfig.remainingData

def tryInitializeJournal : RevenueProcessor Unit := do
  let payer ← tryNextEnumeratedAccount {}
  let newJournal ← tryNextEnumeratedAccount {}
  let (expectedKey, bump) := rt.find Journal.seeds
  require (newJournal.key = expectedKey) .invalidSeeds
    s!"Invalid seeds for journal (account {newJournal.index})"
  rt.createOwned payer newJournal Journal.seeds bump MAX_PERMITTED_DATA_INCREASE none
  let (newToken, tokenBump) ← tryNext2zTokenPdaInfo rt expectedKey "journal's" none
  tryNext2zMintInfo
  tryNextTokenProgramInfo
  rt.create2zToken payer newToken expectedKey tokenBump
  let remainingData ← tryInitialize Journal newJournal
  store newJournal.key { (default : Journal) with bumpSeed := bump, token2zPdaBumpSeed := tokenBump }
    remainingData

def tryInitializeContributorRewards (serviceKey : Pubkey) : RevenueProcessor Unit := do
  let payer ← tryNextEnumeratedAccount {}
  let newContributorRewards ← tryNextEnumeratedAccount {}
  let (expectedKey, bump) := rt.find (ContributorRewards.seeds serviceKey)
  require (newContributorRewards.key = expectedKey) .invalidSeeds
    s!"Invalid seeds for contributor rewards (account {newContributorRewards.index})"
  rt.createOwned payer newContributorRewards (ContributorRewards.seeds serviceKey) bump
    (dataEnd AccountState ContributorRewards) none
  let remainingData ← tryInitialize ContributorRewards newContributorRewards
  store newContributorRewards.key { (default : ContributorRewards) with serviceKey := serviceKey }
    remainingData

def trySetRewardsManager (rewardsManagerKey : Pubkey) : RevenueProcessor Unit := do
  let programConfig ← verifiedProgramAuthority .contributorManager
  programConfig.data.tryRequireUnpaused
  let contributorRewards ← tryNextZeroCopyMut ContributorRewards ID
  require (contributorRewards.data.isSetRewardsManagerBlocked = false) .invalidAccountData "Blocked"
  store contributorRewards.info.key
    { contributorRewards.data with rewardsManagerKey := rewardsManagerKey }
    contributorRewards.remainingData

/-- The contributor rewards that a setting leads to. -/
def ContributorRewards.tryConfigure (c : ContributorRewards) :
    ContributorRewardsConfiguration → RevenueProcessor ContributorRewards
  | .recipients recipients => do
    let recipientShares ← okOr (RecipientShares.new recipients) .invalidAccountData
      "Invalid recipients"
    return { c with recipientShares := recipientShares }
  | .isSetRewardsManagerBlocked shouldBlock => pure (c.setIsSetRewardsManagerBlocked shouldBlock)

def tryConfigureContributorRewards (setting : ContributorRewardsConfiguration) :
    RevenueProcessor Unit := do
  let programConfig ← tryNextZeroCopy ProgramConfig ID
  programConfig.data.tryRequireUnpaused
  let contributorRewards ← tryNextZeroCopyMut ContributorRewards ID
  let rewardsManager ← tryNextEnumeratedAccount { mustBeSigner := true }
  require (rewardsManager.key = contributorRewards.data.rewardsManagerKey) .invalidAccountData
    s!"Invalid rewards manager (account {rewardsManager.index})"
  let updated ← contributorRewards.data.tryConfigure setting
  store contributorRewards.info.key updated contributorRewards.remainingData

def tryInitializeSolanaValidatorDeposit (nodeId : Pubkey) : RevenueProcessor Unit := do
  let newDeposit ← tryNextEnumeratedAccount {}
  let (expectedKey, bump) := rt.find (SolanaValidatorDeposit.seeds nodeId)
  require (newDeposit.key = expectedKey) .invalidAccountData
    s!"Invalid address for Solana validator deposit (account {newDeposit.index})"
  let payer ← tryNextEnumeratedAccount {}
  -- Lamports sent to the address before its creation stay available above the rent exemption.
  let acct ← account newDeposit.key
  rt.createOwned payer newDeposit (SolanaValidatorDeposit.seeds nodeId) bump
    (dataEnd AccountState SolanaValidatorDeposit) (some acct.lamports)
  let remainingData ← tryInitialize SolanaValidatorDeposit newDeposit
  store newDeposit.key { (default : SolanaValidatorDeposit) with nodeId := nodeId } remainingData

def tryInitializeRewardsIntegration : RevenueProcessor Unit := do
  let _programConfig ← verifiedProgramAuthority .admin
  let integrationProgram ← tryNextEnumeratedAccount { mustBeExecutable := true }
  let integrationProgramId := integrationProgram.key
  let payer ← tryNextEnumeratedAccount {}
  let newIntegration ← tryNextEnumeratedAccount {}
  let (expectedKey, bump) := rt.find (RewardsIntegration.seeds integrationProgramId)
  require (newIntegration.key = expectedKey) .invalidSeeds
    s!"Invalid seeds for rewards integration (account {newIntegration.index})"
  rt.createOwned payer newIntegration (RewardsIntegration.seeds integrationProgramId) bump
    (dataEnd AccountState RewardsIntegration) none
  let remainingData ← tryInitialize RewardsIntegration newIntegration
  let journal ← tryNextZeroCopyMut Journal ID
  let registrationIndex := journal.data.integrationsCount
  let integrationsCount ← unwrap! (checkedAdd16 journal.data.integrationsCount 1)
    "Journal.integrations_count overflowed"
  store newIntegration.key (⟨integrationProgramId, bump, registrationIndex⟩ : RewardsIntegration)
    remainingData
  store journal.info.key { journal.data with integrationsCount := integrationsCount }
    journal.remainingData

def tryInitializeSwapDestination : RevenueProcessor Unit := do
  let programConfig ← tryNextZeroCopyMut ProgramConfig ID
  let payer ← tryNextEnumeratedAccount {}
  let swapAuthority ← tryNextEnumeratedAccount {}
  let (expectedKey, swapAuthorityBump) := rt.findSwapAuthorityAddress
  require (swapAuthority.key = expectedKey) .invalidSeeds
    s!"Invalid seeds for swap authority (account {swapAuthority.index})"
  let (newSwapDestination, bump) ← tryNext2zTokenPdaInfo rt expectedKey "swap destination" none
  tryNext2zMintInfo
  tryNextTokenProgramInfo
  store programConfig.info.key { programConfig.data with
      swapAuthorityBumpSeed := swapAuthorityBump
      swapDestination2zBumpSeed := bump } programConfig.remainingData
  rt.create2zToken payer newSwapDestination expectedKey bump

/-- `MIN_DZ_EPOCH`: the earliest epoch the migration may touch. -/
def MIN_DZ_EPOCH : DoubleZeroEpoch := 140

/-- One turn of the loop of `try_migrate_program_accounts`. -/
def migrateDistribution (integrationsCountSnapshot : UInt16) : RevenueProcessor Unit := do
  let distribution ← tryNextZeroCopyMut Distribution ID
  require (MIN_DZ_EPOCH ≤ distribution.data.dzEpoch) .invalidAccountData
    s!"DZ epoch {distribution.data.dzEpoch} is below migration floor {MIN_DZ_EPOCH}"
  store distribution.info.key
    { distribution.data with integrationsCountSnapshot := integrationsCountSnapshot }
    distribution.remainingData

/-- The loop, once for each account left on the iterator. -/
def migrateDistributions (integrationsCountSnapshot : UInt16) : Nat → RevenueProcessor Unit
  | 0 => pure ()
  | n + 1 => do
    migrateDistribution integrationsCountSnapshot
    migrateDistributions integrationsCountSnapshot n

/-- How many accounts are left on the iterator. -/
def accountsLeft : RevenueProcessor Nat := fun s => .ok (s.iter.length, s)

def tryMigrateProgramAccounts : RevenueProcessor Unit := do
  upgradeAuthority rt
  let journal ← tryNextZeroCopy Journal ID
  let left ← accountsLeft
  migrateDistributions journal.data.integrationsCount left

def tryVerifyDistributionMerkleRoot (kind : DistributionMerkleRootKind) (proof : MerkleProof) :
    RevenueProcessor Unit := do
  let _leafIndex ← tryLeafIndex proof
  let distribution ← tryNextZeroCopy Distribution ID
  match kind with
  | .solanaValidatorDebt debt =>
    let computed := rt.rootFromPodLeaf proof (.solanaValidatorDebt debt)
    require (computed = distribution.data.solanaValidatorDebtMerkleRoot) .invalidInstructionData
      s!"Invalid computed merkle root: {computed}"
  | .rewardShare reward => do
    let _unitShare ← okOr reward.checkedUnitShare .invalidInstructionData
      s!"Invalid unit share {reward.unitShare}"
    let _economicBurnRate ← okOr reward.checkedEconomicBurnRate .invalidInstructionData
      s!"Invalid economic burn rate {reward.economicBurnRate}"
    let computed := rt.rootFromPodLeaf proof (.rewardShare reward)
    require (computed = distribution.data.rewardsMerkleRoot) .invalidInstructionData
      s!"Invalid computed merkle root: {computed}"

end DoubleZero.Revenue
