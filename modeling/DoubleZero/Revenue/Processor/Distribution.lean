import DoubleZero.Revenue.Processor.Accounts

/-!
# The life of a distribution

The instructions of `processor.rs` that create a distribution, configure and finalize its debt and
rewards, collect from integrations and distribute rewards.
-/

namespace DoubleZero.Revenue

open DoubleZero.Lib DoubleZero.Solana

variable (rt : Runtime) (env : Env)

/-! ## Creation -/

/-- `i64` to `u32`. -/
def toU32 (n : Int) : Option UInt32 :=
  if 0 ≤ n ∧ n < 2 ^ 32 then some (UInt32.ofNat n.toNat) else none

/-- Moves whatever the journal's ATA holds into the new distribution's token account. -/
def movePrepaid2z (journal : ZeroCopyAccount Journal) (journalAta tokenPda : AccountInfo) :
    RevenueProcessor UInt64 := do
  let acct ← account journalAta.key
  match unpackData acct.data with
  | some ata =>
    if ata.amount ≠ 0 then do
      rt.invokeSigned [(Journal.seeds, journal.data.bumpSeed)] fun signers =>
        Token.transfer signers journalAta.key tokenPda.key journal.info.key ata.amount
      return ata.amount
    else pure 0
  | none => pure 0

def tryInitializeDistribution : RevenueProcessor Unit := do
  let programConfig ← verifiedProgramAuthorityMut .debtAccountant
  let config := programConfig.data
  config.tryRequireUnpaused
  let initializationGracePeriodSeconds ← okOr
    config.checkedDistributionInitializationGracePeriodSeconds .invalidAccountData
    "Initialization grace period has not been configured yet"
  let now := env.unixTimestamp
  let initializationAllowedTimestamp ← unwrap!
    (checkedAdd32 config.lastInitializedDistributionTimestamp initializationGracePeriodSeconds) ""
  require ((initializationAllowedTimestamp.toNat : Int) ≤ now) .invalidAccountData
    s!"Cannot initialize a new distribution until {initializationAllowedTimestamp.toNat - now} seconds"
  let lastInitializedDistributionTimestamp ← unwrap! (toU32 now) ""
  let calculationGracePeriodSeconds ← okOr config.checkedCalculationGracePeriodSeconds
    .invalidAccountData "Calculation grace period has not been configured yet"
  let (communityBurnRate, burnRateParameters) ← okOr
    config.distributionParameters.communityBurnRateParameters.checkedCompute .invalidAccountData
    "Community burn rate parameters are misconfigured"
  let relayLamports ← okOr config.checkedDistributeRewardsRelayLamports .invalidAccountData
    "Distribute rewards relay lamports not configured"
  let payer ← tryNextEnumeratedAccount {}
  let newDistribution ← tryNextEnumeratedAccount {}
  let dzEpoch := config.nextCompletedDzEpoch
  let (expectedKey, bump) := rt.find (Distribution.seeds dzEpoch)
  require (newDistribution.key = expectedKey) .invalidSeeds
    s!"Invalid seeds for distribution (account {newDistribution.index})"
  store programConfig.info.key { config with
      lastInitializedDistributionTimestamp := lastInitializedDistributionTimestamp
      distributionParameters := { config.distributionParameters with
        communityBurnRateParameters := burnRateParameters }
      nextCompletedDzEpoch := dzEpoch.saturatingAddDuration 1 } programConfig.remainingData
  rt.createOwned payer newDistribution (Distribution.seeds dzEpoch) bump
    (dataEnd AccountState Distribution) none
  let (tokenPda, tokenBump) ← tryNext2zTokenPdaInfo rt expectedKey "distribution's" none
  tryNext2zMintInfo
  tryNextTokenProgramInfo
  rt.create2zToken payer tokenPda expectedKey tokenBump
  let remainingData ← tryInitialize Distribution newDistribution
  let calculationAllowedTimestamp ← unwrap! (toU32 (now + calculationGracePeriodSeconds.toNat)) ""
  let journal ← tryNextZeroCopyMut Journal ID
  let _journalTokenPda ← tryNext2zTokenPdaInfo rt journal.info.key "journal's"
    (some journal.data.token2zPdaBumpSeed)
  let journalAta ← tryNextEnumeratedAccount {}
  require (journalAta.key =
      rt.scheme.getAssociatedTokenAddress journal.info.key DOUBLEZERO_MINT_KEY)
    .invalidAccountData
    s!"Expected ATA for journal {journal.info.key} (account {journalAta.index})"
  let collectedPrepaid2zPayments ← movePrepaid2z rt journal journalAta tokenPda
  store newDistribution.key { (default : Distribution) with
      dzEpoch := dzEpoch
      bumpSeed := bump
      token2zPdaBumpSeed := tokenBump
      communityBurnRate := communityBurnRate
      solanaValidatorFeeParameters := config.distributionParameters.solanaValidatorFeeParameters
      distributeRewardsRelayLamports := relayLamports
      calculationAllowedTimestamp := calculationAllowedTimestamp
      integrationsCountSnapshot := journal.data.integrationsCount
      collectedPrepaid2zPayments := collectedPrepaid2zPayments } remainingData

/-! ## Debt calculation -/

def tryConfigureDistributionDebt (totalValidators : UInt32) (totalDebt : UInt64)
    (merkleRoot : Hash) : RevenueProcessor Unit := do
  let programConfig ← verifiedProgramAuthority .debtAccountant
  programConfig.data.tryRequireUnpaused
  let distribution ← tryNextZeroCopyMut Distribution ID
  distribution.data.tryRequireUnfinalizedDebtCalculation
  distribution.data.tryRequireCalculationAllowed env
  require (distribution.data.solanaValidatorFeeParameters ≠ default) .invalidAccountData
    "Configuring distribution debt disallowed"
  store distribution.info.key { distribution.data with
      totalSolanaValidators := totalValidators
      totalSolanaValidatorDebt := totalDebt
      solanaValidatorDebtMerkleRoot := merkleRoot } distribution.remainingData

def tryFinalizeDistributionDebt : RevenueProcessor Unit := do
  let programConfig ← verifiedProgramAuthority .debtAccountant
  programConfig.data.tryRequireUnpaused
  let distribution ← tryNextZeroCopyMut Distribution ID
  distribution.data.tryRequireUnfinalizedDebtCalculation
  distribution.data.tryRequireCalculationAllowed env
  let d := distribution.data.setIsDebtCalculationFinalized true
  let totalSolDebt ← unwrap! d.checkedTotalSolDebt ""
  -- If there is no debt accounted for, we can return early.
  if totalSolDebt = 0 then store distribution.info.key d distribution.remainingData
  else
    let additionalDataLen := bitmapLen d.totalSolanaValidators
    let startIndex := UInt32.ofNat distribution.remainingData.length
    growDistribution rt distribution { d with
        processedSolanaValidatorDebtStartIndex := startIndex
        processedSolanaValidatorDebtEndIndex := saturatingAdd32 startIndex additionalDataLen }
      additionalDataLen 0

/-! ## Rewards calculation -/

def tryConfigureDistributionRewards (totalContributors : UInt32) (merkleRoot : Hash) :
    RevenueProcessor Unit := do
  let programConfig ← verifiedProgramAuthority .rewardsAccountant
  programConfig.data.tryRequireUnpaused
  let distribution ← tryNextZeroCopyMut Distribution ID
  distribution.data.tryRequireUnfinalizedRewardsCalculation
  distribution.data.tryRequireCalculationAllowed env
  store distribution.info.key { distribution.data with
      totalContributors := totalContributors
      rewardsMerkleRoot := merkleRoot } distribution.remainingData

def trySetDistributionEconomicBurnRate (burnRateValue : UInt32) : RevenueProcessor Unit := do
  let burnRate : BurnRate ← okOr (UnitShare.new burnRateValue.toNat) .invalidInstructionData
    "Invalid burn rate value"
  let programConfig ← verifiedProgramAuthority .rewardsAccountant
  programConfig.data.tryRequireUnpaused
  let distribution ← tryNextZeroCopyMut Distribution ID
  distribution.data.tryRequireUnfinalizedRewardsCalculation
  store distribution.info.key { distribution.data with economicBurnRate := burnRate }
    distribution.remainingData

/-- The guard on a null rewards root: no SOL debt, no collected 2Z, and no integration pending. -/
def Distribution.tryRequireNothingOwed (d : Distribution) : RevenueProcessor Unit := do
  let totalSolDebt ← unwrap! d.checkedTotalSolDebt ""
  require (totalSolDebt = 0) .invalidAccountData "Rewards root cannot be null with calculated debt"
  let totalCollected ← unwrap! d.totalCollected2zTokens ""
  require (totalCollected = 0) .invalidAccountData "Rewards root cannot be null with collected 2Z"
  require (d.areAllIntegrationsCollected = true) .invalidAccountData
    "Rewards root cannot be null with uncollected integrations"

def tryFinalizeDistributionRewards : RevenueProcessor Unit := do
  let programConfig ← tryNextZeroCopy ProgramConfig ID
  programConfig.data.tryRequireUnpaused
  let distribution ← tryNextZeroCopyMut Distribution ID
  distribution.data.tryRequireUnfinalizedRewardsCalculation
  distribution.data.tryRequireCalculationAllowed env
  let d := distribution.data.setIsRewardsCalculationFinalized true
  d.tryRequireFinalizedDebtCalculation "Distribution debt calculation is not finalized yet"
  if d.rewardsMerkleRoot = default then d.tryRequireNothingOwed else pure ()
  let duration ← okOr programConfig.data.checkedMinimumEpochDurationToFinalizeRewards
    .invalidAccountData "Minimum epoch duration to finalize rewards is misconfigured"
  let minimumDzEpochToFinalize := d.dzEpoch.saturatingAddDuration duration
  require (minimumDzEpochToFinalize ≤ programConfig.data.nextCompletedDzEpoch) .invalidAccountData
    s!"DZ epoch must be at least {minimumDzEpochToFinalize} (currently {programConfig.data.nextCompletedDzEpoch}) to finalize rewards"
  let additionalDataLen := bitmapLen d.totalContributors
  let startIndex := UInt32.ofNat distribution.remainingData.length
  growDistribution rt distribution { d with
      processedRewardsStartIndex := startIndex
      processedRewardsEndIndex := saturatingAdd32 startIndex additionalDataLen }
    additionalDataLen (d.distributeRewardsRelayLamports.toNat * d.totalContributors.toNat)

/-! ## Integrations -/

def tryCollectIntegrationRewards : RevenueProcessor Unit := do
  let programConfig ← tryNextZeroCopy ProgramConfig ID
  programConfig.data.tryRequireUnpaused
  let distribution ← tryNextZeroCopyMut Distribution ID
  let d := distribution.data
  require (d.areAllIntegrationsCollected = false) .invalidAccountData
    "All integrations already collected for this epoch"
  let rewardsIntegration ← tryNextZeroCopy RewardsIntegration ID
  let registrationIndex := rewardsIntegration.data.registrationIndex
  require (registrationIndex < d.integrationsCountSnapshot) .invalidAccountData
    s!"Integration registration index {registrationIndex} is at or beyond this distribution's snapshot count of {d.integrationsCountSnapshot}"
  let alreadyCollected ← okOr (d.checkedIsIntegrationCollected registrationIndex)
    .invalidAccountData
    s!"Integration registration index {registrationIndex} exceeds bitmap capacity"
  require (alreadyCollected = false) .invalidAccountData
    s!"Integration {rewardsIntegration.data.programId} already collected this epoch"
  let _integrationDistribution ← tryNextEnumeratedAccount {}
  let _integration2zBucket ← tryNextEnumeratedAccount {}
  let (destination, _) ← tryNext2zTokenPdaInfo rt distribution.info.key "distribution's"
    (some d.token2zPdaBumpSeed)
  let balanceBefore ← tryTokenAccountAmount destination
  let _returnData ← rt.invokeForeign env (Distribution.seeds d.dzEpoch) d.bumpSeed
  let balanceAfter ← tryTokenAccountAmount destination
  let collectedAmount := balanceAfter - balanceBefore
  let collected2zFromIntegrations ← unwrap!
    (checkedAdd d.collected2zFromIntegrations collectedAmount)
    "Distribution.collected_2z_from_integrations overflowed"
  let integrationsCollectedCount ← unwrap! (checkedAdd16 d.integrationsCollectedCount 1)
    "Distribution.integrations_collected_count overflowed"
  let d ← okOr (Distribution.checkedSetIntegrationCollected { d with
      collected2zFromIntegrations := collected2zFromIntegrations
      integrationsCollectedCount := integrationsCollectedCount } registrationIndex)
    .invalidAccountData
    s!"Integration registration index {registrationIndex} exceeds bitmap capacity"
  store distribution.info.key d distribution.remainingData

/-! ## Distributing rewards -/

/-- The loop over the active recipients; returns the total transferred, wrapping as the source. -/
def transferToRecipients (tokenPda distributionKey : Pubkey) (seeds : List Seed) (bump : UInt8)
    (remainingShareAmount : UInt64) : List RecipientShare → UInt64 → RevenueProcessor UInt64
  | [], total => pure total
  | recipient :: recipients, total => do
    let ata ← tryNextEnumeratedAccount {}
    let ataKey := rt.scheme.getAssociatedTokenAddress recipient.recipientKey DOUBLEZERO_MINT_KEY
    require (ata.key = ataKey) .invalidAccountData
      s!"Expected ATA for recipient {recipient.recipientKey} (account {ata.index})"
    let recipientShareAmount := recipient.share.mulScalar remainingShareAmount
    rt.invokeSigned [(seeds, bump)] fun signers =>
      Token.transfer signers tokenPda ataKey distributionKey recipientShareAmount
    transferToRecipients tokenPda distributionKey seeds bump remainingShareAmount recipients
      (total + recipientShareAmount)

def tryDistributeRewards (unitShare economicBurnRate : UInt32) (proof : MerkleProof) :
    RevenueProcessor Unit := do
  let leafIndex ← tryLeafIndex proof
  let programConfig ← tryNextZeroCopy ProgramConfig ID
  programConfig.data.tryRequireUnpaused
  let distribution ← tryNextZeroCopyMut Distribution ID
  let d := distribution.data
  require (d.areAllRewardsDistributed = false) .invalidAccountData
    "All rewards have already been distributed"
  require (d.hasSwept2zTokens = true) .invalidAccountData "Distribution has not swept 2Z tokens"
  require (d.areAllIntegrationsCollected = true) .invalidAccountData
    s!"Not all integrations have been collected ({d.integrationsCollectedCount} of {d.integrationsCountSnapshot})"
  let remainingData ← processLeaf distribution.remainingData d.processedRewardsStartIndex
    d.processedRewardsEndIndex leafIndex "Rewards already distributed"
  let contributorRewards ← tryNextZeroCopy ContributorRewards ID
  let rewardShare ← okOr (RewardShare.new contributorRewards.data.serviceKey unitShare false
    economicBurnRate) .invalidInstructionData s!"  economic_burn_rate: {economicBurnRate}"
  require (rt.rootFromPodLeaf proof (.rewardShare rewardShare) = d.rewardsMerkleRoot)
    .invalidInstructionData
    s!"Invalid computed merkle root: {rt.rootFromPodLeaf proof (.rewardShare rewardShare)}"
  let (tokenPda, _) ← tryNext2zTokenPdaInfo rt distribution.info.key "distribution's"
    (some d.token2zPdaBumpSeed)
  tryNext2zMintInfo
  let relayer ← tryNextEnumeratedAccount { mustBeWritable := true }
  tryNextTokenProgramInfo
  let (burnShareAmount, remainingShareAmount) ← unwrap! (d.split2zAmount rewardShare) ""
  let recipients := contributorRewards.data.recipientShares.activeIter
  let totalTransferred ← transferToRecipients rt tokenPda.key distribution.info.key
    (Distribution.seeds d.dzEpoch) d.bumpSeed remainingShareAmount recipients 0
  require (recipients ≠ []) .invalidAccountData "Contributor recipients must be configured"
  -- Any rounding remainder is burned as well.
  let burnShareAmount := burnShareAmount + (remainingShareAmount - totalTransferred)
  store distribution.info.key { d with
      distributed2zAmount := d.distributed2zAmount + totalTransferred
      burned2zAmount := d.burned2zAmount + burnShareAmount
      distributedRewardsCount := d.distributedRewardsCount + 1 } remainingData
  rt.invokeSigned [(Distribution.seeds d.dzEpoch, d.bumpSeed)] fun signers =>
    Token.burn signers tokenPda.key DOUBLEZERO_MINT_KEY distribution.info.key burnShareAmount
  -- Finally, pay the relayer for invoking this instruction.
  moveLamports distribution.info.key relayer.key d.distributeRewardsRelayLamports.toNat

end DoubleZero.Revenue
