import DoubleZero.Revenue.Types

/-!
# Instruction data

`instruction/mod.rs`: the values that instruction data decodes to. The selectors and the encoding
are in `Wire`.
-/

namespace DoubleZero.Revenue

open DoubleZero.Solana

/-- `ProgramFlagConfiguration`. -/
inductive ProgramFlagConfiguration where
  | isPaused (shouldPause : Bool)
  deriving DecidableEq, Repr

/-- `ProgramFeatureConfiguration`. -/
inductive ProgramFeatureConfiguration where
  | solanaValidatorDebtWriteOff
  deriving DecidableEq, Repr

/-- `ProgramConfiguration`. -/
inductive ProgramConfiguration where
  | flag (configuration : ProgramFlagConfiguration)
  | debtAccountant (key : Pubkey)
  | rewardsAccountant (key : Pubkey)
  | contributorManager (key : Pubkey)
  | placeholderKey (key : Pubkey)
  | sol2zSwapProgram (programId : Pubkey)
  | solanaValidatorFeeParameters (baseBlockRewardsPct priorityBlockRewardsPct inflationRewardsPct
      jitoTipsPct : UInt16) (fixedSolAmount : UInt32) (unused : BitVec 224)
  | calculationGracePeriodMinutes (minutes : UInt16)
  | communityBurnRateParameters (limit : UInt32)
      (dzEpochsToIncreasing dzEpochsToLimit : EpochDuration) (initialRate : Option UInt32)
  | placeholderRelayLamports (lamports : UInt32)
  | distributeRewardsRelayLamports (lamports : UInt32)
  | minimumEpochDurationToFinalizeRewards (duration : UInt8)
  | distributionInitializationGracePeriodMinutes (minutes : UInt16)
  | featureActivation (feature : ProgramFeatureConfiguration) (activationEpoch : DoubleZeroEpoch)
  deriving DecidableEq, Repr

/-- `ContributorRewardsConfiguration`. -/
inductive ContributorRewardsConfiguration where
  | recipients (recipients : List (Pubkey × UInt16))
  | isSetRewardsManagerBlocked (shouldBlock : Bool)
  deriving DecidableEq, Repr

/-- `DistributionMerkleRootKind`. -/
inductive DistributionMerkleRootKind where
  | solanaValidatorDebt (debt : SolanaValidatorDebt)
  | rewardShare (share : RewardShare)
  deriving DecidableEq, Repr

/-- `RevenueDistributionInstructionData`. -/
inductive InstructionData where
  | initializeProgram
  | migrateProgramAccounts
  | setAdmin (adminKey : Pubkey)
  | configureProgram (setting : ProgramConfiguration)
  | initializeJournal
  | initializeDistribution
  | configureDistributionDebt (totalValidators : UInt32) (totalDebt : UInt64) (merkleRoot : Hash)
  | finalizeDistributionDebt
  | configureDistributionRewards (totalContributors : UInt32) (merkleRoot : Hash)
  | finalizeDistributionRewards
  | distributeRewards (unitShare economicBurnRate : UInt32) (proof : MerkleProof)
  | initializeContributorRewards (serviceKey : Pubkey)
  | setRewardsManager (rewardsManagerKey : Pubkey)
  | configureContributorRewards (setting : ContributorRewardsConfiguration)
  | verifyDistributionMerkleRoot (kind : DistributionMerkleRootKind) (proof : MerkleProof)
  | initializeSolanaValidatorDeposit (nodeId : Pubkey)
  | paySolanaValidatorDebt (amount : UInt64) (proof : MerkleProof)
  | enableSolanaValidatorDebtWriteOff
  | writeOffSolanaValidatorDebt (amount : UInt64) (proof : MerkleProof)
  | initializeSwapDestination
  | sweepDistributionTokens
  | withdrawSol (amount : UInt64)
  | setDistributionEconomicBurnRate (burnRate : UInt32)
  | withdrawSolanaValidatorDeposit
  | initializeRewardsIntegration
  | collectIntegrationRewards
  deriving DecidableEq, Repr

end DoubleZero.Revenue
