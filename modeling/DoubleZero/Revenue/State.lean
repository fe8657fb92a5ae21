import DoubleZero.Revenue.Types

/-!
# Account types of the revenue distribution program

The six zero-copy account types of `state/` with the methods the processor calls on them. Fields
are machine words of the source's widths; `Flags` is a 64-bit field read and written by bit. Padding
and storage gaps, which no code reads, are left out of the records and counted in their sizes.
-/

namespace DoubleZero.Revenue

open DoubleZero.Lib DoubleZero.Solana

/-- `dzrevZC94tBLwuHw1dyynZxaXTWyp7yocsinyEVPtt4`. -/
def ID : Pubkey := ⟨0x97a53c53f9f343211a3b90e1faa115b5fe6ee7ed5c0c925da66f7a320975f8d⟩

/-- `J6pQQ3FAcJQeWPPGppWRb4nM8jU3wLyYbRrLh7feMfvd`. -/
def DOUBLEZERO_MINT_KEY : Pubkey :=
  ⟨0xfe142e554b620aa23f3453b8dccfa8866080c71befb03887fb0f456ea3d7ba2e⟩

abbrev Flags := BitVec 64

/-! ## Community burn rate -/

/-- `CommunityBurnRateMode`. -/
inductive CommunityBurnRateMode where
  | static
  | increasing
  | limit
  deriving DecidableEq, Repr

/-- `CommunityBurnRateParameters`. -/
structure CommunityBurnRateParameters where
  limit : BurnRate
  dzEpochsToIncreasing : EpochDuration
  dzEpochsToLimit : EpochDuration
  cachedSlopeNumerator : BurnRate
  cachedSlopeDenominator : EpochDuration
  cachedNextBurnRate : BurnRate
  deriving DecidableEq, Repr, Inhabited

namespace CommunityBurnRateParameters

def nextBurnRate (params : CommunityBurnRateParameters) : Option BurnRate :=
  if params.cachedNextBurnRate = UnitShare.MIN then none else some params.cachedNextBurnRate

def mode (params : CommunityBurnRateParameters) : CommunityBurnRateMode :=
  if params.dzEpochsToIncreasing ≠ 0 then .static
  else if params.dzEpochsToLimit ≠ 0 then .increasing
  else .limit

/-- `checked_compute`: the rate to use now, and the parameters it leaves behind. -/
def checkedCompute (params : CommunityBurnRateParameters) :
    Option (BurnRate × CommunityBurnRateParameters) := do
  let nextBurnRate ← params.nextBurnRate
  let params := { params with
    dzEpochsToLimit := UInt32.ofNat (params.dzEpochsToLimit.toNat - 1)
    dzEpochsToIncreasing := UInt32.ofNat (params.dzEpochsToIncreasing.toNat - 1) }
  if params.dzEpochsToLimit = 0 then
    return (nextBurnRate, { params with cachedNextBurnRate := params.limit })
  else if params.dzEpochsToIncreasing = 0 then do
    -- new_rate = last_rate + cached_numerator / cached_denominator, over one denominator.
    let scaled := min (params.cachedNextBurnRate.value * params.cachedSlopeDenominator.toNat)
      (2 ^ 64 - 1)
    -- Neither the overflow nor the division by zero, which would panic, gives a rate.
    let newBurnRate ← if scaled + params.cachedSlopeNumerator.value < 2 ^ 64 ∧
        params.cachedSlopeDenominator ≠ 0 then
        some ((scaled + params.cachedSlopeNumerator.value) / params.cachedSlopeDenominator.toNat)
      else none
    let burnRate : BurnRate ← UnitShare.new newBurnRate
    return (nextBurnRate, { params with cachedNextBurnRate := burnRate.min params.limit })
  else return (nextBurnRate, params)

/-- `checked_update`. The slope it returns is the one it caches. -/
def checkedUpdate (params : CommunityBurnRateParameters) (newLimit : BurnRate)
    (newDzEpochsToIncreasing newDzEpochsToLimit : EpochDuration) :
    Option CommunityBurnRateParameters :=
  if newLimit.value < params.cachedNextBurnRate.value then none
  else if newDzEpochsToIncreasing = 0 then none
  else if newDzEpochsToLimit < newDzEpochsToIncreasing then none
  else some { params with
    limit := newLimit
    dzEpochsToIncreasing := newDzEpochsToIncreasing
    dzEpochsToLimit := newDzEpochsToLimit
    cachedSlopeNumerator := newLimit.saturatingSub params.cachedNextBurnRate
    cachedSlopeDenominator := UInt32.ofNat
      (min (newDzEpochsToLimit.toNat - newDzEpochsToIncreasing.toNat + 1) (2 ^ 32 - 1)) }

def new (initialRate limit : BurnRate) (dzEpochsToIncreasing dzEpochsToLimit : EpochDuration) :
    Option CommunityBurnRateParameters :=
  if initialRate = UnitShare.MIN then none
  else checkedUpdate { (default : CommunityBurnRateParameters) with
    cachedNextBurnRate := initialRate } limit dzEpochsToIncreasing dzEpochsToLimit

end CommunityBurnRateParameters

/-! ## Program config -/

/-- `SolanaValidatorFeeParameters`. -/
structure SolanaValidatorFeeParameters where
  baseBlockRewardsPct : ValidatorFee
  priorityBlockRewardsPct : ValidatorFee
  inflationRewardsPct : ValidatorFee
  jitoTipsPct : ValidatorFee
  fixedSolAmount : UInt32
  deriving DecidableEq, Repr, Inhabited

/-- `DistributionParameters`. -/
structure DistributionParameters where
  calculationGracePeriodMinutes : UInt16
  initializationGracePeriodMinutes : UInt16
  minimumEpochDurationToFinalizeRewards : UInt8
  communityBurnRateParameters : CommunityBurnRateParameters
  solanaValidatorFeeParameters : SolanaValidatorFeeParameters
  deriving DecidableEq, Repr, Inhabited

/-- `RelayParameters`. -/
structure RelayParameters where
  distributeRewardsLamports : UInt32
  deriving DecidableEq, Repr, Inhabited

def RelayParameters.MIN_LAMPORTS : UInt32 := 5001

/-- `ProgramConfig`. -/
structure ProgramConfig where
  flags : Flags
  nextCompletedDzEpoch : DoubleZeroEpoch
  bumpSeed : UInt8
  reserve2zBumpSeed : UInt8
  swapAuthorityBumpSeed : UInt8
  swapDestination2zBumpSeed : UInt8
  withdrawSolAuthorityBumpSeed : UInt8
  adminKey : Pubkey
  debtAccountantKey : Pubkey
  rewardsAccountantKey : Pubkey
  contributorManagerKey : Pubkey
  sol2zSwapProgramId : Pubkey
  distributionParameters : DistributionParameters
  relayParameters : RelayParameters
  lastInitializedDistributionTimestamp : UInt32
  debtWriteOffFeatureActivationEpoch : DoubleZeroEpoch
  deriving DecidableEq, Repr, Inhabited

namespace ProgramConfig

def FLAG_IS_PAUSED_BIT : Nat := 0

def isPaused (config : ProgramConfig) : Bool := bit config.flags FLAG_IS_PAUSED_BIT

def setIsPaused (config : ProgramConfig) (shouldPause : Bool) : ProgramConfig :=
  { config with flags := setBit config.flags FLAG_IS_PAUSED_BIT shouldPause }

@[simp] theorem isPaused_setIsPaused (config : ProgramConfig) (v : Bool) :
    (config.setIsPaused v).isPaused = v := by
  simp [isPaused, setIsPaused, FLAG_IS_PAUSED_BIT, bit_setBit]

/-- The schedule of the community burn rate. -/
def burnRate (config : ProgramConfig) : CommunityBurnRateParameters :=
  config.distributionParameters.communityBurnRateParameters

def checkedDistributeRewardsRelayLamports (config : ProgramConfig) : Option UInt32 :=
  let lamports := config.relayParameters.distributeRewardsLamports
  if lamports = 0 then none else some lamports

def checkedMinimumEpochDurationToFinalizeRewards (config : ProgramConfig) :
    Option EpochDuration :=
  let duration := config.distributionParameters.minimumEpochDurationToFinalizeRewards
  if duration = 0 then none else some (UInt32.ofNat duration.toNat)

/-- A number of minutes in seconds, or nothing when it is zero. -/
def gracePeriodSeconds (minutes : UInt16) : Option UInt32 :=
  if minutes = 0 then none else some (UInt32.ofNat (minutes.toNat * 60))

def checkedCalculationGracePeriodSeconds (config : ProgramConfig) : Option UInt32 :=
  gracePeriodSeconds config.distributionParameters.calculationGracePeriodMinutes

def checkedDistributionInitializationGracePeriodSeconds (config : ProgramConfig) :
    Option UInt32 :=
  gracePeriodSeconds config.distributionParameters.initializationGracePeriodMinutes

def isDebtWriteOffFeatureActivated (config : ProgramConfig) : Bool :=
  config.debtWriteOffFeatureActivationEpoch ≠ 0 ∧
    config.nextCompletedDzEpoch ≥ config.debtWriteOffFeatureActivationEpoch

end ProgramConfig

/-! ## Journal -/

/-- `Journal`. -/
structure Journal where
  bumpSeed : UInt8
  token2zPdaBumpSeed : UInt8
  integrationsCount : UInt16
  totalSolBalance : UInt64
  total2zBalance : UInt64
  swap2zDestinationBalance : UInt64
  swappedSolAmount : UInt64
  nextDzEpochToSweepTokens : DoubleZeroEpoch
  lifetimeSwapped2zAmount : BitVec 128
  deriving DecidableEq, Repr, Inhabited

/-! ## Distribution -/

/-- `Distribution`. -/
structure Distribution where
  dzEpoch : DoubleZeroEpoch
  flags : Flags
  communityBurnRate : BurnRate
  bumpSeed : UInt8
  token2zPdaBumpSeed : UInt8
  solanaValidatorFeeParameters : SolanaValidatorFeeParameters
  solanaValidatorDebtMerkleRoot : Hash
  totalSolanaValidators : UInt32
  solanaValidatorPaymentsCount : UInt32
  totalSolanaValidatorDebt : UInt64
  collectedSolanaValidatorPayments : UInt64
  rewardsMerkleRoot : Hash
  totalContributors : UInt32
  distributedRewardsCount : UInt32
  collectedPrepaid2zPayments : UInt64
  collected2zConvertedFromSol : UInt64
  uncollectibleSolDebt : UInt64
  processedSolanaValidatorDebtStartIndex : UInt32
  processedSolanaValidatorDebtEndIndex : UInt32
  processedRewardsStartIndex : UInt32
  processedRewardsEndIndex : UInt32
  distributeRewardsRelayLamports : UInt32
  calculationAllowedTimestamp : UInt32
  distributed2zAmount : UInt64
  burned2zAmount : UInt64
  processedSolanaValidatorDebtWriteOffStartIndex : UInt32
  processedSolanaValidatorDebtWriteOffEndIndex : UInt32
  solanaValidatorWriteOffCount : UInt32
  economicBurnRate : BurnRate
  integrationsCountSnapshot : UInt16
  integrationsCollectedCount : UInt16
  collectedIntegrationsBitmap : BitVec 512
  collected2zFromIntegrations : UInt64
  deriving DecidableEq, Repr, Inhabited

namespace Distribution

def FLAG_IS_DEBT_CALCULATION_FINALIZED_BIT : Nat := 1
def FLAG_IS_REWARDS_CALCULATION_FINALIZED_BIT : Nat := 2
def FLAG_HAS_SWEPT_2Z_TOKENS_BIT : Nat := 3
def FLAG_IS_SOLANA_VALIDATOR_DEBT_WRITE_OFF_ENABLED_BIT : Nat := 4

/-- The two accessors of every flag. -/
def flag (d : Distribution) (i : Nat) : Bool := bit d.flags i

def setFlag (d : Distribution) (i : Nat) (value : Bool) : Distribution :=
  { d with flags := setBit d.flags i value }

def isDebtCalculationFinalized (d : Distribution) : Bool :=
  d.flag FLAG_IS_DEBT_CALCULATION_FINALIZED_BIT

def setIsDebtCalculationFinalized (d : Distribution) (shouldFinalize : Bool) : Distribution :=
  d.setFlag FLAG_IS_DEBT_CALCULATION_FINALIZED_BIT shouldFinalize

def isRewardsCalculationFinalized (d : Distribution) : Bool :=
  d.flag FLAG_IS_REWARDS_CALCULATION_FINALIZED_BIT

def setIsRewardsCalculationFinalized (d : Distribution) (shouldFinalize : Bool) : Distribution :=
  d.setFlag FLAG_IS_REWARDS_CALCULATION_FINALIZED_BIT shouldFinalize

def isSolanaValidatorDebtWriteOffEnabled (d : Distribution) : Bool :=
  d.flag FLAG_IS_SOLANA_VALIDATOR_DEBT_WRITE_OFF_ENABLED_BIT

def setIsSolanaValidatorDebtWriteOffEnabled (d : Distribution) (shouldEnable : Bool) :
    Distribution :=
  d.setFlag FLAG_IS_SOLANA_VALIDATOR_DEBT_WRITE_OFF_ENABLED_BIT shouldEnable

def hasSwept2zTokens (d : Distribution) : Bool := d.flag FLAG_HAS_SWEPT_2Z_TOKENS_BIT

def setHasSwept2zTokens (d : Distribution) (hasSwept : Bool) : Distribution :=
  d.setFlag FLAG_HAS_SWEPT_2Z_TOKENS_BIT hasSwept

theorem flag_setFlag_self (d : Distribution) (v : Bool) {i : Nat} (hi : i < 64) :
    (d.setFlag i v).flag i = v := by
  simp [flag, setFlag, bit_setBit, hi]

theorem flag_setFlag_of_ne (d : Distribution) (v : Bool) {i j : Nat} (h : i ≠ j) :
    (d.setFlag i v).flag j = d.flag j := by
  simp [flag, setFlag, bit_setBit, h]

section Flags

variable (d : Distribution) (v : Bool)

@[simp] theorem isDebtCalculationFinalized_setIsDebtCalculationFinalized :
    (d.setIsDebtCalculationFinalized v).isDebtCalculationFinalized = v :=
  d.flag_setFlag_self v (by decide)

@[simp] theorem isDebtCalculationFinalized_setIsRewardsCalculationFinalized :
    (d.setIsRewardsCalculationFinalized v).isDebtCalculationFinalized =
      d.isDebtCalculationFinalized :=
  d.flag_setFlag_of_ne v (by decide)

@[simp] theorem isDebtCalculationFinalized_setHasSwept2zTokens :
    (d.setHasSwept2zTokens v).isDebtCalculationFinalized = d.isDebtCalculationFinalized :=
  d.flag_setFlag_of_ne v (by decide)

@[simp] theorem isDebtCalculationFinalized_setIsSolanaValidatorDebtWriteOffEnabled :
    (d.setIsSolanaValidatorDebtWriteOffEnabled v).isDebtCalculationFinalized =
      d.isDebtCalculationFinalized :=
  d.flag_setFlag_of_ne v (by decide)

@[simp] theorem isRewardsCalculationFinalized_setIsDebtCalculationFinalized :
    (d.setIsDebtCalculationFinalized v).isRewardsCalculationFinalized =
      d.isRewardsCalculationFinalized :=
  d.flag_setFlag_of_ne v (by decide)

@[simp] theorem isRewardsCalculationFinalized_setIsRewardsCalculationFinalized :
    (d.setIsRewardsCalculationFinalized v).isRewardsCalculationFinalized = v :=
  d.flag_setFlag_self v (by decide)

@[simp] theorem isRewardsCalculationFinalized_setHasSwept2zTokens :
    (d.setHasSwept2zTokens v).isRewardsCalculationFinalized = d.isRewardsCalculationFinalized :=
  d.flag_setFlag_of_ne v (by decide)

@[simp] theorem isRewardsCalculationFinalized_setIsSolanaValidatorDebtWriteOffEnabled :
    (d.setIsSolanaValidatorDebtWriteOffEnabled v).isRewardsCalculationFinalized =
      d.isRewardsCalculationFinalized :=
  d.flag_setFlag_of_ne v (by decide)

@[simp] theorem hasSwept2zTokens_setIsDebtCalculationFinalized :
    (d.setIsDebtCalculationFinalized v).hasSwept2zTokens = d.hasSwept2zTokens :=
  d.flag_setFlag_of_ne v (by decide)

@[simp] theorem hasSwept2zTokens_setIsRewardsCalculationFinalized :
    (d.setIsRewardsCalculationFinalized v).hasSwept2zTokens = d.hasSwept2zTokens :=
  d.flag_setFlag_of_ne v (by decide)

@[simp] theorem hasSwept2zTokens_setHasSwept2zTokens :
    (d.setHasSwept2zTokens v).hasSwept2zTokens = v :=
  d.flag_setFlag_self v (by decide)

@[simp] theorem hasSwept2zTokens_setIsSolanaValidatorDebtWriteOffEnabled :
    (d.setIsSolanaValidatorDebtWriteOffEnabled v).hasSwept2zTokens = d.hasSwept2zTokens :=
  d.flag_setFlag_of_ne v (by decide)

@[simp] theorem isSolanaValidatorDebtWriteOffEnabled_setIsDebtCalculationFinalized :
    (d.setIsDebtCalculationFinalized v).isSolanaValidatorDebtWriteOffEnabled =
      d.isSolanaValidatorDebtWriteOffEnabled :=
  d.flag_setFlag_of_ne v (by decide)

@[simp] theorem isSolanaValidatorDebtWriteOffEnabled_setIsRewardsCalculationFinalized :
    (d.setIsRewardsCalculationFinalized v).isSolanaValidatorDebtWriteOffEnabled =
      d.isSolanaValidatorDebtWriteOffEnabled :=
  d.flag_setFlag_of_ne v (by decide)

@[simp] theorem isSolanaValidatorDebtWriteOffEnabled_setHasSwept2zTokens :
    (d.setHasSwept2zTokens v).isSolanaValidatorDebtWriteOffEnabled =
      d.isSolanaValidatorDebtWriteOffEnabled :=
  d.flag_setFlag_of_ne v (by decide)

@[simp] theorem isSolanaValidatorDebtWriteOffEnabled_setIsSolanaValidatorDebtWriteOffEnabled :
    (d.setIsSolanaValidatorDebtWriteOffEnabled v).isSolanaValidatorDebtWriteOffEnabled = v :=
  d.flag_setFlag_self v (by decide)

end Flags

/-- `checked_total_sol_debt`. -/
def checkedTotalSolDebt (d : Distribution) : Option UInt64 :=
  checkedSub d.totalSolanaValidatorDebt d.uncollectibleSolDebt

/-- `total_collected_2z_tokens`; nothing where the source panics. -/
def totalCollected2zTokens (d : Distribution) : Option UInt64 :=
  (checkedAdd d.collectedPrepaid2zPayments d.collected2zConvertedFromSol).bind fun amount =>
    checkedAdd amount d.collected2zFromIntegrations

def areAllIntegrationsCollected (d : Distribution) : Bool :=
  d.integrationsCollectedCount ≥ d.integrationsCountSnapshot

def checkedIsIntegrationCollected (d : Distribution) (index : UInt16) : Option Bool :=
  if index.toNat ≥ 512 then none else some (bit d.collectedIntegrationsBitmap index.toNat)

def checkedSetIntegrationCollected (d : Distribution) (index : UInt16) : Option Distribution :=
  if index.toNat ≥ 512 then none
  else some { d with
    collectedIntegrationsBitmap := setBit d.collectedIntegrationsBitmap index.toNat true }

def burnRate (d : Distribution) (contributorEconomicBurnRate : BurnRate) : BurnRate :=
  (contributorEconomicBurnRate.max d.economicBurnRate).max d.communityBurnRate

/-- `split_2z_amount`: what to burn and what to distribute; nothing where the source returns nothing
or panics. -/
def split2zAmount (d : Distribution) (rewardShare : RewardShare) : Option (UInt64 × UInt64) := do
  let unitShare ← rewardShare.checkedUnitShare
  let contributorEconomicBurnRate := rewardShare.checkedEconomicBurnRate.getD default
  let burnRate := d.burnRate contributorEconomicBurnRate
  let totalAmount ← d.totalCollected2zTokens
  let shareAmount := unitShare.mulScalar totalAmount
  let burnShareAmount := burnRate.mulScalar shareAmount
  return (burnShareAmount, shareAmount - burnShareAmount)

def checkedCalculationAllowedTimestamp (d : Distribution) : Option Int :=
  if d.calculationAllowedTimestamp = 0 then none
  else some (d.calculationAllowedTimestamp.toNat : Int)

def areAllRewardsDistributed (d : Distribution) : Bool :=
  d.totalContributors.toNat - d.distributedRewardsCount.toNat = 0

end Distribution

/-! ## Contributors, deposits and integrations -/

def MAX_RECIPIENTS : Nat := 8

/-- `RecipientShare`. -/
structure RecipientShare where
  recipientKey : Pubkey
  share : UnitShare16
  deriving DecidableEq, Repr, Inhabited

/-- `RecipientShares`: the array of `MAX_RECIPIENTS` entries, unused ones default. -/
structure RecipientShares where
  entries : List RecipientShare
  deriving DecidableEq, Repr

instance : Inhabited RecipientShares := ⟨⟨List.replicate MAX_RECIPIENTS default⟩⟩

namespace RecipientShares

/-- One turn of the loop of `new`: the entries written so far and their running sum. -/
def addRecipient (out : List RecipientShare × UnitShare16) (recipient : Pubkey × UInt16) :
    Option (List RecipientShare × UnitShare16) :=
  if recipient.1 = default then none
  else do
    let share : UnitShare16 ← UnitShare.new recipient.2.toNat
    if share = UnitShare.MIN then none
    else do
      let totalShare ← out.2.checkedAdd share
      return (out.1 ++ [⟨recipient.1, share⟩], totalShare)

def new (recipients : List (Pubkey × UInt16)) : Option RecipientShares :=
  if recipients.length > MAX_RECIPIENTS then none
  else do
    let (out, totalShare) ← recipients.foldlM addRecipient ([], UnitShare.MIN)
    if totalShare ≠ UnitShare.MAX then none
    else return ⟨out ++ List.replicate (MAX_RECIPIENTS - out.length) default⟩

/-- `active_iter`. -/
def activeIter (shares : RecipientShares) : List RecipientShare :=
  shares.entries.filter fun share => share.recipientKey ≠ default

end RecipientShares

/-- `ContributorRewards`. -/
structure ContributorRewards where
  rewardsManagerKey : Pubkey
  serviceKey : Pubkey
  flags : Flags
  recipientShares : RecipientShares
  deriving DecidableEq, Repr, Inhabited

namespace ContributorRewards

def FLAG_IS_SET_REWARDS_MANAGER_BLOCKED_BIT : Nat := 0

def isSetRewardsManagerBlocked (c : ContributorRewards) : Bool :=
  bit c.flags FLAG_IS_SET_REWARDS_MANAGER_BLOCKED_BIT

def setIsSetRewardsManagerBlocked (c : ContributorRewards) (shouldBlock : Bool) :
    ContributorRewards :=
  { c with flags := setBit c.flags FLAG_IS_SET_REWARDS_MANAGER_BLOCKED_BIT shouldBlock }

end ContributorRewards

/-- `SolanaValidatorDeposit`. -/
structure SolanaValidatorDeposit where
  nodeId : Pubkey
  writtenOffSolDebt : UInt64
  deriving DecidableEq, Repr, Inhabited

/-- `RewardsIntegration`. -/
structure RewardsIntegration where
  programId : Pubkey
  bumpSeed : UInt8
  registrationIndex : UInt16
  deriving DecidableEq, Repr, Inhabited

/-! ## The sum of the account types -/

/-- Data behind one of the six discriminators of the program. -/
inductive AccountState where
  | programConfig (config : ProgramConfig)
  | journal (journal : Journal)
  | distribution (distribution : Distribution)
  | contributorRewards (contributorRewards : ContributorRewards)
  | solanaValidatorDeposit (deposit : SolanaValidatorDeposit)
  | rewardsIntegration (integration : RewardsIntegration)
  deriving DecidableEq, Repr

instance : ZeroCopy AccountState ProgramConfig where
  discriminator := "dz::account::program_config"
  size := 600
  wrap := .programConfig
  unwrap | .programConfig c => some c | _ => none
  unwrap_eq_some := by intro d t; cases d <;> simp

instance : ZeroCopy AccountState Journal where
  discriminator := "dz::account::journal"
  size := 64
  wrap := .journal
  unwrap | .journal j => some j | _ => none
  unwrap_eq_some := by intro d t; cases d <;> simp

instance : ZeroCopy AccountState Distribution where
  discriminator := "dz::account::distribution"
  size := 448
  wrap := .distribution
  unwrap | .distribution d => some d | _ => none
  unwrap_eq_some := by intro d t; cases d <;> simp

instance : ZeroCopy AccountState ContributorRewards where
  discriminator := "dz::account::contributor_rewards"
  size := 600
  wrap := .contributorRewards
  unwrap | .contributorRewards c => some c | _ => none
  unwrap_eq_some := by intro d t; cases d <;> simp

instance : ZeroCopy AccountState SolanaValidatorDeposit where
  discriminator := "dz::account::solana_validator_deposit"
  size := 96
  wrap := .solanaValidatorDeposit
  unwrap | .solanaValidatorDeposit d => some d | _ => none
  unwrap_eq_some := by intro d t; cases d <;> simp

instance : ZeroCopy AccountState RewardsIntegration where
  discriminator := "dz::account::rewards_integration"
  size := 176
  wrap := .rewardsIntegration
  unwrap | .rewardsIntegration i => some i | _ => none
  unwrap_eq_some := by intro d t; cases d <;> simp

instance : ZeroCopySum AccountState where
  len
    | .programConfig _ => dataEnd AccountState ProgramConfig
    | .journal _ => dataEnd AccountState Journal
    | .distribution _ => dataEnd AccountState Distribution
    | .contributorRewards _ => dataEnd AccountState ContributorRewards
    | .solanaValidatorDeposit _ => dataEnd AccountState SolanaValidatorDeposit
    | .rewardsIntegration _ => dataEnd AccountState RewardsIntegration

end DoubleZero.Revenue
