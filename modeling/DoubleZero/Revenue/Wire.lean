import DoubleZero.Revenue.Instruction
import DoubleZero.Solana.Wire

/-!
# Instruction data as bytes

`instruction/mod.rs`: the selectors, and the two matches of the hand-written Borsh codec, `written`
for the serializer and `arms` for the reader. The nested enumerations derive theirs. The codecs of
`svm_hash` and the hash behind the selectors are parameters.
-/

namespace DoubleZero.Revenue

open DoubleZero.Lib.Borsh DoubleZero.Solana

/-! ## Nested data -/

namespace ProgramFlagConfiguration

def written : ProgramFlagConfiguration → UInt8 × List Written
  | .isPaused shouldPause => (0, [bool.serialize shouldPause])

def arms : List (UInt8 × Reader ProgramFlagConfiguration) :=
  [(0, isPaused <$> bool.deserializeReader)]

def codec : Codec ProgramFlagConfiguration := .tagged u8 (fun _ => True) written arms unexpectedTag

@[simp] theorem codec_fits (configuration : ProgramFlagConfiguration) :
    codec.Fits configuration := trivial

theorem codec_exact : codec.Exact := by
  refine u8_exact.tagged (fun _ => u8_fits _) ⟨by decide, ?_, ?_, ?_⟩
  · rintro ⟨shouldPause⟩
    simp [written, bool_exact.serialize_iff]
  · rintro ⟨shouldPause⟩
    exact .one bool_exact 0 rfl rfl
  · simp only [arms, List.forall_mem_cons]
    exact ⟨.one bool_exact fun _ => rfl, by simp⟩

end ProgramFlagConfiguration

namespace ProgramFeatureConfiguration

def written : ProgramFeatureConfiguration → UInt8 × List Written
  | .solanaValidatorDebtWriteOff => (0, [])

def arms : List (UInt8 × Reader ProgramFeatureConfiguration) :=
  [(0, return .solanaValidatorDebtWriteOff)]

def codec : Codec ProgramFeatureConfiguration :=
  .tagged u8 (fun _ => True) written arms unexpectedTag

@[simp] theorem codec_fits (feature : ProgramFeatureConfiguration) : codec.Fits feature := trivial

theorem codec_exact : codec.Exact := by
  refine u8_exact.tagged (fun _ => u8_fits _) ⟨by decide, ?_, ?_, ?_⟩
  · rintro ⟨⟩
    simp [written]
  · rintro ⟨⟩
    exact .unit 0 rfl rfl
  · simp only [arms, List.forall_mem_cons]
    exact ⟨.unit rfl, by simp⟩

end ProgramFeatureConfiguration

namespace ProgramConfiguration

/-- The five numbers and the unused bytes of the fee parameters. -/
def feeParametersCodec :
    Codec (UInt16 × UInt16 × UInt16 × UInt16 × UInt32 × BitVec 224) :=
  u16.pair (u16.pair (u16.pair (u16.pair (u32.pair (byteArray 28)))))

def burnRateParametersCodec : Codec (UInt32 × EpochDuration × EpochDuration × Option UInt32) :=
  u32.pair (u32.pair (u32.pair u32.option))

def featureActivationCodec : Codec (ProgramFeatureConfiguration × DoubleZeroEpoch) :=
  ProgramFeatureConfiguration.codec.pair u64

def Fits : ProgramConfiguration → Prop
  | .debtAccountant key => Pubkey.codec.Fits key
  | .rewardsAccountant key => Pubkey.codec.Fits key
  | .contributorManager key => Pubkey.codec.Fits key
  | .placeholderKey key => Pubkey.codec.Fits key
  | .sol2zSwapProgram programId => Pubkey.codec.Fits programId
  | _ => True

def written : ProgramConfiguration → UInt8 × List Written
  | .flag configuration => (0, [ProgramFlagConfiguration.codec.serialize configuration])
  | .debtAccountant key => (1, [Pubkey.codec.serialize key])
  | .rewardsAccountant key => (2, [Pubkey.codec.serialize key])
  | .contributorManager key => (3, [Pubkey.codec.serialize key])
  | .placeholderKey key => (4, [Pubkey.codec.serialize key])
  | .sol2zSwapProgram programId => (5, [Pubkey.codec.serialize programId])
  | .solanaValidatorFeeParameters base priority inflation jito fixedSolAmount unused =>
    (6, [feeParametersCodec.serialize (base, priority, inflation, jito, fixedSolAmount, unused)])
  | .calculationGracePeriodMinutes minutes => (7, [u16.serialize minutes])
  | .communityBurnRateParameters limit dzEpochsToIncreasing dzEpochsToLimit initialRate =>
    (8, [burnRateParametersCodec.serialize
      (limit, dzEpochsToIncreasing, dzEpochsToLimit, initialRate)])
  | .placeholderRelayLamports lamports => (9, [u32.serialize lamports])
  | .distributeRewardsRelayLamports lamports => (10, [u32.serialize lamports])
  | .minimumEpochDurationToFinalizeRewards duration => (11, [u8.serialize duration])
  | .distributionInitializationGracePeriodMinutes minutes => (12, [u16.serialize minutes])
  | .featureActivation feature activationEpoch =>
    (13, [featureActivationCodec.serialize (feature, activationEpoch)])

def arms : List (UInt8 × Reader ProgramConfiguration) :=
  [(0, flag <$> ProgramFlagConfiguration.codec.deserializeReader),
    (1, debtAccountant <$> Pubkey.codec.deserializeReader),
    (2, rewardsAccountant <$> Pubkey.codec.deserializeReader),
    (3, contributorManager <$> Pubkey.codec.deserializeReader),
    (4, placeholderKey <$> Pubkey.codec.deserializeReader),
    (5, sol2zSwapProgram <$> Pubkey.codec.deserializeReader),
    (6, (fun (base, priority, inflation, jito, fixedSolAmount, unused) =>
      solanaValidatorFeeParameters base priority inflation jito fixedSolAmount unused) <$>
        feeParametersCodec.deserializeReader),
    (7, calculationGracePeriodMinutes <$> u16.deserializeReader),
    (8, (fun (limit, dzEpochsToIncreasing, dzEpochsToLimit, initialRate) =>
      communityBurnRateParameters limit dzEpochsToIncreasing dzEpochsToLimit initialRate) <$>
        burnRateParametersCodec.deserializeReader),
    (9, placeholderRelayLamports <$> u32.deserializeReader),
    (10, distributeRewardsRelayLamports <$> u32.deserializeReader),
    (11, minimumEpochDurationToFinalizeRewards <$> u8.deserializeReader),
    (12, distributionInitializationGracePeriodMinutes <$> u16.deserializeReader),
    (13, (fun (feature, activationEpoch) => featureActivation feature activationEpoch) <$>
      featureActivationCodec.deserializeReader)]

def codec : Codec ProgramConfiguration := .tagged u8 Fits written arms unexpectedTag

theorem feeParametersCodec_exact : feeParametersCodec.Exact :=
  u16_exact.pair (u16_exact.pair (u16_exact.pair (u16_exact.pair
    (u32_exact.pair (byteArray_exact 28)))))

theorem burnRateParametersCodec_exact : burnRateParametersCodec.Exact :=
  u32_exact.pair (u32_exact.pair (u32_exact.pair u32_exact.option))

theorem featureActivationCodec_exact : featureActivationCodec.Exact :=
  ProgramFeatureConfiguration.codec_exact.pair u64_exact

theorem feeParametersCodec_fits (x : UInt16 × UInt16 × UInt16 × UInt16 × UInt32 × BitVec 224) :
    feeParametersCodec.Fits x :=
  ⟨u16_fits _, u16_fits _, u16_fits _, u16_fits _, u32_fits _, @byteArray_fits 28 _⟩

theorem burnRateParametersCodec_fits (x : UInt32 × EpochDuration × EpochDuration × Option UInt32) :
    burnRateParametersCodec.Fits x :=
  ⟨u32_fits _, u32_fits _, u32_fits _, fun rate _ => u32_fits rate⟩

theorem featureActivationCodec_fits (x : ProgramFeatureConfiguration × DoubleZeroEpoch) :
    featureActivationCodec.Fits x :=
  ⟨trivial, u64_fits _⟩

theorem codec_exact : codec.Exact := by
  have hkey := Pubkey.codec_exact
  refine u8_exact.tagged (fun _ => u8_fits _) ⟨by decide, ?_, ?_, ?_⟩
  · intro setting
    cases setting with
    | flag => simp [written, Fits, ProgramFlagConfiguration.codec_exact.serialize_iff]
    | solanaValidatorFeeParameters =>
      simp [written, Fits, feeParametersCodec_exact.serialize_iff, feeParametersCodec_fits]
    | communityBurnRateParameters =>
      simp [written, Fits, burnRateParametersCodec_exact.serialize_iff,
        burnRateParametersCodec_fits]
    | featureActivation =>
      simp [written, Fits, featureActivationCodec_exact.serialize_iff,
        featureActivationCodec_fits]
    | _ =>
      simp [written, Fits, hkey.serialize_iff, u8_exact.serialize_iff, u16_exact.serialize_iff,
        u32_exact.serialize_iff]
  · intro setting
    cases setting with
    | flag => exact .one ProgramFlagConfiguration.codec_exact 0 rfl rfl
    | debtAccountant => exact .one hkey 1 rfl rfl
    | rewardsAccountant => exact .one hkey 2 rfl rfl
    | contributorManager => exact .one hkey 3 rfl rfl
    | placeholderKey => exact .one hkey 4 rfl rfl
    | sol2zSwapProgram => exact .one hkey 5 rfl rfl
    | solanaValidatorFeeParameters base priority inflation jito fixedSolAmount unused =>
      exact .of_arm 6 rfl rfl fun bytes _ hbytes => (map_arm feeParametersCodec_exact).2
        ⟨(base, priority, inflation, jito, fixedSolAmount, unused), rfl, bytes, hbytes, rfl⟩
    | calculationGracePeriodMinutes => exact .one u16_exact 7 rfl rfl
    | communityBurnRateParameters limit dzEpochsToIncreasing dzEpochsToLimit initialRate =>
      exact .of_arm 8 rfl rfl fun bytes _ hbytes => (map_arm burnRateParametersCodec_exact).2
        ⟨(limit, dzEpochsToIncreasing, dzEpochsToLimit, initialRate), rfl, bytes, hbytes, rfl⟩
    | placeholderRelayLamports => exact .one u32_exact 9 rfl rfl
    | distributeRewardsRelayLamports => exact .one u32_exact 10 rfl rfl
    | minimumEpochDurationToFinalizeRewards => exact .one u8_exact 11 rfl rfl
    | distributionInitializationGracePeriodMinutes => exact .one u16_exact 12 rfl rfl
    | featureActivation feature activationEpoch =>
      exact .of_arm 13 rfl rfl fun bytes _ hbytes => (map_arm featureActivationCodec_exact).2
        ⟨(feature, activationEpoch), rfl, bytes, hbytes, rfl⟩
  · simp only [arms, List.forall_mem_cons]
    exact ⟨.one ProgramFlagConfiguration.codec_exact fun _ => rfl, .one hkey fun _ => rfl,
      .one hkey fun _ => rfl, .one hkey fun _ => rfl, .one hkey fun _ => rfl,
      .one hkey fun _ => rfl, .one feeParametersCodec_exact fun _ => rfl,
      .one u16_exact fun _ => rfl, .one burnRateParametersCodec_exact fun _ => rfl,
      .one u32_exact fun _ => rfl, .one u32_exact fun _ => rfl, .one u8_exact fun _ => rfl,
      .one u16_exact fun _ => rfl, .one featureActivationCodec_exact fun _ => rfl, by simp⟩

end ProgramConfiguration

namespace ContributorRewardsConfiguration

def recipientsCodec : Codec (List (Pubkey × UInt16)) := (Pubkey.codec.pair u16).vec

def Fits : ContributorRewardsConfiguration → Prop
  | .recipients list => recipientsCodec.Fits list
  | .isSetRewardsManagerBlocked _ => True

def written : ContributorRewardsConfiguration → UInt8 × List Written
  | .recipients list => (0, [recipientsCodec.serialize list])
  | .isSetRewardsManagerBlocked shouldBlock => (1, [bool.serialize shouldBlock])

def arms : List (UInt8 × Reader ContributorRewardsConfiguration) :=
  [(0, .recipients <$> recipientsCodec.deserializeReader),
    (1, isSetRewardsManagerBlocked <$> bool.deserializeReader)]

def codec : Codec ContributorRewardsConfiguration := .tagged u8 Fits written arms unexpectedTag

theorem recipientsCodec_exact : recipientsCodec.Exact :=
  (Pubkey.codec_exact.pair u16_exact).vec

theorem codec_exact : codec.Exact := by
  refine u8_exact.tagged (fun _ => u8_fits _) ⟨by decide, ?_, ?_, ?_⟩
  · intro setting
    cases setting with
    | recipients => simp [written, Fits, recipientsCodec_exact.serialize_iff]
    | isSetRewardsManagerBlocked => simp [written, Fits, bool_exact.serialize_iff]
  · intro setting
    cases setting with
    | recipients => exact .one recipientsCodec_exact 0 rfl rfl
    | isSetRewardsManagerBlocked => exact .one bool_exact 1 rfl rfl
  · simp only [arms, List.forall_mem_cons]
    exact ⟨.one recipientsCodec_exact fun _ => rfl, .one bool_exact fun _ => rfl, by simp⟩

end ContributorRewardsConfiguration

namespace SolanaValidatorDebt

def codec : Codec SolanaValidatorDebt :=
  (Pubkey.codec.pair u64).iso (fun debt => (debt.nodeId, debt.amount)) fun (nodeId, amount) =>
    ⟨nodeId, amount⟩

theorem codec_exact : codec.Exact :=
  (Pubkey.codec_exact.pair u64_exact).iso (fun _ => rfl) fun _ => rfl

end SolanaValidatorDebt

namespace RewardShare

def codec : Codec RewardShare :=
  (Pubkey.codec.pair (u32.pair (byteArray 4))).iso
    (fun share => (share.contributorKey, share.unitShare, share.remaining))
    fun (contributorKey, unitShare, remaining) => ⟨contributorKey, unitShare, remaining⟩

theorem codec_exact : codec.Exact :=
  (Pubkey.codec_exact.pair (u32_exact.pair (byteArray_exact 4))).iso (fun _ => rfl) fun _ => rfl

end RewardShare

namespace DistributionMerkleRootKind

def Fits : DistributionMerkleRootKind → Prop
  | .solanaValidatorDebt debt => SolanaValidatorDebt.codec.Fits debt
  | .rewardShare share => RewardShare.codec.Fits share

def written : DistributionMerkleRootKind → UInt8 × List Written
  | .solanaValidatorDebt debt => (0, [SolanaValidatorDebt.codec.serialize debt])
  | .rewardShare share => (1, [RewardShare.codec.serialize share])

def arms : List (UInt8 × Reader DistributionMerkleRootKind) :=
  [(0, solanaValidatorDebt <$> SolanaValidatorDebt.codec.deserializeReader),
    (1, rewardShare <$> RewardShare.codec.deserializeReader)]

def codec : Codec DistributionMerkleRootKind := .tagged u8 Fits written arms unexpectedTag

theorem codec_exact : codec.Exact := by
  refine u8_exact.tagged (fun _ => u8_fits _) ⟨by decide, ?_, ?_, ?_⟩
  · intro kind
    cases kind with
    | solanaValidatorDebt =>
      simp [written, Fits, SolanaValidatorDebt.codec_exact.serialize_iff]
    | rewardShare => simp [written, Fits, RewardShare.codec_exact.serialize_iff]
  · intro kind
    cases kind with
    | solanaValidatorDebt => exact .one SolanaValidatorDebt.codec_exact 0 rfl rfl
    | rewardShare => exact .one RewardShare.codec_exact 1 rfl rfl
  · simp only [arms, List.forall_mem_cons]
    exact ⟨.one SolanaValidatorDebt.codec_exact fun _ => rfl,
      .one RewardShare.codec_exact fun _ => rfl, by simp⟩

end DistributionMerkleRootKind

/-! ## Instruction data -/

namespace InstructionData

/-! The names behind the selectors. -/

def INITIALIZE_PROGRAM : String := "dz::ix::initialize_program"
def MIGRATE_PROGRAM_ACCOUNTS : String := "dz::ix::migrate_program_accounts"
def SET_ADMIN : String := "dz::ix::set_admin"
def CONFIGURE_PROGRAM : String := "dz::ix::configure_program"
def INITIALIZE_JOURNAL : String := "dz::ix::initialize_journal"
def INITIALIZE_DISTRIBUTION : String := "dz::ix::initialize_distribution"
def CONFIGURE_DISTRIBUTION_DEBT : String := "dz::ix::configure_distribution_debt"
def FINALIZE_DISTRIBUTION_DEBT : String := "dz::ix::finalize_distribution_debt"
def CONFIGURE_DISTRIBUTION_REWARDS : String := "dz::ix::configure_distribution_rewards"
def FINALIZE_DISTRIBUTION_REWARDS : String := "dz::ix::finalize_distribution_rewards"
def DISTRIBUTE_REWARDS : String := "dz::ix::distribute_rewards"
def INITIALIZE_CONTRIBUTOR_REWARDS : String := "dz::ix::initialize_contributor_rewards"
def SET_REWARDS_MANAGER : String := "dz::ix::set_rewards_manager"
def CONFIGURE_CONTRIBUTOR_REWARDS : String := "dz::ix::configure_contributor_rewards"
def VERIFY_DISTRIBUTION_MERKLE_ROOT : String := "dz::ix::verify_distribution_merkle_root"
def INITIALIZE_SOLANA_VALIDATOR_DEPOSIT : String := "dz::ix::initialize_solana_validator_deposit"
def PAY_SOLANA_VALIDATOR_DEBT : String := "dz::ix::pay_solana_validator_debt"
def ENABLE_SOLANA_VALIDATOR_DEBT_WRITE_OFF : String :=
  "dz::ix::enable_solana_validator_debt_write_off"
def WRITE_OFF_SOLANA_VALIDATOR_DEBT : String := "dz::ix::write_off_solana_validator_debt"
def INITIALIZE_SWAP_DESTINATION : String := "dz::ix::initialize_swap_destination"
def SWEEP_DISTRIBUTION_TOKENS_V1 : String := "dz::ix::sweep_distribution_tokens::v1"
def WITHDRAW_SOL : String := "dz::ix::withdraw_sol"
def SET_DISTRIBUTION_ECONOMIC_BURN_RATE : String := "dz::ix::set_distribution_economic_burn_rate"
def WITHDRAW_SOLANA_VALIDATOR_DEPOSIT : String := "dz::ix::withdraw_solana_validator_deposit"
def INITIALIZE_REWARDS_INTEGRATION : String := "dz::ix::initialize_rewards_integration"
def COLLECT_INTEGRATION_REWARDS : String := "dz::ix::collect_integration_rewards"

/-- In the order of the reader's arms. -/
def selectorNames : List String :=
  [INITIALIZE_PROGRAM, MIGRATE_PROGRAM_ACCOUNTS, SET_ADMIN, CONFIGURE_PROGRAM,
    INITIALIZE_JOURNAL, INITIALIZE_DISTRIBUTION, CONFIGURE_DISTRIBUTION_DEBT,
    FINALIZE_DISTRIBUTION_DEBT, CONFIGURE_DISTRIBUTION_REWARDS, FINALIZE_DISTRIBUTION_REWARDS,
    DISTRIBUTE_REWARDS, INITIALIZE_CONTRIBUTOR_REWARDS, SET_REWARDS_MANAGER,
    CONFIGURE_CONTRIBUTOR_REWARDS, VERIFY_DISTRIBUTION_MERKLE_ROOT,
    INITIALIZE_SOLANA_VALIDATOR_DEPOSIT, PAY_SOLANA_VALIDATOR_DEBT,
    ENABLE_SOLANA_VALIDATOR_DEBT_WRITE_OFF, WRITE_OFF_SOLANA_VALIDATOR_DEBT,
    INITIALIZE_SWAP_DESTINATION, SWEEP_DISTRIBUTION_TOKENS_V1, WITHDRAW_SOL,
    SET_DISTRIBUTION_ECONOMIC_BURN_RATE, WITHDRAW_SOLANA_VALIDATOR_DEPOSIT,
    INITIALIZE_REWARDS_INTEGRATION, COLLECT_INTEGRATION_REWARDS]

section

variable (sha256 : String → Bytes) (hash : Codec Hash) (proof : Codec MerkleProof)

def Fits : InstructionData → Prop
  | .setAdmin adminKey => Pubkey.codec.Fits adminKey
  | .configureProgram setting => ProgramConfiguration.codec.Fits setting
  | .configureDistributionDebt _ _ merkleRoot => hash.Fits merkleRoot
  | .configureDistributionRewards _ merkleRoot => hash.Fits merkleRoot
  | .distributeRewards _ _ proof' => proof.Fits proof'
  | .initializeContributorRewards serviceKey => Pubkey.codec.Fits serviceKey
  | .setRewardsManager rewardsManagerKey => Pubkey.codec.Fits rewardsManagerKey
  | .configureContributorRewards setting => ContributorRewardsConfiguration.codec.Fits setting
  | .verifyDistributionMerkleRoot kind proof' =>
    DistributionMerkleRootKind.codec.Fits kind ∧ proof.Fits proof'
  | .initializeSolanaValidatorDeposit nodeId => Pubkey.codec.Fits nodeId
  | .paySolanaValidatorDebt _ proof' => proof.Fits proof'
  | .writeOffSolanaValidatorDebt _ proof' => proof.Fits proof'
  | _ => True

/-- A selector, as its name stands for it. -/
def selector (name : String) : Discriminator := .newSha2 sha256 name

/-- The arms of `serialize`. -/
def written : InstructionData → Discriminator × List Written
  | .initializeProgram => (selector sha256 INITIALIZE_PROGRAM, [])
  | .migrateProgramAccounts => (selector sha256 MIGRATE_PROGRAM_ACCOUNTS, [])
  | .setAdmin adminKey => (selector sha256 SET_ADMIN, [Pubkey.codec.serialize adminKey])
  | .configureProgram setting =>
    (selector sha256 CONFIGURE_PROGRAM, [ProgramConfiguration.codec.serialize setting])
  | .initializeJournal => (selector sha256 INITIALIZE_JOURNAL, [])
  | .initializeDistribution => (selector sha256 INITIALIZE_DISTRIBUTION, [])
  | .configureDistributionDebt totalValidators totalDebt merkleRoot =>
    (selector sha256 CONFIGURE_DISTRIBUTION_DEBT,
      [u32.serialize totalValidators, u64.serialize totalDebt, hash.serialize merkleRoot])
  | .finalizeDistributionDebt => (selector sha256 FINALIZE_DISTRIBUTION_DEBT, [])
  | .configureDistributionRewards totalContributors merkleRoot =>
    (selector sha256 CONFIGURE_DISTRIBUTION_REWARDS,
      [u32.serialize totalContributors, hash.serialize merkleRoot])
  | .finalizeDistributionRewards => (selector sha256 FINALIZE_DISTRIBUTION_REWARDS, [])
  | .distributeRewards unitShare economicBurnRate proof' =>
    (selector sha256 DISTRIBUTE_REWARDS,
      [u32.serialize unitShare, u32.serialize economicBurnRate, proof.serialize proof'])
  | .initializeContributorRewards serviceKey =>
    (selector sha256 INITIALIZE_CONTRIBUTOR_REWARDS, [Pubkey.codec.serialize serviceKey])
  | .setRewardsManager rewardsManagerKey =>
    (selector sha256 SET_REWARDS_MANAGER, [Pubkey.codec.serialize rewardsManagerKey])
  | .configureContributorRewards setting =>
    (selector sha256 CONFIGURE_CONTRIBUTOR_REWARDS,
      [ContributorRewardsConfiguration.codec.serialize setting])
  | .verifyDistributionMerkleRoot kind proof' =>
    (selector sha256 VERIFY_DISTRIBUTION_MERKLE_ROOT,
      [DistributionMerkleRootKind.codec.serialize kind, proof.serialize proof'])
  | .initializeSolanaValidatorDeposit solanaValidatorDepositKey =>
    (selector sha256 INITIALIZE_SOLANA_VALIDATOR_DEPOSIT,
      [Pubkey.codec.serialize solanaValidatorDepositKey])
  | .paySolanaValidatorDebt amount proof' =>
    (selector sha256 PAY_SOLANA_VALIDATOR_DEBT, [u64.serialize amount, proof.serialize proof'])
  | .enableSolanaValidatorDebtWriteOff =>
    (selector sha256 ENABLE_SOLANA_VALIDATOR_DEBT_WRITE_OFF, [])
  | .writeOffSolanaValidatorDebt amount proof' =>
    (selector sha256 WRITE_OFF_SOLANA_VALIDATOR_DEBT,
      [u64.serialize amount, proof.serialize proof'])
  | .initializeSwapDestination => (selector sha256 INITIALIZE_SWAP_DESTINATION, [])
  | .sweepDistributionTokens => (selector sha256 SWEEP_DISTRIBUTION_TOKENS_V1, [])
  | .withdrawSol amount => (selector sha256 WITHDRAW_SOL, [u64.serialize amount])
  | .setDistributionEconomicBurnRate burnRateValue =>
    (selector sha256 SET_DISTRIBUTION_ECONOMIC_BURN_RATE, [u32.serialize burnRateValue])
  | .withdrawSolanaValidatorDeposit => (selector sha256 WITHDRAW_SOLANA_VALIDATOR_DEPOSIT, [])
  | .initializeRewardsIntegration => (selector sha256 INITIALIZE_REWARDS_INTEGRATION, [])
  | .collectIntegrationRewards => (selector sha256 COLLECT_INTEGRATION_REWARDS, [])

/-- The arms of `deserialize_reader`. -/
def arms : List (Discriminator × Reader InstructionData) :=
  [(selector sha256 INITIALIZE_PROGRAM, return initializeProgram),
    (selector sha256 MIGRATE_PROGRAM_ACCOUNTS, return migrateProgramAccounts),
    (selector sha256 SET_ADMIN, setAdmin <$> Pubkey.codec.deserializeReader),
    (selector sha256 CONFIGURE_PROGRAM,
      configureProgram <$> ProgramConfiguration.codec.deserializeReader),
    (selector sha256 INITIALIZE_JOURNAL, return initializeJournal),
    (selector sha256 INITIALIZE_DISTRIBUTION, return initializeDistribution),
    (selector sha256 CONFIGURE_DISTRIBUTION_DEBT, do
      let totalValidators ← u32.deserializeReader
      let totalDebt ← u64.deserializeReader
      let merkleRoot ← hash.deserializeReader
      return configureDistributionDebt totalValidators totalDebt merkleRoot),
    (selector sha256 FINALIZE_DISTRIBUTION_DEBT, return finalizeDistributionDebt),
    (selector sha256 CONFIGURE_DISTRIBUTION_REWARDS, do
      let totalContributors ← u32.deserializeReader
      let merkleRoot ← hash.deserializeReader
      return configureDistributionRewards totalContributors merkleRoot),
    (selector sha256 FINALIZE_DISTRIBUTION_REWARDS, return finalizeDistributionRewards),
    (selector sha256 DISTRIBUTE_REWARDS, do
      let unitShare ← u32.deserializeReader
      let economicBurnRate ← u32.deserializeReader
      let proof' ← proof.deserializeReader
      return distributeRewards unitShare economicBurnRate proof'),
    (selector sha256 INITIALIZE_CONTRIBUTOR_REWARDS,
      initializeContributorRewards <$> Pubkey.codec.deserializeReader),
    (selector sha256 SET_REWARDS_MANAGER, setRewardsManager <$> Pubkey.codec.deserializeReader),
    (selector sha256 CONFIGURE_CONTRIBUTOR_REWARDS,
      configureContributorRewards <$> ContributorRewardsConfiguration.codec.deserializeReader),
    (selector sha256 VERIFY_DISTRIBUTION_MERKLE_ROOT, do
      let kind ← DistributionMerkleRootKind.codec.deserializeReader
      let proof' ← proof.deserializeReader
      return verifyDistributionMerkleRoot kind proof'),
    (selector sha256 INITIALIZE_SOLANA_VALIDATOR_DEPOSIT,
      initializeSolanaValidatorDeposit <$> Pubkey.codec.deserializeReader),
    (selector sha256 PAY_SOLANA_VALIDATOR_DEBT, do
      let amount ← u64.deserializeReader
      let proof' ← proof.deserializeReader
      return paySolanaValidatorDebt amount proof'),
    (selector sha256 ENABLE_SOLANA_VALIDATOR_DEBT_WRITE_OFF,
      return enableSolanaValidatorDebtWriteOff),
    (selector sha256 WRITE_OFF_SOLANA_VALIDATOR_DEBT, do
      let amount ← u64.deserializeReader
      let proof' ← proof.deserializeReader
      return writeOffSolanaValidatorDebt amount proof'),
    (selector sha256 INITIALIZE_SWAP_DESTINATION, return initializeSwapDestination),
    (selector sha256 SWEEP_DISTRIBUTION_TOKENS_V1, return sweepDistributionTokens),
    (selector sha256 WITHDRAW_SOL, withdrawSol <$> u64.deserializeReader),
    (selector sha256 SET_DISTRIBUTION_ECONOMIC_BURN_RATE,
      setDistributionEconomicBurnRate <$> u32.deserializeReader),
    (selector sha256 WITHDRAW_SOLANA_VALIDATOR_DEPOSIT, return withdrawSolanaValidatorDeposit),
    (selector sha256 INITIALIZE_REWARDS_INTEGRATION, return initializeRewardsIntegration),
    (selector sha256 COLLECT_INTEGRATION_REWARDS, return collectIntegrationRewards)]

def codec : Codec InstructionData :=
  .tagged Discriminator.codec (Fits hash proof) (written sha256 hash proof)
    (arms sha256 hash proof) invalidDiscriminator

end

section

variable {sha256 : String → Bytes} {hash : Codec Hash} {proof : Codec MerkleProof}

theorem fits_iff (hhash : hash.Exact) (hproof : proof.Exact) {data : InstructionData} :
    (∀ w ∈ (written sha256 hash proof data).2, ∃ bytes, w = .ok bytes) ↔
      Fits hash proof data := by
  cases data with
  | _ =>
    simp [written, Fits, Pubkey.codec_exact.serialize_iff, u32_exact.serialize_iff,
      u64_exact.serialize_iff, ProgramConfiguration.codec_exact.serialize_iff,
      ContributorRewardsConfiguration.codec_exact.serialize_iff,
      DistributionMerkleRootKind.codec_exact.serialize_iff, hhash.serialize_iff,
      hproof.serialize_iff]

/-- Every instruction has its arm. -/
theorem readsBack (hhash : hash.Exact) (hproof : proof.Exact) (data : InstructionData) :
    ReadsBack (written sha256 hash proof) (arms sha256 hash proof) data := by
  have hkey := Pubkey.codec_exact
  cases data with
  | initializeProgram => exact .unit 0 rfl rfl
  | migrateProgramAccounts => exact .unit 1 rfl rfl
  | setAdmin => exact .one hkey 2 rfl rfl
  | configureProgram => exact .one ProgramConfiguration.codec_exact 3 rfl rfl
  | initializeJournal => exact .unit 4 rfl rfl
  | initializeDistribution => exact .unit 5 rfl rfl
  | configureDistributionDebt => exact .three u32_exact u64_exact hhash 6 rfl rfl
  | finalizeDistributionDebt => exact .unit 7 rfl rfl
  | configureDistributionRewards => exact .two u32_exact hhash 8 rfl rfl
  | finalizeDistributionRewards => exact .unit 9 rfl rfl
  | distributeRewards => exact .three u32_exact u32_exact hproof 10 rfl rfl
  | initializeContributorRewards => exact .one hkey 11 rfl rfl
  | setRewardsManager => exact .one hkey 12 rfl rfl
  | configureContributorRewards =>
    exact .one ContributorRewardsConfiguration.codec_exact 13 rfl rfl
  | verifyDistributionMerkleRoot =>
    exact .two DistributionMerkleRootKind.codec_exact hproof 14 rfl rfl
  | initializeSolanaValidatorDeposit => exact .one hkey 15 rfl rfl
  | paySolanaValidatorDebt => exact .two u64_exact hproof 16 rfl rfl
  | enableSolanaValidatorDebtWriteOff => exact .unit 17 rfl rfl
  | writeOffSolanaValidatorDebt => exact .two u64_exact hproof 18 rfl rfl
  | initializeSwapDestination => exact .unit 19 rfl rfl
  | sweepDistributionTokens => exact .unit 20 rfl rfl
  | withdrawSol => exact .one u64_exact 21 rfl rfl
  | setDistributionEconomicBurnRate => exact .one u32_exact 22 rfl rfl
  | withdrawSolanaValidatorDeposit => exact .unit 23 rfl rfl
  | initializeRewardsIntegration => exact .unit 24 rfl rfl
  | collectIntegrationRewards => exact .unit 25 rfl rfl

/-- Every arm reads what is written. -/
theorem readsOnly (hhash : hash.Exact) (hproof : proof.Exact) :
    ∀ x ∈ arms sha256 hash proof, ReadsOnly (written sha256 hash proof) x := by
  have hkey := Pubkey.codec_exact
  simp only [arms, List.forall_mem_cons]
  refine ⟨.unit rfl, .unit rfl, .one hkey fun _ => rfl,
    .one ProgramConfiguration.codec_exact fun _ => rfl, .unit rfl, .unit rfl,
    .three u32_exact u64_exact hhash fun _ _ _ => rfl, .unit rfl,
    .two u32_exact hhash fun _ _ => rfl, .unit rfl,
    .three u32_exact u32_exact hproof fun _ _ _ => rfl, .one hkey fun _ => rfl,
    .one hkey fun _ => rfl, .one ContributorRewardsConfiguration.codec_exact fun _ => rfl,
    .two DistributionMerkleRootKind.codec_exact hproof fun _ _ => rfl, .one hkey fun _ => rfl,
    .two u64_exact hproof fun _ _ => rfl, .unit rfl, .two u64_exact hproof fun _ _ => rfl,
    .unit rfl, .unit rfl, .one u64_exact fun _ => rfl, .one u32_exact fun _ => rfl, .unit rfl,
    .unit rfl, .unit rfl, by simp⟩

theorem codec_exact (hhash : hash.Exact) (hproof : proof.Exact)
    (hselectors : (selectorNames.map (Discriminator.newSha2 sha256)).Nodup) :
    (codec sha256 hash proof).Exact :=
  Discriminator.codec_exact.tagged (fun _ => Discriminator.codec_fits _)
    ⟨hselectors, fits_iff hhash hproof, readsBack hhash hproof, readsOnly hhash hproof⟩

end

end InstructionData

end DoubleZero.Revenue
