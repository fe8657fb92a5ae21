import DoubleZero.Revenue.State
import DoubleZero.Solana.Image

/-!
# The layouts of the account types

The six `repr(C)` types of `state/`, field by field in the order of their declaration, with the
padding and the storage gaps the records leave out.
-/

namespace DoubleZero.Revenue

open DoubleZero.Lib DoubleZero.Solana

/-! ## Keys, hashes and shares -/

/-- A hash as its 32 bytes. -/
def Hash.pod : Pod Hash := .bigEndian 32 Hash.val Hash.mk (fun _ => rfl) fun _ _ => rfl

/-- A share in the inner integer of its type, where it is one. -/
def UnitShare.pod16 : Pod UnitShare16 :=
  Pod.u16.iso (fun v => UnitShare.new v.toNat) (fun share => UInt16.ofNat share.value) fun v share => by
    rw [UnitShare.new_eq_some]
    have := share.le_max
    constructor
    · intro h
      rw [h, UInt16.ofNat_toNat]
    · rintro rfl
      rw [UInt16.toNat_ofNat_of_lt' (by simp [UInt16.size]; omega)]

def UnitShare.pod32 : Pod UnitShare32 :=
  Pod.u32.iso (fun v => UnitShare.new v.toNat) (fun share => UInt32.ofNat share.value) fun v share => by
    rw [UnitShare.new_eq_some]
    have := share.le_max
    constructor
    · intro h
      rw [h, UInt32.ofNat_toNat]
    · rintro rfl
      rw [UInt32.toNat_ofNat_of_lt' (by simp [UInt32.size]; omega)]

/-- `StorageGap<N>`. -/
def storageGap (n : Nat) : Nat := n * 32

/-! ## Program config -/

def CommunityBurnRateParameters.pod : Pod CommunityBurnRateParameters :=
  (UnitShare.pod32.pair <| Pod.u32.pair <| Pod.u32.pair <| UnitShare.pod32.pair <| Pod.u32.pair <|
    UnitShare.pod32).iso
    (fun (limit, toIncreasing, toLimit, numerator, denominator, next) =>
      some ⟨limit, toIncreasing, toLimit, numerator, denominator, next⟩)
    (fun p => (p.limit, p.dzEpochsToIncreasing, p.dzEpochsToLimit, p.cachedSlopeNumerator,
      p.cachedSlopeDenominator, p.cachedNextBurnRate))
    fun _ _ => ⟨by rintro h; cases h; rfl, by rintro rfl; rfl⟩

def SolanaValidatorFeeParameters.pod : Pod SolanaValidatorFeeParameters :=
  (UnitShare.pod16.pair <| UnitShare.pod16.pair <| UnitShare.pod16.pair <| UnitShare.pod16.pair <|
    Pod.u32.padded 28).iso
    (fun (base, priority, inflation, jito, fixed) => some ⟨base, priority, inflation, jito, fixed⟩)
    (fun p => (p.baseBlockRewardsPct, p.priorityBlockRewardsPct, p.inflationRewardsPct,
      p.jitoTipsPct, p.fixedSolAmount))
    fun _ _ => ⟨by rintro h; cases h; rfl, by rintro rfl; rfl⟩

def DistributionParameters.pod : Pod DistributionParameters :=
  (Pod.u16.pair <| Pod.u16.pair <| (Pod.u8.padded 3).pair <| CommunityBurnRateParameters.pod.pair <|
    SolanaValidatorFeeParameters.pod.padded (storageGap 8)).iso
    (fun (calculation, initialization, minimum, burnRate, fees) =>
      some ⟨calculation, initialization, minimum, burnRate, fees⟩)
    (fun p => (p.calculationGracePeriodMinutes, p.initializationGracePeriodMinutes,
      p.minimumEpochDurationToFinalizeRewards, p.communityBurnRateParameters,
      p.solanaValidatorFeeParameters))
    fun _ _ => ⟨by rintro h; cases h; rfl, by rintro rfl; rfl⟩

/-- After the placeholder of another relay fee. -/
def RelayParameters.pod : Pod RelayParameters :=
  ((Pod.u32.preceded 4).padded (storageGap 1)).iso (fun lamports => some ⟨lamports⟩)
    (fun p => p.distributeRewardsLamports)
    fun _ _ => ⟨by rintro h; cases h; rfl, by rintro rfl; rfl⟩

/-- `_placeholder_key` is the 32 unused bytes after `contributor_manager_key`. -/
def ProgramConfig.pod : Pod ProgramConfig :=
  ((Pod.bits 8).pair <| Pod.u64.pair <| Pod.u8.pair <| Pod.u8.pair <| Pod.u8.pair <| Pod.u8.pair <|
    (Pod.u8.padded 3).pair <| Pubkey.pod.pair <| Pubkey.pod.pair <| Pubkey.pod.pair <|
    (Pubkey.pod.padded 32).pair <| Pubkey.pod.pair <| DistributionParameters.pod.pair <|
    RelayParameters.pod.pair <| (Pod.u32.padded 4).pair Pod.u64).iso
    (fun (flags, nextEpoch, bump, reserveBump, swapBump, swap2zBump, withdrawBump, admin, debt,
        rewards, contributor, swapProgram, parameters, relay, timestamp, activation) =>
      some ⟨flags, nextEpoch, bump, reserveBump, swapBump, swap2zBump, withdrawBump, admin, debt,
        rewards, contributor, swapProgram, parameters, relay, timestamp, activation⟩)
    (fun c => (c.flags, c.nextCompletedDzEpoch, c.bumpSeed, c.reserve2zBumpSeed,
      c.swapAuthorityBumpSeed, c.swapDestination2zBumpSeed, c.withdrawSolAuthorityBumpSeed,
      c.adminKey, c.debtAccountantKey, c.rewardsAccountantKey, c.contributorManagerKey,
      c.sol2zSwapProgramId, c.distributionParameters, c.relayParameters,
      c.lastInitializedDistributionTimestamp, c.debtWriteOffFeatureActivationEpoch))
    fun _ _ => ⟨by rintro h; cases h; rfl, by rintro rfl; rfl⟩

/-! ## Journal -/

def Journal.pod : Pod Journal :=
  (Pod.u8.pair <| Pod.u8.pair <| (Pod.u16.padded 4).pair <| Pod.u64.pair <| Pod.u64.pair <|
    Pod.u64.pair <| Pod.u64.pair <| Pod.u64.pair <| Pod.bits 16).iso
    (fun (bump, tokenBump, integrations, sol, token2z, swap2z, swapped, next, lifetime) =>
      some ⟨bump, tokenBump, integrations, sol, token2z, swap2z, swapped, next, lifetime⟩)
    (fun j => (j.bumpSeed, j.token2zPdaBumpSeed, j.integrationsCount, j.totalSolBalance,
      j.total2zBalance, j.swap2zDestinationBalance, j.swappedSolAmount,
      j.nextDzEpochToSweepTokens, j.lifetimeSwapped2zAmount))
    fun _ _ => ⟨by rintro h; cases h; rfl, by rintro rfl; rfl⟩

/-! ## Distribution -/

def Distribution.pod : Pod Distribution :=
  (Pod.u64.pair <| (Pod.bits 8).pair <| UnitShare.pod32.pair <| Pod.u8.pair <|
    (Pod.u8.padded 2).pair <| SolanaValidatorFeeParameters.pod.pair <| Hash.pod.pair <|
    Pod.u32.pair <| Pod.u32.pair <| Pod.u64.pair <| Pod.u64.pair <| Hash.pod.pair <|
    Pod.u32.pair <| Pod.u32.pair <| Pod.u64.pair <| Pod.u64.pair <| Pod.u64.pair <|
    Pod.u32.pair <| Pod.u32.pair <| Pod.u32.pair <| Pod.u32.pair <| Pod.u32.pair <|
    Pod.u32.pair <| Pod.u64.pair <| Pod.u64.pair <| Pod.u32.pair <| Pod.u32.pair <|
    Pod.u32.pair <| UnitShare.pod32.pair <| Pod.u16.pair <| (Pod.u16.padded 4).pair <|
    (Pod.bits 64).pair <| Pod.u64.padded (storageGap 4)).iso
    (fun (dzEpoch, flags, communityBurnRate, bump, tokenBump, fees, debtRoot, validators, payments,
        totalDebt, collectedPayments, rewardsRoot, contributors, distributedCount, prepaid,
        converted, uncollectible, debtStart, debtEnd, rewardsStart, rewardsEnd, relay, allowed,
        distributed, burned, writeOffStart, writeOffEnd, writeOffCount, economicBurnRate, snapshot,
        collectedCount, bitmap, fromIntegrations) =>
      some ⟨dzEpoch, flags, communityBurnRate, bump, tokenBump, fees, debtRoot, validators, payments,
        totalDebt, collectedPayments, rewardsRoot, contributors, distributedCount, prepaid,
        converted, uncollectible, debtStart, debtEnd, rewardsStart, rewardsEnd, relay, allowed,
        distributed, burned, writeOffStart, writeOffEnd, writeOffCount, economicBurnRate, snapshot,
        collectedCount, bitmap, fromIntegrations⟩)
    (fun d => (d.dzEpoch, d.flags, d.communityBurnRate, d.bumpSeed, d.token2zPdaBumpSeed,
      d.solanaValidatorFeeParameters, d.solanaValidatorDebtMerkleRoot, d.totalSolanaValidators,
      d.solanaValidatorPaymentsCount, d.totalSolanaValidatorDebt,
      d.collectedSolanaValidatorPayments, d.rewardsMerkleRoot, d.totalContributors,
      d.distributedRewardsCount, d.collectedPrepaid2zPayments, d.collected2zConvertedFromSol,
      d.uncollectibleSolDebt, d.processedSolanaValidatorDebtStartIndex,
      d.processedSolanaValidatorDebtEndIndex, d.processedRewardsStartIndex,
      d.processedRewardsEndIndex, d.distributeRewardsRelayLamports, d.calculationAllowedTimestamp,
      d.distributed2zAmount, d.burned2zAmount, d.processedSolanaValidatorDebtWriteOffStartIndex,
      d.processedSolanaValidatorDebtWriteOffEndIndex, d.solanaValidatorWriteOffCount,
      d.economicBurnRate, d.integrationsCountSnapshot, d.integrationsCollectedCount,
      d.collectedIntegrationsBitmap, d.collected2zFromIntegrations))
    fun _ _ => ⟨by rintro h; cases h; rfl, by rintro rfl; rfl⟩

/-! ## Contributors, deposits and integrations -/

def RecipientShare.pod : Pod RecipientShare :=
  (Pubkey.pod.pair UnitShare.pod16).iso (fun (key, share) => some ⟨key, share⟩)
    (fun r => (r.recipientKey, r.share))
    fun _ _ => ⟨by rintro h; cases h; rfl, by rintro rfl; rfl⟩

def RecipientShares.pod : Pod RecipientShares :=
  (RecipientShare.pod.array MAX_RECIPIENTS).iso (fun entries => some ⟨entries⟩)
    (fun shares => shares.entries)
    fun _ _ => ⟨by rintro h; cases h; rfl, by rintro rfl; rfl⟩

def ContributorRewards.pod : Pod ContributorRewards :=
  (Pubkey.pod.pair <| Pubkey.pod.pair <| (Pod.bits 8).pair <|
    RecipientShares.pod.padded (storageGap 8)).iso
    (fun (manager, service, flags, shares) => some ⟨manager, service, flags, shares⟩)
    (fun c => (c.rewardsManagerKey, c.serviceKey, c.flags, c.recipientShares))
    fun _ _ => ⟨by rintro h; cases h; rfl, by rintro rfl; rfl⟩

def SolanaValidatorDeposit.pod : Pod SolanaValidatorDeposit :=
  (Pubkey.pod.pair <| Pod.u64.padded (24 + storageGap 1)).iso
    (fun (nodeId, writtenOff) => some ⟨nodeId, writtenOff⟩)
    (fun d => (d.nodeId, d.writtenOffSolDebt))
    fun _ _ => ⟨by rintro h; cases h; rfl, by rintro rfl; rfl⟩

/-- The eight bytes of `_flags` are reserved. -/
def RewardsIntegration.pod : Pod RewardsIntegration :=
  (Pubkey.pod.pair <| (Pod.u8.padded 1).pair <| Pod.u16.padded (4 + 8 + storageGap 4)).iso
    (fun (programId, bump, index) => some ⟨programId, bump, index⟩)
    (fun i => (i.programId, i.bumpSeed, i.registrationIndex))
    fun _ _ => ⟨by rintro h; cases h; rfl, by rintro rfl; rfl⟩

/-! ## The account types -/

def AccountState.name : AccountState → String
  | .programConfig _ => ZeroCopy.discriminator AccountState ProgramConfig
  | .journal _ => ZeroCopy.discriminator AccountState Journal
  | .distribution _ => ZeroCopy.discriminator AccountState Distribution
  | .contributorRewards _ => ZeroCopy.discriminator AccountState ContributorRewards
  | .solanaValidatorDeposit _ => ZeroCopy.discriminator AccountState SolanaValidatorDeposit
  | .rewardsIntegration _ => ZeroCopy.discriminator AccountState RewardsIntegration

instance : Imaged AccountState where
  name := AccountState.name
  block
    | .programConfig c => ProgramConfig.pod.bytes c
    | .journal j => Journal.pod.bytes j
    | .distribution d => Distribution.pod.bytes d
    | .contributorRewards c => ContributorRewards.pod.bytes c
    | .solanaValidatorDeposit d => SolanaValidatorDeposit.pod.bytes d
    | .rewardsIntegration i => RewardsIntegration.pod.bytes i
  Fits
    | .programConfig c => ProgramConfig.pod.Fits c
    | .journal j => Journal.pod.Fits j
    | .distribution d => Distribution.pod.Fits d
    | .contributorRewards c => ContributorRewards.pod.Fits c
    | .solanaValidatorDeposit d => SolanaValidatorDeposit.pod.Fits d
    | .rewardsIntegration i => RewardsIntegration.pod.Fits i
  length_block s := by cases s <;> simp only [Pod.length_bytes] <;> rfl

instance : LaidOut AccountState ProgramConfig where
  pod := ProgramConfig.pod
  size_eq := rfl
  zero := by decide +kernel
  block_wrap _ := rfl
  fits_wrap _ := .rfl
  name_eq s := by cases s <;> simp [Imaged.name, AccountState.name, ZeroCopy.discriminator, wrap]

instance : LaidOut AccountState Journal where
  pod := Journal.pod
  size_eq := rfl
  zero := by decide +kernel
  block_wrap _ := rfl
  fits_wrap _ := .rfl
  name_eq s := by cases s <;> simp [Imaged.name, AccountState.name, ZeroCopy.discriminator, wrap]

instance : LaidOut AccountState Distribution where
  pod := Distribution.pod
  size_eq := rfl
  zero := by decide +kernel
  block_wrap _ := rfl
  fits_wrap _ := .rfl
  name_eq s := by cases s <;> simp [Imaged.name, AccountState.name, ZeroCopy.discriminator, wrap]

instance : LaidOut AccountState ContributorRewards where
  pod := ContributorRewards.pod
  size_eq := rfl
  zero := by decide +kernel
  block_wrap _ := rfl
  fits_wrap _ := .rfl
  name_eq s := by cases s <;> simp [Imaged.name, AccountState.name, ZeroCopy.discriminator, wrap]

instance : LaidOut AccountState SolanaValidatorDeposit where
  pod := SolanaValidatorDeposit.pod
  size_eq := rfl
  zero := by decide +kernel
  block_wrap _ := rfl
  fits_wrap _ := .rfl
  name_eq s := by cases s <;> simp [Imaged.name, AccountState.name, ZeroCopy.discriminator, wrap]

instance : LaidOut AccountState RewardsIntegration where
  pod := RewardsIntegration.pod
  size_eq := rfl
  zero := by decide +kernel
  block_wrap _ := rfl
  fits_wrap _ := .rfl
  name_eq s := by cases s <;> simp [Imaged.name, AccountState.name, ZeroCopy.discriminator, wrap]

/-! ## What fits

Words and shares always have room. Keys and hashes are numbers here, and the array of recipients is
a list. -/

section

@[simp] theorem UnitShare.pod16_fits {share : UnitShare16} : UnitShare.pod16.Fits share :=
  Pod.u16_fits _

@[simp] theorem UnitShare.pod32_fits {share : UnitShare32} : UnitShare.pod32.Fits share :=
  Pod.u32_fits _

@[simp] theorem CommunityBurnRateParameters.pod_fits {p : CommunityBurnRateParameters} :
    CommunityBurnRateParameters.pod.Fits p := by
  simp [CommunityBurnRateParameters.pod]

@[simp] theorem SolanaValidatorFeeParameters.pod_fits {p : SolanaValidatorFeeParameters} :
    SolanaValidatorFeeParameters.pod.Fits p := by
  simp [SolanaValidatorFeeParameters.pod]

@[simp] theorem DistributionParameters.pod_fits {p : DistributionParameters} :
    DistributionParameters.pod.Fits p := by
  simp [DistributionParameters.pod]

@[simp] theorem RelayParameters.pod_fits {p : RelayParameters} : RelayParameters.pod.Fits p := by
  simp [RelayParameters.pod]

theorem ProgramConfig.pod_fits {c : ProgramConfig} :
    ProgramConfig.pod.Fits c ↔ Pubkey.pod.Fits c.adminKey ∧ Pubkey.pod.Fits c.debtAccountantKey ∧
      Pubkey.pod.Fits c.rewardsAccountantKey ∧ Pubkey.pod.Fits c.contributorManagerKey ∧
      Pubkey.pod.Fits c.sol2zSwapProgramId := by
  simp [ProgramConfig.pod]

theorem Journal.pod_fits (j : Journal) : Journal.pod.Fits j := by
  simp [Journal.pod]

theorem Distribution.pod_fits {d : Distribution} :
    Distribution.pod.Fits d ↔
      Hash.pod.Fits d.solanaValidatorDebtMerkleRoot ∧ Hash.pod.Fits d.rewardsMerkleRoot := by
  simp [Distribution.pod]

theorem RecipientShares.pod_fits {shares : RecipientShares} :
    RecipientShares.pod.Fits shares ↔ shares.entries.length = MAX_RECIPIENTS ∧
      ∀ r ∈ shares.entries, Pubkey.pod.Fits r.recipientKey := by
  simp [RecipientShares.pod, RecipientShare.pod]

theorem ContributorRewards.pod_fits {c : ContributorRewards} :
    ContributorRewards.pod.Fits c ↔ Pubkey.pod.Fits c.rewardsManagerKey ∧
      Pubkey.pod.Fits c.serviceKey ∧ RecipientShares.pod.Fits c.recipientShares := by
  simp [ContributorRewards.pod]

theorem SolanaValidatorDeposit.pod_fits {d : SolanaValidatorDeposit} :
    SolanaValidatorDeposit.pod.Fits d ↔ Pubkey.pod.Fits d.nodeId := by
  simp [SolanaValidatorDeposit.pod]

theorem RewardsIntegration.pod_fits {i : RewardsIntegration} :
    RewardsIntegration.pod.Fits i ↔ Pubkey.pod.Fits i.programId := by
  simp [RewardsIntegration.pod]

end

/-! ## The discriminators -/

def accountNames : List String :=
  [ZeroCopy.discriminator AccountState ProgramConfig, ZeroCopy.discriminator AccountState Journal,
    ZeroCopy.discriminator AccountState Distribution,
    ZeroCopy.discriminator AccountState ContributorRewards,
    ZeroCopy.discriminator AccountState SolanaValidatorDeposit,
    ZeroCopy.discriminator AccountState RewardsIntegration]

theorem discriminating_of {sha256 : String → Borsh.Bytes}
    (hnodup : (accountNames.map (discriminatorSlice sha256)).Nodup)
    (hzero : List.replicate DISCRIMINATOR_LEN 0#8 ∉ accountNames.map (discriminatorSlice sha256)) :
    Discriminating sha256 AccountState := by
  have hmem : ∀ s : AccountState, Imaged.name s ∈ accountNames := by
    intro s
    cases s <;> simp [accountNames, Imaged.name, AccountState.name]
  constructor
  · intro s s' heq
    exact List.inj_on_of_nodup_map hnodup (hmem s) (hmem s') heq
  · intro s heq
    exact hzero (heq ▸ List.mem_map_of_mem (hmem s))

namespace Sample

/-- The first eight bytes of the digests of the names. -/
def accountDigests : List (String × Nat) :=
  [("dz::account::program_config", 0xcfb485ec3027f11b),
    ("dz::account::journal", 0xf97c5314a23e4309),
    ("dz::account::distribution", 0x879e8fd81d22c025),
    ("dz::account::contributor_rewards", 0x711ed92800b9e2cb),
    ("dz::account::solana_validator_deposit", 0x14e90cc59bf9cbaa),
    ("dz::account::rewards_integration", 0x9b94ab80fec5d245)]

def accountSha256 (name : String) : Borsh.Bytes :=
  (Borsh.toLE 8 ((accountDigests.lookup name).getD 0)).reverse

end Sample

/-- The runs of the zero-copy operations on the bytes of an account of the program. -/
theorem account_runs {sha256 : String → Borsh.Bytes}
    (hnodup : (accountNames.map (discriminatorSlice sha256)).Nodup)
    (hzero : List.replicate DISCRIMINATOR_LEN 0#8 ∉ accountNames.map (discriminatorSlice sha256))
    (len : Nat) :
    (∀ bytes, Relation.ReflTransGen (ImageStep sha256 AccountState) (List.replicate len 0#8) bytes →
      ∃ data : AccountData AccountState, Relation.ReflTransGen DataStep (.zeroed len) data ∧
        Shows sha256 data bytes) ∧
    ∀ data : AccountData AccountState, Relation.ReflTransGen DataStep (.zeroed len) data →
      ∃ bytes, Relation.ReflTransGen (ImageStep sha256 AccountState) (List.replicate len 0#8) bytes ∧
        Shows sha256 data bytes :=
  zeroCopy_runs (discriminating_of hnodup hzero) len

namespace Sample

/-- The account of a deposit with nothing in it yet. -/
def depositSplit : RefSplit :=
  ⟨discriminatorSlice accountSha256 (ZeroCopy.discriminator AccountState SolanaValidatorDeposit),
    List.replicate 96 0#8, []⟩

/-- The deposit is assigned when it is created, and again when debt is written off. -/
def createdSplit : RefSplit :=
  depositSplit.assign (D := AccountState) (⟨⟨8⟩, 0⟩ : SolanaValidatorDeposit) []
def writtenOffSplit : RefSplit :=
  createdSplit.assign (D := AccountState) (⟨⟨8⟩, 50⟩ : SolanaValidatorDeposit) []

theorem deposit_fits (writtenOff : UInt64) :
    Imaged.Fits (wrap (⟨⟨8⟩, writtenOff⟩ : SolanaValidatorDeposit) : AccountState) :=
  SolanaValidatorDeposit.pod_fits.2 (show (8 : Nat) < 256 ^ 32 by decide)

/-- On the bytes. -/
theorem deposit_run : Relation.ReflTransGen (ImageStep accountSha256 AccountState)
    (List.replicate 104 0#8) writtenOffSplit.data := by
  have hcreated : ImageStep accountSha256 AccountState (List.replicate 104 0#8) createdSplit.data :=
    .create (tryInitializeData_eq_ok.2 ⟨by decide +kernel, rfl, rfl⟩) (deposit_fits 0)
  have hwritten : ImageStep accountSha256 AccountState createdSplit.data writtenOffSplit.data :=
    .assign (tryFromAccountData_eq_ok.2 ⟨rfl, by decide +kernel, rfl⟩) (deposit_fits 50) rfl
  exact .tail (.single hcreated) hwritten

def appointedConfig : ProgramConfig := { (default : ProgramConfig) with adminKey := ⟨4⟩ }

theorem config_fits {admin : Pubkey} (hadmin : admin.val < 256 ^ 32) :
    Imaged.Fits (wrap { (default : ProgramConfig) with adminKey := admin } : AccountState) := by
  have hdefault : (default : Pubkey).val < 256 ^ 32 := by decide
  exact ProgramConfig.pod_fits.2 ⟨hadmin, hdefault, hdefault, hdefault, hdefault⟩

/-- On a value: a config is created, and an admin is appointed. -/
theorem config_run : Relation.ReflTransGen DataStep (.zeroed 608 : AccountData AccountState)
    (.zeroCopy (wrap appointedConfig) []) := by
  have hcreated : DataStep (.zeroed 608 : AccountData AccountState)
      (.zeroCopy (wrap (default : ProgramConfig)) []) :=
    .create (le_of_eq rfl) (config_fits (by decide))
  exact .tail (.single hcreated) (.assign (config_fits (by decide)) rfl)

end Sample

/-- With the real discriminators: a run on the bytes of a deposit is a run of its value, and a run of
a config is one on bytes, off which a client reads the config. -/
theorem account_runs_sample :
    (∃ bytes, Relation.ReflTransGen (ImageStep Sample.accountSha256 AccountState)
        (List.replicate 104 0#8) bytes ∧
      checkedFromBytesWithDiscriminator Sample.accountSha256 AccountState SolanaValidatorDeposit
        bytes = some (⟨⟨8⟩, 50⟩, []) ∧
      Relation.ReflTransGen DataStep (.zeroed 104 : AccountData AccountState)
        (.zeroCopy (wrap (⟨⟨8⟩, 50⟩ : SolanaValidatorDeposit)) [])) ∧
    ∃ bytes, Relation.ReflTransGen (ImageStep Sample.accountSha256 AccountState)
        (List.replicate 608 0#8) bytes ∧
      checkedFromBytesWithDiscriminator Sample.accountSha256 AccountState ProgramConfig bytes =
        some (Sample.appointedConfig, []) := by
  have hnodup : (accountNames.map (discriminatorSlice Sample.accountSha256)).Nodup := by
    decide +kernel
  have hzero : List.replicate DISCRIMINATOR_LEN 0#8 ∉
      accountNames.map (discriminatorSlice Sample.accountSha256) := by decide +kernel
  constructor
  · obtain ⟨data, hdata, hshows⟩ := (account_runs hnodup hzero 104).1 _ Sample.deposit_run
    have hread : checkedFromBytesWithDiscriminator Sample.accountSha256 AccountState
        SolanaValidatorDeposit Sample.writtenOffSplit.data = some (⟨⟨8⟩, 50⟩, []) := by
      decide +kernel
    exact ⟨_, Sample.deposit_run, hread, (hshows.read _ _ _).1 hread ▸ hdata⟩
  · obtain ⟨bytes, hbytes, hshows⟩ := (account_runs hnodup hzero 608).2 _ Sample.config_run
    exact ⟨bytes, hbytes, (hshows.read _ _ _).2 rfl⟩

end DoubleZero.Revenue
