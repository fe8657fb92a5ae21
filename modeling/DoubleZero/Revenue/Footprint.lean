import DoubleZero.Revenue.Step
import DoubleZero.Solana.Footprint

/-!
# What a call looks at

Every instruction of the program stays within the accounts it is given (`Stays`), the program it
calls within the accounts passed on to it. Of the rest of the chain a call neither depends on
anything nor changes anything (`process_confined`).
-/

namespace DoubleZero.Revenue

open DoubleZero.Lib DoubleZero.Solana Classical

variable {K : Set Pubkey} {rt : Runtime} {env : Env}

/-- The program that is called works on the accounts in `K`. -/
def Env.Confined (K : Set Pubkey) (env : Env) : Prop :=
  ∀ L L', env.cpi (K.piecewise L L') = (env.cpi L).map fun r => (K.piecewise r.1 L', r.2)

/-! ## Accounts and checks -/

section Accounts

theorem stays_invokeSigned {seeds : List (List Seed × UInt8)}
    {f : List Pubkey → RevenueLedger → Except ProgramError RevenueLedger}
    (hf : ∀ signers, Lib.Confined K (f signers)) :
    Stays K (fun _ => True) (rt.invokeSigned seeds f) :=
  .invokeSigned hf

theorem stays_invokeForeign {seeds : List Seed} {bump : UInt8} (henv : env.Confined K) :
    Stays K (fun _ => True) (rt.invokeForeign env seeds bump) := by
  refine ⟨fun {s} L _ => ?_, fun {s a s₁} hs h => ?_⟩
  · unfold Runtime.invokeForeign
    cases rt.create seeds bump with
    | none => rfl
    | some _ =>
      have heq := henv s.ledger L
      simp only [Exec.patch, heq]
      cases env.cpi s.ledger with
      | error e => rfl
      | ok r => rfl
  · unfold Runtime.invokeForeign at h
    split at h
    · cases h
    · split at h
      · cases h
        exact ⟨trivial, hs⟩
      · cases h

theorem stays_createOwned {payer newAccount : AccountInfo} {seeds : List Seed} {bump : UInt8}
    {len : Nat} {additional : Option Nat} (hpayer : payer.key ∈ K) (hnew : newAccount.key ∈ K) :
    Stays K (fun _ => True) (rt.createOwned payer newAccount seeds bump len additional) :=
  (Stays.account hnew).bind fun _ _ => .tryCreateAccount hpayer hnew

theorem stays_create2zToken {payer newAccount : AccountInfo} {tokenOwner : Pubkey} {bump : UInt8}
    (hpayer : payer.key ∈ K) (hnew : newAccount.key ∈ K) :
    Stays K (fun _ => True) (rt.create2zToken payer newAccount tokenOwner bump) :=
  (Stays.account hnew).bind fun _ _ => .tryCreateTokenAccount hpayer hnew

theorem stays_authorized {authority : Authority} {config : ProgramConfig} :
    Stays K (fun _ => True) (authority.tryNextAsAuthorizedAccount config) :=
  Stays.tryNextEnumeratedAccount.bind fun _ _ => Stays.require.mono fun _ _ => trivial

theorem stays_verified {authority : Authority} :
    Stays K (fun acct => acct.info.key ∈ K) (verifiedProgramAuthority authority) :=
  Stays.tryNextZeroCopy.bind fun _ hconfig => stays_authorized.bind fun _ _ => .pure hconfig

theorem stays_verifiedMut {authority : Authority} :
    Stays K (fun acct => acct.info.key ∈ K) (verifiedProgramAuthorityMut authority) :=
  Stays.tryNextZeroCopyMut.bind fun _ hconfig => stays_authorized.bind fun _ _ => .pure hconfig

theorem stays_upgradeAuthority : Stays K (fun _ => True) (upgradeAuthority rt) := by
  unfold upgradeAuthority
  refine Stays.tryNextEnumeratedAccount.bind fun programData hdata => ?_
  refine Stays.require.bind fun _ _ => Stays.tryNextEnumeratedAccount.bind fun owner _ => ?_
  refine (Stays.account hdata).bind fun acct _ => ?_
  split
  · exact Stays.require.mono fun _ _ => trivial
  · exact .fail

theorem stays_mint : Stays K (fun _ => True) tryNext2zMintInfo :=
  Stays.tryNextEnumeratedAccount.bind fun _ _ => Stays.require.mono fun _ _ => trivial

theorem stays_tokenProgram : Stays K (fun _ => True) tryNextTokenProgramInfo :=
  Stays.tryNextEnumeratedAccount.bind fun _ _ => Stays.require.mono fun _ _ => trivial

theorem stays_tokenPda {tokenOwner : Pubkey} {name : String} {bump : Option UInt8} :
    Stays K (fun r => r.1.key ∈ K) (tryNext2zTokenPdaInfo rt tokenOwner name bump) :=
  Stays.tryNextEnumeratedAccount.bind fun _ hinfo => Stays.okOr.bind fun _ _ =>
    Stays.require.bind fun _ _ => .pure hinfo

theorem stays_tokenAmount {info : AccountInfo} (hinfo : info.key ∈ K) :
    Stays K (fun _ => True) (tryTokenAccountAmount info) :=
  (Stays.account hinfo).bind fun _ _ => Stays.okOr.bind fun _ _ => .pure trivial

theorem stays_processLeaf {rem : List (BitVec 8)} {start stop leafIndex : UInt32} {log : String} :
    Stays K (fun _ => True) (processLeaf rem start stop leafIndex log) := by
  refine .of_pure ?_
  unfold processLeaf
  split
  · cases tryProcessRemainingDataLeafIndex (window rem start.toNat stop.toNat) leafIndex with
    | ok bytes => exact .inl ⟨_, trivial, fun _ => rfl⟩
    | error e =>
      cases e with
      | err e log' => exact .inr ⟨.err e log, fun _ => rfl⟩
      | panic m => exact .inr ⟨.panic m, fun _ => rfl⟩
  · exact .inr ⟨_, fun _ => rfl⟩

theorem stays_growDistribution {account : ZeroCopyAccount Distribution} {updated : Distribution}
    {n : UInt32} {relayLamports : Nat} (hkey : account.info.key ∈ K) :
    Stays K (fun _ => True) (growDistribution rt account updated n relayLamports) := by
  unfold growDistribution
  refine (Stays.store hkey).bind fun _ _ => (Stays.account hkey).bind fun _ _ => ?_
  refine (Stays.resize hkey).bind fun _ _ => (Stays.account hkey).bind fun _ _ => ?_
  refine Stays.tryNextEnumeratedAccount.bind fun _ hpayer => ?_
  exact stays_invokeSigned fun _ => System.confined_transfer hpayer hkey

end Accounts

/-! ## Setting up and configuring -/

section Setup

theorem stays_initializeProgram : Stays K (fun _ => True) (tryInitializeProgram rt) := by
  unfold tryInitializeProgram
  refine Stays.tryNextEnumeratedAccount.bind fun _ hpayer => ?_
  refine Stays.tryNextEnumeratedAccount.bind fun _ hconfig => Stays.require.bind fun _ _ => ?_
  refine (stays_createOwned hpayer hconfig).bind fun _ _ => stays_tokenPda.bind fun _ htoken => ?_
  refine stays_mint.bind fun _ _ => stays_tokenProgram.bind fun _ _ => ?_
  refine (stays_create2zToken hpayer htoken).bind fun _ _ => ?_
  exact (Stays.tryInitialize hconfig).bind fun _ _ => .store hconfig

theorem stays_setAdmin {adminKey : Pubkey} : Stays K (fun _ => True) (trySetAdmin rt adminKey) :=
  stays_upgradeAuthority.bind fun _ _ => Stays.tryNextZeroCopyMut.bind fun _ hconfig =>
    .store hconfig

theorem stays_tryUnitShare {max v : Nat} {log : String} :
    Stays K (fun _ => True) (tryUnitShare v log : RevenueProcessor (UnitShare max)) :=
  Stays.okOr.mono fun _ _ => trivial

theorem stays_configure {config : ProgramConfig} {setting : ProgramConfiguration} :
    Stays K (fun _ => True) (config.tryConfigure rt setting) := by
  cases setting with
  | flag flag =>
    cases flag with
    | isPaused shouldPause => exact .pure trivial
  | debtAccountant key | rewardsAccountant key | contributorManager key | sol2zSwapProgram key =>
    exact .pure trivial
  | placeholderKey key | placeholderRelayLamports lamports => exact .fail
  | solanaValidatorFeeParameters base priority inflation jito fixedSolAmount unused =>
    refine stays_tryUnitShare.bind fun _ _ => stays_tryUnitShare.bind fun _ _ => ?_
    exact stays_tryUnitShare.bind fun _ _ => stays_tryUnitShare.bind fun _ _ => .pure trivial
  | calculationGracePeriodMinutes minutes | distributionInitializationGracePeriodMinutes minutes =>
    exact Stays.require.bind fun _ _ => Stays.require.bind fun _ _ => .pure trivial
  | communityBurnRateParameters limit toIncreasing toLimit initialRate =>
    refine stays_tryUnitShare.bind fun limit _ => ?_
    cases initialRate with
    | some rate =>
      refine Stays.require.bind fun _ _ => stays_tryUnitShare.bind fun _ _ => ?_
      exact Stays.okOr.bind fun _ _ => .pure trivial
    | none =>
      dsimp only
      split
      · exact .pure trivial
      · exact Stays.unwrap!.bind fun _ _ => .fail
  | distributeRewardsRelayLamports lamports | minimumEpochDurationToFinalizeRewards duration =>
    exact Stays.require.bind fun _ _ => .pure trivial
  | featureActivation feature activationEpoch =>
    cases feature with
    | solanaValidatorDebtWriteOff => exact Stays.require.bind fun _ _ => .pure trivial

theorem stays_configureProgram {setting : ProgramConfiguration} :
    Stays K (fun _ => True) (tryConfigureProgram rt setting) :=
  stays_verifiedMut.bind fun _ hconfig => stays_configure.bind fun _ _ => .store hconfig

theorem stays_initializeJournal : Stays K (fun _ => True) (tryInitializeJournal rt) := by
  unfold tryInitializeJournal
  refine Stays.tryNextEnumeratedAccount.bind fun _ hpayer => ?_
  refine Stays.tryNextEnumeratedAccount.bind fun _ hjournal => Stays.require.bind fun _ _ => ?_
  refine (stays_createOwned hpayer hjournal).bind fun _ _ => stays_tokenPda.bind fun _ htoken => ?_
  refine stays_mint.bind fun _ _ => stays_tokenProgram.bind fun _ _ => ?_
  refine (stays_create2zToken hpayer htoken).bind fun _ _ => ?_
  exact (Stays.tryInitialize hjournal).bind fun _ _ => .store hjournal

theorem stays_initializeContributorRewards {serviceKey : Pubkey} :
    Stays K (fun _ => True) (tryInitializeContributorRewards rt serviceKey) := by
  unfold tryInitializeContributorRewards
  refine Stays.tryNextEnumeratedAccount.bind fun _ hpayer => ?_
  refine Stays.tryNextEnumeratedAccount.bind fun _ hrewards => Stays.require.bind fun _ _ => ?_
  refine (stays_createOwned hpayer hrewards).bind fun _ _ => ?_
  exact (Stays.tryInitialize hrewards).bind fun _ _ => .store hrewards

theorem stays_setRewardsManager {key : Pubkey} :
    Stays K (fun _ => True) (trySetRewardsManager key) :=
  stays_verified.bind fun _ _ => Stays.require.bind fun _ _ =>
    Stays.tryNextZeroCopyMut.bind fun _ hrewards => Stays.require.bind fun _ _ => .store hrewards

theorem stays_configureContributorRewards {setting : ContributorRewardsConfiguration} :
    Stays K (fun _ => True) (tryConfigureContributorRewards setting) := by
  unfold tryConfigureContributorRewards
  refine Stays.tryNextZeroCopy.bind fun _ _ => Stays.require.bind fun _ _ => ?_
  refine Stays.tryNextZeroCopyMut.bind fun rewards hrewards => ?_
  refine Stays.tryNextEnumeratedAccount.bind fun _ _ => Stays.require.bind fun _ _ => ?_
  have hconfigure : Stays K (fun _ => True) (rewards.data.tryConfigure setting) := by
    cases setting with
    | recipients recipients => exact Stays.okOr.bind fun _ _ => .pure trivial
    | isSetRewardsManagerBlocked shouldBlock => exact .pure trivial
  exact hconfigure.bind fun _ _ => .store hrewards

theorem stays_initializeSolanaValidatorDeposit {nodeId : Pubkey} :
    Stays K (fun _ => True) (tryInitializeSolanaValidatorDeposit rt nodeId) := by
  unfold tryInitializeSolanaValidatorDeposit
  refine Stays.tryNextEnumeratedAccount.bind fun _ hdeposit => Stays.require.bind fun _ _ => ?_
  refine Stays.tryNextEnumeratedAccount.bind fun _ hpayer => ?_
  refine (Stays.account hdeposit).bind fun _ _ => (stays_createOwned hpayer hdeposit).bind fun _ _ => ?_
  exact (Stays.tryInitialize hdeposit).bind fun _ _ => .store hdeposit

theorem stays_initializeRewardsIntegration :
    Stays K (fun _ => True) (tryInitializeRewardsIntegration rt) := by
  unfold tryInitializeRewardsIntegration
  refine stays_verified.bind fun _ _ => Stays.tryNextEnumeratedAccount.bind fun _ _ => ?_
  refine Stays.tryNextEnumeratedAccount.bind fun _ hpayer => ?_
  refine Stays.tryNextEnumeratedAccount.bind fun _ hnew => Stays.require.bind fun _ _ => ?_
  refine (stays_createOwned hpayer hnew).bind fun _ _ => (Stays.tryInitialize hnew).bind fun _ _ => ?_
  refine Stays.tryNextZeroCopyMut.bind fun _ hjournal => Stays.unwrap!.bind fun _ _ => ?_
  exact (Stays.store hnew).bind fun _ _ => .store hjournal

theorem stays_initializeSwapDestination :
    Stays K (fun _ => True) (tryInitializeSwapDestination rt) := by
  unfold tryInitializeSwapDestination
  refine Stays.tryNextZeroCopyMut.bind fun _ hconfig => ?_
  refine Stays.tryNextEnumeratedAccount.bind fun _ hpayer => ?_
  refine Stays.tryNextEnumeratedAccount.bind fun _ _ => Stays.require.bind fun _ _ => ?_
  refine stays_tokenPda.bind fun _ htoken => stays_mint.bind fun _ _ => ?_
  refine stays_tokenProgram.bind fun _ _ => (Stays.store hconfig).bind fun _ _ => ?_
  exact stays_create2zToken hpayer htoken

theorem stays_migrateDistribution {n : UInt16} :
    Stays K (fun _ => True) (migrateDistribution n) :=
  Stays.tryNextZeroCopyMut.bind fun _ hdist => Stays.require.bind fun _ _ => .store hdist

theorem stays_migrateDistributions {n : UInt16} (left : Nat) :
    Stays K (fun _ => True) (migrateDistributions n left) := by
  induction left with
  | zero => exact .pure trivial
  | succ left ih => exact stays_migrateDistribution.bind fun _ _ => ih

theorem stays_accountsLeft : Stays K (fun _ => True) accountsLeft :=
  ⟨fun _ _ => rfl, fun hs h => by cases h; exact ⟨trivial, hs⟩⟩

theorem stays_migrateProgramAccounts : Stays K (fun _ => True) (tryMigrateProgramAccounts rt) :=
  stays_upgradeAuthority.bind fun _ _ => Stays.tryNextZeroCopy.bind fun _ _ =>
    stays_accountsLeft.bind fun _ _ => stays_migrateDistributions _

theorem stays_verifyDistributionMerkleRoot {kind : DistributionMerkleRootKind}
    {proof : MerkleProof} :
    Stays K (fun _ => True) (tryVerifyDistributionMerkleRoot rt kind proof) := by
  unfold tryVerifyDistributionMerkleRoot
  refine Stays.okOr.bind fun _ _ => Stays.tryNextZeroCopy.bind fun _ _ => ?_
  cases kind with
  | solanaValidatorDebt debt => exact Stays.require.mono fun _ _ => trivial
  | rewardShare reward =>
    refine Stays.okOr.bind fun _ _ => Stays.okOr.bind fun _ _ => ?_
    exact Stays.require.mono fun _ _ => trivial

end Setup

/-! ## Distributions -/

section Distributions

theorem stays_movePrepaid2z {journal : ZeroCopyAccount Journal} {journalAta tokenPda : AccountInfo}
    (hata : journalAta.key ∈ K) (htoken : tokenPda.key ∈ K) :
    Stays K (fun _ => True) (movePrepaid2z rt journal journalAta tokenPda) := by
  refine (Stays.account hata).bind fun acct _ => ?_
  split
  · refine .ite ?_ (.pure trivial)
    exact (stays_invokeSigned fun _ => Token.confined_transfer hata htoken).bind fun _ _ =>
      .pure trivial
  · exact .pure trivial

theorem stays_initializeDistribution :
    Stays K (fun _ => True) (tryInitializeDistribution rt env) := by
  unfold tryInitializeDistribution
  refine stays_verifiedMut.bind fun _ hconfig => Stays.require.bind fun _ _ => ?_
  refine Stays.okOr.bind fun _ _ => Stays.unwrap!.bind fun _ _ => Stays.require.bind fun _ _ => ?_
  refine Stays.unwrap!.bind fun _ _ => Stays.okOr.bind fun _ _ => Stays.okOr.bind fun _ _ => ?_
  refine Stays.okOr.bind fun _ _ => Stays.tryNextEnumeratedAccount.bind fun _ hpayer => ?_
  refine Stays.tryNextEnumeratedAccount.bind fun _ hnew => Stays.require.bind fun _ _ => ?_
  refine (Stays.store hconfig).bind fun _ _ => (stays_createOwned hpayer hnew).bind fun _ _ => ?_
  refine stays_tokenPda.bind fun _ htoken => stays_mint.bind fun _ _ => ?_
  refine stays_tokenProgram.bind fun _ _ => (stays_create2zToken hpayer htoken).bind fun _ _ => ?_
  refine (Stays.tryInitialize hnew).bind fun _ _ => Stays.unwrap!.bind fun _ _ => ?_
  refine Stays.tryNextZeroCopyMut.bind fun _ _ => stays_tokenPda.bind fun _ _ => ?_
  refine Stays.tryNextEnumeratedAccount.bind fun _ hata => Stays.require.bind fun _ _ => ?_
  exact (stays_movePrepaid2z hata htoken).bind fun _ _ => .store hnew

theorem stays_configureDistributionDebt {totalValidators : UInt32} {totalDebt : UInt64}
    {merkleRoot : Hash} :
    Stays K (fun _ => True) (tryConfigureDistributionDebt env totalValidators totalDebt merkleRoot) :=
  stays_verified.bind fun _ _ => Stays.require.bind fun _ _ =>
    Stays.tryNextZeroCopyMut.bind fun _ hdist => Stays.require.bind fun _ _ =>
      Stays.require.bind fun _ _ => Stays.require.bind fun _ _ => .store hdist

theorem stays_finalizeDistributionDebt :
    Stays K (fun _ => True) (tryFinalizeDistributionDebt rt env) := by
  unfold tryFinalizeDistributionDebt
  refine stays_verified.bind fun _ _ => Stays.require.bind fun _ _ => ?_
  refine Stays.tryNextZeroCopyMut.bind fun _ hdist => Stays.require.bind fun _ _ => ?_
  refine Stays.require.bind fun _ _ => Stays.unwrap!.bind fun _ _ => ?_
  exact .ite (.store hdist) (stays_growDistribution hdist)

theorem stays_configureDistributionRewards {totalContributors : UInt32} {merkleRoot : Hash} :
    Stays K (fun _ => True) (tryConfigureDistributionRewards env totalContributors merkleRoot) :=
  stays_verified.bind fun _ _ => Stays.require.bind fun _ _ =>
    Stays.tryNextZeroCopyMut.bind fun _ hdist => Stays.require.bind fun _ _ =>
      Stays.require.bind fun _ _ => .store hdist

theorem stays_setDistributionEconomicBurnRate {burnRate : UInt32} :
    Stays K (fun _ => True) (trySetDistributionEconomicBurnRate burnRate) :=
  Stays.okOr.bind fun _ _ => stays_verified.bind fun _ _ => Stays.require.bind fun _ _ =>
    Stays.tryNextZeroCopyMut.bind fun _ hdist => Stays.require.bind fun _ _ => .store hdist

theorem stays_nothingOwed {d : Distribution} : Stays K (fun _ => True) d.tryRequireNothingOwed :=
  Stays.unwrap!.bind fun _ _ => Stays.require.bind fun _ _ => Stays.unwrap!.bind fun _ _ =>
    Stays.require.bind fun _ _ => Stays.require.mono fun _ _ => trivial

theorem stays_finalizeDistributionRewards :
    Stays K (fun _ => True) (tryFinalizeDistributionRewards rt env) := by
  unfold tryFinalizeDistributionRewards
  refine Stays.tryNextZeroCopy.bind fun _ _ => Stays.require.bind fun _ _ => ?_
  refine Stays.tryNextZeroCopyMut.bind fun _ hdist => Stays.require.bind fun _ _ => ?_
  refine Stays.require.bind fun _ _ => Stays.require.bind fun _ _ => ?_
  refine .ite (stays_nothingOwed.bind fun _ _ => ?_) ?_
  · exact Stays.okOr.bind fun _ _ => Stays.require.bind fun _ _ => stays_growDistribution hdist
  · exact Stays.okOr.bind fun _ _ => Stays.require.bind fun _ _ => stays_growDistribution hdist

theorem stays_collectIntegrationRewards (henv : env.Confined K) :
    Stays K (fun _ => True) (tryCollectIntegrationRewards rt env) := by
  unfold tryCollectIntegrationRewards
  refine Stays.tryNextZeroCopy.bind fun _ _ => Stays.require.bind fun _ _ => ?_
  refine Stays.tryNextZeroCopyMut.bind fun _ hdist => Stays.require.bind fun _ _ => ?_
  refine Stays.tryNextZeroCopy.bind fun _ _ => Stays.require.bind fun _ _ => ?_
  refine Stays.okOr.bind fun _ _ => Stays.require.bind fun _ _ => ?_
  refine Stays.tryNextEnumeratedAccount.bind fun _ _ => ?_
  refine Stays.tryNextEnumeratedAccount.bind fun _ _ => stays_tokenPda.bind fun _ htoken => ?_
  refine (stays_tokenAmount htoken).bind fun _ _ => (stays_invokeForeign henv).bind fun _ _ => ?_
  refine (stays_tokenAmount htoken).bind fun _ _ => Stays.unwrap!.bind fun _ _ => ?_
  exact Stays.unwrap!.bind fun _ _ => Stays.okOr.bind fun _ _ => .store hdist

/-- Every recipient's token account is taken from the list before anything is sent to it. -/
theorem stays_transferToRecipients {tokenPda distributionKey : Pubkey} {seeds : List Seed}
    {bump : UInt8} {share : UInt64} (htoken : tokenPda ∈ K) (recipients : List RecipientShare)
    (total : UInt64) :
    Stays K (fun _ => True)
      (transferToRecipients rt tokenPda distributionKey seeds bump share recipients total) := by
  induction recipients generalizing total with
  | nil => exact .pure trivial
  | cons recipient recipients ih =>
    unfold transferToRecipients
    refine Stays.tryNextEnumeratedAccount.bind fun ata hata => Stays.require.bind fun _ hkey => ?_
    rw [hkey] at hata
    refine (stays_invokeSigned fun _ => Token.confined_transfer htoken hata).bind fun _ _ => ?_
    exact ih _

theorem stays_distributeRewards {unitShare economicBurnRate : UInt32} {proof : MerkleProof} :
    Stays K (fun _ => True) (tryDistributeRewards rt unitShare economicBurnRate proof) := by
  unfold tryDistributeRewards
  refine Stays.okOr.bind fun _ _ => Stays.tryNextZeroCopy.bind fun _ _ => ?_
  refine Stays.require.bind fun _ _ => Stays.tryNextZeroCopyMut.bind fun _ hdist => ?_
  refine Stays.require.bind fun _ _ => Stays.require.bind fun _ _ => Stays.require.bind fun _ _ => ?_
  refine stays_processLeaf.bind fun _ _ => Stays.tryNextZeroCopy.bind fun _ _ => ?_
  refine Stays.okOr.bind fun _ _ => Stays.require.bind fun _ _ => ?_
  refine stays_tokenPda.bind fun _ htoken => stays_mint.bind fun _ _ => ?_
  refine Stays.tryNextEnumeratedAccount.bind fun _ hrelayer => ?_
  refine stays_tokenProgram.bind fun _ _ => Stays.unwrap!.bind fun _ _ => ?_
  refine (stays_transferToRecipients htoken _ _).bind fun _ _ => Stays.require.bind fun _ _ => ?_
  refine (Stays.store hdist).bind fun _ _ => ?_
  refine (stays_invokeSigned fun _ => Token.confined_burn htoken).bind fun _ _ => ?_
  exact .moveLamports hdist hrelayer

end Distributions

/-! ## Debt -/

section Debt

theorem stays_paySolanaValidatorDebt {amount : UInt64} {proof : MerkleProof} :
    Stays K (fun _ => True) (tryPaySolanaValidatorDebt rt amount proof) := by
  unfold tryPaySolanaValidatorDebt
  refine Stays.okOr.bind fun _ _ => Stays.tryNextZeroCopy.bind fun _ _ => ?_
  refine Stays.require.bind fun _ _ => Stays.tryNextZeroCopyMut.bind fun _ hdist => ?_
  refine Stays.require.bind fun _ _ => Stays.tryNextZeroCopyMut.bind fun _ hdeposit => ?_
  refine stays_processLeaf.bind fun _ _ => Stays.require.bind fun _ _ => ?_
  refine (Stays.account hdeposit).bind fun _ _ => Stays.require.bind fun _ _ => ?_
  refine Stays.tryNextZeroCopyMut.bind fun _ hjournal => (Stays.store hdist).bind fun _ _ => ?_
  exact (Stays.store hjournal).bind fun _ _ => .moveLamports hdeposit hjournal

theorem stays_enableSolanaValidatorDebtWriteOff :
    Stays K (fun _ => True) (tryEnableSolanaValidatorDebtWriteOff rt) := by
  unfold tryEnableSolanaValidatorDebtWriteOff
  refine Stays.tryNextZeroCopy.bind fun _ _ => Stays.require.bind fun _ _ => ?_
  refine Stays.require.bind fun _ _ => Stays.tryNextZeroCopyMut.bind fun _ hdist => ?_
  refine Stays.require.bind fun _ _ => Stays.require.bind fun _ _ => ?_
  exact stays_growDistribution hdist

theorem stays_writeOffSolanaValidatorDebt {amount : UInt64} {proof : MerkleProof} :
    Stays K (fun _ => True) (tryWriteOffSolanaValidatorDebt rt amount proof) := by
  unfold tryWriteOffSolanaValidatorDebt
  refine Stays.okOr.bind fun _ _ => stays_verified.bind fun _ _ => Stays.require.bind fun _ _ => ?_
  refine Stays.tryNextZeroCopyMut.bind fun _ hdist => ?_
  refine Stays.tryNextZeroCopyMut.bind fun _ hdeposit => (Stays.account hdeposit).bind fun _ _ => ?_
  refine Stays.require.bind fun _ _ => Stays.require.bind fun _ _ => ?_
  refine stays_processLeaf.bind fun _ _ => stays_processLeaf.bind fun _ _ => ?_
  refine Stays.require.bind fun _ _ => (Stays.store hdeposit).bind fun _ _ => ?_
  refine (Stays.store hdist).bind fun _ _ => Stays.tryNextZeroCopyMut.bind fun _ hbook => ?_
  refine Stays.require.bind fun _ _ => Stays.require.bind fun _ _ => Stays.require.bind fun _ _ => ?_
  exact Stays.okOr.bind fun _ _ => .store hbook

theorem stays_dequeueFills {config : ProgramConfig} {journal : ZeroCopyAccount Journal}
    {totalSolDebt : UInt64} (henv : env.Confined K) :
    Stays K (fun _ => True) (dequeueFills rt env config journal totalSolDebt) := by
  unfold dequeueFills
  refine Stays.tryNextEnumeratedAccount.bind fun _ _ => ?_
  refine Stays.tryNextEnumeratedAccount.bind fun _ _ => ?_
  refine Stays.tryNextEnumeratedAccount.bind fun _ _ => ?_
  refine Stays.tryNextEnumeratedAccount.bind fun _ _ => Stays.require.bind fun _ _ => ?_
  refine (stays_invokeForeign henv).bind fun _ _ => Stays.okOr.bind fun _ _ => ?_
  refine Stays.require.bind fun _ _ => Stays.okOr.bind fun _ _ => ?_
  exact Stays.require.bind fun _ _ => .pure trivial

theorem stays_sweepDistributionTokens (henv : env.Confined K) :
    Stays K (fun _ => True) (trySweepDistributionTokens rt env) := by
  unfold trySweepDistributionTokens
  refine Stays.tryNextZeroCopy.bind fun _ _ => Stays.require.bind fun _ _ => ?_
  refine Stays.tryNextZeroCopyMut.bind fun _ hdist => Stays.require.bind fun _ _ => ?_
  refine Stays.require.bind fun _ _ => Stays.tryNextZeroCopyMut.bind fun _ hjournal => ?_
  refine Stays.require.bind fun _ _ => Stays.unwrap!.bind fun _ _ => ?_
  refine .ite ((Stays.store hdist).bind fun _ _ => .store hjournal) ?_
  refine Stays.require.bind fun _ _ => (stays_dequeueFills henv).bind fun _ _ => ?_
  refine stays_tokenPda.bind fun _ htoken => Stays.tryNextEnumeratedAccount.bind fun _ _ => ?_
  refine Stays.unwrap!.bind fun _ _ => Stays.require.bind fun _ _ => ?_
  refine stays_tokenPda.bind fun _ hsource => ?_
  refine (stays_invokeSigned fun _ => Token.confined_transfer hsource htoken).bind fun _ _ => ?_
  exact (Stays.store hdist).bind fun _ _ => .store hjournal

theorem stays_withdrawSol {amount : UInt64} : Stays K (fun _ => True) (tryWithdrawSol rt env amount) := by
  have hsibling : ∀ config, Stays K (fun _ => True) (requireSiblingTransfer rt env config) := by
    intro config
    refine Stays.okOr.bind fun _ _ => Stays.require.bind fun _ _ => Stays.okOr.bind fun _ _ => ?_
    refine Stays.unwrap!.bind fun _ _ => Stays.unwrap!.bind fun _ _ => ?_
    refine Stays.require.bind fun _ _ => Stays.unwrap!.bind fun _ _ => ?_
    exact Stays.require.bind fun _ _ => .pure trivial
  unfold tryWithdrawSol
  refine Stays.tryNextZeroCopy.bind fun _ _ => Stays.require.bind fun _ _ => ?_
  refine Stays.require.bind fun _ _ => Stays.tryNextEnumeratedAccount.bind fun _ _ => ?_
  refine Stays.unwrap!.bind fun _ _ => Stays.require.bind fun _ _ => ?_
  refine (hsibling _).bind fun _ _ => Stays.tryNextZeroCopyMut.bind fun _ hjournal => ?_
  refine Stays.require.bind fun _ _ => Stays.tryNextEnumeratedAccount.bind fun _ htarget => ?_
  exact (Stays.store hjournal).bind fun _ _ => .moveLamports hjournal htarget

theorem stays_nextAccount? :
    Stays K (fun info? => ∀ info ∈ info?, info.key ∈ K) nextAccount? := by
  refine ⟨fun {s} L _ => ?_, fun {s a s₁} hs h => ?_⟩
  · cases hiter : s.iter with
    | nil => simp only [nextAccount?, Exec.patch, hiter, Except.map]
    | cons m rest => simp only [nextAccount?, Exec.patch, hiter, Except.map, Exec.info, Exec.advance]
  · unfold nextAccount? at h
    split at h
    · cases h
      exact ⟨by simp, hs⟩
    · next m rest hiter =>
      cases h
      refine ⟨?_, fun m' hm' => hs m' ?_⟩
      · rintro info ⟨⟩
        exact hs m (by simp [hiter])
      · rw [hiter]
        exact List.mem_cons_of_mem _ hm'

theorem stays_withdrawSolanaValidatorDeposit :
    Stays K (fun _ => True) (tryWithdrawSolanaValidatorDeposit rt) := by
  unfold tryWithdrawSolanaValidatorDeposit
  refine Stays.tryNextZeroCopy.bind fun _ _ => Stays.require.bind fun _ _ => ?_
  refine Stays.tryNextZeroCopy.bind fun _ hdeposit => ?_
  refine Stays.tryNextEnumeratedAccount.bind fun _ hnode => Stays.require.bind fun _ _ => ?_
  refine stays_nextAccount?.bind fun beneficiary? hbeneficiary => Stays.require.bind fun _ _ => ?_
  refine (Stays.account hdeposit).bind fun _ _ => Stays.require.bind fun _ _ => ?_
  refine .moveLamports hdeposit ?_
  cases beneficiary? with
  | none => exact hnode
  | some beneficiary => exact hbeneficiary _ rfl

end Debt

/-! ## Whole calls -/

/-- The addresses a call is given. -/
def Call.keys (call : Call) : Set Pubkey := {k | ∃ m ∈ call.accounts, m.key = k}

/-- The addresses a call is given to write to. -/
def Call.writable (call : Call) : Set Pubkey :=
  {k | ∃ m ∈ call.accounts, m.key = k ∧ m.isWritable = true}

theorem stays_processInstruction {call : Call} (henv : call.env.Confined K) :
    Stays K (fun _ => True) (tryProcessInstruction rt call) := by
  unfold tryProcessInstruction
  cases call.data with
  | initializeProgram => exact stays_initializeProgram
  | migrateProgramAccounts => exact stays_migrateProgramAccounts
  | setAdmin adminKey => exact stays_setAdmin
  | configureProgram setting => exact stays_configureProgram
  | initializeJournal => exact stays_initializeJournal
  | initializeDistribution => exact stays_initializeDistribution
  | configureDistributionDebt totalValidators totalDebt merkleRoot =>
    exact stays_configureDistributionDebt
  | finalizeDistributionDebt => exact stays_finalizeDistributionDebt
  | configureDistributionRewards totalContributors merkleRoot =>
    exact stays_configureDistributionRewards
  | finalizeDistributionRewards => exact stays_finalizeDistributionRewards
  | distributeRewards unitShare economicBurnRate proof => exact stays_distributeRewards
  | initializeContributorRewards serviceKey => exact stays_initializeContributorRewards
  | setRewardsManager key => exact stays_setRewardsManager
  | configureContributorRewards setting => exact stays_configureContributorRewards
  | verifyDistributionMerkleRoot kind proof => exact stays_verifyDistributionMerkleRoot
  | initializeSolanaValidatorDeposit nodeId => exact stays_initializeSolanaValidatorDeposit
  | paySolanaValidatorDebt amount proof => exact stays_paySolanaValidatorDebt
  | enableSolanaValidatorDebtWriteOff => exact stays_enableSolanaValidatorDebtWriteOff
  | writeOffSolanaValidatorDebt amount proof => exact stays_writeOffSolanaValidatorDebt
  | initializeSwapDestination => exact stays_initializeSwapDestination
  | sweepDistributionTokens => exact stays_sweepDistributionTokens henv
  | withdrawSol amount => exact stays_withdrawSol
  | setDistributionEconomicBurnRate burnRate => exact stays_setDistributionEconomicBurnRate
  | withdrawSolanaValidatorDeposit => exact stays_withdrawSolanaValidatorDeposit
  | initializeRewardsIntegration => exact stays_initializeRewardsIntegration
  | collectIntegrationRewards => exact stays_collectIntegrationRewards henv

/-- A call works on the accounts it is given. -/
theorem process_confined {call : Call} (henv : call.env.Confined call.keys) :
    Lib.Confined call.keys (process rt call) := by
  intro L L'
  have hwithin : (call.exec L).Within call.keys := fun m hm => ⟨m, hm, rfl⟩
  have hpatch : tryProcessInstruction rt call (call.exec (call.keys.piecewise L L')) = _ :=
    (stays_processInstruction henv).patch L' hwithin
  unfold process
  rw [hpatch]
  cases tryProcessInstruction rt call (call.exec L) with
  | error e => rfl
  | ok r => rfl

end DoubleZero.Revenue
