import DoubleZero.Revenue.Refine.Setup
import DoubleZero.Revenue.Refine.Distribution
import DoubleZero.Revenue.Refine.Debt

/-!
# Every run of the program is a run of its books

`step_refines` puts the instructions together: from a canonical ledger, whatever happens next leaves
a canonical ledger and is a step of the books. `LedgerRun.books` carries that along a whole run.
-/

namespace DoubleZero.Revenue

open DoubleZero.Lib DoubleZero.Solana

theorem process_followed {rt : Runtime} {call : Call} {L : RevenueLedger}
    {r : Unit × Exec AccountState} (hc : Canonical rt L) (ha : call.Admissible rt)
    (h : tryProcessInstruction rt call (call.exec L) = .ok r) : Followed rt call L r := by
  unfold tryProcessInstruction at h
  cases hdata : call.data with
  | initializeProgram => exact tryInitializeProgram_followed hc hdata (by simpa only [hdata] using h)
  | migrateProgramAccounts =>
    exact tryMigrateProgramAccounts_followed hc hdata (by simpa only [hdata] using h)
  | setAdmin adminKey => exact trySetAdmin_followed hc hdata (by simpa only [hdata] using h)
  | configureProgram setting =>
    exact tryConfigureProgram_followed hc hdata (by simpa only [hdata] using h)
  | initializeJournal => exact tryInitializeJournal_followed hc hdata (by simpa only [hdata] using h)
  | initializeDistribution =>
    exact tryInitializeDistribution_followed hc hdata (by simpa only [hdata] using h)
  | configureDistributionDebt totalValidators totalDebt merkleRoot =>
    exact tryConfigureDistributionDebt_followed hc hdata (by simpa only [hdata] using h)
  | finalizeDistributionDebt =>
    exact tryFinalizeDistributionDebt_followed hc hdata (by simpa only [hdata] using h)
  | configureDistributionRewards totalContributors merkleRoot =>
    exact tryConfigureDistributionRewards_followed hc hdata (by simpa only [hdata] using h)
  | finalizeDistributionRewards =>
    exact tryFinalizeDistributionRewards_followed hc hdata (by simpa only [hdata] using h)
  | distributeRewards unitShare economicBurnRate proof =>
    exact tryDistributeRewards_followed hc hdata (by simpa only [hdata] using h)
  | initializeContributorRewards serviceKey =>
    exact tryInitializeContributorRewards_followed hc hdata (by simpa only [hdata] using h)
  | setRewardsManager rewardsManagerKey =>
    exact trySetRewardsManager_followed hc hdata (by simpa only [hdata] using h)
  | configureContributorRewards setting =>
    exact tryConfigureContributorRewards_followed hc hdata (by simpa only [hdata] using h)
  | verifyDistributionMerkleRoot kind proof =>
    exact tryVerifyDistributionMerkleRoot_followed hc hdata (by simpa only [hdata] using h)
  | initializeSolanaValidatorDeposit nodeId =>
    exact tryInitializeSolanaValidatorDeposit_followed hc hdata (by simpa only [hdata] using h)
  | paySolanaValidatorDebt amount proof =>
    exact tryPaySolanaValidatorDebt_followed hc hdata (by simpa only [hdata] using h)
  | enableSolanaValidatorDebtWriteOff =>
    exact tryEnableSolanaValidatorDebtWriteOff_followed hc hdata (by simpa only [hdata] using h)
  | writeOffSolanaValidatorDebt amount proof =>
    exact tryWriteOffSolanaValidatorDebt_followed hc hdata (by simpa only [hdata] using h)
  | initializeSwapDestination =>
    exact tryInitializeSwapDestination_followed hc hdata (by simpa only [hdata] using h)
  | sweepDistributionTokens =>
    exact (trySweepDistributionTokens_dequeued hc ha hdata (by simpa only [hdata] using h)).1
  | withdrawSol amount => exact tryWithdrawSol_followed hc hdata (by simpa only [hdata] using h)
  | setDistributionEconomicBurnRate burnRate =>
    exact trySetDistributionEconomicBurnRate_followed hc hdata (by simpa only [hdata] using h)
  | withdrawSolanaValidatorDeposit =>
    exact tryWithdrawSolanaValidatorDeposit_followed hc hdata (by simpa only [hdata] using h)
  | initializeRewardsIntegration =>
    exact tryInitializeRewardsIntegration_followed hc hdata (by simpa only [hdata] using h)
  | collectIntegrationRewards =>
    exact (tryCollectIntegrationRewards_collected hc ha hdata (by simpa only [hdata] using h)).1

theorem step_refines {rt : Runtime} {l : Label} {L L' : RevenueLedger} (hc : Canonical rt L)
    (h : Step rt l L L') : Canonical rt L' ∧ BookStep rt l (books rt L) (books rt L') := by
  cases h with
  | call ha hprocess =>
    obtain ⟨r, hr, rfl⟩ := process_eq_ok.1 hprocess
    obtain ⟨hc', ht⟩ := process_followed hc ha hr
    exact ⟨hc', .call ht⟩
  | outside hforeign => exact ⟨hc.foreign hforeign, .outside (books_foreign hforeign)⟩

abbrev BooksRun (rt : Runtime) := Run (BookStep rt)

/-- A program that was never used has empty books. -/
def Books.Empty (b : Books) : Prop := ∀ i, b.entry i = none

theorem Genesis.books_empty {rt : Runtime} {L : RevenueLedger} (h : Genesis rt L) :
    (books rt L).Empty :=
  fun _ => stateAt_none_of_owner (h.owned _)

/-- A run on the ledger is a run on the books, step by step. -/
theorem LedgerRun.books {rt : Runtime} {L₀ L : RevenueLedger} {h : History} (hg : Genesis rt L₀)
    (hrun : LedgerRun rt L₀ h L) :
    Canonical rt L ∧ BooksRun rt (Revenue.books rt L₀) (h.map (Entry.map (Revenue.books rt)))
      (Revenue.books rt L) :=
  hrun.simulate (.of_genesis hg) fun hc hs => step_refines hc hs

end DoubleZero.Revenue
