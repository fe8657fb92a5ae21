import DoubleZero.Lib.Run
import DoubleZero.Revenue.Processor.Setup
import DoubleZero.Revenue.Processor.Distribution
import DoubleZero.Revenue.Processor.Debt

/-!
# Runs of the program

`process` is `try_process_instruction` on a whole ledger: the ledger after the instruction, or the
failure, in which case nothing changes. Between instructions, and inside the calls the program makes
to other programs, the rest of the chain acts on the same ledger. `Foreign` is what the runtime
guarantees about it: only the owner of an account changes its data or takes its lamports, and nobody
else signs for an address derived from this program.
-/

namespace DoubleZero.Revenue

open DoubleZero.Lib DoubleZero.Solana

/-- One invocation of the program. -/
structure Call where
  data : InstructionData
  accounts : List AccountMeta
  env : Env

/-- `try_process_instruction`, on decoded instruction data. -/
def tryProcessInstruction (rt : Runtime) (call : Call) : RevenueProcessor Unit :=
  match call.data with
  | .initializeProgram => tryInitializeProgram rt
  | .migrateProgramAccounts => tryMigrateProgramAccounts rt
  | .setAdmin adminKey => trySetAdmin rt adminKey
  | .configureProgram setting => tryConfigureProgram rt setting
  | .initializeJournal => tryInitializeJournal rt
  | .initializeDistribution => tryInitializeDistribution rt call.env
  | .configureDistributionDebt totalValidators totalDebt merkleRoot =>
    tryConfigureDistributionDebt call.env totalValidators totalDebt merkleRoot
  | .finalizeDistributionDebt => tryFinalizeDistributionDebt rt call.env
  | .configureDistributionRewards totalContributors merkleRoot =>
    tryConfigureDistributionRewards call.env totalContributors merkleRoot
  | .finalizeDistributionRewards => tryFinalizeDistributionRewards rt call.env
  | .distributeRewards unitShare economicBurnRate proof =>
    tryDistributeRewards rt unitShare economicBurnRate proof
  | .initializeContributorRewards serviceKey => tryInitializeContributorRewards rt serviceKey
  | .setRewardsManager rewardsManagerKey => trySetRewardsManager rewardsManagerKey
  | .configureContributorRewards setting => tryConfigureContributorRewards setting
  | .verifyDistributionMerkleRoot kind proof => tryVerifyDistributionMerkleRoot rt kind proof
  | .initializeSolanaValidatorDeposit nodeId => tryInitializeSolanaValidatorDeposit rt nodeId
  | .paySolanaValidatorDebt amount proof => tryPaySolanaValidatorDebt rt amount proof
  | .enableSolanaValidatorDebtWriteOff => tryEnableSolanaValidatorDebtWriteOff rt
  | .writeOffSolanaValidatorDebt amount proof => tryWriteOffSolanaValidatorDebt rt amount proof
  | .initializeSwapDestination => tryInitializeSwapDestination rt
  | .sweepDistributionTokens => trySweepDistributionTokens rt call.env
  | .withdrawSol amount => tryWithdrawSol rt call.env amount
  | .setDistributionEconomicBurnRate burnRate => trySetDistributionEconomicBurnRate burnRate
  | .withdrawSolanaValidatorDeposit => tryWithdrawSolanaValidatorDeposit rt
  | .initializeRewardsIntegration => tryInitializeRewardsIntegration rt
  | .collectIntegrationRewards => tryCollectIntegrationRewards rt call.env

/-- The state a processor starts from. -/
def Call.exec (call : Call) (L : RevenueLedger) : Exec AccountState :=
  ⟨call.accounts, L, call.accounts, 0⟩

/-- The ledger after an invocation. -/
def process (rt : Runtime) (call : Call) (L : RevenueLedger) : Except Failure RevenueLedger :=
  match tryProcessInstruction rt call (call.exec L) with
  | .ok (_, s) => .ok s.ledger
  | .error e => .error e

theorem process_eq_ok {rt : Runtime} {call : Call} {L L' : RevenueLedger} :
    process rt call L = .ok L' ↔
      ∃ r, tryProcessInstruction rt call (call.exec L) = .ok r ∧ r.2.ledger = L' := by
  unfold process
  cases h : tryProcessInstruction rt call (call.exec L) with
  | error e => simp
  | ok r => simp

/-! ## The rest of the chain -/

/-- An address derived from this program, for which only this program signs. -/
def Derived (rt : Runtime) (k : Pubkey) : Prop := ∃ seeds bump, rt.create seeds bump = some k

/-- What any other program may do, even when this program signs for it with the address of a
distribution or of the journal. -/
structure Foreign (rt : Runtime) (L L' : RevenueLedger) : Prop where
  /-- Accounts of this program keep their owner and data and lose no lamports. -/
  owned : ∀ k, (L k).owner = ID →
    (L' k).owner = ID ∧ (L' k).data = (L k).data ∧ (L k).lamports ≤ (L' k).lamports
  /-- An account handed over to this program is zeroed. -/
  fresh : ∀ k, (L k).owner ≠ ID → (L' k).owner = ID → ∃ len, (L' k).data = .zeroed len
  /-- An unused derived address may be sent lamports, and stays unused. -/
  derived : ∀ k, Derived rt k → (L k).owner = systemProgramId →
    (L' k).owner = systemProgramId ∧ (L' k).data = (L k).data

/-- No tokens are taken out of an account under an address of this program. Nobody else signs for such
an address, but a program that was lent its signature may have approved a delegate, so this is an
assumption of the results that need it. -/
def KeepsTokens (rt : Runtime) (L L' : RevenueLedger) : Prop :=
  ∀ k a, Token.unpack L k = some a → Derived rt a.owner →
    ∃ b, Token.unpack L' k = some b ∧ b.mint = a.mint ∧ b.owner = a.owner ∧ a.amount ≤ b.amount

/-- The programs a call invokes act within `Foreign`. -/
def Call.Admissible (rt : Runtime) (call : Call) : Prop :=
  ∀ L L' returnData, call.env.cpi L = .ok (L', returnData) → Foreign rt L L'

/-- What happens next: a call of this program, or something else. -/
inductive Label where
  | call (call : Call)
  | outside

inductive Step (rt : Runtime) : Label → RevenueLedger → RevenueLedger → Prop
  | call {call : Call} {L L' : RevenueLedger} :
      call.Admissible rt → process rt call L = .ok L' → Step rt (.call call) L L'
  | outside {L L' : RevenueLedger} : Foreign rt L L' → Step rt .outside L L'

/-- Before the program is first used it owns nothing, and nothing was put at its addresses. -/
structure Genesis (rt : Runtime) (L : RevenueLedger) : Prop where
  owned : ∀ k, (L k).owner ≠ ID
  derived : ∀ k, Derived rt k → (L k).owner = systemProgramId ∧ (L k).data = .zeroed 0

/-- A run of the program: calls and outside actions from a ledger it was never used on. -/
abbrev LedgerRun (rt : Runtime) := Run (Step rt)

abbrev History := List (Entry RevenueLedger Label)

/-- What happens outside takes no tokens that are under an address of this program. -/
def SparesTokens (rt : Runtime) (x : Entry RevenueLedger Label) : Prop :=
  x.label = .outside → KeepsTokens rt x.before x.after

end DoubleZero.Revenue
