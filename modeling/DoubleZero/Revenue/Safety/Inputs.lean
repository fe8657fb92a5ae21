import DoubleZero.Revenue.Invariant.Change
import DoubleZero.Revenue.Replay

/-!
# Who decides what a distribution pays and collects

The debt accountant submits the debt of a distribution, the rewards accountant its rewards and its
burn rate. `Inputs` is what they submit; a submission overwrites its part of it, and nothing else in
the program does. So the inputs of a distribution are the submissions of the run for its account,
applied one after the other (`inputs_submitted`).
-/

namespace DoubleZero.Revenue

open DoubleZero.Lib DoubleZero.Solana

/-! ## Submissions -/

/-- What an accountant submits. -/
inductive Input where
  | debt (totalValidators : UInt32) (totalDebt : UInt64) (merkleRoot : Hash)
  | rewards (totalContributors : UInt32) (merkleRoot : Hash)
  | economicBurnRate (burnRate : UInt32)
  deriving DecidableEq, Repr

/-- The part of a distribution that is submitted. The burn rate is kept as a plain number. -/
structure Inputs where
  totalSolanaValidators : UInt32
  totalSolanaValidatorDebt : UInt64
  solanaValidatorDebtMerkleRoot : Hash
  totalContributors : UInt32
  rewardsMerkleRoot : Hash
  economicBurnRate : Nat
  deriving DecidableEq, Repr

namespace Inputs

def of (d : Distribution) : Inputs where
  totalSolanaValidators := d.totalSolanaValidators
  totalSolanaValidatorDebt := d.totalSolanaValidatorDebt
  solanaValidatorDebtMerkleRoot := d.solanaValidatorDebtMerkleRoot
  totalContributors := d.totalContributors
  rewardsMerkleRoot := d.rewardsMerkleRoot
  economicBurnRate := d.economicBurnRate.value

def initial : Inputs := of default

/-- What a submission overwrites. -/
def apply (s : Inputs) : Input → Inputs
  | .debt totalValidators totalDebt merkleRoot => { s with
      totalSolanaValidators := totalValidators
      totalSolanaValidatorDebt := totalDebt
      solanaValidatorDebtMerkleRoot := merkleRoot }
  | .rewards totalContributors merkleRoot => { s with
      totalContributors := totalContributors
      rewardsMerkleRoot := merkleRoot }
  | .economicBurnRate burnRate => { s with economicBurnRate := burnRate.toNat }

end Inputs

namespace Input

/-- Who has to sign. -/
def authority : Input → Authority
  | debt _ _ _ => .debtAccountant
  | rewards _ _ | economicBurnRate _ => .rewardsAccountant

/-- When a distribution takes a submission. -/
def Admitted (d : Distribution) (now : Int) : Input → Prop
  | debt _ _ _ => d.isDebtCalculationFinalized = false ∧ d.isCalculationAllowed now = true ∧
      d.solanaValidatorFeeParameters ≠ default
  | rewards _ _ => d.isRewardsCalculationFinalized = false ∧ d.isCalculationAllowed now = true
  | economicBurnRate burnRate =>
      d.isRewardsCalculationFinalized = false ∧ burnRate.toNat ≤ 1000000000

end Input

/-- What a call submits. -/
def InstructionData.input : InstructionData → Option Input
  | .configureDistributionDebt totalValidators totalDebt merkleRoot =>
    some (.debt totalValidators totalDebt merkleRoot)
  | .configureDistributionRewards totalContributors merkleRoot =>
    some (.rewards totalContributors merkleRoot)
  | .setDistributionEconomicBurnRate burnRate => some (.economicBurnRate burnRate)
  | _ => none

/-- What a call submits for the account at `k`. -/
def Call.submits (call : Call) (k : Pubkey) : Option Input :=
  if call.key? 2 = some k then call.data.input else none

def Label.submits : Label → Pubkey → Option Input
  | .call c, k => c.submits k
  | .outside, _ => none

/-- The call goes through: the accountant signed, and the distribution takes the submission. -/
structure Submission (call : Call) (k : Pubkey) (input : Input) (L L' : RevenueLedger) : Prop where
  key : call.key? 2 = some k
  signed : ∃ (kc : Pubkey) (c : ProgramConfig) (crem : List (BitVec 8)),
    view ID L kc = some (c, crem) ∧ c.isPaused = false ∧ call.Signed (input.authority.key c)
  written : ∃ (d d' : Distribution) (rem : List (BitVec 8)), view ID L k = some (d, rem) ∧
    input.Admitted d call.env.unixTimestamp ∧ Inputs.of d' = (Inputs.of d).apply input ∧
    L' = L.write k (.zeroCopy (.distribution d') rem)

/-- The submissions of a run for the account at `k`, one after the other. -/
def Inputs.after {σ : Type} (h : List (Entry σ Label)) (k : Pubkey) : Inputs :=
  h.foldr (fun x s => (x.label.submits k).elim s s.apply) .initial

/-- What the account at `k` has been told, nothing before there is a distribution. -/
def inputsAt (L : RevenueLedger) (k : Pubkey) : Inputs :=
  match stateAt L k with
  | some (.distribution d, _) => .of d
  | _ => .initial

section Step

variable {rt : Runtime} {call : Call} {L L' : RevenueLedger} {k : Pubkey}

theorem inputsAt_eq {d : Distribution} {rem : List (BitVec 8)}
    (h : view ID L k = some (d, rem)) : inputsAt L k = .of d := by
  unfold inputsAt
  rw [view_eq_stateAt.1 h]
  rfl

theorem inputsAt_congr (h : stateAt L' k = stateAt L k) : inputsAt L' k = inputsAt L k := by
  unfold inputsAt
  rw [h]

theorem inputsAt_initial (h : ∀ (d : Distribution) rem, view ID L k ≠ some (d, rem)) :
    inputsAt L k = .initial := by
  unfold inputsAt
  split
  · next d rem hd => exact absurd (view_eq_stateAt.2 hd) (h d rem)
  · rfl

theorem process_submitted {input : Input} (hdata : call.data.input = some input)
    (h : process rt call L = .ok L') : ∃ k, Submission call k input L L' := by
  obtain ⟨r, hr, rfl⟩ := process_eq_ok.1 h
  unfold tryProcessInstruction at hr
  cases hcall : call.data with
  | configureDistributionDebt totalValidators totalDebt merkleRoot =>
    simp only [hcall, tryConfigureDistributionDebt, ProgramConfig.tryRequireUnpaused,
      Distribution.tryRequireUnfinalizedDebtCalculation, Distribution.tryRequireCalculationAllowed,
      ↓verified_bind_ok, ↓require_bind_ok, ↓zeroCopyMut_bind_ok, store_eq_ok, Call.exec_iter,
      Call.exec_ledger, Exec.advance_iter, Exec.advance_ledger, Exec.info_key] at hr
    obtain ⟨m, _, haccounts, c, crem, hc, m', _, rfl, hsigner, hkey, hunpaused, m'', _, rfl, -, d,
      rem, hd, hopen, hallowed, hcharged, rfl⟩ := hr
    rw [hcall] at hdata
    cases hdata
    refine ⟨m''.key, by simp [Call.key?, haccounts], ⟨m.key, c, crem, hc, hunpaused, m', ?_, hkey,
      hsigner⟩, d, _, rem, hd, ⟨hopen, hallowed, hcharged⟩, rfl, rfl⟩
    simp [haccounts]
  | configureDistributionRewards totalContributors merkleRoot =>
    simp only [hcall, tryConfigureDistributionRewards, ProgramConfig.tryRequireUnpaused,
      Distribution.tryRequireUnfinalizedRewardsCalculation, Distribution.tryRequireCalculationAllowed,
      ↓verified_bind_ok, ↓require_bind_ok, ↓zeroCopyMut_bind_ok, store_eq_ok, Call.exec_iter,
      Call.exec_ledger, Exec.advance_iter, Exec.advance_ledger, Exec.info_key] at hr
    obtain ⟨m, _, haccounts, c, crem, hc, m', _, rfl, hsigner, hkey, hunpaused, m'', _, rfl, -, d,
      rem, hd, hopen, hallowed, rfl⟩ := hr
    rw [hcall] at hdata
    cases hdata
    refine ⟨m''.key, by simp [Call.key?, haccounts], ⟨m.key, c, crem, hc, hunpaused, m', ?_, hkey,
      hsigner⟩, d, _, rem, hd, ⟨hopen, hallowed⟩, rfl, rfl⟩
    simp [haccounts]
  | setDistributionEconomicBurnRate burnRate =>
    simp only [hcall, trySetDistributionEconomicBurnRate, ProgramConfig.tryRequireUnpaused,
      Distribution.tryRequireUnfinalizedRewardsCalculation, ↓okOr_bind_ok,
      ↓verified_bind_ok, ↓require_bind_ok, ↓zeroCopyMut_bind_ok, store_eq_ok, Call.exec_iter,
      Call.exec_ledger, Exec.advance_iter, Exec.advance_ledger, Exec.info_key] at hr
    obtain ⟨rate, hrate, m, _, haccounts, c, crem, hc, m', _, rfl, hsigner, hkey, hunpaused, m'', _,
      rfl, -, d, rem, hd, hopen, rfl⟩ := hr
    rw [hcall] at hdata
    cases hdata
    have hvalue := UnitShare.new_eq_some.1 hrate
    refine ⟨m''.key, by simp [Call.key?, haccounts], ⟨m.key, c, crem, hc, hunpaused, m', ?_, hkey,
      hsigner⟩, d, _, rem, hd, ⟨hopen, hvalue ▸ rate.le_max⟩, ?_, rfl⟩
    · simp [haccounts]
    · simp only [Inputs.of, Inputs.apply, hvalue]
  | _ => simp [hcall, InstructionData.input] at hdata

/-- Every other step of a distribution leaves the inputs alone. -/
theorem DistStep.inputs_eq {b : Books} {e : DoubleZeroEpoch} {a : DistAction} {s s' : DistState}
    (hstep : DistStep rt a s s') (hdoes : Does rt call b e a) (hdata : call.data.input = none) :
    Inputs.of s'.1 = .of s.1 := by
  cases hstep with
  | configureDebt _ =>
    cases hdoes with
    | configureDebt data => simp [data, InstructionData.input] at hdata
  | configureRewards _ =>
    cases hdoes with
    | configureRewards data => simp [data, InstructionData.input] at hdata
  | setEconomicBurnRate _ =>
    cases hdoes with
    | setEconomicBurnRate data => simp [data, InstructionData.input] at hdata
  | _ => rfl

/-- Before a distribution there are no inputs, and no other call touches them. -/
theorem Transition.inputs_eq (hc : Canonical rt L) (hc' : Canonical rt L')
    (ht : Transition rt call (books rt L) (books rt L')) (hdata : call.data.input = none)
    (k : Pubkey) : inputsAt L' k = inputsAt L k := by
  by_cases hnew : ∃ (d' : Distribution) (rem' : List (BitVec 8)), view ID L' k = some (d', rem')
  · obtain ⟨d', rem', hview⟩ := hnew
    obtain ⟨hk, hd', -⟩ := hc'.of_view hview
    have hold : ∀ {d : Distribution} {rem}, d.dzEpoch = d'.dzEpoch → (books rt L).HasDist d rem →
        inputsAt L k = .of d := by
      intro d rem hepoch hd
      have hview : view ID L k = some (d, rem) := by
        rw [Books.HasDist, hepoch] at hd
        exact hk ▸ view_eq_stateAt.2 hd
      exact inputsAt_eq hview
    rw [inputsAt_eq hview]
    cases ht.change d'.dzEpoch with
    | kept same => exact (hold rfl (same.symm.trans hd')).symm
    | create data journal new initialized epoch created =>
      obtain ⟨rfl, rfl⟩ := created.unique hd' epoch.symm
      rw [inputsAt_initial, initialized.rest_eq]
      · rfl
      · intro d rem hd
        rw [hk] at hd
        exact absurd (new.symm.trans (view_eq_stateAt.1 hd)) (by simp)
    | step does epoch has step has' =>
      obtain ⟨rfl, rfl⟩ := has'.unique hd' (step.fixed.1.trans epoch).symm
      rw [hold epoch has]
      exact step.inputs_eq does hdata
    | twice does books epoch has step step' has' =>
      obtain ⟨rfl, rfl⟩ := has'.unique hd' ((step'.fixed.1.trans step.fixed.1).trans epoch).symm
      rw [hold epoch has]
      exact (step'.inputs_eq books hdata).trans (step.inputs_eq does hdata)
  · simp only [not_exists] at hnew
    -- Distributions stay, so there was none before either.
    rw [inputsAt_initial hnew, inputsAt_initial]
    intro d rem hview
    obtain ⟨hk, hd, -⟩ := hc.of_view hview
    obtain ⟨d', rem', hd', hepoch, -⟩ := (ht.change d.dzEpoch).keeps (P := fun _ => True) hd
      (fun _ _ _ _ => trivial) trivial
    refine hnew d' rem' (hk ▸ view_eq_stateAt.2 ?_)
    rw [Books.HasDist, hepoch] at hd'
    exact hd'

/-- One step makes the submission it carries, if any. -/
theorem Step.inputs_eq {l : Label} (hc : Canonical rt L) (hs : Step rt l L L') (k : Pubkey) :
    inputsAt L' k = (l.submits k).elim (inputsAt L k) (inputsAt L k).apply := by
  cases hs with
  | @call call _ _ ha hprocess =>
    cases hdata : call.data.input with
    | some input =>
      obtain ⟨k', hkey, -, d, d', rem, hd, -, happly, rfl⟩ := process_submitted hdata hprocess
      have howner : (L k').owner = ID := (view_eq_some.1 hd).1
      by_cases hk : k' = k
      · subst hk
        have hd' : view ID (L.write k' (.zeroCopy (.distribution d') rem)) k' = some (d', rem) :=
          view_eq_stateAt.2 (by rw [stateAt_write _ _ _ _ _ howner, if_pos rfl]; rfl)
        rw [Label.submits, Call.submits, if_pos hkey, hdata, inputsAt_eq hd', inputsAt_eq hd, happly]
        rfl
      · have hsubmits : call.submits k = none := by
          rw [Call.submits, hkey, if_neg (by simpa using hk)]
        rw [Label.submits, hsubmits]
        refine inputsAt_congr ?_
        rw [stateAt_write _ _ _ _ _ howner, if_neg (Ne.symm hk)]
    | none =>
      have hsubmits : call.submits k = none := by
        rw [Call.submits, hdata, ite_self]
      obtain ⟨hc', hbook⟩ := step_refines hc (.call ha hprocess)
      rw [Label.submits, hsubmits]
      cases hbook with
      | call ht => exact ht.inputs_eq hc hc' hdata k
  | outside hforeign => exact inputsAt_congr (stateAt_foreign hforeign k)

end Step

/-- What a distribution has been told is what the accountants of their moments submitted for its
account, in their order, while it still took submissions. -/
theorem inputs_submitted {rt : Runtime} {L₀ L : RevenueLedger} {h : History} {k : Pubkey}
    {d : Distribution} {rem : List (BitVec 8)} (hg : Genesis rt L₀) (hrun : LedgerRun rt L₀ h L)
    (hd : view ID L k = some (d, rem)) :
    Inputs.of d = .after h k ∧
      ∀ x ∈ h, ∀ call input, x.label = .call call → call.submits k = some input →
        Submission call k input x.before x.after := by
  refine ⟨?_, ?_⟩
  · rw [← inputsAt_eq hd]
    refine hrun.history (P := fun h L => inputsAt L k = .after h k) ?_ ?_
    · refine inputsAt_initial fun d rem hd => ?_
      exact absurd (hg.owned k) (by rw [(view_eq_some.1 hd).1]; simp)
    · intro h L l L' hrun hinputs hs
      obtain ⟨hc, -⟩ := LedgerRun.books hg hrun
      rw [hs.inputs_eq hc k, hinputs]
      rfl
  · intro x hx call input hlabel hsubmits
    obtain ⟨h₁, -, -, hs⟩ := hrun.of_mem hx
    rw [hlabel] at hs
    rw [Call.submits] at hsubmits
    split at hsubmits
    · next hkey =>
      cases hs with
      | call _ hprocess =>
        obtain ⟨k', hsubmission⟩ := process_submitted hsubmits hprocess
        cases hkey.symm.trans hsubmission.key
        exact hsubmission
    · cases hsubmits

/-- The debt is submitted a second time, corrected. -/
theorem inputs_submitted_resubmitted :
    ∃ (h : History) (L : RevenueLedger) (d : Distribution) (rem : List (BitVec 8)),
      LedgerRun (Sample.runtime Sample.debts Sample.shares) (Sample.genesis 1000 700) h L ∧
      view ID L Sample.distribution = some (d, rem) ∧ d.totalSolanaValidatorDebt = 150 ∧
      d.totalContributors = 2 ∧ d.economicBurnRate.value = 5 ∧
      Inputs.of d = .after h Sample.distribution := by
  obtain ⟨h, L, hrun, -, hP⟩ := Sample.exists_run_of_replay Sample.debts Sample.shares 1000 700
    (Sample.opening ++ [Sample.registerIntegration, Sample.openEpoch, Sample.configureDebt 3 99,
      Sample.configureRewards 2 ⟨2⟩, Sample.configureDebt 2 150,
      Sample.later (.setDistributionEconomicBurnRate 5)
        [Sample.writable Sample.config, Sample.signed Sample.admin,
          Sample.writable Sample.distribution]])
    (P := fun _ L => (view (T := Distribution) ID L Sample.distribution).any fun x =>
      x.1.totalSolanaValidatorDebt = 150 ∧ x.1.totalContributors = 2 ∧
        x.1.economicBurnRate.value = 5) (by decide +kernel) (by decide +kernel)
  obtain ⟨⟨d, rem⟩, hd, hvalues⟩ := (Option.any_eq_true _ _).1 hP
  obtain ⟨hdebt, hcontributors, hrate⟩ := of_decide_eq_true hvalues
  obtain ⟨hinputs, -⟩ := inputs_submitted (Sample.genesis_unused 1000 700) hrun hd
  exact ⟨h, L, d, rem, hrun, hd, hdebt, hcontributors, hrate, hinputs⟩

end DoubleZero.Revenue
