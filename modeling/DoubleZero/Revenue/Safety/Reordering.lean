import DoubleZero.Revenue.Refine.Basic
import DoubleZero.Revenue.Tabled

/-!
# Calls that do not meet

The runtime executes two instructions side by side when neither writes an account the other was
given. That is sound for this program because a call is confined to its accounts
(`call_isolated`): calls that do not meet may be executed in any order, with the same ledger in the
end (`independent_calls_reorder`).
-/

namespace DoubleZero.Revenue

open DoubleZero.Lib DoubleZero.Solana

section Isolation

variable {rt : Runtime} {call : Call} {L L' L₂ : RevenueLedger}

/-- A call leaves every account it was not given alone, and what becomes of the others, success or
failure, depends on them alone. -/
theorem call_isolated (henv : call.env.Confined call.keys) :
    (∀ L L', process rt call L = .ok L' → ∀ k ∉ call.keys, L' k = L k) ∧
      ∀ L L₂ : RevenueLedger, (∀ k ∈ call.keys, L₂ k = L k) →
        (∀ e, process rt call L = .error e ↔ process rt call L₂ = .error e) ∧
        ∀ L', process rt call L = .ok L' → ∃ L₂', process rt call L₂ = .ok L₂' ∧
          (∀ k ∈ call.keys, L₂' k = L' k) ∧ ∀ k ∉ call.keys, L₂' k = L₂ k := by
  classical
  have hconfined : Confined call.keys (process rt call) := process_confined henv
  refine ⟨fun L L' h k hk => hconfined.frame h hk, fun L L₂ hsame => ?_⟩
  have hagree : Set.EqOn L L₂ call.keys := fun k hk => (hsame k hk).symm
  have heq := hconfined.congr hagree
  refine ⟨fun e => ?_, fun L' h => ?_⟩
  · rw [heq]
    cases process rt call L with
    | error e' => rfl
    | ok L' => simp [Except.map]
  · rw [h] at heq
    exact ⟨_, heq, fun k hk => Set.piecewise_eq_of_mem _ _ _ hk,
      fun k hk => Set.piecewise_eq_of_notMem _ _ _ hk⟩

end Isolation

/-- A program that is called and makes one transfer. -/
def Move.env (m : Move) (unixTimestamp : Int) (returnData : Option (Pubkey × List (BitVec 8))) : Env where
  unixTimestamp := unixTimestamp
  sibling := none
  cpi L := (m.apply L).map fun L' => (L', returnData)

/-- Collecting from an integration that transfers its bucket. -/
theorem call_isolated_collect :
    ∃ (h : History) (L L' : RevenueLedger) (call : Call),
      LedgerRun (Sample.runtime Sample.debts Sample.shares) (Sample.genesis 1000 700) h L ∧
      call.data = .collectIntegrationRewards ∧
      process (Sample.runtime Sample.debts Sample.shares) call L = .ok L' ∧
      ∀ k ∉ call.keys, L' k = L k := by
  obtain ⟨h, L, L', hrun, hstep, -⟩ := Sample.exists_step_of_replay Sample.debts Sample.shares
    1000 700 (Sample.opening ++ [Sample.registerIntegration, Sample.openEpoch])
    (Sample.collectIntegration 500) (P := fun _ _ _ => true) (by decide +kernel) (by decide +kernel)
  cases hstep with
  | call _ hprocess =>
    refine ⟨h, L, L', _, hrun, rfl, hprocess, (call_isolated ?_).1 L L' hprocess⟩
    refine Move.env_confined (m := .tokens Sample.bucket Sample.pool Sample.bucketAuthority 500) ?_
    intro k hk
    rcases List.mem_pair.1 hk with rfl | rfl
    · exact ⟨Sample.writable Sample.bucket, by simp [Sample.writable], rfl⟩
    · exact ⟨Sample.writable Sample.pool, by simp [Sample.writable], rfl⟩

/-! ## Independent calls -/

/-- Neither call may write an account the other was given. -/
def Call.Independent (a b : Call) : Prop :=
  (∀ k ∈ a.writable, k ∉ b.keys) ∧ ∀ k ∈ b.writable, k ∉ a.keys

/-- The call goes through, and as the runtime demands it changes only what it may write. -/
def Executes (rt : Runtime) (call : Call) : RevenueLedger → RevenueLedger → Prop :=
  Performs (process rt call) call.writable

/-- Independent calls may be executed in any order. -/
theorem independent_calls_reorder {rt : Runtime} {calls calls' : List Call} {L L' : RevenueLedger}
    (henv : ∀ call ∈ calls, call.env.Confined call.keys)
    (hindependent : calls.Pairwise Call.Independent) (hperm : calls.Perm calls')
    (h : Sequence (Executes rt) calls L L') : Sequence (Executes rt) calls' L L' :=
  h.perm_of_confined (fun call hcall => process_confined (henv call hcall)) hindependent hperm

theorem Call.independent_of_listed {a b : Call}
    (h : ∀ m ∈ a.accounts, m.isWritable = true → ∀ m' ∈ b.accounts, m'.key ≠ m.key)
    (h' : ∀ m ∈ b.accounts, m.isWritable = true → ∀ m' ∈ a.accounts, m'.key ≠ m.key) :
    a.Independent b := by
  constructor
  · rintro _ ⟨m, hm, rfl, hw⟩ ⟨m', hm', hkey⟩
    exact h m hm hw m' hm' hkey
  · rintro _ ⟨m, hm, rfl, hw⟩ ⟨m', hm', hkey⟩
    exact h' m hm hw m' hm' hkey

/-- A call that writes one account, and was given it to write. -/
theorem Executes.of_write {rt : Runtime} {call : Call} {L : RevenueLedger} {m : AccountMeta}
    {data : AccountData AccountState} (h : process rt call L = .ok (L.write m.key data))
    (hm : m ∈ call.accounts) (hw : m.isWritable = true) :
    Executes rt call L (L.write m.key data) := by
  refine ⟨h, fun k hk => Ledger.set_of_ne _ _ ?_⟩
  rintro rfl
  exact hk ⟨m, hm, rfl, hw⟩

theorem executes_setRewardsManager {rt : Runtime} {call : Call} {L L' : RevenueLedger}
    {key : Pubkey} (hdata : call.data = .setRewardsManager key) (h : process rt call L = .ok L') :
    Executes rt call L L' := by
  obtain ⟨r, hr, rfl⟩ := process_eq_ok.1 h
  simp only [tryProcessInstruction, hdata, trySetRewardsManager, ProgramConfig.tryRequireUnpaused,
    ↓verified_bind_ok, ↓require_bind_ok, ↓zeroCopyMut_bind_ok, store_eq_ok, Call.exec_iter,
    Call.exec_ledger, Exec.advance_iter, Exec.advance_ledger, Exec.info_key] at hr
  obtain ⟨m, _, haccounts, c, crem, -, m', _, rfl, -, -, -, m'', _, rfl, hw, d, rem, -, -, rfl⟩ := hr
  exact .of_write h (by simp [haccounts]) hw

theorem executes_configureDistributionRewards {rt : Runtime} {call : Call} {L L' : RevenueLedger}
    {totalContributors : UInt32} {merkleRoot : Hash}
    (hdata : call.data = .configureDistributionRewards totalContributors merkleRoot)
    (h : process rt call L = .ok L') : Executes rt call L L' := by
  obtain ⟨r, hr, rfl⟩ := process_eq_ok.1 h
  simp only [tryProcessInstruction, hdata, tryConfigureDistributionRewards,
    ProgramConfig.tryRequireUnpaused, Distribution.tryRequireUnfinalizedRewardsCalculation,
    Distribution.tryRequireCalculationAllowed, ↓verified_bind_ok, ↓require_bind_ok,
    ↓zeroCopyMut_bind_ok, store_eq_ok, Call.exec_iter, Call.exec_ledger, Exec.advance_iter,
    Exec.advance_ledger, Exec.info_key] at hr
  obtain ⟨m, _, haccounts, c, crem, -, m', _, rfl, -, -, -, m'', _, rfl, hw, d, rem, -, -, -, rfl⟩ :=
    hr
  exact .of_write h (by simp [haccounts]) hw

namespace Sample

def readonly (k : Pubkey) : AccountMeta := ⟨k, false, false⟩

/-- The contributor manager and the rewards accountant at work on different accounts. -/
def appointment : Call where
  data := .setRewardsManager manager
  accounts := [readonly config, ⟨admin, true, false⟩, writable contributor]
  env := Move.env .stay 200000 none

def submission : Call where
  data := .configureDistributionRewards 2 ⟨2⟩
  accounts := [readonly config, ⟨admin, true, false⟩, writable distribution]
  env := Move.env .stay 200000 none

end Sample

/-- Two calls that share the config and a signer. -/
theorem independent_calls_reorder_submission :
    ∃ (h : History) (L L' : RevenueLedger),
      LedgerRun (Sample.runtime Sample.debts Sample.shares) (Sample.genesis 1000 700) h L ∧
      Sequence (Executes (Sample.runtime Sample.debts Sample.shares))
        [Sample.appointment, Sample.submission] L L' ∧
      Sequence (Executes (Sample.runtime Sample.debts Sample.shares))
        [Sample.submission, Sample.appointment] L L' := by
  obtain ⟨h, L, hrun, -, hP⟩ := Sample.exists_run_of_replay Sample.debts Sample.shares 1000 700
    (Sample.opening ++ [Sample.openEpoch])
    (P := fun _ L =>
      (process (Sample.runtime Sample.debts Sample.shares) Sample.appointment L).toOption.any
        fun L₁ => (process (Sample.runtime Sample.debts Sample.shares) Sample.submission
          L₁).toOption.isSome) (by decide +kernel) (by decide +kernel)
  obtain ⟨L₁, happointment, hP⟩ := (Option.any_eq_true _ _).1 hP
  obtain ⟨L', hsubmission⟩ := Option.isSome_iff_exists.1 hP
  rw [toOption_eq_some] at happointment hsubmission
  have henv : ∀ call ∈ [Sample.appointment, Sample.submission], call.env.Confined call.keys := by
    intro call hcall
    rcases List.mem_pair.1 hcall with rfl | rfl
    · exact Move.env_confined (m := .stay) (by simp [Move.accounts])
    · exact Move.env_confined (m := .stay) (by simp [Move.accounts])
  have hsequence : Sequence (Executes (Sample.runtime Sample.debts Sample.shares))
      [Sample.appointment, Sample.submission] L L' :=
    .cons (executes_setRewardsManager rfl happointment)
      (.cons (executes_configureDistributionRewards rfl hsubmission) .nil)
  refine ⟨h, L, L', hrun, hsequence, ?_⟩
  refine independent_calls_reorder henv (List.pairwise_pair.2 ?_) (.swap _ _ _) hsequence
  exact Call.independent_of_listed (by decide +kernel) (by decide +kernel)

end DoubleZero.Revenue
