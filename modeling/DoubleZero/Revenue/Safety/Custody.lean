import DoubleZero.Revenue.Safety.Deposits

/-!
# How SOL leaves the program

Lamports leave an account of the program in four ways (`Outflow`): a payment moves the amount of a
leaf from a deposit into the journal, a withdrawal moves what a deposit holds beyond its rent and its
written-off debt to the validator, the swap program draws on the journal against 2Z that has just
been sent to the swap destination, and a relay is paid for out of its distribution. Nothing else, no
other instruction and no other program, takes a lamport (`sol_custody`).
-/

namespace DoubleZero.Revenue

open DoubleZero.Lib DoubleZero.Solana

/-- The call takes lamports out of the account at `k`. -/
inductive Outflow (rt : Runtime) (call : Call) (L L' : RevenueLedger) : Pubkey → Prop
  | payment {p : SolanaValidatorDeposit} {rem : List (BitVec 8)} {amount : UInt64}
      {proof : MerkleProof} (data : call.data = .paySolanaValidatorDebt amount proof)
      (deposit : view ID L (rt.depositKey p.nodeId) = some (p, rem))
      (taken : (L' (rt.depositKey p.nodeId)).lamports + amount.toNat =
        (L (rt.depositKey p.nodeId)).lamports)
      (received : (L' rt.journalKey).lamports = (L rt.journalKey).lamports + amount.toNat) :
      Outflow rt call L L' (rt.depositKey p.nodeId)
  | withdrawal {p : SolanaValidatorDeposit} {rem : List (BitVec 8)} {beneficiary : Pubkey} {n : Nat}
      (data : call.data = .withdrawSolanaValidatorDeposit)
      (deposit : view ID L (rt.depositKey p.nodeId) = some (p, rem))
      (authorized : beneficiary = p.nodeId ∨ call.Signed p.nodeId)
      (left : (L' (rt.depositKey p.nodeId)).lamports = rt.depositRent + p.writtenOffSolDebt.toNat)
      (taken : (L' (rt.depositKey p.nodeId)).lamports + n = (L (rt.depositKey p.nodeId)).lamports)
      (received : (L' beneficiary).lamports = (L beneficiary).lamports + n) :
      Outflow rt call L L' (rt.depositKey p.nodeId)
  | swap {kc authority solDestination : Pubkey} {c : ProgramConfig} {j : Journal}
      {crem jrem : List (BitVec 8)} {amount transferAmount : UInt64}
      (data : call.data = .withdrawSol amount) (config : view ID L kc = some (c, crem))
      (expected : rt.checkedWithdrawSolAuthorityAddress c = some authority)
      (signed : call.Signed authority) (credited : call.Credits rt transferAmount)
      (journal : view ID L rt.journalKey = some (j, jrem)) (booked : amount ≤ j.totalSolBalance)
      (taken : (L' rt.journalKey).lamports + amount.toNat = (L rt.journalKey).lamports)
      (received : (L' solDestination).lamports = (L solDestination).lamports + amount.toNat) :
      Outflow rt call L L' rt.journalKey
  | relay {d d' : Distribution} {rem rem' : List (BitVec 8)} {relayer : Pubkey}
      {unitShare economicBurnRate leafIndex : UInt32} {proof : MerkleProof}
      (data : call.data = .distributeRewards unitShare economicBurnRate proof)
      (distribution : view ID L (rt.distributionKey d.dzEpoch) = some (d, rem))
      (distribution' : view ID L' (rt.distributionKey d.dzEpoch) = some (d', rem'))
      (unpaid : leafIndex.toNat ∉ d.processedRewards rem)
      (settled : leafIndex.toNat ∈ d'.processedRewards rem')
      (taken : (L' (rt.distributionKey d.dzEpoch)).lamports + d.distributeRewardsRelayLamports.toNat =
        (L (rt.distributionKey d.dzEpoch)).lamports)
      (received : (L' relayer).lamports =
        (L relayer).lamports + d.distributeRewardsRelayLamports.toNat) :
      Outflow rt call L L' (rt.distributionKey d.dzEpoch)

section

variable {rt : Runtime} {call : Call} {b b' : Books} {L L' : RevenueLedger} {k source target : Pubkey}
  {n : Nat}

/-- A transfer that takes lamports from an account takes all of them from it, and hands them on. -/
theorem LamportMove.of_lt (h : LamportMove source target n b b')
    (hlt : b'.lamports k < b.lamports k) :
    k = source ∧ b'.lamports source + n = b.lamports source ∧
      b'.lamports target = b.lamports target + n := by
  have hk : k = source := by
    by_contra hne
    exact absurd hlt (Nat.not_lt.2 (h.le_of_ne hne))
  subst hk
  have hne : k ≠ target := by
    intro heq
    rcases h with ⟨-, rfl⟩ | ⟨hne, -⟩
    · exact lt_irrefl _ hlt
    · exact hne heq
  exact ⟨rfl, h.source_eq hne, h.target_eq hne⟩

/-- A withdrawal has the signature of the swap program in force. -/
theorem withdrawSol_signed {amount : UInt64} (hdata : call.data = .withdrawSol amount)
    (h : process rt call L = .ok L') :
    ∃ (kc authority : Pubkey) (c : ProgramConfig) (crem : List (BitVec 8)),
      view ID L kc = some (c, crem) ∧
      rt.checkedWithdrawSolAuthorityAddress c = some authority ∧ call.Signed authority := by
  obtain ⟨r, hr, -⟩ := process_eq_ok.1 h
  simp only [tryProcessInstruction, hdata, tryWithdrawSol, ProgramConfig.tryRequireUnpaused,
    ↓zeroCopy_bind_ok, ↓require_bind_ok, ↓tryNext_bind_ok, ↓unwrap!_bind_ok, Call.exec_iter,
    Call.exec_ledger, Exec.advance_iter, Exec.info_key] at hr
  obtain ⟨m, _, haccounts, c, crem, hc, -, -, m', _, rfl, hsigner, key, hkey, heq, -⟩ := hr
  refine ⟨m.key, key, c, crem, hc, hkey, m', ?_, heq, hsigner.1 rfl⟩
  rw [haccounts]
  exact List.mem_cons_of_mem _ List.mem_cons_self

/-- Paying a reward out takes a leaf that was open. -/
theorem DistStep.distribute_marks {s s' : DistState} {i : UInt32} {share : RewardShare}
    {transferred burned : UInt64}
    (hstep : DistStep rt (.distribute i share transferred burned) s s') :
    i.toNat ∉ s.1.processedRewards s.2 ∧ i.toNat ∈ s'.1.processedRewards s'.2 := by
  cases hstep with
  | @distribute d rem rem' _ _ _ _ _ _ _ _ marks _ _ =>
    refine ⟨marks.not_mem, ?_⟩
    have hmem : i.toNat ∈ members (window rem' d.processedRewardsStartIndex.toNat
        d.processedRewardsEndIndex.toNat) := by
      rw [marks.members_eq]
      exact Finset.mem_insert_self _ _
    exact hmem

theorem Transition.outflow {i : Identity} (hprocess : process rt call L = .ok L')
    (ht : Transition rt call (books rt L) (books rt L')) (hi : (books rt L).entry i ≠ none)
    (hlt : (L' (i.key rt)).lamports < (L (i.key rt)).lamports) :
    Outflow rt call L L' (i.key rt) := by
  have hspends : call.data.spends = some i.kind := by
    by_contra hne
    exact absurd hlt (Nat.not_lt.2 (ht.lamports_le hi hne))
  generalize hb' : books rt L' = b' at ht
  have hlamports : ∀ k, (L' k).lamports = b'.lamports k := fun k => by
    rw [← hb']
    rfl
  rw [hlamports] at hlt
  cases ht with
  | @pay c d d' rem rem' prem jrem p j amount proof leafIndex _ data indexed running has keyDist
      deposit journal step enough moved =>
    obtain ⟨hk, htaken, hreceived⟩ := moved.of_lt (k := i.key rt) hlt
    rw [hk]
    refine .payment data (view_eq_stateAt.2 deposit) ?_ ?_
    · rw [hlamports]
      exact htaken
    · rw [hlamports]
      exact hreceived
  | @withdrawSol c j jrem amount transferAmount solDestination _ data running journal enough moved
      credited ready =>
    obtain ⟨hk, htaken, hreceived⟩ := moved.of_lt (k := i.key rt) hlt
    obtain ⟨kc, authority, c, crem, hc, hexpected, hsigned⟩ := withdrawSol_signed data hprocess
    rw [hk]
    have hpaid : (L' solDestination).lamports = (L solDestination).lamports + amount.toNat := by
      rw [hlamports]
      exact hreceived
    refine .swap data hc hexpected hsigned credited (view_eq_stateAt.2 journal) enough ?_ hpaid
    rw [hlamports]
    exact htaken
  | @withdrawDeposit c p prem beneficiary n _ data running deposit amount nonzero authorized moved =>
    obtain ⟨hk, htaken, hreceived⟩ := moved.of_lt (k := i.key rt) hlt
    rw [hk]
    refine .withdrawal (n := n) data (view_eq_stateAt.2 deposit) authorized ?_ ?_ ?_
    · rw [hlamports, Runtime.depositRent]
      omega
    · rw [hlamports]
      exact htaken
    · rw [hlamports]
      exact hreceived
  | @distribute c d d' rem rem' rrem r unitShare economicBurnRate leafIndex proof rewardShare
      burnShare remainingShare relayer b₁ b₂ _ data indexed running has keyDist contributor share
      recipients split payouts step burn relayed =>
    have hbefore : b₂.lamports = (books rt L).lamports := burn.lamports_eq.trans payouts.lamports_eq
    obtain ⟨hk, htaken, hreceived⟩ := relayed.of_lt (k := i.key rt) (by rwa [hbefore])
    rw [hk]
    have has' : view ID L' (rt.distributionKey d.dzEpoch) = some (d', rem') := by
      have hepoch : d'.dzEpoch = d.dzEpoch := step.fixed.1
      refine view_eq_stateAt.2 ?_
      show (books rt L').entry (.distribution d.dzEpoch) = _
      rw [hb', relayed.entry_eq, burn.entry_eq, ← hepoch]
      exact Books.set_entry_self ..
    obtain ⟨hunpaid, hsettled⟩ := step.distribute_marks
    have hpaid : (L' relayer).lamports =
        (L relayer).lamports + d.distributeRewardsRelayLamports.toNat := by
      rw [hlamports, hreceived, hbefore]
      rfl
    refine .relay data (view_eq_stateAt.2 has) has' hunpaid hsettled ?_ hpaid
    rw [hlamports, htaken, hbefore]
    rfl
  | _ => simp [‹call.data = _›, InstructionData.spends] at hspends

end

theorem sol_custody {rt : Runtime} {L₀ L L' : RevenueLedger} {h : History} {l : Label} {k : Pubkey}
    {s : AccountState} {rem : List (BitVec 8)} (hg : Genesis rt L₀) (hrun : LedgerRun rt L₀ h L)
    (hk : stateAt L k = some (s, rem)) (hstep : Step rt l L L')
    (hlt : (L' k).lamports < (L k).lamports) :
    ∃ call, l = .call call ∧ Outflow rt call L L' k := by
  obtain ⟨hc, -⟩ := hrun.books hg
  have hkey := hc.atKey hk
  subst hkey
  have hentry : (books rt L).entry s.identity ≠ none := by
    show stateAt L _ ≠ none
    rw [hk]
    simp
  obtain ⟨-, hbook⟩ := step_refines hc hstep
  cases hstep with
  | outside hforeign =>
    have hle := (hforeign.owned _ (stateAt_eq_some.1 hk).1).2.2
    exact absurd hlt (Nat.not_lt.2 hle)
  | @call call _ _ hadmissible hprocess =>
    cases hbook with
    | call ht => exact ⟨call, rfl, ht.outflow hprocess hentry hlt⟩

/-- The deposit pays its debt into the journal. -/
theorem sol_custody_payment :
    ∃ (h : History) (L L' : RevenueLedger) (call : Call),
      LedgerRun (Sample.runtime Sample.debts Sample.shares) (Sample.genesis 1000 700) h L ∧
      (L' Sample.depositA).lamports + 100 = (L Sample.depositA).lamports ∧
      Outflow (Sample.runtime Sample.debts Sample.shares) call L L' Sample.depositA := by
  obtain ⟨h, L, L', hrun, hstep, hP⟩ := Sample.exists_step_of_replay Sample.debts Sample.shares 1000
    700 (Sample.opening ++ [Sample.registerIntegration, Sample.openEpoch,
      Sample.configureDebt 2 150, Sample.finalizeDebt]) (Sample.payDebt 0 100 Sample.depositA)
    (P := fun _ L L' => (stateAt L Sample.depositA).isSome &&
      decide ((L' Sample.depositA).lamports + 100 = (L Sample.depositA).lamports))
    (by decide +kernel) (by decide +kernel)
  obtain ⟨hsome, htaken⟩ := (Bool.and_eq_true _ _).mp hP
  obtain ⟨⟨s, rem⟩, hs⟩ := Option.isSome_iff_exists.1 hsome
  have htaken := of_decide_eq_true htaken
  obtain ⟨call, -, hout⟩ := sol_custody (Sample.genesis_unused 1000 700) hrun hs hstep (by omega)
  exact ⟨h, L, L', call, hrun, htaken, hout⟩

end DoubleZero.Revenue
