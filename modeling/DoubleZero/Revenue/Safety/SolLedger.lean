import DoubleZero.Revenue.Invariant.Totals
import DoubleZero.Revenue.Invariant.Lamports
import DoubleZero.Revenue.Replay

/-!
# The SOL ledger balances

Everything validators pay is collected by some distribution and enters the journal's balance. From
there it is swapped, and what was swapped is used up by the distributions that sweep, each for its
net debt. That debt never changes once it is swept, so the three parts of the journal's side always
add up to the payments. The lamports behind the unswapped part stay in the journal's account.
-/

namespace DoubleZero.Revenue

open DoubleZero.Lib DoubleZero.Solana

/-! ## What is measured -/

/-- The total of all amounts paid in a history. -/
def paidTotal {σ : Type} (h : List (Entry σ Label)) : Nat := (h.map fun e => e.label.paid).sum

/-- The net debt of a distribution that has swept. -/
def Distribution.sweptDebt (d : Distribution) : Nat :=
  if d.hasSwept2zTokens then d.checkedTotalSolDebt.elim 0 UInt64.toNat else 0

section

variable {rt : Runtime} {a : DistAction} {s s' : DistState}

theorem Distribution.sweptDebt_of_unswept {d : Distribution} (h : d.hasSwept2zTokens = false) :
    d.sweptDebt = 0 := by
  simp [sweptDebt, h]

theorem Distribution.sweptDebt_of_swept {d : Distribution} {solDebt : UInt64}
    (h : d.hasSwept2zTokens = true) (hdebt : d.checkedTotalSolDebt = some solDebt) :
    d.sweptDebt = solDebt.toNat := by
  simp [sweptDebt, h, hdebt]

theorem Distribution.sweptDebt_congr {d d' : Distribution}
    (hflag : d'.hasSwept2zTokens = d.hasSwept2zTokens)
    (hdebt : d'.checkedTotalSolDebt = d.checkedTotalSolDebt) : d'.sweptDebt = d.sweptDebt := by
  rw [sweptDebt, sweptDebt, hflag, hdebt]

theorem measured_collected :
    Measured rt (fun s => s.1.collectedSolanaValidatorPayments.toNat) (fun _ a => a.paid)
      (2 ^ 64) where
  init hi := by
    show UInt64.toNat _ = 0
    rw [congrArg Distribution.collectedSolanaValidatorPayments hi.rest_eq]
    rfl
  step _ hstep hsmall := by
    rw [Summed.collected_step hstep]
    exact Nat.mod_eq_of_lt hsmall
  migrate hstep := by
    cases hstep with
    | migrate _ => rfl

/-- A sweep fixes the net debt. It can change before, when it does not count, but not after. -/
theorem Valid.sweptDebt_step (hv : Valid s) (hstep : DistStep rt a s s') :
    s'.1.sweptDebt = s.1.sweptDebt + a.swept := by
  cases hstep with
  | configureDebt hopen =>
    have hunswept := (hv.ordered.open_debt hopen).2.2
    rw [Distribution.sweptDebt_of_unswept hunswept]
    exact Distribution.sweptDebt_of_unswept hunswept
  | book hunswept _ _ =>
    rw [Distribution.sweptDebt_of_unswept hunswept]
    exact Distribution.sweptDebt_of_unswept hunswept
  | @sweepNothing d rem hunswept _ hzero =>
    rw [Distribution.sweptDebt_of_unswept hunswept]
    exact Distribution.sweptDebt_of_swept
      (Distribution.hasSwept2zTokens_setHasSwept2zTokens d true) hzero
  | @sweep d rem solDebt token2zAmount hunswept _ hdebt _ =>
    rw [Distribution.sweptDebt_of_unswept hunswept, Nat.zero_add]
    exact Distribution.sweptDebt_of_swept
      (Distribution.hasSwept2zTokens_setHasSwept2zTokens d true) hdebt
  | @finalizeZeroDebt d rem _ _ =>
    exact Distribution.sweptDebt_congr
      (Distribution.hasSwept2zTokens_setIsDebtCalculationFinalized d true) rfl
  | @finalizeDebt d rem _ _ _ _ _ =>
    exact Distribution.sweptDebt_congr
      (Distribution.hasSwept2zTokens_setIsDebtCalculationFinalized d true) rfl
  | @finalizeRewards d rem _ _ _ _ =>
    exact Distribution.sweptDebt_congr
      (Distribution.hasSwept2zTokens_setIsRewardsCalculationFinalized d true) rfl
  | @enableWriteOff d rem _ _ _ =>
    exact Distribution.sweptDebt_congr
      (Distribution.hasSwept2zTokens_setIsSolanaValidatorDebtWriteOffEnabled d true) rfl
  | _ => rfl

theorem measured_swept (bound : Nat) :
    Measured rt (fun s => s.1.sweptDebt) (fun _ a => a.swept) bound where
  init hi := Distribution.sweptDebt_of_unswept hi.flag_eq
  step hv hstep _ := hv.sweptDebt_step hstep
  migrate hstep := by
    cases hstep with
    | migrate _ => rfl

end

/-! ## The balance -/

/-- Both sides of the ledger are what was ever paid. -/
structure SolBalanced (paid : Nat) (b : Books) : Prop where
  collected_eq : b.distTotal (fun s => s.1.collectedSolanaValidatorPayments.toNat) = paid
  journal_eq : b.journal.totalSolBalance.toNat + b.journal.swappedSolAmount.toNat +
    b.distTotal (fun s => s.1.sweptDebt) = paid

section

variable {rt : Runtime} {b b' b₀ : Books} {acts : DistActs} {n : Nat}
  {h : List (Entry Books Label)}

theorem SolEffect.balanced (he : SolEffect rt b b' acts n) (hfin : FiniteMap b.distAt)
    (hv : ∀ {d rem}, b.HasDist d rem → Valid (d, rem)) {paid : Nat} (hb : SolBalanced paid b)
    (hsmall : paid + acts.gain (fun _ a => a.paid) < 2 ^ 64) :
    SolBalanced (paid + acts.gain (fun _ a => a.paid)) b' := by
  have hcollected := he.dists.distTotal_eq measured_collected hfin hv
    (by rw [hb.collected_eq]; exact hsmall)
  have hswept := he.dists.distTotal_eq
    (measured_swept (b.distTotal (fun s => s.1.sweptDebt) + acts.gain (fun _ a => a.swept) + 1))
    hfin hv (Nat.lt_succ_self _)
  have hbal := hb.journal_eq
  refine ⟨by rw [hcollected, hb.collected_eq], ?_⟩
  rw [hswept]
  cases he with
  | quiet dists quiet journal deposits =>
    obtain ⟨ht, hw, -⟩ := journal
    obtain ⟨hpaid, -, -, hnone⟩ := DistActs.gains_of_isQuiet quiet
    rw [ht, hw, hpaid, hnone]
    exact hbal
  | @pay e leafIndex debt dists journal deposits =>
    have ht : b'.journal.totalSolBalance = b.journal.totalSolBalance + debt.amount := journal.1
    have hw : b'.journal.swappedSolAmount = b.journal.swappedSolAmount := journal.2.1
    simp only [DistActs.gain_cons, DistActs.gain_nil, DistAction.paid, DistAction.swept] at hsmall ⊢
    have hsum : (b.journal.totalSolBalance + debt.amount).toNat =
        b.journal.totalSolBalance.toNat + debt.amount.toNat := by
      rw [UInt64.toNat_add, Nat.mod_eq_of_lt (by omega)]
    rw [ht, hw, hsum]
    omega
  | writeOff dists journal later deposit deposits =>
    obtain ⟨ht, hw, -⟩ := journal
    simp only [DistActs.gain_cons, DistActs.gain_nil, DistAction.paid, DistAction.swept]
    rw [ht, hw]
    exact hbal
  | @sweep solDebt token2zAmount dists enough journal deposits =>
    have ht : b'.journal.totalSolBalance = b.journal.totalSolBalance := journal.1
    have hw : b'.journal.swappedSolAmount = b.journal.swappedSolAmount - solDebt := journal.2.1
    simp only [DistActs.gain_cons, DistActs.gain_nil, DistAction.paid, DistAction.swept]
    have hle := UInt64.le_iff_toNat_le.1 enough
    rw [ht, hw, UInt64.toNat_sub_of_le _ _ enough]
    omega
  | @withdraw amount dists enough journal deposits =>
    have ht : b'.journal.totalSolBalance = b.journal.totalSolBalance - amount := journal.1
    have hw : b'.journal.swappedSolAmount = b.journal.swappedSolAmount + amount := journal.2.1
    simp only [DistActs.gain_nil] at hsmall ⊢
    have hle := UInt64.le_iff_toNat_le.1 enough
    have hsum : (b.journal.swappedSolAmount + amount).toNat =
        b.journal.swappedSolAmount.toNat + amount.toNat := by
      rw [UInt64.toNat_add, Nat.mod_eq_of_lt (by omega)]
    rw [ht, hw, UInt64.toNat_sub_of_le _ _ enough, hsum]
    omega

theorem BooksRun.balanced (hrun : BooksRun rt b₀ h b) (hempty : b₀.Empty)
    (hsmall : paidTotal h < 2 ^ 64) : SolBalanced (paidTotal h) b := by
  refine hrun.history (P := fun h b => paidTotal h < 2 ^ 64 → SolBalanced (paidTotal h) b)
    ?_ ?_ hsmall
  · intro _
    have hdist : ∀ e, b₀.distAt e = none := fun e => by rw [Books.distAt, hempty]
    have hjournal : b₀.journal = default := by rw [Books.journal, hempty]
    constructor
    · exact total_none hdist
    · rw [hjournal, Books.distTotal, total_none hdist]
      rfl
  · intro h b l b' hr ih hs hsmall
    obtain ⟨acts, n, he, htakes⟩ := hs.effect
    have htotal : paidTotal (⟨b, l, b'⟩ :: h) =
        paidTotal h + acts.gain (fun _ a => a.paid) := by
      rw [paidTotal, List.map_cons, List.sum_cons, htakes.paid_eq, Nat.add_comm]
      rfl
    rw [htotal] at hsmall ⊢
    exact he.balanced (BooksRun.finite hr hempty).1 (fun hd => BooksRun.valid hr hempty hd)
      (ih (by omega)) hsmall

/-! ## The lamports of the journal -/

/-- The balance follows what is paid and withdrawn. It can only wrap to less. -/
theorem SolEffect.totalSolBalance_le (he : SolEffect rt b b' acts n) :
    b'.journal.totalSolBalance.toNat + n ≤
      b.journal.totalSolBalance.toNat + acts.gain (fun _ a => a.paid) := by
  cases he with
  | quiet dists quiet journal deposits =>
    rw [journal.1]
    exact Nat.le_add_right _ _
  | @pay e leafIndex debt dists journal deposits =>
    have ht : b'.journal.totalSolBalance = b.journal.totalSolBalance + debt.amount := journal.1
    rw [ht, UInt64.toNat_add]
    exact Nat.mod_le _ _
  | writeOff dists journal later deposit deposits =>
    rw [journal.1]
    exact Nat.le_add_right _ _
  | sweep dists enough journal deposits =>
    rw [journal.1]
    exact Nat.le_add_right _ _
  | @withdraw amount dists enough journal deposits =>
    have ht : b'.journal.totalSolBalance = b.journal.totalSolBalance - amount := journal.1
    have hle := UInt64.le_iff_toNat_le.1 enough
    rw [ht, UInt64.toNat_sub_of_le _ _ enough]
    show _ ≤ _ + 0
    omega

/-- The journal's account holds its rent and the SOL that was not withdrawn. -/
def Backed (rt : Runtime) (b : Books) : Prop :=
  b.entry .journal ≠ none → rt.rent.minimumBalance MAX_PERMITTED_DATA_INCREASE +
    b.journal.totalSolBalance.toNat ≤ b.lamports rt.journalKey

/-- Only one transition makes the journal. -/
theorem Transition.journal_new {call : Call} (ht : Transition rt call b b')
    (hnone : b.entry .journal = none) (hsome : b'.entry .journal ≠ none) :
    rt.rent.minimumBalance MAX_PERMITTED_DATA_INCREASE ≤ b'.lamports rt.journalKey ∧
      b'.journal.totalSolBalance = 0 := by
  cases ht with
  | initializeJournal data new funds exempt =>
    refine ⟨exempt, ?_⟩
    rw [Books.journal_eq (Books.set_entry_self _ _ _ _)]
    rfl
  | initializeIntegration data config signed new journal counted funds =>
    simp [hnone] at journal
  | migrate data journal migrated => simp [hnone] at journal
  | initializeDistribution data config unpaused signed journal new advanced initialized rate_eq funds
      exempt moved => simp [hnone] at journal
  | collect data running has integration keyDist keyIntegration invokes foreign delta step =>
    simp [foreign.entry_eq, hnone] at hsome
  | distribute data indexed running has keyDist contributor share recipients split payouts step burn
      relayed =>
    simp [relayed.entry_eq, burn.entry_eq, payouts.entry_eq, hnone] at hsome
  | pay data indexed running has keyDist deposit journal step enough moved =>
    simp [hnone] at journal
  | writeOff data indexed running signed has keyDist keyBook deposit short step written hasBook later
      bookStep =>
    simp [written, Books.set_entry, hnone] at hsome
  | sweepNothing data running has journal next zero step => simp [hnone] at journal
  | sweep data running has journal next debt nonzero enough invokes foreign transfer step =>
    simp [hnone] at journal
  | withdrawSol data running journal enough moved => simp [hnone] at journal
  | withdrawDeposit data running deposit amount nonzero authorized moved =>
    simp [moved.entry_eq, hnone] at hsome
  | _ => simp [Books.set_entry, hnone] at hsome

theorem BookStep.backed {l : Label} (hs : BookStep rt l b b') (hb : Backed rt b) :
    Backed rt b' := by
  intro hsome
  by_cases hnone : b.entry .journal = none
  · cases hs with
    | call ht =>
      obtain ⟨hexempt, hzero⟩ := ht.journal_new hnone hsome
      rw [hzero]
      exact hexempt
    | outside hforeign => exact absurd (hforeign.entry_eq ▸ hnone) hsome
  · have howns : b.Owns rt rt.journalKey := ⟨.journal, rfl, hnone⟩
    have hold := hb hnone
    obtain ⟨acts, n, he, htakes⟩ := hs.effect
    have hbalance := he.totalSolBalance_le
    cases hs with
    | @call c _ _ ht =>
      have hpaid : c.paid = acts.gain (fun _ a => a.paid) := htakes.paid_eq
      have hwithdrawn : c.withdrawn = n := htakes.withdrawn_eq
      rcases ht.lamports howns (fun _ => (Runtime.depositKey_ne_journalKey _).symm) with
        hle | ⟨-, e, hk⟩
      · rw [Call.income, Call.outlay, if_pos rfl, if_pos rfl] at hle
        omega
      · exact absurd hk.symm (Runtime.distributionKey_ne_journalKey e)
    | outside hforeign =>
      have hpaid : 0 = acts.gain (fun _ a => a.paid) := htakes.paid_eq
      have hle := hforeign.lamports_le _ howns
      omega

theorem BooksRun.backed (hrun : BooksRun rt b₀ h b) (hempty : b₀.Empty) : Backed rt b := by
  refine hrun.invariant (P := Backed rt) (fun hsome => absurd (hempty _) hsome) ?_
  intro l b b' hb hs
  exact hs.backed hb

end

/-! ## On the ledger -/

theorem paidTotal_map {σ τ : Type} (f : σ → τ) (h : List (Entry σ Label)) :
    paidTotal (h.map (Entry.map f)) = paidTotal h := by
  rw [paidTotal, List.map_map]
  rfl

theorem sol_ledger_conserved {rt : Runtime} {L₀ L : RevenueLedger} {h : History} {k : Pubkey}
    {j : Journal} {jrem : List (BitVec 8)} (hg : Genesis rt L₀) (hrun : LedgerRun rt L₀ h L)
    (hsmall : paidTotal h < 2 ^ 64) (hj : view ID L k = some (j, jrem)) :
    (FiniteMap fun k => view (T := Distribution) ID L k) ∧
      accountTotal Distribution L (fun x => x.1.collectedSolanaValidatorPayments.toNat) =
        j.totalSolBalance.toNat + j.swappedSolAmount.toNat + accountTotal Distribution L (fun x =>
          if x.1.hasSwept2zTokens then x.1.checkedTotalSolDebt.elim 0 UInt64.toNat else 0) ∧
      rt.rent.minimumBalance (L k).data.dataLen + j.totalSolBalance.toNat ≤ (L k).lamports ∧
      ∀ amount : UInt64, amount ≤ j.totalSolBalance →
        amount.toNat ≤ (L k).lamports ∧
          rt.rent.minimumBalance (L k).data.dataLen ≤ (L k).lamports - amount.toNat := by
  obtain ⟨hc, hbooks⟩ := hrun.books hg
  obtain ⟨hk, hview, -, hsound⟩ := hc.of_view hj
  have hentry : (books rt L).entry .journal = some (.journal j, jrem) := hview
  have hjournal : (books rt L).journal = j := Books.journal_eq hentry
  have hbalanced := hbooks.balanced hg.books_empty (by rw [paidTotal_map]; exact hsmall)
  have hlen : (L k).data.dataLen = MAX_PERMITTED_DATA_INCREASE := by
    rw [(view_eq_some.1 hj).2]
    exact hsound.2.2
  have hbacked : rt.rent.minimumBalance (L k).data.dataLen + j.totalSolBalance.toNat ≤
      (L k).lamports := by
    have hle := hbooks.backed hg.books_empty (by rw [hentry]; simp)
    rw [hjournal] at hle
    rw [hlen, hk]
    exact hle
  refine ⟨hc.finite_dists (hbooks.finite hg.books_empty).1, ?_, hbacked, fun amount hle => ?_⟩
  · rw [hc.distTotal_eq, hc.distTotal_eq, hbalanced.collected_eq, ← hbalanced.journal_eq, hjournal]
    rfl
  · have hle' := UInt64.le_iff_toNat_le.1 hle
    omega

theorem sol_ledger_conserved_epoch :
    ∃ (h : History) (L : RevenueLedger) (j : Journal) (jrem : List (BitVec 8)),
      LedgerRun (Sample.runtime Sample.debts Sample.shares) (Sample.genesis 1000 700) h L ∧
      paidTotal h = 100 ∧ view ID L Sample.journal = some (j, jrem) ∧
      accountTotal Distribution L (fun x => x.1.collectedSolanaValidatorPayments.toNat) =
        j.totalSolBalance.toNat + j.swappedSolAmount.toNat + accountTotal Distribution L (fun x =>
          if x.1.hasSwept2zTokens then x.1.checkedTotalSolDebt.elim 0 UInt64.toNat else 0) := by
  obtain ⟨h, L, hrun, -, hP⟩ := Sample.exists_epoch (P := fun h L =>
    paidTotal h = 100 ∧ (view (T := Journal) ID L Sample.journal).isSome) (by decide +kernel)
  obtain ⟨hpaid, hsome⟩ := of_decide_eq_true hP
  obtain ⟨⟨j, jrem⟩, hj⟩ := Option.isSome_iff_exists.1 hsome
  have hledger := sol_ledger_conserved (Sample.genesis_unused 1000 700) hrun (by omega) hj
  exact ⟨h, L, j, jrem, hrun, hpaid, hj, hledger.2.1⟩

end DoubleZero.Revenue
