import DoubleZero.Revenue.Invariant.Totals
import DoubleZero.Revenue.Replay

/-!
# The books of written-off debt balance

One write-off enters three books: the bitmap of the distribution the leaf belongs to, the deposit of
the validator, and the uncollectible debt of the distribution it is booked on. The three totals are
the same number, and no distribution has more uncollectible debt than debt.
-/

namespace DoubleZero.Revenue

open DoubleZero.Lib DoubleZero.Solana

/-- The total of all amounts written off in a history. -/
def writtenOffTotal {σ : Type} (h : List (Entry σ Label)) : Nat :=
  (h.map fun e => e.label.writtenOff).sum

/-! ## What is measured -/

section

variable {rt : Runtime}

theorem measured_uncollectible :
    Measured rt (fun s => s.1.uncollectibleSolDebt.toNat) (fun _ a => a.booked) (2 ^ 64) where
  init hi := by
    show UInt64.toNat _ = 0
    rw [congrArg Distribution.uncollectibleSolDebt hi.rest_eq]
    rfl
  step _ hstep hsmall := by
    cases hstep with
    | @book d rem amount _ _ _ _ =>
      show (d.uncollectibleSolDebt + amount).toNat = _
      rw [UInt64.toNat_add]
      exact Nat.mod_eq_of_lt hsmall
    | _ => rfl
  migrate hstep := by
    cases hstep with
    | migrate _ => rfl

theorem measured_writtenOff (hu : LeafUnique rt.rootFromPodLeaf) (bound : Nat) :
    Measured rt (writtenOffSum rt) (fun _ a => a.writtenOff) bound where
  init hi := by
    rw [writtenOffSum, (hi.valid.unsettled_sets hi.flag_eq).2]
    rfl
  step hv hstep _ := (hv.sums_step hu hstep).2
  migrate hstep := by
    cases hstep with
    | migrate _ => rfl

end

/-! ## The balance -/

/-- The three books of written-off debt. -/
structure WriteOffsBalanced (rt : Runtime) (writtenOff : Nat) (b : Books) : Prop where
  deposits_eq : b.depositTotal (fun p => p.writtenOffSolDebt.toNat) = writtenOff
  uncollectible_eq : b.distTotal (fun s => s.1.uncollectibleSolDebt.toNat) = writtenOff
  leaves_eq : b.distTotal (writtenOffSum rt) = writtenOff

section

variable {rt : Runtime} {b b' b₀ : Books} {acts : DistActs} {n : Nat}
  {h : List (Entry Books Label)}

/-- What is written off is booked. -/
theorem SolEffect.booked_eq (he : SolEffect rt b b' acts n) :
    acts.gain (fun _ a => a.booked) = acts.gain (fun _ a => a.writtenOff) := by
  cases he with
  | quiet dists quiet journal deposits =>
    obtain ⟨-, hwrittenOff, hbooked, -⟩ := DistActs.gains_of_isQuiet quiet
    rw [hwrittenOff, hbooked]
  | writeOff dists journal later deposit deposits =>
    simp [DistAction.booked, DistAction.writtenOff]
  | _ => rfl

theorem SolEffect.depositTotal_eq (he : SolEffect rt b b' acts n)
    (hfin : FiniteMap b.depositAt)
    (hsmall : b.depositTotal (fun p => p.writtenOffSolDebt.toNat) +
      acts.gain (fun _ a => a.writtenOff) < 2 ^ 64) :
    b'.depositTotal (fun p => p.writtenOffSolDebt.toNat) =
      b.depositTotal (fun p => p.writtenOffSolDebt.toNat) +
        acts.gain (fun _ a => a.writtenOff) := by
  cases he with
  | quiet dists quiet journal deposits =>
    rw [(DistActs.gains_of_isQuiet quiet).2.1]
    exact deposits.depositTotal_eq hfin fun _ => rfl
  | pay dists journal deposits => exact deposits.depositTotal_eq hfin fun _ => rfl
  | @writeOff e w leafIndex debt p dists journal later deposit deposits =>
    simp only [DistActs.gain_cons, DistActs.gain_nil, DistAction.writtenOff, Nat.add_zero]
      at hsmall ⊢
    have hsum := total_update (f := fun p : SolanaValidatorDeposit => p.writtenOffSolDebt.toNat)
      (i := p.nodeId) hfin fun n hn => (deposits n).trans (if_neg hn)
    rw [deposits, if_pos rfl, deposit] at hsum
    have hle : p.writtenOffSolDebt.toNat ≤ _ :=
      le_total (f := fun p : SolanaValidatorDeposit => p.writtenOffSolDebt.toNat) hfin deposit
    have hadd : (p.writtenOffSolDebt + debt.amount).toNat =
        p.writtenOffSolDebt.toNat + debt.amount.toNat := by
      rw [UInt64.toNat_add]
      apply Nat.mod_eq_of_lt
      unfold Books.depositTotal at hsmall
      omega
    simp only [Option.elim, hadd] at hsum
    unfold Books.depositTotal
    omega
  | sweep dists enough journal deposits => exact deposits.depositTotal_eq hfin fun _ => rfl
  | withdraw dists enough journal deposits => exact deposits.depositTotal_eq hfin fun _ => rfl

theorem SolEffect.writeOffsBalanced (hu : LeafUnique rt.rootFromPodLeaf)
    (he : SolEffect rt b b' acts n) (hdists : FiniteMap b.distAt)
    (hdeposits : FiniteMap b.depositAt) (hv : ∀ {d rem}, b.HasDist d rem → Valid (d, rem))
    {total : Nat} (hb : WriteOffsBalanced rt total b)
    (hsmall : total + acts.gain (fun _ a => a.writtenOff) < 2 ^ 64) :
    WriteOffsBalanced rt (total + acts.gain (fun _ a => a.writtenOff)) b' := by
  constructor
  · rw [he.depositTotal_eq hdeposits (by rw [hb.deposits_eq]; exact hsmall), hb.deposits_eq]
  · rw [he.dists.distTotal_eq measured_uncollectible hdists hv
      (by rw [hb.uncollectible_eq, he.booked_eq]; exact hsmall), hb.uncollectible_eq, he.booked_eq]
  · rw [he.dists.distTotal_eq (measured_writtenOff hu _) hdists hv (Nat.lt_succ_self _),
      hb.leaves_eq]

theorem BooksRun.writeOffsBalanced (hu : LeafUnique rt.rootFromPodLeaf)
    (hrun : BooksRun rt b₀ h b) (hempty : b₀.Empty) (hsmall : writtenOffTotal h < 2 ^ 64) :
    WriteOffsBalanced rt (writtenOffTotal h) b := by
  refine hrun.history (P := fun h b => writtenOffTotal h < 2 ^ 64 →
    WriteOffsBalanced rt (writtenOffTotal h) b) ?_ ?_ hsmall
  · intro _
    have hdist : ∀ e, b₀.distAt e = none := fun e => by rw [Books.distAt, hempty]
    have hdeposit : ∀ n, b₀.depositAt n = none := fun n => by rw [Books.depositAt, hempty]
    exact ⟨total_none hdeposit, total_none hdist, total_none hdist⟩
  · intro h b l b' hr ih hs hsmall
    obtain ⟨acts, n, he, htakes⟩ := hs.effect
    have htotal : writtenOffTotal (⟨b, l, b'⟩ :: h) =
        writtenOffTotal h + acts.gain (fun _ a => a.writtenOff) := by
      rw [writtenOffTotal, List.map_cons, List.sum_cons, htakes.writtenOff_eq, Nat.add_comm]
      rfl
    rw [htotal] at hsmall ⊢
    obtain ⟨hdists, hdeposits⟩ := BooksRun.finite hr hempty
    exact he.writeOffsBalanced hu hdists hdeposits (fun hd => BooksRun.valid hr hempty hd)
      (ih (by omega)) hsmall

end

/-! ## Swept distributions -/

/-- A distribution that has swept keeps its net debt. -/
theorem Valid.swept_step {rt : Runtime} {a : DistAction} {s s' : DistState} (hv : Valid s)
    (hswept : s.1.hasSwept2zTokens = true) (hstep : DistStep rt a s s') :
    s'.1.hasSwept2zTokens = true ∧ s'.1.checkedTotalSolDebt = s.1.checkedTotalSolDebt := by
  cases hstep with
  | configureDebt hopen => simp [(hv.ordered.open_debt hopen).2.2] at hswept
  | finalizeZeroDebt hopen _ => simp [(hv.ordered.open_debt hopen).2.2] at hswept
  | finalizeDebt hopen _ _ _ => simp [(hv.ordered.open_debt hopen).2.2] at hswept
  | finalizeRewards hopen _ _ _ => simp [hv.ordered.open_rewards hopen] at hswept
  | @enableWriteOff d rem _ _ _ =>
    refine ⟨?_, rfl⟩
    exact (Distribution.hasSwept2zTokens_setIsSolanaValidatorDebtWriteOffEnabled d true).trans hswept
  | book hunswept _ _ => simp [hunswept] at hswept
  | sweepNothing hunswept _ _ => simp [hunswept] at hswept
  | sweep hunswept _ _ _ => simp [hunswept] at hswept
  | _ => exact ⟨hswept, rfl⟩

theorem Valid.swept_moves {rt : Runtime} {s s' : DistState} (hv : Valid s)
    (hswept : s.1.hasSwept2zTokens = true) (hmoves : DistMoves rt s s') :
    s'.1.hasSwept2zTokens = true ∧ s'.1.checkedTotalSolDebt = s.1.checkedTotalSolDebt := by
  have hall : Valid s' ∧ s'.1.hasSwept2zTokens = true ∧
      s'.1.checkedTotalSolDebt = s.1.checkedTotalSolDebt := by
    refine hmoves.preserves (P := fun t => Valid t ∧ t.1.hasSwept2zTokens = true ∧
      t.1.checkedTotalSolDebt = s.1.checkedTotalSolDebt) ?_ ⟨hv, hswept, rfl⟩
    rintro a t t' ⟨hvt, ht, hdebt⟩ hstep
    obtain ⟨ht', hdebt'⟩ := hvt.swept_step ht hstep
    exact ⟨hvt.step hstep, ht', hdebt'.trans hdebt⟩
  exact hall.2

/-! ## On the ledger -/

theorem writtenOffTotal_map {σ τ : Type} (f : σ → τ) (h : List (Entry σ Label)) :
    writtenOffTotal (h.map (Entry.map f)) = writtenOffTotal h := by
  rw [writtenOffTotal, List.map_map]
  rfl

theorem write_off_books_balance {rt : Runtime} {L₀ L : RevenueLedger} {h : History}
    (hg : Genesis rt L₀) (hrun : LedgerRun rt L₀ h L) (hu : LeafUnique rt.rootFromPodLeaf) :
    (∀ (k : Pubkey) (d : Distribution) (rem : List (BitVec 8)), view ID L k = some (d, rem) →
      d.uncollectibleSolDebt ≤ d.totalSolanaValidatorDebt ∧
        d.checkedTotalSolDebt.isSome = true ∧
        (∀ i ∈ d.writtenOffDebt rem, ∃ debt : SolanaValidatorDebt,
          Verifies rt d.solanaValidatorDebtMerkleRoot (UInt32.ofNat i) (.solanaValidatorDebt debt) ∧
          debtAmount rt d.solanaValidatorDebtMerkleRoot i = debt.amount.toNat) ∧
        (d.hasSwept2zTokens = true → ∀ (h' : History) (L' : RevenueLedger),
          LedgerRun rt L h' L' → ∃ (d' : Distribution) (rem' : List (BitVec 8)),
            view ID L' k = some (d', rem') ∧
            d'.hasSwept2zTokens = true ∧ d'.checkedTotalSolDebt = d.checkedTotalSolDebt)) ∧
      (writtenOffTotal h < 2 ^ 64 →
        (FiniteMap fun k => view (T := SolanaValidatorDeposit) ID L k) ∧
        (FiniteMap fun k => view (T := Distribution) ID L k) ∧
        accountTotal SolanaValidatorDeposit L (fun x => x.1.writtenOffSolDebt.toNat) =
          accountTotal Distribution L (fun x => x.1.uncollectibleSolDebt.toNat) ∧
        accountTotal Distribution L (fun x => x.1.uncollectibleSolDebt.toNat) =
          accountTotal Distribution L (fun x => ∑ i ∈ x.1.writtenOffDebt x.2,
            debtAmount rt x.1.solanaValidatorDebtMerkleRoot i)) := by
  obtain ⟨hc, hbooks⟩ := hrun.books hg
  refine ⟨fun k d rem hview => ?_, fun hsmall => ?_⟩
  · have hd : (books rt L).HasDist d rem := (hc.of_view hview).2.1
    have hv := hbooks.valid hg.books_empty hd
    have hs := hbooks.summed hu hg.books_empty hd
    refine ⟨hv.booked.debt_le, ?_, fun i hi => hs.leaf hu hv (hv.counted.writtenOff_subset hi),
      fun hswept h' L' hrun' => ?_⟩
    · rw [Option.isSome_iff_ne_none]
      intro hnone
      have hlt := checkedSub_eq_none.1 hnone
      exact absurd (UInt64.le_iff_toNat_le.1 hv.booked.debt_le) (Nat.not_le.2 hlt)
    · obtain ⟨-, d', rem', hview', hmoves⟩ := hrun.persists hg hrun' hview
      obtain ⟨hswept', hdebt⟩ := hv.swept_moves hswept hmoves
      exact ⟨d', rem', hview', hswept', hdebt⟩
  · obtain ⟨hdists, hdeposits⟩ := hbooks.finite hg.books_empty
    have hbalanced := hbooks.writeOffsBalanced hu hg.books_empty
      (by rw [writtenOffTotal_map]; exact hsmall)
    refine ⟨hc.finite_deposits hdeposits, hc.finite_dists hdists, ?_, ?_⟩
    · rw [hc.depositTotal_eq fun p => p.writtenOffSolDebt.toNat, hc.distTotal_eq,
        hbalanced.deposits_eq, hbalanced.uncollectible_eq]
    · rw [hc.distTotal_eq, hc.distTotal_eq, hbalanced.uncollectible_eq]
      exact hbalanced.leaves_eq.symm

/-- One of the two debts is written off. -/
theorem write_off_books_balance_epoch :
    ∃ (h : History) (L : RevenueLedger),
      LedgerRun (Sample.runtime Sample.debts Sample.shares) (Sample.genesis 1000 700) h L ∧
      writtenOffTotal h = 50 ∧
      accountTotal SolanaValidatorDeposit L (fun x => x.1.writtenOffSolDebt.toNat) =
        accountTotal Distribution L (fun x => x.1.uncollectibleSolDebt.toNat) := by
  obtain ⟨h, L, hrun, -, hP⟩ := Sample.exists_epoch (P := fun h _ => writtenOffTotal h = 50)
    (by decide +kernel)
  have hoff : writtenOffTotal h = 50 := of_decide_eq_true hP
  have hbooks := write_off_books_balance (Sample.genesis_unused 1000 700) hrun Sample.leafUnique
  exact ⟨h, L, hrun, hoff, (hbooks.2 (by omega)).2.2.1⟩

/-! ## The cap -/

/-- The distribution that a write-off is booked on, before the instruction. The leaf may be of the
same distribution, which the instruction has stored once before. -/
theorem exists_written {rt : Runtime} {b : Books} (b₁ : Books) {d d' w : Distribution}
    {rem rem' wrem : List (BitVec 8)} {i : UInt32} {debt : SolanaValidatorDebt}
    (hd : b.HasDist d rem) (hstep : DistStep rt (.writeOff i debt) (d, rem) (d', rem'))
    (hentry : b₁.entry (.distribution w.dzEpoch) =
      (b.setDist d' rem').entry (.distribution w.dzEpoch)) (hw : b₁.HasDist w wrem) :
    ∃ w₀ wrem₀, b.HasDist w₀ wrem₀ ∧ w₀.dzEpoch = w.dzEpoch ∧
      w₀.uncollectibleSolDebt = w.uncollectibleSolDebt := by
  have hepoch : d'.dzEpoch = d.dzEpoch := hstep.fixed.1
  have hw : (b.setDist d' rem').HasDist w wrem := hentry.symm.trans hw
  by_cases hsame : w.dzEpoch = d'.dzEpoch
  · have hd' : (b.setDist d' rem').HasDist d' rem' := Books.set_entry_self ..
    obtain ⟨rfl, rfl⟩ := hd'.unique hw hsame
    refine ⟨d, rem, hd, hepoch.symm, ?_⟩
    cases hstep
    rfl
  · refine ⟨w, wrem, ?_, rfl, rfl⟩
    exact (Books.set_entry_of_ne _ _ _ (by simpa using hsame)).symm.trans hw

theorem write_off_exact_iff_fits {rt : Runtime} {L₀ L L' : RevenueLedger} {h : History}
    {call : Call} {amount : UInt64} {proof : MerkleProof} (hg : Genesis rt L₀)
    (hrun : LedgerRun rt L₀ h L) (hdata : call.data = .writeOffSolanaValidatorDebt amount proof)
    (hstep : Step rt (.call call) L L') :
    ∃ (kw kp : Pubkey) (w w' : Distribution) (p p' : SolanaValidatorDeposit)
      (wrem wrem' prem prem' : List (BitVec 8)), call.key? 4 = some kw ∧ call.key? 3 = some kp ∧
      view ID L kw = some (w, wrem) ∧ view ID L' kw = some (w', wrem') ∧
      view ID L kp = some (p, prem) ∧ view ID L' kp = some (p', prem') ∧
      (w'.uncollectibleSolDebt.toNat = w.uncollectibleSolDebt.toNat + amount.toNat ∧
          w'.uncollectibleSolDebt ≤ w'.totalSolanaValidatorDebt ∧
          p'.writtenOffSolDebt.toNat = p.writtenOffSolDebt.toNat + amount.toNat ↔
        w.uncollectibleSolDebt.toNat + amount.toNat < 2 ^ 64 ∧
          p.writtenOffSolDebt.toNat + amount.toNat < 2 ^ 64) := by
  obtain ⟨hc, -⟩ := hrun.books hg
  obtain ⟨-, hbookStep⟩ := step_refines hc hstep
  cases hbookStep with
  | call ht =>
    generalize hb' : books rt L' = b' at ht
    cases ht with
    | @writeOff c d d' w w' rem rem' prem wrem wrem' p amount' proof' i b₁ data indexed running signed
        has keyDist keyBook deposit short step written hasBook later bookStep keyDeposit =>
      cases hdata.symm.trans data
      subst written
      obtain ⟨w₀, wrem₀, hw₀, hepoch, hsame⟩ := exists_written
        (Books.setDist _ d' rem') has step (by simp [Books.setDist, Books.set_entry]) hasBook
      have hepoch' : w'.dzEpoch = w.dzEpoch := bookStep.fixed.1
      have hw' : (books rt L').HasDist w' wrem' := by
        rw [hb']
        exact Books.set_entry_self ..
      have hp' : (books rt L').entry (.deposit p.nodeId) = some (.solanaValidatorDeposit
          { p with writtenOffSolDebt := p.writtenOffSolDebt + amount }, prem) := by
        rw [hb', Books.setDist_deposit, Books.setDist_deposit]
        exact Books.set_entry_self ..
      refine ⟨rt.distributionKey w.dzEpoch, rt.depositKey p.nodeId, w₀, w', p, _, wrem₀, wrem', prem,
        prem, keyBook, keyDeposit, ?_, ?_, view_eq_stateAt.2 deposit, view_eq_stateAt.2 hp', ?_⟩
      · rw [← hepoch]
        exact view_eq_stateAt.2 hw₀
      · rw [← hepoch']
        exact view_eq_stateAt.2 hw'
      · cases bookStep with
        | book hunswept hfinal hcovered =>
          rw [hsame, ← toNat_add_eq_iff, ← toNat_add_eq_iff]
          refine and_congr_right fun _ => and_iff_right ?_
          exact UInt64.le_iff_toNat_le.2 (checkedSub_eq_some.1 hcovered).1
    | _ => simp [‹call.data = _›] at hdata

/-- One of the two debts of the epoch is written off. -/
theorem write_off_exact_iff_fits_epoch :
    ∃ (h : History) (L L' : RevenueLedger) (w w' : Distribution) (wrem wrem' : List (BitVec 8)),
      LedgerRun (Sample.runtime Sample.debts Sample.shares) (Sample.genesis 1000 700) h L ∧
      Step (Sample.runtime Sample.debts Sample.shares)
        (Sample.writeOffDebt 1 50 Sample.depositB).label L L' ∧
      view ID L Sample.distribution = some (w, wrem) ∧
      view ID L' Sample.distribution = some (w', wrem') ∧
      w'.uncollectibleSolDebt.toNat = w.uncollectibleSolDebt.toNat + 50 := by
  obtain ⟨h, L, L', hrun, hstep, hP⟩ := Sample.exists_step_of_replay Sample.debts Sample.shares 1000
    700 (Sample.opening ++ [Sample.openEpoch, Sample.configureDebt 2 150, Sample.finalizeDebt,
      Sample.enableWriteOff]) (Sample.writeOffDebt 1 50 Sample.depositB) (P := fun _ L _ =>
      (view (T := Distribution) ID L Sample.distribution).any (fun x =>
        x.1.uncollectibleSolDebt = 0) ∧
      (view (T := SolanaValidatorDeposit) ID L Sample.depositB).any fun x =>
        x.1.writtenOffSolDebt = 0) (by decide +kernel) (by decide +kernel)
  obtain ⟨hdist, hdeposit⟩ := of_decide_eq_true hP
  obtain ⟨⟨w₀, wrem₀⟩, hw₀, hnone⟩ := (Option.any_eq_true _ _).1 hdist
  obtain ⟨⟨p₀, prem₀⟩, hp₀, hnone'⟩ := (Option.any_eq_true _ _).1 hdeposit
  have hnone : w₀.uncollectibleSolDebt = 0 := of_decide_eq_true hnone
  have hnone' : p₀.writtenOffSolDebt = 0 := of_decide_eq_true hnone'
  obtain ⟨kw, kp, w, w', p, p', wrem, wrem', prem, prem', hkw, hkp, hw, hw', hp, hp', hiff⟩ :=
    write_off_exact_iff_fits (Sample.genesis_unused 1000 700) hrun rfl hstep
  obtain rfl : kw = Sample.distribution := (Option.some.inj hkw).symm
  obtain rfl : kp = Sample.depositB := (Option.some.inj hkp).symm
  cases hw₀.symm.trans hw
  cases hp₀.symm.trans hp
  rw [hnone, hnone'] at hiff
  obtain ⟨hexact, -, -⟩ := hiff.2 ⟨by decide, by decide⟩
  exact ⟨h, L, L', w₀, w', wrem₀, wrem', hrun, hstep, hw, hw', by rw [hexact, hnone]; rfl⟩

/-- The second write-off wraps the uncollectible debt from 1 to 0, and passes the check against the
total. -/
theorem write_off_wraps :
    ∃ (h : History) (L L' : RevenueLedger) (w w' : Distribution) (wrem wrem' : List (BitVec 8)),
      LedgerRun (Sample.runtime Sample.wrappingDebts []) (Sample.genesis 0 5) h L ∧
      Step (Sample.runtime Sample.wrappingDebts [])
        (Sample.writeOffDebt 1 18446744073709551615 Sample.depositB).label L L' ∧
      view ID L Sample.distribution = some (w, wrem) ∧
      view ID L' Sample.distribution = some (w', wrem') ∧ w.uncollectibleSolDebt.toNat = 1 ∧
      w'.uncollectibleSolDebt.toNat = 0 ∧ w'.totalSolanaValidatorDebt.toNat = 1 ∧
      w'.uncollectibleSolDebt.toNat ≠ w.uncollectibleSolDebt.toNat + 18446744073709551615 := by
  obtain ⟨h, L, L', hrun, hstep, hP⟩ := Sample.exists_step_of_replay Sample.wrappingDebts [] 0 5
    (Sample.opening ++ [Sample.openEpoch, Sample.configureDebt 3 1, Sample.finalizeDebt,
      Sample.enableWriteOff, Sample.writeOffDebt 0 1 Sample.depositB])
    (Sample.writeOffDebt 1 18446744073709551615 Sample.depositB) (P := fun _ L L' =>
      (view (T := Distribution) ID L Sample.distribution).any (fun x =>
        x.1.uncollectibleSolDebt.toNat = 1) ∧
      (view (T := Distribution) ID L' Sample.distribution).any fun x =>
        x.1.uncollectibleSolDebt.toNat = 0 ∧ x.1.totalSolanaValidatorDebt.toNat = 1)
    (by decide +kernel) (by decide +kernel)
  obtain ⟨hbefore, hafter⟩ := of_decide_eq_true hP
  obtain ⟨⟨w, wrem⟩, hw, hone⟩ := (Option.any_eq_true _ _).1 hbefore
  obtain ⟨⟨w', wrem'⟩, hw', hzero⟩ := (Option.any_eq_true _ _).1 hafter
  have hone : w.uncollectibleSolDebt.toNat = 1 := of_decide_eq_true hone
  obtain ⟨hzero, htotal⟩ : w'.uncollectibleSolDebt.toNat = 0 ∧
    w'.totalSolanaValidatorDebt.toNat = 1 := of_decide_eq_true hzero
  exact ⟨h, L, L', w, w', wrem, wrem', hrun, hstep, hw, hw', hone, hzero, htotal, by omega⟩

end DoubleZero.Revenue
