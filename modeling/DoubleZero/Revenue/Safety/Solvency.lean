import DoubleZero.Revenue.Safety.SolLedger
import DoubleZero.Revenue.Safety.WriteOff
import DoubleZero.Revenue.Invariant.Epochs
import DoubleZero.Revenue.Replay

/-!
# The next distribution can be swept

Sweeping an epoch takes its net debt out of what was swapped. If every debt leaf up to that epoch is
settled, and the write-offs among them are booked up to that epoch too, then the payments up to that
epoch cover the net debts up to it: what was written off on one side is uncollectible on the other.
The epochs before it have taken their part already, so what is left covers this one.
-/

namespace DoubleZero.Revenue

open DoubleZero.Lib DoubleZero.Solana

/-! ## Totals up to an epoch -/

/-- A measure counted up to an epoch only. -/
def upTo (e : DoubleZeroEpoch) (f : DistState → Nat) (s : DistState) : Nat :=
  if s.1.dzEpoch ≤ e then f s else 0

section

variable {rt : Runtime} {f : DistState → Nat} {gain : DoubleZeroEpoch → DistAction → Nat}
  {bound : Nat}

theorem Measured.upTo (hm : Measured rt f gain bound) (e : DoubleZeroEpoch) :
    Measured rt (upTo e f) (fun e' a => if e' ≤ e then gain e' a else 0) bound where
  init hi := by
    unfold Revenue.upTo
    split
    · exact hm.init hi
    · rfl
  step {a s s'} hv hstep hsmall := by
    have hepoch : s'.1.dzEpoch = s.1.dzEpoch := hstep.fixed.1
    unfold Revenue.upTo at hsmall ⊢
    rw [hepoch]
    split
    · next hle =>
      simp only [hle, if_true] at hsmall
      exact hm.step hv hstep hsmall
    · rfl
  migrate {n s s'} hstep := by
    have hepoch : s'.1.dzEpoch = s.1.dzEpoch := hstep.fixed.1
    unfold Revenue.upTo
    rw [hepoch, hm.migrate hstep]

theorem upTo_le (e : DoubleZeroEpoch) (s : DistState) : upTo e f s ≤ f s := by
  unfold upTo
  split
  · exact le_rfl
  · exact Nat.zero_le _

theorem measured_paid (hu : LeafUnique rt.rootFromPodLeaf) (bound : Nat) :
    Measured rt (paidSum rt) (fun _ a => a.paid) bound where
  init hi := by
    rw [paidSum, Distribution.paidDebt, (hi.valid.unsettled_sets hi.flag_eq).1]
    simp [Distribution.debtSum]
  step hv hstep _ := (hv.sums_step hu hstep).1
  migrate hstep := by
    cases hstep with
    | migrate _ => rfl

end

/-! ## Write-offs booked in time -/

/-- Every write-off of a leaf up to an epoch was booked up to that epoch. -/
def BookedUpTo (rt : Runtime) (e : DoubleZeroEpoch) {σ : Type} (h : List (Entry σ Label)) : Prop :=
  ∀ x ∈ h, ∀ d w, x.label.writeOffKeys = some (rt.distributionKey d, rt.distributionKey w) →
    d ≤ e → w ≤ e

section

variable {rt : Runtime} {b b' b₀ : Books} {acts : DistActs} {n : Nat} {l : Label}
  {h : List (Entry Books Label)} {e : DoubleZeroEpoch}

theorem SolEffect.writtenOff_le_booked (he : SolEffect rt b b' acts n) (htakes : l.Takes rt acts n)
    (hbooked : ∀ d w, l.writeOffKeys = some (rt.distributionKey d, rt.distributionKey w) →
      d ≤ e → w ≤ e) :
    acts.gain (fun e' a => if e' ≤ e then a.writtenOff else 0) ≤
      acts.gain (fun e' a => if e' ≤ e then a.booked else 0) := by
  cases he with
  | quiet dists quiet journal deposits =>
    refine (DistActs.gain_eq_zero fun x hx => ?_).trans_le (Nat.zero_le _)
    rw [(DistAction.amounts_of_isQuiet (quiet x hx)).2.1, ite_self]
  | @writeOff e₁ w leafIndex debt p dists journal later deposit deposits =>
    have hroute := hbooked e₁ w (htakes.keys_eq rfl)
    simp only [DistActs.gain_cons, DistActs.gain_nil, DistAction.writtenOff, DistAction.booked,
      ite_self, Nat.add_zero, Nat.zero_add]
    by_cases hle : e₁ ≤ e
    · rw [if_pos hle, if_pos (hroute hle)]
    · rw [if_neg hle]
      exact Nat.zero_le _
  | _ => simp [DistAction.writtenOff]

/-- Up to the epoch, what was written off is uncollectible somewhere. -/
theorem BooksRun.writtenOff_le_uncollectible (hu : LeafUnique rt.rootFromPodLeaf)
    (hrun : BooksRun rt b₀ h b) (hempty : b₀.Empty) (hsmall : writtenOffTotal h < 2 ^ 64)
    (hbooked : BookedUpTo rt e h) :
    b.distTotal (upTo e (writtenOffSum rt)) ≤
      b.distTotal (upTo e fun s => s.1.uncollectibleSolDebt.toNat) := by
  refine hrun.history (P := fun h b => writtenOffTotal h < 2 ^ 64 → BookedUpTo rt e h →
    b.distTotal (upTo e (writtenOffSum rt)) ≤
      b.distTotal (upTo e fun s => s.1.uncollectibleSolDebt.toNat)) ?_ ?_ hsmall hbooked
  · intro _ _
    have hdist : ∀ e, b₀.distAt e = none := fun e => by rw [Books.distAt, hempty]
    exact (total_none hdist).trans_le (Nat.zero_le _)
  · intro h b l b' hr ih hs hsmall hbooked
    obtain ⟨acts, n, he, htakes⟩ := hs.effect
    have hfin := (BooksRun.finite hr hempty).1
    have hv : ∀ {d rem}, b.HasDist d rem → Valid (d, rem) := fun hd => BooksRun.valid hr hempty hd
    have htotal : writtenOffTotal (⟨b, l, b'⟩ :: h) =
        writtenOffTotal h + acts.gain (fun _ a => a.writtenOff) := by
      rw [writtenOffTotal, List.map_cons, List.sum_cons, htakes.writtenOff_eq, Nat.add_comm]
      rfl
    rw [htotal] at hsmall
    have hold := ih (by omega) fun x hx => hbooked x (List.mem_cons_of_mem _ hx)
    have hgain := he.writtenOff_le_booked htakes (hbooked _ List.mem_cons_self)
    have hbalanced := BooksRun.writeOffsBalanced hu hr hempty (show writtenOffTotal h < _ by omega)
    have hpart : b.distTotal (upTo e fun s => s.1.uncollectibleSolDebt.toNat) ≤
        writtenOffTotal h := by
      rw [← hbalanced.uncollectible_eq]
      exact total_mono hfin fun _ s _ => upTo_le e s
    have hgains : acts.gain (fun e' a => if e' ≤ e then a.booked else 0) ≤
        acts.gain (fun _ a => a.writtenOff) := by
      rw [← he.booked_eq]
      exact DistActs.gain_mono fun x => by split <;> omega
    have hwrittenOff := he.dists.distTotal_eq ((measured_writtenOff hu _).upTo e) hfin hv
      (Nat.lt_succ_self _)
    have huncollectible := he.dists.distTotal_eq (measured_uncollectible.upTo e) hfin hv (by omega)
    omega

end

/-! ## Settled debt -/

/-- The leaves that make up the debt of a distribution are in its tree, and all are settled. -/
def DebtSettled (rt : Runtime) (d : Distribution) (rem : List (BitVec 8)) : Prop :=
  ∃ leaves : List SolanaValidatorDebt,
    (leaves.map fun debt => debt.amount.toNat).sum = d.totalSolanaValidatorDebt.toNat ∧
    ∀ i debt, leaves[i]? = some debt →
      Verifies rt d.solanaValidatorDebtMerkleRoot (UInt32.ofNat i) (.solanaValidatorDebt debt) ∧
        i ∈ d.processedDebt rem

def Distribution.netDebt (d : Distribution) : Nat :=
  d.totalSolanaValidatorDebt.toNat - d.uncollectibleSolDebt.toNat

section

variable {rt : Runtime} {b b₀ : Books} {d : Distribution} {rem : List (BitVec 8)}
  {h : List (Entry Books Label)}

theorem sum_map_eq_sum_range {α : Type} {l : List α} {f : α → Nat} {g : Nat → Nat}
    (hfg : ∀ i a, l[i]? = some a → g i = f a) :
    (l.map f).sum = ∑ i ∈ Finset.range l.length, g i := by
  rw [Finset.sum_range, ← Fin.sum_univ_fun_getElem]
  refine Finset.sum_congr rfl fun i _ => ?_
  exact (hfg i _ (List.getElem?_eq_getElem i.isLt)).symm

theorem Valid.paid_add_writtenOff (hv : Valid (d, rem)) :
    paidSum rt (d, rem) + writtenOffSum rt (d, rem) = d.debtSum rt (d.processedDebt rem) :=
  Finset.sum_sdiff hv.counted.writtenOff_subset

/-- A settled debt is covered by what was paid and written off. -/
theorem DebtSettled.debt_le (hs : DebtSettled rt d rem) (hu : LeafUnique rt.rootFromPodLeaf)
    (hv : Valid (d, rem)) :
    d.totalSolanaValidatorDebt.toNat ≤ paidSum rt (d, rem) + writtenOffSum rt (d, rem) := by
  obtain ⟨leaves, hsum, hleaves⟩ := hs
  have hsub : Finset.range leaves.length ⊆ d.processedDebt rem := by
    intro i hi
    exact (hleaves i _ (List.getElem?_eq_getElem (Finset.mem_range.1 hi))).2
  have hamount : ∀ i debt, leaves[i]? = some debt →
      debtAmount rt d.solanaValidatorDebtMerkleRoot i = debt.amount.toNat := by
    intro i debt hi
    obtain ⟨hleaf, hmem⟩ := hleaves i debt hi
    have hlt : i < 2 ^ 32 := (hv.layout.debt.mem_lt hmem).trans (by decide)
    have hnat : (UInt32.ofNat i).toNat = i := UInt32.toNat_ofNat_of_lt hlt
    exact hnat ▸ debtAmount_eq hu hleaf
  rw [hv.paid_add_writtenOff, ← hsum, sum_map_eq_sum_range hamount]
  exact Finset.sum_le_sum_of_subset hsub

theorem Valid.checkedTotalSolDebt_eq (hv : Valid (d, rem)) :
    ∃ net, d.checkedTotalSolDebt = some net ∧ net.toNat = d.netDebt := by
  have hle := UInt64.le_iff_toNat_le.1 hv.booked.debt_le
  cases hnet : d.checkedTotalSolDebt with
  | none => exact absurd hle (Nat.not_le.2 (checkedSub_eq_none.1 hnet))
  | some net => exact ⟨net, rfl, (checkedSub_eq_some.1 hnet).2⟩

/-- Payments up to an epoch, with what was written off, cover the debts up to it. -/
theorem BooksRun.covered_upTo (hu : LeafUnique rt.rootFromPodLeaf) (hrun : BooksRun rt b₀ h b)
    (hempty : b₀.Empty) {e : DoubleZeroEpoch}
    (hsettled : ∀ d rem, b.HasDist d rem → d.dzEpoch ≤ e → DebtSettled rt d rem) :
    b.distTotal (upTo e fun s => s.1.netDebt) +
        b.distTotal (upTo e fun s => s.1.uncollectibleSolDebt.toNat) ≤
      b.distTotal (upTo e (paidSum rt)) + b.distTotal (upTo e (writtenOffSum rt)) := by
  have hfin := (BooksRun.finite hrun hempty).1
  unfold Books.distTotal
  rw [← total_add hfin, ← total_add hfin]
  refine total_mono hfin fun e' s hs => ?_
  obtain ⟨-, has⟩ := (BooksRun.proper hrun hempty).distAt hs
  have hv := BooksRun.valid hrun hempty has
  unfold upTo
  split
  · next hle =>
    have hdebt : s.1.totalSolanaValidatorDebt.toNat ≤ paidSum rt s + writtenOffSum rt s :=
      (hsettled s.1 s.2 has hle).debt_le hu hv
    have huncollectible : s.1.uncollectibleSolDebt.toNat ≤ s.1.totalSolanaValidatorDebt.toNat :=
      UInt64.le_iff_toNat_le.1 hv.booked.debt_le
    show s.1.totalSolanaValidatorDebt.toNat - s.1.uncollectibleSolDebt.toNat +
      s.1.uncollectibleSolDebt.toNat ≤ _
    omega
  · exact le_rfl

/-- The epochs before the next one to sweep have swept their net debts. -/
theorem BooksRun.swept_add_next_le (hrun : BooksRun rt b₀ h b) (hempty : b₀.Empty)
    (has : b.HasDist d rem) (hnext : d.dzEpoch = b.journal.nextDzEpochToSweepTokens) :
    b.distTotal (fun s => s.1.sweptDebt) + d.netDebt ≤
      b.distTotal (upTo d.dzEpoch fun s => s.1.netDebt) := by
  have hfin := (BooksRun.finite hrun hempty).1
  have hthis : d.netDebt ≤
      b.distTotal (fun s => if s.1.dzEpoch = d.dzEpoch then s.1.netDebt else 0) := by
    have hle := has.le_distTotal
      (f := fun s => if s.1.dzEpoch = d.dzEpoch then s.1.netDebt else 0) hfin
    rwa [if_pos rfl] at hle
  refine (Nat.add_le_add_left hthis _).trans ?_
  unfold Books.distTotal
  rw [← total_add hfin]
  refine total_mono hfin fun e' s hs => ?_
  obtain ⟨rfl, has'⟩ := (BooksRun.proper hrun hempty).distAt hs
  have hswept : s.1.hasSwept2zTokens = true ↔ s.1.dzEpoch < d.dzEpoch := by
    rw [hnext, ← (BooksRun.epochs hrun hempty).swept_iff, Books.sweptAt, hs]
    rfl
  obtain ⟨net, hnet, hnat⟩ := (BooksRun.valid hrun hempty has').checkedTotalSolDebt_eq
  unfold upTo
  by_cases hlt : s.1.dzEpoch < d.dzEpoch
  · have hne : s.1.dzEpoch ≠ d.dzEpoch := fun heq => by simp [heq] at hlt
    rw [Distribution.sweptDebt_of_swept (hswept.2 hlt) hnet, if_neg hne,
      if_pos (UInt64.le_of_lt hlt), hnat]
    exact le_rfl
  · have hunswept : s.1.hasSwept2zTokens = false := by
      simpa using fun hs => hlt (hswept.1 hs)
    rw [Distribution.sweptDebt_of_unswept hunswept, Nat.zero_add]
    split
    · next heq => rw [if_pos (by rw [heq]; exact UInt64.le_refl _)]
    · exact Nat.zero_le _

/-- What was swapped and not yet swept covers the next distribution. -/
theorem BooksRun.netDebt_le_swapped (hu : LeafUnique rt.rootFromPodLeaf)
    (hrun : BooksRun rt b₀ h b) (hempty : b₀.Empty) (hpaid : paidTotal h < 2 ^ 64)
    (hwrittenOff : writtenOffTotal h < 2 ^ 64) (hbooked : BookedUpTo rt d.dzEpoch h)
    (hswapped : b.journal.totalSolBalance = 0)
    (hsettled : ∀ d' rem', b.HasDist d' rem' → d'.dzEpoch ≤ d.dzEpoch → DebtSettled rt d' rem')
    (has : b.HasDist d rem) (hnext : d.dzEpoch = b.journal.nextDzEpochToSweepTokens) :
    d.netDebt ≤ b.journal.swappedSolAmount.toNat := by
  have hcovered := BooksRun.covered_upTo hu hrun hempty hsettled
  have hshare := BooksRun.swept_add_next_le hrun hempty has hnext
  have hoff := BooksRun.writtenOff_le_uncollectible hu hrun hempty hwrittenOff hbooked
  have hpart : b.distTotal (upTo d.dzEpoch (paidSum rt)) ≤ b.distTotal (paidSum rt) :=
    total_mono (BooksRun.finite hrun hempty).1 fun _ s _ => upTo_le d.dzEpoch s
  have hpayments : b.distTotal (paidSum rt) = paidTotal h :=
    BooksRun.distTotal_eq (measured_paid hu) (fun htakes => htakes.paid_eq) hrun hempty
  have hjournal := (BooksRun.balanced hrun hempty hpaid).journal_eq
  rw [hswapped] at hjournal
  simp only [UInt64.toNat_zero] at hjournal
  omega

end

/-! ## On the ledger -/

theorem sweep_solvent {rt : Runtime} {L₀ L : RevenueLedger} {h : History} {k kj : Pubkey}
    {d : Distribution} {j : Journal} {rem jrem : List (BitVec 8)}
    (hg : Genesis rt L₀) (hrun : LedgerRun rt L₀ h L) (hu : LeafUnique rt.rootFromPodLeaf)
    (hpaid : paidTotal h < 2 ^ 64) (hwrittenOff : writtenOffTotal h < 2 ^ 64)
    (hj : view ID L kj = some (j, jrem)) (hd : view ID L k = some (d, rem))
    (hnext : d.dzEpoch = j.nextDzEpochToSweepTokens)
    (hsettled : ∀ (k' : Pubkey) (d' : Distribution) (rem' : List (BitVec 8)),
      view ID L k' = some (d', rem') → d'.dzEpoch ≤ d.dzEpoch → DebtSettled rt d' rem')
    (hbooked : BookedUpTo rt d.dzEpoch h) (hswapped : j.totalSolBalance = 0) :
    ∃ totalSolDebt, d.checkedTotalSolDebt = some totalSolDebt ∧
      totalSolDebt ≤ j.swappedSolAmount := by
  obtain ⟨hc, hbooks⟩ := hrun.books hg
  have hjournal : (books rt L).journal = j := Books.journal_eq (hc.of_view hj).2.1
  have has : (books rt L).HasDist d rem := (hc.of_view hd).2.1
  obtain ⟨net, hnet, hnat⟩ := (hbooks.valid hg.books_empty has).checkedTotalSolDebt_eq
  refine ⟨net, hnet, UInt64.le_iff_toNat_le.2 ?_⟩
  have hbooked' : BookedUpTo rt d.dzEpoch (h.map (Entry.map (books rt))) := by
    intro x hx d' w hkeys
    obtain ⟨y, hy, rfl⟩ := List.mem_map.1 hx
    exact hbooked y hy d' w hkeys
  have hle := BooksRun.netDebt_le_swapped hu hbooks hg.books_empty
    (by rw [paidTotal_map]; exact hpaid) (by rw [writtenOffTotal_map]; exact hwrittenOff) hbooked'
    (by rw [hjournal]; exact hswapped)
    (fun d' rem' has' hle => hsettled _ d' rem' (view_eq_stateAt.2 has') hle) has
    (by rw [hjournal]; exact hnext)
  rw [hjournal] at hle
  omega

/-- The epoch can be swept once all of its SOL is swapped. -/
theorem sweep_solvent_settled :
    ∃ (h : History) (L : RevenueLedger) (d : Distribution) (j : Journal)
      (rem jrem : List (BitVec 8)),
      LedgerRun (Sample.runtime Sample.debts Sample.shares) (Sample.genesis 1000 700) h L ∧
      view ID L Sample.distribution = some (d, rem) ∧ view ID L Sample.journal = some (j, jrem) ∧
      d.totalSolanaValidatorDebt = 150 ∧
      ∃ totalSolDebt, d.checkedTotalSolDebt = some totalSolDebt ∧
        totalSolDebt ≤ j.swappedSolAmount := by
  obtain ⟨h, L, hrun, hlabels, hP⟩ := Sample.exists_run_of_replay Sample.debts Sample.shares 1000 700
    Sample.settled (P := fun h L => paidTotal h < 2 ^ 64 ∧ writtenOffTotal h < 2 ^ 64 ∧
      (view (T := Distribution) ID L Sample.distribution).any (fun x => x.1.dzEpoch = 0 ∧
        x.1.totalSolanaValidatorDebt = 150 ∧ x.1.solanaValidatorDebtMerkleRoot = ⟨1⟩ ∧
        x.1.processedDebt x.2 = {0, 1}) ∧
      (view (T := Journal) ID L Sample.journal).any fun x =>
        x.1.nextDzEpochToSweepTokens = 0 ∧ x.1.totalSolBalance = 0)
    (by decide +kernel) (by decide +kernel)
  obtain ⟨hpaid, hoff, hdist, hjournal⟩ := of_decide_eq_true hP
  obtain ⟨⟨d, rem⟩, hd, hfacts⟩ := (Option.any_eq_true _ _).1 hdist
  obtain ⟨⟨j, jrem⟩, hj, hjfacts⟩ := (Option.any_eq_true _ _).1 hjournal
  obtain ⟨hepoch, htotal, hroot, hprocessed⟩ := of_decide_eq_true hfacts
  obtain ⟨hnext, hswapped⟩ := of_decide_eq_true hjfacts
  refine ⟨h, L, d, j, rem, jrem, hrun, hd, hj, htotal, ?_⟩
  have hkey : Sample.distribution =
      (Sample.runtime Sample.debts Sample.shares).distributionKey 0 := by decide +kernel
  refine sweep_solvent (Sample.genesis_unused 1000 700) hrun Sample.leafUnique hpaid hoff hj hd
    (hepoch.trans hnext.symm) ?_ ?_ hswapped
  · intro k' d' rem' hd' hle
    have hzero : d'.dzEpoch = 0 := by
      rw [hepoch] at hle
      exact UInt64.le_zero_iff.1 hle
    have hk' : k' = (Sample.runtime Sample.debts Sample.shares).distributionKey d'.dzEpoch :=
      ((LedgerRun.books (Sample.genesis_unused 1000 700) hrun).1.of_view hd').1
    rw [hzero, ← hkey] at hk'
    subst hk'
    cases hd.symm.trans hd'
    refine ⟨Sample.debts, by rw [htotal]; decide +kernel, fun i debt hi => ?_⟩
    rw [hroot, hprocessed]
    have hlt : i < 2 := (List.getElem?_eq_some_iff.1 hi).1
    interval_cases i <;> cases hi
    · exact ⟨⟨⟨some 0, []⟩, rfl, by decide +kernel⟩, by decide⟩
    · exact ⟨⟨⟨some 1, []⟩, rfl, by decide +kernel⟩, by decide⟩
  · intro x hx e w hkeys _
    obtain ⟨event, hevent, hreplayed⟩ := hlabels x hx
    have hlabel := hreplayed.label_eq
    have hall : Sample.settled.all (fun event => event.label.writeOffKeys = none ∨
        event.label.writeOffKeys = some (Sample.distribution, Sample.distribution)) = true := by
      decide +kernel
    rw [hlabel] at hkeys
    rcases of_decide_eq_true (List.all_eq_true.1 hall event hevent) with hnone | hsome
    · cases hnone.symm.trans hkeys
    · have hw := (Prod.mk.inj (Option.some.inj (hsome.symm.trans hkeys))).2
      rw [hkey, Runtime.distributionKey_inj] at hw
      rw [← hw, hepoch]
      exact UInt64.le_refl 0

end DoubleZero.Revenue
