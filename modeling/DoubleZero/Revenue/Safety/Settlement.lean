import DoubleZero.Revenue.Invariant.Leaves
import DoubleZero.Revenue.Replay

/-!
# Every debt leaf is settled once

A payment and a write-off both mark their leaf in the bitmap of processed debt, and neither succeeds
on a leaf that is marked. `debt_leaves_settled_once` puts together what follows in any ledger a run
reaches: the counters count the bits, the payments add up to the leaves that were paid, and no leaf
is settled by two calls of the run.
-/

namespace DoubleZero.Revenue

open DoubleZero.Lib DoubleZero.Solana

/-! ## Processed leaves along a run -/

/-- The debt leaves processed by the distribution of an epoch. -/
def Books.processedAt (b : Books) (e : DoubleZeroEpoch) : Finset Nat :=
  (b.distAt e).elim ∅ fun s => s.1.processedDebt s.2

/-- How often the calls of a history settled a leaf of a distribution account. -/
def settlements {σ : Type} (h : List (Entry σ Label)) (k : Pubkey) (i : UInt32) : Nat :=
  h.countP fun e => e.label.settled = some (k, i)

section

variable {rt : Runtime} {b b' b₀ : Books} {acts : DistActs}
  {h : List (Entry Books Label)} {d : Distribution} {rem : List (BitVec 8)}

theorem Books.HasDist.processedAt (hd : b.HasDist d rem) :
    b.processedAt d.dzEpoch = d.processedDebt rem := by
  unfold Books.processedAt
  rw [hd.distAt]
  rfl

theorem Books.DistUpdated.processedAt (hup : b.DistUpdated b' d rem) (e : DoubleZeroEpoch) :
    b'.processedAt e = if e = d.dzEpoch then d.processedDebt rem else b.processedAt e := by
  unfold Books.processedAt
  rw [hup.distAt]
  split
  · rfl
  · rfl

/-- A step of a distribution adds to its processed leaves the one it settles. -/
theorem Books.DistUpdated.processedAt_step {a : DistAction} {d' : Distribution}
    {rem' : List (BitVec 8)} (hv : Valid (d, rem)) (has : b.HasDist d rem)
    (hstep : DistStep rt a (d, rem) (d', rem')) (hup : b.DistUpdated b' d' rem') :
    (a.settles = none ∧ ∀ e, b'.processedAt e = b.processedAt e) ∨
      ∃ i, a.settles = some i ∧ i.toNat ∉ b.processedAt d.dzEpoch ∧ ∀ e, b'.processedAt e =
        if e = d.dzEpoch then insert i.toNat (b.processedAt e) else b.processedAt e := by
  have hepoch : d'.dzEpoch = d.dzEpoch := hstep.fixed.1
  cases ha : a.settles with
  | none =>
    refine .inl ⟨rfl, fun e => ?_⟩
    rw [hup.processedAt, hepoch]
    split
    · next he => rw [he, has.processedAt]; exact (hv.sets_eq hstep ha).1
    · rfl
  | some i =>
    obtain ⟨hins, hnot⟩ := hv.settles_eq hstep ha
    refine .inr ⟨i, rfl, by rw [has.processedAt]; exact hnot, fun e => ?_⟩
    rw [hup.processedAt, hepoch]
    split
    · next he => rw [he, has.processedAt]; exact hins
    · rfl

/-- The processed leaves of all distributions grow by the leaf that is settled. -/
theorem DistEffect.processedAt (he : DistEffect rt b b' acts)
    (hv : ∀ {d rem}, b.HasDist d rem → Valid (d, rem)) :
    ((∀ x ∈ acts, x.2.settles = none) ∧ ∀ e, b'.processedAt e = b.processedAt e) ∨
      ∃ e₀ a i rest, acts = (e₀, a) :: rest ∧ a.settles = some i ∧ i.toNat ∉ b.processedAt e₀ ∧
        ∀ e, b'.processedAt e =
          if e = e₀ then insert i.toNat (b.processedAt e) else b.processedAt e := by
  cases he with
  | untouched same =>
    refine .inl ⟨by simp, fun e => ?_⟩
    rw [Books.processedAt, Books.distAt_congr (same e)]
    rfl
  | create journal new initialized updated =>
    refine .inl ⟨by simp, fun e => ?_⟩
    rw [updated.processedAt]
    split
    · next he =>
      have hnone : b.processedAt e = ∅ := by
        rw [Books.processedAt, Books.distAt, he, new]
        rfl
      rw [hnone]
      exact (initialized.valid.unsettled_sets initialized.flag_eq).1
    · rfl
  | step has step updated =>
    rcases updated.processedAt_step (hv has) has step with ⟨ha, hsame⟩ | ⟨i, ha, hnot, hins⟩
    · exact .inl ⟨by simpa using ha, hsame⟩
    · exact .inr ⟨_, _, i, [], rfl, ha, hnot, hins⟩
  | @writeOff d d' w w' rem rem' wrem wrem' i debt b₁ has step updated hasBook bookStep updated' =>
    -- The booking settles nothing, also when it is on the same distribution.
    have hvBook : Valid (w, wrem) := by
      rcases updated.of_has hasBook with ⟨rfl, rfl⟩ | ⟨-, hold⟩
      · exact (hv has).step step
      · exact hv hold
    have hbook : ∀ e, b'.processedAt e = b₁.processedAt e := by
      rcases updated'.processedAt_step hvBook hasBook bookStep with ⟨-, hsame⟩ | ⟨i, ha, -⟩
      · exact hsame
      · simp [DistAction.settles] at ha
    rcases updated.processedAt_step (hv has) has step with ⟨ha, -⟩ | ⟨i, ha, hnot, hins⟩
    · simp [DistAction.settles] at ha
    · exact .inr ⟨_, _, i, _, rfl, ha, hnot, fun e => (hbook e).trans (hins e)⟩
  | migrate journal migrated =>
    refine .inl ⟨by simp, fun e => ?_⟩
    rcases migrated.entry (.distribution e) with hsame | ⟨d₀, rem₀, d₁, rem₁, hi, hold, step, hnew, -⟩
    · rw [Books.processedAt, Books.distAt_congr hsame]
      rfl
    · rw [Books.processedAt, Books.processedAt, Books.distAt, Books.distAt, hnew, hold]
      rw [hi] at hold
      exact ((hv hold).sets_eq step rfl).1

/-- A leaf that was settled is marked, and was settled once. -/
theorem BooksRun.settlements_eq (hrun : BooksRun rt b₀ h b) (hempty : b₀.Empty) :
    (∀ e i, settlements h (rt.distributionKey e) i = if i.toNat ∈ b.processedAt e then 1 else 0) ∧
      ∀ k i, (∀ e, k ≠ rt.distributionKey e) → settlements h k i = 0 := by
  refine hrun.history (P := fun h b => (∀ e i, settlements h (rt.distributionKey e) i =
    if i.toNat ∈ b.processedAt e then 1 else 0) ∧
      ∀ k i, (∀ e, k ≠ rt.distributionKey e) → settlements h k i = 0) ?_ ?_
  · refine ⟨fun e i => ?_, fun _ _ _ => rfl⟩
    have hnone : b₀.processedAt e = ∅ := by
      rw [Books.processedAt, Books.distAt, hempty]
      rfl
    simp [hnone, settlements]
  · intro h b l b' hr ⟨hkeys, hothers⟩ hs
    have hcount : ∀ k i, settlements (⟨b, l, b'⟩ :: h) k i =
        settlements h k i + if l.settled = some (k, i) then 1 else 0 := by
      intro k i
      simp [settlements, List.countP_cons]
    obtain ⟨acts, n, he, htakes⟩ := hs.effect
    have hsettled := htakes.settled_eq
    rcases he.dists.processedAt (fun hd => BooksRun.valid hr hempty hd) with
      ⟨hcalm, hsame⟩ | ⟨e₀, a, i₀, rest, rfl, ha, hnot, hins⟩
    · have hnone : l.settled = none := by
        rw [hsettled, List.findSome?_eq_none_iff]
        intro x hx
        rw [hcalm x hx]
        rfl
      refine ⟨fun e i => ?_, fun k i hk => ?_⟩
      · rw [hcount, hkeys, hsame, hnone]
        simp
      · rw [hcount, hothers k i hk, hnone]
        simp
    · have hsome : l.settled = some (rt.distributionKey e₀, i₀) := by
        rw [hsettled, List.findSome?_cons, ha]
        rfl
      refine ⟨fun e i => ?_, fun k i hk => ?_⟩
      · rw [hcount, hkeys, hins, hsome]
        by_cases he : e = e₀
        · subst he
          by_cases hi : i = i₀
          · subst hi
            simp [hnot]
          · have hne : i.toNat ≠ i₀.toNat := fun hn => hi (UInt32.toNat_inj.1 hn)
            simp [hne, Ne.symm hi]
        · simp [he, Runtime.distributionKey_inj, Ne.symm he]
      · rw [hcount, hothers k i hk, hsome]
        simp [Ne.symm (hk e₀)]

theorem BooksRun.settlements_le_one (hrun : BooksRun rt b₀ h b) (hempty : b₀.Empty) (k : Pubkey)
    (i : UInt32) : settlements h k i ≤ 1 := by
  obtain ⟨hkeys, hothers⟩ := hrun.settlements_eq hempty
  by_cases hk : ∃ e, k = rt.distributionKey e
  · obtain ⟨e, rfl⟩ := hk
    rw [hkeys]
    split
    · exact le_rfl
    · exact Nat.zero_le 1
  · rw [hothers k i fun e he => hk ⟨e, he⟩]
    exact Nat.zero_le 1

end

/-! ## On the ledger -/

theorem settlements_map {σ τ : Type} (f : σ → τ) (h : List (Entry σ Label)) (k : Pubkey)
    (i : UInt32) : settlements (h.map (Entry.map f)) k i = settlements h k i := by
  rw [settlements, List.countP_map]
  rfl

theorem debt_leaves_settled_once {rt : Runtime} {L₀ L : RevenueLedger} {h : History}
    (hg : Genesis rt L₀) (hrun : LedgerRun rt L₀ h L) (hu : LeafUnique rt.rootFromPodLeaf) :
    (∀ (k : Pubkey) (d : Distribution) (rem : List (BitVec 8)), view ID L k = some (d, rem) →
      (d.processedDebt rem).card =
          d.solanaValidatorPaymentsCount.toNat + d.solanaValidatorWriteOffCount.toNat ∧
        (d.writtenOffDebt rem).card = d.solanaValidatorWriteOffCount.toNat ∧
        d.writtenOffDebt rem ⊆ d.processedDebt rem ∧
        (∀ i ∈ d.processedDebt rem, ∃ debt : SolanaValidatorDebt,
          Verifies rt d.solanaValidatorDebtMerkleRoot (UInt32.ofNat i) (.solanaValidatorDebt debt) ∧
          debtAmount rt d.solanaValidatorDebtMerkleRoot i = debt.amount.toNat) ∧
        d.collectedSolanaValidatorPayments.toNat =
          (∑ i ∈ d.processedDebt rem \ d.writtenOffDebt rem,
            debtAmount rt d.solanaValidatorDebtMerkleRoot i) % 2 ^ 64) ∧
      ∀ k i, settlements h k i ≤ 1 := by
  obtain ⟨hc, hbooks⟩ := hrun.books hg
  refine ⟨fun k d rem hview => ?_, fun k i => ?_⟩
  · have hd : (books rt L).HasDist d rem := (hc.of_view hview).2.1
    have hv := hbooks.valid hg.books_empty hd
    have hs := hbooks.summed hu hg.books_empty hd
    refine ⟨hv.counted.processed_card, hv.counted.writtenOff_card, hv.counted.writtenOff_subset,
      fun i hi => hs.leaf hu hv hi, hs.collected_eq⟩
  · rw [← settlements_map (books rt) h]
    exact hbooks.settlements_le_one hg.books_empty k i

/-- One leaf is paid and the other written off. -/
theorem debt_leaves_settled_once_epoch :
    ∃ (h : History) (L : RevenueLedger) (d : Distribution) (rem : List (BitVec 8)),
      LedgerRun (Sample.runtime Sample.debts Sample.shares) (Sample.genesis 1000 700) h L ∧
      view ID L Sample.distribution = some (d, rem) ∧ (d.processedDebt rem).card = 2 ∧
      (d.writtenOffDebt rem).card = 1 ∧ settlements h Sample.distribution 0 ≤ 1 := by
  obtain ⟨h, L, hrun, -, hP⟩ := Sample.exists_epoch (P := fun _ L =>
    (view (T := Distribution) ID L Sample.distribution).any fun x =>
      x.1.solanaValidatorPaymentsCount = 1 ∧ x.1.solanaValidatorWriteOffCount = 1)
    (by decide +kernel)
  obtain ⟨⟨d, rem⟩, hd, hcounts⟩ := (Option.any_eq_true _ _).1 hP
  obtain ⟨hpaid, hwrittenOff⟩ := of_decide_eq_true hcounts
  obtain ⟨hdist, hsettled⟩ := debt_leaves_settled_once (Sample.genesis_unused 1000 700) hrun
    Sample.leafUnique
  obtain ⟨hprocessed, hoff, -⟩ := hdist _ d rem hd
  rw [hpaid, hwrittenOff] at hprocessed
  rw [hwrittenOff] at hoff
  exact ⟨h, L, d, rem, hrun, hd, hprocessed, hoff, hsettled _ _⟩

end DoubleZero.Revenue
