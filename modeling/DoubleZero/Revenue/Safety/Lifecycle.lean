import DoubleZero.Revenue.Invariant.Epochs
import DoubleZero.Revenue.Replay

/-!
# The life of a distribution

Distributions are created and swept in the order of their epochs (`epochs_in_order`), and each goes
one way through its stages. What a stage was decided on does not change afterwards
(`lifecycle_one_way`).
-/

namespace DoubleZero.Revenue

open DoubleZero.Lib DoubleZero.Solana

/-! ## Epochs -/

theorem epochs_in_order {rt : Runtime} {L₀ L : RevenueLedger} {h : History}
    (hg : Genesis rt L₀) (hrun : LedgerRun rt L₀ h L) :
    (∀ (k : Pubkey) (c : ProgramConfig) (rem : List (BitVec 8)), view ID L k = some (c, rem) →
      ∀ e, (∃ (k' : Pubkey) (d : Distribution) (rem' : List (BitVec 8)),
        view ID L k' = some (d, rem') ∧ d.dzEpoch = e) ↔ e < c.nextCompletedDzEpoch) ∧
      (∀ (k : Pubkey) (j : Journal) (rem : List (BitVec 8)), view ID L k = some (j, rem) →
        ∀ (k' : Pubkey) (d : Distribution) (rem' : List (BitVec 8)),
          view ID L k' = some (d, rem') →
            (d.hasSwept2zTokens = true ↔ d.dzEpoch < j.nextDzEpochToSweepTokens)) ∧
      (∀ (k k' : Pubkey) (c : ProgramConfig) (j : Journal) (rem rem' : List (BitVec 8)),
        view ID L k = some (c, rem) → view ID L k' = some (j, rem') →
          j.nextDzEpochToSweepTokens ≤ c.nextCompletedDzEpoch) ∧
      ∀ (k k' : Pubkey) (d d' : Distribution) (rem rem' : List (BitVec 8)),
        view ID L k = some (d, rem) → view ID L k' = some (d', rem') →
          d.dzEpoch = d'.dzEpoch → k = k' := by
  obtain ⟨hc, hbooks⟩ := hrun.books hg
  have hep := hbooks.epochs hg.books_empty
  have hproper := hbooks.proper hg.books_empty
  have hconfig : ∀ {k : Pubkey} {c : ProgramConfig} {rem : List (BitVec 8)},
      view ID L k = some (c, rem) → (books rt L).config = c :=
    fun hview => Books.config_eq (hc.of_view hview).2.1
  have hjournal : ∀ {k : Pubkey} {j : Journal} {rem : List (BitVec 8)},
      view ID L k = some (j, rem) → (books rt L).journal = j :=
    fun hview => Books.journal_eq (hc.of_view hview).2.1
  refine ⟨fun k c rem hview e => ?_, fun k j rem hview k' d rem' hd => ?_,
    fun k k' c j rem rem' hviewc hviewj => ?_, fun k k' d d' rem rem' hd hd' he => ?_⟩
  · rw [← hconfig hview, ← hep.exists_iff]
    constructor
    · rintro ⟨k', d, rem', hd, rfl⟩
      rw [show (books rt L).entry (.distribution d.dzEpoch) = _ from (hc.of_view hd).2.1]
      simp
    · intro hsome
      obtain ⟨⟨s, rem'⟩, hs⟩ := Option.ne_none_iff_exists'.1 hsome
      obtain ⟨d, rfl, rfl, -⟩ := hproper.dist hs
      exact ⟨_, d, rem', view_eq_stateAt.2 hs, rfl⟩
  · have has : (books rt L).HasDist d rem' := (hc.of_view hd).2.1
    rw [← hjournal hview, ← hep.swept_iff, Books.sweptAt, has.distAt]
    rfl
  · rw [← hconfig hviewc, ← hjournal hviewj]
    exact hep.sweep_le
  · have hk : k = rt.distributionKey d.dzEpoch := (hc.of_view hd).1
    have hk' : k' = rt.distributionKey d'.dzEpoch := (hc.of_view hd').1
    rw [hk, hk', he]

/-- Two epochs were opened, and only the first is swept. -/
theorem epochs_in_order_epoch :
    ∃ (h : History) (L : RevenueLedger) (c : ProgramConfig) (d d' : Distribution)
      (crem rem rem' : List (BitVec 8)),
      LedgerRun (Sample.runtime Sample.debts Sample.shares) (Sample.genesis 1000 700) h L ∧
      view ID L Sample.config = some (c, crem) ∧
      (∀ e, (∃ (k' : Pubkey) (d : Distribution) (rem' : List (BitVec 8)),
        view ID L k' = some (d, rem') ∧ d.dzEpoch = e) ↔ e < 2) ∧
      view ID L Sample.distribution = some (d, rem) ∧ d.hasSwept2zTokens = true ∧
      view ID L (Sample.numberedDistribution 1) = some (d', rem') ∧ d'.hasSwept2zTokens = false := by
  obtain ⟨h, L, hrun, -, hP⟩ := Sample.exists_run_of_replay Sample.debts Sample.shares 1000 700
    (Sample.epoch ++ [Sample.openNumbered 1]) (P := fun _ L =>
      (view (T := ProgramConfig) ID L Sample.config).any (fun x => x.1.nextCompletedDzEpoch = 2) ∧
      (view (T := Journal) ID L Sample.journal).any (fun x => x.1.nextDzEpochToSweepTokens = 1) ∧
      (view (T := Distribution) ID L Sample.distribution).any (fun x => x.1.dzEpoch = 0) ∧
      (view (T := Distribution) ID L (Sample.numberedDistribution 1)).any fun x =>
        x.1.dzEpoch = 1)
    (by decide +kernel) (by decide +kernel)
  obtain ⟨hconfig, hjournal, hfirst, hsecond⟩ := of_decide_eq_true hP
  obtain ⟨⟨c, crem⟩, hc, hnext⟩ := (Option.any_eq_true _ _).1 hconfig
  obtain ⟨⟨j, jrem⟩, hj, hsweep⟩ := (Option.any_eq_true _ _).1 hjournal
  obtain ⟨⟨d, rem⟩, hd, hepoch⟩ := (Option.any_eq_true _ _).1 hfirst
  obtain ⟨⟨d', rem'⟩, hd', hepoch'⟩ := (Option.any_eq_true _ _).1 hsecond
  have hnext : c.nextCompletedDzEpoch = 2 := of_decide_eq_true hnext
  have hsweep : j.nextDzEpochToSweepTokens = 1 := of_decide_eq_true hsweep
  have hepoch : d.dzEpoch = 0 := of_decide_eq_true hepoch
  have hepoch' : d'.dzEpoch = 1 := of_decide_eq_true hepoch'
  obtain ⟨hexists, hswept, -, -⟩ := epochs_in_order (Sample.genesis_unused 1000 700) hrun
  have hiff := hexists _ c crem hc
  rw [hnext] at hiff
  have hswept₀ := hswept _ j jrem hj _ d rem hd
  have hswept₁ := hswept _ j jrem hj _ d' rem' hd'
  rw [hsweep, hepoch] at hswept₀
  rw [hsweep, hepoch'] at hswept₁
  refine ⟨h, L, c, d, d', crem, rem, rem', hrun, hc, hiff, hd, hswept₀.2 (by decide), hd', ?_⟩
  exact Bool.eq_false_iff.2 fun hs => absurd (hswept₁.1 hs) (by decide)

/-! ## Stages -/

/-- What stays of a distribution: the stages it has been through, what they were decided on, and
what it was created with. -/
structure Frozen (d d' : Distribution) : Prop where
  debtFinal : d.isDebtCalculationFinalized = true → d'.isDebtCalculationFinalized = true ∧
    d'.totalSolanaValidators = d.totalSolanaValidators ∧
    d'.totalSolanaValidatorDebt = d.totalSolanaValidatorDebt ∧
    d'.solanaValidatorDebtMerkleRoot = d.solanaValidatorDebtMerkleRoot
  rewardsFinal : d.isRewardsCalculationFinalized = true → d'.isRewardsCalculationFinalized = true ∧
    d'.totalContributors = d.totalContributors ∧ d'.rewardsMerkleRoot = d.rewardsMerkleRoot ∧
    d'.economicBurnRate = d.economicBurnRate
  writeOff : d.isSolanaValidatorDebtWriteOffEnabled = true →
    d'.isSolanaValidatorDebtWriteOffEnabled = true
  swept : d.hasSwept2zTokens = true → d'.hasSwept2zTokens = true
  created : d'.dzEpoch = d.dzEpoch ∧ d'.communityBurnRate = d.communityBurnRate ∧
    d'.solanaValidatorFeeParameters = d.solanaValidatorFeeParameters ∧
    d'.distributeRewardsRelayLamports = d.distributeRewardsRelayLamports ∧
    d'.calculationAllowedTimestamp = d.calculationAllowedTimestamp ∧
    d'.collectedPrepaid2zPayments = d.collectedPrepaid2zPayments

namespace Frozen

variable {rt : Runtime} {a : DistAction} {d d' d'' : Distribution} {s s' : DistState}

theorem refl (d : Distribution) : Frozen d d :=
  ⟨fun h => ⟨h, rfl, rfl, rfl⟩, fun h => ⟨h, rfl, rfl, rfl⟩, id, id, rfl, rfl, rfl, rfl, rfl, rfl⟩

theorem trans (h : Frozen d d') (h' : Frozen d' d'') : Frozen d d'' := by
  refine ⟨fun hd => ?_, fun hr => ?_, fun hw => h'.writeOff (h.writeOff hw),
    fun hs => h'.swept (h.swept hs), ?_⟩
  · obtain ⟨hd', h₁, h₂, h₃⟩ := h.debtFinal hd
    obtain ⟨hd'', h₁', h₂', h₃'⟩ := h'.debtFinal hd'
    exact ⟨hd'', h₁'.trans h₁, h₂'.trans h₂, h₃'.trans h₃⟩
  · obtain ⟨hr', h₁, h₂, h₃⟩ := h.rewardsFinal hr
    obtain ⟨hr'', h₁', h₂', h₃'⟩ := h'.rewardsFinal hr'
    exact ⟨hr'', h₁'.trans h₁, h₂'.trans h₂, h₃'.trans h₃⟩
  · obtain ⟨h₁, h₂, h₃, h₄, h₅, h₆⟩ := h.created
    obtain ⟨h₁', h₂', h₃', h₄', h₅', h₆'⟩ := h'.created
    exact ⟨h₁'.trans h₁, h₂'.trans h₂, h₃'.trans h₃, h₄'.trans h₄, h₅'.trans h₅, h₆'.trans h₆⟩

theorem setDebt (d : Distribution) : Frozen d (d.setIsDebtCalculationFinalized true) := by
  refine ⟨fun _ => ⟨by simp, rfl, rfl, rfl⟩, fun h => ⟨by simpa using h, rfl, rfl, rfl⟩,
    fun h => by simpa using h, fun h => by simpa using h, rfl, rfl, rfl, rfl, rfl, rfl⟩

theorem setRewards (d : Distribution) : Frozen d (d.setIsRewardsCalculationFinalized true) := by
  refine ⟨fun h => ⟨by simpa using h, rfl, rfl, rfl⟩, fun _ => ⟨by simp, rfl, rfl, rfl⟩,
    fun h => by simpa using h, fun h => by simpa using h, rfl, rfl, rfl, rfl, rfl, rfl⟩

theorem setWriteOff (d : Distribution) :
    Frozen d (d.setIsSolanaValidatorDebtWriteOffEnabled true) := by
  refine ⟨fun h => ⟨by simpa using h, rfl, rfl, rfl⟩, fun h => ⟨by simpa using h, rfl, rfl, rfl⟩,
    fun _ => by simp, fun h => by simpa using h, rfl, rfl, rfl, rfl, rfl, rfl⟩

theorem setSwept (d : Distribution) : Frozen d (d.setHasSwept2zTokens true) := by
  refine ⟨fun h => ⟨by simpa using h, rfl, rfl, rfl⟩, fun h => ⟨by simpa using h, rfl, rfl, rfl⟩,
    fun h => by simpa using h, fun _ => by simp, rfl, rfl, rfl, rfl, rfl, rfl⟩

theorem step (hstep : DistStep rt a s s') : Frozen s.1 s'.1 := by
  cases hstep with
  | configureDebt hopen =>
    refine ⟨fun h => absurd (hopen.symm.trans h) (by simp), fun h => ⟨h, rfl, rfl, rfl⟩, id, id,
      rfl, rfl, rfl, rfl, rfl, rfl⟩
  | configureRewards hopen =>
    refine ⟨fun h => ⟨h, rfl, rfl, rfl⟩, fun h => absurd (hopen.symm.trans h) (by simp), id, id,
      rfl, rfl, rfl, rfl, rfl, rfl⟩
  | setEconomicBurnRate hopen =>
    refine ⟨fun h => ⟨h, rfl, rfl, rfl⟩, fun h => absurd (hopen.symm.trans h) (by simp), id, id,
      rfl, rfl, rfl, rfl, rfl, rfl⟩
  | @finalizeZeroDebt d rem _ _ => exact setDebt d
  | @finalizeDebt d rem _ _ _ _ _ =>
    have hset := setDebt d
    exact ⟨hset.1, hset.2, hset.3, hset.4, hset.5⟩
  | @finalizeRewards d rem _ _ _ _ =>
    have hset := setRewards d
    exact ⟨hset.1, hset.2, hset.3, hset.4, hset.5⟩
  | @enableWriteOff d rem _ _ _ =>
    have hset := setWriteOff d
    exact ⟨hset.1, hset.2, hset.3, hset.4, hset.5⟩
  | @sweepNothing d rem _ _ _ => exact setSwept d
  | @sweep d rem _ _ _ _ _ _ =>
    have hset := setSwept d
    exact ⟨hset.1, hset.2, hset.3, hset.4, hset.5⟩
  | _ =>
    exact ⟨fun h => ⟨h, rfl, rfl, rfl⟩, fun h => ⟨h, rfl, rfl, rfl⟩, id, id, rfl, rfl, rfl, rfl,
      rfl, rfl⟩

theorem moves (hmoves : DistMoves rt s s') : Frozen s.1 s'.1 :=
  hmoves.preserves (P := fun t => Frozen s.1 t.1) (fun h hstep => h.trans (step hstep)) (refl s.1)

end Frozen

theorem lifecycle_one_way {rt : Runtime} {L₀ L L' : RevenueLedger} {h h' : History} {k : Pubkey}
    {d : Distribution} {rem : List (BitVec 8)} (hg : Genesis rt L₀) (hrun : LedgerRun rt L₀ h L)
    (hrun' : LedgerRun rt L h' L') (hd : view ID L k = some (d, rem)) :
    ((d.hasSwept2zTokens = true → d.isRewardsCalculationFinalized = true) ∧
      (d.isRewardsCalculationFinalized = true → d.isDebtCalculationFinalized = true) ∧
      (d.isSolanaValidatorDebtWriteOffEnabled = true → d.isDebtCalculationFinalized = true) ∧
      (0 < d.solanaValidatorPaymentsCount ∨ 0 < d.solanaValidatorWriteOffCount ∨
        0 < d.uncollectibleSolDebt → d.isDebtCalculationFinalized = true) ∧
      (0 < d.distributedRewardsCount → d.hasSwept2zTokens = true)) ∧
      ∃ (d' : Distribution) (rem' : List (BitVec 8)), view ID L' k = some (d', rem') ∧
        Frozen d d' := by
  obtain ⟨hv, d', rem', hview', hmoves⟩ := hrun.persists hg hrun' hd
  refine ⟨⟨hv.ordered.swept_rewards, hv.ordered.rewards_debt, hv.ordered.writeOff_debt, ?_, ?_⟩,
    d', rem', hview', Frozen.moves hmoves⟩
  · intro hpos
    by_contra hopen
    have hopen : d.isDebtCalculationFinalized = false := by simpa using hopen
    obtain ⟨hpaid, -, huncollectible⟩ := hv.booked.unsettled hopen
    have hoff := hv.booked.unwritten (hv.ordered.open_debt hopen).2.1
    simp only at hpaid huncollectible hoff
    rw [hpaid, hoff, huncollectible] at hpos
    simp at hpos
  · intro hpos
    by_contra hunswept
    have hzero : d.distributedRewardsCount = 0 :=
      (hv.booked.unswept (by simpa using hunswept)).2.1
    rw [hzero] at hpos
    simp at hpos

/-- From the finalized rewards to the last reward. -/
theorem lifecycle_one_way_epoch :
    ∃ (h h' : History) (L L' : RevenueLedger) (d d' : Distribution) (rem rem' : List (BitVec 8)),
      LedgerRun (Sample.runtime Sample.debts Sample.shares) (Sample.genesis 1000 700) h L ∧
      LedgerRun (Sample.runtime Sample.debts Sample.shares) L h' L' ∧ h'.length = 3 ∧
      view ID L Sample.distribution = some (d, rem) ∧
      view ID L' Sample.distribution = some (d', rem') ∧ Frozen d d' := by
  obtain ⟨h, L, h', L', hrun, hrun', -, hP⟩ := Sample.exists_runs_of_replay Sample.debts Sample.shares
    1000 700 Sample.settled
    [Sample.sweep 100 700, Sample.distribute 1 400000000, Sample.distribute 0 600000000]
    (P := fun _ L h' _ => h'.length = 3 ∧
      (view (T := Distribution) ID L Sample.distribution).isSome)
    (by decide +kernel) (by decide +kernel) (by decide +kernel)
  obtain ⟨hlength, hsome⟩ := of_decide_eq_true hP
  obtain ⟨⟨d, rem⟩, hd⟩ := Option.isSome_iff_exists.1 hsome
  obtain ⟨-, d', rem', hd', hfrozen⟩ :=
    lifecycle_one_way (Sample.genesis_unused 1000 700) hrun hrun' hd
  exact ⟨h, h', L, L', d, d', rem, rem', hrun, hrun', hlength, hd, hd', hfrozen⟩

end DoubleZero.Revenue
