import DoubleZero.Revenue.Invariant.Change
import DoubleZero.Revenue.Safety.Lifecycle
import DoubleZero.Revenue.Replay

/-!
# Finalized rewards and stranded 2Z

Rewards are finalized once and for all. When nobody can claim them (the root is null, or the tree
has no contributors) the 2Z collected by the distribution would be lost, so nothing may be owed
then, and nothing may come in later. `NothingOwed` is that condition, `NothingOwed.step` the steps
that keep it. Two do not: booking a write-off that wraps around, and a migration that reopens the
collection.
-/

namespace DoubleZero.Revenue

open DoubleZero.Lib DoubleZero.Solana

/-- Nothing is owed to the contributors of the distribution, and nothing is still to be
collected. -/
structure NothingOwed (d : Distribution) : Prop where
  debt : d.checkedTotalSolDebt = some 0
  collected : d.totalCollected2zTokens = some 0
  integrations : d.areAllIntegrationsCollected = true

section

variable {rt : Runtime} {a : DistAction} {s s' : DistState}

/-- Booking an amount that does not wrap leaves no net debt only if it is nothing. -/
theorem NothingOwed.book_eq {d : Distribution} {amount net : UInt64} (h : NothingOwed d)
    (hcovered : checkedSub d.totalSolanaValidatorDebt (d.uncollectibleSolDebt + amount) = some net)
    (hfits : d.uncollectibleSolDebt.toNat + amount.toNat < 2 ^ 64) :
    d.uncollectibleSolDebt + amount = d.uncollectibleSolDebt := by
  obtain ⟨hle, hzero⟩ := checkedSub_eq_some.1 h.debt
  obtain ⟨hle', -⟩ := checkedSub_eq_some.1 hcovered
  have hsum := toNat_add_of_lt hfits
  have hzero : (0 : UInt64).toNat = d.totalSolanaValidatorDebt.toNat - d.uncollectibleSolDebt.toNat :=
    hzero
  rw [UInt64.toNat_zero] at hzero
  apply UInt64.toNat_inj.1
  omega

theorem NothingOwed.step (hv : Valid s) (hfinal : s.1.isRewardsCalculationFinalized = true)
    (h : NothingOwed s.1) (hstep : DistStep rt a s s')
    (hfits : ∀ amount, a = .book amount →
      s.1.uncollectibleSolDebt.toNat + amount.toNat < 2 ^ 64)
    (hsnapshot : ∀ n, a = .migrate n → n ≤ s.1.integrationsCollectedCount) : NothingOwed s'.1 := by
  have hdebt := hv.ordered.rewards_debt hfinal
  cases hstep with
  | configureDebt hopen => simp [hopen] at hdebt
  | finalizeZeroDebt hopen _ => simp [hopen] at hdebt
  | finalizeDebt hopen _ _ _ => simp [hopen] at hdebt
  | configureRewards hopen => simp [hopen] at hfinal
  | setEconomicBurnRate hopen => simp [hopen] at hfinal
  | finalizeRewards hopen _ _ _ => simp [hopen] at hfinal
  | collect hopen _ _ _ _ _ => exact absurd (hopen.symm.trans h.integrations) (by simp)
  | book _ _ hcovered =>
    have hsame := h.book_eq hcovered (hfits _ rfl)
    exact ⟨(congrArg (checkedSub _) hsame).trans h.debt, h.collected, h.integrations⟩
  | sweep _ _ hnet hnonzero => exact absurd (Option.some.inj (hnet.symm.trans h.debt)) hnonzero
  | migrate _ => exact ⟨h.debt, h.collected, decide_eq_true (hsnapshot _ rfl)⟩
  -- The other steps change nothing that is owed.
  | _ => exact ⟨h.debt, h.collected, h.integrations⟩

/-- Only finalizing finalizes. -/
theorem DistStep.finalizes (hstep : DistStep rt a s s')
    (hopen : s.1.isRewardsCalculationFinalized = false)
    (hfinal : s'.1.isRewardsCalculationFinalized = true) : a = .finalizeRewards := by
  have hkept : a ≠ .finalizeRewards →
      s'.1.isRewardsCalculationFinalized = s.1.isRewardsCalculationFinalized := by
    intro ha
    cases hstep with
    | finalizeRewards => exact absurd rfl ha
    | finalizeZeroDebt => simp
    | finalizeDebt =>
      exact Distribution.isRewardsCalculationFinalized_setIsDebtCalculationFinalized _ true
    | enableWriteOff =>
      exact Distribution.isRewardsCalculationFinalized_setIsSolanaValidatorDebtWriteOffEnabled _ true
    | sweepNothing => simp
    | sweep => exact Distribution.isRewardsCalculationFinalized_setHasSwept2zTokens _ true
    | _ => rfl
  by_contra ha
  exact absurd (hopen.symm.trans ((hkept ha).symm.trans hfinal)) (by simp)

end

/-! ## Along a run -/

section

variable {rt : Runtime} {b b₀ : Books} {h : List (Entry Books Label)}

/-- The rewards are final and nobody can claim them. -/
def Distribution.IsBarred (d : Distribution) (Barred : Hash → UInt32 → Prop) : Prop :=
  d.isRewardsCalculationFinalized = true ∧ Barred d.rewardsMerkleRoot d.totalContributors

theorem BooksRun.nothingOwed (Barred : Hash → UInt32 → Prop) (hrun : BooksRun rt b₀ h b)
    (hempty : b₀.Empty)
    (hfinalize : ∀ x ∈ h, ∀ {call d rem}, x.label = .call call →
      call.data = .finalizeDistributionRewards →
      call.key? 1 = some (rt.distributionKey d.dzEpoch) → x.before.HasDist d rem →
      Barred d.rewardsMerkleRoot d.totalContributors →
      (d.rewardsMerkleRoot = default → NothingOwed d) → NothingOwed d)
    (hbook : ∀ x ∈ h, ∀ {call amount proof d rem}, x.label = .call call →
      call.data = .writeOffSolanaValidatorDebt amount proof →
      call.key? 4 = some (rt.distributionKey d.dzEpoch) → x.before.HasDist d rem →
      d.IsBarred Barred → d.uncollectibleSolDebt.toNat + amount.toNat < 2 ^ 64)
    (hmigrate : ∀ x ∈ h, ∀ {call j jrem d rem}, x.label = .call call →
      call.data = .migrateProgramAccounts → x.before.entry .journal = some (.journal j, jrem) →
      (rt.distributionKey d.dzEpoch ∈ (call.accounts.drop 3).map fun m => m.key) →
      x.before.HasDist d rem → d.IsBarred Barred → NothingOwed d →
      j.integrationsCount ≤ d.integrationsCollectedCount)
    {d : Distribution} {rem : List (BitVec 8)} (hd : b.HasDist d rem) :
    d.IsBarred Barred → NothingOwed d := by
  refine (hrun.dist_induction (P := fun s => Valid s ∧ (s.1.IsBarred Barred → NothingOwed s.1))
    hempty ?_ ?_ hd).2
  · intro _ _ _ c j _ prepaid d _ _ _ hi
    refine ⟨hi.valid, fun hbarred => absurd hbarred.1 ?_⟩
    simp [Distribution.isRewardsCalculationFinalized, hi.flag_eq]
  · intro x hx call d rem a s s' hlabel has hdoes hmid hstep ⟨hv, hP⟩
    refine ⟨hv.step hstep, fun ⟨hfinal', hbarred'⟩ => ?_⟩
    obtain ⟨n, hs⟩ := hmid.eq
    obtain ⟨s₁, srem⟩ := s
    simp only at hs
    by_cases hfinal : s₁.isRewardsCalculationFinalized = true
    · obtain ⟨-, hcontributors, hroot, -⟩ := (Frozen.step hstep).rewardsFinal hfinal
      rw [hcontributors, hroot] at hbarred'
      have hbarred : s₁.IsBarred Barred := ⟨hfinal, hbarred'⟩
      have hbarred₀ : d.IsBarred Barred := by
        rw [hs] at hbarred
        exact hbarred
      refine NothingOwed.step hv hfinal (hP hbarred) hstep ?_ ?_
      · rintro amount rfl
        cases hdoes with
        | book data keyBook =>
          have hfits := hbook x hx hlabel data keyBook has hbarred₀
          rw [hs]
          exact hfits
      · rintro m rfl
        cases hdoes with
        | migrate data journal listed =>
          have howed := hP hbarred
          rw [hs] at howed
          have hle := hmigrate x hx hlabel data journal listed has hbarred₀
            ⟨howed.debt, howed.collected, howed.integrations⟩
          rw [hs]
          exact hle
    · obtain rfl := hstep.finalizes (by simpa using hfinal) hfinal'
      cases hdoes with
      | finalizeRewards data keyDist =>
        cases hstep with
        | finalizeRewards _ _ howed _ =>
          rw [hs] at howed hbarred'
          have howed₀ := hfinalize x hx hlabel data keyDist has hbarred' fun hroot =>
            ⟨(howed hroot).1, (howed hroot).2.1, (howed hroot).2.2⟩
          rw [hs]
          exact ⟨howed₀.debt, howed₀.collected, howed₀.integrations⟩

end

/-! ## On the ledger -/

/-- A write-off booked on a distribution whose rewards nobody can claim does not wrap its
uncollectible debt. -/
def BooksWithinRange (Barred : Hash → UInt32 → Prop) (x : Entry RevenueLedger Label) : Prop :=
  ∀ (call : Call) (amount : UInt64) (proof : MerkleProof) (k : Pubkey) (d : Distribution)
    (rem : List (BitVec 8)), x.label = .call call →
    call.data = .writeOffSolanaValidatorDebt amount proof → call.key? 4 = some k →
    view ID x.before k = some (d, rem) → d.IsBarred Barred →
    d.uncollectibleSolDebt.toNat + amount.toNat < 2 ^ 64

/-- A migration does not reopen the collection of a distribution whose rewards nobody can claim. -/
def MigratesCollected (rt : Runtime) (Barred : Hash → UInt32 → Prop)
    (x : Entry RevenueLedger Label) : Prop :=
  ∀ (call : Call) (k : Pubkey) (j : Journal) (d : Distribution) (jrem rem : List (BitVec 8)),
    x.label = .call call → call.data = .migrateProgramAccounts →
    (k ∈ call.accounts.map fun m => m.key) → view ID x.before rt.journalKey = some (j, jrem) →
    view ID x.before k = some (d, rem) → d.IsBarred Barred →
    j.integrationsCount ≤ d.integrationsCollectedCount

/-- A distribution without contributors is finalized only if nothing is owed. -/
def FinalizesUnowed (x : Entry RevenueLedger Label) : Prop :=
  ∀ (call : Call) (k : Pubkey) (d : Distribution) (rem : List (BitVec 8)), x.label = .call call →
    call.data = .finalizeDistributionRewards → call.key? 1 = some k →
    view ID x.before k = some (d, rem) → d.totalContributors = 0 → NothingOwed d

/-- Rewards under the null root. -/
def NullRoot (root : Hash) (_ : UInt32) : Prop := root = default

/-- Rewards of a tree without leaves. -/
def NoContributors (_ : Hash) (totalContributors : UInt32) : Prop := totalContributors = 0

def Label.migrates : Label → Bool
  | .call c => c.data = .migrateProgramAccounts
  | .outside => false

section

variable {rt : Runtime} {L₀ L : RevenueLedger} {h : History} {k : Pubkey} {d : Distribution}
  {rem : List (BitVec 8)}

theorem LedgerRun.null_root_nothingOwed (hg : Genesis rt L₀) (hrun : LedgerRun rt L₀ h L)
    (hmigrates : ∀ x ∈ h, x.label.migrates = false)
    (hfits : ∀ x ∈ h, BooksWithinRange NullRoot x) (hd : view ID L k = some (d, rem))
    (hfinal : d.isRewardsCalculationFinalized = true) (hroot : d.rewardsMerkleRoot = default) :
    NothingOwed d := by
  obtain ⟨hc, hbooks⟩ := hrun.books hg
  have has : (Revenue.books rt L).HasDist d rem := (hc.of_view hd).2.1
  refine BooksRun.nothingOwed NullRoot hbooks hg.books_empty ?_ ?_ ?_ has ⟨hfinal, hroot⟩
  · intro x _ call d rem _ _ _ _ hnull howed
    exact howed hnull
  · intro x hx call amount proof d rem hlabel hdata hkey has hbarred
    obtain ⟨y, hy, rfl⟩ := List.mem_map.1 hx
    exact hfits y hy call amount proof _ d rem hlabel hdata hkey (view_eq_stateAt.2 has) hbarred
  · intro x hx call j jrem d rem hlabel hdata _ _ _ _ _
    obtain ⟨y, hy, rfl⟩ := List.mem_map.1 hx
    have hlabel : y.label = .call call := hlabel
    exact absurd (hmigrates y hy) (by simp [Label.migrates, hlabel, hdata])

end

theorem null_root_strands_nothing {rt : Runtime} {L₀ L : RevenueLedger} {h : History} {k : Pubkey}
    {d : Distribution} {rem : List (BitVec 8)} (hg : Genesis rt L₀) (hrun : LedgerRun rt L₀ h L)
    (hmigrates : ∀ x ∈ h, x.label.migrates = false)
    (hfits : ∀ x ∈ h, BooksWithinRange NullRoot x) (hd : view ID L k = some (d, rem))
    (hfinal : d.isRewardsCalculationFinalized = true) (hroot : d.rewardsMerkleRoot = default) :
    d.totalCollected2zTokens = some 0 ∧
      ∀ (h' : History) (L' : RevenueLedger), LedgerRun rt L h' L' →
        (∀ x ∈ h', x.label.migrates = false) → (∀ x ∈ h', BooksWithinRange NullRoot x) →
        ∃ (d' : Distribution) (rem' : List (BitVec 8)), view ID L' k = some (d', rem') ∧
          d'.totalCollected2zTokens = some 0 := by
  refine ⟨(LedgerRun.null_root_nothingOwed hg hrun hmigrates hfits hd hfinal hroot).collected, ?_⟩
  intro h' L' hrun' hmigrates' hfits'
  obtain ⟨-, d', rem', hd', hmoves⟩ := hrun.persists hg hrun' hd
  obtain ⟨hfinal', -, hroot', -⟩ := (Frozen.moves hmoves).rewardsFinal hfinal
  refine ⟨d', rem', hd', NothingOwed.collected ?_⟩
  refine LedgerRun.null_root_nothingOwed hg (hrun.append hrun') ?_ ?_ hd' hfinal'
    (hroot'.trans hroot)
  · intro x hx
    exact (List.mem_append.1 hx).elim (hmigrates' x) (hmigrates x)
  · intro x hx
    exact (List.mem_append.1 hx).elim (hfits' x) (hfits x)

/-- A debt that is written off before the rewards are final, without contributors. -/
theorem null_root_strands_nothing_written_off :
    ∃ (h : History) (L : RevenueLedger) (d : Distribution) (rem : List (BitVec 8)),
      LedgerRun (Sample.runtime [⟨Sample.nodeB, 1⟩] []) (Sample.genesis 0 5) h L ∧
      view ID L Sample.distribution = some (d, rem) ∧ d.isRewardsCalculationFinalized = true ∧
      d.uncollectibleSolDebt = 1 ∧ d.totalCollected2zTokens = some 0 := by
  obtain ⟨h, L, hrun, -, hP⟩ := Sample.exists_run_of_replay [⟨Sample.nodeB, 1⟩] [] 0 5
    (Sample.opening ++ [Sample.openEpoch, Sample.configureDebt 1 1, Sample.finalizeDebt,
      Sample.enableWriteOff, Sample.writeOffDebt 0 1 Sample.depositB, Sample.finalizeRewards])
    (P := fun h L => h.all (fun x => !x.label.migrates) ∧
      h.all (fun x => (namedDist 4 x).all fun s => !s.1.isRewardsCalculationFinalized) ∧
      (view (T := Distribution) ID L Sample.distribution).any fun x =>
        x.1.isRewardsCalculationFinalized = true ∧ x.1.rewardsMerkleRoot = default ∧
        x.1.uncollectibleSolDebt = 1)
    (by decide +kernel) (by decide +kernel)
  obtain ⟨hmigrates, hfits, hdist⟩ := of_decide_eq_true hP
  obtain ⟨⟨d, rem⟩, hd, hfacts⟩ := (Option.any_eq_true _ _).1 hdist
  obtain ⟨hfinal, hroot, hoff⟩ := of_decide_eq_true hfacts
  refine ⟨h, L, d, rem, hrun, hd, hfinal, hoff, ?_⟩
  refine (null_root_strands_nothing (Sample.genesis_unused 0 5) hrun ?_ ?_ hd hfinal hroot).1
  · intro x hx
    simpa using List.all_eq_true.1 hmigrates x hx
  · intro x hx call amount proof k d rem hlabel _ hkey hview hbarred
    have hopen := List.all_eq_true.1 hfits x hx
    rw [namedDist_eq hlabel hkey hview] at hopen
    exact absurd hbarred.1 (by simpa using hopen)

/-- The null root is accepted because the debt is written off; a second write-off wraps the
uncollectible debt to zero, and what is owed again is paid, swapped and swept. -/
theorem null_root_strands_swept :
    ∃ (h : History) (L : RevenueLedger) (d : Distribution) (rem : List (BitVec 8)),
      LedgerRun (Sample.runtime Sample.wrappingDebts []) (Sample.genesis 0 5) h L ∧
      (∀ x ∈ h, x.label.migrates = false) ∧ view ID L Sample.distribution = some (d, rem) ∧
      d.isRewardsCalculationFinalized = true ∧ d.rewardsMerkleRoot = default ∧
      d.totalCollected2zTokens = some 5 := by
  obtain ⟨h, L, hrun, -, hP⟩ := Sample.exists_run_of_replay Sample.wrappingDebts [] 0 5
    (Sample.opening ++ [Sample.openEpoch, Sample.configureDebt 3 1, Sample.finalizeDebt,
      Sample.enableWriteOff, Sample.writeOffDebt 0 1 Sample.depositB, Sample.finalizeRewards,
      Sample.writeOffDebt 1 18446744073709551615 Sample.depositB,
      Sample.payDebt 2 1 Sample.depositA] ++ Sample.swap 5 1 ++ [Sample.sweep 1 5])
    (P := fun h L => h.all (fun x => !x.label.migrates) ∧
      (view (T := Distribution) ID L Sample.distribution).any fun x =>
        x.1.isRewardsCalculationFinalized = true ∧ x.1.rewardsMerkleRoot = default ∧
        x.1.totalCollected2zTokens = some 5)
    (by decide +kernel) (by decide +kernel)
  obtain ⟨hmigrates, hdist⟩ := of_decide_eq_true hP
  obtain ⟨⟨d, rem⟩, hd, hfacts⟩ := (Option.any_eq_true _ _).1 hdist
  refine ⟨h, L, d, rem, hrun, fun x hx => ?_, hd, of_decide_eq_true hfacts⟩
  simpa using List.all_eq_true.1 hmigrates x hx

theorem finalized_rewards_claimable {rt : Runtime} {L₀ L : RevenueLedger} {h : History}
    {k : Pubkey} {d : Distribution} {rem : List (BitVec 8)} (hg : Genesis rt L₀)
    (hrun : LedgerRun rt L₀ h L) (hfinalizes : ∀ x ∈ h, FinalizesUnowed x)
    (hfits : ∀ x ∈ h, BooksWithinRange NoContributors x)
    (hmigrates : ∀ x ∈ h, MigratesCollected rt NoContributors x)
    (hd : view ID L k = some (d, rem)) (hfinal : d.isRewardsCalculationFinalized = true)
    (hcollected : d.totalCollected2zTokens ≠ some 0) :
    0 < d.totalContributors ∧
      (d.distributedRewardsCount = 0 → d.areAllRewardsDistributed = false) := by
  obtain ⟨hc, hbooks⟩ := hrun.books hg
  have has : (books rt L).HasDist d rem := (hc.of_view hd).2.1
  have hnone : d.totalContributors ≠ 0 := by
    intro hzero
    refine hcollected (NothingOwed.collected ?_)
    refine BooksRun.nothingOwed NoContributors hbooks hg.books_empty ?_ ?_ ?_ has
      ⟨hfinal, hzero⟩
    · intro x hx call d rem hlabel hdata hkey has hbarred _
      obtain ⟨y, hy, rfl⟩ := List.mem_map.1 hx
      exact hfinalizes y hy call _ d rem hlabel hdata hkey (view_eq_stateAt.2 has) hbarred
    · intro x hx call amount proof d rem hlabel hdata hkey has hbarred
      obtain ⟨y, hy, rfl⟩ := List.mem_map.1 hx
      exact hfits y hy call amount proof _ d rem hlabel hdata hkey (view_eq_stateAt.2 has) hbarred
    · intro x hx call j jrem d rem hlabel hdata hjournal hlisted has hbarred _
      obtain ⟨y, hy, rfl⟩ := List.mem_map.1 hx
      have hlisted := List.map_subset _ (List.drop_subset _ _) hlisted
      exact hmigrates y hy call _ j d jrem rem hlabel hdata hlisted (view_eq_stateAt.2 hjournal)
        (view_eq_stateAt.2 has) hbarred
  refine ⟨UInt32.pos_iff_ne_zero.2 hnone, fun hcount => ?_⟩
  have hpos : d.totalContributors.toNat ≠ 0 := fun hzero => hnone (UInt32.toNat_inj.1 hzero)
  simp [Distribution.areAllRewardsDistributed, hcount, hpos]

/-- The epoch has contributors, and write-offs are booked before its rewards are final. -/
theorem finalized_rewards_claimable_epoch :
    ∃ (h : History) (L : RevenueLedger) (d : Distribution) (rem : List (BitVec 8)),
      LedgerRun (Sample.runtime Sample.debts Sample.shares) (Sample.genesis 1000 700) h L ∧
      view ID L Sample.distribution = some (d, rem) ∧ d.totalCollected2zTokens = some 2200 ∧
      0 < d.totalContributors := by
  obtain ⟨h, L, hrun, hlabels, hP⟩ := Sample.exists_epoch (P := fun h L =>
    h.all (passes .finalizeDistributionRewards 1 fun d => d.totalContributors ≠ 0) ∧
    h.all (fun x => (namedDist 4 x).all fun s => !s.1.isRewardsCalculationFinalized) ∧
    h.all (fun x => !x.label.migrates) ∧
    (view (T := Distribution) ID L Sample.distribution).any fun x =>
      x.1.isRewardsCalculationFinalized = true ∧ x.1.totalCollected2zTokens = some 2200)
    (by decide +kernel)
  obtain ⟨hfinalizes, hfits, hmigrates, hdist⟩ := of_decide_eq_true hP
  obtain ⟨⟨d, rem⟩, hd, hfacts⟩ := (Option.any_eq_true _ _).1 hdist
  obtain ⟨hfinal, hcollected⟩ := of_decide_eq_true hfacts
  refine ⟨h, L, d, rem, hrun, hd, hcollected, ?_⟩
  refine (finalized_rewards_claimable (Sample.genesis_unused 1000 700) hrun ?_ ?_ ?_ hd hfinal
    (by simp only [hcollected]; decide)).1
  · intro x hx call k d rem hlabel hdata hkey hview hzero
    have hpasses := List.all_eq_true.1 hfinalizes x hx
    rw [← hdata] at hpasses
    exact absurd hzero (of_decide_eq_true (passes_elim hpasses hlabel hkey hview))
  · intro x hx call amount proof k d rem hlabel _ hkey hview hbarred
    have hopen := List.all_eq_true.1 hfits x hx
    rw [namedDist_eq hlabel hkey hview] at hopen
    exact absurd hbarred.1 (by simpa using hopen)
  · intro x hx call k j d jrem rem hlabel hdata _ _ _ _
    have := List.all_eq_true.1 hmigrates x hx
    simp [Label.migrates, hlabel, hdata] at this

/-- Rewards under a root of no leaves, with 2Z prepaid. -/
theorem finalized_rewards_without_contributors :
    ∃ (h : History) (L : RevenueLedger) (d : Distribution) (rem : List (BitVec 8)),
      LedgerRun (Sample.runtime [] []) (Sample.genesis 1000 0) h L ∧
      view ID L Sample.distribution = some (d, rem) ∧ d.isRewardsCalculationFinalized = true ∧
      d.totalCollected2zTokens = some 1000 ∧ d.totalContributors = 0 ∧
      d.areAllRewardsDistributed = true := by
  obtain ⟨h, L, hrun, -, hP⟩ := Sample.exists_run_of_replay [] [] 1000 0
    (Sample.opening ++ [Sample.openEpoch, Sample.finalizeDebt, Sample.configureRewards 0 ⟨2⟩,
      Sample.finalizeRewards])
    (P := fun _ L => (view (T := Distribution) ID L Sample.distribution).any fun x =>
        x.1.isRewardsCalculationFinalized = true ∧ x.1.totalCollected2zTokens = some 1000 ∧
        x.1.totalContributors = 0 ∧ x.1.areAllRewardsDistributed = true)
    (by decide +kernel) (by decide +kernel)
  obtain ⟨⟨d, rem⟩, hd, hfacts⟩ := (Option.any_eq_true _ _).1 hP
  exact ⟨h, L, d, rem, hrun, hd, of_decide_eq_true hfacts⟩

end DoubleZero.Revenue
