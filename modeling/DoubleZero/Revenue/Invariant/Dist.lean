import DoubleZero.Revenue.Invariant.Layout

/-!
# What every distribution satisfies

`Valid` collects the facts about one distribution that hold from its creation on: its flags come in
order (`Ordered`), nothing is booked before its flag allows it and the uncollectible debt stays
within the debt (`Booked`), and the counters agree with the bitmaps (`Counted`). Every step of
`DistStep` keeps each of them.
-/

namespace DoubleZero.Revenue

open DoubleZero.Lib DoubleZero.Solana

/-- The debt leaf a step settles. -/
def DistAction.settles : DistAction → Option UInt32
  | .pay leafIndex _ => some leafIndex
  | .writeOff leafIndex _ => some leafIndex
  | _ => none

/-! ## The order of the flags -/

structure Ordered (d : Distribution) : Prop where
  rewards_debt : d.isRewardsCalculationFinalized = true → d.isDebtCalculationFinalized = true
  writeOff_debt : d.isSolanaValidatorDebtWriteOffEnabled = true → d.isDebtCalculationFinalized = true
  swept_rewards : d.hasSwept2zTokens = true → d.isRewardsCalculationFinalized = true

namespace Ordered

variable {rt : Runtime} {a : DistAction} {s s' : DistState} {d : Distribution}

/-- An unfinalized distribution has not been swept, nor opened for write-offs. -/
theorem open_debt (h : Ordered d) (hopen : d.isDebtCalculationFinalized = false) :
    d.isRewardsCalculationFinalized = false ∧ d.isSolanaValidatorDebtWriteOffEnabled = false ∧
      d.hasSwept2zTokens = false := by
  have hr : d.isRewardsCalculationFinalized = false := by
    by_contra hne
    simp [h.rewards_debt (by simpa using hne)] at hopen
  refine ⟨hr, ?_, ?_⟩
  · by_contra hne
    simp [h.writeOff_debt (by simpa using hne)] at hopen
  · by_contra hne
    simp [h.swept_rewards (by simpa using hne)] at hr

theorem open_rewards (h : Ordered d) (hopen : d.isRewardsCalculationFinalized = false) :
    d.hasSwept2zTokens = false := by
  by_contra hne
  simp [h.swept_rewards (by simpa using hne)] at hopen

theorem setDebt (h : Ordered d) : Ordered (d.setIsDebtCalculationFinalized true) := by
  constructor
  · simp
  · simp
  · simpa using h.swept_rewards

theorem setRewards (h : Ordered d) (hdebt : d.isDebtCalculationFinalized = true) :
    Ordered (d.setIsRewardsCalculationFinalized true) := by
  constructor
  · simpa using hdebt
  · simpa using h.writeOff_debt
  · simp

theorem setWriteOff (h : Ordered d) (hdebt : d.isDebtCalculationFinalized = true) :
    Ordered (d.setIsSolanaValidatorDebtWriteOffEnabled true) := by
  constructor
  · simpa using h.rewards_debt
  · simpa using hdebt
  · simpa using h.swept_rewards

theorem setSwept (h : Ordered d) (hrewards : d.isRewardsCalculationFinalized = true) :
    Ordered (d.setHasSwept2zTokens true) := by
  constructor
  · simpa using h.rewards_debt
  · simpa using h.writeOff_debt
  · simpa using hrewards

theorem step (h : Ordered s.1) (hstep : DistStep rt a s s') : Ordered s'.1 := by
  cases hstep with
  | finalizeZeroDebt _ _ => exact h.setDebt
  | finalizeDebt _ _ _ _ => exact ⟨h.setDebt.1, h.setDebt.2, h.setDebt.3⟩
  | finalizeRewards _ hdebt _ _ =>
    have hset := h.setRewards hdebt
    exact ⟨hset.1, hset.2, hset.3⟩
  | enableWriteOff _ hdebt _ =>
    have hset := h.setWriteOff hdebt
    exact ⟨hset.1, hset.2, hset.3⟩
  | sweepNothing _ hrewards _ => exact h.setSwept hrewards
  | sweep _ hrewards _ _ =>
    have hset := h.setSwept hrewards
    exact ⟨hset.1, hset.2, hset.3⟩
  | _ => exact ⟨h.1, h.2, h.3⟩

end Ordered

/-! ## Nothing too early -/

structure Booked (d : Distribution) : Prop where
  unsettled : d.isDebtCalculationFinalized = false → d.solanaValidatorPaymentsCount = 0 ∧
    d.collectedSolanaValidatorPayments = 0 ∧ d.uncollectibleSolDebt = 0
  unwritten : d.isSolanaValidatorDebtWriteOffEnabled = false → d.solanaValidatorWriteOffCount = 0
  unswept : d.hasSwept2zTokens = false → d.collected2zConvertedFromSol = 0 ∧
    d.distributedRewardsCount = 0 ∧ d.distributed2zAmount = 0 ∧ d.burned2zAmount = 0
  debt_le : d.uncollectibleSolDebt ≤ d.totalSolanaValidatorDebt

namespace Booked

variable {rt : Runtime} {a : DistAction} {s s' : DistState} {d : Distribution}

theorem setDebt (h : Booked d) : Booked (d.setIsDebtCalculationFinalized true) := by
  refine ⟨?_, fun hf => h.unwritten ?_, fun hf => h.unswept ?_, h.debt_le⟩
  · simp
  · simpa using hf
  · simpa using hf

theorem setRewards (h : Booked d) : Booked (d.setIsRewardsCalculationFinalized true) := by
  refine ⟨fun hf => h.unsettled ?_, fun hf => h.unwritten ?_, fun hf => h.unswept ?_, h.debt_le⟩
  · simpa using hf
  · simpa using hf
  · simpa using hf

theorem setWriteOff (h : Booked d) : Booked (d.setIsSolanaValidatorDebtWriteOffEnabled true) := by
  refine ⟨fun hf => h.unsettled ?_, ?_, fun hf => h.unswept ?_, h.debt_le⟩
  · simpa using hf
  · simp
  · simpa using hf

theorem setSwept (h : Booked d) : Booked (d.setHasSwept2zTokens true) := by
  refine ⟨fun hf => h.unsettled ?_, fun hf => h.unwritten ?_, ?_, h.debt_le⟩
  · simpa using hf
  · simpa using hf
  · simp

theorem step (h : Booked s.1) (hstep : DistStep rt a s s') : Booked s'.1 := by
  cases hstep with
  | configureDebt hopen =>
    obtain ⟨-, -, hzero⟩ := h.unsettled hopen
    refine ⟨h.unsettled, h.unwritten, h.unswept, ?_⟩
    show _ ≤ _
    rw [hzero]
    exact UInt64.zero_le
  | finalizeZeroDebt _ _ => exact h.setDebt
  | finalizeDebt _ _ _ _ => exact ⟨h.setDebt.1, h.setDebt.2, h.setDebt.3, h.debt_le⟩
  | finalizeRewards _ _ _ _ => exact ⟨h.setRewards.1, h.setRewards.2, h.setRewards.3, h.debt_le⟩
  | distribute _ hswept _ _ _ _ =>
    refine ⟨h.unsettled, h.unwritten, fun hne => ?_, h.debt_le⟩
    exact absurd (hswept.symm.trans hne) (by simp)
  | pay hdebt _ _ =>
    refine ⟨fun hne => ?_, h.unwritten, h.unswept, h.debt_le⟩
    exact absurd (hdebt.symm.trans hne) (by simp)
  | enableWriteOff _ _ _ =>
    exact ⟨h.setWriteOff.1, h.setWriteOff.2, h.setWriteOff.3, h.debt_le⟩
  | writeOff henabled _ _ _ =>
    refine ⟨h.unsettled, fun hne => ?_, h.unswept, h.debt_le⟩
    exact absurd (henabled.symm.trans hne) (by simp)
  | book _ hdebt hcovered =>
    refine ⟨fun hne => ?_, h.unwritten, h.unswept, ?_⟩
    · exact absurd (hdebt.symm.trans hne) (by simp)
    · exact UInt64.le_iff_toNat_le.2 (checkedSub_eq_some.1 hcovered).1
  | sweepNothing _ _ _ => exact h.setSwept
  | sweep _ _ _ _ =>
    refine ⟨h.setSwept.1, h.setSwept.2, fun hne => ?_, h.debt_le⟩
    exact absurd ((Distribution.hasSwept2zTokens_setHasSwept2zTokens _ true).symm.trans hne)
      (by simp)
  | _ => exact ⟨h.1, h.2, h.3, h.4⟩

end Booked

/-! ## Counters and bitmaps -/

structure Counted (s : DistState) : Prop where
  processed_card : (s.1.processedDebt s.2).card =
    s.1.solanaValidatorPaymentsCount.toNat + s.1.solanaValidatorWriteOffCount.toNat
  writtenOff_card : (s.1.writtenOffDebt s.2).card = s.1.solanaValidatorWriteOffCount.toNat
  writtenOff_subset : s.1.writtenOffDebt s.2 ⊆ s.1.processedDebt s.2
  rewards_card : (s.1.processedRewards s.2).card = s.1.distributedRewardsCount.toNat

theorem toNat_add_one {n : UInt32} (h : n.toNat + 1 ≤ 8 * MAX_PERMITTED_DATA_INCREASE) :
    (n + 1).toNat = n.toNat + 1 := by
  rw [UInt32.toNat_add]
  apply Nat.mod_eq_of_lt
  unfold MAX_PERMITTED_DATA_INCREASE at h
  show n.toNat + 1 < 2 ^ 32
  omega

namespace Counted

variable {rt : Runtime} {a : DistAction} {s s' : DistState}

theorem step (hl : Layout s) (ho : Ordered s.1) (hb : Booked s.1) (h : Counted s)
    (hstep : DistStep rt a s s') : Counted s' := by
  have hl' := hl.step hstep
  cases hstep with
  | @finalizeDebt d rem _ hopen _ _ hfit =>
    -- Nothing is settled before the debt is fixed, so an empty bitmap agrees with the counters.
    have hdebt := members_grown (hl.length_small hfit)
    obtain ⟨-, hwriteOff, hrewards⟩ := hl.sets_grown (n := d.totalSolanaValidators)
    have hoff : d.solanaValidatorWriteOffCount = 0 := hb.unwritten (ho.open_debt hopen).2.1
    have hpaid : d.solanaValidatorPaymentsCount = 0 := (hb.unsettled hopen).1
    have hzero : (∅ : Finset Nat).card =
        d.solanaValidatorPaymentsCount.toNat + d.solanaValidatorWriteOffCount.toNat := by
      rw [hpaid, hoff]
      rfl
    have hnone : d.writtenOffDebt rem = ∅ := by
      rw [← Finset.card_eq_zero]
      exact h.writtenOff_card.trans (by simp only [hoff]; rfl)
    exact ⟨(congrArg Finset.card hdebt).trans hzero,
      (congrArg Finset.card hwriteOff).trans h.writtenOff_card,
      (hwriteOff.trans hnone).subset.trans (Finset.empty_subset _),
      (congrArg Finset.card hrewards).trans h.rewards_card⟩
  | @finalizeRewards d rem hopen _ _ hfit =>
    obtain ⟨hdebt, hwriteOff, -⟩ := hl.sets_grown (n := d.totalContributors)
    have hrewards := members_grown (hl.length_small hfit)
    have hcount : d.distributedRewardsCount = 0 := (hb.unswept (ho.open_rewards hopen)).2.1
    have hzero : (∅ : Finset Nat).card = d.distributedRewardsCount.toNat := by
      rw [hcount]
      rfl
    exact ⟨(congrArg Finset.card hdebt).trans h.processed_card,
      (congrArg Finset.card hwriteOff).trans h.writtenOff_card,
      hwriteOff.subset.trans (h.writtenOff_subset.trans hdebt.superset),
      (congrArg Finset.card hrewards).trans hzero⟩
  | @enableWriteOff d rem hopen _ hfit =>
    obtain ⟨hdebt, -, hrewards⟩ := hl.sets_grown (n := d.totalSolanaValidators)
    have hwriteOff := members_grown (hl.length_small hfit)
    have hoff : d.solanaValidatorWriteOffCount = 0 := hb.unwritten hopen
    have hzero : (∅ : Finset Nat).card = d.solanaValidatorWriteOffCount.toNat := by
      rw [hoff]
      rfl
    exact ⟨(congrArg Finset.card hdebt).trans h.processed_card,
      (congrArg Finset.card hwriteOff).trans hzero, hwriteOff.subset.trans (Finset.empty_subset _),
      (congrArg Finset.card hrewards).trans h.rewards_card⟩
  | @distribute d rem rem' _ _ _ _ _ _ _ _ hmarks _ _ =>
    obtain ⟨hdebt, hwriteOff, hrewards, hnot⟩ := hl.mark_rewards hmarks
    have hcard : (d.processedRewards rem').card = (d.processedRewards rem).card + 1 := by
      rw [hrewards, Finset.card_insert_of_notMem hnot]
    have hcount : (d.processedRewards rem).card = d.distributedRewardsCount.toNat := h.rewards_card
    have hle : (d.processedRewards rem').card ≤ _ := hl'.rewards.card_le
    have hnew : (d.processedRewards rem').card = (d.distributedRewardsCount + 1).toNat := by
      rw [toNat_add_one (by omega), hcard, hcount]
    exact ⟨(congrArg Finset.card hdebt).trans h.processed_card,
      (congrArg Finset.card hwriteOff).trans h.writtenOff_card,
      hwriteOff.subset.trans (h.writtenOff_subset.trans hdebt.superset), hnew⟩
  | @pay d rem rem' _ _ _ hmarks _ =>
    obtain ⟨hdebt, hwriteOff, hrewards, hnot⟩ := hl.mark_debt hmarks
    have hcard : (d.processedDebt rem').card = (d.processedDebt rem).card + 1 := by
      rw [hdebt, Finset.card_insert_of_notMem hnot]
    have hcount : (d.processedDebt rem).card = _ := h.processed_card
    have hle : (d.processedDebt rem').card ≤ _ := hl'.debt.card_le
    have hnew : (d.processedDebt rem').card =
        (d.solanaValidatorPaymentsCount + 1).toNat + d.solanaValidatorWriteOffCount.toNat := by
      simp only at hcount
      rw [toNat_add_one (by omega)]
      omega
    have hsub : d.processedDebt rem ⊆ d.processedDebt rem' :=
      (Finset.subset_insert _ _).trans hdebt.superset
    exact ⟨hnew, (congrArg Finset.card hwriteOff).trans h.writtenOff_card,
      hwriteOff.subset.trans (h.writtenOff_subset.trans hsub),
      (congrArg Finset.card hrewards).trans h.rewards_card⟩
  | @writeOff d rem rem₁ rem' i _ _ hmarksOff hmarks _ =>
    obtain ⟨hdebt, hwriteOff, hrewards, hnotDebt, hnotOff⟩ := hl.mark_writeOff hmarksOff hmarks
    have hcard : (d.processedDebt rem').card = (d.processedDebt rem).card + 1 := by
      rw [hdebt, Finset.card_insert_of_notMem hnotDebt]
    have hcardOff : (d.writtenOffDebt rem').card = (d.writtenOffDebt rem).card + 1 := by
      rw [hwriteOff, Finset.card_insert_of_notMem hnotOff]
    have hcount : (d.processedDebt rem).card = _ := h.processed_card
    have hcountOff : (d.writtenOffDebt rem).card = _ := h.writtenOff_card
    have hle : (d.writtenOffDebt rem').card ≤ _ := hl'.writeOff.card_le
    simp only at hcount hcountOff
    have hone : (d.solanaValidatorWriteOffCount + 1).toNat =
        d.solanaValidatorWriteOffCount.toNat + 1 := toNat_add_one (by omega)
    have hnew : (d.processedDebt rem').card = d.solanaValidatorPaymentsCount.toNat +
        (d.solanaValidatorWriteOffCount + 1).toNat := by omega
    have hnewOff : (d.writtenOffDebt rem').card = (d.solanaValidatorWriteOffCount + 1).toNat := by
      omega
    have hsub : d.writtenOffDebt rem' ⊆ d.processedDebt rem' := by
      rw [hwriteOff, hdebt]
      exact Finset.insert_subset_insert _ h.writtenOff_subset
    exact ⟨hnew, hnewOff, hsub, (congrArg Finset.card hrewards).trans h.rewards_card⟩
  | _ => exact ⟨h.1, h.2, h.3, h.4⟩

end Counted

/-! ## Together -/

structure Valid (s : DistState) : Prop where
  layout : Layout s
  ordered : Ordered s.1
  booked : Booked s.1
  counted : Counted s

theorem Valid.step {rt : Runtime} {a : DistAction} {s s' : DistState} (h : Valid s)
    (hstep : DistStep rt a s s') : Valid s' :=
  ⟨h.layout.step hstep, h.ordered.step hstep, h.booked.step hstep,
    h.counted.step h.layout h.ordered h.booked hstep⟩

namespace Valid

variable {rt : Runtime} {a : DistAction} {s s' : DistState}

/-- Before the debt is fixed no leaf is settled. -/
theorem unsettled_sets (h : Valid s) (hopen : s.1.isDebtCalculationFinalized = false) :
    s.1.processedDebt s.2 = ∅ ∧ s.1.writtenOffDebt s.2 = ∅ := by
  have hpaid := (h.booked.unsettled hopen).1
  have hoff := h.booked.unwritten (h.ordered.open_debt hopen).2.1
  have hcard := h.counted.processed_card
  have hcardOff := h.counted.writtenOff_card
  rw [hoff] at hcard hcardOff
  rw [hpaid] at hcard
  exact ⟨Finset.card_eq_zero.1 hcard, Finset.card_eq_zero.1 hcardOff⟩

/-- Only a payment or a write-off settles a leaf. -/
theorem sets_eq (h : Valid s) (hstep : DistStep rt a s s') (ha : a.settles = none) :
    s'.1.processedDebt s'.2 = s.1.processedDebt s.2 ∧
      s'.1.writtenOffDebt s'.2 = s.1.writtenOffDebt s.2 := by
  cases hstep with
  | @finalizeDebt d rem _ hopen _ _ hfit =>
    have hdebt := members_grown (h.layout.length_small hfit)
    obtain ⟨hnone, -⟩ := h.unsettled_sets hopen
    exact ⟨hdebt.trans hnone.symm, h.layout.sets_grown.2.1⟩
  | finalizeRewards _ _ _ _ => exact ⟨h.layout.sets_grown.1, h.layout.sets_grown.2.1⟩
  | @enableWriteOff d rem hopen _ hfit =>
    have hwriteOff := members_grown (h.layout.length_small hfit)
    have hnone : d.writtenOffDebt rem = ∅ := by
      rw [← Finset.card_eq_zero]
      exact h.counted.writtenOff_card.trans (by rw [h.booked.unwritten hopen]; rfl)
    exact ⟨h.layout.sets_grown.1, hwriteOff.trans hnone.symm⟩
  | distribute _ _ _ hmarks _ _ =>
    obtain ⟨hdebt, hwriteOff, -, -⟩ := h.layout.mark_rewards hmarks
    exact ⟨hdebt, hwriteOff⟩
  | pay _ _ _ => simp [DistAction.settles] at ha
  | writeOff _ _ _ _ => simp [DistAction.settles] at ha
  | _ => exact ⟨rfl, rfl⟩

/-- A settled leaf is processed from then on, and was not before. -/
theorem settles_eq (h : Valid s) (hstep : DistStep rt a s s') {i : UInt32}
    (ha : a.settles = some i) :
    s'.1.processedDebt s'.2 = insert i.toNat (s.1.processedDebt s.2) ∧
      i.toNat ∉ s.1.processedDebt s.2 := by
  cases hstep with
  | pay _ hmarks _ =>
    cases ha
    obtain ⟨hdebt, -, -, hnot⟩ := h.layout.mark_debt hmarks
    exact ⟨hdebt, hnot⟩
  | writeOff _ hmarksOff hmarks _ =>
    cases ha
    obtain ⟨hdebt, -, -, hnot, -⟩ := h.layout.mark_writeOff hmarksOff hmarks
    exact ⟨hdebt, hnot⟩
  | _ => simp [DistAction.settles] at ha

end Valid

/-- No flag of a new distribution is set. -/
theorem Initialized.flag_eq {rt : Runtime} {c : ProgramConfig} {j : Journal} {prepaid : UInt64}
    {d : Distribution} (h : Initialized rt c j prepaid d) {i : Nat} : d.flag i = false := by
  have hflags : d.flags = 0#64 := congrArg Distribution.flags h.rest_eq
  rw [Distribution.flag, hflags, bit_zero]

/-- A new distribution has nothing in it. -/
theorem Initialized.valid {rt : Runtime} {c : ProgramConfig} {j : Journal} {prepaid : UInt64}
    {d : Distribution} (h : Initialized rt c j prepaid d) : Valid (d, []) := by
  have hflag : ∀ i, d.flag i = false := fun _ => h.flag_eq
  have hdebt : d.debtRange = (0, 0) := congrArg Distribution.debtRange h.rest_eq
  have hwriteOff : d.writeOffRange = (0, 0) := congrArg Distribution.writeOffRange h.rest_eq
  have hrewards : d.rewardsRange = (0, 0) := congrArg Distribution.rewardsRange h.rest_eq
  have hfits : Fits (0, 0) ([] : List (BitVec 8)) := ⟨le_rfl, le_rfl, Nat.zero_le _⟩
  have hpaid : d.solanaValidatorPaymentsCount = 0 :=
    congrArg Distribution.solanaValidatorPaymentsCount h.rest_eq
  have hoff : d.solanaValidatorWriteOffCount = 0 :=
    congrArg Distribution.solanaValidatorWriteOffCount h.rest_eq
  have hcount : d.distributedRewardsCount = 0 :=
    congrArg Distribution.distributedRewardsCount h.rest_eq
  refine ⟨⟨?_, ?_, ?_, ?_, ?_, ?_, Nat.zero_le _⟩, ⟨?_, ?_, ?_⟩, ⟨?_, ?_, ?_, ?_⟩, ⟨?_, ?_, ?_, ?_⟩⟩
  · rw [hdebt]; exact hfits
  · rw [hwriteOff]; exact hfits
  · rw [hrewards]; exact hfits
  · rw [hdebt]; exact .inl (Nat.zero_le _)
  · rw [hdebt]; exact .inl (Nat.zero_le _)
  · rw [hwriteOff]; exact .inl (Nat.zero_le _)
  · intro hf
    exact absurd ((hflag _).symm.trans hf) (by simp)
  · intro hf
    exact absurd ((hflag _).symm.trans hf) (by simp)
  · intro hf
    exact absurd ((hflag _).symm.trans hf) (by simp)
  · intro _
    exact ⟨hpaid, congrArg Distribution.collectedSolanaValidatorPayments h.rest_eq,
      congrArg Distribution.uncollectibleSolDebt h.rest_eq⟩
  · intro _
    exact hoff
  · intro _
    exact ⟨congrArg Distribution.collected2zConvertedFromSol h.rest_eq, hcount,
      congrArg Distribution.distributed2zAmount h.rest_eq,
      congrArg Distribution.burned2zAmount h.rest_eq⟩
  · rw [congrArg Distribution.uncollectibleSolDebt h.rest_eq]
    exact UInt64.zero_le
  · simp only [Distribution.processedDebt, hdebt, window_empty, members_nil, hpaid, hoff]
    rfl
  · simp only [Distribution.writtenOffDebt, hwriteOff, window_empty, members_nil, hoff]
    rfl
  · simp [Distribution.writtenOffDebt, hwriteOff]
  · simp only [Distribution.processedRewards, hrewards, window_empty, members_nil, hcount]
    rfl

end DoubleZero.Revenue
