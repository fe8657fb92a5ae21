import DoubleZero.Revenue.Transition

/-!
# The bitmaps behind a distribution

The bytes after a distribution hold up to three bitmaps: processed debt, written-off debt, processed
rewards. Each is appended by the instruction that opens it, and each range is kept in two fields.
`Layout` says that the ranges lie within the bytes and do not overlap; every step keeps it, so a bit
set in one bitmap never shows in another.
-/

namespace DoubleZero.Revenue

open DoubleZero.Lib DoubleZero.Solana

namespace Distribution

variable (d : Distribution) (rem : List (BitVec 8))

/-- Where the bitmap of processed debt starts and ends. -/
def debtRange : Nat × Nat :=
  (d.processedSolanaValidatorDebtStartIndex.toNat, d.processedSolanaValidatorDebtEndIndex.toNat)

def writeOffRange : Nat × Nat :=
  (d.processedSolanaValidatorDebtWriteOffStartIndex.toNat,
    d.processedSolanaValidatorDebtWriteOffEndIndex.toNat)

def rewardsRange : Nat × Nat :=
  (d.processedRewardsStartIndex.toNat, d.processedRewardsEndIndex.toNat)

/-- The debt leaves that are processed, paid or written off. -/
def processedDebt : Finset Nat := members (window rem d.debtRange.1 d.debtRange.2)

/-- The debt leaves that are written off. -/
def writtenOffDebt : Finset Nat := members (window rem d.writeOffRange.1 d.writeOffRange.2)

/-- The reward leaves that are distributed. -/
def processedRewards : Finset Nat := members (window rem d.rewardsRange.1 d.rewardsRange.2)

/-- How many of the steps that append a bitmap were taken. -/
def bitmaps : Nat :=
  d.isDebtCalculationFinalized.toNat + d.isRewardsCalculationFinalized.toNat +
    d.isSolanaValidatorDebtWriteOffEnabled.toNat

end Distribution

/-! ## Ranges -/

/-- A range lies within the bytes and is no longer than one instruction can append. -/
structure Fits (range : Nat × Nat) (rem : List (BitVec 8)) : Prop where
  start_le : range.1 ≤ range.2
  stop_le : range.2 ≤ rem.length
  size_le : range.2 - range.1 ≤ MAX_PERMITTED_DATA_INCREASE

/-- Two ranges do not overlap. -/
def Apart (range range' : Nat × Nat) : Prop := range.2 ≤ range'.1 ∨ range'.2 ≤ range.1

theorem Apart.symm {range range' : Nat × Nat} (h : Apart range range') : Apart range' range :=
  Or.symm h

namespace Fits

variable {range range' : Nat × Nat} {rem rem' : List (BitVec 8)}

theorem of_length_le (h : Fits range rem) (hlen : rem.length ≤ rem'.length) : Fits range rem' :=
  ⟨h.start_le, h.stop_le.trans hlen, h.size_le⟩

theorem card_le (h : Fits range rem) :
    (members (window rem range.1 range.2)).card ≤ 8 * MAX_PERMITTED_DATA_INCREASE := by
  refine (card_members_le _).trans ?_
  rw [length_window h.stop_le]
  exact Nat.mul_le_mul_left 8 h.size_le

theorem mem_lt (h : Fits range rem) {i : Nat} (hi : i ∈ members (window rem range.1 range.2)) :
    i < 8 * MAX_PERMITTED_DATA_INCREASE := by
  have hlt := Finset.mem_range.1 (members_subset _ hi)
  rw [length_window h.stop_le] at hlt
  exact hlt.trans_le (Nat.mul_le_mul_left 8 h.size_le)

theorem window_grown (h : Fits range rem) (n : UInt32) :
    window (grown rem n) range.1 range.2 = window rem range.1 range.2 :=
  window_append h.stop_le

end Fits

/-! ## Appending a bitmap -/

section Grown

variable {rem : List (BitVec 8)} {n : UInt32}

theorem length_grown : (grown rem n).length = rem.length + (bitmapLen n).toNat := by
  simp [grown]

/-- The range of the new bitmap, when the bytes are not yet too many for a `u32`. -/
theorem bitmap_range (hrem : rem.length + (bitmapLen n).toNat < 2 ^ 32) :
    (bitmapStart rem).toNat = rem.length ∧
      (bitmapEnd rem n).toNat = rem.length + (bitmapLen n).toNat := by
  have hstart : (bitmapStart rem).toNat = rem.length :=
    UInt32.toNat_ofNat_of_lt (show rem.length < 2 ^ 32 by omega)
  refine ⟨hstart, ?_⟩
  unfold bitmapEnd saturatingAdd32
  rw [hstart, min_eq_left (by omega)]
  exact UInt32.toNat_ofNat_of_lt hrem

/-- The new bitmap is clear. -/
theorem members_grown (hrem : rem.length + (bitmapLen n).toNat < 2 ^ 32) :
    members (window (grown rem n) (bitmapStart rem).toNat (bitmapEnd rem n).toNat) = ∅ := by
  obtain ⟨hstart, hend⟩ := bitmap_range hrem
  rw [hstart, hend, grown]
  have := window_append_right rem (List.replicate (bitmapLen n).toNat 0#8)
  rw [List.length_replicate] at this
  rw [this, members_replicate]

theorem fits_grown (hrem : rem.length + (bitmapLen n).toNat < 2 ^ 32)
    (hfit : (bitmapLen n).toNat ≤ MAX_PERMITTED_DATA_INCREASE) :
    Fits ((bitmapStart rem).toNat, (bitmapEnd rem n).toNat) (grown rem n) := by
  obtain ⟨hstart, hend⟩ := bitmap_range hrem
  refine ⟨?_, ?_, ?_⟩
  · simp only [hstart, hend]; omega
  · simp only [hend, length_grown]; omega
  · simp only [hstart, hend]; omega

theorem apart_grown (hrem : rem.length + (bitmapLen n).toNat < 2 ^ 32) {range : Nat × Nat}
    (h : Fits range rem) : Apart range ((bitmapStart rem).toNat, (bitmapEnd rem n).toNat) := by
  left
  rw [(bitmap_range hrem).1]
  exact h.stop_le

end Grown

/-! ## Marking a leaf -/

namespace MarksLeaf

variable {rem rem' : List (BitVec 8)} {start stop i : UInt32}

theorem length_eq (h : MarksLeaf rem start stop i rem') : rem'.length = rem.length := by
  obtain ⟨hle, hstop, byte, -, -, rfl⟩ := h
  exact length_splice (UInt32.le_iff_toNat_le.1 hle) hstop (by
    rw [List.length_set, length_window hstop])

/-- The leaf joins the bitmap it was marked in. -/
theorem members_eq (h : MarksLeaf rem start stop i rem') :
    members (window rem' start.toNat stop.toNat) =
      insert i.toNat (members (window rem start.toNat stop.toNat)) := by
  obtain ⟨hle, hstop, byte, hbyte, -, rfl⟩ := h
  rw [window_splice (UInt32.le_iff_toNat_le.1 hle) hstop (by
    rw [List.length_set, length_window hstop])]
  exact members_set hbyte

theorem not_mem (h : MarksLeaf rem start stop i rem') :
    i.toNat ∉ members (window rem start.toNat stop.toNat) := by
  obtain ⟨-, -, byte, hbyte, hbit, -⟩ := h
  rw [mem_members, bitAt, hbyte]
  simp [hbit]

/-- A bitmap apart from the marked one stays as it is. -/
theorem window_eq (h : MarksLeaf rem start stop i rem') {range : Nat × Nat}
    (hd : Apart (start.toNat, stop.toNat) range) :
    window rem' range.1 range.2 = window rem range.1 range.2 := by
  obtain ⟨hle, hstop, byte, -, -, rfl⟩ := h
  exact window_splice_of_disjoint (UInt32.le_iff_toNat_le.1 hle) hstop (by
    rw [List.length_set, length_window hstop]) hd

end MarksLeaf

/-! ## The layout of a distribution -/

structure Layout (s : DistState) : Prop where
  debt : Fits s.1.debtRange s.2
  writeOff : Fits s.1.writeOffRange s.2
  rewards : Fits s.1.rewardsRange s.2
  debt_writeOff : Apart s.1.debtRange s.1.writeOffRange
  debt_rewards : Apart s.1.debtRange s.1.rewardsRange
  writeOff_rewards : Apart s.1.writeOffRange s.1.rewardsRange
  length_le : s.2.length ≤ MAX_PERMITTED_DATA_INCREASE * s.1.bitmaps

theorem Distribution.bitmaps_le (d : Distribution) : d.bitmaps ≤ 3 := by
  have h₁ := d.isDebtCalculationFinalized.toNat_le
  have h₂ := d.isRewardsCalculationFinalized.toNat_le
  have h₃ := d.isSolanaValidatorDebtWriteOffEnabled.toNat_le
  unfold Distribution.bitmaps
  omega

section Bitmaps

variable {d : Distribution}

theorem bitmaps_setIsDebtCalculationFinalized (h : d.isDebtCalculationFinalized = false) :
    (d.setIsDebtCalculationFinalized true).bitmaps = d.bitmaps + 1 := by
  simp [Distribution.bitmaps, h]
  omega

theorem bitmaps_setIsRewardsCalculationFinalized (h : d.isRewardsCalculationFinalized = false) :
    (d.setIsRewardsCalculationFinalized true).bitmaps = d.bitmaps + 1 := by
  simp [Distribution.bitmaps, h]
  omega

theorem bitmaps_setIsSolanaValidatorDebtWriteOffEnabled
    (h : d.isSolanaValidatorDebtWriteOffEnabled = false) :
    (d.setIsSolanaValidatorDebtWriteOffEnabled true).bitmaps = d.bitmaps + 1 := by
  simp [Distribution.bitmaps, h]

theorem bitmaps_setHasSwept2zTokens : (d.setHasSwept2zTokens true).bitmaps = d.bitmaps := by
  simp [Distribution.bitmaps]

end Bitmaps

namespace Layout

variable {rt : Runtime} {a : DistAction} {s s' : DistState}

theorem length_small (h : Layout s) {n : UInt32}
    (hfit : (bitmapLen n).toNat ≤ MAX_PERMITTED_DATA_INCREASE) :
    s.2.length + (bitmapLen n).toNat < 2 ^ 32 := by
  have hlen := h.length_le
  have hmul : MAX_PERMITTED_DATA_INCREASE * s.1.bitmaps ≤ MAX_PERMITTED_DATA_INCREASE * 3 :=
    Nat.mul_le_mul_left _ s.1.bitmaps_le
  unfold MAX_PERMITTED_DATA_INCREASE at *
  omega

/-- One more bitmap is paid for by one more step. -/
theorem length_grown_le (h : Layout s) {n : UInt32} {k : Nat}
    (hfit : (bitmapLen n).toNat ≤ MAX_PERMITTED_DATA_INCREASE) (hk : k = s.1.bitmaps + 1) :
    (grown s.2 n).length ≤ MAX_PERMITTED_DATA_INCREASE * k := by
  have hlen := h.length_le
  rw [length_grown, hk, Nat.mul_add, Nat.mul_one]
  omega

/-- A marked leaf moves no range. -/
theorem marked {d : Distribution} {rem rem' : List (BitVec 8)} (h : Layout (d, rem))
    (hlen : rem'.length = rem.length) : Layout (d, rem') := by
  have hle : rem.length ≤ rem'.length := hlen.ge
  exact ⟨h.debt.of_length_le hle, h.writeOff.of_length_le hle, h.rewards.of_length_le hle,
    h.debt_writeOff, h.debt_rewards, h.writeOff_rewards, hlen.trans_le h.length_le⟩

/-! What marking a leaf and appending a bitmap do to the three sets. -/

section Sets

variable {d : Distribution} {rem rem₁ rem' : List (BitVec 8)} {i n : UInt32}

theorem mark_debt (h : Layout (d, rem)) (hm : MarksLeaf rem
      d.processedSolanaValidatorDebtStartIndex d.processedSolanaValidatorDebtEndIndex i rem') :
    d.processedDebt rem' = insert i.toNat (d.processedDebt rem) ∧
      d.writtenOffDebt rem' = d.writtenOffDebt rem ∧
      d.processedRewards rem' = d.processedRewards rem ∧ i.toNat ∉ d.processedDebt rem :=
  ⟨hm.members_eq, congrArg members (hm.window_eq h.debt_writeOff),
    congrArg members (hm.window_eq h.debt_rewards), hm.not_mem⟩

theorem mark_rewards (h : Layout (d, rem))
    (hm : MarksLeaf rem d.processedRewardsStartIndex d.processedRewardsEndIndex i rem') :
    d.processedDebt rem' = d.processedDebt rem ∧ d.writtenOffDebt rem' = d.writtenOffDebt rem ∧
      d.processedRewards rem' = insert i.toNat (d.processedRewards rem) ∧
      i.toNat ∉ d.processedRewards rem :=
  ⟨congrArg members (hm.window_eq h.debt_rewards.symm),
    congrArg members (hm.window_eq h.writeOff_rewards.symm), hm.members_eq, hm.not_mem⟩

/-- A write-off marks its leaf in both debt bitmaps, and in neither was it marked before. -/
theorem mark_writeOff (h : Layout (d, rem))
    (hoff : MarksLeaf rem d.processedSolanaValidatorDebtWriteOffStartIndex
      d.processedSolanaValidatorDebtWriteOffEndIndex i rem₁)
    (hm : MarksLeaf rem₁ d.processedSolanaValidatorDebtStartIndex
      d.processedSolanaValidatorDebtEndIndex i rem') :
    d.processedDebt rem' = insert i.toNat (d.processedDebt rem) ∧
      d.writtenOffDebt rem' = insert i.toNat (d.writtenOffDebt rem) ∧
      d.processedRewards rem' = d.processedRewards rem ∧
      i.toNat ∉ d.processedDebt rem ∧ i.toNat ∉ d.writtenOffDebt rem := by
  have h₁ := h.marked hoff.length_eq
  have hdebt : d.processedDebt rem₁ = d.processedDebt rem :=
    congrArg members (hoff.window_eq h.debt_writeOff.symm)
  have hwriteOff : d.writtenOffDebt rem₁ = insert i.toNat (d.writtenOffDebt rem) := hoff.members_eq
  have hrewards : d.processedRewards rem₁ = d.processedRewards rem :=
    congrArg members (hoff.window_eq h.writeOff_rewards)
  obtain ⟨e₁, e₂, e₃, hnot⟩ := h₁.mark_debt hm
  exact ⟨hdebt ▸ e₁, e₂.trans hwriteOff, e₃.trans hrewards, hdebt ▸ hnot, hoff.not_mem⟩

/-- The bitmaps that are there stay as they are when the bytes grow. -/
theorem sets_grown (h : Layout (d, rem)) :
    d.processedDebt (grown rem n) = d.processedDebt rem ∧
      d.writtenOffDebt (grown rem n) = d.writtenOffDebt rem ∧
      d.processedRewards (grown rem n) = d.processedRewards rem :=
  ⟨congrArg members (h.debt.window_grown n), congrArg members (h.writeOff.window_grown n),
    congrArg members (h.rewards.window_grown n)⟩

end Sets

theorem step (h : Layout s) (hstep : DistStep rt a s s') : Layout s' := by
  have hgrow : ∀ n, s.2.length ≤ (grown s.2 n).length := by
    intro n
    rw [length_grown]
    omega
  cases hstep with
  | finalizeZeroDebt hopen _ =>
    refine ⟨h.debt, h.writeOff, h.rewards, h.debt_writeOff, h.debt_rewards, h.writeOff_rewards,
      h.length_le.trans (Nat.mul_le_mul_left _ ?_)⟩
    rw [bitmaps_setIsDebtCalculationFinalized hopen]
    exact Nat.le_succ _
  | finalizeDebt hopen _ _ hfit =>
    have hrem := h.length_small hfit
    exact ⟨fits_grown hrem hfit, h.writeOff.of_length_le (hgrow _), h.rewards.of_length_le (hgrow _),
      (apart_grown hrem h.writeOff).symm, (apart_grown hrem h.rewards).symm, h.writeOff_rewards,
      h.length_grown_le hfit (bitmaps_setIsDebtCalculationFinalized hopen)⟩
  | finalizeRewards hopen _ _ hfit =>
    have hrem := h.length_small hfit
    exact ⟨h.debt.of_length_le (hgrow _), h.writeOff.of_length_le (hgrow _), fits_grown hrem hfit,
      h.debt_writeOff, apart_grown hrem h.debt, apart_grown hrem h.writeOff,
      h.length_grown_le hfit (bitmaps_setIsRewardsCalculationFinalized hopen)⟩
  | enableWriteOff hopen _ hfit =>
    have hrem := h.length_small hfit
    exact ⟨h.debt.of_length_le (hgrow _), fits_grown hrem hfit, h.rewards.of_length_le (hgrow _),
      apart_grown hrem h.debt, h.debt_rewards, (apart_grown hrem h.rewards).symm,
      h.length_grown_le hfit (bitmaps_setIsSolanaValidatorDebtWriteOffEnabled hopen)⟩
  | distribute _ _ _ hmarks _ _ =>
    have hm := h.marked hmarks.length_eq
    exact ⟨hm.debt, hm.writeOff, hm.rewards, hm.debt_writeOff, hm.debt_rewards, hm.writeOff_rewards,
      hm.length_le⟩
  | pay _ hmarks _ =>
    have hm := h.marked hmarks.length_eq
    exact ⟨hm.debt, hm.writeOff, hm.rewards, hm.debt_writeOff, hm.debt_rewards, hm.writeOff_rewards,
      hm.length_le⟩
  | writeOff _ hmarksOff hmarks _ =>
    have hm := h.marked (hmarks.length_eq.trans hmarksOff.length_eq)
    exact ⟨hm.debt, hm.writeOff, hm.rewards, hm.debt_writeOff, hm.debt_rewards, hm.writeOff_rewards,
      hm.length_le⟩
  | sweepNothing _ _ _ =>
    exact ⟨h.debt, h.writeOff, h.rewards, h.debt_writeOff, h.debt_rewards, h.writeOff_rewards,
      h.length_le.trans_eq (congrArg _ bitmaps_setHasSwept2zTokens.symm)⟩
  | sweep _ _ _ _ =>
    exact ⟨h.debt, h.writeOff, h.rewards, h.debt_writeOff, h.debt_rewards, h.writeOff_rewards,
      h.length_le.trans_eq (congrArg _ bitmaps_setHasSwept2zTokens.symm)⟩
  -- The other steps change neither a range nor the bytes.
  | _ =>
    exact ⟨h.debt, h.writeOff, h.rewards, h.debt_writeOff, h.debt_rewards, h.writeOff_rewards,
      h.length_le⟩

end Layout

end DoubleZero.Revenue
