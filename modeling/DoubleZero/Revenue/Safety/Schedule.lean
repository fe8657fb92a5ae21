import DoubleZero.Revenue.Safety.BurnRate

/-!
# The schedule of the burn rate in closed form

After an update the parameters are counted down by every rate that is computed, and nothing else
happens to them. `OnSchedule` says what they are after `k` rates, `OnSchedule.step` that the next
rate leads to the next entry. A rate is computed one epoch before it is given out: the rates before
the increase, those on the slope, and the limit from then on.
-/

namespace DoubleZero.Revenue

open DoubleZero.Lib DoubleZero.Solana

namespace CommunityBurnRateParameters

/-- The parameters after `k` rates were computed. -/
def afterComputes (p : CommunityBurnRateParameters) : Nat → Option CommunityBurnRateParameters
  | 0 => some p
  | k + 1 => (p.afterComputes k).bind fun q => q.checkedCompute.map Prod.snd

/-- The `k`-th rate after an update at rate `c` to the limit `limit`, which is to increase after
`toIncreasing` rates and to be at the limit after `toLimit`. -/
def scheduledRate (c limit toIncreasing toLimit k : Nat) : Nat :=
  if k ≤ toIncreasing then c
  else if k ≤ toLimit then c + (k - toIncreasing) * ((limit - c) / (toLimit - toIncreasing + 1))
  else limit

/-- What `k` rates after an update to the given limit and epochs leave. -/
structure OnSchedule (c limit : BurnRate) (toIncreasing toLimit : EpochDuration) (k : Nat)
    (q : CommunityBurnRateParameters) : Prop where
  limit_eq : q.limit = limit
  increasing_eq : q.dzEpochsToIncreasing.toNat = toIncreasing.toNat - k
  toLimit_eq : q.dzEpochsToLimit.toNat = toLimit.toNat - k
  numerator_eq : q.cachedSlopeNumerator.value = limit.value - c.value
  denominator_eq : q.cachedSlopeDenominator.toNat = toLimit.toNat - toIncreasing.toNat + 1
  rate_eq : q.cachedNextBurnRate.value =
    scheduledRate c.value limit.value toIncreasing.toNat toLimit.toNat (k + 1)

section

variable {p q : CommunityBurnRateParameters} {c limit : BurnRate}
  {toIncreasing toLimit : EpochDuration} {k : Nat}

theorem Updated.onSchedule (h : Updated p limit toIncreasing toLimit q) :
    OnSchedule p.cachedNextBurnRate limit toIncreasing toLimit 0 q := by
  refine ⟨h.limit_eq, congrArg UInt32.toNat h.increasing_eq, congrArg UInt32.toNat h.toLimit_eq,
    h.numerator_eq, h.denominator_eq, ?_⟩
  rw [h.rate_eq, scheduledRate, if_pos h.start]

theorem scheduledRate_limit {c limit toIncreasing toLimit : Nat} (hk : toLimit < k)
    (horder : toIncreasing ≤ toLimit) : scheduledRate c limit toIncreasing toLimit k = limit := by
  rw [scheduledRate, if_neg (by omega), if_neg (by omega)]

/-- The rates of the schedule stay positive. -/
theorem scheduledRate_pos {c limit toIncreasing toLimit : Nat} (hc : 1 ≤ c) (hle : c ≤ limit) :
    1 ≤ scheduledRate c limit toIncreasing toLimit k := by
  unfold scheduledRate
  split
  · exact hc
  · split
    · omega
    · omega

/-- On the slope each rate is one increment above the one before. -/
theorem scheduledRate_succ {c limit toIncreasing toLimit : Nat} (hstart : toIncreasing ≤ k)
    (hend : k < toLimit) : scheduledRate c limit toIncreasing toLimit (k + 1) =
      scheduledRate c limit toIncreasing toLimit k +
        (limit - c) / (toLimit - toIncreasing + 1) := by
  have hnext : scheduledRate c limit toIncreasing toLimit (k + 1) =
      c + (k - toIncreasing + 1) * ((limit - c) / (toLimit - toIncreasing + 1)) := by
    rw [scheduledRate, if_neg (by omega), if_pos (by omega),
      show k + 1 - toIncreasing = k - toIncreasing + 1 by omega]
  have hnow : scheduledRate c limit toIncreasing toLimit k =
      c + (k - toIncreasing) * ((limit - c) / (toLimit - toIncreasing + 1)) := by
    unfold scheduledRate
    split
    · next h => rw [show k - toIncreasing = 0 by omega, Nat.zero_mul, Nat.add_zero]
    · rw [if_pos (by omega)]
  rw [hnext, hnow, Nat.add_mul, Nat.one_mul, Nat.add_assoc]

/-- The slope never leads past the limit. -/
theorem scheduledRate_le {c limit toIncreasing toLimit : Nat} (hle : c ≤ limit) :
    scheduledRate c limit toIncreasing toLimit k ≤ limit := by
  unfold scheduledRate
  split
  · exact hle
  · split
    · have hdiv := Nat.div_mul_le_self (limit - c) (toLimit - toIncreasing + 1)
      have hmul : (k - toIncreasing) * ((limit - c) / (toLimit - toIncreasing + 1)) ≤
          (limit - c) / (toLimit - toIncreasing + 1) * (toLimit - toIncreasing + 1) := by
        rw [Nat.mul_comm]
        exact Nat.mul_le_mul_left _ (by omega)
      omega
    · exact le_rfl

namespace OnSchedule

theorem rate_ne_min (h : OnSchedule c limit toIncreasing toLimit k q) (hc : 1 ≤ c.value)
    (hle : c.value ≤ limit.value) : q.cachedNextBurnRate ≠ UnitShare.MIN := by
  rw [ne_min, h.rate_eq]
  exact scheduledRate_pos hc hle

theorem denominator_ne_zero (h : OnSchedule c limit toIncreasing toLimit k q) :
    q.cachedSlopeDenominator ≠ 0 := by
  intro hzero
  have heq := h.denominator_eq
  rw [hzero, UInt32.toNat_zero] at heq
  omega

theorem increment_eq (h : OnSchedule c limit toIncreasing toLimit k q) : q.increment =
    (limit.value - c.value) / (toLimit.toNat - toIncreasing.toNat + 1) := by
  rw [increment, h.numerator_eq, h.denominator_eq]

/-- On the slope the rate that is computed next is the one the schedule has. -/
theorem newBurnRate_eq (h : OnSchedule c limit toIncreasing toLimit k q)
    (hstart : toIncreasing.toNat ≤ k + 1) (hend : k + 1 < toLimit.toNat) : q.newBurnRate =
      scheduledRate c.value limit.value toIncreasing.toNat toLimit.toNat (k + 2) := by
  rw [CommunityBurnRateParameters.newBurnRate_eq h.denominator_ne_zero, h.rate_eq, h.increment_eq,
    scheduledRate_succ hstart hend]

/-- Computing a rate gives the next one of the schedule, and counts the parameters down. -/
theorem step (h : OnSchedule c limit toIncreasing toLimit k q) (hc : 1 ≤ c.value)
    (hle : c.value ≤ limit.value) (horder : toIncreasing.toNat ≤ toLimit.toNat) :
    ∃ q', q.checkedCompute = some (q.cachedNextBurnRate, q') ∧
      OnSchedule c limit toIncreasing toLimit (k + 1) q' := by
  have hrate := h.rate_ne_min hc hle
  have hden := h.denominator_ne_zero
  have hincreasing := h.increasing_eq
  have hlimit := h.toLimit_eq
  have htickIncreasing : q.tick.dzEpochsToIncreasing.toNat = toIncreasing.toNat - (k + 1) := by
    rw [toNat_tick_toIncreasing]
    omega
  have htickLimit : q.tick.dzEpochsToLimit.toNat = toLimit.toNat - (k + 1) := by
    rw [toNat_tick_toLimit]
    omega
  by_cases hlast : q.dzEpochsToLimit.toNat ≤ 1
  · refine ⟨_, checkedCompute_limit hrate hlast, h.limit_eq, htickIncreasing, htickLimit,
      h.numerator_eq, h.denominator_eq, ?_⟩
    rw [scheduledRate_limit (by omega) horder]
    exact congrArg UnitShare.value h.limit_eq
  · by_cases hstatic : 2 ≤ q.dzEpochsToIncreasing.toNat
    · refine ⟨_, checkedCompute_static hrate (by omega) hstatic, h.limit_eq, htickIncreasing,
        htickLimit, h.numerator_eq, h.denominator_eq, ?_⟩
      have hnow := h.rate_eq
      rw [scheduledRate, if_pos (by omega)] at hnow
      rw [scheduledRate, if_pos (by omega)]
      exact hnow
    · have hnew := h.newBurnRate_eq (by omega) (by omega)
      have hroom : q.newBurnRate ≤ q.limit.value := by
        rw [hnew, h.limit_eq]
        exact scheduledRate_le hle
      exact ⟨_, checkedCompute_increasing hrate (by omega) (by omega) hden hroom, h.limit_eq,
        htickIncreasing, htickLimit, h.numerator_eq, h.denominator_eq, hnew⟩

theorem mode_eq_limit (h : OnSchedule c limit toIncreasing toLimit k q)
    (horder : toIncreasing.toNat ≤ toLimit.toNat) : q.mode = .limit ↔ toLimit.toNat ≤ k := by
  have hincreasing := h.increasing_eq
  have hlimit := h.toLimit_eq
  have hzero : ∀ n : UInt32, n = 0 ↔ n.toNat = 0 := fun n => by
    rw [← UInt32.toNat_inj, UInt32.toNat_zero]
  unfold mode
  by_cases h₁ : q.dzEpochsToIncreasing = 0
  · by_cases h₂ : q.dzEpochsToLimit = 0
    · have h₂' := (hzero _).1 h₂
      rw [if_neg (not_not.2 h₁), if_neg (not_not.2 h₂)]
      simp only [true_iff]
      omega
    · have h₂' := mt (hzero _).2 h₂
      rw [if_neg (not_not.2 h₁), if_pos h₂]
      simp only [reduceCtorEq, false_iff]
      omega
  · have h₁' := mt (hzero _).2 h₁
    rw [if_pos h₁]
    simp only [reduceCtorEq, false_iff]
    omega

/-- At the limit nothing changes any more. -/
theorem fixed {q' : CommunityBurnRateParameters}
    (h : OnSchedule c limit toIncreasing toLimit k q)
    (h' : OnSchedule c limit toIncreasing toLimit (k + 1) q')
    (hcompute : q.checkedCompute = some (q.cachedNextBurnRate, q')) (hc : 1 ≤ c.value)
    (hle : c.value ≤ limit.value) (horder : toIncreasing.toNat ≤ toLimit.toNat)
    (hk : toLimit.toNat ≤ k) : q' = q := by
  have hlimit := h.toLimit_eq
  have hlast := checkedCompute_limit (h.rate_ne_min hc hle) (by omega)
  cases hcompute.symm.trans hlast
  have hzeroLimit : q.dzEpochsToLimit = 0 := UInt32.toNat_inj.1 (by rw [hlimit]; simp; omega)
  have hzeroIncreasing : q.dzEpochsToIncreasing = 0 :=
    UInt32.toNat_inj.1 (by rw [h.increasing_eq]; simp; omega)
  have hrate : q.cachedNextBurnRate = q.limit := by
    apply UnitShare.value_injective
    rw [h.rate_eq, scheduledRate_limit (by omega) horder, h.limit_eq]
  obtain ⟨_, _, _, _, _, _⟩ := q
  simp_all [tick]

end OnSchedule

/-- The parameters stay on the schedule however many rates are computed. -/
theorem Updated.afterComputes_eq (h : Updated p limit toIncreasing toLimit q)
    (hc : 1 ≤ p.cachedNextBurnRate.value) (k : Nat) : ∃ q', q.afterComputes k = some q' ∧
      OnSchedule p.cachedNextBurnRate limit toIncreasing toLimit k q' := by
  induction k with
  | zero => exact ⟨q, rfl, h.onSchedule⟩
  | succ k ih =>
    obtain ⟨q₁, hq₁, hon⟩ := ih
    obtain ⟨q₂, hcompute, hon₂⟩ := hon.step hc h.rate_le h.order
    refine ⟨q₂, ?_, hon₂⟩
    rw [afterComputes, hq₁, Option.bind_some, hcompute]
    rfl

/-- `new` is an update of fresh parameters. -/
theorem new_eq_some {rate : BurnRate} : new rate limit toIncreasing toLimit = some q ↔
    rate ≠ UnitShare.MIN ∧ checkedUpdate { (default : CommunityBurnRateParameters) with
      cachedNextBurnRate := rate } limit toIncreasing toLimit = some q := by
  unfold new
  split
  · next h => simp [h]
  · next h => simp [h]

theorem burn_rate_closed_form (hc : 0 < p.cachedNextBurnRate.value)
    (hupdate : p.checkedUpdate limit toIncreasing toLimit = some q) (k : Nat) :
    ∃ (before after : CommunityBurnRateParameters) (rate : BurnRate),
      q.afterComputes k = some before ∧ q.afterComputes (k + 1) = some after ∧
      before.checkedCompute = some (rate, after) ∧
      rate.value = scheduledRate p.cachedNextBurnRate.value limit.value toIncreasing.toNat
        toLimit.toNat (k + 1) ∧
      -- On the slope the cached rate is the one computed, not the limit it is held to.
      (toIncreasing.toNat ≤ k + 1 → k + 1 < toLimit.toNat →
        after.cachedNextBurnRate.value = before.newBurnRate ∧
        before.newBurnRate ≤ before.limit.value) ∧
      (before.mode = .limit ↔ toLimit.toNat ≤ k) ∧ (toLimit.toNat ≤ k → after = before) := by
  have hu := checkedUpdate_ok hupdate
  obtain ⟨before, hbefore, hon⟩ := hu.afterComputes_eq hc k
  obtain ⟨after, hcompute, hon'⟩ := hon.step hc hu.rate_le hu.order
  have hafter : q.afterComputes (k + 1) = some after := by
    rw [afterComputes, hbefore, Option.bind_some, hcompute]
    rfl
  refine ⟨before, after, before.cachedNextBurnRate, hbefore, hafter, hcompute, hon.rate_eq,
    fun hstart hend => ?_, hon.mode_eq_limit hu.order,
    hon.fixed hon' hcompute hc hu.rate_le hu.order⟩
  have hnew := hon.newBurnRate_eq hstart hend
  refine ⟨hon'.rate_eq.trans hnew.symm, ?_⟩
  rw [hnew, hon.limit_eq]
  exact scheduledRate_le hu.rate_le

/-- From 10% to 50%: static for one epoch, at the limit after 20. The fourth rate is 16%. -/
theorem burn_rate_closed_form_fourth : ∃ (q : CommunityBurnRateParameters)
    (before after : CommunityBurnRateParameters) (rate : BurnRate),
    new ⟨100000000, by decide⟩ ⟨500000000, by decide⟩ 1 20 = some q ∧
      q.afterComputes 3 = some before ∧ before.checkedCompute = some (rate, after) ∧
      rate.value = 160000000 := by
  have hsome : (new ⟨100000000, by decide⟩ ⟨500000000, by decide⟩ 1 20).isSome = true := by decide
  obtain ⟨q, hq⟩ := Option.isSome_iff_exists.1 hsome
  obtain ⟨-, hupdate⟩ := new_eq_some.1 hq
  obtain ⟨before, after, rate, hbefore, -, hcompute, hrate, -⟩ :=
    burn_rate_closed_form (by decide) hupdate 3
  exact ⟨q, before, after, rate, hq, hbefore, hcompute, hrate⟩

end

end CommunityBurnRateParameters

end DoubleZero.Revenue
