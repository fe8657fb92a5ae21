import DoubleZero.Revenue.Invariant.Epochs
import DoubleZero.Revenue.Replay

/-!
# The community burn rate

The schedule of the burn rate caches a slope that was computed for the rate and the epochs of the
last update. What keeps it below the limit whatever is updated when is that the increments still to
come, each by the floored slope, fit between the cached rate and the limit (`Sound.room`).
-/

namespace DoubleZero.Revenue

open DoubleZero.Lib DoubleZero.Solana

/-! ## One schedule -/

namespace CommunityBurnRateParameters

variable {p p' : CommunityBurnRateParameters}

/-- How many times the schedule will still increase the rate by the slope. -/
def increments (p : CommunityBurnRateParameters) : Nat :=
  p.dzEpochsToLimit.toNat - max p.dzEpochsToIncreasing.toNat 1

/-- The floored slope. -/
def increment (p : CommunityBurnRateParameters) : Nat :=
  p.cachedSlopeNumerator.value / p.cachedSlopeDenominator.toNat

structure Sound (p : CommunityBurnRateParameters) : Prop where
  increasing_le : p.dzEpochsToIncreasing ≤ p.dzEpochsToLimit
  rate_le : p.cachedNextBurnRate.value ≤ p.limit.value
  slope : p.cachedNextBurnRate ≠ UnitShare.MIN → p.cachedSlopeDenominator ≠ 0
  room : p.cachedNextBurnRate.value + p.increments * p.increment ≤ p.limit.value

theorem toNat_ofNat_sub_one (n : UInt32) : (UInt32.ofNat (n.toNat - 1)).toNat = n.toNat - 1 :=
  UInt32.toNat_ofNat_of_lt ((Nat.sub_le _ _).trans_lt n.toNat_lt)

theorem ne_min {rate : BurnRate} : rate ≠ UnitShare.MIN ↔ 1 ≤ rate.value := by
  constructor
  · intro h
    by_contra hlt
    exact h (UnitShare.value_injective (by simp only [UnitShare.MIN]; omega))
  · rintro h rfl
    simp [UnitShare.MIN] at h

theorem Sound.default : Sound Inhabited.default where
  increasing_le := by decide
  rate_le := le_rfl
  slope h := absurd rfl h
  room := by decide

/-- What an update that succeeds has checked, and what it leaves. -/
structure Updated (p : CommunityBurnRateParameters) (limit : BurnRate)
    (toIncreasing toLimit : EpochDuration) (p' : CommunityBurnRateParameters) : Prop where
  rate_le : p.cachedNextBurnRate.value ≤ limit.value
  start : 1 ≤ toIncreasing.toNat
  order : toIncreasing.toNat ≤ toLimit.toNat
  limit_eq : p'.limit = limit
  increasing_eq : p'.dzEpochsToIncreasing = toIncreasing
  toLimit_eq : p'.dzEpochsToLimit = toLimit
  numerator_eq : p'.cachedSlopeNumerator.value = limit.value - p.cachedNextBurnRate.value
  denominator_eq : p'.cachedSlopeDenominator.toNat = toLimit.toNat - toIncreasing.toNat + 1
  rate_eq : p'.cachedNextBurnRate = p.cachedNextBurnRate

theorem checkedUpdate_ok {limit : BurnRate} {toIncreasing toLimit : EpochDuration}
    (h : p.checkedUpdate limit toIncreasing toLimit = some p') :
    Updated p limit toIncreasing toLimit p' := by
  unfold checkedUpdate at h
  split at h
  · cases h
  · next hlimit =>
    split at h
    · cases h
    · next hstart =>
      split at h
      · cases h
      · next horder =>
        cases h
        rw [UInt32.lt_iff_toNat_lt, Nat.not_lt] at horder
        have hone : toIncreasing.toNat ≠ 0 := fun h0 => hstart (UInt32.toNat_inj.1 h0)
        have hmax := toLimit.toNat_lt
        refine ⟨Nat.not_lt.1 hlimit, by omega, horder, rfl, rfl, rfl, rfl, ?_, rfl⟩
        rw [min_eq_left (by omega)]
        exact UInt32.toNat_ofNat_of_lt (by show _ < 2 ^ 32; omega)

/-- An update keeps the cached rate and starts a slope that meets the new limit. -/
theorem checkedUpdate_sound {limit : BurnRate} {toIncreasing toLimit : EpochDuration}
    (h : p.checkedUpdate limit toIncreasing toLimit = some p') :
    p'.Sound ∧ p'.cachedNextBurnRate = p.cachedNextBurnRate := by
  have hu := checkedUpdate_ok h
  have horder := hu.order
  have hstart := hu.start
  have hle := hu.rate_le
  refine ⟨⟨?_, ?_, fun _ hzero => ?_, ?_⟩, hu.rate_eq⟩
  · rw [hu.increasing_eq, hu.toLimit_eq]
    exact UInt32.le_iff_toNat_le.2 horder
  · rw [hu.rate_eq, hu.limit_eq]
    exact hle
  · have hden := hu.denominator_eq
    rw [hzero, UInt32.toNat_zero] at hden
    omega
  · rw [increments, increment, hu.rate_eq, hu.limit_eq, hu.increasing_eq, hu.toLimit_eq,
      hu.numerator_eq, hu.denominator_eq, max_eq_left hstart, Nat.mul_comm]
    have hdiv := Nat.div_mul_le_self (limit.value - p.cachedNextBurnRate.value)
      (toLimit.toNat - toIncreasing.toNat + 1)
    generalize (limit.value - p.cachedNextBurnRate.value) /
      (toLimit.toNat - toIncreasing.toNat + 1) = slope at hdiv ⊢
    rw [Nat.mul_add, Nat.mul_one] at hdiv
    omega

/-- Neither the product nor the sum of `checked_compute` leaves the range of `u64`. -/
theorem scaled_lt (p : CommunityBurnRateParameters) :
    p.cachedNextBurnRate.value * p.cachedSlopeDenominator.toNat + p.cachedSlopeNumerator.value <
      2 ^ 64 := by
  have hrate := p.cachedNextBurnRate.le_max
  have hnum := p.cachedSlopeNumerator.le_max
  have hden := p.cachedSlopeDenominator.toNat_lt
  have hmul : p.cachedNextBurnRate.value * p.cachedSlopeDenominator.toNat ≤
      1000000000 * 2 ^ 32 := Nat.mul_le_mul hrate hden.le
  omega

/-- One epoch less until the rate increases, and until it is at the limit. -/
def tick (p : CommunityBurnRateParameters) : CommunityBurnRateParameters :=
  { p with
    dzEpochsToLimit := UInt32.ofNat (p.dzEpochsToLimit.toNat - 1)
    dzEpochsToIncreasing := UInt32.ofNat (p.dzEpochsToIncreasing.toNat - 1) }

@[simp] theorem toNat_tick_toLimit (p : CommunityBurnRateParameters) :
    p.tick.dzEpochsToLimit.toNat = p.dzEpochsToLimit.toNat - 1 := toNat_ofNat_sub_one _

@[simp] theorem toNat_tick_toIncreasing (p : CommunityBurnRateParameters) :
    p.tick.dzEpochsToIncreasing.toNat = p.dzEpochsToIncreasing.toNat - 1 := toNat_ofNat_sub_one _

theorem tick_eq_zero {n : UInt32} : UInt32.ofNat (n.toNat - 1) = 0 ↔ n.toNat ≤ 1 := by
  rw [← UInt32.toNat_inj, toNat_ofNat_sub_one, UInt32.toNat_zero]
  omega

/-- The last epoch of the schedule: the rate jumps to the limit. -/
theorem checkedCompute_limit (hrate : p.cachedNextBurnRate ≠ UnitShare.MIN)
    (hlast : p.dzEpochsToLimit.toNat ≤ 1) :
    p.checkedCompute =
      some (p.cachedNextBurnRate, { p.tick with cachedNextBurnRate := p.limit }) := by
  simp only [checkedCompute, nextBurnRate, if_neg hrate, Option.bind_eq_bind, Option.bind_some]
  rw [if_pos (tick_eq_zero.2 hlast)]
  rfl

/-- Not yet increasing. -/
theorem checkedCompute_static (hrate : p.cachedNextBurnRate ≠ UnitShare.MIN)
    (hlast : 2 ≤ p.dzEpochsToLimit.toNat) (hstatic : 2 ≤ p.dzEpochsToIncreasing.toNat) :
    p.checkedCompute = some (p.cachedNextBurnRate, p.tick) := by
  simp only [checkedCompute, nextBurnRate, if_neg hrate, Option.bind_eq_bind, Option.bind_some]
  rw [if_neg (mt tick_eq_zero.1 (by omega)), if_neg (mt tick_eq_zero.1 (by omega))]
  rfl

/-- The rate the slope leads to, before it is held to the limit. -/
def newBurnRate (p : CommunityBurnRateParameters) : Nat :=
  (p.cachedNextBurnRate.value * p.cachedSlopeDenominator.toNat + p.cachedSlopeNumerator.value) /
    p.cachedSlopeDenominator.toNat

theorem newBurnRate_eq (hden : p.cachedSlopeDenominator ≠ 0) :
    p.newBurnRate = p.cachedNextBurnRate.value + p.increment := by
  have hpos : p.cachedSlopeDenominator.toNat ≠ 0 := fun h0 => hden (UInt32.toNat_inj.1 h0)
  rw [newBurnRate, increment, Nat.add_comm, Nat.add_mul_div_right _ _ (by omega), Nat.add_comm]

/-- Increasing, with room for the increment. -/
theorem checkedCompute_increasing (hrate : p.cachedNextBurnRate ≠ UnitShare.MIN)
    (hlast : 2 ≤ p.dzEpochsToLimit.toNat) (hincreasing : p.dzEpochsToIncreasing.toNat ≤ 1)
    (hden : p.cachedSlopeDenominator ≠ 0) (hle : p.newBurnRate ≤ p.limit.value) :
    p.checkedCompute = some (p.cachedNextBurnRate,
      { p.tick with cachedNextBurnRate := ⟨p.newBurnRate, hle.trans p.limit.le_max⟩ }) := by
  have hscaled := p.scaled_lt
  have hnew : (UnitShare.new ((p.cachedNextBurnRate.value * p.cachedSlopeDenominator.toNat +
      p.cachedSlopeNumerator.value) / p.cachedSlopeDenominator.toNat) : Option BurnRate) =
      some ⟨p.newBurnRate, hle.trans p.limit.le_max⟩ := UnitShare.new_eq_some.2 rfl
  simp only [checkedCompute, nextBurnRate, if_neg hrate, Option.bind_eq_bind, Option.bind_some]
  rw [if_neg (mt tick_eq_zero.1 (by omega)), if_pos (tick_eq_zero.2 hincreasing),
    min_eq_left (by omega), if_pos ⟨hscaled, hden⟩]
  simp only [Option.bind_some, hnew, UnitShare.min, if_pos hle]
  rfl

/-- With a rate to start from there is always a next rate. It is at least as high, and within the
same limit. -/
theorem checkedCompute_sound (h : p.Sound) (hrate : p.cachedNextBurnRate ≠ UnitShare.MIN) :
    ∃ p', p.checkedCompute = some (p.cachedNextBurnRate, p') ∧ p'.Sound ∧
      p'.limit = p.limit ∧ p.cachedNextBurnRate.value ≤ p'.cachedNextBurnRate.value := by
  have hden := h.slope hrate
  have horder := UInt32.le_iff_toNat_le.1 h.increasing_le
  have horder' : p.tick.dzEpochsToIncreasing ≤ p.tick.dzEpochsToLimit := by
    rw [UInt32.le_iff_toNat_le, toNat_tick_toIncreasing, toNat_tick_toLimit]
    omega
  have hroom := h.room
  by_cases hlast : p.dzEpochsToLimit.toNat ≤ 1
  · refine ⟨_, checkedCompute_limit hrate hlast, ⟨horder', le_rfl, fun _ => hden, ?_⟩, rfl,
      h.rate_le⟩
    have hnone : increments { p.tick with cachedNextBurnRate := p.limit } = 0 := by
      simp only [increments, toNat_tick_toLimit]
      omega
    rw [hnone, Nat.zero_mul, Nat.add_zero]
    exact le_rfl
  · by_cases hstatic : 2 ≤ p.dzEpochsToIncreasing.toNat
    · refine ⟨_, checkedCompute_static hrate (by omega) hstatic,
        ⟨horder', h.rate_le, h.slope, ?_⟩, rfl, le_rfl⟩
      have hsame : p.tick.increments = p.increments := by
        simp only [increments, toNat_tick_toLimit, toNat_tick_toIncreasing]
        omega
      rw [hsame]
      exact hroom
    · -- The increment just taken is one of those there was room for.
      have hcount : p.increments = p.dzEpochsToLimit.toNat - 2 + 1 := by
        unfold increments
        omega
      rw [hcount, Nat.add_mul, Nat.one_mul] at hroom
      have hnew := newBurnRate_eq hden
      have hle : p.newBurnRate ≤ p.limit.value := by
        rw [hnew]
        omega
      refine ⟨_, checkedCompute_increasing hrate (by omega) (by omega) hden hle,
        ⟨horder', hle, fun _ => hden, ?_⟩, rfl, ?_⟩
      · have hrest : increments { p.tick with
            cachedNextBurnRate := ⟨p.newBurnRate, hle.trans p.limit.le_max⟩ } =
            p.dzEpochsToLimit.toNat - 2 := by
          simp only [increments, toNat_tick_toLimit, toNat_tick_toIncreasing]
          omega
        rw [hrest]
        show p.newBurnRate + (p.dzEpochsToLimit.toNat - 2) * p.increment ≤ p.limit.value
        rw [hnew]
        omega
      · show p.cachedNextBurnRate.value ≤ p.newBurnRate
        rw [hnew]
        exact Nat.le_add_right _ _

end CommunityBurnRateParameters

/-! ## Along a run -/

section

variable {rt : Runtime} {call : Call} {b b' b₀ : Books} {h : List (Entry Books Label)} {l : Label}

/-- A new schedule from the config that is there, or the first one. -/
def ProgramConfig.Reschedules (c : ProgramConfig) (p : CommunityBurnRateParameters) : Prop :=
  p = c.burnRate ∨
    (c.nextCompletedDzEpoch = 0 ∧ ∃ initialRate limit toIncreasing toLimit,
      CommunityBurnRateParameters.new initialRate limit toIncreasing toLimit = some p) ∨
    ∃ limit toIncreasing toLimit, c.burnRate.checkedUpdate limit toIncreasing toLimit = some p

theorem ConfigEffect.schedule (he : ConfigEffect rt call b b') :
    (b.config.Reschedules b'.config.burnRate ∧ b.SameDists b') ∨
      (call.data = .initializeDistribution ∧ ∃ c crem d j prepaid,
        b.entry .config = some (.programConfig c, crem) ∧ Initialized rt c j prepaid d ∧
        b.DistUpdated b' d [] ∧
        c.burnRate.checkedCompute = some (d.communityBurnRate, b'.config.burnRate)) := by
  cases he with
  | kept config dists =>
    rw [Books.config_congr config]
    exact .inl ⟨.inl rfl, dists⟩
  | create new config dists =>
    have hblank : b.config = default := by rw [Books.config, new]
    rw [Books.config_eq config, hblank]
    exact .inl ⟨.inl rfl, dists⟩
  | setAdmin old config dists =>
    rw [Books.config_eq config, Books.config_eq old]
    exact .inl ⟨.inl rfl, dists⟩
  | configure data old configured config dists =>
    rw [Books.config_eq config, Books.config_eq old]
    exact .inl ⟨(tryConfigure_ok configured).2.burnRate, dists⟩
  | swapDestination old config dists =>
    rw [Books.config_eq config, Books.config_eq old]
    exact .inl ⟨.inl rfl, dists⟩
  | @advance c c' crem j prepaid d data old new advanced initialized config updated =>
    rw [Books.config_eq config]
    exact .inr ⟨data, c, crem, d, j, prepaid, old, initialized, updated, advanced.computed⟩

theorem DistStep.communityBurnRate_eq {a : DistAction} {s s' : DistState}
    (hstep : DistStep rt a s s') : s'.1.communityBurnRate = s.1.communityBurnRate := by
  cases hstep <;> rfl

/-- With the same distributions around, each comes from the one of its epoch. -/
theorem BookStep.sameRate (hs : BookStep rt l b b') (hsame : b.SameDists b') {d : Distribution}
    {rem : List (BitVec 8)} (hd : b'.HasDist d rem) :
    ∃ d₀ rem₀, b.HasDist d₀ rem₀ ∧ d₀.dzEpoch = d.dzEpoch ∧
      d.communityBurnRate = d₀.communityBurnRate := by
  obtain ⟨acts, n, he, -⟩ := hs.effect
  rcases he.dists.origin hd with ⟨-, hnone, -⟩ | ⟨d₀, rem₀, hold, hepoch, hmoves⟩
  · have := (hsame _).2 hnone
    rw [show b'.entry (.distribution d.dzEpoch) = _ from hd] at this
    cases this
  · exact ⟨d₀, rem₀, hold, hepoch, hmoves.preserves
      (P := fun t => t.1.communityBurnRate = d₀.communityBurnRate)
      (fun hp hstep => hstep.communityBurnRate_eq.trans hp) rfl⟩

/-- The schedule is sound, and the distributions hold the rates it gave out, none above the next. -/
structure Scheduled (b : Books) : Prop where
  sound : b.config.burnRate.Sound
  positive : ∀ {d rem}, b.HasDist d rem → 1 ≤ d.communityBurnRate.value
  le_next : ∀ {d rem}, b.HasDist d rem →
    d.communityBurnRate.value ≤ b.config.burnRate.cachedNextBurnRate.value
  ordered : ∀ {d d' rem rem'}, b.HasDist d rem → b.HasDist d' rem' → d.dzEpoch ≤ d'.dzEpoch →
    d.communityBurnRate.value ≤ d'.communityBurnRate.value

theorem Scheduled.same (hsch : Scheduled b) (hs : BookStep rt l b b') (hsame : b.SameDists b')
    (hsound : b'.config.burnRate.Sound)
    (hnext : ∀ {d rem}, b.HasDist d rem → b.config.burnRate.cachedNextBurnRate.value ≤
      b'.config.burnRate.cachedNextBurnRate.value) : Scheduled b' := by
  refine ⟨hsound, ?_, ?_, ?_⟩
  · intro d rem hd
    obtain ⟨d₀, rem₀, hd₀, -, hrate⟩ := hs.sameRate hsame hd
    rw [hrate]
    exact hsch.positive hd₀
  · intro d rem hd
    obtain ⟨d₀, rem₀, hd₀, -, hrate⟩ := hs.sameRate hsame hd
    rw [hrate]
    exact (hsch.le_next hd₀).trans (hnext hd₀)
  · intro d d' rem rem' hd hd' hle
    obtain ⟨d₀, rem₀, hd₀, he, hrate⟩ := hs.sameRate hsame hd
    obtain ⟨d₀', rem₀', hd₀', he', hrate'⟩ := hs.sameRate hsame hd'
    rw [hrate, hrate']
    exact hsch.ordered hd₀ hd₀' (by rw [he, he']; exact hle)

/-- What a computed rate is, read backwards. -/
theorem CommunityBurnRateParameters.Sound.computed {p p' : CommunityBurnRateParameters}
    {rate : BurnRate} (hp : p.Sound) (h : p.checkedCompute = some (rate, p')) :
    p'.Sound ∧ 1 ≤ rate.value ∧ rate.value ≤ p.limit.value ∧
      rate.value = p.cachedNextBurnRate.value ∧ rate.value ≤ p'.cachedNextBurnRate.value := by
  have hne : p.cachedNextBurnRate ≠ UnitShare.MIN := by
    intro hmin
    rw [checkedCompute, nextBurnRate, if_pos hmin] at h
    cases h
  obtain ⟨p₁, h₁, hsound, -, hle⟩ := checkedCompute_sound hp hne
  cases h₁.symm.trans h
  exact ⟨hsound, ne_min.1 hne, hp.rate_le, rfl, hle⟩

theorem Scheduled.step (hsch : Scheduled b) (hep : Epochs b) (hs : BookStep rt l b b') :
    Scheduled b' := by
  cases hs with
  | outside hforeign =>
    have hconfig : b'.config = b.config := Books.config_congr (by rw [hforeign.entry_eq])
    refine hsch.same (.outside hforeign)
      (.of_eq fun _ => by rw [hforeign.entry_eq]) ?_ ?_
    · rw [hconfig]
      exact hsch.sound
    · intro _ _ _
      rw [hconfig]
  | call ht =>
    rcases ht.configEffect.schedule with
      ⟨hre, hsame⟩ | ⟨-, c, crem, d, j, prepaid, hc, hinit, hup, hcomputed⟩
    · rcases hre with heq | ⟨hzero, rate, limit, i, t, hnew⟩ | ⟨limit, i, t, hupdate⟩
      · refine hsch.same (.call ht) hsame (by rw [heq]; exact hsch.sound) ?_
        intro _ _ _
        rw [heq]
      · -- The first schedule comes before the first distribution.
        have hnone : ∀ {d rem}, ¬b.HasDist d rem := by
          intro d rem hd
          have hlt := (hep.exists_iff d.dzEpoch).1 (by
            rw [show b.entry (.distribution d.dzEpoch) = _ from hd]; simp)
          rw [hzero] at hlt
          exact absurd hlt UInt64.not_lt_zero
        unfold CommunityBurnRateParameters.new at hnew
        split at hnew
        · cases hnew
        · exact hsch.same (.call ht) hsame
            (CommunityBurnRateParameters.checkedUpdate_sound hnew).1 fun hd => absurd hd hnone
      · obtain ⟨hsound, hcached⟩ := CommunityBurnRateParameters.checkedUpdate_sound hupdate
        refine hsch.same (.call ht) hsame hsound ?_
        intro _ _ _
        rw [hcached]
    · rw [← Books.config_eq hc] at hcomputed
      obtain ⟨hsound, hone, -, hrate, hle⟩ := hsch.sound.computed hcomputed
      have hepoch : d.dzEpoch = b.config.nextCompletedDzEpoch := by
        rw [hinit.dzEpoch_eq, Books.config_eq hc]
      have hother : ∀ {d₁ rem₁}, b.HasDist d₁ rem₁ → d₁.dzEpoch < d.dzEpoch := by
        intro d₁ rem₁ hd₁
        rw [hepoch]
        exact (hep.exists_iff _).1 (by
          rw [show b.entry (.distribution d₁.dzEpoch) = _ from hd₁]; simp)
      refine ⟨hsound, ?_, ?_, ?_⟩
      · intro d₁ rem₁ hd₁
        rcases hup.of_has hd₁ with ⟨rfl, -⟩ | ⟨-, hold⟩
        · exact hone
        · exact hsch.positive hold
      · intro d₁ rem₁ hd₁
        rcases hup.of_has hd₁ with ⟨rfl, -⟩ | ⟨-, hold⟩
        · exact hle
        · exact (hsch.le_next hold).trans (hrate ▸ hle)
      · intro d₁ d₂ rem₁ rem₂ hd₁ hd₂ hle₁₂
        rcases hup.of_has hd₁ with ⟨rfl, -⟩ | ⟨-, hold₁⟩
        · rcases hup.of_has hd₂ with ⟨rfl, -⟩ | ⟨-, hold₂⟩
          · exact le_rfl
          · exact absurd (hother hold₂) (UInt64.not_lt.2 hle₁₂)
        · rcases hup.of_has hd₂ with ⟨rfl, -⟩ | ⟨-, hold₂⟩
          · rw [hrate]
            exact hsch.le_next hold₁
          · exact hsch.ordered hold₁ hold₂ hle₁₂

theorem BooksRun.scheduled (hrun : BooksRun rt b₀ h b) (hempty : b₀.Empty) : Scheduled b := by
  refine hrun.history (P := fun _ b => Scheduled b) ?_ fun hr hsch hs =>
    hsch.step (BooksRun.epochs hr hempty) hs
  have hnone : ∀ {d rem}, ¬b₀.HasDist d rem := by
    intro d rem hd
    simp [Books.HasDist, hempty _] at hd
  refine ⟨?_, fun hd => absurd hd hnone, fun hd => absurd hd hnone, fun hd => absurd hd hnone⟩
  rw [Books.config, hempty]
  exact CommunityBurnRateParameters.Sound.default

/-- Some step of the run created the distribution of an epoch, with the rate that was next in the
config at that time. -/
def Dated (h : List (Entry Books Label)) (e : DoubleZeroEpoch) (rate : BurnRate) : Prop :=
  ∃ x ∈ h, ∃ call c crem, x.label = .call call ∧ call.data = .initializeDistribution ∧
    x.before.entry .config = some (.programConfig c, crem) ∧ c.nextCompletedDzEpoch = e ∧
    rate.value ≤ c.burnRate.limit.value

theorem BooksRun.dated (hrun : BooksRun rt b₀ h b) (hempty : b₀.Empty) {d : Distribution}
    {rem : List (BitVec 8)} (hd : b.HasDist d rem) : Dated h d.dzEpoch d.communityBurnRate := by
  induction hrun generalizing d rem with
  | start => simp [Books.HasDist, hempty _] at hd
  | @next h b₁ b₂ l hr hs ih =>
    have hsame : ∀ {d₀ rem₀}, b₁.HasDist d₀ rem₀ → d₀.dzEpoch = d.dzEpoch →
        d.communityBurnRate = d₀.communityBurnRate →
        Dated (⟨b₁, l, b₂⟩ :: h) d.dzEpoch d.communityBurnRate := by
      intro d₀ rem₀ hd₀ hepoch hrate
      obtain ⟨x, hx, hrest⟩ := ih hd₀
      rw [hepoch, ← hrate] at hrest
      exact ⟨x, List.mem_cons_of_mem _ hx, hrest⟩
    cases hs with
    | outside hforeign =>
      have hbefore : b₁.HasDist d rem := by
        rw [Books.HasDist, ← hforeign.entry_eq]
        exact hd
      exact hsame hbefore rfl rfl
    | @call call _ _ ht =>
      rcases ht.configEffect.schedule with
        ⟨-, hdists⟩ | ⟨hdata, c, crem, d₁, j, prepaid, hc, hinit, hup, hcomputed⟩
      · obtain ⟨d₀, rem₀, hd₀, hepoch, hrate⟩ := BookStep.sameRate (.call ht) hdists hd
        exact hsame hd₀ hepoch hrate
      · rcases hup.of_has hd with ⟨rfl, -⟩ | ⟨-, hold⟩
        · have hsound := (BooksRun.scheduled hr hempty).sound
          rw [Books.config_eq hc] at hsound
          obtain ⟨-, -, hlimit, -⟩ := hsound.computed hcomputed
          exact ⟨_, List.mem_cons_self, call, c, crem, rfl, hdata, hc, hinit.dzEpoch_eq.symm, hlimit⟩
        · exact hsame hold rfl rfl

end

theorem community_burn_rate_rises {rt : Runtime} {L₀ L : RevenueLedger} {h : History}
    (hg : Genesis rt L₀) (hrun : LedgerRun rt L₀ h L) :
    (∀ (k k' : Pubkey) (d d' : Distribution) (rem rem' : List (BitVec 8)),
      view ID L k = some (d, rem) → view ID L k' = some (d', rem') → d.dzEpoch ≤ d'.dzEpoch →
        d.communityBurnRate.value ≤ d'.communityBurnRate.value) ∧
      (∀ (k : Pubkey) (d : Distribution) (rem : List (BitVec 8)), view ID L k = some (d, rem) →
        1 ≤ d.communityBurnRate.value ∧
        ∃ x ∈ h, ∃ (call : Call) (kc : Pubkey) (c : ProgramConfig) (crem : List (BitVec 8)),
          x.label = .call call ∧ call.data = .initializeDistribution ∧
          view ID x.before kc = some (c, crem) ∧ c.nextCompletedDzEpoch = d.dzEpoch ∧
          d.communityBurnRate.value ≤ c.burnRate.limit.value ∧
          c.burnRate.limit.value ≤ 1000000000) ∧
      ∀ (k : Pubkey) (c : ProgramConfig) (rem : List (BitVec 8)), view ID L k = some (c, rem) →
        c.burnRate.dzEpochsToIncreasing ≤ c.burnRate.dzEpochsToLimit ∧
        c.burnRate.cachedNextBurnRate.value ≤ c.burnRate.limit.value ∧
        ∀ rate, c.burnRate.nextBurnRate = some rate →
          (∃ p, c.burnRate.checkedCompute = some (rate, p)) ∧
          c.burnRate.cachedSlopeDenominator ≠ 0 ∧
          c.burnRate.cachedNextBurnRate.value * c.burnRate.cachedSlopeDenominator.toNat +
            c.burnRate.cachedSlopeNumerator.value < 2 ^ 64 := by
  obtain ⟨hc, hbooks⟩ := hrun.books hg
  have hsch := hbooks.scheduled hg.books_empty
  refine ⟨fun k k' d d' rem rem' hd hd' hle => ?_, fun k d rem hd => ?_, fun k c rem hv => ?_⟩
  · have has : (books rt L).HasDist d rem := (hc.of_view hd).2.1
    have has' : (books rt L).HasDist d' rem' := (hc.of_view hd').2.1
    exact hsch.ordered has has' hle
  · have has : (books rt L).HasDist d rem := (hc.of_view hd).2.1
    refine ⟨hsch.positive has, ?_⟩
    obtain ⟨x, hx, call, c, crem, hlabel, hdata, hconfig, hepoch, hlimit⟩ :=
      hbooks.dated hg.books_empty has
    obtain ⟨y, hy, rfl⟩ := List.mem_map.1 hx
    exact ⟨y, hy, call, _, c, crem, hlabel, hdata, view_eq_stateAt.2 hconfig, hepoch, hlimit,
      c.burnRate.limit.le_max⟩
  · have hsound := hsch.sound
    rw [Books.config_eq (hc.of_view hv).2.1] at hsound
    refine ⟨hsound.increasing_le, hsound.rate_le, fun rate hrate => ?_⟩
    have hne : c.burnRate.cachedNextBurnRate ≠ UnitShare.MIN := by
      intro hmin
      rw [CommunityBurnRateParameters.nextBurnRate, if_pos hmin] at hrate
      cases hrate
    rw [CommunityBurnRateParameters.nextBurnRate, if_neg hne, Option.some.injEq] at hrate
    obtain ⟨p, hp, -⟩ := CommunityBurnRateParameters.checkedCompute_sound hsound hne
    exact ⟨⟨p, hrate ▸ hp⟩, hsound.slope hne, c.burnRate.scaled_lt⟩

/-- The first epoch burns at the configured rate, and the second at a higher one. -/
theorem community_burn_rate_rises_epoch :
    ∃ (h : History) (L : RevenueLedger) (d d' : Distribution) (rem rem' : List (BitVec 8)),
      LedgerRun (Sample.runtime [] []) (Sample.genesis 1000 0) h L ∧
      view ID L Sample.distribution = some (d, rem) ∧ d.communityBurnRate.value = 100000000 ∧
      view ID L (Sample.numberedDistribution 1) = some (d', rem') ∧
      d'.communityBurnRate.value = 120000000 ∧
      d.communityBurnRate.value ≤ d'.communityBurnRate.value ∧
      ∃ x ∈ h, ∃ (call : Call) (kc : Pubkey) (c : ProgramConfig) (crem : List (BitVec 8)),
        x.label = .call call ∧ call.data = .initializeDistribution ∧
        view ID x.before kc = some (c, crem) ∧ c.nextCompletedDzEpoch = d'.dzEpoch ∧
        d'.communityBurnRate.value ≤ c.burnRate.limit.value := by
  obtain ⟨h, L, hrun, -, hP⟩ := Sample.exists_run_of_replay [] [] 1000 0
    (Sample.opening ++ [Sample.openEpoch, Sample.openNumbered 1])
    (P := fun _ L => (view (T := Distribution) ID L Sample.distribution).any (fun x =>
        x.1.dzEpoch = 0 ∧ x.1.communityBurnRate.value = 100000000) ∧
      (view (T := Distribution) ID L (Sample.numberedDistribution 1)).any fun x =>
        x.1.dzEpoch = 1 ∧ x.1.communityBurnRate.value = 120000000)
    (by decide +kernel) (by decide +kernel)
  obtain ⟨hfirst, hsecond⟩ := of_decide_eq_true hP
  obtain ⟨⟨d, rem⟩, hd, hfacts⟩ := (Option.any_eq_true _ _).1 hfirst
  obtain ⟨⟨d', rem'⟩, hd', hfacts'⟩ := (Option.any_eq_true _ _).1 hsecond
  obtain ⟨hepoch, hrate⟩ := of_decide_eq_true hfacts
  obtain ⟨hepoch', hrate'⟩ := of_decide_eq_true hfacts'
  have hle : d.dzEpoch ≤ d'.dzEpoch := by
    simp only at hepoch hepoch'
    rw [hepoch, hepoch']
    decide
  obtain ⟨hrises, hrates, -⟩ := community_burn_rate_rises (Sample.genesis_unused 1000 0) hrun
  obtain ⟨-, x, hx, call, kc, c, crem, hlabel, hdata, hc, hnext, hlimit, -⟩ := hrates _ d' rem' hd'
  exact ⟨h, L, d, d', rem, rem', hrun, hd, hrate, hd', hrate', hrises _ _ d d' rem rem' hd hd' hle,
    x, hx, call, kc, c, crem, hlabel, hdata, hc, hnext, hlimit⟩

end DoubleZero.Revenue
