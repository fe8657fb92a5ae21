import DoubleZero.Revenue.Invariant.Run

/-!
# Epochs come in order

`ConfigEffect` sorts the transitions by what they do to the program config; only
`InitializeDistribution` advances its epoch, and with it a distribution comes into being. `Epochs`
is the invariant that keeps the two counters, the existing distributions and their flags together.

The epoch counter saturates, but never gets there: each new distribution needs a later timestamp
than the last, and timestamps have 32 bits.
-/

namespace DoubleZero.Revenue

open DoubleZero.Lib DoubleZero.Solana

/-! ## What a transition does to the config -/

/-- The config, or a blank one before there is one. -/
def Books.config (b : Books) : ProgramConfig :=
  match b.entry .config with
  | some (.programConfig c, _) => c
  | _ => default

/-- The same distributions exist. -/
def Books.SameDists (b b' : Books) : Prop :=
  ∀ e, b'.entry (.distribution e) = none ↔ b.entry (.distribution e) = none

inductive ConfigEffect (rt : Runtime) (call : Call) (b b' : Books) : Prop
  | kept (config : b'.entry .config = b.entry .config) (dists : b.SameDists b')
  | create {rem : List (BitVec 8)} (new : b.entry .config = none)
      (config : b'.entry .config = some (.programConfig (ProgramConfig.initial rt), rem))
      (dists : b.SameDists b')
  | setAdmin {c : ProgramConfig} {rem : List (BitVec 8)} {adminKey : Pubkey}
      (old : b.entry .config = some (.programConfig c, rem))
      (config : b'.entry .config = some (.programConfig { c with adminKey := adminKey }, rem))
      (dists : b.SameDists b')
  | configure {c c' : ProgramConfig} {rem : List (BitVec 8)} {setting : ProgramConfiguration}
      {s : Exec AccountState} (data : call.data = .configureProgram setting)
      (old : b.entry .config = some (.programConfig c, rem))
      (configured : c.tryConfigure rt setting s = .ok (c', s))
      (config : b'.entry .config = some (.programConfig c', rem)) (dists : b.SameDists b')
  | swapDestination {c : ProgramConfig} {rem : List (BitVec 8)}
      (old : b.entry .config = some (.programConfig c, rem))
      (config : b'.entry .config = some (.programConfig { c with
        swapAuthorityBumpSeed := rt.findSwapAuthorityAddress.2
        swapDestination2zBumpSeed := (rt.find2zTokenPdaAddress rt.findSwapAuthorityAddress.1).2 },
        rem))
      (dists : b.SameDists b') (data : call.data = .initializeSwapDestination)
  | advance {c c' : ProgramConfig} {crem : List (BitVec 8)} {j : Journal} {prepaid : UInt64}
      {d : Distribution} (data : call.data = .initializeDistribution)
      (old : b.entry .config = some (.programConfig c, crem))
      (new : b.entry (.distribution d.dzEpoch) = none)
      (advanced : Advanced call.env.unixTimestamp c c' d.communityBurnRate)
      (initialized : Initialized rt c j prepaid d)
      (config : b'.entry .config = some (.programConfig c', crem))
      (updated : b.DistUpdated b' d [])

section

variable {rt : Runtime} {call : Call} {b b' b₀ : Books} {h : List (Entry Books Label)}

theorem Books.config_eq {c : ProgramConfig} {rem : List (BitVec 8)}
    (he : b.entry .config = some (.programConfig c, rem)) : b.config = c := by
  unfold config
  rw [he]

theorem Books.config_congr (he : b'.entry .config = b.entry .config) : b'.config = b.config := by
  unfold config
  rw [he]

@[simp] theorem Books.setDist_config (b : Books) (d : Distribution) (rem : List (BitVec 8)) :
    (b.setDist d rem).entry .config = b.entry .config :=
  Books.set_entry_of_ne _ _ _ (by simp)

theorem Books.SameDists.of_eq
    (he : ∀ e, b'.entry (.distribution e) = b.entry (.distribution e)) : b.SameDists b' := by
  intro e
  rw [he]

/-- A step of a distribution that exists. -/
theorem Books.HasDist.sameDists {a : DistAction} {d d' : Distribution}
    {rem rem' : List (BitVec 8)} (has : b.HasDist d rem)
    (step : DistStep rt a (d, rem) (d', rem')) (hup : b.DistUpdated b' d' rem') :
    b.SameDists b' := by
  intro e
  have hepoch : d'.dzEpoch = d.dzEpoch := step.fixed.1
  rw [hup e, hepoch]
  split
  · next he =>
    subst he
    rw [show b.entry (.distribution d.dzEpoch) = _ from has]
    simp
  · rfl

theorem Books.HasDist.sameDists_setDist {a : DistAction} {d d' : Distribution}
    {rem rem' : List (BitVec 8)} {b₁ : Books} (has : b.HasDist d rem)
    (step : DistStep rt a (d, rem) (d', rem')) (he : b₁.entry = b.entry) :
    b.SameDists (b₁.setDist d' rem') := by
  refine has.sameDists step fun e => ?_
  rw [Books.distUpdated_setDist _ _ _ e, he]

/-- One distribution takes a step and the config stays. -/
theorem ConfigEffect.setDist {a : DistAction} {d d' : Distribution} {rem rem' : List (BitVec 8)}
    {b₁ : Books} (has : b.HasDist d rem) (step : DistStep rt a (d, rem) (d', rem'))
    (he : b₁.entry = b.entry) : ConfigEffect rt call b (b₁.setDist d' rem') :=
  .kept (by rw [Books.setDist_config, he]) (has.sameDists_setDist step he)

theorem Transition.configEffect (ht : Transition rt call b b') : ConfigEffect rt call b b' := by
  cases ht with
  | initializeProgram data new funds =>
    exact .create new (Books.set_entry_self _ _ _ _)
      (.of_eq fun _ => Books.set_entry_of_ne _ _ _ (by simp))
  | setAdmin data config =>
    exact .setAdmin config (Books.set_entry_self _ _ _ _)
      (.of_eq fun _ => Books.set_entry_of_ne _ _ _ (by simp))
  | configureProgram data config signed configured =>
    exact .configure data config configured (Books.set_entry_self _ _ _ _)
      (.of_eq fun _ => Books.set_entry_of_ne _ _ _ (by simp))
  | initializeSwapDestination data config funds =>
    refine .swapDestination config ?_ (.of_eq fun _ => ?_) data
    · simp only [Books.setToken_entry, Books.set_entry_self]
    · simp only [Books.setToken_entry, Books.set_entry, reduceCtorEq, if_false]
  | initializeDistribution data config unpaused signed journal new advanced initialized rate_eq funds
      exempt moved =>
    subst rate_eq
    refine .advance data config (initialized.dzEpoch_eq ▸ new) advanced initialized ?_ fun e => ?_
    · rw [Books.setDist_config, moved.entry_eq]
      simp only [Books.setToken_entry, Books.set_entry_self]
    · rw [Books.distUpdated_setDist _ _ _ e, moved.entry_eq]
      simp only [Books.setToken_entry, Books.set_entry, reduceCtorEq, if_false]
  | configureDebt data running signed has allowed charged step => exact .setDist has step rfl
  | finalizeZeroDebt data running signed has allowed step same => exact .setDist has step rfl
  | finalizeDebt data running signed has allowed step paid => exact .setDist has step rfl
  | configureRewards data running signed has allowed step => exact .setDist has step rfl
  | setEconomicBurnRate data valid running signed has step => exact .setDist has step rfl
  | finalizeRewards data running has allowed configured aged step paid room =>
    exact .setDist has step rfl
  | collect data running has integration keyDist keyIntegration invokes foreign delta step =>
    exact .setDist has step foreign.entry_eq
  | enableWriteOff data running activated has keyDist step paid => exact .setDist has step rfl
  | distribute data indexed running has keyDist contributor share recipients split payouts step burn
      relayed =>
    have hentry := relayed.entry_eq.trans burn.entry_eq
    refine .kept ?_ (has.sameDists step fun e => ?_)
    · rw [hentry, Books.setDist_config, payouts.entry_eq]
    · rw [hentry, Books.distUpdated_setDist _ _ _ e, payouts.entry_eq]
  | pay data indexed running has keyDist deposit journal step enough moved =>
    refine .kept ?_ (has.sameDists step fun e => ?_)
    · rw [moved.entry_eq, Books.set_entry_of_ne _ _ _ (by simp), Books.setDist_config]
    · rw [moved.entry_eq, Books.set_entry_of_ne _ _ _ (by simp), Books.distUpdated_setDist _ _ _ e]
  | writeOff data indexed running signed has keyDist keyBook deposit short step written hasBook later
      bookStep =>
    subst written
    refine .kept ?_ fun e => ?_
    · rw [Books.setDist_config, Books.setDist_config, Books.set_entry_of_ne _ _ _ (by simp)]
    · rw [hasBook.sameDists_setDist bookStep rfl e]
      refine (Books.HasDist.sameDists_setDist ?_ step rfl e).trans ?_
      · exact (Books.set_entry_of_ne _ _ _ (by simp)).trans has
      · rw [Books.set_entry_of_ne _ _ _ (by simp)]
  | sweepNothing data running has journal next zero step =>
    refine .kept ?_ (has.sameDists step fun e => ?_)
    · rw [Books.set_entry_of_ne _ _ _ (by simp), Books.setDist_config]
    · rw [Books.set_entry_of_ne _ _ _ (by simp), Books.distUpdated_setDist _ _ _ e]
  | sweep data running has journal next debt nonzero enough invokes foreign transfer step =>
    have hentry := transfer.entry_eq.trans foreign.entry_eq
    refine .kept ?_ (has.sameDists step fun e => ?_)
    · rw [Books.set_entry_of_ne _ _ _ (by simp), Books.setDist_config, hentry]
    · rw [Books.set_entry_of_ne _ _ _ (by simp), Books.distUpdated_setDist _ _ _ e, hentry]
  | migrate data journal migrated =>
    refine .kept ?_ fun e => ?_
    · rcases migrated.entry .config with hsame | ⟨d, -, -, -, hdist, -⟩
      · exact hsame
      · simp at hdist
    · rcases migrated.entry (.distribution e) with hsame | ⟨d, rem, d', rem', -, hold, -, hnew, -⟩
      · rw [hsame]
      · rw [hold, hnew]
        simp
  | withdrawSol data running journal enough moved =>
    refine .kept ?_ (.of_eq fun e => ?_)
    · rw [moved.entry_eq, Books.set_entry_of_ne _ _ _ (by simp)]
    · rw [moved.entry_eq, Books.set_entry_of_ne _ _ _ (by simp)]
  | withdrawDeposit data running deposit amount nonzero authorized moved =>
    exact .kept (by rw [moved.entry_eq]) (.of_eq fun e => by rw [moved.entry_eq])
  | initializeIntegration data config signed new journal counted funds =>
    refine .kept ?_ (.of_eq fun e => ?_)
    · rw [Books.set_entry_of_ne _ _ _ (by simp), Books.set_entry_of_ne _ _ _ (by simp)]
    · rw [Books.set_entry_of_ne _ _ _ (by simp), Books.set_entry_of_ne _ _ _ (by simp)]
  | verify data => exact .kept rfl (.of_eq fun _ => rfl)
  -- The others write one entry, and neither the config nor a distribution.
  | _ =>
    exact .kept (Books.set_entry_of_ne _ _ _ (by simp))
      (.of_eq fun _ => Books.set_entry_of_ne _ _ _ (by simp))

/-- What becomes of the epoch counter. -/
theorem ConfigEffect.epochs (he : ConfigEffect rt call b b') :
    (b'.config.nextCompletedDzEpoch = b.config.nextCompletedDzEpoch ∧
        b'.config.lastInitializedDistributionTimestamp =
          b.config.lastInitializedDistributionTimestamp ∧ b.SameDists b') ∨
      ∃ d j prepaid, Initialized rt b.config j prepaid d ∧ b.DistUpdated b' d [] ∧
        Advanced call.env.unixTimestamp b.config b'.config d.communityBurnRate := by
  cases he with
  | kept config dists =>
    rw [Books.config_congr config]
    exact .inl ⟨rfl, rfl, dists⟩
  | create new config dists =>
    have hblank : b.config = default := by rw [Books.config, new]
    rw [Books.config_eq config, hblank]
    exact .inl ⟨rfl, rfl, dists⟩
  | setAdmin old config dists =>
    rw [Books.config_eq config, Books.config_eq old]
    exact .inl ⟨rfl, rfl, dists⟩
  | configure data old configured config dists =>
    rw [Books.config_eq config, Books.config_eq old]
    obtain ⟨-, hset⟩ := tryConfigure_ok configured
    exact .inl ⟨hset.epoch, hset.timestamp, dists⟩
  | swapDestination old config dists =>
    rw [Books.config_eq config, Books.config_eq old]
    exact .inl ⟨rfl, rfl, dists⟩
  | @advance c c' crem j prepaid d data old new advanced initialized config updated =>
    rw [Books.config_eq config, Books.config_eq old]
    exact .inr ⟨d, j, prepaid, initialized, updated, advanced⟩

/-! ## Swept distributions -/

def DistAction.isSweep : DistAction → Bool
  | .sweep _ _ => true
  | _ => false

/-- The distribution of an epoch has swept. -/
def Books.sweptAt (b : Books) (e : DoubleZeroEpoch) : Bool :=
  (b.distAt e).elim false fun s => s.1.hasSwept2zTokens

theorem DistStep.hasSwept_eq {a : DistAction} {s s' : DistState} (hstep : DistStep rt a s s') :
    s'.1.hasSwept2zTokens = (s.1.hasSwept2zTokens || a.isSweep) := by
  cases hstep with
  | @finalizeZeroDebt d rem _ _ =>
    exact (Distribution.hasSwept2zTokens_setIsDebtCalculationFinalized d true).trans
      (Bool.or_false _).symm
  | @finalizeDebt d rem _ _ _ _ _ =>
    exact (Distribution.hasSwept2zTokens_setIsDebtCalculationFinalized d true).trans
      (Bool.or_false _).symm
  | @finalizeRewards d rem _ _ _ _ =>
    exact (Distribution.hasSwept2zTokens_setIsRewardsCalculationFinalized d true).trans
      (Bool.or_false _).symm
  | @enableWriteOff d rem _ _ _ =>
    exact (Distribution.hasSwept2zTokens_setIsSolanaValidatorDebtWriteOffEnabled d true).trans
      (Bool.or_false _).symm
  | @sweepNothing d rem _ _ _ =>
    exact (Distribution.hasSwept2zTokens_setHasSwept2zTokens d true).trans (Bool.or_true _).symm
  | @sweep d rem _ _ _ _ _ _ =>
    exact (Distribution.hasSwept2zTokens_setHasSwept2zTokens d true).trans (Bool.or_true _).symm
  | _ => exact (Bool.or_false _).symm

theorem Books.DistUpdated.sweptAt {a : DistAction} {d d' : Distribution}
    {rem rem' : List (BitVec 8)} (has : b.HasDist d rem)
    (hstep : DistStep rt a (d, rem) (d', rem')) (hup : b.DistUpdated b' d' rem')
    (e : DoubleZeroEpoch) :
    b'.sweptAt e = (b.sweptAt e || (decide (d.dzEpoch = e) && a.isSweep)) := by
  have hepoch : d'.dzEpoch = d.dzEpoch := hstep.fixed.1
  rw [Books.sweptAt, Books.sweptAt, hup.distAt, hepoch]
  by_cases he : e = d.dzEpoch
  · subst he
    rw [if_pos rfl, has.distAt]
    simpa using hstep.hasSwept_eq
  · rw [if_neg he]
    simp [Ne.symm he]

theorem DistEffect.sweptAt {acts : DistActs} (he : DistEffect rt b b' acts) (e : DoubleZeroEpoch) :
    b'.sweptAt e = (b.sweptAt e || acts.any fun x => decide (x.1 = e) && x.2.isSweep) := by
  cases he with
  | untouched same =>
    rw [Books.sweptAt, Books.distAt_congr (same e)]
    exact (Bool.or_false _).symm
  | @create c j prepaid d jrem journal new initialized updated =>
    rw [List.any_nil, Bool.or_false, Books.sweptAt, Books.sweptAt, updated.distAt]
    split
    · next he =>
      have hnone : b.distAt e = none := by rw [he, Books.distAt, new]
      rw [hnone]
      show d.hasSwept2zTokens = false
      exact initialized.flag_eq
    · rfl
  | step has step updated =>
    rw [updated.sweptAt has step]
    simp
  | writeOff has step updated hasBook bookStep updated' =>
    rw [updated'.sweptAt hasBook bookStep, updated.sweptAt has step]
    simp [DistAction.isSweep]
  | migrate journal migrated =>
    rw [List.any_nil, Bool.or_false, Books.sweptAt, Books.sweptAt]
    rcases migrated.entry (.distribution e) with hsame | ⟨d, rem, d', rem', -, hold, step, hnew, -⟩
    · rw [Books.distAt_congr hsame]
    · rw [Books.distAt, Books.distAt, hold, hnew]
      exact step.hasSwept_eq.trans (Bool.or_false _)

theorem DistEffect.exists_dist {e : DoubleZeroEpoch} {a : DistAction}
    (he : DistEffect rt b b' [(e, a)]) : b.entry (.distribution e) ≠ none := by
  cases he with
  | step has step updated =>
    rw [show b.entry (.distribution _) = _ from has]
    simp

/-! ## The invariant -/

structure Epochs (b : Books) : Prop where
  next_le : b.config.nextCompletedDzEpoch.toNat ≤
    b.config.lastInitializedDistributionTimestamp.toNat
  exists_iff : ∀ e, b.entry (.distribution e) ≠ none ↔ e < b.config.nextCompletedDzEpoch
  swept_iff : ∀ e, b.sweptAt e = true ↔ e < b.journal.nextDzEpochToSweepTokens

theorem DoubleZeroEpoch.lt_saturatingAddDuration_one {e n : DoubleZeroEpoch}
    (hn : n.toNat + 1 < 2 ^ 64) :
    e < DoubleZeroEpoch.saturatingAddDuration n 1 ↔ e = n ∨ e < n := by
  have hone : (DoubleZeroEpoch.saturatingAddDuration n 1).toNat = n.toNat + 1 := by
    rw [saturatingAddDuration, toNat_saturatingAdd]
    show min (n.toNat + 1) (2 ^ 64 - 1) = n.toNat + 1
    omega
  rw [UInt64.lt_iff_toNat_lt, UInt64.lt_iff_toNat_lt, hone, ← UInt64.toNat_inj]
  omega

namespace Epochs

theorem next_small (hep : Epochs b) : b.config.nextCompletedDzEpoch.toNat + 1 < 2 ^ 64 := by
  have hle := hep.next_le
  have hlt : b.config.lastInitializedDistributionTimestamp.toNat < 2 ^ 32 := UInt32.toNat_lt _
  omega

/-- Every epoch before the next one to sweep exists, so the next one to sweep is not past the next
one to complete. -/
theorem sweep_le (hep : Epochs b) :
    b.journal.nextDzEpochToSweepTokens ≤ b.config.nextCompletedDzEpoch := by
  by_contra hlt
  have hswept := (hep.swept_iff b.config.nextCompletedDzEpoch).2 (UInt64.not_le.1 hlt)
  have hsome : b.entry (.distribution b.config.nextCompletedDzEpoch) ≠ none := by
    intro hnone
    simp [Books.sweptAt, Books.distAt, hnone] at hswept
  exact absurd ((hep.exists_iff _).1 hsome) (by simp)

/-- The waiting time between two distributions is positive. -/
theorem advanced_lt {c c' : ProgramConfig} {now : Int} {rate : BurnRate}
    (h : Advanced now c c' rate) : c.lastInitializedDistributionTimestamp.toNat <
      c'.lastInitializedDistributionTimestamp.toNat := by
  obtain ⟨grace, hgrace, hwait⟩ := h.waited
  have hpos : 0 < grace.toNat := by
    unfold ProgramConfig.checkedDistributionInitializationGracePeriodSeconds
      ProgramConfig.gracePeriodSeconds at hgrace
    split at hgrace
    · simp at hgrace
    · next hne =>
      cases hgrace
      let minutes := c.distributionParameters.initializationGracePeriodMinutes
      have hmin : 0 < minutes.toNat := Nat.pos_of_ne_zero fun h0 => hne (UInt16.toNat_inj.1 h0)
      have hmax : minutes.toNat < 2 ^ 16 := UInt16.toNat_lt _
      have hnat : (UInt32.ofNat (minutes.toNat * 60)).toNat = minutes.toNat * 60 :=
        UInt32.toNat_ofNat_of_lt (show minutes.toNat * 60 < 2 ^ 32 by omega)
      show 0 < (UInt32.ofNat (minutes.toNat * 60)).toNat
      omega
  have hnow := h.timestamp
  omega

theorem swept_step {acts : DistActs} {n : Nat} (hep : Epochs b) (he : SolEffect rt b b' acts n)
    (e : DoubleZeroEpoch) :
    b'.sweptAt e = true ↔ e < b'.journal.nextDzEpochToSweepTokens := by
  rw [he.dists.sweptAt, Bool.or_eq_true, hep.swept_iff]
  cases he with
  | @quiet acts dists quiet journal deposits =>
    have hnone : (acts.any fun x => decide (x.1 = e) && x.2.isSweep) = false := by
      rw [List.any_eq_false]
      intro x hx
      have hq := quiet x hx
      cases ha : x.2 with
      | sweep _ _ => simp [ha, DistAction.isQuiet] at hq
      | _ => simp [DistAction.isSweep]
    rw [hnone, journal.2.2]
    simp
  | pay dists journal deposits =>
    rw [journal.2.2]
    simp [DistAction.isSweep]
  | writeOff dists journal later deposit deposits =>
    rw [journal.2.2]
    simp [DistAction.isSweep]
  | @sweep solDebt token2zAmount dists enough journal deposits =>
    have hexists := (hep.exists_iff _).1 dists.exists_dist
    have hsmall := hep.next_small
    have hlt := UInt64.lt_iff_toNat_lt.1 hexists
    rw [journal.2.2, DoubleZeroEpoch.lt_saturatingAddDuration_one (by omega)]
    simp [DistAction.isSweep, eq_comm, or_comm]
  | withdraw dists enough journal deposits =>
    rw [journal.2.2]
    simp

theorem step {l : Label} (hep : Epochs b) (hs : BookStep rt l b b') : Epochs b' := by
  obtain ⟨acts, n, he, -⟩ := hs.effect
  have hswept := hep.swept_step he
  cases hs with
  | call ht =>
    rcases ht.configEffect.epochs with ⟨hnext, hlast, hdists⟩ | ⟨d, j, prepaid, hinit, hup, hadv⟩
    · refine ⟨by rw [hnext, hlast]; exact hep.next_le, fun e => ?_, hswept⟩
      rw [hnext, ← hep.exists_iff, Ne, hdists e]
    · have hnext : b'.config.nextCompletedDzEpoch =
          b.config.nextCompletedDzEpoch.saturatingAddDuration 1 := by
        rw [hadv.rest_eq]
      have hsmall := hep.next_small
      refine ⟨?_, fun e => ?_, hswept⟩
      · have hlt := advanced_lt hadv
        have hle := hep.next_le
        rw [hnext, DoubleZeroEpoch.saturatingAddDuration, toNat_saturatingAdd]
        show min (b.config.nextCompletedDzEpoch.toNat + 1) (2 ^ 64 - 1) ≤ _
        omega
      · rw [hnext, DoubleZeroEpoch.lt_saturatingAddDuration_one hsmall, ← hep.exists_iff, hup e,
          hinit.dzEpoch_eq]
        by_cases heq : e = b.config.nextCompletedDzEpoch
        · simp [heq]
        · simp [heq]
  | outside hforeign =>
    have hconfig := Books.config_congr (congrFun hforeign.entry_eq .config)
    refine ⟨by rw [hconfig]; exact hep.next_le, fun e => ?_, hswept⟩
    rw [hconfig, hforeign.entry_eq]
    exact hep.exists_iff e

end Epochs

theorem BooksRun.epochs (hrun : BooksRun rt b₀ h b) (hempty : b₀.Empty) : Epochs b := by
  refine hrun.invariant (P := Epochs) ?_ fun hep hs => hep.step hs
  have hconfig : b₀.config = default := by rw [Books.config, hempty]
  have hjournal : b₀.journal = default := by rw [Books.journal, hempty]
  have hzero : ∀ e : DoubleZeroEpoch, ¬ e < 0 := fun e => UInt64.not_lt_zero
  refine ⟨by rw [hconfig]; exact Nat.zero_le _, fun e => ?_, fun e => ?_⟩
  · rw [hconfig, hempty]
    exact iff_of_false (by simp) (hzero e)
  · rw [hjournal, Books.sweptAt, Books.distAt, hempty]
    exact iff_of_false (by simp) (hzero e)

end

end DoubleZero.Revenue
