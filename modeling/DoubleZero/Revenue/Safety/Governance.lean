import DoubleZero.Revenue.Invariant.Epochs
import DoubleZero.Revenue.Replay

/-!
# Who governs the program

The admin sets everything `ConfigureProgram` can set, and the upgrade authority of the program
appoints the admin. `Settings` is what the admin has to say about; a setting overwrites its part of
it, and nothing else in the program does, but for the schedule of the community burn rate, which
every new distribution moves on. So the settings in force after a run are the settings and the
distributions of the run, one after the other (`settings_in_force`).
-/

namespace DoubleZero.Revenue

open DoubleZero.Lib DoubleZero.Solana

/-! ## Settings -/

/-- The part of the program config that the admin sets. Fees are kept as plain numbers. -/
structure Settings where
  isPaused : Bool
  debtAccountantKey : Pubkey
  rewardsAccountantKey : Pubkey
  contributorManagerKey : Pubkey
  sol2zSwapProgramId : Pubkey
  withdrawSolAuthorityBumpSeed : UInt8
  feePcts : List Nat
  fixedSolAmount : UInt32
  calculationGracePeriodMinutes : UInt16
  initializationGracePeriodMinutes : UInt16
  minimumEpochDurationToFinalizeRewards : UInt8
  distributeRewardsLamports : UInt32
  debtWriteOffFeatureActivationEpoch : DoubleZeroEpoch
  burnRate : CommunityBurnRateParameters
  deriving DecidableEq, Repr

/-- The schedule that a setting makes of the one in force, if it is accepted. -/
def CommunityBurnRateParameters.configured (params : CommunityBurnRateParameters) (limit : UInt32)
    (dzEpochsToIncreasing dzEpochsToLimit : EpochDuration) (initialRate : Option UInt32) :
    Option CommunityBurnRateParameters := do
  let limit : BurnRate ← UnitShare.new limit.toNat
  match initialRate with
  | some initialRate => do
    let initialRate : BurnRate ← UnitShare.new initialRate.toNat
    CommunityBurnRateParameters.new initialRate limit dzEpochsToIncreasing dzEpochsToLimit
  | none => params.checkedUpdate limit dzEpochsToIncreasing dzEpochsToLimit

namespace Settings

def of (c : ProgramConfig) : Settings where
  isPaused := c.isPaused
  debtAccountantKey := c.debtAccountantKey
  rewardsAccountantKey := c.rewardsAccountantKey
  contributorManagerKey := c.contributorManagerKey
  sol2zSwapProgramId := c.sol2zSwapProgramId
  withdrawSolAuthorityBumpSeed := c.withdrawSolAuthorityBumpSeed
  feePcts :=
    let fees := c.distributionParameters.solanaValidatorFeeParameters
    [fees.baseBlockRewardsPct.value, fees.priorityBlockRewardsPct.value,
      fees.inflationRewardsPct.value, fees.jitoTipsPct.value]
  fixedSolAmount := c.distributionParameters.solanaValidatorFeeParameters.fixedSolAmount
  calculationGracePeriodMinutes := c.distributionParameters.calculationGracePeriodMinutes
  initializationGracePeriodMinutes := c.distributionParameters.initializationGracePeriodMinutes
  minimumEpochDurationToFinalizeRewards :=
    c.distributionParameters.minimumEpochDurationToFinalizeRewards
  distributeRewardsLamports := c.relayParameters.distributeRewardsLamports
  debtWriteOffFeatureActivationEpoch := c.debtWriteOffFeatureActivationEpoch
  burnRate := c.burnRate

/-- Before anything is set the program is paused and nobody has a role in it. -/
def initial : Settings := { of default with isPaused := true }

/-- What a setting overwrites. -/
def apply (rt : Runtime) (s : Settings) : ProgramConfiguration → Settings
  | .flag (.isPaused shouldPause) => { s with isPaused := shouldPause }
  | .debtAccountant key => { s with debtAccountantKey := key }
  | .rewardsAccountant key => { s with rewardsAccountantKey := key }
  | .contributorManager key => { s with contributorManagerKey := key }
  | .sol2zSwapProgram programId => { s with
      sol2zSwapProgramId := programId
      withdrawSolAuthorityBumpSeed := (rt.findWithdrawSolAuthorityAddress programId).2 }
  | .solanaValidatorFeeParameters base priority inflation jito fixedSolAmount _ => { s with
      feePcts := [base.toNat, priority.toNat, inflation.toNat, jito.toNat]
      fixedSolAmount := fixedSolAmount }
  | .calculationGracePeriodMinutes minutes => { s with calculationGracePeriodMinutes := minutes }
  | .distributionInitializationGracePeriodMinutes minutes =>
    { s with initializationGracePeriodMinutes := minutes }
  | .minimumEpochDurationToFinalizeRewards duration =>
    { s with minimumEpochDurationToFinalizeRewards := duration }
  | .distributeRewardsRelayLamports lamports => { s with distributeRewardsLamports := lamports }
  | .featureActivation .solanaValidatorDebtWriteOff activationEpoch =>
    { s with debtWriteOffFeatureActivationEpoch := activationEpoch }
  | .communityBurnRateParameters limit dzEpochsToIncreasing dzEpochsToLimit initialRate => { s with
      burnRate := (s.burnRate.configured limit dzEpochsToIncreasing dzEpochsToLimit
        initialRate).getD s.burnRate }
  | .placeholderKey _ | .placeholderRelayLamports _ => s

/-- A new distribution moves the schedule on. -/
def advance (s : Settings) : Settings :=
  { s with burnRate := (s.burnRate.checkedCompute.map Prod.snd).getD s.burnRate }

/-- What a step makes of the settings. -/
def step (rt : Runtime) (s : Settings) : Label → Settings
  | .call c =>
    match c.data with
    | .configureProgram setting => s.apply rt setting
    | .initializeDistribution => s.advance
    | _ => s
  | .outside => s

end Settings

/-- The values a setting may have. -/
def ProgramConfiguration.InRange : ProgramConfiguration → Prop
  | .solanaValidatorFeeParameters base priority inflation jito _ _ =>
    ∀ pct ∈ [base, priority, inflation, jito], pct.toNat ≤ 10000
  | .calculationGracePeriodMinutes minutes => minutes ≠ 0 ∧ minutes.toNat ≤ 24 * 60
  | .distributionInitializationGracePeriodMinutes minutes => minutes ≠ 0 ∧ minutes.toNat ≤ 48 * 60
  | .communityBurnRateParameters limit _ _ initialRate =>
    limit.toNat ≤ 1000000000 ∧ ∀ rate ∈ initialRate, rate.toNat ≤ 1000000000
  | .distributeRewardsRelayLamports lamports => RelayParameters.MIN_LAMPORTS ≤ lamports
  | .minimumEpochDurationToFinalizeRewards duration => duration ≠ 0
  | .featureActivation _ activationEpoch => activationEpoch ≠ 0
  | .placeholderKey _ | .placeholderRelayLamports _ => False
  | _ => True

section Configure

variable {rt : Runtime} {c : ProgramConfig} {s : Exec AccountState}
  {p : ProgramConfig × Exec AccountState}

theorem UnitShare.new_le {m v : Nat} {a : UnitShare m} (h : UnitShare.new v = some a) : v ≤ m :=
  UnitShare.new_eq_some.1 h ▸ a.le_max

/-- A setting that goes through is in range, overwrites its part of the settings, and leaves the
admin in place. -/
theorem tryConfigure_settings {setting : ProgramConfiguration}
    (h : c.tryConfigure rt setting s = .ok p) :
    Settings.of p.1 = (Settings.of c).apply rt setting ∧ setting.InRange ∧
      p.1.adminKey = c.adminKey := by
  cases setting with
  | flag configuration =>
    cases configuration with
    | isPaused shouldPause =>
      cases pure_eq_ok.1 h
      exact ⟨by simp [Settings.of, Settings.apply, ProgramConfig.setIsPaused,
        ProgramConfig.isPaused, ProgramConfig.FLAG_IS_PAUSED_BIT, ProgramConfig.burnRate, bit_setBit],
        trivial, rfl⟩
  | debtAccountant key | rewardsAccountant key | contributorManager key | sol2zSwapProgram key =>
    cases pure_eq_ok.1 h
    exact ⟨rfl, trivial, rfl⟩
  | placeholderKey key | placeholderRelayLamports key =>
    simp only [ProgramConfig.tryConfigure, fail_eq_ok] at h
  | solanaValidatorFeeParameters base priority inflation jito fixedSolAmount unused =>
    simp only [ProgramConfig.tryConfigure, tryUnitShare, ↓okOr_bind_ok, pure_eq_ok] at h
    obtain ⟨b, hb, p, hp, i, hi, j, hj, rfl⟩ := h
    refine ⟨?_, ?_, rfl⟩
    · simp only [Settings.of, Settings.apply, UnitShare.new_eq_some.1 hb,
        UnitShare.new_eq_some.1 hp, UnitShare.new_eq_some.1 hi, UnitShare.new_eq_some.1 hj]
      rfl
    · simp only [ProgramConfiguration.InRange, List.forall_mem_cons, List.not_mem_nil,
        false_implies, implies_true, and_true]
      exact ⟨UnitShare.new_le hb, UnitShare.new_le hp, UnitShare.new_le hi, UnitShare.new_le hj⟩
  | calculationGracePeriodMinutes minutes | distributionInitializationGracePeriodMinutes minutes =>
    simp only [ProgramConfig.tryConfigure, ↓require_bind_ok, pure_eq_ok] at h
    obtain ⟨hzero, hmax, rfl⟩ := h
    exact ⟨rfl, ⟨hzero, hmax⟩, rfl⟩
  | communityBurnRateParameters limit toIncreasing toLimit initialRate =>
    simp only [ProgramConfig.tryConfigure, tryUnitShare, ↓okOr_bind_ok] at h
    obtain ⟨limit', hlimit, h⟩ := h
    cases initialRate with
    | some rate =>
      simp only [↓require_bind_ok, ↓okOr_bind_ok, pure_eq_ok] at h
      obtain ⟨-, rate', hrate, params, hnew, rfl⟩ := h
      have hset : (Settings.of c).burnRate.configured limit toIncreasing toLimit (some rate) =
          some params := by
        simp [CommunityBurnRateParameters.configured, hlimit, hrate, hnew]
      refine ⟨?_, ⟨UnitShare.new_le hlimit, fun r hr => ?_⟩, rfl⟩
      · rw [Settings.apply, hset]
        rfl
      cases hr
      exact UnitShare.new_le hrate
    | none =>
      cases hu : c.distributionParameters.communityBurnRateParameters.checkedUpdate limit'
        toIncreasing toLimit with
      | some params =>
        simp only [hu, pure_eq_ok] at h
        subst h
        have hset : (Settings.of c).burnRate.configured limit toIncreasing toLimit none =
            some params := by
          have hcurrent : (Settings.of c).burnRate.checkedUpdate limit' toIncreasing toLimit =
              some params := hu
          simp [CommunityBurnRateParameters.configured, hlimit, hcurrent]
        refine ⟨?_, ⟨UnitShare.new_le hlimit, fun r hr => by cases hr⟩, rfl⟩
        rw [Settings.apply, hset]
        rfl
      | none => simp only [hu, ↓unwrap!_bind_ok, fail_eq_ok, and_false, exists_false] at h
  | distributeRewardsRelayLamports lamports | minimumEpochDurationToFinalizeRewards duration =>
    simp only [ProgramConfig.tryConfigure, ↓require_bind_ok, pure_eq_ok] at h
    obtain ⟨hrange, rfl⟩ := h
    exact ⟨rfl, hrange, rfl⟩
  | featureActivation feature activationEpoch =>
    cases feature with
    | solanaValidatorDebtWriteOff =>
      simp only [ProgramConfig.tryConfigure, ↓require_bind_ok, pure_eq_ok] at h
      obtain ⟨hrange, rfl⟩ := h
      exact ⟨rfl, hrange, rfl⟩

end Configure

/-! ## Along a run -/

/-- The setting a step makes. -/
def Label.configured : Label → Option ProgramConfiguration
  | .call c =>
    match c.data with
    | .configureProgram setting => some setting
    | _ => none
  | .outside => none

/-- The admin a step appoints. -/
def Label.appointed : Label → Option Pubkey
  | .call c =>
    match c.data with
    | .setAdmin adminKey => some adminKey
    | _ => none
  | .outside => none

def Label.Signed (l : Label) (k : Pubkey) : Prop := ∃ call, l = .call call ∧ call.Signed k

/-- The settings and distributions of a run one after the other, the newest last. -/
def Settings.after {σ : Type} (rt : Runtime) (h : List (Entry σ Label)) : Settings :=
  h.foldr (fun x s => s.step rt x.label) .initial

/-- The last admin appointed in a run. -/
def lastAppointed {σ : Type} (h : List (Entry σ Label)) : Pubkey :=
  (h.findSome? fun x => x.label.appointed).getD default

/-- The settings in force, the initial ones before there is a config. -/
def Books.settings (b : Books) : Settings :=
  match b.entry .config with
  | some (.programConfig c, _) => .of c
  | _ => .initial

section Run

variable {rt : Runtime} {call : Call} {b b' b₀ : Books} {L L' : RevenueLedger}

theorem Books.settings_eq {c : ProgramConfig} {rem : List (BitVec 8)}
    (h : b.entry .config = some (.programConfig c, rem)) : b.settings = .of c := by
  unfold settings
  rw [h]

theorem Books.settings_congr (h : b'.entry .config = b.entry .config) :
    b'.settings = b.settings := by
  unfold settings
  rw [h]

theorem Settings.of_initial : Settings.of (ProgramConfig.initial rt) = .initial := by
  simp only [ProgramConfig.initial, of, ProgramConfig.isPaused_setIsPaused]
  rfl

/-- What a step made of the settings and of the admin. -/
def Governed (rt : Runtime) (l : Label) (b b' : Books) : Prop :=
  b'.settings = b.settings.step rt l ∧
    b'.config.adminKey = l.appointed.getD b.config.adminKey

theorem Governed.of_entry {l : Label} {c c' : ProgramConfig} {rem rem' : List (BitVec 8)}
    (old : b.entry .config = some (.programConfig c, rem))
    (new : b'.entry .config = some (.programConfig c', rem'))
    (hset : Settings.of c' = (Settings.of c).step rt l)
    (hadmin : c'.adminKey = l.appointed.getD c.adminKey) : Governed rt l b b' := by
  rw [Governed, Books.settings_eq old, Books.settings_eq new, Books.config_eq old,
    Books.config_eq new]
  exact ⟨hset, hadmin⟩

theorem Governed.of_same {l : Label} (h : b'.entry .config = b.entry .config)
    (hstep : b.settings.step rt l = b.settings) (happointed : l.appointed = none) :
    Governed rt l b b' := by
  rw [Governed, Books.settings_congr h, Books.config_congr h, hstep, happointed]
  exact ⟨rfl, rfl⟩

theorem Label.configured_eq_some {l : Label} {setting : ProgramConfiguration} :
    l.configured = some setting ↔ ∃ call, l = .call call ∧
      call.data = .configureProgram setting := by
  cases l with
  | call c => cases hdata : c.data <;> simp [configured, hdata]
  | outside => simp [configured]

theorem Label.appointed_eq_some {l : Label} {adminKey : Pubkey} :
    l.appointed = some adminKey ↔ ∃ call, l = .call call ∧ call.data = .setAdmin adminKey := by
  cases l with
  | call c => cases hdata : c.data <;> simp [appointed, hdata]
  | outside => simp [appointed]

theorem Transition.governed (ht : Transition rt call b b') : Governed rt (.call call) b b' := by
  by_cases hw : Kind.config ∈ call.data.writes
  · cases ht with
    | initializeProgram data new =>
      have hself := Books.set_entry_self
      rw [Governed, Books.settings_eq (hself ..), Books.config_eq (hself ..), Settings.of_initial,
        Books.settings, Books.config, new, Settings.step, Label.appointed, data]
      exact ⟨rfl, rfl⟩
    | setAdmin data config =>
      refine .of_entry config (Books.set_entry_self ..) ?_ ?_ <;>
        simp only [Settings.step, Label.appointed, data] <;> rfl
    | configureProgram data config signed configured =>
      obtain ⟨hset, -, hadmin⟩ := tryConfigure_settings configured
      refine .of_entry config (Books.set_entry_self ..) ?_ ?_ <;>
        simp only [Settings.step, Label.appointed, data]
      · exact hset
      · exact hadmin
    | @initializeSwapDestination c rem lamports data config =>
      have hself := Books.set_entry_self b .config (.programConfig { c with
        swapAuthorityBumpSeed := rt.findSwapAuthorityAddress.2
        swapDestination2zBumpSeed :=
          (rt.find2zTokenPdaAddress rt.findSwapAuthorityAddress.1).2 }) rem
      refine .of_entry config hself ?_ ?_ <;>
        simp only [Settings.step, Label.appointed, data] <;> rfl
    | @initializeDistribution c c' crem jrem j rate d prepaid lamports b₁ data config unpaused signed
        journal new advanced initialized rate_eq funds exempt moved =>
      have hself : (b.set .config (.programConfig c') crem).entry .config =
          some (.programConfig c', crem) := Books.set_entry_self ..
      have hconfig : (b₁.setDist d []).entry .config = some (.programConfig c', crem) := by
        rw [Books.setDist_config, moved.entry_eq]
        exact hself
      refine .of_entry config hconfig ?_ ?_
      · have hadvance : (Settings.of c).burnRate.checkedCompute = some (rate, c'.burnRate) :=
          advanced.computed
        simp only [Settings.step, data, Settings.advance, hadvance]
        rw [advanced.rest_eq]
        rfl
      · rw [advanced.rest_eq]
        simp only [Label.appointed, data]
        rfl
    | _ => simp [‹call.data = _›, InstructionData.writes] at hw
  · refine .of_same (ht.frame (i := .config) hw) ?_ ?_
    · cases hdata : call.data with
      | configureProgram | initializeDistribution => simp [hdata, InstructionData.writes] at hw
      | _ => simp only [Settings.step, hdata]
    · refine Option.eq_none_iff_forall_ne_some.2 fun adminKey h => hw ?_
      obtain ⟨_, ⟨⟩, hdata⟩ := Label.appointed_eq_some.1 h
      simp [hdata, InstructionData.writes]

/-- A call that makes a setting has the signature of the admin of that moment. -/
theorem Transition.configured {setting : ProgramConfiguration} (ht : Transition rt call b b')
    (hdata : call.data = .configureProgram setting) :
    ∃ c rem, b.entry .config = some (.programConfig c, rem) ∧ call.Signed c.adminKey ∧
      setting.InRange := by
  cases ht with
  | configureProgram data config signed configured =>
    cases data.symm.trans hdata
    exact ⟨_, _, config, signed, (tryConfigure_settings configured).2.1⟩
  | _ => simp [hdata] at *

/-- A call that appoints an admin has the signature of the upgrade authority of that moment. -/
theorem setAdmin_signed {adminKey : Pubkey} (hdata : call.data = .setAdmin adminKey)
    (h : process rt call L = .ok L') :
    ∃ authority, (L rt.programDataAddress).data = .programData (some authority) ∧
      call.Signed authority := by
  obtain ⟨r, hr, -⟩ := process_eq_ok.1 h
  simp only [tryProcessInstruction, hdata, trySetAdmin, ↓upgradeAuthority_bind_ok, Call.exec_iter,
    Call.exec_ledger] at hr
  obtain ⟨m, rest, haccounts, hkey, m', rest', rfl, hsigned, hauthority, -⟩ := hr
  refine ⟨m'.key, hkey ▸ hauthority, m', ?_, rfl, hsigned⟩
  rw [haccounts]
  exact List.mem_cons_of_mem _ List.mem_cons_self

theorem BooksRun.governed {h : List (Entry Books Label)} (hrun : BooksRun rt b₀ h b)
    (hempty : b₀.Empty) :
    b.settings = .after rt h ∧ b.config.adminKey = lastAppointed h := by
  refine hrun.history (P := fun h b => b.settings = .after rt h ∧
    b.config.adminKey = lastAppointed h) ?_ ?_
  · rw [Books.settings, Books.config, hempty]
    exact ⟨rfl, rfl⟩
  · rintro h b l b' - ⟨hset, hadmin⟩ hs
    cases hs with
    | call ht =>
      obtain ⟨hset', hadmin'⟩ := ht.governed
      rw [hset', hadmin', hset, hadmin]
      refine ⟨rfl, ?_⟩
      rw [lastAppointed, lastAppointed, List.findSome?_cons]
      dsimp only
      cases (Label.call _).appointed <;> rfl
    | outside hforeign =>
      obtain ⟨hset', hadmin'⟩ : Governed rt .outside b b' :=
        .of_same (congrFun hforeign.entry_eq .config) rfl rfl
      rw [hset', hadmin', hset, hadmin]
      exact ⟨rfl, rfl⟩

end Run

/-- The settings in force are those of the run one after the other, the schedule of the community burn
rate moved on by every distribution in between. Each was signed by the admin of its moment and is in
range; the admin is the last one appointed, each by the upgrade authority of its moment. -/
theorem settings_in_force {rt : Runtime} {L₀ L : RevenueLedger} {h : History} {k : Pubkey}
    {c : ProgramConfig} {rem : List (BitVec 8)} (hg : Genesis rt L₀) (hrun : LedgerRun rt L₀ h L)
    (hc : view ID L k = some (c, rem)) :
    Settings.of c = .after rt h ∧ c.adminKey = lastAppointed h ∧
      (∀ x ∈ h, ∀ setting, x.label.configured = some setting → setting.InRange ∧
        ∃ (c₀ : ProgramConfig) (rem₀ : List (BitVec 8)), view ID x.before k = some (c₀, rem₀) ∧
          x.label.Signed c₀.adminKey) ∧
      ∀ x ∈ h, ∀ adminKey, x.label.appointed = some adminKey →
        ∃ authority, (x.before rt.programDataAddress).data = .programData (some authority) ∧
          x.label.Signed authority := by
  obtain ⟨hcanon, hbooks⟩ := hrun.books hg
  obtain ⟨hk, hentry, -⟩ := hcanon.of_view hc
  obtain ⟨hset, hadmin⟩ := hbooks.governed hg.books_empty
  refine ⟨?_, ?_, ?_, ?_⟩
  · rw [← Books.settings_eq hentry, hset, Settings.after, List.foldr_map]
    rfl
  · rw [← Books.config_eq hentry, hadmin, lastAppointed, List.findSome?_map]
    rfl
  · intro x hx setting hlabel
    obtain ⟨h₁, -, hrun₁, hs⟩ := hrun.of_mem hx
    obtain ⟨hcanon₁, -⟩ := LedgerRun.books hg hrun₁
    obtain ⟨-, hbook⟩ := step_refines hcanon₁ hs
    obtain ⟨call, hcall, hdata⟩ := Label.configured_eq_some.1 hlabel
    rw [hcall] at hbook ⊢
    cases hbook with
    | call ht =>
      obtain ⟨c₀, rem₀, hold, hsigned, hrange⟩ := ht.configured hdata
      refine ⟨hrange, c₀, rem₀, ?_, call, rfl, hsigned⟩
      rw [hk]
      exact view_eq_stateAt.2 hold
  · intro x hx adminKey hlabel
    obtain ⟨h₁, -, -, hs⟩ := hrun.of_mem hx
    obtain ⟨call, hcall, hdata⟩ := Label.appointed_eq_some.1 hlabel
    rw [hcall] at hs ⊢
    cases hs with
    | call _ hprocess =>
      obtain ⟨authority, hauthority, hsigned⟩ := setAdmin_signed hdata hprocess
      exact ⟨authority, hauthority, call, rfl, hsigned⟩

/-- A program that has run for an epoch. -/
theorem settings_in_force_epoch :
    ∃ (h : History) (L : RevenueLedger) (c : ProgramConfig) (rem : List (BitVec 8)),
      LedgerRun (Sample.runtime Sample.debts Sample.shares) (Sample.genesis 1000 700) h L ∧
      view ID L Sample.config = some (c, rem) ∧ c.isPaused = false ∧
      Settings.of c = .after (Sample.runtime Sample.debts Sample.shares) h ∧
      c.adminKey = lastAppointed h := by
  obtain ⟨h, L, hrun, -, hP⟩ := Sample.exists_epoch (P := fun _ L =>
    (view (T := ProgramConfig) ID L Sample.config).any fun x => !x.1.isPaused) (by decide +kernel)
  obtain ⟨⟨c, rem⟩, hc, hpaused⟩ := (Option.any_eq_true _ _).1 hP
  obtain ⟨hset, hadmin, -, -⟩ := settings_in_force (Sample.genesis_unused 1000 700) hrun hc
  exact ⟨h, L, c, rem, hrun, hc, by simpa using hpaused, hset, hadmin⟩

end DoubleZero.Revenue
