import DoubleZero.Revenue.Refine.Basic

/-!
# Setting up and configuring the program, on the books

What a new account needs is that nothing was at its address; what a setting may change is said once,
in `tryConfigure_ok`.
-/

namespace DoubleZero.Revenue

open DoubleZero.Lib DoubleZero.Solana

section

variable {rt : Runtime} {call : Call} {L : RevenueLedger} {r : Unit × Exec AccountState}

/-! ## Settings -/

/-- What a setting may change: never the epoch, the clock or the swap accounts, the pause flag only
if it is that setting, and the burn rate only by a new schedule. -/
structure Configured (setting : ProgramConfiguration) (c c' : ProgramConfig) : Prop where
  swapAuthority : c'.swapAuthorityBumpSeed = c.swapAuthorityBumpSeed
  swapDestination : c'.swapDestination2zBumpSeed = c.swapDestination2zBumpSeed
  epoch : c'.nextCompletedDzEpoch = c.nextCompletedDzEpoch
  timestamp : c'.lastInitializedDistributionTimestamp = c.lastInitializedDistributionTimestamp
  paused : c'.isPaused = c.isPaused ∨ setting = .flag (.isPaused c'.isPaused)
  burnRate : c'.burnRate = c.burnRate ∨
    (c.nextCompletedDzEpoch = 0 ∧ ∃ initialRate limit toIncreasing toLimit,
      CommunityBurnRateParameters.new initialRate limit toIncreasing toLimit = some c'.burnRate) ∨
    ∃ limit toIncreasing toLimit,
      c.burnRate.checkedUpdate limit toIncreasing toLimit = some c'.burnRate

theorem tryConfigure_ok {c : ProgramConfig} {setting : ProgramConfiguration}
    {s : Exec AccountState} {p : ProgramConfig × Exec AccountState}
    (h : c.tryConfigure rt setting s = .ok p) : p.2 = s ∧ Configured setting c p.1 := by
  cases setting with
  | flag configuration =>
    cases configuration with
    | isPaused shouldPause =>
      cases pure_eq_ok.1 h
      exact ⟨rfl, rfl, rfl, rfl, rfl, .inr (by simp), .inl rfl⟩
  | debtAccountant key =>
    cases pure_eq_ok.1 h
    exact ⟨rfl, rfl, rfl, rfl, rfl, .inl rfl, .inl rfl⟩
  | rewardsAccountant key =>
    cases pure_eq_ok.1 h
    exact ⟨rfl, rfl, rfl, rfl, rfl, .inl rfl, .inl rfl⟩
  | contributorManager key =>
    cases pure_eq_ok.1 h
    exact ⟨rfl, rfl, rfl, rfl, rfl, .inl rfl, .inl rfl⟩
  | placeholderKey key => simp only [ProgramConfig.tryConfigure, fail_eq_ok] at h
  | sol2zSwapProgram programId =>
    cases pure_eq_ok.1 h
    exact ⟨rfl, rfl, rfl, rfl, rfl, .inl rfl, .inl rfl⟩
  | solanaValidatorFeeParameters base priority inflation jito fixedSolAmount unused =>
    simp only [ProgramConfig.tryConfigure, tryUnitShare, ↓okOr_bind_ok, pure_eq_ok] at h
    obtain ⟨_, -, _, -, _, -, _, -, rfl⟩ := h
    exact ⟨rfl, rfl, rfl, rfl, rfl, .inl rfl, .inl rfl⟩
  | calculationGracePeriodMinutes minutes =>
    simp only [ProgramConfig.tryConfigure, ↓require_bind_ok, pure_eq_ok] at h
    obtain ⟨-, -, rfl⟩ := h
    exact ⟨rfl, rfl, rfl, rfl, rfl, .inl rfl, .inl rfl⟩
  | communityBurnRateParameters limit toIncreasing toLimit initialRate =>
    simp only [ProgramConfig.tryConfigure, tryUnitShare, ↓okOr_bind_ok] at h
    obtain ⟨limit', -, h⟩ := h
    cases initialRate with
    | some rate =>
      simp only [↓require_bind_ok, ↓okOr_bind_ok, pure_eq_ok] at h
      obtain ⟨hzero, rate', -, params, hnew, rfl⟩ := h
      exact ⟨rfl, rfl, rfl, rfl, rfl, .inl rfl, .inr (.inl ⟨hzero, _, _, _, _, hnew⟩)⟩
    | none =>
      cases hu : c.distributionParameters.communityBurnRateParameters.checkedUpdate limit'
        toIncreasing toLimit with
      | some params =>
        simp only [hu, pure_eq_ok] at h
        subst h
        exact ⟨rfl, rfl, rfl, rfl, rfl, .inl rfl, .inr (.inr ⟨_, _, _, hu⟩)⟩
      | none => simp only [hu, ↓unwrap!_bind_ok, fail_eq_ok, and_false, exists_false] at h
  | placeholderRelayLamports lamports => simp only [ProgramConfig.tryConfigure, fail_eq_ok] at h
  | distributeRewardsRelayLamports lamports =>
    simp only [ProgramConfig.tryConfigure, ↓require_bind_ok, pure_eq_ok] at h
    obtain ⟨-, rfl⟩ := h
    exact ⟨rfl, rfl, rfl, rfl, rfl, .inl rfl, .inl rfl⟩
  | minimumEpochDurationToFinalizeRewards duration =>
    simp only [ProgramConfig.tryConfigure, ↓require_bind_ok, pure_eq_ok] at h
    obtain ⟨-, rfl⟩ := h
    exact ⟨rfl, rfl, rfl, rfl, rfl, .inl rfl, .inl rfl⟩
  | distributionInitializationGracePeriodMinutes minutes =>
    simp only [ProgramConfig.tryConfigure, ↓require_bind_ok, pure_eq_ok] at h
    obtain ⟨-, -, rfl⟩ := h
    exact ⟨rfl, rfl, rfl, rfl, rfl, .inl rfl, .inl rfl⟩
  | featureActivation feature activationEpoch =>
    cases feature with
    | solanaValidatorDebtWriteOff =>
      simp only [ProgramConfig.tryConfigure, ↓require_bind_ok, pure_eq_ok] at h
      obtain ⟨-, rfl⟩ := h
      exact ⟨rfl, rfl, rfl, rfl, rfl, .inl rfl, .inl rfl⟩

theorem trySetAdmin_followed (hc : Canonical rt L) {adminKey : Pubkey}
    (hdata : call.data = .setAdmin adminKey)
    (h : trySetAdmin rt adminKey (call.exec L) = .ok r) : Followed rt call L r := by
  simp only [trySetAdmin, ↓upgradeAuthority_bind_ok, ↓zeroCopyMut_bind_ok, store_eq_ok,
    Exec.advance_iter, Exec.advance_ledger, Exec.info_key, Call.exec_iter, Call.exec_ledger] at h
  obtain ⟨m₀, r₀, hit, -, m₁, r₁, rfl, -, -, m₂, r₂, rfl, -, c, crem, hvc, rfl⟩ := h
  have href := Refines.start hc
  obtain ⟨hk, hconfig⟩ := href.config hvc
  let c' : ProgramConfig := { c with adminKey := adminKey }
  have hsound : (AccountState.programConfig c).Sound rt crem := href.sound hconfig
  have href₁ : Refines rt _ ((books rt L).set .config (.programConfig c') crem) :=
    href.rewrite (s := .programConfig c') hconfig hk hsound
  exact href₁.followed (.setAdmin hdata hconfig)

theorem tryConfigureProgram_followed (hc : Canonical rt L) {setting : ProgramConfiguration}
    (hdata : call.data = .configureProgram setting)
    (h : tryConfigureProgram rt setting (call.exec L) = .ok r) : Followed rt call L r := by
  simp only [tryConfigureProgram, ↓verifiedMut_bind_ok, Call.exec_iter, Call.exec_ledger,
    Exec.info_key] at h
  obtain ⟨m₀, r₀, hit, -, c, crem, hvc, m₁, r₁, rfl, hsig, hkey, h⟩ := h
  obtain ⟨c', s₁, hconfigured, h⟩ := bind_eq_ok.1 h
  obtain ⟨rfl, hset⟩ := tryConfigure_ok hconfigured
  cases store_eq_ok.1 h
  have href := Refines.start hc
  obtain ⟨hk, hconfig⟩ := href.config hvc
  have hsound : (AccountState.programConfig c').Sound rt crem := by
    have : (AccountState.programConfig c).Sound rt crem := href.sound hconfig
    show c'.swapAuthorityBumpSeed = 0 ∨
      (c'.swapAuthorityBumpSeed = _ ∧ c'.swapDestination2zBumpSeed = _)
    rw [show c'.swapAuthorityBumpSeed = c.swapAuthorityBumpSeed from hset.swapAuthority,
      show c'.swapDestination2zBumpSeed = c.swapDestination2zBumpSeed from hset.swapDestination]
    exact this
  have href₁ := href.rewrite (s := .programConfig c') hconfig hk hsound
  exact href₁.followed (.configureProgram hdata hconfig ⟨m₁, by simp [hit], hkey, hsig⟩
    hconfigured)

/-! ## Contributors -/

theorem trySetRewardsManager_followed (hc : Canonical rt L) {rewardsManagerKey : Pubkey}
    (hdata : call.data = .setRewardsManager rewardsManagerKey)
    (h : trySetRewardsManager rewardsManagerKey (call.exec L) = .ok r) : Followed rt call L r := by
  simp only [trySetRewardsManager, ↓verified_bind_ok, ProgramConfig.tryRequireUnpaused,
    ↓require_bind_ok, ↓zeroCopyMut_bind_ok, store_eq_ok, Exec.advance_iter, Exec.advance_ledger,
    Exec.info_key, Call.exec_iter, Call.exec_ledger] at h
  obtain ⟨m₀, r₀, hit, c, crem, hvc, m₁, r₁, rfl, hsig, hkey, hunpaused, h⟩ := h
  obtain ⟨m₂, r₂, rfl, -, cr, crrem, hvr, hblocked, rfl⟩ := h
  have href := Refines.start hc
  obtain ⟨-, hconfig⟩ := href.config hvc
  obtain ⟨hk, hcontributor⟩ := href.contributor hvr
  have hsound : (AccountState.contributorRewards cr).Sound rt crrem := href.sound hcontributor
  let cr' : ContributorRewards := { cr with rewardsManagerKey := rewardsManagerKey }
  have href₁ : Refines rt _
      ((books rt L).set (.contributor cr.serviceKey) (.contributorRewards cr') crrem) :=
    href.rewrite (s := .contributorRewards cr') hcontributor hk hsound
  exact href₁.followed (.setRewardsManager hdata ⟨⟨crem, hconfig⟩, hunpaused⟩
    ⟨m₁, by simp [hit], hkey, hsig⟩ hcontributor hblocked)

theorem tryConfigureContributor_ok {c : ContributorRewards}
    {setting : ContributorRewardsConfiguration} {s : Exec AccountState}
    {p : ContributorRewards × Exec AccountState} (h : c.tryConfigure setting s = .ok p) :
    p.2 = s ∧ p.1.serviceKey = c.serviceKey := by
  cases setting with
  | recipients recipients =>
    simp only [ContributorRewards.tryConfigure, ↓okOr_bind_ok, pure_eq_ok] at h
    obtain ⟨_, -, rfl⟩ := h
    exact ⟨rfl, rfl⟩
  | isSetRewardsManagerBlocked shouldBlock =>
    cases pure_eq_ok.1 h
    exact ⟨rfl, rfl⟩

theorem tryConfigureContributorRewards_followed (hc : Canonical rt L)
    {setting : ContributorRewardsConfiguration}
    (hdata : call.data = .configureContributorRewards setting)
    (h : tryConfigureContributorRewards setting (call.exec L) = .ok r) : Followed rt call L r := by
  simp only [tryConfigureContributorRewards, ↓zeroCopy_bind_ok, ProgramConfig.tryRequireUnpaused,
    ↓require_bind_ok, ↓zeroCopyMut_bind_ok, ↓tryNext_bind_ok, Exec.advance_iter,
    Exec.advance_ledger, Exec.info_key, Call.exec_iter, Call.exec_ledger] at h
  obtain ⟨m₀, r₀, hit, c, crem, hvc, hunpaused, m₁, r₁, rfl, -, cr, crrem, hvr, h⟩ := h
  obtain ⟨m₂, r₂, rfl, haccepts, hkey, h⟩ := h
  obtain ⟨cr', s₁, hconfigured, h⟩ := bind_eq_ok.1 h
  obtain ⟨rfl, hservice⟩ := tryConfigureContributor_ok hconfigured
  cases store_eq_ok.1 h
  have href := Refines.start hc
  obtain ⟨-, hconfig⟩ := href.config hvc
  obtain ⟨hk, hcontributor⟩ := href.contributor hvr
  have hsound : (AccountState.contributorRewards cr).Sound rt crrem := href.sound hcontributor
  have hid : (AccountState.contributorRewards cr').identity = .contributor cr.serviceKey :=
    congrArg Identity.contributor hservice
  have hsound' : (AccountState.contributorRewards cr').Sound rt crrem := hsound
  have href₁ := href.rewrite (s := .contributorRewards cr') (hid ▸ hcontributor)
    (hk.trans (by rw [hid])) hsound'
  rw [hid] at href₁
  exact href₁.followed (.configureContributorRewards hdata ⟨⟨crem, hconfig⟩, hunpaused⟩
    hcontributor ⟨m₂, by simp [hit], hkey, haccepts.1 rfl⟩ hconfigured
    (by simp [Call.key?, hit, hk]))

/-! ## New accounts -/

theorem tryInitializeProgram_followed (hc : Canonical rt L)
    (hdata : call.data = .initializeProgram)
    (h : tryInitializeProgram rt (call.exec L) = .ok r) : Followed rt call L r := by
  simp only [tryInitializeProgram, ↓tryNext_bind_ok, accepts_default, true_and, ↓require_bind_ok,
    Exec.advance_iter, Exec.info_key, Call.exec_iter] at h
  obtain ⟨m₀, r₀, hit, m₁, r₁, rfl, hkey, h⟩ := h
  obtain ⟨⟨⟩, s₁, hcreate, h⟩ := bind_eq_ok.1 h
  obtain ⟨L₁, e₁, hal₁, -⟩ := createOwned_ok (by decide) hcreate
  cases e₁
  simp only [↓tokenPda_bind_ok, ↓mintInfo_bind_ok, ↓tokenProgram_bind_ok, Exec.advance_iter] at h
  obtain ⟨m₂, r₂, rfl, bump, hpda, m₃, r₃, rfl, -, m₄, r₄, rfl, -, h⟩ := h
  obtain ⟨hm₂, rfl⟩ := Prod.mk.inj (tokenPda_key (.inl rfl) hpda)
  obtain ⟨⟨⟩, s₂, hcreate₂, h⟩ := bind_eq_ok.1 h
  obtain ⟨L₂, e₂, hal₂⟩ := create2zToken_ok hcreate₂
  cases e₂
  simp only [Exec.info_key, Exec.advance_ledger, Call.exec_ledger, hm₂, hkey] at hal₁ hal₂
  obtain ⟨href₂, hnew, hfunds, -, howner, -, hvacant⟩ :=
    (Refines.start hc).createPair (i := .config) hal₁ hal₂
  simp only [↓tryInitialize_bind_ok, store_eq_ok, Exec.info_key] at h
  obtain ⟨len, -, -, rfl⟩ := h
  have hsound : (AccountState.programConfig (ProgramConfig.initial rt)).Sound rt
      (List.replicate (len - dataEnd AccountState ProgramConfig) 0#8) := .inl rfl
  have href₃ := href₂.write (s := .programConfig (ProgramConfig.initial rt)) hkey (hkey ▸ howner)
    hsound
  exact href₃.followed (.initializeProgram hdata hnew hfunds hvacant)

theorem tryInitializeJournal_followed (hc : Canonical rt L)
    (hdata : call.data = .initializeJournal)
    (h : tryInitializeJournal rt (call.exec L) = .ok r) : Followed rt call L r := by
  simp only [tryInitializeJournal, ↓tryNext_bind_ok, accepts_default, true_and, ↓require_bind_ok,
    Exec.advance_iter, Exec.info_key, Call.exec_iter] at h
  obtain ⟨m₀, r₀, hit, m₁, r₁, rfl, hkey, h⟩ := h
  obtain ⟨⟨⟩, s₁, hcreate, h⟩ := bind_eq_ok.1 h
  obtain ⟨L₁, e₁, hal₁, -⟩ := createOwned_ok (by decide) hcreate
  cases e₁
  simp only [↓tokenPda_bind_ok, ↓mintInfo_bind_ok, ↓tokenProgram_bind_ok, Exec.advance_iter] at h
  obtain ⟨m₂, r₂, rfl, bump, hpda, m₃, r₃, rfl, -, m₄, r₄, rfl, -, h⟩ := h
  obtain ⟨hm₂, rfl⟩ := Prod.mk.inj (tokenPda_key (.inl rfl) hpda)
  obtain ⟨⟨⟩, s₂, hcreate₂, h⟩ := bind_eq_ok.1 h
  obtain ⟨L₂, e₂, hal₂⟩ := create2zToken_ok hcreate₂
  cases e₂
  simp only [Exec.info_key, Exec.advance_ledger, Call.exec_ledger, hm₂, hkey] at hal₁ hal₂
  obtain ⟨href₂, hnew, hfunds, hexempt, howner, hzeroed, hvacant⟩ :=
    (Refines.start hc).createPair (i := .journal) hal₁ hal₂
  simp only [↓tryInitialize_bind_ok, store_eq_ok, Exec.info_key, hkey] at h
  obtain ⟨len, hlen, -, rfl⟩ := h
  cases hzeroed.symm.trans hlen
  have hsound : (AccountState.journal (Journal.initial rt)).Sound rt
      (List.replicate (MAX_PERMITTED_DATA_INCREASE - dataEnd AccountState Journal) 0#8) := by
    refine ⟨rfl, rfl, ?_⟩
    rw [List.length_replicate]
    decide
  have href₃ := href₂.write (s := .journal (Journal.initial rt)) rfl howner hsound
  exact href₃.followed (.initializeJournal hdata hnew hfunds hexempt hvacant)

theorem tryInitializeContributorRewards_followed (hc : Canonical rt L) {serviceKey : Pubkey}
    (hdata : call.data = .initializeContributorRewards serviceKey)
    (h : tryInitializeContributorRewards rt serviceKey (call.exec L) = .ok r) :
    Followed rt call L r := by
  simp only [tryInitializeContributorRewards, ↓tryNext_bind_ok, accepts_default, true_and,
    ↓require_bind_ok, Exec.advance_iter, Exec.info_key, Call.exec_iter] at h
  obtain ⟨m₀, r₀, hit, m₁, r₁, rfl, hkey, h⟩ := h
  obtain ⟨⟨⟩, s₁, hcreate, h⟩ := bind_eq_ok.1 h
  obtain ⟨L₁, e₁, hal, -⟩ := createOwned_ok (by decide) hcreate
  cases e₁
  simp only [Exec.info_key, Exec.advance_ledger, Call.exec_ledger, hkey] at hal
  have href := Refines.start hc
  obtain ⟨href₁, hnew, -, howner, hzeroed⟩ := href.create (i := .contributor serviceKey) hal
  simp only [↓tryInitialize_bind_ok, store_eq_ok, Exec.info_key, hkey] at h
  obtain ⟨len, hlen, -, rfl⟩ := h
  cases hzeroed.symm.trans hlen
  rw [Nat.sub_self, List.replicate_zero]
  let cr : ContributorRewards := { (default : ContributorRewards) with serviceKey := serviceKey }
  have href₂ := href₁.write (s := .contributorRewards cr) rfl howner rfl
  exact href₂.followed (.initializeContributorRewards hdata hnew (href.keepsLamports hal))

theorem tryInitializeSolanaValidatorDeposit_followed (hc : Canonical rt L) {nodeId : Pubkey}
    (hdata : call.data = .initializeSolanaValidatorDeposit nodeId)
    (h : tryInitializeSolanaValidatorDeposit rt nodeId (call.exec L) = .ok r) :
    Followed rt call L r := by
  simp only [tryInitializeSolanaValidatorDeposit, ↓tryNext_bind_ok, accepts_default, true_and,
    ↓require_bind_ok, ↓account_bind_ok, Exec.advance_iter, Exec.info_key, Call.exec_iter] at h
  obtain ⟨m₀, r₀, hit, hkey, m₁, r₁, rfl, h⟩ := h
  obtain ⟨⟨⟩, s₁, hcreate, h⟩ := bind_eq_ok.1 h
  obtain ⟨L₁, e₁, hal, hfunded⟩ := createOwned_ok (by decide) hcreate
  cases e₁
  simp only [Exec.info_key, Exec.advance_ledger, Call.exec_ledger, hkey, Option.getD_some]
    at hal hfunded
  have href := Refines.start hc
  obtain ⟨href₁, hnew, hexempt, howner, hzeroed⟩ := href.create (i := .deposit nodeId) hal
  simp only [↓tryInitialize_bind_ok, store_eq_ok, Exec.info_key, hkey] at h
  obtain ⟨len, hlen, -, rfl⟩ := h
  cases hzeroed.symm.trans hlen
  rw [Nat.sub_self, List.replicate_zero]
  let p : SolanaValidatorDeposit := { (default : SolanaValidatorDeposit) with nodeId := nodeId }
  have href₂ := href₁.write (s := .solanaValidatorDeposit p) rfl howner rfl
  exact href₂.followed (.initializeDeposit hdata hnew (href.keepsLamports hal) hexempt
    hfunded)

theorem tryInitializeRewardsIntegration_followed (hc : Canonical rt L)
    (hdata : call.data = .initializeRewardsIntegration)
    (h : tryInitializeRewardsIntegration rt (call.exec L) = .ok r) : Followed rt call L r := by
  simp only [tryInitializeRewardsIntegration, ↓verified_bind_ok, ↓tryNext_bind_ok,
    ↓require_bind_ok, Exec.advance_iter, Exec.advance_ledger, Exec.info_key, Call.exec_iter,
    Call.exec_ledger] at h
  obtain ⟨m₀, r₀, hit, c, crem, hvc, m₁, r₁, rfl, hsig, hadmin, m₂, r₂, rfl, -, h⟩ := h
  obtain ⟨m₃, r₃, rfl, -, m₄, r₄, rfl, -, hkey, h⟩ := h
  obtain ⟨⟨⟩, s₁, hcreate, h⟩ := bind_eq_ok.1 h
  obtain ⟨L₁, e₁, hal, -⟩ := createOwned_ok (by decide) hcreate
  cases e₁
  simp only [Exec.info_key, Exec.advance_ledger, Call.exec_ledger, hkey] at hal
  have href := Refines.start hc
  obtain ⟨-, hconfig⟩ := href.config hvc
  obtain ⟨href₁, hnew, -, howner, hzeroed⟩ := href.create (i := .integration m₂.key) hal
  simp only [↓tryInitialize_bind_ok, ↓zeroCopyMut_bind_ok, ↓unwrap!_bind_ok, ↓store_bind_ok,
    store_eq_ok, Exec.advance_iter, Exec.advance_ledger, Exec.info_key, hkey] at h
  obtain ⟨len, hlen, -, m₅, r₅, rfl, -, j, jrem, hvj, count, hcount, rfl⟩ := h
  cases hzeroed.symm.trans hlen
  rw [Nat.sub_self, List.replicate_zero]
  obtain ⟨hkj, hjournal⟩ := href₁.journal hvj
  let i : RewardsIntegration :=
    ⟨m₂.key, (rt.find (RewardsIntegration.seeds m₂.key)).2, j.integrationsCount⟩
  let j' : Journal := { j with integrationsCount := count }
  have href₂ := href₁.write (s := .rewardsIntegration i) rfl howner ⟨rfl, rfl⟩
  have hsound : (AccountState.journal j).Sound rt jrem := href₁.sound hjournal
  have hjournal₂ := hjournal
  rw [← Books.set_entry_of_ne (i := .integration m₂.key) _ (.rewardsIntegration i) [] (by simp)]
    at hjournal₂
  have href₃ := href₂.rewrite (s := .journal j') hjournal₂ hkj hsound
  exact href₃.followed (.initializeIntegration hdata hconfig ⟨m₁, by simp [hit], hadmin, hsig⟩ hnew
    hjournal hcount (href.keepsLamports hal))

theorem tryInitializeSwapDestination_followed (hc : Canonical rt L)
    (hdata : call.data = .initializeSwapDestination)
    (h : tryInitializeSwapDestination rt (call.exec L) = .ok r) : Followed rt call L r := by
  simp only [tryInitializeSwapDestination, ↓zeroCopyMut_bind_ok, ↓tryNext_bind_ok,
    accepts_default, true_and, ↓require_bind_ok, ↓tokenPda_bind_ok, ↓mintInfo_bind_ok,
    ↓tokenProgram_bind_ok, ↓store_bind_ok, Exec.advance_iter, Exec.advance_ledger, Exec.info_key,
    Call.exec_iter, Call.exec_ledger] at h
  obtain ⟨m₀, r₀, hit, -, c, crem, hvc, m₁, r₁, rfl, m₂, r₂, rfl, -, h⟩ := h
  obtain ⟨m₃, r₃, rfl, bump, hpda, m₄, r₄, rfl, -, m₅, r₅, rfl, -, h⟩ := h
  obtain ⟨hm₃, rfl⟩ := Prod.mk.inj (tokenPda_key (.inl rfl) hpda)
  obtain ⟨L₁, rfl, hal⟩ := create2zToken_ok h
  simp only [Exec.info_key, hm₃] at hal
  have href := Refines.start hc
  obtain ⟨hk, hconfig⟩ := href.config hvc
  let c' : ProgramConfig := { c with
    swapAuthorityBumpSeed := rt.findSwapAuthorityAddress.2
    swapDestination2zBumpSeed := (rt.find2zTokenPdaAddress rt.findSwapAuthorityAddress.1).2 }
  have hsound : (AccountState.programConfig c').Sound rt crem := .inr ⟨rfl, rfl⟩
  have href₁ : Refines rt _ ((books rt L).set .config (.programConfig c') crem) :=
    href.rewrite (s := .programConfig c') hconfig hk hsound
  refine (href₁.allocatedToken hal).followed (.initializeSwapDestination hdata hconfig ?_
    (href₁.tokens_none hal))
  intro k hk'
  exact href₁.keepsLamports hal k (hk'.set _ _ _)

/-! ## Migration and verification -/

theorem Migrated.refl {n : UInt16} (b : Books) : Migrated rt [] n b b :=
  ⟨rfl, rfl, by simp, fun _ => .inl rfl⟩

/-- Migrating a distribution twice is migrating it once. -/
theorem DistStep.migrate_trans {n : UInt16} {s s₁ s' : DistState}
    (h : DistStep rt (.migrate n) s s₁) (h' : DistStep rt (.migrate n) s₁ s') :
    DistStep rt (.migrate n) s s' := by
  cases h with
  | migrate hepoch =>
    cases h' with
    | migrate _ => exact .migrate hepoch

theorem Migrated.trans {keys keys' : List Pubkey} {n : UInt16} {b₁ b₂ b₃ : Books}
    (h : Migrated rt keys n b₁ b₂) (h' : Migrated rt keys' n b₂ b₃) :
    Migrated rt (keys ++ keys') n b₁ b₃ := by
  refine ⟨h'.lamports_eq.trans h.lamports_eq, h'.tokens_eq.trans h.tokens_eq, fun k hk => ?_,
    fun i => ?_⟩
  · rcases List.mem_append.1 hk with hk | hk
    · obtain ⟨d, rem, d₁, rem₁, hkey, has, hstep, has₁⟩ := h.listed k hk
      rcases h'.entry (.distribution d₁.dzEpoch) with hsame | ⟨_, _, d', rem', hi, hd, hstep', hd', -⟩
      · exact ⟨d, rem, d₁, rem₁, hkey, has, hstep, hsame.trans has₁⟩
      · cases hd.symm.trans has₁
        refine ⟨d, rem, d', rem', hkey, has, hstep.migrate_trans hstep', ?_⟩
        rw [Books.HasDist, hstep'.fixed.1]
        exact hd'
    · obtain ⟨d₁, rem₁, d', rem', hkey, has₁, hstep', has'⟩ := h'.listed k hk
      rcases h.entry (.distribution d₁.dzEpoch) with hsame | ⟨d, rem, _, _, hi, hd, hstep, hd₁, -⟩
      · exact ⟨d₁, rem₁, d', rem', hkey, hsame.symm.trans has₁, hstep', has'⟩
      · cases hd₁.symm.trans has₁
        refine ⟨d, rem, d', rem', ?_, ?_, hstep.migrate_trans hstep', has'⟩
        · rw [hkey, hstep.fixed.1]
        · rw [Books.HasDist, ← hi]
          exact hd
  · rcases h.entry i with hsame | ⟨d, rem, d₁, rem₁, hi, hd, hstep, hd₁, hmem⟩
    · rcases h'.entry i with hsame' | ⟨d, rem, d₁, rem₁, hi, hd, hstep, hd₁, hmem⟩
      · exact .inl (hsame'.trans hsame)
      · exact .inr ⟨d, rem, d₁, rem₁, hi, hsame ▸ hd, hstep, hd₁, List.mem_append_right _ hmem⟩
    · have hmem := List.mem_append_left keys' hmem
      rcases h'.entry i with hsame' | ⟨d', rem', d₂, rem₂, hi', hd', hstep', hd₂, -⟩
      · exact .inr ⟨d, rem, d₁, rem₁, hi, hd, hstep, hsame'.trans hd₁, hmem⟩
      · cases hd'.symm.trans hd₁
        exact .inr ⟨d, rem, d₂, rem₂, hi, hd, hstep.migrate_trans hstep', hd₂, hmem⟩

theorem migrateDistribution_refines {n : UInt16} {s : Exec AccountState}
    {p : Unit × Exec AccountState} {b : Books} (href : Refines rt s.ledger b)
    (h : migrateDistribution n s = .ok p) :
    ∃ m b', s.iter = m :: p.2.iter ∧ Refines rt p.2.ledger b' ∧ Migrated rt [m.key] n b b' := by
  simp only [migrateDistribution, ↓zeroCopyMut_bind_ok, ↓require_bind_ok, store_eq_ok,
    Exec.advance_ledger, Exec.info_key] at h
  obtain ⟨m, rest, hit, -, d, rem, hvd, hepoch, rfl⟩ := h
  obtain ⟨hk, has⟩ := href.dist hvd
  have step : DistStep rt (.migrate n) (d, rem) _ := .migrate hepoch
  refine ⟨m, _, hit, href.stepDist hk has step, rfl, rfl, fun k hkey => ?_, fun i => ?_⟩
  · obtain rfl := List.mem_singleton.1 hkey
    exact ⟨d, rem, _, _, hk, has, step, Books.set_entry_self ..⟩
  · by_cases hi : i = .distribution d.dzEpoch
    · subst hi
      exact .inr ⟨d, rem, _, _, rfl, has, step, Books.set_entry_self .., by simp [hk]⟩
    · exact .inl (Books.set_entry_of_ne _ _ _ hi)

/-- The loop runs once for each account left. -/
theorem migrateDistributions_refines {n : UInt16} (left : Nat) {s : Exec AccountState}
    {p : Unit × Exec AccountState} {b : Books} (href : Refines rt s.ledger b)
    (hleft : s.iter.length = left) (h : migrateDistributions n left s = .ok p) :
    ∃ b', Refines rt p.2.ledger b' ∧ Migrated rt (s.iter.map fun m => m.key) n b b' := by
  induction left generalizing s b with
  | zero =>
    cases pure_eq_ok.1 h
    rw [List.length_eq_zero_iff.1 hleft]
    exact ⟨b, href, .refl b⟩
  | succ left ih =>
    obtain ⟨⟨⟩, s₁, hfirst, h⟩ := bind_eq_ok.1 h
    obtain ⟨m, b₁, hit, href₁, hmigrated⟩ := migrateDistribution_refines href hfirst
    rw [hit] at hleft ⊢
    obtain ⟨b₂, href₂, hrest⟩ := ih href₁ (Nat.succ.inj hleft) h
    exact ⟨b₂, href₂, hmigrated.trans hrest⟩

theorem tryMigrateProgramAccounts_followed (hc : Canonical rt L)
    (hdata : call.data = .migrateProgramAccounts)
    (h : tryMigrateProgramAccounts rt (call.exec L) = .ok r) : Followed rt call L r := by
  simp only [tryMigrateProgramAccounts, ↓upgradeAuthority_bind_ok, ↓zeroCopy_bind_ok,
    Exec.advance_iter, Exec.advance_ledger, Call.exec_iter, Call.exec_ledger] at h
  obtain ⟨m₀, r₀, hit, -, m₁, r₁, rfl, -, -, m₂, r₂, rfl, j, jrem, hvj, h⟩ := h
  obtain ⟨left, s₁, hleft, h⟩ := bind_eq_ok.1 h
  cases hleft
  have href := Refines.start hc
  obtain ⟨-, hjournal⟩ := href.journal hvj
  obtain ⟨b', href', hmigrated⟩ := migrateDistributions_refines _ href rfl h
  refine href'.followed (.migrate hdata hjournal ?_)
  rw [hit]
  exact hmigrated

theorem tryVerifyDistributionMerkleRoot_followed (hc : Canonical rt L)
    {kind : DistributionMerkleRootKind} {proof : MerkleProof}
    (hdata : call.data = .verifyDistributionMerkleRoot kind proof)
    (h : tryVerifyDistributionMerkleRoot rt kind proof (call.exec L) = .ok r) :
    Followed rt call L r := by
  simp only [tryVerifyDistributionMerkleRoot, tryLeafIndex, ↓okOr_bind_ok, ↓zeroCopy_bind_ok] at h
  obtain ⟨_, -, m₀, r₀, hit, d, rem, hvd, h⟩ := h
  -- Either kind only checks.
  have hr : r.2.ledger = L := by
    cases kind with
    | solanaValidatorDebt debt =>
      obtain ⟨-, rfl⟩ := require_eq_ok.1 h
      rfl
    | rewardShare reward =>
      simp only [↓okOr_bind_ok, require_eq_ok] at h
      obtain ⟨_, -, _, -, -, rfl⟩ := h
      rfl
  unfold Followed
  rw [hr]
  exact ⟨hc, .verify hdata⟩

end

end DoubleZero.Revenue
