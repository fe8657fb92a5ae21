import DoubleZero.Revenue.Refine.Basic

/-!
# The life of a distribution, on the books

Creation, debt and rewards calculation, integrations and distribution: each instruction takes its
distribution through the steps of `DistStep`, and touches nothing else but what its transition says.
-/

namespace DoubleZero.Revenue

open DoubleZero.Lib DoubleZero.Solana

section

variable {rt : Runtime} {call : Call} {L : RevenueLedger} {r : Unit × Exec AccountState}

/-! ## Creation -/

theorem toU32_eq_some {n : Int} {t : UInt32} : toU32 n = some t ↔ (t.toNat : Int) = n := by
  unfold toU32
  split
  · next h =>
    rw [Option.some.injEq, ← UInt32.toNat_inj, UInt32.toNat_ofNat_of_lt' (by simp; omega)]
    omega
  · next h =>
    have := t.toNat_lt
    simp only [reduceCtorEq, false_iff]
    omega

theorem movePrepaid2z_refines {journal : ZeroCopyAccount Journal} {ata pda : AccountInfo}
    {s : Exec AccountState} {p : UInt64 × Exec AccountState} {b : Books}
    (href : Refines rt s.ledger b) (h : movePrepaid2z rt journal ata pda s = .ok p) :
    ∃ b', Refines rt p.2.ledger b' ∧ (∀ k, (p.2.ledger k).owner = (s.ledger k).owner) ∧
      ((p.1 = 0 ∧ b' = b) ∨ TokenTransfer ata.key pda.key journal.info.key p.1 b b') := by
  simp only [movePrepaid2z, ↓account_bind_ok] at h
  cases hu : unpackData (s.ledger ata.key).data with
  | none =>
    rw [hu] at h
    cases pure_eq_ok.1 h
    exact ⟨b, href, fun _ => rfl, .inl ⟨rfl, rfl⟩⟩
  | some a =>
    rw [hu] at h
    rcases ite_eq_ok.1 h with ⟨-, h⟩ | ⟨-, h⟩
    · simp only [↓invokeSigned_bind_ok, pure_eq_ok] at h
      obtain ⟨key, -, L', ht, rfl⟩ := h
      obtain ⟨b', href', hmoved⟩ := href.transfer ht
      refine ⟨b', href', ?_, .inr hmoved⟩
      obtain ⟨_, _, -, -, -, -, -, -, ⟨-, rfl⟩ | ⟨-, -, rfl⟩⟩ := Token.transfer_eq_ok.1 ht
      · exact fun _ => rfl
      · simp
    · cases pure_eq_ok.1 h
      exact ⟨b, href, fun _ => rfl, .inl ⟨rfl, rfl⟩⟩

theorem tryInitializeDistribution_followed (hc : Canonical rt L)
    (hdata : call.data = .initializeDistribution)
    (h : tryInitializeDistribution rt call.env (call.exec L) = .ok r) : Followed rt call L r := by
  simp only [tryInitializeDistribution, ↓verifiedMut_bind_ok, ProgramConfig.tryRequireUnpaused,
    ↓require_bind_ok, ↓okOr_bind_ok, ↓unwrap!_bind_ok, ↓tryNext_bind_ok, accepts_default,
    true_and, ↓store_bind_ok, Exec.advance_iter, Exec.advance_ledger, Exec.info_key, Call.exec_iter,
    Call.exec_ledger] at h
  obtain ⟨m₀, r₀, hit, -, c, crem, hvc, m₁, r₁, rfl, hsig, hkey, hunpaused, h⟩ := h
  obtain ⟨grace, hgrace, allowed, hallowed, hnow, ts, hts, period, hperiod, h⟩ := h
  obtain ⟨⟨rate, params⟩, hrate, relay, hrelay, m₂, r₂, rfl, m₃, r₃, rfl, hdist, h⟩ := h
  have href := Refines.start hc
  obtain ⟨hk, hconfig⟩ := href.config hvc
  let c' : ProgramConfig := { c with
    lastInitializedDistributionTimestamp := ts
    distributionParameters := { c.distributionParameters with communityBurnRateParameters := params }
    nextCompletedDzEpoch := c.nextCompletedDzEpoch.saturatingAddDuration 1 }
  have hsound : (AccountState.programConfig c).Sound rt crem := href.sound hconfig
  have href₁ : Refines rt _ ((books rt L).set .config (.programConfig c') crem) :=
    href.rewrite (s := .programConfig c') hconfig hk hsound
  -- The account and its token account are created.
  obtain ⟨⟨⟩, s₁, hcreate, h⟩ := bind_eq_ok.1 h
  obtain ⟨L₁, e₁, hal₁, -⟩ := createOwned_ok (by decide) hcreate
  cases e₁
  simp only [↓tokenPda_bind_ok, ↓mintInfo_bind_ok, ↓tokenProgram_bind_ok, Exec.advance_iter] at h
  obtain ⟨m₄, r₄, rfl, bump, hpda, m₅, r₅, rfl, -, m₆, r₆, rfl, -, h⟩ := h
  obtain ⟨hm₄, rfl⟩ := Prod.mk.inj (tokenPda_key (.inl rfl) hpda)
  obtain ⟨⟨⟩, s₂, hcreate₂, h⟩ := bind_eq_ok.1 h
  obtain ⟨L₂, e₂, hal₂⟩ := create2zToken_ok hcreate₂
  cases e₂
  simp only [Exec.info_key, Exec.advance_ledger, hm₄] at hal₁ hal₂
  rw [hdist] at hal₁
  obtain ⟨href₂, hnew, hfunds, hexempt, howner, hzeroed, hvacant⟩ :=
    href₁.createPair (i := .distribution c.nextCompletedDzEpoch) hal₁ hal₂
  -- The journal hands over its prepaid 2Z.
  simp only [↓tryInitialize_bind_ok, ↓unwrap!_bind_ok, ↓zeroCopyMut_bind_ok, ↓tokenPda_bind_ok,
    ↓tryNext_bind_ok, accepts_default, true_and, ↓require_bind_ok, Exec.advance_iter,
    Exec.advance_ledger, Exec.info_key] at h
  obtain ⟨len, hlen, -, at_, hat, m₇, r₇, rfl, -, j, jrem, hvj, h⟩ := h
  obtain ⟨m₈, r₈, rfl, _, -, m₉, r₉, rfl, hata, h⟩ := h
  obtain ⟨hkj, hjournal⟩ := href₂.journal hvj
  obtain ⟨prepaid, s₃, hprepaid, h⟩ := bind_eq_ok.1 h
  obtain ⟨b₃, href₃, howners, hmoved⟩ := movePrepaid2z_refines href₂ hprepaid
  cases store_eq_ok.1 h
  rw [Books.set_entry_of_ne _ _ _ (by simp)] at hnew
  have hjournal₀ : (books rt L).entry .journal = some (.journal j, jrem) := hjournal
  have hrem : List.replicate (len - dataEnd AccountState Distribution) 0#8 = [] := by
    rw [hdist] at hlen
    cases hzeroed.symm.trans hlen
    simp
  rw [hrem]
  let d : Distribution := { (default : Distribution) with
    dzEpoch := c.nextCompletedDzEpoch
    bumpSeed := (rt.find (Distribution.seeds c.nextCompletedDzEpoch)).2
    token2zPdaBumpSeed := (rt.find2zTokenPdaAddress
      (rt.find (Distribution.seeds c.nextCompletedDzEpoch)).1).2
    communityBurnRate := rate
    solanaValidatorFeeParameters := c.distributionParameters.solanaValidatorFeeParameters
    distributeRewardsRelayLamports := relay
    calculationAllowedTimestamp := at_
    integrationsCountSnapshot := j.integrationsCount
    collectedPrepaid2zPayments := prepaid }
  have hsoundD : (AccountState.distribution d).Sound rt [] := ⟨rfl, rfl⟩
  have href₄ : Refines rt _ (b₃.setDist d []) :=
    href₃.write (s := .distribution d) hdist ((howners _).trans (hdist ▸ howner)) hsoundD
  have hadvanced : Advanced call.env.unixTimestamp c c' rate := by
    refine ⟨hrate, ⟨grace, hgrace, ?_⟩, toU32_eq_some.1 hts, rfl⟩
    have := (checkedAdd32_eq_some.1 hallowed).2
    omega
  have hinitialized : Initialized rt c j prepaid d :=
    ⟨rfl, hsoundD, rfl, rfl, rfl, hrelay, rfl⟩
  rw [Exec.info_key, hata, Exec.info_key, hm₄, Exec.info_key, hkj] at hmoved
  refine href₄.followed (.initializeDistribution hdata hconfig hunpaused
    ⟨m₁, by simp [hit], hkey, hsig⟩ hjournal₀ hnew hadvanced hinitialized rfl ?_ hexempt hmoved
    hvacant)
  intro k hk'
  exact hfunds k (hk'.set _ _ _)

/-! ## Debt calculation -/

theorem tryConfigureDistributionDebt_followed (hc : Canonical rt L) {totalValidators : UInt32}
    {totalDebt : UInt64} {merkleRoot : Hash}
    (hdata : call.data = .configureDistributionDebt totalValidators totalDebt merkleRoot)
    (h : tryConfigureDistributionDebt call.env totalValidators totalDebt merkleRoot (call.exec L) =
      .ok r) : Followed rt call L r := by
  simp only [tryConfigureDistributionDebt, ↓verified_bind_ok, ProgramConfig.tryRequireUnpaused,
    ↓require_bind_ok, ↓zeroCopyMut_bind_ok, Distribution.tryRequireUnfinalizedDebtCalculation,
    Distribution.tryRequireCalculationAllowed, store_eq_ok, Exec.advance_iter, Exec.advance_ledger,
    Exec.info_key, Call.exec_iter, Call.exec_ledger] at h
  obtain ⟨m₀, r₀, hit, c, crem, hvc, m₁, r₁, rfl, hsig, hkey, hunpaused, m₂, r₂, rfl, -, d, rem, hvd,
    hopen, hallowed, hfees, rfl⟩ := h
  have href := Refines.start hc
  obtain ⟨-, hconfig⟩ := href.config hvc
  obtain ⟨hk, has⟩ := href.dist hvd
  have step : DistStep rt (.configureDebt totalValidators totalDebt merkleRoot) (d, rem) _ :=
    .configureDebt hopen
  exact (href.stepDist hk has step).followed (.configureDebt hdata ⟨⟨crem, hconfig⟩, hunpaused⟩
    ⟨m₁, by simp [hit], hkey, hsig⟩ has hallowed hfees step)

theorem tryConfigureDistributionRewards_followed (hc : Canonical rt L) {totalContributors : UInt32}
    {merkleRoot : Hash}
    (hdata : call.data = .configureDistributionRewards totalContributors merkleRoot)
    (h : tryConfigureDistributionRewards call.env totalContributors merkleRoot (call.exec L) =
      .ok r) : Followed rt call L r := by
  simp only [tryConfigureDistributionRewards, ↓verified_bind_ok, ProgramConfig.tryRequireUnpaused,
    ↓require_bind_ok, ↓zeroCopyMut_bind_ok, Distribution.tryRequireUnfinalizedRewardsCalculation,
    Distribution.tryRequireCalculationAllowed, store_eq_ok, Exec.advance_iter, Exec.advance_ledger,
    Exec.info_key, Call.exec_iter, Call.exec_ledger] at h
  obtain ⟨m₀, r₀, hit, c, crem, hvc, m₁, r₁, rfl, hsig, hkey, hunpaused, m₂, r₂, rfl, -, d, rem, hvd,
    hopen, hallowed, rfl⟩ := h
  have href := Refines.start hc
  obtain ⟨-, hconfig⟩ := href.config hvc
  obtain ⟨hk, has⟩ := href.dist hvd
  have step : DistStep rt (.configureRewards totalContributors merkleRoot) (d, rem) _ :=
    .configureRewards hopen
  exact (href.stepDist hk has step).followed (.configureRewards hdata ⟨⟨crem, hconfig⟩, hunpaused⟩
    ⟨m₁, by simp [hit], hkey, hsig⟩ has hallowed step)

theorem trySetDistributionEconomicBurnRate_followed (hc : Canonical rt L) {value : UInt32}
    (hdata : call.data = .setDistributionEconomicBurnRate value)
    (h : trySetDistributionEconomicBurnRate value (call.exec L) = .ok r) :
    Followed rt call L r := by
  simp only [trySetDistributionEconomicBurnRate, ↓okOr_bind_ok, ↓verified_bind_ok,
    ProgramConfig.tryRequireUnpaused, ↓require_bind_ok, ↓zeroCopyMut_bind_ok,
    Distribution.tryRequireUnfinalizedRewardsCalculation, store_eq_ok, Exec.advance_iter,
    Exec.advance_ledger, Exec.info_key, Call.exec_iter, Call.exec_ledger] at h
  obtain ⟨burnRate, hrate, m₀, r₀, hit, c, crem, hvc, m₁, r₁, rfl, hsig, hkey, hunpaused, m₂, r₂, rfl,
    -, d, rem, hvd, hopen, rfl⟩ := h
  have href := Refines.start hc
  obtain ⟨-, hconfig⟩ := href.config hvc
  obtain ⟨hk, has⟩ := href.dist hvd
  have step : DistStep rt (.setEconomicBurnRate burnRate) (d, rem) _ := .setEconomicBurnRate hopen
  exact (href.stepDist hk has step).followed (.setEconomicBurnRate hdata hrate
    ⟨⟨crem, hconfig⟩, hunpaused⟩ ⟨m₁, by simp [hit], hkey, hsig⟩ has step)

theorem tryFinalizeDistributionDebt_followed (hc : Canonical rt L)
    (hdata : call.data = .finalizeDistributionDebt)
    (h : tryFinalizeDistributionDebt rt call.env (call.exec L) = .ok r) :
    Followed rt call L r := by
  simp only [tryFinalizeDistributionDebt, ↓verified_bind_ok, ProgramConfig.tryRequireUnpaused,
    ↓require_bind_ok, ↓zeroCopyMut_bind_ok, Distribution.tryRequireUnfinalizedDebtCalculation,
    Distribution.tryRequireCalculationAllowed, ↓unwrap!_bind_ok, ↓ite_eq_ok, store_eq_ok,
    Exec.advance_iter, Exec.advance_ledger, Exec.info_key, Call.exec_iter, Call.exec_ledger] at h
  obtain ⟨m₀, r₀, hit, c, crem, hvc, m₁, r₁, rfl, hsig, hkey, hunpaused, m₂, r₂, rfl, -, d, rem, hvd,
    hopen, hallowed, totalSolDebt, hdebt, h⟩ := h
  have href := Refines.start hc
  obtain ⟨-, hconfig⟩ := href.config hvc
  obtain ⟨hk, has⟩ := href.dist hvd
  have running : (books rt L).Running c := ⟨⟨crem, hconfig⟩, hunpaused⟩
  have signed : call.Signed c.debtAccountantKey := ⟨m₁, by simp [hit], hkey, hsig⟩
  rcases h with ⟨rfl, rfl⟩ | ⟨hne, h⟩
  · have step : DistStep rt .finalizeDebt (d, rem) _ := .finalizeZeroDebt hopen hdebt
    exact (href.stepDist hk has step).followed
      (.finalizeZeroDebt hdata running signed has hallowed step rfl)
  · obtain ⟨rem', lamports, step, hL', hpaid, -⟩ := growDistribution_refines href hk has
      (fun hfit => DistStep.finalizeDebt hopen hdebt hne hfit) h
    refine hL'.followed (.finalizeDebt hdata running signed has hallowed step ?_)
    rwa [Nat.zero_add, min_eq_left] at hpaid
    have := rt.rent.fits (dataEnd AccountState Distribution + rem'.length)
    omega

/-- The guard on a null root, taken apart. -/
theorem nothingOwed_bind_ok {β : Type} {d : Distribution} {f : Unit → RevenueProcessor β}
    {s : Exec AccountState} {r : β × Exec AccountState} :
    (d.tryRequireNothingOwed >>= f) s = .ok r ↔
      (d.checkedTotalSolDebt = some 0 ∧ d.totalCollected2zTokens = some 0 ∧
        d.areAllIntegrationsCollected = true) ∧ f () s = .ok r := by
  simp only [Distribution.tryRequireNothingOwed, ↓bind_bind_ok, ↓unwrap!_bind_ok, ↓require_bind_ok]
  constructor
  · rintro ⟨_, hdebt, rfl, _, hcollected, rfl, hall, h⟩
    exact ⟨⟨hdebt, hcollected, hall⟩, h⟩
  · rintro ⟨⟨hdebt, hcollected, hall⟩, h⟩
    exact ⟨_, hdebt, rfl, _, hcollected, rfl, hall, h⟩

theorem tryFinalizeDistributionRewards_followed (hc : Canonical rt L)
    (hdata : call.data = .finalizeDistributionRewards)
    (h : tryFinalizeDistributionRewards rt call.env (call.exec L) = .ok r) :
    Followed rt call L r := by
  simp only [tryFinalizeDistributionRewards, ↓zeroCopy_bind_ok, ProgramConfig.tryRequireUnpaused,
    ↓require_bind_ok, ↓zeroCopyMut_bind_ok, Distribution.tryRequireUnfinalizedRewardsCalculation,
    Distribution.tryRequireCalculationAllowed, Distribution.tryRequireFinalizedDebtCalculation,
    ↓ite_eq_ok, ↓nothingOwed_bind_ok, ↓okOr_bind_ok, Exec.advance_iter,
    Exec.advance_ledger, Call.exec_iter, Call.exec_ledger] at h
  obtain ⟨m₀, r₀, hit, c, crem, hvc, hunpaused, m₁, r₁, rfl, -, d, rem, hvd, hopen, hallowed,
    hfinal, h⟩ := h
  rw [Distribution.isDebtCalculationFinalized_setIsRewardsCalculationFinalized] at hfinal
  have href := Refines.start hc
  obtain ⟨-, hconfig⟩ := href.config hvc
  obtain ⟨hk, has⟩ := href.dist hvd
  -- With a null root or without, the instruction goes on in the same way.
  obtain ⟨howed, duration, hduration, haged, h⟩ :
      (d.rewardsMerkleRoot = default → d.checkedTotalSolDebt = some 0 ∧
        d.totalCollected2zTokens = some 0 ∧ d.areAllIntegrationsCollected = true) ∧ _ := by
    rcases h with ⟨_, howed, h⟩ | ⟨hroot, h⟩
    · exact ⟨fun _ => howed, h⟩
    · exact ⟨fun hnull => absurd hnull hroot, h⟩
  obtain ⟨rem', lamports, step, hL', hpaid, hroom⟩ := growDistribution_refines href hk has
    (fun hfit => DistStep.finalizeRewards hopen hfinal howed hfit) h
  exact hL'.followed (.finalizeRewards hdata ⟨⟨crem, hconfig⟩, hunpaused⟩ has hallowed hduration
    haged step hpaid hroom (by simp [Call.key?, hit, hk]))

/-! ## Integrations -/

theorem isIntegrationCollected_eq_some {d : Distribution} {index : UInt16} {v : Bool} :
    d.checkedIsIntegrationCollected index = some v ↔
      index.toNat < 512 ∧ bit d.collectedIntegrationsBitmap index.toNat = v := by
  unfold Distribution.checkedIsIntegrationCollected
  split
  · next h => simp [not_lt.2 h]
  · next h => simp [not_le.1 h]

theorem setIntegrationCollected_eq_some {d d' : Distribution} {index : UInt16} :
    d.checkedSetIntegrationCollected index = some d' ↔
      index.toNat < 512 ∧ d' = { d with
        collectedIntegrationsBitmap := setBit d.collectedIntegrationsBitmap index.toNat true } := by
  unfold Distribution.checkedSetIntegrationCollected
  split
  · next h => simp [not_lt.2 h]
  · next h => simp [not_le.1 h, eq_comm]

/-- What a collection makes of its distribution: the integration is invoked on the ledger the
collection starts from, and what the pool gained since is counted. -/
structure Collected (rt : Runtime) (call : Call) (L L' : RevenueLedger) (d d' : Distribution)
    (before after : TokenAccount) : Prop where
  keyDist : call.key? 1 = some (rt.distributionKey d.dzEpoch)
  keyPool : call.key? 5 = some (rt.poolKey d.dzEpoch)
  accounts : ∃ k k', call.key? 3 = some k ∧ call.key? 4 = some k'
  before_eq : (L (rt.poolKey d.dzEpoch)).data = .token before
  after_eq : (L' (rt.poolKey d.dzEpoch)).data = .token after
  cpi : ∃ L₁ returnData, call.env.cpi L = .ok (L₁, returnData) ∧
    (L₁ (rt.poolKey d.dzEpoch)).data = .token after
  counted : checkedAdd d.collected2zFromIntegrations (after.amount - before.amount) =
    some d'.collected2zFromIntegrations

theorem tryCollectIntegrationRewards_collected (hc : Canonical rt L) (ha : call.Admissible rt)
    (hdata : call.data = .collectIntegrationRewards)
    (h : tryCollectIntegrationRewards rt call.env (call.exec L) = .ok r) :
    Followed rt call L r ∧ ∃ d d' rem before after, (books rt L).HasDist d rem ∧
      (books rt r.2.ledger).HasDist d' rem ∧ d'.dzEpoch = d.dzEpoch ∧
      Collected rt call L r.2.ledger d d' before after := by
  simp only [tryCollectIntegrationRewards, ↓zeroCopy_bind_ok, ProgramConfig.tryRequireUnpaused,
    ↓require_bind_ok, ↓zeroCopyMut_bind_ok, ↓okOr_bind_ok, ↓tryNext_bind_ok, accepts_default,
    true_and, ↓tokenPda_bind_ok, ↓tokenAmount_bind_ok, ↓invokeForeign_bind_ok, ↓unwrap!_bind_ok,
    store_eq_ok, isIntegrationCollected_eq_some, setIntegrationCollected_eq_some,
    Exec.advance_iter, Exec.advance_ledger, Exec.info_key, Call.exec_iter, Call.exec_ledger] at h
  obtain ⟨m₀, r₀, hit, c, crem, hvc, hunpaused, m₁, r₁, rfl, -, d, rem, hvd, hopen, h⟩ := h
  obtain ⟨m₂, r₂, rfl, i, irem, hvi, hsnapshot, _, ⟨hcap, hbit⟩, rfl, h⟩ := h
  obtain ⟨m₃, r₃, rfl, m₄, r₄, rfl, m₅, r₅, rfl, bump, hpda, h⟩ := h
  obtain ⟨a, hbefore, _, -, L₁, returnData, hcpi, a', hafter, h⟩ := h
  obtain ⟨total, hsum, count, hcount, d', ⟨-, rfl⟩, rfl⟩ := h
  have href := Refines.start hc
  obtain ⟨-, hconfig⟩ := href.config hvc
  obtain ⟨hk, has⟩ := href.dist hvd
  obtain ⟨hki, hintegration⟩ := href.integration hvi
  have hpool : m₅.key = rt.poolKey d.dzEpoch := by
    have := tokenPda_key (.inr (by rw [(href.sound has).2, hk])) hpda
    rw [hk] at this
    exact congrArg Prod.fst this
  obtain ⟨href₁, hforeign⟩ := href.foreign (ha L L₁ returnData hcpi)
  have has₁ : (books rt L₁).HasDist d rem := by
    show (books rt L₁).entry _ = _
    rw [hforeign.entry_eq]
    exact has
  have step : DistStep rt (.collect i.registrationIndex (a'.amount - a.amount)) (d, rem) _ :=
    .collect hopen hsnapshot hcap hbit hsum hcount
  have hkey : call.key? 1 = some (rt.distributionKey d.dzEpoch) := by simp [Call.key?, hit, hk]
  have href₂ := href₁.stepDist hk has₁ step
  rw [hpool] at hbefore hafter
  refine ⟨href₂.followed (.collect hdata ⟨⟨crem, hconfig⟩, hunpaused⟩ has hintegration hkey ?_
    ⟨L, L₁, returnData, hc, hcpi, rfl, rfl⟩ hforeign ?_ step), d, _, rem, a, a', has,
    href₂.hasDist (Books.set_entry_self ..), rfl, hkey, ?_, ⟨m₃.key, m₄.key, ?_, ?_⟩, hbefore, ?_,
    ⟨L₁, returnData, hcpi, hafter⟩, hsum⟩
  · simp [Call.key?, hit, hki]
  · intro t t' ht ht'
    have htoken := (Token.unpack_eq_some.1 ht).2
    have htoken' := (Token.unpack_eq_some.1 ht').2
    cases hbefore.symm.trans htoken
    cases hafter.symm.trans htoken'
    rfl
  · simp [Call.key?, hit, hpool]
  · simp [Call.key?, hit]
  · simp [Call.key?, hit]
  · -- The distribution is stored at an address of its own.
    have hne : rt.poolKey d.dzEpoch ≠ m₁.key := by
      rw [hk]
      exact (Identity.key_ne_token (.distribution d.dzEpoch) _).symm
    dsimp only
    rw [Ledger.write_data, if_neg hne]
    exact hafter

/-! ## Distributing rewards -/

/-- The loop over the recipients: every payout in turn, and the total of their amounts. -/
theorem transferToRecipients_refines {pool authority : Pubkey} {seeds : List Seed} {bump : UInt8}
    {remainingShare : UInt64} (recipients : List RecipientShare) {total : UInt64}
    {s : Exec AccountState} {p : UInt64 × Exec AccountState} {b : Books}
    (href : Refines rt s.ledger b)
    (h : transferToRecipients rt pool authority seeds bump remainingShare recipients total s =
      .ok p) :
    ∃ b', Refines rt p.2.ledger b' ∧ Payouts rt pool authority remainingShare recipients b b' ∧
      p.1 = recipients.foldl (fun total r => total + r.share.mulScalar remainingShare) total ∧
      p.2.accounts = s.accounts := by
  induction recipients generalizing total s b with
  | nil =>
    cases pure_eq_ok.1 h
    exact ⟨b, href, .nil, rfl, rfl⟩
  | cons recipient recipients ih =>
    simp only [transferToRecipients, ↓tryNext_bind_ok, accepts_default, true_and, ↓require_bind_ok,
      ↓invokeSigned_bind_ok, Exec.advance_ledger] at h
    obtain ⟨m, rest, -, -, _, -, L₁, htransfer, h⟩ := h
    obtain ⟨b₁, href₁, hpay⟩ := href.transfer htransfer
    obtain ⟨b₂, href₂, hrest, htotal, haccounts⟩ := ih href₁ h
    exact ⟨b₂, href₂, .cons hpay hrest, htotal, haccounts⟩

theorem Payouts.entry_eq {pool authority : Pubkey} {remainingShare : UInt64}
    {recipients : List RecipientShare} {b b' : Books}
    (h : Payouts rt pool authority remainingShare recipients b b') : b'.entry = b.entry := by
  induction h with
  | nil => rfl
  | cons htransfer _ ih =>
    obtain ⟨a, c, -, -, -, -, -, ⟨-, rfl⟩ | ⟨-, -, rfl⟩⟩ := htransfer
    · exact ih
    · exact ih

theorem tryDistributeRewards_followed (hc : Canonical rt L) {unitShare economicBurnRate : UInt32}
    {proof : MerkleProof}
    (hdata : call.data = .distributeRewards unitShare economicBurnRate proof)
    (h : tryDistributeRewards rt unitShare economicBurnRate proof (call.exec L) = .ok r) :
    Followed rt call L r := by
  simp only [tryDistributeRewards, tryLeafIndex, ↓okOr_bind_ok, ↓zeroCopy_bind_ok,
    ProgramConfig.tryRequireUnpaused, ↓require_bind_ok, ↓zeroCopyMut_bind_ok, ↓processLeaf_bind_ok,
    ↓tokenPda_bind_ok, ↓mintInfo_bind_ok, ↓tryNext_bind_ok, ↓tokenProgram_bind_ok,
    ↓unwrap!_bind_ok, Exec.advance_iter, Exec.advance_ledger, Exec.info_key, Call.exec_iter,
    Call.exec_ledger] at h
  obtain ⟨leafIndex, hindex, m₀, r₀, hit, c, crem, hvc, hunpaused, h⟩ := h
  obtain ⟨m₁, r₁, rfl, -, d, rem, hvd, hopen, hswept, hcollected, rem', hmarks, h⟩ := h
  obtain ⟨m₂, r₂, rfl, cr, crrem, hvr, share, hshare, hroot, h⟩ := h
  obtain ⟨m₃, r₃, rfl, bump, hpda, m₄, r₄, rfl, hmint, m₅, r₅, rfl, -, m₆, r₆, rfl, htoken, h⟩ := h
  obtain ⟨⟨burnShare, remainingShare⟩, hsplit, h⟩ := h
  have href := Refines.start hc
  obtain ⟨-, hconfig⟩ := href.config hvc
  obtain ⟨hk, has⟩ := href.dist hvd
  obtain ⟨hkr, hcontributor⟩ := href.contributor hvr
  have hpool : m₃.key = rt.poolKey d.dzEpoch := by
    have := tokenPda_key (.inr (by rw [(href.sound has).2, hk])) hpda
    rw [hk] at this
    exact congrArg Prod.fst this
  obtain ⟨transferred, s₁, hpaid, h⟩ := bind_eq_ok.1 h
  obtain ⟨b₁, href₁, hpayouts, htotal, -⟩ := transferToRecipients_refines _ href hpaid
  have has₁ : b₁.HasDist d rem := by
    show b₁.entry _ = _
    rw [hpayouts.entry_eq]
    exact has
  simp only [↓require_bind_ok, ↓store_bind_ok, ↓invokeSigned_bind_ok] at h
  obtain ⟨hrecipients, _, -, L₂, hburn, h⟩ := h
  have step : DistStep rt (.distribute leafIndex share transferred
      (burnShare + (remainingShare - transferred))) (d, rem) _ :=
    .distribute hopen hswept hcollected hmarks ⟨proof, hindex, hroot⟩ hsplit
  obtain ⟨b₂, href₂, hburned⟩ := (href₁.stepDist hk has₁ step).burn hburn
  obtain ⟨b₃, href₃, hrelayed⟩ := Refines.moveLamports href₂ h
  have htransferred : transferred =
      payoutTotal remainingShare cr.recipientShares.activeIter := htotal
  subst htransferred
  rw [hpool, hk] at hpayouts
  rw [hpool, hk] at hburned
  rw [hk] at hrelayed
  exact href₃.followed (.distribute hdata hindex ⟨⟨crem, hconfig⟩, hunpaused⟩ has
    (by simp [Call.key?, hit, hk]) hcontributor hshare hrecipients hsplit hpayouts step hburned
    hrelayed (by simp [Call.key?, hit, hkr]))

end

end DoubleZero.Revenue
