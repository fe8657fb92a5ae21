import DoubleZero.Revenue.Refine.Basic

/-!
# Debt, write-offs, sweeping and withdrawals, on the books
-/

namespace DoubleZero.Revenue

open DoubleZero.Lib DoubleZero.Solana

section

variable {rt : Runtime} {call : Call} {L : RevenueLedger} {r : Unit × Exec AccountState}

/-! ## Validator debt -/

theorem tryPaySolanaValidatorDebt_followed (hc : Canonical rt L) {amount : UInt64}
    {proof : MerkleProof} (hdata : call.data = .paySolanaValidatorDebt amount proof)
    (h : tryPaySolanaValidatorDebt rt amount proof (call.exec L) = .ok r) :
    Followed rt call L r := by
  simp only [tryPaySolanaValidatorDebt, tryLeafIndex, ↓okOr_bind_ok, ↓zeroCopy_bind_ok,
    ProgramConfig.tryRequireUnpaused, ↓require_bind_ok, ↓zeroCopyMut_bind_ok,
    Distribution.tryRequireFinalizedDebtCalculation, ↓processLeaf_bind_ok, ↓account_bind_ok,
    ↓store_bind_ok, Exec.advance_iter, Exec.advance_ledger, Exec.info_key, Call.exec_iter,
    Call.exec_ledger] at h
  obtain ⟨leafIndex, hindex, m₀, r₀, hit, c, crem, hvc, hunpaused, h⟩ := h
  obtain ⟨m₁, r₁, rfl, -, d, rem, hvd, hfinal, m₂, r₂, rfl, -, p, prem, hvp, h⟩ := h
  obtain ⟨rem', hmarks, hroot, henough, m₃, r₃, rfl, -, j, jrem, hvj, h⟩ := h
  have href := Refines.start hc
  obtain ⟨-, hconfig⟩ := href.config hvc
  obtain ⟨hk, has⟩ := href.dist hvd
  obtain ⟨hkp, hdeposit⟩ := href.deposit hvp
  obtain ⟨hkj, hjournal⟩ := href.journal hvj
  have step : DistStep rt (.pay leafIndex ⟨p.nodeId, amount⟩) (d, rem) _ :=
    .pay hfinal hmarks ⟨proof, hindex, hroot⟩
  have href₁ := href.stepDist hk has step
  let j' : Journal := { j with totalSolBalance := j.totalSolBalance + amount }
  have hsound : (AccountState.journal j).Sound rt jrem := href.sound hjournal
  have hjournal₁ := hjournal
  rw [← Books.set_entry_of_ne (i := .distribution d.dzEpoch) _ _ _ (by simp)] at hjournal₁
  have href₂ := href₁.rewrite (s := .journal j') hjournal₁ hkj hsound
  obtain ⟨b₃, href₃, hmoved⟩ := Refines.moveLamports href₂ h
  rw [hkp, hkj] at hmoved
  rw [hkp, href.lamports_eq] at henough
  exact href₃.followed (.pay hdata hindex ⟨⟨crem, hconfig⟩, hunpaused⟩ has
    (by simp [Call.key?, hit, hk]) hdeposit hjournal step henough hmoved)

theorem tryEnableSolanaValidatorDebtWriteOff_followed (hc : Canonical rt L)
    (hdata : call.data = .enableSolanaValidatorDebtWriteOff)
    (h : tryEnableSolanaValidatorDebtWriteOff rt (call.exec L) = .ok r) : Followed rt call L r := by
  simp only [tryEnableSolanaValidatorDebtWriteOff, ↓zeroCopy_bind_ok,
    ProgramConfig.tryRequireUnpaused, ↓require_bind_ok, ↓zeroCopyMut_bind_ok,
    Distribution.tryRequireFinalizedDebtCalculation, Exec.advance_iter, Exec.advance_ledger,
    Call.exec_iter, Call.exec_ledger] at h
  obtain ⟨m₀, r₀, hit, c, crem, hvc, hunpaused, hactivated, h⟩ := h
  obtain ⟨m₁, r₁, rfl, -, d, rem, hvd, hopen, hfinal, h⟩ := h
  rw [Distribution.isDebtCalculationFinalized_setIsSolanaValidatorDebtWriteOffEnabled] at hfinal
  have href := Refines.start hc
  obtain ⟨-, hconfig⟩ := href.config hvc
  obtain ⟨hk, has⟩ := href.dist hvd
  obtain ⟨rem', lamports, step, hL', hpaid, -⟩ := growDistribution_refines href hk has
    (fun hfit => DistStep.enableWriteOff hopen hfinal hfit) h
  refine hL'.followed (.enableWriteOff hdata ⟨⟨crem, hconfig⟩, hunpaused⟩ hactivated has
    (by simp [Call.key?, hit, hk]) step ?_)
  rwa [Nat.zero_add, min_eq_left] at hpaid
  have := rt.rent.fits (dataEnd AccountState Distribution + rem'.length)
  omega

theorem tryWriteOffSolanaValidatorDebt_followed (hc : Canonical rt L) {amount : UInt64}
    {proof : MerkleProof} (hdata : call.data = .writeOffSolanaValidatorDebt amount proof)
    (h : tryWriteOffSolanaValidatorDebt rt amount proof (call.exec L) = .ok r) :
    Followed rt call L r := by
  simp only [tryWriteOffSolanaValidatorDebt, tryLeafIndex, ↓okOr_bind_ok, ↓verified_bind_ok,
    ProgramConfig.tryRequireUnpaused, ↓require_bind_ok, ↓zeroCopyMut_bind_ok, ↓account_bind_ok,
    ↓processLeaf_bind_ok, ↓store_bind_ok, Distribution.tryRequireHasNotSwept2zTokens,
    Distribution.tryRequireFinalizedDebtCalculation, store_eq_ok, Exec.advance_iter,
    Exec.advance_ledger, Exec.info_key, Call.exec_iter, Call.exec_ledger] at h
  obtain ⟨leafIndex, hindex, m₀, r₀, hit, c, crem, hvc, m₁, r₁, rfl, hsig, hkey, hunpaused, h⟩ := h
  obtain ⟨m₂, r₂, rfl, -, d, rem, hvd, m₃, r₃, rfl, -, p, prem, hvp, hshort, henabled, h⟩ := h
  obtain ⟨rem₁, hmarksOff, rem', hmarks, hroot, m₄, r₄, rfl, -, w, wrem, hvw, h⟩ := h
  obtain ⟨hlater, hunswept, hfinal, net, hnet, rfl⟩ := h
  have href := Refines.start hc
  obtain ⟨-, hconfig⟩ := href.config hvc
  obtain ⟨hk, has⟩ := href.dist hvd
  obtain ⟨hkp, hdeposit⟩ := href.deposit hvp
  have hlen : (L m₃.key).data.dataLen = dataEnd AccountState SolanaValidatorDeposit + prem.length := by
    rw [(view_eq_some.1 hvp).2]
    rfl
  rw [hlen, hkp, href.lamports_eq] at hshort
  -- The deposit, then the indebted distribution.
  let p' : SolanaValidatorDeposit := { p with writtenOffSolDebt := p.writtenOffSolDebt + amount }
  have hsound : (AccountState.solanaValidatorDeposit p).Sound rt prem := href.sound hdeposit
  have href₁ := href.rewrite (s := .solanaValidatorDeposit p') hdeposit hkp hsound
  have has₁ := has
  unfold Books.HasDist at has₁
  rw [← Books.set_entry_of_ne (i := .deposit p.nodeId) (s := .solanaValidatorDeposit p')
    (books rt L) prem (by simp)] at has₁
  have step : DistStep rt (.writeOff leafIndex ⟨p.nodeId, amount⟩) (d, rem) _ :=
    .writeOff henabled hmarksOff hmarks ⟨proof, hindex, hroot⟩
  have href₂ := href₁.stepDist hk has₁ step
  -- The write-off distribution is read from what was just stored.
  obtain ⟨hkw, hasBook⟩ := href₂.dist hvw
  have bookStep : DistStep rt (.book amount) (w, wrem) _ := .book hunswept hfinal hnet
  exact (href₂.stepDist hkw hasBook bookStep).followed (.writeOff hdata hindex
    ⟨⟨crem, hconfig⟩, hunpaused⟩ ⟨m₁, by simp [hit], hkey, hsig⟩ has (by simp [Call.key?, hit, hk])
    (by simp [Call.key?, hit, hkw]) hdeposit hshort step rfl hasBook hlater bookStep
    (by simp [Call.key?, hit, hkp]))

/-! ## Sweeping -/

theorem TokenTransfer.entry_eq {source target authority : Pubkey} {amount : UInt64} {b b' : Books}
    (h : TokenTransfer source target authority amount b b') : b'.entry = b.entry := by
  obtain ⟨a, c, -, -, -, -, -, ⟨-, rfl⟩ | ⟨-, -, rfl⟩⟩ := h
  · rfl
  · rfl

/-- The swap authority a sweep signs with is the one whose token account receives the 2Z. -/
theorem checkedSwapAuthorityAddress_key {c : ProgramConfig} {k : Pubkey}
    {rem : List (BitVec 8)} (hsound : (AccountState.programConfig c).Sound rt rem)
    (h : rt.checkedSwapAuthorityAddress c = some k) : k = rt.findSwapAuthorityAddress.1 := by
  unfold Runtime.checkedSwapAuthorityAddress at h
  split at h
  · cases h
  · next hne =>
    rw [(hsound.resolve_left hne).1] at h
    exact (Option.some.inj ((Runtime.create_find _).symm.trans h)).symm

/-- The token account a withdrawal looks for is the swap destination, once it was set up. -/
theorem checkedSwapDestination2zAddress_key {c : ProgramConfig} {k : Pubkey}
    {rem : List (BitVec 8)} (hsound : (AccountState.programConfig c).Sound rt rem)
    (h : rt.checkedSwapDestination2zAddress c = some k) :
    k = rt.swapDestinationKey ∧ c.swapAuthorityBumpSeed ≠ 0 := by
  obtain ⟨authority, hauthority, h⟩ := Option.bind_eq_some_iff.1 h
  have hkey := checkedSwapAuthorityAddress_key hsound hauthority
  unfold Runtime.checkedSwapAuthorityAddress at hauthority
  split at hauthority
  · cases hauthority
  · next hne =>
    rw [hkey, (hsound.resolve_left hne).2] at h
    exact ⟨(Option.some.inj ((Runtime.create_find _).symm.trans h)).symm, hne⟩

/-- What a sweep makes of its distribution and the journal. With debt to cover, the swap program is
invoked on the ledger the sweep starts from, and the 2Z it returned moves into the pool. -/
inductive Dequeued (rt : Runtime) (call : Call) (L L' : RevenueLedger) (d : Distribution)
    (j : Journal) : Distribution → Journal → Prop
  | nothing (zero : d.checkedTotalSolDebt = some 0)
      (tokens : (books rt L').tokens = (books rt L).tokens) :
      Dequeued rt call L L' d j (d.setHasSwept2zTokens true)
        { j with nextDzEpochToSweepTokens := j.nextDzEpochToSweepTokens.saturatingAddDuration 1 }
  | fills {totalSolDebt token2zAmount rest : UInt64} {L₁ : RevenueLedger} {programId : Pubkey}
      {returnData : List (BitVec 8)} {b₂ : Books}
      (debt : d.checkedTotalSolDebt = some totalSolDebt) (nonzero : totalSolDebt ≠ 0)
      (enough : totalSolDebt ≤ j.swappedSolAmount)
      (cpi : call.env.cpi L = .ok (L₁, some (programId, returnData)))
      (decoded : decodeReturnData returnData = some (totalSolDebt, token2zAmount, rest))
      (transfer : TokenTransfer rt.swapDestinationKey (rt.poolKey d.dzEpoch)
        rt.findSwapAuthorityAddress.1 token2zAmount (books rt L₁) b₂)
      (tokens : (books rt L').tokens = b₂.tokens) :
      Dequeued rt call L L' d j
        { d.setHasSwept2zTokens true with collected2zConvertedFromSol := token2zAmount }
        { j with
          nextDzEpochToSweepTokens := j.nextDzEpochToSweepTokens.saturatingAddDuration 1
          swappedSolAmount := j.swappedSolAmount - totalSolDebt
          swap2zDestinationBalance := j.swap2zDestinationBalance - token2zAmount }

theorem trySweepDistributionTokens_dequeued (hc : Canonical rt L) (ha : call.Admissible rt)
    (hdata : call.data = .sweepDistributionTokens)
    (h : trySweepDistributionTokens rt call.env (call.exec L) = .ok r) :
    Followed rt call L r ∧ ∃ d rem d' j jrem j',
      call.key? 1 = some (rt.distributionKey d.dzEpoch) ∧
      (books rt L).HasDist d rem ∧ d.hasSwept2zTokens = false ∧
      (books rt r.2.ledger).HasDist d' rem ∧
      (books rt L).entry .journal = some (.journal j, jrem) ∧
      (books rt r.2.ledger).entry .journal = some (.journal j', jrem) ∧
      Dequeued rt call L r.2.ledger d j d' j' := by
  simp only [trySweepDistributionTokens, ↓zeroCopy_bind_ok, ProgramConfig.tryRequireUnpaused,
    ↓require_bind_ok, ↓zeroCopyMut_bind_ok, Distribution.tryRequireHasNotSwept2zTokens,
    ↓unwrap!_bind_ok, ↓ite_eq_ok, Exec.advance_iter, Exec.advance_ledger, Exec.info_key,
    Call.exec_iter, Call.exec_ledger] at h
  obtain ⟨m₀, r₀, hit, c, crem, hvc, hunpaused, m₁, r₁, rfl, -, d, rem, hvd, hunswept, h⟩ := h
  obtain ⟨hfinal, m₂, r₂, rfl, -, j, jrem, hvj, hnext, totalSolDebt, hdebt, h⟩ := h
  rw [Distribution.isRewardsCalculationFinalized_setHasSwept2zTokens] at hfinal
  have href := Refines.start hc
  obtain ⟨-, hconfig⟩ := href.config hvc
  obtain ⟨hk, has⟩ := href.dist hvd
  obtain ⟨hkj, hjournal⟩ := href.journal hvj
  have running : (books rt L).Running c := ⟨⟨crem, hconfig⟩, hunpaused⟩
  have hsound : (AccountState.journal j).Sound rt jrem := href.sound hjournal
  rcases h with ⟨rfl, h⟩ | ⟨hne, h⟩
  · simp only [↓store_bind_ok, store_eq_ok] at h
    subst h
    have step : DistStep rt (.sweep 0 d.collected2zConvertedFromSol) (d, rem) _ :=
      .sweepNothing hunswept hfinal hdebt
    have href₁ := href.stepDist hk has step
    have hjournal₁ := hjournal
    rw [← Books.set_entry_of_ne (i := .distribution d.dzEpoch) _ _ _ (by simp)] at hjournal₁
    let j' : Journal := { j with
      nextDzEpochToSweepTokens := j.nextDzEpochToSweepTokens.saturatingAddDuration 1 }
    have href₂ := href₁.rewrite (s := .journal j') hjournal₁ hkj hsound
    have hkey : call.key? 1 = some (rt.distributionKey d.dzEpoch) := by simp [Call.key?, hit, hk]
    refine ⟨href₂.followed (.sweepNothing hdata running has hjournal hnext hdebt step hkey),
      d, rem, _, j, jrem, j', hkey, has, hunswept, href₂.hasDist ?_, hjournal, href₂.entry_self,
      .nothing hdebt href₂.books_tokens_eq⟩
    exact (Books.set_entry_of_ne (i := .journal) _ _ _ (by simp)).trans (Books.set_entry_self ..)
  · simp only [dequeueFills, ↓bind_bind_ok, ↓tryNext_bind_ok, accepts_default, true_and,
      ↓require_bind_ok, ↓invokeForeign_bind_ok, ↓okOr_bind_ok, ↓pure_bind_ok, ↓tokenPda_bind_ok,
      ↓unwrap!_bind_ok, ↓invokeSigned_bind_ok, ↓store_bind_ok, store_eq_ok, Exec.advance_iter,
      Exec.advance_ledger, Exec.info_key] at h
    obtain ⟨henough, m₃, r₃, rfl, m₄, r₄, rfl, m₅, r₅, rfl, m₆, r₆, rfl, -, _, -, L₁, returned, h⟩ := h
    obtain ⟨hcpi, _, hreturned, -, ⟨solAmount, token2zAmount, _⟩, hdecoded, hamount, m₇, r₇, rfl, _, hpda, h⟩ := h
    obtain ⟨m₈, r₈, rfl, _, hauthority, rfl, m₉, r₉, rfl, _, hswap, _, -, L₂, htransfer, h⟩ := h
    subst h
    have hamount : solAmount = totalSolDebt := hamount
    have hauth := checkedSwapAuthorityAddress_key (href.sound hconfig) hauthority
    have hsource : m₉.key = rt.swapDestinationKey := by
      have := tokenPda_key (.inl rfl) hswap
      rw [hauth] at this
      exact congrArg Prod.fst this
    have hpool : m₇.key = rt.poolKey d.dzEpoch := by
      have hsoundD : (AccountState.distribution d).Sound rt rem := href.sound has
      have := tokenPda_key (.inr (by rw [hk]; exact congrArg some hsoundD.2)) hpda
      rw [hk] at this
      exact congrArg Prod.fst this
    -- The swap program acts, then the 2Z it dequeued moves into the pool.
    obtain ⟨href₁, hforeign⟩ := href.foreign (ha L L₁ returned hcpi)
    obtain ⟨b₂, href₂, htokens⟩ := href₁.transfer htransfer
    have hentry : b₂.entry = (books rt L).entry := htokens.entry_eq.trans hforeign.entry_eq
    have step : DistStep rt (.sweep _ token2zAmount) (d, rem) _ := .sweep hunswept hfinal hdebt hne
    have has₂ : b₂.HasDist d rem := by
      unfold Books.HasDist
      rw [hentry]
      exact has
    have href₃ := href₂.stepDist hk has₂ step
    have hjournal₂ := hjournal
    rw [← hentry, ← Books.set_entry_of_ne (i := .distribution d.dzEpoch) _ _ _ (by simp)]
      at hjournal₂
    let j' : Journal := { j with
      nextDzEpochToSweepTokens := j.nextDzEpochToSweepTokens.saturatingAddDuration 1
      swappedSolAmount := j.swappedSolAmount - totalSolDebt
      swap2zDestinationBalance := j.swap2zDestinationBalance - token2zAmount }
    have href₄ := href₃.rewrite (s := .journal j') hjournal₂ hkj hsound
    rw [hsource, hpool, hauth] at htokens
    rw [hreturned] at hcpi
    rw [hamount] at hdecoded
    have hkey : call.key? 1 = some (rt.distributionKey d.dzEpoch) := by simp [Call.key?, hit, hk]
    have htransferred : TokenTransfer rt.swapDestinationKey (rt.poolKey d.dzEpoch)
        rt.findSwapAuthorityAddress.1 token2zAmount (books rt L₁) b₂ := by
      rw [href₁.books_eq]
      exact htokens
    refine ⟨href₄.followed (.sweep hdata running has hjournal hnext hdebt hne henough
      ⟨L, L₁, _, hc, hcpi, rfl, rfl⟩ hforeign htokens step ⟨L, L₁, _, _, _, hcpi, hdecoded⟩ hkey),
      d, rem, _, j, jrem, j', hkey, has, hunswept, href₄.hasDist ?_, hjournal, href₄.entry_self,
      .fills hdebt hne henough hcpi hdecoded htransferred href₄.books_tokens_eq⟩
    exact (Books.set_entry_of_ne (i := .journal) _ _ _ (by simp)).trans (Books.set_entry_self ..)

/-! ## Withdrawals -/

theorem tryWithdrawSol_followed (hc : Canonical rt L) {amount : UInt64}
    (hdata : call.data = .withdrawSol amount)
    (h : tryWithdrawSol rt call.env amount (call.exec L) = .ok r) : Followed rt call L r := by
  simp only [tryWithdrawSol, requireSiblingTransfer, ↓zeroCopy_bind_ok,
    ProgramConfig.tryRequireUnpaused, ↓require_bind_ok, ↓tryNext_bind_ok, ↓unwrap!_bind_ok,
    ↓bind_bind_ok, ↓okOr_bind_ok, ↓pure_bind_ok, ↓zeroCopyMut_bind_ok, ↓store_bind_ok,
    Exec.advance_iter, Exec.advance_ledger, Exec.info_key, Call.exec_iter, Call.exec_ledger] at h
  obtain ⟨m₀, r₀, hit, c, crem, hvc, hunpaused, -, m₁, r₁, rfl, -, _, -, -, h⟩ := h
  obtain ⟨sibling, hsibling, hprogram, transferAmount, hchecked, _, hdestination, h⟩ := h
  obtain ⟨_, hmint, rfl, _, htarget, rfl, h⟩ := h
  obtain ⟨m₂, r₂, rfl, -, j, jrem, hvj, henough, m₃, r₃, rfl, -, h⟩ := h
  have href := Refines.start hc
  obtain ⟨-, hconfig⟩ := href.config hvc
  obtain ⟨hkj, hjournal⟩ := href.journal hvj
  let j' : Journal := { j with
    totalSolBalance := j.totalSolBalance - amount
    swappedSolAmount := j.swappedSolAmount + amount
    swap2zDestinationBalance := j.swap2zDestinationBalance + transferAmount
    lifetimeSwapped2zAmount :=
      j.lifetimeSwapped2zAmount + BitVec.ofNat 128 transferAmount.toNat }
  have hsound : (AccountState.journal j).Sound rt jrem := href.sound hjournal
  have href₁ := href.rewrite (s := .journal j') hjournal hkj hsound
  obtain ⟨b₂, href₂, hmoved⟩ := Refines.moveLamports href₁ h
  rw [hkj] at hmoved
  obtain ⟨hkey, hready⟩ := checkedSwapDestination2zAddress_key (href.sound hconfig) hdestination
  exact href₂.followed (.withdrawSol hdata ⟨⟨crem, hconfig⟩, hunpaused⟩ hjournal henough hmoved
    ⟨sibling, hsibling, hprogram, hchecked, hmint, hkey ▸ htarget⟩ hready)

theorem nextAccount?_bind_ok {β : Type} {f : Option AccountInfo → RevenueProcessor β}
    {s : Exec AccountState} {r : β × Exec AccountState} :
    (nextAccount? >>= f) s = .ok r ↔ (s.iter = [] ∧ f none s = .ok r) ∨
      ∃ m rest, s.iter = m :: rest ∧ f (some (s.info m)) (s.advance rest) = .ok r := by
  simp only [bind_eq_ok, nextAccount?]
  cases hit : s.iter with
  | nil => simp
  | cons m rest => simp

theorem tryWithdrawSolanaValidatorDeposit_followed (hc : Canonical rt L)
    (hdata : call.data = .withdrawSolanaValidatorDeposit)
    (h : tryWithdrawSolanaValidatorDeposit rt (call.exec L) = .ok r) : Followed rt call L r := by
  simp only [tryWithdrawSolanaValidatorDeposit, ↓zeroCopy_bind_ok,
    ProgramConfig.tryRequireUnpaused, ↓require_bind_ok, ↓tryNext_bind_ok, accepts_default,
    true_and, Exec.advance_iter, Exec.advance_ledger, Exec.info_key, Call.exec_iter,
    Call.exec_ledger] at h
  obtain ⟨m₀, r₀, hit, c, crem, hvc, hunpaused, m₁, r₁, rfl, p, prem, hvp, m₂, r₂, rfl, hnode, h⟩ := h
  have href := Refines.start hc
  obtain ⟨-, hconfig⟩ := href.config hvc
  obtain ⟨hkp, hdeposit⟩ := href.deposit hvp
  -- The beneficiary is the validator node, or anyone if the node signed.
  obtain ⟨beneficiary, s, hs, hauthorized, hnonzero, h⟩ : ∃ beneficiary s, s.ledger = L ∧
      (beneficiary = p.nodeId ∨ call.Signed p.nodeId) ∧
      (L m₁.key).lamports - rt.rent.minimumBalance (dataEnd AccountState SolanaValidatorDeposit) -
        p.writtenOffSolDebt.toNat ≠ 0 ∧
      moveLamports m₁.key beneficiary ((L m₁.key).lamports -
        rt.rent.minimumBalance (dataEnd AccountState SolanaValidatorDeposit) -
        p.writtenOffSolDebt.toNat) s = .ok r := by
    rcases nextAccount?_bind_ok.1 h with ⟨-, h⟩ | ⟨m₃, r₃, hit', h⟩
    · simp only [↓require_bind_ok, ↓account_bind_ok] at h
      exact ⟨_, _, rfl, .inl hnode, h.2⟩
    · simp only [↓require_bind_ok, ↓account_bind_ok] at h
      exact ⟨_, _, rfl, .inr ⟨m₂, by simp [hit], hnode, h.1 rfl⟩, h.2⟩
  subst hs
  obtain ⟨b₁, href₁, hmoved⟩ := Refines.moveLamports href h
  rw [hkp] at hmoved hnonzero
  exact href₁.followed (.withdrawDeposit hdata ⟨⟨crem, hconfig⟩, hunpaused⟩ hdeposit rfl hnonzero
    hauthorized hmoved)

end

end DoubleZero.Revenue
