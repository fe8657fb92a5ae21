import DoubleZero.Revenue.Invariant.Change

/-!
# The 2Z pool of a distribution

Every distribution keeps its 2Z in a token account of its own, the pool. `Transition.pool` says what
a call does to it: the tokens that come in are counted as collected, the tokens that go out as
distributed or burned. Whatever else comes in is a gift; nothing else goes out, as long as the
programs that are called leave the accounts of derived authorities alone.
-/

namespace DoubleZero.Revenue

open DoubleZero.Lib DoubleZero.Solana

/-! ## Token accounts -/

section

variable {rt : Runtime} {b b' b₁ : Books} {source target authority k : Pubkey} {amount : UInt64}

theorem TokenTransfer.tokens_of_ne (h : TokenTransfer source target authority amount b b')
    (hs : k ≠ source) (ht : k ≠ target) : b'.tokens k = b.tokens k := by
  obtain ⟨a, c, -, -, -, -, -, ⟨-, rfl⟩ | ⟨-, -, rfl⟩⟩ := h
  · rfl
  · rw [Books.setToken_tokens, if_neg ht, Books.setToken_tokens, if_neg hs]

/-- A transfer takes its amount out of the source. -/
theorem TokenTransfer.source_eq (h : TokenTransfer source target authority amount b b')
    (hne : source ≠ target) : ∃ a a', b.tokens source = some a ∧ b'.tokens source = some a' ∧
      a'.mint = a.mint ∧ a'.owner = a.owner ∧
      a.amount.toNat = a'.amount.toNat + amount.toNat := by
  obtain ⟨a, c, ha, -, hle, -, -, ⟨heq, -⟩ | ⟨-, -, rfl⟩⟩ := h
  · exact absurd heq hne
  · refine ⟨a, { a with amount := a.amount - amount }, ha, ?_, rfl, rfl, ?_⟩
    · rw [Books.setToken_tokens, if_neg hne, Books.setToken_tokens, if_pos rfl]
    · have hle := UInt64.le_iff_toNat_le.1 hle
      rw [toNat_sub_of_le (UInt64.le_iff_toNat_le.2 hle)]
      omega

/-- A transfer adds its amount to the target. -/
theorem TokenTransfer.target_eq (h : TokenTransfer source target authority amount b b')
    (hne : source ≠ target) : ∃ c c', b.tokens target = some c ∧ b'.tokens target = some c' ∧
      c'.mint = c.mint ∧ c'.owner = c.owner ∧
      c'.amount.toNat = c.amount.toNat + amount.toNat := by
  obtain ⟨a, c, -, hc, -, -, -, ⟨heq, -⟩ | ⟨-, hlt, rfl⟩⟩ := h
  · exact absurd heq hne
  · refine ⟨c, { c with amount := c.amount + amount }, hc, ?_, rfl, rfl, toNat_add_of_lt hlt⟩
    rw [Books.setToken_tokens, if_pos rfl]

theorem TokenBurn.tokens_of_ne {mint : Pubkey} (h : TokenBurn source mint authority amount b b')
    (hs : k ≠ source) : b'.tokens k = b.tokens k := by
  obtain ⟨a, -, -, -, -, rfl⟩ := h
  rw [Books.setToken_tokens, if_neg hs]

theorem TokenBurn.source_eq {mint : Pubkey} (h : TokenBurn source mint authority amount b b') :
    ∃ a a', b.tokens source = some a ∧ b'.tokens source = some a' ∧ a'.mint = a.mint ∧
      a'.owner = a.owner ∧ a.amount.toNat = a'.amount.toNat + amount.toNat := by
  obtain ⟨a, ha, hle, -, -, rfl⟩ := h
  refine ⟨a, { a with amount := a.amount - amount }, ha, ?_, rfl, rfl, ?_⟩
  · rw [Books.setToken_tokens, if_pos rfl]
  · have hle' := UInt64.le_iff_toNat_le.1 hle
    rw [toNat_sub_of_le hle]
    omega

end

/-! ## Payouts -/

section

variable {rt : Runtime} {b b' : Books} {e : DoubleZeroEpoch} {authority k : Pubkey} {share : UInt64}
  {rs : List RecipientShare}

/-- What the recipients are paid in total. -/
def payoutSum (share : UInt64) (rs : List RecipientShare) : Nat :=
  (rs.map fun r => (r.share.mulScalar share).toNat).sum

theorem toNat_payoutTotal (share : UInt64) (rs : List RecipientShare) :
    (payoutTotal share rs).toNat = payoutSum share rs % 2 ^ 64 := by
  have hfold : ∀ total : UInt64,
      (rs.foldl (fun total r => total + r.share.mulScalar share) total).toNat =
        (total.toNat + payoutSum share rs) % 2 ^ 64 := by
    intro total
    induction rs generalizing total with
    | nil => exact (Nat.mod_eq_of_lt total.toNat_lt).symm
    | cons r rs ih =>
      rw [List.foldl_cons, ih, UInt64.toNat_add, Nat.mod_add_mod, payoutSum, payoutSum,
        List.map_cons, List.sum_cons, Nat.add_assoc]
  rw [payoutTotal, hfold, UInt64.toNat_zero, Nat.zero_add]

/-- Paying the recipients takes the sum out of the pool. -/
theorem Payouts.pool_eq (h : Payouts rt (rt.poolKey e) authority share rs b b') {a : TokenAccount}
    (ha : b.tokens (rt.poolKey e) = some a) : ∃ a', b'.tokens (rt.poolKey e) = some a' ∧
      a'.mint = a.mint ∧ a'.owner = a.owner ∧
      a.amount.toNat = a'.amount.toNat + payoutSum share rs := by
  induction h generalizing a with
  | nil => exact ⟨a, ha, rfl, rfl, rfl⟩
  | @cons r rs b b₁ b₂ htransfer _ ih =>
    obtain ⟨a₀, a₁, ha₀, ha₁, hmint, howner, hamount⟩ :=
      htransfer.source_eq (Runtime.find_ne_ata _ _ _)
    cases ha.symm.trans ha₀
    obtain ⟨a₂, ha₂, hmint', howner', hamount'⟩ := ih ha₁
    refine ⟨a₂, ha₂, hmint'.trans hmint, howner'.trans howner, ?_⟩
    rw [payoutSum, List.map_cons, List.sum_cons, hamount, hamount', payoutSum]
    omega

theorem Payouts.pool_of_ne {e' : DoubleZeroEpoch}
    (h : Payouts rt (rt.poolKey e) authority share rs b b') (hne : e' ≠ e) :
    b'.tokens (rt.poolKey e') = b.tokens (rt.poolKey e') := by
  induction h with
  | nil => rfl
  | cons htransfer _ ih =>
    refine ih.trans (htransfer.tokens_of_ne (by simpa using hne) ?_)
    exact Runtime.find_ne_ata _ _ _

end

/-! ## The pool -/

/-- What was collected, in total. -/
def Distribution.collected (d : Distribution) : Nat :=
  d.collectedPrepaid2zPayments.toNat + d.collected2zConvertedFromSol.toNat +
    d.collected2zFromIntegrations.toNat

/-- What two states of a distribution say was distributed and burned in between. -/
def Distribution.distributedSince (d d' : Distribution) : Nat :=
  (d'.distributed2zAmount - d.distributed2zAmount).toNat

def Distribution.burnedSince (d d' : Distribution) : Nat :=
  (d'.burned2zAmount - d.burned2zAmount).toNat

/-- The pool of an epoch holds `n`. -/
def Books.PoolHolds (rt : Runtime) (b : Books) (e : DoubleZeroEpoch) (n : Nat) : Prop :=
  ∃ a, b.tokens (rt.poolKey e) = some a ∧ a.owner = rt.distributionKey e ∧ a.amount.toNat = n

/-- The pools stay under their authority, and nothing is taken out of them. -/
def Books.KeepsPools (rt : Runtime) (b b' : Books) : Prop :=
  ∀ e n, b.PoolHolds rt e n → ∃ gift, b'.PoolHolds rt e (n + gift)

/-- The steps that neither collect nor pay out 2Z. -/
def DistAction.keeps2z : DistAction → Bool
  | .collect _ _ | .distribute _ _ _ _ | .sweep _ _ => false
  | _ => true

section

variable {rt : Runtime} {call : Call} {a : DistAction} {s s' : DistState} {b b' b₁ : Books}
  {e : DoubleZeroEpoch} {n gift : Nat} {d d' : Distribution} {rem rem' : List (BitVec 8)}

theorem Books.PoolHolds.of_eq (h : b.PoolHolds rt e n)
    (heq : b'.tokens (rt.poolKey e) = b.tokens (rt.poolKey e)) : b'.PoolHolds rt e n := by
  obtain ⟨a, ha, howner, hamount⟩ := h
  exact ⟨a, heq.trans ha, howner, hamount⟩

/-- A token account that is created elsewhere. -/
theorem Books.PoolHolds.of_vacant {k : Pubkey} {c : TokenAccount} (h : b.PoolHolds rt e n)
    (hvacant : b.tokens k = none) : (b.setToken k c).PoolHolds rt e n := by
  obtain ⟨a, ha, howner, hamount⟩ := h
  refine ⟨a, ?_, howner, hamount⟩
  rw [Books.setToken_tokens, if_neg, ha]
  rintro rfl
  exact absurd (ha.symm.trans hvacant) (by simp)

theorem Books.KeepsTokens.pools (hkeeps : b.KeepsTokens rt b') : b.KeepsPools rt b' := by
  rintro e n ⟨a, ha, howner, rfl⟩
  obtain ⟨a', ha', -, howner', hle⟩ := hkeeps _ a ha (howner ▸ Runtime.derived_find _)
  refine ⟨a'.amount.toNat - a.amount.toNat, a', ha', howner'.trans howner, ?_⟩
  have hle := UInt64.le_iff_toNat_le.1 hle
  omega

theorem LamportMove.tokens_eq {source target : Pubkey} (h : LamportMove source target n b b') :
    b'.tokens = b.tokens := by
  rcases h with ⟨-, rfl⟩ | ⟨-, -, -, rfl⟩
  · rfl
  · rfl

theorem DistStep.keeps2z_eq (hstep : DistStep rt a s s') (ha : a.keeps2z = true) :
    s'.1.collected = s.1.collected ∧ s'.1.distributed2zAmount = s.1.distributed2zAmount ∧
      s'.1.burned2zAmount = s.1.burned2zAmount := by
  cases hstep with
  | collect | distribute | sweepNothing | sweep => exact absurd ha (by simp [DistAction.keeps2z])
  | _ => exact ⟨rfl, rfl, rfl⟩

/-- What a call makes of a distribution and its pool, with a gift from outside. -/
structure PoolStep (rt : Runtime) (b b' : Books) (d : Distribution) (n gift : Nat)
    (d' : Distribution) (rem' : List (BitVec 8)) (n' : Nat) : Prop where
  has : b'.HasDist d' rem'
  epoch : d'.dzEpoch = d.dzEpoch
  holds : b'.PoolHolds rt d.dzEpoch n'
  balanced : d'.collected + n + gift =
    d.collected + n' + d.distributedSince d' + d.burnedSince d'
  paid : d.distributedSince d' = 0 ∧ d.burnedSince d' = 0 ∨ d'.collected < 2 ^ 64
  drawn : d.distributedSince d' + d.burnedSince d' ≤ n

theorem PoolStep.of_same (has : b'.HasDist d' rem') (hepoch : d'.dzEpoch = d.dzEpoch)
    (hholds : b'.PoolHolds rt d.dzEpoch (n + gift)) (hcollected : d'.collected = d.collected)
    (hdistributed : d'.distributed2zAmount = d.distributed2zAmount)
    (hburned : d'.burned2zAmount = d.burned2zAmount) :
    PoolStep rt b b' d n gift d' rem' (n + gift) := by
  have hpaid : d.distributedSince d' = 0 ∧ d.burnedSince d' = 0 := by
    rw [Distribution.distributedSince, Distribution.burnedSince, hdistributed, hburned,
      UInt64.sub_self, UInt64.sub_self]
    exact ⟨rfl, rfl⟩
  refine ⟨has, hepoch, hholds, ?_, .inl hpaid, by omega⟩
  rw [hcollected, hpaid.1, hpaid.2]
  omega

/-- A call that moves no 2Z in or out of the pool. -/
theorem Transition.pool_other (ht : Transition rt call b b')
    (hkeeps : ∀ {a}, Does rt call b d.dzEpoch a → a.keeps2z = true) (hd : b.HasDist d rem)
    (hholds : b'.PoolHolds rt d.dzEpoch (n + gift)) :
    ∃ d' rem', PoolStep rt b b' d n gift d' rem' (n + gift) := by
  cases ht.change d.dzEpoch with
  | kept same => exact ⟨d, rem, .of_same (same.trans hd) rfl hholds rfl rfl rfl⟩
  | create data journal new initialized epoch created =>
    exact absurd (new.symm.trans hd) (by simp)
  | step does epoch has step has' =>
    obtain ⟨rfl, rfl⟩ := has.unique hd epoch.symm
    obtain ⟨hcollected, hdistributed, hburned⟩ := step.keeps2z_eq (hkeeps does)
    exact ⟨_, _, .of_same has' step.fixed.1 hholds hcollected hdistributed hburned⟩
  | twice does books epoch has step step' has' =>
    obtain ⟨rfl, rfl⟩ := has.unique hd epoch.symm
    obtain ⟨hcollected, hdistributed, hburned⟩ := step.keeps2z_eq rfl
    obtain ⟨hcollected', hdistributed', hburned'⟩ := step'.keeps2z_eq rfl
    exact ⟨_, _, .of_same has' (step'.fixed.1.trans step.fixed.1) hholds
      (hcollected'.trans hcollected) (hdistributed'.trans hdistributed) (hburned'.trans hburned)⟩

/-- A call that distributes rewards takes exactly what it counts out of the pool. -/
theorem Books.PoolHolds.distribute {authority mint : Pubkey} {share burned : UInt64}
    {rs : List RecipientShare} {b₂ : Books} (h : b.PoolHolds rt e n)
    (hpayouts : Payouts rt (rt.poolKey e) authority share rs b b₁)
    (hburn : TokenBurn (rt.poolKey e) mint authority burned (b₁.setDist d' rem') b₂) :
    ∃ n', b₂.PoolHolds rt e n' ∧ n = n' + (payoutTotal share rs).toNat + burned.toNat := by
  obtain ⟨a, ha, howner, rfl⟩ := h
  obtain ⟨a₁, ha₁, -, howner₁, hamount₁⟩ := hpayouts.pool_eq ha
  obtain ⟨a₁', a₂, ha₁', ha₂, -, howner₂, hamount₂⟩ := hburn.source_eq
  cases ha₁.symm.trans ha₁'
  refine ⟨a₂.amount.toNat, ⟨a₂, ha₂, howner₂.trans (howner₁.trans howner), rfl⟩, ?_⟩
  have hlt := a.amount.toNat_lt
  rw [toNat_payoutTotal, Nat.mod_eq_of_lt (by omega)]
  omega

theorem Runtime.swapDestinationKey_ne_poolKey (e : DoubleZeroEpoch) :
    rt.swapDestinationKey ≠ rt.poolKey e := by
  intro h
  have hseeds := Runtime.find_inj.1 h
  simp only [token2zPdaSeeds, List.cons.injEq, Seed.key.injEq, and_true, true_and] at hseeds
  exact absurd (Runtime.find_inj.1 hseeds) (by simp [swapAuthoritySeeds, Distribution.seeds])

/-- The call collects into the distribution of the epoch. -/
def Call.Collects (rt : Runtime) (call : Call) (e : DoubleZeroEpoch) : Prop :=
  call.data = .collectIntegrationRewards ∧ call.key? 1 = some (rt.distributionKey e)

/-- The programs the call invokes leave the pool of the epoch alone, unless they are asked for
2Z. -/
def Call.Spares (rt : Runtime) (call : Call) (e : DoubleZeroEpoch) : Prop :=
  ∀ b₁ b₂, call.Invokes rt b₁ b₂ →
    call.Collects rt e ∨ b₂.tokens (rt.poolKey e) = b₁.tokens (rt.poolKey e)

/-- The programs the call invokes take nothing out of a pool. -/
def Call.Honest (rt : Runtime) (call : Call) : Prop :=
  ∀ L L' returnData, call.env.cpi L = .ok (L', returnData) →
    (books rt L).KeepsPools rt (books rt L')

theorem Call.Honest.invokes (h : call.Honest rt) (hinvokes : call.Invokes rt b b') :
    b.KeepsPools rt b' := by
  obtain ⟨L, L', returnData, -, hcpi, rfl, rfl⟩ := hinvokes
  exact h L L' returnData hcpi

theorem Books.PoolHolds.unique {m : Nat} (h : b.PoolHolds rt e n) (h' : b.PoolHolds rt e m) :
    n = m := by
  obtain ⟨a, ha, -, rfl⟩ := h
  obtain ⟨a', ha', -, rfl⟩ := h'
  cases ha.symm.trans ha'
  rfl

/-- What the invoked programs leave in a pool they were not asked to fill. -/
theorem Call.Honest.adds (h : call.Honest rt) (hinvokes : call.Invokes rt b b')
    (hholds : b.PoolHolds rt e n) (hother : ¬ call.Collects rt e) :
    ∃ gift, b'.PoolHolds rt e (n + gift) ∧ (call.Spares rt e → gift = 0) := by
  obtain ⟨gift, hgift⟩ := h.invokes hinvokes e n hholds
  refine ⟨gift, hgift, fun hspares => ?_⟩
  have hsame := (hspares b b' hinvokes).resolve_left hother
  have heq := hgift.unique (hholds.of_eq hsame)
  omega

/-- What the integration sends to the pool is what is counted as collected. -/
theorem PoolStep.collect {index : UInt16} {amount : UInt64} (h : call.Honest rt)
    (hinvokes : call.Invokes rt b b₁) (hholds : b.PoolHolds rt d.dzEpoch n)
    (hdelta : ∀ a a', b.tokens (rt.poolKey d.dzEpoch) = some a →
      b₁.tokens (rt.poolKey d.dzEpoch) = some a' → amount = a'.amount - a.amount)
    (hstep : DistStep rt (.collect index amount) (d, rem) (d', rem')) :
    ∃ n', PoolStep rt b (b₁.setDist d' rem') d n 0 d' rem' n' := by
  obtain ⟨gift, hholds'⟩ := h.invokes hinvokes _ n hholds
  have hpaid : d.distributedSince d' = 0 ∧ d.burnedSince d' = 0 := by
    cases hstep with
    | collect => simp [Distribution.distributedSince, Distribution.burnedSince]
  refine ⟨n + gift, Books.set_entry_self .., hstep.fixed.1, hholds'.of_eq rfl, ?_, .inl hpaid,
    by omega⟩
  obtain ⟨a, ha, -, rfl⟩ := hholds
  obtain ⟨a', ha', -, hamount⟩ := hholds'
  have hcounted : amount.toNat = gift := by
    rw [hdelta a a' ha ha', toNat_sub_of_le (UInt64.le_iff_toNat_le.2 (by omega))]
    omega
  cases hstep with
  | collect _ _ _ _ hsum _ =>
    obtain ⟨-, htotal⟩ := checkedAdd_eq_some.1 hsum
    simp only [Distribution.collected, Distribution.distributedSince, Distribution.burnedSince,
      UInt64.sub_self, UInt64.toNat_zero, htotal, hcounted]
    omega

theorem totalCollected2zTokens_eq_some {total : UInt64} :
    d.totalCollected2zTokens = some total ↔ total.toNat = d.collected := by
  simp only [Distribution.totalCollected2zTokens, Option.bind_eq_some_iff, checkedAdd_eq_some,
    Distribution.collected]
  have hlt := total.toNat_lt
  constructor
  · rintro ⟨amount, ⟨-, hamount⟩, -, htotal⟩
    omega
  · intro htotal
    refine ⟨d.collectedPrepaid2zPayments + d.collected2zConvertedFromSol, ?_, ?_⟩
    · exact ⟨by omega, toNat_add_of_lt (by omega)⟩
    · rw [toNat_add_of_lt (by omega)]
      omega

theorem split2zAmount_total {rewardShare : RewardShare} {split : UInt64 × UInt64}
    (h : d.split2zAmount rewardShare = some split) :
    ∃ total, d.totalCollected2zTokens = some total := by
  simp only [Distribution.split2zAmount, Option.bind_eq_bind, Option.bind_eq_some_iff] at h
  obtain ⟨unitShare, -, total, htotal, -⟩ := h
  exact ⟨total, htotal⟩

theorem DistStep.distribute_since {leafIndex : UInt32} {rewardShare : RewardShare}
    {transferred burned : UInt64}
    (hstep : DistStep rt (.distribute leafIndex rewardShare transferred burned) s s') :
    s'.1.collected = s.1.collected ∧ s.1.distributedSince s'.1 = transferred.toNat ∧
      s.1.burnedSince s'.1 = burned.toNat ∧ s.1.collected < 2 ^ 64 := by
  cases hstep with
  | distribute _ _ _ _ _ hsplit =>
    refine ⟨rfl, toNat_add_sub_self _ _, toNat_add_sub_self _ _, ?_⟩
    obtain ⟨total, htotal⟩ := split2zAmount_total hsplit
    rw [← (totalCollected2zTokens_eq_some.1 htotal)]
    exact total.toNat_lt

/-- What is paid out of the pool or burned is what is counted as such. -/
theorem PoolStep.distribute {b₂ b₃ : Books} {authority mint relayer : Pubkey} {share : UInt64}
    {burned : UInt64} {relay : Nat} {rs : List RecipientShare} {leafIndex : UInt32}
    {rewardShare : RewardShare} (hholds : b.PoolHolds rt d.dzEpoch n)
    (hpayouts : Payouts rt (rt.poolKey d.dzEpoch) authority share rs b b₁)
    (hburn : TokenBurn (rt.poolKey d.dzEpoch) mint authority burned (b₁.setDist d' rem') b₂)
    (hrelayed : LamportMove (rt.distributionKey d.dzEpoch) relayer relay b₂ b₃)
    (hstep : DistStep rt (.distribute leafIndex rewardShare (payoutTotal share rs) burned) (d, rem)
      (d', rem')) : ∃ n', PoolStep rt b b₃ d n 0 d' rem' n' := by
  obtain ⟨n', hholds', hn⟩ := hholds.distribute hpayouts hburn
  obtain ⟨hcollected, hdistributed, hburned, hlt⟩ := hstep.distribute_since
  simp only at hcollected hdistributed hburned hlt
  refine ⟨n', ?_, hstep.fixed.1, hholds'.of_eq (by rw [hrelayed.tokens_eq]), ?_,
    .inr (hcollected ▸ hlt), by omega⟩
  · rw [Books.HasDist, hrelayed.entry_eq, hburn.entry_eq]
    exact Books.set_entry_self ..
  · rw [hcollected, hdistributed, hburned]
    omega

/-- What is swept into the pool is what is counted as converted. -/
theorem PoolStep.sweep {b₂ : Books} {authority : Pubkey} {solDebt token2zAmount : UInt64}
    {j : AccountState} {jrem : List (BitVec 8)} (hv : Valid (d, rem)) (hnonzero : solDebt ≠ 0)
    (hholds : b₁.PoolHolds rt d.dzEpoch (n + gift))
    (htransfer : TokenTransfer rt.swapDestinationKey (rt.poolKey d.dzEpoch) authority token2zAmount
      b₁ b₂)
    (hstep : DistStep rt (.sweep solDebt token2zAmount) (d, rem) (d', rem')) :
    ∃ n', PoolStep rt b ((b₂.setDist d' rem').set .journal j jrem) d n gift d' rem' n' := by
  obtain ⟨a, ha, howner, hamount⟩ := hholds
  obtain ⟨a₁, a', ha₁, ha', -, howner', hamount'⟩ :=
    htransfer.target_eq (Runtime.swapDestinationKey_ne_poolKey _)
  cases ha.symm.trans ha₁
  have hswept : d'.collected = d.collected + token2zAmount.toNat ∧
      d.distributedSince d' = 0 ∧ d.burnedSince d' = 0 := by
    cases hstep with
    | sweepNothing => exact absurd rfl hnonzero
    | sweep hunswept _ _ _ =>
      have hzero : d.collected2zConvertedFromSol = 0 := (hv.booked.unswept hunswept).1
      have hsame : ∀ x : UInt64, (x - x).toNat = 0 := by simp
      refine ⟨?_, hsame _, hsame _⟩
      show d.collectedPrepaid2zPayments.toNat + token2zAmount.toNat +
        d.collected2zFromIntegrations.toNat = d.collected + token2zAmount.toNat
      rw [Distribution.collected, hzero, UInt64.toNat_zero]
      omega
  refine ⟨a'.amount.toNat, ?_, hstep.fixed.1, ⟨a', ha', howner'.trans howner, rfl⟩, ?_,
    .inl hswept.2, by omega⟩
  · rw [Books.HasDist, Books.set_entry_of_ne _ _ _ (by simp)]
    exact Books.set_entry_self ..
  · rw [hamount', hamount, hswept.1, hswept.2.1, hswept.2.2]
    omega

theorem Transition.pool (ht : Transition rt call b b') (hhonest : call.Honest rt)
    (hv : Valid (d, rem)) (hd : b.HasDist d rem) (hholds : b.PoolHolds rt d.dzEpoch n) :
    ∃ d' rem' n' gift, PoolStep rt b b' d n gift d' rem' n' ∧
      (call.Spares rt d.dzEpoch → gift = 0) := by
  have hgiven : (∀ {a}, Does rt call b d.dzEpoch a → a.keeps2z = true) →
      ∀ gift, b'.PoolHolds rt d.dzEpoch (n + gift) → (call.Spares rt d.dzEpoch → gift = 0) →
      ∃ d' rem' n' gift, PoolStep rt b b' d n gift d' rem' n' ∧
        (call.Spares rt d.dzEpoch → gift = 0) := by
    intro hkeeps gift hholds' hgift
    obtain ⟨d', rem', hstep⟩ := ht.pool_other hkeeps hd hholds'
    exact ⟨d', rem', _, gift, hstep, hgift⟩
  have hother : (∀ {a}, Does rt call b d.dzEpoch a → a.keeps2z = true) →
      b'.PoolHolds rt d.dzEpoch n → ∃ d' rem' n' gift, PoolStep rt b b' d n gift d' rem' n' ∧
        (call.Spares rt d.dzEpoch → gift = 0) :=
    fun hkeeps hsame => hgiven hkeeps 0 hsame fun _ => rfl
  have hdoes : call.data ≠ .collectIntegrationRewards →
      (∀ u r p, call.data ≠ .distributeRewards u r p) → call.data ≠ .sweepDistributionTokens →
      ∀ {a}, Does rt call b d.dzEpoch a → a.keeps2z = true := by
    intro hcollect hdistribute hsweep a hdoes
    cases hdoes with
    | collect data => exact absurd data hcollect
    | distribute data => exact absurd data (hdistribute _ _ _)
    | sweep data => exact absurd data hsweep
    | _ => rfl
  cases ht with
  | @collect c d₀ d₀' rem₀ rem₀' irem i amount b₁ data running has integration keyDist keyIntegration
      invokes foreign delta step =>
    by_cases he : d.dzEpoch = d₀.dzEpoch
    · obtain ⟨rfl, rfl⟩ := has.unique hd he
      obtain ⟨n', hstep⟩ := PoolStep.collect hhonest invokes hholds delta step
      exact ⟨d₀', rem₀', n', 0, hstep, fun _ => rfl⟩
    · have hkey : call.key? 1 ≠ some (rt.distributionKey d.dzEpoch) := by
        rw [keyDist]
        exact fun h => he (Runtime.distributionKey_inj.1 (Option.some.inj h)).symm
      obtain ⟨gift, hholds', hgift⟩ := hhonest.adds invokes hholds fun hc => hkey hc.2
      refine hgiven (fun hdoes' => ?_) gift (hholds'.of_eq rfl) hgift
      cases hdoes' with
      | collect _ _ keyDist' => exact absurd keyDist' hkey
      | distribute data' | sweep data' => simp [data] at data'
      | _ => rfl
  | @distribute c d₀ d₀' rem₀ rem₀' _ _ _ _ _ _ _ _ _ _ b₁ b₂ _ data indexed running has keyDist
      contributor share recipients split payouts step burn relayed =>
    by_cases he : d.dzEpoch = d₀.dzEpoch
    · obtain ⟨rfl, rfl⟩ := has.unique hd he
      obtain ⟨n', hstep⟩ := PoolStep.distribute hholds payouts burn relayed step
      exact ⟨d₀', rem₀', n', 0, hstep, fun _ => rfl⟩
    · refine hother (fun hdoes' => ?_) (hholds.of_eq ?_)
      · cases hdoes' with
        | distribute _ _ keyDist' =>
          rw [keyDist] at keyDist'
          exact absurd (Runtime.distributionKey_inj.1 (Option.some.inj keyDist')).symm he
        | collect data' | sweep data' => simp [data] at data'
        | _ => rfl
      · rw [relayed.tokens_eq, burn.tokens_of_ne (by simpa using he)]
        exact payouts.pool_of_ne he
  | @sweepNothing c d₀ d₀' rem₀ rem₀' jrem j data running has journal next zero step =>
    by_cases he : d.dzEpoch = d₀.dzEpoch
    · obtain ⟨rfl, rfl⟩ := has.unique hd he
      have hsame : d₀'.collected = d.collected ∧ d₀'.distributed2zAmount = d.distributed2zAmount ∧
          d₀'.burned2zAmount = d.burned2zAmount := by
        generalize hconverted : d.collected2zConvertedFromSol = converted at step
        cases step with
        | sweepNothing => exact ⟨rfl, rfl, rfl⟩
        | sweep _ _ _ hnonzero => exact absurd rfl hnonzero
      refine ⟨d₀', rem₀', n, 0, .of_same ?_ step.fixed.1 (hholds.of_eq rfl) hsame.1
        hsame.2.1 hsame.2.2, fun _ => rfl⟩
      rw [Books.HasDist, Books.set_entry_of_ne _ _ _ (by simp)]
      exact Books.set_entry_self ..
    · refine hother (fun hdoes' => ?_) (hholds.of_eq rfl)
      cases hdoes' with
      | sweep _ journal' next' =>
        cases journal'.symm.trans journal
        exact absurd (next'.symm.trans next) he
      | collect data' | distribute data' => simp [data] at data'
      | _ => rfl
  | @sweep c d₀ d₀' rem₀ rem₀' jrem j _ _ b₁ b₂ data running has journal next debt nonzero enough
      invokes foreign transfer step =>
    obtain ⟨gift, hholds', hgift⟩ := hhonest.adds invokes hholds fun hc => by
      simpa [data] using hc.1
    by_cases he : d.dzEpoch = d₀.dzEpoch
    · obtain ⟨rfl, rfl⟩ := has.unique hd he
      obtain ⟨n', hstep⟩ := PoolStep.sweep (b := b) hv nonzero hholds' transfer step
      exact ⟨d₀', rem₀', n', gift, hstep, hgift⟩
    · refine hgiven (fun hdoes' => ?_) gift (hholds'.of_eq ?_) hgift
      · cases hdoes' with
        | sweep _ journal' next' =>
          cases journal'.symm.trans journal
          exact absurd (next'.symm.trans next) he
        | collect data' | distribute data' => simp [data] at data'
        | _ => rfl
      · refine transfer.tokens_of_ne (Runtime.swapDestinationKey_ne_poolKey _).symm ?_
        simpa using he
  | initializeProgram data new funds vacant =>
    refine hother (hdoes (by simp [data]) (by simp [data]) (by simp [data])) ?_
    exact hholds.of_vacant vacant
  | initializeSwapDestination data config funds vacant =>
    refine hother (hdoes (by simp [data]) (by simp [data]) (by simp [data])) ?_
    exact (hholds.of_eq rfl).of_vacant vacant
  | initializeJournal data new funds exempt vacant =>
    refine hother (hdoes (by simp [data]) (by simp [data]) (by simp [data])) ?_
    exact hholds.of_vacant vacant
  | @initializeDistribution c c' crem jrem j rate d₀ prepaid lamports b₁ data config unpaused signed
      journal new advanced initialized rate_eq funds exempt moved vacant =>
    refine hother (hdoes (by simp [data]) (by simp [data]) (by simp [data])) ?_
    have he : d.dzEpoch ≠ d₀.dzEpoch := by
      intro he
      rw [← initialized.dzEpoch_eq, ← he, hd] at new
      cases new
    have hcreated : ((b.set .config (.programConfig c') crem).setToken (rt.poolKey d₀.dzEpoch)
        ⟨DOUBLEZERO_MINT_KEY, rt.distributionKey d₀.dzEpoch, 0⟩).PoolHolds rt d.dzEpoch n :=
      (hholds.of_eq rfl).of_vacant vacant
    refine hcreated.of_eq ?_
    rcases moved with ⟨-, rfl⟩ | htransfer
    · rfl
    · refine htransfer.tokens_of_ne (Runtime.find_ne_ata _ _ _) ?_
      simpa using he
  | pay data indexed running has keyDist deposit journal step enough moved =>
    refine hother (hdoes (by simp [data]) (by simp [data]) (by simp [data])) (hholds.of_eq ?_)
    rw [moved.tokens_eq]
    rfl
  | withdrawSol data running journal enough moved =>
    refine hother (hdoes (by simp [data]) (by simp [data]) (by simp [data])) (hholds.of_eq ?_)
    rw [moved.tokens_eq]
    rfl
  | withdrawDeposit data running deposit amount nonzero authorized moved =>
    refine hother (hdoes (by simp [data]) (by simp [data]) (by simp [data])) (hholds.of_eq ?_)
    rw [moved.tokens_eq]
  | migrate data journal migrated =>
    refine hother (hdoes (by simp [data]) (by simp [data]) (by simp [data])) (hholds.of_eq ?_)
    rw [migrated.tokens_eq]
  | writeOff data indexed running signed has keyDist keyBook deposit short step written hasBook later
      bookStep =>
    subst written
    exact hother (hdoes (by simp [data]) (by simp [data]) (by simp [data])) (hholds.of_eq rfl)
  | _ =>
    have hdata := ‹call.data = _›
    exact hother (hdoes (by simp [hdata]) (by simp [hdata]) (by simp [hdata])) (hholds.of_eq rfl)

/-- A new distribution starts with the prepaid 2Z in its pool. -/
theorem Transition.pool_new (ht : Transition rt call b b')
    (hnone : b.entry (.distribution d.dzEpoch) = none) (hd : b'.HasDist d rem) :
    b'.PoolHolds rt d.dzEpoch d.collected ∧ d.distributed2zAmount = 0 ∧ d.burned2zAmount = 0 := by
  have hdata : call.data = .initializeDistribution := by
    cases ht.change d.dzEpoch with
    | kept same => exact absurd ((same.symm.trans hd).symm.trans hnone) (by simp)
    | create data => exact data
    | step does epoch has => exact absurd (has.symm.trans (epoch ▸ hnone)) (by simp)
    | twice does books epoch has => exact absurd (has.symm.trans (epoch ▸ hnone)) (by simp)
  cases ht with
  | @initializeDistribution c c' crem jrem j rate d₀ prepaid lamports b₁ data config unpaused signed
      journal new advanced initialized rate_eq funds exempt moved vacant =>
    have he : d.dzEpoch = d₀.dzEpoch := by
      by_contra he
      have hold := Books.distUpdated_setDist b₁ d₀ [] d.dzEpoch
      rw [if_neg he, hd, moved.entry_eq] at hold
      have hkept := Books.set_entry_of_ne b (.programConfig c') crem (i := .config)
        (j := .distribution d.dzEpoch) (by simp)
      exact absurd (hold.trans (hkept.trans hnone)) (by simp)
    obtain ⟨rfl, rfl⟩ := Books.HasDist.unique (Books.set_entry_self _ _ _ _) hd he
    have hconverted : d.collected2zConvertedFromSol = 0 := by rw [initialized.rest_eq]; rfl
    have hintegrations : d.collected2zFromIntegrations = 0 := by rw [initialized.rest_eq]; rfl
    have hcollected : d.collected = prepaid.toNat := by
      rw [Distribution.collected, hconverted, hintegrations, initialized.prepaid_eq]
      rfl
    refine ⟨?_, by rw [initialized.rest_eq]; rfl, by rw [initialized.rest_eq]; rfl⟩
    rw [hcollected]
    rcases moved with ⟨rfl, rfl⟩ | htransfer
    · refine ⟨⟨DOUBLEZERO_MINT_KEY, rt.distributionKey d.dzEpoch, 0⟩, ?_, rfl, rfl⟩
      simp [Books.setDist, Books.setToken_tokens]
    · obtain ⟨a, a', ha, ha', -, howner, hamount⟩ := htransfer.target_eq
        (Runtime.find_ne_ata _ _ _).symm
      simp only [Books.setToken_tokens, if_true, Option.some.injEq] at ha
      subst ha
      exact ⟨a', ha', howner, by simpa using hamount⟩
  | _ => simp [‹call.data = _›] at hdata

end

end DoubleZero.Revenue
