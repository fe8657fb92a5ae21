import DoubleZero.Revenue.Invariant.Pool
import DoubleZero.Revenue.Refine.Run
import DoubleZero.Revenue.Replay
import DoubleZero.Solana.TokenOps

/-!
# How 2Z leaves the program

Only this program signs for the addresses derived from it, so tokens leave an account whose
authority is such an address only when the program says so (`TokenOutflow`). It signs for the
journal's account when a distribution is opened, for the pool of a distribution when a reward leaf
is paid out and the rest of it burned, and for the swap destination when a distribution is swept.
Twice it lends a signature to a program it invokes, the distribution's to an integration and the
journal's to the swap program; what these take, they take from accounts under the signature they
were lent.
-/

namespace DoubleZero.Revenue

open DoubleZero.Lib DoubleZero.Solana

/-- The address whose signature a call lends to the program it invokes. -/
def Call.lent (rt : Runtime) (call : Call) : Option Pubkey :=
  match call.data with
  | .collectIntegrationRewards => call.key? 1
  | .sweepDistributionTokens => some rt.journalKey
  | _ => none

/-- The token account is there with the same mint and authority, and with no less in it. -/
def Books.KeepsAt (b : Books) (k : Pubkey) (a : TokenAccount) : Prop :=
  ∃ a', b.tokens k = some a' ∧ a'.mint = a.mint ∧ a'.owner = a.owner ∧ a.amount ≤ a'.amount

/-- The program a call invokes takes no tokens without the signature of their authority, and has
none of this program's but the one it is lent. It has no delegate's either, so none was approved
with a signature lent before. -/
def Call.TakesAsLent (rt : Runtime) (call : Call) : Prop :=
  ∀ L L' returnData, call.env.cpi L = .ok (L', returnData) → ∀ k a, Token.unpack L k = some a →
    Derived rt a.owner → call.lent rt ≠ some a.owner → (books rt L').KeepsAt k a

/-- The call takes tokens out of the account at `k`, which was `a`. -/
inductive TokenOutflow (rt : Runtime) (call : Call) (b b' : Books) (a : TokenAccount) :
    Pubkey → Prop
  | prepaid {d : Distribution} {a' c : TokenAccount} (data : call.data = .initializeDistribution)
      (has : b'.HasDist d []) (authority : a.owner = rt.journalKey)
      (left : b'.tokens (rt.scheme.getAssociatedTokenAddress rt.journalKey DOUBLEZERO_MINT_KEY) =
        some a')
      (taken : a.amount.toNat = a'.amount.toNat + d.collectedPrepaid2zPayments.toNat)
      (pooled : b'.tokens (rt.poolKey d.dzEpoch) = some c)
      (received : c.amount = d.collectedPrepaid2zPayments) :
      TokenOutflow rt call b b' a
        (rt.scheme.getAssociatedTokenAddress rt.journalKey DOUBLEZERO_MINT_KEY)
  | reward {unitShare economicBurnRate leafIndex : UInt32} {proof : MerkleProof}
      {share : RewardShare} {transferred burned : UInt64} {d d' : Distribution}
      {rem rem' : List (BitVec 8)} {a' : TokenAccount}
      (data : call.data = .distributeRewards unitShare economicBurnRate proof)
      (has : b.HasDist d rem) (has' : b'.HasDist d' rem')
      (step : DistStep rt (.distribute leafIndex share transferred burned) (d, rem) (d', rem'))
      (authority : a.owner = rt.distributionKey d.dzEpoch)
      (left : b'.tokens (rt.poolKey d.dzEpoch) = some a')
      (taken : a.amount.toNat = a'.amount.toNat + transferred.toNat + burned.toNat) :
      TokenOutflow rt call b b' a (rt.poolKey d.dzEpoch)
  | swept {solDebt token2zAmount : UInt64} {d d' : Distribution} {rem rem' : List (BitVec 8)}
      {a' : TokenAccount} (data : call.data = .sweepDistributionTokens) (has : b.HasDist d rem)
      (has' : b'.HasDist d' rem')
      (step : DistStep rt (.sweep solDebt token2zAmount) (d, rem) (d', rem'))
      (returned : call.Returns solDebt token2zAmount)
      (authority : a.owner = rt.findSwapAuthorityAddress.1)
      (left : b'.tokens rt.swapDestinationKey = some a')
      (taken : a.amount.toNat ≤ a'.amount.toNat + token2zAmount.toNat) :
      TokenOutflow rt call b b' a rt.swapDestinationKey
  | lent {k : Pubkey} {b₁ : Books} (lent : call.lent rt = some a.owner)
      (invokes : call.Invokes rt b b₁) (taken : ¬b₁.KeepsAt k a) : TokenOutflow rt call b b' a k

section

variable {rt : Runtime} {call : Call} {b b' b₁ : Books} {k source target authority : Pubkey}
  {a : TokenAccount} {amount : UInt64}

namespace Books.KeepsAt

theorem of_eq (ha : b.tokens k = some a) (h : b'.tokens k = b.tokens k) : b'.KeepsAt k a :=
  ⟨a, h.trans ha, rfl, rfl, UInt64.le_refl _⟩

theorem congr (h : b.KeepsAt k a) (heq : b'.tokens k = b.tokens k) : b'.KeepsAt k a := by
  obtain ⟨a', ha', hmint, howner, hle⟩ := h
  exact ⟨a', heq.trans ha', hmint, howner, hle⟩

/-- Only the source of a transfer loses tokens. -/
theorem transfer (h : b.KeepsAt k a) (ht : TokenTransfer source target authority amount b b')
    (hk : k ≠ source) : b'.KeepsAt k a := by
  by_cases htarget : k = target
  · subst htarget
    obtain ⟨a', ha', hmint, howner, hle⟩ := h
    obtain ⟨c, c', hc, hc', hmint', howner', hamount⟩ := ht.target_eq (Ne.symm hk)
    cases ha'.symm.trans hc
    refine ⟨c', hc', hmint'.trans hmint, howner'.trans howner, ?_⟩
    rw [UInt64.le_iff_toNat_le] at hle ⊢
    omega
  · exact h.congr (ht.tokens_of_ne hk htarget)

theorem payouts {share : UInt64} {rs : List RecipientShare} (h : b.KeepsAt k a)
    (ht : Payouts rt source authority share rs b b') (hk : k ≠ source) : b'.KeepsAt k a := by
  induction ht with
  | nil => exact h
  | cons htransfer _ ih => exact ih (h.transfer htransfer hk)

theorem vacant {k' : Pubkey} {c : TokenAccount} (ha : b.tokens k = some a)
    (hvacant : b.tokens k' = none) : (b.setToken k' c).KeepsAt k a := by
  refine of_eq ha ?_
  rw [Books.setToken_tokens, if_neg]
  rintro rfl
  exact absurd (hvacant.symm.trans ha) (by simp)

end Books.KeepsAt

/-- What a call lets another program take, that program was lent the signature for. -/
theorem Call.TakesAsLent.lent (h : call.TakesAsLent rt) (hinvokes : call.Invokes rt b b₁)
    (ha : b.tokens k = some a) (hderived : Derived rt a.owner) (htaken : ¬b₁.KeepsAt k a) :
    TokenOutflow rt call b b' a k := by
  refine .lent ?_ hinvokes htaken
  by_contra hlent
  obtain ⟨L, L', returnData, -, hcpi, rfl, rfl⟩ := hinvokes
  exact htaken (h L L' returnData hcpi k a ha hderived hlent)

/-- Opening a distribution moves what was prepaid into its pool. -/
theorem PrepaidMoved.tokenOutflow {d : Distribution} {b₀ : Books}
    (hmoved : PrepaidMoved rt d.dzEpoch d.collectedPrepaid2zPayments b b₁)
    (hdata : call.data = .initializeDistribution)
    (hpool : b.tokens (rt.poolKey d.dzEpoch) =
      some ⟨DOUBLEZERO_MINT_KEY, rt.distributionKey d.dzEpoch, 0⟩)
    (ha : b.tokens k = some a) :
    (b₁.setDist d []).KeepsAt k a ∨
      Derived rt a.owner ∧ TokenOutflow rt call b₀ (b₁.setDist d []) a k := by
  rcases hmoved with ⟨-, rfl⟩ | htransfer
  · exact .inl (.of_eq ha rfl)
  · by_cases hk : k = rt.scheme.getAssociatedTokenAddress rt.journalKey DOUBLEZERO_MINT_KEY
    · subst hk
      have hne : rt.scheme.getAssociatedTokenAddress rt.journalKey DOUBLEZERO_MINT_KEY ≠
          rt.poolKey d.dzEpoch := (Runtime.find_ne_ata _ _ _).symm
      obtain ⟨a₀, a', ha₀, ha', -, -, htaken⟩ := htransfer.source_eq hne
      cases ha.symm.trans ha₀
      obtain ⟨c, c', hc, hc', -, -, hreceived⟩ := htransfer.target_eq hne
      cases hpool.symm.trans hc
      obtain ⟨a₁, -, ha₁, -, -, -, hauthority, -⟩ := htransfer
      cases ha.symm.trans ha₁
      refine .inr ⟨hauthority ▸ Runtime.derived_find _,
        .prepaid hdata (Books.set_entry_self ..) hauthority ha' htaken hc' ?_⟩
      exact UInt64.toNat_inj.1 (by simpa using hreceived)
    · exact .inl (((Books.KeepsAt.of_eq ha rfl).transfer htransfer hk).congr rfl)

/-- Paying a reward leaf out takes the two parts of its share out of the pool. -/
theorem Payouts.tokenOutflow {d d' : Distribution} {rem' : List (BitVec 8)} {mint : Pubkey}
    {share burned : UInt64} {rs : List RecipientShare} {b₂ : Books}
    (hpayouts : Payouts rt (rt.poolKey d.dzEpoch) (rt.distributionKey d.dzEpoch) share rs b b₁)
    (hburn : TokenBurn (rt.poolKey d.dzEpoch) mint (rt.distributionKey d.dzEpoch) burned
      (b₁.setDist d' rem') b₂)
    (ha : b.tokens (rt.poolKey d.dzEpoch) = some a) :
    ∃ a', b₂.tokens (rt.poolKey d.dzEpoch) = some a' ∧ a.owner = rt.distributionKey d.dzEpoch ∧
      a.amount.toNat = a'.amount.toNat + (payoutTotal share rs).toNat + burned.toNat := by
  obtain ⟨a₁, ha₁, -, howner, hpaid⟩ := hpayouts.pool_eq ha
  obtain ⟨a₁', a₂, ha₁', ha₂, -, -, hburned⟩ := hburn.source_eq
  cases ha₁.symm.trans ha₁'
  obtain ⟨a₁', ha₁', -, -, hauthority, -⟩ := hburn
  cases ha₁.symm.trans ha₁'
  refine ⟨a₂, ha₂, howner.symm.trans hauthority, ?_⟩
  have hlt := a.amount.toNat_lt
  rw [toNat_payoutTotal, Nat.mod_eq_of_lt (by omega)]
  omega

/-- A sweep takes what the swap program returns out of the swap destination. -/
theorem TokenTransfer.swept {d d' : Distribution} {rem rem' : List (BitVec 8)}
    {solDebt token2zAmount : UInt64} {b₀ b₂ : Books}
    (htransfer : TokenTransfer rt.swapDestinationKey (rt.poolKey d.dzEpoch)
      rt.findSwapAuthorityAddress.1 token2zAmount b₁ b₂)
    (hdata : call.data = .sweepDistributionTokens) (hd : b₀.HasDist d rem)
    (hd' : b'.HasDist d' rem') (hb' : b'.tokens = b₂.tokens)
    (hstep : DistStep rt (.sweep solDebt token2zAmount) (d, rem) (d', rem'))
    (hreturned : call.Returns solDebt token2zAmount) (hkept : b₁.KeepsAt k a) :
    b'.KeepsAt k a ∨ Derived rt a.owner ∧ TokenOutflow rt call b₀ b' a k := by
  by_cases hk : k = rt.swapDestinationKey
  · subst hk
    obtain ⟨c, hc, -, howner, hle⟩ := hkept
    obtain ⟨c₁, c', hc₁, hc', -, -, hamount⟩ :=
      htransfer.source_eq (Runtime.swapDestinationKey_ne_poolKey _)
    cases hc.symm.trans hc₁
    obtain ⟨c₂, -, hc₂, -, -, -, hauthority, -⟩ := htransfer
    cases hc.symm.trans hc₂
    rw [UInt64.le_iff_toNat_le] at hle
    have howner' := howner.symm.trans hauthority
    refine .inr ⟨howner' ▸ Runtime.derived_find _,
      .swept hdata hd hd' hstep hreturned howner' ((congrFun hb' _).trans hc') ?_⟩
    omega
  · exact .inl ((hkept.transfer htransfer hk).congr (congrFun hb' _))

/-- Tokens stay where they are, or the program takes them under an address of its own, or the
program it invokes takes them. -/
theorem Transition.tokenOutflow (ht : Transition rt call b b') (ha : b.tokens k = some a) :
    b'.KeepsAt k a ∨ Derived rt a.owner ∧ TokenOutflow rt call b b' a k ∨
      ∃ b₁, call.Invokes rt b b₁ ∧ ¬b₁.KeepsAt k a := by
  have hkept : b'.tokens k = b.tokens k → b'.KeepsAt k a ∨
      Derived rt a.owner ∧ TokenOutflow rt call b b' a k ∨
        ∃ b₁, call.Invokes rt b b₁ ∧ ¬b₁.KeepsAt k a :=
    fun h => .inl (.of_eq ha h)
  cases ht with
  | initializeProgram data new funds vacant => exact .inl ((Books.KeepsAt.vacant ha vacant).congr rfl)
  | initializeSwapDestination data config funds vacant =>
    exact .inl ((Books.KeepsAt.vacant ha vacant).congr rfl)
  | initializeJournal data new funds exempt vacant =>
    exact .inl ((Books.KeepsAt.vacant ha vacant).congr rfl)
  | @initializeDistribution c c' crem jrem j rate d prepaid lamports b₁ data config unpaused signed
      journal new advanced initialized rate_eq funds exempt moved vacant =>
    have hne : k ≠ rt.poolKey d.dzEpoch := by
      rintro rfl
      exact absurd (vacant.symm.trans ha) (by simp)
    rw [← initialized.prepaid_eq] at moved
    have hpool : (Books.setToken (b.set .config (.programConfig c') crem) (rt.poolKey d.dzEpoch)
        ⟨DOUBLEZERO_MINT_KEY, rt.distributionKey d.dzEpoch, 0⟩).tokens (rt.poolKey d.dzEpoch) =
        some ⟨DOUBLEZERO_MINT_KEY, rt.distributionKey d.dzEpoch, 0⟩ := by
      rw [Books.setToken_tokens, if_pos rfl]
    refine (moved.tokenOutflow data hpool ?_).imp_right fun h => .inl h
    show (Books.setToken ..).tokens k = some a
    rw [Books.setToken_tokens, if_neg hne]
    exact ha
  | @collect c d d' rem rem' irem i amount b₁ data running has integration keyDist keyIntegration
      invokes foreign delta step =>
    by_cases htaken : b₁.KeepsAt k a
    · exact .inl (htaken.congr rfl)
    · exact .inr (.inr ⟨b₁, invokes, htaken⟩)
  | @distribute c d d' rem rem' rrem r unitShare economicBurnRate leafIndex proof rewardShare
      burnShare remainingShare relayer b₁ b₂ _ data indexed running has keyDist contributor share
      recipients split payouts step burn relayed =>
    by_cases hk : k = rt.poolKey d.dzEpoch
    · subst hk
      obtain ⟨a', ha', hauthority, htaken⟩ := payouts.tokenOutflow burn ha
      have has' : b'.HasDist d' rem' := by
        show b'.entry _ = _
        rw [relayed.entry_eq, burn.entry_eq]
        exact Books.set_entry_self ..
      exact .inr (.inl ⟨hauthority ▸ Runtime.derived_find _, .reward data has has' step hauthority
        (by rw [relayed.tokens_eq, ha']) htaken⟩)
    · have hpaid := (Books.KeepsAt.of_eq ha rfl).payouts payouts hk
      refine .inl (hpaid.congr ?_)
      rw [relayed.tokens_eq, burn.tokens_of_ne hk]
      rfl
  | @sweep c d d' rem rem' jrem j totalSolDebt token2zAmount b₁ b₂ data running has journal next debt
      nonzero enough invokes foreign transfer step returned keyDist =>
    by_cases htaken : b₁.KeepsAt k a
    · have has' : ((b₂.setDist d' rem').set .journal (.journal { j with
          nextDzEpochToSweepTokens := j.nextDzEpochToSweepTokens.saturatingAddDuration 1
          swappedSolAmount := j.swappedSolAmount - totalSolDebt
          swap2zDestinationBalance := j.swap2zDestinationBalance - token2zAmount })
            jrem).HasDist d' rem' := by
        rw [Books.HasDist, Books.set_entry_of_ne _ _ _ (by simp)]
        exact Books.set_entry_self ..
      exact (transfer.swept data has has' rfl step returned htaken).imp_right fun h => .inl h
    · exact .inr (.inr ⟨b₁, invokes, htaken⟩)
  | migrate data journal migrated => exact hkept (by rw [migrated.tokens_eq])
  | writeOff data indexed running signed has keyDist keyBook deposit short step written hasBook later
      bookStep =>
    subst written
    exact hkept rfl
  | pay data indexed running has keyDist deposit journal step enough moved =>
    exact hkept (by rw [moved.tokens_eq]; rfl)
  | withdrawSol data running journal enough moved => exact hkept (by rw [moved.tokens_eq]; rfl)
  | withdrawDeposit data running deposit amount nonzero authorized moved =>
    exact hkept (by rw [moved.tokens_eq])
  | _ => exact hkept rfl

end

/-- Whatever call is made next, a token account under an address of this program keeps its mint, its
authority and its tokens, apart from the outflows above. -/
theorem token_custody {rt : Runtime} {L₀ L L' : RevenueLedger} {h : History} {call : Call}
    {k : Pubkey} {a : TokenAccount} (hg : Genesis rt L₀) (hrun : LedgerRun rt L₀ h L)
    (hstep : Step rt (.call call) L L') (htakes : call.TakesAsLent rt)
    (ha : Token.unpack L k = some a) (hderived : Derived rt a.owner) :
    (books rt L').KeepsAt k a ∨ TokenOutflow rt call (books rt L) (books rt L') a k := by
  obtain ⟨hc, -⟩ := hrun.books hg
  obtain ⟨-, hbook⟩ := step_refines hc hstep
  cases hbook with
  | call ht =>
    rcases ht.tokenOutflow ha with hkept | ⟨-, hout⟩ | ⟨b₁, hinvokes, htaken⟩
    · exact .inl hkept
    · exact .inr hout
    · exact .inr (htakes.lent hinvokes ha hderived htaken)

/-- A reward leaf is paid out of the pool. -/
theorem token_custody_reward :
    ∃ (h : History) (L L' : RevenueLedger) (call : Call) (a : TokenAccount),
      LedgerRun (Sample.runtime Sample.debts Sample.shares) (Sample.genesis 1000 700) h L ∧
      Step (Sample.runtime Sample.debts Sample.shares) (.call call) L L' ∧
      Token.unpack L Sample.pool = some a ∧ Token.amountAt L' Sample.pool < a.amount ∧
      TokenOutflow (Sample.runtime Sample.debts Sample.shares) call
        (books (Sample.runtime Sample.debts Sample.shares) L)
        (books (Sample.runtime Sample.debts Sample.shares) L') a Sample.pool := by
  obtain ⟨h, L, L', hrun, hstep, hP⟩ := Sample.exists_step_of_replay Sample.debts Sample.shares 1000
    700 (Sample.settled ++ [Sample.sweep 100 700]) (Sample.distribute 1 400000000)
    (P := fun _ L L' => (Token.unpack L Sample.pool).any fun a =>
      decide (a.owner = Sample.distribution ∧ Token.amountAt L' Sample.pool < a.amount))
    (by decide +kernel) (by decide +kernel)
  obtain ⟨a, ha, hfacts⟩ := (Option.any_eq_true _ _).1 hP
  obtain ⟨howner, hlt⟩ := of_decide_eq_true hfacts
  have hderived : Derived (Sample.runtime Sample.debts Sample.shares) a.owner := by
    have hkey : ((Sample.runtime Sample.debts Sample.shares).find (Distribution.seeds 0)).1 =
        Sample.distribution := by decide +kernel
    rw [howner, ← hkey]
    exact Runtime.derived_find _
  obtain ⟨call, hcall⟩ : ∃ call, (Sample.distribute 1 400000000).label = .call call := ⟨_, rfl⟩
  have htakes : call.TakesAsLent (Sample.runtime Sample.debts Sample.shares) := by
    intro L L' returnData hcpi k a ha hderived _
    exact Event.cpi_keepsTokens (e := Sample.distribute 1 400000000) trivial hcall hcpi k a ha
      hderived
  rw [hcall] at hstep
  rcases token_custody (Sample.genesis_unused 1000 700) hrun hstep htakes ha hderived with
    hkept | hout
  · obtain ⟨a', ha', -, -, hle⟩ := hkept
    rw [Token.amountAt_of_unpack ha', UInt64.lt_iff_toNat_lt] at hlt
    rw [UInt64.le_iff_toNat_le] at hle
    omega
  · exact ⟨h, L, L', call, a, hrun, hstep, ha, hlt, hout⟩

end DoubleZero.Revenue
