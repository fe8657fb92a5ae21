import DoubleZero.Revenue.Refine.Run
import DoubleZero.Revenue.Replay
import DoubleZero.Solana.TokenOps

/-!
# What an integration can do to a collection

A collection measures what an integration sent by the balance of the pool before and after. The
integration is called with the signature of the distribution, which is the authority of the pool,
and with the pool to write to. So it can take 2Z out of the pool as well, and the difference of the
balances then wraps.
-/

namespace DoubleZero.Revenue

open DoubleZero.Lib DoubleZero.Solana

structure WithdrawIntegrationRewardsAccounts where
  integrationDistributionKey : Pubkey
  integration2zBucketKey : Pubkey
  destinationTokenAccountKey : Pubkey
  parentDistributionKey : Pubkey

/-- `From<WithdrawIntegrationRewardsAccounts> for Vec<AccountMeta>`. -/
def WithdrawIntegrationRewardsAccounts.metas (accounts : WithdrawIntegrationRewardsAccounts) :
    List AccountMeta :=
  [⟨accounts.integrationDistributionKey, false, true⟩,
    ⟨accounts.integration2zBucketKey, false, true⟩,
    ⟨accounts.destinationTokenAccountKey, false, true⟩,
    ⟨accounts.parentDistributionKey, true, false⟩,
    ⟨tokenProgramId, false, false⟩]

/-- The accounts a collection passes on. -/
def Call.withdrawAccounts (call : Call) : Option WithdrawIntegrationRewardsAccounts := do
  let integrationDistributionKey ← call.key? 3
  let integration2zBucketKey ← call.key? 4
  let destinationTokenAccountKey ← call.key? 5
  let parentDistributionKey ← call.key? 1
  return ⟨integrationDistributionKey, integration2zBucketKey, destinationTokenAccountKey,
    parentDistributionKey⟩

/-- What happens apart from the instructions of the SPL Token program. What is at an address derived
from this program belongs to this program or to the SPL Token program, and others leave it. -/
structure Aside (rt : Runtime) (L L' : RevenueLedger) : Prop where
  foreign : Foreign rt L L'
  derived : ∀ k, Derived rt k → (L' k).data = (L k).data

/-- The integration a collection calls performs these token instructions, with the accounts it is
passed and the signatures of its own addresses. -/
def Call.Withdraws (rt : Runtime) (call : Call) (own : List Pubkey) (L : RevenueLedger)
    (ops : List TokenOp) : Prop :=
  ∀ accounts L₁ returnData, call.withdrawAccounts = some accounts →
    call.env.cpi L = .ok (L₁, returnData) →
    ∃ g g', Performs (Aside rt) accounts.metas own ops ⟨L, g⟩ ⟨L₁, g'⟩

/-- The difference of two amounts, added to a counter, is what the amount grew by, unless it
fell. -/
theorem counted_iff {counter counter' before after : UInt64}
    (h : checkedAdd counter (after - before) = some counter') :
    (before ≤ after ∧ counter'.toNat + before.toNat = counter.toNat + after.toNat) ↔
      before ≤ after := by
  obtain ⟨-, hcounter⟩ := checkedAdd_eq_some.1 h
  refine ⟨fun h => h.1, fun hle => ⟨hle, ?_⟩⟩
  have hnat := UInt64.le_iff_toNat_le.1 hle
  rw [hcounter, toNat_sub_of_le hle]
  omega

theorem collect_adds_iff {rt : Runtime} {L₀ L L' : RevenueLedger} {h : History} {call : Call}
    {own : List Pubkey} {ops : List TokenOp} (hg : Genesis rt L₀) (hrun : LedgerRun rt L₀ h L)
    (hdata : call.data = .collectIntegrationRewards) (hstep : Step rt (.call call) L L')
    (hwithdraws : call.Withdraws rt own L ops) :
    ∃ (k dest : Pubkey) (d d' : Distribution) (rem : List (BitVec 8)) (before after : TokenAccount),
      call.key? 1 = some k ∧ view ID L k = some (d, rem) ∧ view ID L' k = some (d', rem) ∧
      call.key? 5 = some dest ∧ (L dest).data = .token before ∧ (L' dest).data = .token after ∧
      ((before.amount ≤ after.amount ∧
          d'.collected2zFromIntegrations.toNat + before.amount.toNat =
            d.collected2zFromIntegrations.toNat + after.amount.toNat) ↔
        TokenOp.outflow ops dest ≤ TokenOp.inflow ops dest) := by
  obtain ⟨hc, -⟩ := hrun.books hg
  cases hstep with
  | call hadmissible hprocess =>
    obtain ⟨r, hr, rfl⟩ := process_eq_ok.1 hprocess
    unfold tryProcessInstruction at hr
    rw [hdata] at hr
    obtain ⟨-, d, d', rem, before, after, has, has', hepoch, hcollected⟩ :=
      tryCollectIntegrationRewards_collected hc hadmissible hdata hr
    obtain ⟨k₃, k₄, hk₃, hk₄⟩ := hcollected.accounts
    obtain ⟨L₁, returnData, hcpi, hafter⟩ := hcollected.cpi
    have haccounts : call.withdrawAccounts =
        some ⟨k₃, k₄, rt.poolKey d.dzEpoch, rt.distributionKey d.dzEpoch⟩ := by
      simp [Call.withdrawAccounts, hk₃, hk₄, hcollected.keyPool, hcollected.keyDist]
    obtain ⟨g, g', hperforms⟩ := hwithdraws _ L₁ returnData haccounts hcpi
    have hbalance := hperforms.amountAt (rt.poolKey d.dzEpoch) fun haside =>
      Token.amountAt_congr (haside.derived _ (Runtime.derived_find _))
    dsimp only at hbalance
    rw [Token.amountAt_of_data hafter, Token.amountAt_of_data hcollected.before_eq] at hbalance
    have hview' : view ID r.2.ledger (rt.distributionKey d.dzEpoch) = some (d', rem) := by
      rw [← hepoch]
      exact view_eq_stateAt.2 has'
    refine ⟨_, _, d, d', rem, before, after, hcollected.keyDist, view_eq_stateAt.2 has, hview',
      hcollected.keyPool, hcollected.before_eq, hcollected.after_eq, ?_⟩
    rw [counted_iff hcollected.counted, UInt64.le_iff_toNat_le]
    omega

/-! ## Two integrations -/

namespace Sample

/-- A collection from an integration that moves tokens in or out of the pool. -/
def withdraw (m : Move) : Event :=
  collectInto distribution pool m

/-- The transfer is between accounts the integration is passed, by an authority that signs. -/
theorem withdraw_withdraws {rt : Runtime} {L : RevenueLedger} {source target authority : Pubkey}
    {amount : UInt64} {own : List Pubkey} {call : Call}
    (hlabel : (withdraw (.tokens source target authority amount)).label = .call call)
    (hsource : source = bucket ∨ source = pool) (htarget : target = bucket ∨ target = pool)
    (hauthority : authority = distribution ∨ authority = bucketAuthority ∧ authority ∈ own) :
    call.Withdraws rt own L [.transfer source target authority amount] := by
  cases hlabel
  intro accounts L₁ returnData haccounts hcpi
  cases haccounts
  let g : Grants := ⟨fun _ => none, fun _ => none, fun _ => none⟩
  have hwritable : ∀ k, k = bucket ∨ k = pool → ∃ m ∈
      WithdrawIntegrationRewardsAccounts.metas ⟨bucketAuthority, bucket, pool, distribution⟩,
      m.key = k ∧ m.isWritable = true := by
    rintro k (rfl | rfl) <;> simp [WithdrawIntegrationRewardsAccounts.metas]
  refine ⟨g, g, .token ⟨?_, ?_⟩ (.of_transfer (Move.invoked_eq_ok.1 hcpi).1 ?_ rfl) .done⟩
  · intro k hk
    rcases List.mem_pair.1 hk with rfl | rfl
    · exact hwritable _ hsource
    · exact hwritable _ htarget
  · intro k hk
    obtain rfl := List.mem_singleton.1 hk
    rcases hauthority with rfl | ⟨rfl, -⟩ <;>
      simp [WithdrawIntegrationRewardsAccounts.metas, writable]
  · rcases hauthority with rfl | ⟨-, hown⟩
    · exact List.mem_append_left _ (by simp [WithdrawIntegrationRewardsAccounts.metas, writable])
    · exact List.mem_append_right _ hown

/-- An epoch whose pool holds 1000 prepaid 2Z and has one integration to collect from. -/
def uncollected : List Event := opening ++ [registerIntegration, openEpoch]

end Sample

/-- The integration pays out of its bucket. -/
theorem collect_adds_iff_deposit :
    ∃ (h : History) (L L' : RevenueLedger) (d d' : Distribution) (rem : List (BitVec 8))
      (before after : TokenAccount),
      LedgerRun (Sample.runtime [] []) (Sample.genesis 1000 0) h L ∧
      Step (Sample.runtime [] [])
        (Sample.withdraw (.tokens Sample.bucket Sample.pool Sample.bucketAuthority 500)).label L L' ∧
      view ID L Sample.distribution = some (d, rem) ∧
      view ID L' Sample.distribution = some (d', rem) ∧
      (L Sample.pool).data = .token before ∧ (L' Sample.pool).data = .token after ∧
      before.amount ≤ after.amount ∧
      d'.collected2zFromIntegrations.toNat + before.amount.toNat =
        d.collected2zFromIntegrations.toNat + after.amount.toNat := by
  obtain ⟨h, L, L', hrun, hstep, -⟩ := Sample.exists_step_of_replay [] [] 1000 0
    Sample.uncollected (Sample.withdraw (.tokens Sample.bucket Sample.pool Sample.bucketAuthority 500))
    (P := fun _ _ _ => true) (by decide +kernel) (by decide +kernel)
  obtain ⟨k, dest, d, d', rem, before, after, hkey, hd, hd', hdest, hbefore, hafter, hiff⟩ :=
    collect_adds_iff (Sample.genesis_unused 1000 0) hrun rfl hstep
      (Sample.withdraw_withdraws rfl (.inl rfl) (.inr rfl)
        (.inr ⟨rfl, List.mem_singleton_self Sample.bucketAuthority⟩))
  obtain rfl : k = Sample.distribution := (Option.some.inj hkey).symm
  obtain rfl : dest = Sample.pool := (Option.some.inj hdest).symm
  obtain ⟨hle, hcounted⟩ := hiff.2 (by decide)
  exact ⟨h, L, L', d, d', rem, before, after, hrun, hstep, hd, hd', hbefore, hafter, hle, hcounted⟩

/-- The integration signs for the distribution and takes 100 2Z out of the pool, and the difference
of the balances wraps. -/
theorem collect_takes :
    ∃ (h : History) (L L' : RevenueLedger) (call : Call) (d' : Distribution)
      (rem : List (BitVec 8)) (before after : TokenAccount),
      LedgerRun (Sample.runtime [] []) (Sample.genesis 1000 0) h L ∧
      Step (Sample.runtime [] []) (.call call) L L' ∧ call.data = .collectIntegrationRewards ∧
      call.Withdraws (Sample.runtime [] []) [] L
        [.transfer Sample.pool Sample.bucket Sample.distribution 100] ∧
      view ID L' Sample.distribution = some (d', rem) ∧
      (L Sample.pool).data = .token before ∧ (L' Sample.pool).data = .token after ∧
      after.amount < before.amount ∧ d'.collected2zFromIntegrations.toNat = 2 ^ 64 - 100 := by
  obtain ⟨h, L, L', hrun, hstep, hP⟩ := Sample.exists_step_of_replay [] [] 1000 0
    Sample.uncollected (Sample.withdraw (.tokens Sample.pool Sample.bucket Sample.distribution 100))
    (P := fun _ L L' =>
      (view (T := Distribution) ID L' Sample.distribution).any (fun x =>
        x.1.collected2zFromIntegrations.toNat = 2 ^ 64 - 100) ∧
      (Token.unpack L Sample.pool).any (fun a => a.amount = 1000) ∧
      (Token.unpack L' Sample.pool).any fun a => a.amount = 900)
    (by decide +kernel) (by decide +kernel)
  obtain ⟨hdist, hbefore, hafter⟩ := of_decide_eq_true hP
  obtain ⟨⟨d', rem⟩, hd', hcollected⟩ := (Option.any_eq_true _ _).1 hdist
  obtain ⟨before, hbefore, hamount⟩ := (Option.any_eq_true _ _).1 hbefore
  obtain ⟨after, hafter, hamount'⟩ := (Option.any_eq_true _ _).1 hafter
  have hamount : before.amount = 1000 := of_decide_eq_true hamount
  have hamount' : after.amount = 900 := of_decide_eq_true hamount'
  refine ⟨h, L, L', _, d', rem, before, after, hrun, hstep, rfl,
    Sample.withdraw_withdraws rfl (.inr rfl) (.inl rfl) (.inl rfl), hd',
    (Token.unpack_eq_some.1 hbefore).2, (Token.unpack_eq_some.1 hafter).2, ?_,
    of_decide_eq_true hcollected⟩
  rw [hamount, hamount']
  decide

end DoubleZero.Revenue
