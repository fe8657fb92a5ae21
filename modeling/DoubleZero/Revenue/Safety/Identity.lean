import DoubleZero.Revenue.Invariant.Run
import DoubleZero.Revenue.Replay

/-!
# Owner and discriminator identify an account

Instructions take the accounts of the program by owner and discriminator. In every ledger a run
reaches that is enough: the account sits at the address its own content derives.
-/

namespace DoubleZero.Revenue

open DoubleZero.Lib DoubleZero.Solana

/-- Both account wrappers hand out what is behind the discriminator at the key they were given. -/
theorem view_of_zeroCopyAccount {T : Type} [ZeroCopy AccountState T] {s s' : Exec AccountState}
    {account : ZeroCopyAccount T}
    (h : tryNextZeroCopy T ID s = .ok (account, s') ∨
      tryNextZeroCopyMut T ID s = .ok (account, s')) :
    view ID s.ledger account.info.key = some (account.data, account.remainingData) := by
  rcases h with h | h
  · obtain ⟨m, rest, -, data, rem, hview, heq⟩ := tryNextZeroCopy_eq_ok.1 h
    cases heq
    exact hview
  · obtain ⟨m, rest, -, -, data, rem, hview, heq⟩ := tryNextZeroCopyMut_eq_ok.1 h
    cases heq
    exact hview

theorem owner_and_discriminator_suffice {rt : Runtime} {L₀ L : RevenueLedger} {h : History}
    (hg : Genesis rt L₀) (hrun : LedgerRun rt L₀ h L) :
    (∀ (k : Pubkey) (c : ProgramConfig) (rem : List (BitVec 8)), view ID L k = some (c, rem) →
      k = (rt.find ProgramConfig.seeds).1) ∧
      (∀ (k : Pubkey) (j : Journal) (rem : List (BitVec 8)), view ID L k = some (j, rem) →
        k = (rt.find Journal.seeds).1) ∧
      (∀ (k : Pubkey) (d : Distribution) (rem : List (BitVec 8)), view ID L k = some (d, rem) →
        k = (rt.find (Distribution.seeds d.dzEpoch)).1) ∧
      (∀ (k : Pubkey) (r : ContributorRewards) (rem : List (BitVec 8)),
        view ID L k = some (r, rem) → k = (rt.find (ContributorRewards.seeds r.serviceKey)).1) ∧
      (∀ (k : Pubkey) (p : SolanaValidatorDeposit) (rem : List (BitVec 8)),
        view ID L k = some (p, rem) → k = (rt.find (SolanaValidatorDeposit.seeds p.nodeId)).1) ∧
      (∀ (k : Pubkey) (i : RewardsIntegration) (rem : List (BitVec 8)),
        view ID L k = some (i, rem) → k = (rt.find (RewardsIntegration.seeds i.programId)).1) ∧
      (∀ (T : Type) [ZeroCopy AccountState T] (s s' s₁ s₁' : Exec AccountState)
        (account account₁ : ZeroCopyAccount T), s.ledger = L → s₁.ledger = L →
        (tryNextZeroCopy T ID s = .ok (account, s') ∨
          tryNextZeroCopyMut T ID s = .ok (account, s')) →
        (tryNextZeroCopy T ID s₁ = .ok (account₁, s₁') ∨
          tryNextZeroCopyMut T ID s₁ = .ok (account₁, s₁')) →
        (wrap account.data : AccountState).identity = (wrap account₁.data : AccountState).identity →
        account.info.key = account₁.info.key) := by
  obtain ⟨hc, -⟩ := hrun.books hg
  refine ⟨fun _ _ _ hv => (hc.of_view hv).1, fun _ _ _ hv => (hc.of_view hv).1,
    fun _ _ _ hv => (hc.of_view hv).1, fun _ _ _ hv => (hc.of_view hv).1,
    fun _ _ _ hv => (hc.of_view hv).1, fun _ _ _ hv => (hc.of_view hv).1, ?_⟩
  intro T _ s s' s₁ s₁' account account₁ hs hs₁ htaken htaken₁ hid
  have hv := view_of_zeroCopyAccount htaken
  have hv₁ := view_of_zeroCopyAccount htaken₁
  rw [hs] at hv
  rw [hs₁] at hv₁
  rw [(hc.of_view hv).1, (hc.of_view hv₁).1, hid]

theorem owner_and_discriminator_suffice_epoch :
    ∃ (h : History) (L : RevenueLedger) (d : Distribution) (rem : List (BitVec 8)),
      LedgerRun (Sample.runtime Sample.debts Sample.shares) (Sample.genesis 1000 700) h L ∧
      view ID L Sample.distribution = some (d, rem) ∧
      Sample.distribution =
        ((Sample.runtime Sample.debts Sample.shares).find (Distribution.seeds d.dzEpoch)).1 := by
  obtain ⟨h, L, hrun, -, hP⟩ := Sample.exists_epoch (P := fun _ L =>
    (view (T := Distribution) ID L Sample.distribution).isSome) (by decide +kernel)
  obtain ⟨⟨d, rem⟩, hd⟩ := Option.isSome_iff_exists.1 hP
  have hidentity := owner_and_discriminator_suffice (Sample.genesis_unused 1000 700) hrun
  exact ⟨h, L, d, rem, hrun, hd, hidentity.2.2.1 _ d rem hd⟩

end DoubleZero.Revenue
