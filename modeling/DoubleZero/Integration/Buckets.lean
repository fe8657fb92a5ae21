import DoubleZero.Integration.Replay

/-!
# Where the tokens of a bucket go

An integration keeps the 2Z of an epoch in a bucket under its own address for that epoch. Whatever
the two programs and the rest of the chain do, a bucket loses tokens only while the distribution of
its epoch signs for a collection (`bucket_custody`). If the collection is from this integration, it
empties the bucket into the pool of that distribution, which counts the whole amount under the index
the integration is registered with, and touches nothing else. If it is from another one, that one
has relayed the signature it was lent; the mock asks for no more than the signature.
-/

namespace DoubleZero.Integration

open DoubleZero.Lib DoubleZero.Solana DoubleZero.Revenue

/-- The call empties the bucket at `k`, which was `a`, into the pool of its epoch and books it. -/
structure Collection (rt : Runtime) (id : Pubkey) (call : Call) (b b' : Books) (k : Pubkey)
    (a : TokenAccount) (d d' : Distribution) (rem : List (BitVec 8)) : Prop where
  data : call.data = .collectIntegrationRewards
  has : b.HasDist d rem
  authority : a.owner = (findIntegrationDistributionAddress rt.scheme id d.dzEpoch).1
  booked : ∃ i irem, b.entry (.integration id) = some (.rewardsIntegration i, irem) ∧
    DistStep rt (.collect i.registrationIndex a.amount) (d, rem) (d', rem)
  pooled : ∃ c, b.tokens (rt.poolKey d.dzEpoch) = some c ∧
    c.amount.toNat + a.amount.toNat < 2 ^ 64 ∧
    b' = ((b.setToken k { a with amount := 0 }).setToken (rt.poolKey d.dzEpoch)
      { c with amount := c.amount + a.amount }).setDist d' rem

/-- The call collects from another integration, which is lent the signature that the bucket `a` asks
for. -/
structure Relayed (rt : Runtime) (id : Pubkey) (call : Call) (b : Books) (a : TokenAccount)
    (d : Distribution) (rem : List (BitVec 8)) : Prop where
  data : call.data = .collectIntegrationRewards
  has : b.HasDist d rem
  lent : call.lent rt = some (rt.distributionKey d.dzEpoch)
  authority : a.owner = (findIntegrationDistributionAddress rt.scheme id d.dzEpoch).1
  other : ∃ i irem, b.entry (.integration i.programId) = some (.rewardsIntegration i, irem) ∧
    call.key? 2 = some (Identity.key rt (.integration i.programId)) ∧ i.programId ≠ id

section

variable {rt : Runtime} {id k : Pubkey} {own : OwnAccounts} {call : Call} {b b' b₁ : Books}
  {L L' : RevenueLedger} {a : TokenAccount} {st st' : State} {action : Action}

/-- The program a collection calls is the one of the record it names. -/
theorem calledProgram_eq {i : RewardsIntegration} {irem : List (BitVec 8)}
    (hdata : call.data = .collectIntegrationRewards)
    (hkey : call.key? 2 = some (Identity.key rt (.integration i.programId)))
    (hi : (books rt L).entry (.integration i.programId) = some (.rewardsIntegration i, irem)) :
    calledProgram call L = some i.programId := by
  have hview : view ID L (Identity.key rt (.integration i.programId)) = some (i, irem) :=
    view_eq_stateAt.2 hi
  simp [calledProgram, hdata, hkey, hview]

/-- A withdrawal that takes from `k` takes everything, for the epoch of the parent. -/
theorem Withdrawn.taken {m : MockIntegrationDistribution} {d : Distribution}
    {bucket destination : TokenAccount} {distributionKey bucketKey destinationKey parentKey : Pubkey}
    {accounts : List AccountMeta} (hown : own.Canonical rt.scheme id)
    (h : Withdrawn rt.scheme id own accounts L L' m d bucket destination distributionKey bucketKey
      destinationKey parentKey)
    (ha : Token.unpack L k = some a) (htaken : ¬(books rt L').KeepsAt k a) :
    bucketKey = k ∧ a.owner = (findIntegrationDistributionAddress rt.scheme id d.dzEpoch).1 ∧
      TokenTransfer k destinationKey a.owner a.amount (books rt L) (books rt L') := by
  obtain ⟨signers, htransfer⟩ := h.transfer
  have hbooks : TokenTransfer bucketKey destinationKey distributionKey bucket.amount (books rt L)
      (books rt L') := tokenTransfer_of_ok htransfer
  have hkey : k = bucketKey := by
    by_contra hne
    exact htaken ((Books.KeepsAt.of_eq (b := books rt L) ha rfl).transfer hbooks hne)
  subst hkey
  obtain ⟨a', c, ha', -, -, -, howner, -⟩ := Token.transfer_eq_ok.1 htransfer
  cases ha.symm.trans ha'
  obtain rfl : bucket = a := by
    have hdata := (Token.unpack_eq_some.1 ha).2
    rw [h.bucket_eq] at hdata
    cases hdata
    rfl
  refine ⟨rfl, ?_, howner ▸ hbooks⟩
  rw [howner, h.epoch_eq, hown _ _ h.own_eq]

/-- The destination and the parent are those of the collection. -/
theorem Withdrawn.keys {m : MockIntegrationDistribution} {d : Distribution}
    {bucket destination : TokenAccount} {distributionKey bucketKey destinationKey parentKey : Pubkey}
    {accounts : WithdrawIntegrationRewardsAccounts}
    (h : Withdrawn rt.scheme id own accounts.metas L L' m d bucket destination distributionKey
      bucketKey destinationKey parentKey) :
    destinationKey = accounts.destinationTokenAccountKey ∧
      parentKey = accounts.parentDistributionKey := by
  obtain ⟨mi, mb, md, mp, rest, hlist, -, -, rfl, rfl, -⟩ := h.listed
  cases hlist
  exact ⟨rfl, rfl⟩

/-- The parent of a withdrawal is a distribution that signs. -/
theorem Withdrawn.parent {m : MockIntegrationDistribution} {d : Distribution}
    {bucket destination : TokenAccount} {distributionKey bucketKey destinationKey parentKey : Pubkey}
    {accounts : List AccountMeta} (hc : Canonical rt L)
    (h : Withdrawn rt.scheme id own accounts L L' m d bucket destination distributionKey bucketKey
      destinationKey parentKey) :
    parentKey = rt.distributionKey d.dzEpoch ∧ (∃ rem, (books rt L).HasDist d rem) ∧
      ∃ mp ∈ accounts, mp.key = parentKey ∧ mp.isSigner = true := by
  obtain ⟨mi, mb, md, mp, rest, rfl, -, -, -, hkey, -, -, -, hsigner⟩ := h.listed
  obtain ⟨rem, hview⟩ := h.parent_eq
  obtain ⟨hk, hhas, -⟩ := hc.of_view hview
  exact ⟨hk, ⟨rem, hhas⟩, mp, by simp, hkey, hsigner⟩

/-- The signature that a withdrawal from a bucket under the address `owner` asks for is lent. -/
def LentFor (rt : Runtime) (id : Pubkey) (lent : Option Pubkey) (b : Books) (owner : Pubkey) : Prop :=
  ∃ d rem, b.HasDist d rem ∧ lent = some (rt.distributionKey d.dzEpoch) ∧
    owner = (findIntegrationDistributionAddress rt.scheme id d.dzEpoch).1

/-- A bucket keeps its tokens unless the signature it asks for is relayed. -/
theorem Relay.bucket {lent : Option Pubkey} (hc : Canonical rt st.ledger)
    (hown : st.own.Canonical rt.scheme id) (h : Relay rt id lent st st')
    (ha : Token.unpack st.ledger k = some a) (hderived : DerivedFrom rt.scheme id a.owner) :
    (books rt st'.ledger).KeepsAt k a ∨ LentFor rt id lent (books rt st.ledger) a.owner := by
  cases h with
  | other _ hkeeps => exact .inl (hkeeps k a ha hderived)
  | @integration accounts ix own own' L L' hprivileged hprocess =>
    rcases process_cases hprocess with ⟨-, hwithdraw⟩ | hinitializes
    · by_cases hkept : (books rt L').KeepsAt k a
      · exact .inl hkept
      obtain ⟨m, d, bucket, destination, ki, kb, kd, kp, hw⟩ := withdraw_ok hwithdraw
      obtain ⟨-, hauthority, -⟩ := hw.taken hown ha hkept
      obtain ⟨hparent, ⟨rem, hhas⟩, mp, hmp, hkey, hsigner⟩ := hw.parent hc
      have hlent := (hprivileged mp hmp hsigner).1 (by
        rw [hkey, hparent]
        exact Runtime.derived_find _)
      exact .inr ⟨d, rem, hhas, by rw [hlent, hkey, hparent], hauthority⟩
    · exact .inl (.of_eq (b := books rt L) ha ((hinitializes.unpack ha).trans ha.symm))

theorem relayed_bucket {lent : Option Pubkey} (hd : Deployed rt id) (hc : Canonical rt st.ledger)
    (hown : st.own.Canonical rt.scheme id) (h : Relation.ReflTransGen (Relay rt id lent) st st')
    (ha : Token.unpack st.ledger k = some a) (hderived : DerivedFrom rt.scheme id a.owner) :
    (books rt st'.ledger).KeepsAt k a ∨ LentFor rt id lent (books rt st.ledger) a.owner := by
  induction h with
  | refl => exact .inl (.of_eq (b := books rt st.ledger) ha rfl)
  | @tail st₁ st₂ hrelayed hrelay ih =>
    rcases ih with ⟨a₁, ha₁, hmint, howner, hle⟩ | hlent
    · have hforeign := relayed_foreign hd hrelayed
      rcases hrelay.bucket (hc.foreign hforeign) (relayed_canonical hrelayed hown) ha₁
        (howner.symm ▸ hderived) with
        ⟨a₂, ha₂, hmint₂, howner₂, hle₂⟩ | ⟨d, rem, hhas, hlent, hauthority⟩
      · exact .inl ⟨a₂, ha₂, hmint₂.trans hmint, howner₂.trans howner, UInt64.le_trans hle hle₂⟩
      · -- what others did left the distribution as it was
        refine .inr ⟨d, rem, ?_, hlent, howner ▸ hauthority⟩
        exact (congrFun (books_foreign hforeign).entry_eq _).symm.trans hhas
    · exact .inr hlent

/-- Who is lent the signature of a distribution is collected from. -/
theorem LentFor.collects {owner : Pubkey} (h : LentFor rt id (call.lent rt) b owner) :
    call.data = .collectIntegrationRewards := by
  obtain ⟨d, rem, -, hlent, -⟩ := h
  unfold Call.lent at hlent
  split at hlent
  · assumption
  · have hkey : rt.journalKey = rt.distributionKey d.dzEpoch := Option.some.inj hlent
    have hidentity : Identity.journal = Identity.distribution d.dzEpoch := Identity.key_inj.1 hkey
    cases hidentity
  · cases hlent

/-- Only a collection invokes somebody who takes from a bucket. -/
theorem InvokesLawfully.collects {own' : OwnAccounts} (hd : Deployed rt id)
    (hown : own.Canonical rt.scheme id) (h : InvokesLawfully rt id call own own')
    (hinvokes : call.Invokes rt b b₁) (ha : b.tokens k = some a)
    (hderived : DerivedFrom rt.scheme id a.owner) (htaken : ¬b₁.KeepsAt k a) :
    call.data = .collectIntegrationRewards := by
  obtain ⟨L, L', returnData, hc, hcpi, rfl, rfl⟩ := hinvokes
  have hcase := h.cpi L L' returnData hcpi
  split at hcase
  · next hcalled =>
    by_contra hne
    simp [calledProgram, hne] at hcalled
  · exact ((relayed_bucket hd hc hown hcase ha hderived).resolve_left htaken).collects

/-- A collection from the integration itself that takes from a bucket empties it. -/
theorem Collection.of_withdraw {accounts : WithdrawIntegrationRewardsAccounts} {d d' : Distribution}
    {rem rem' irem : List (BitVec 8)} {i : RewardsIntegration} {amount : UInt64}
    (hd : Deployed rt id) (hown : own.Canonical rt.scheme id)
    (hdata : call.data = .collectIntegrationRewards)
    (hpool : call.key? 5 = some (rt.poolKey d.dzEpoch))
    (has : (books rt L).HasDist d rem)
    (hintegration : (books rt L).entry (.integration i.programId) =
      some (.rewardsIntegration i, irem))
    (hkeyDist : call.key? 1 = some (rt.distributionKey d.dzEpoch)) (hcalled : i.programId = id)
    (haccounts : call.withdrawAccounts = some accounts)
    (hwithdraw : withdraw rt.scheme id own accounts.metas L = .ok L')
    (hdelta : ∀ before after, (books rt L).tokens (rt.poolKey d.dzEpoch) = some before →
      (books rt L').tokens (rt.poolKey d.dzEpoch) = some after → amount = after.amount - before.amount)
    (hstep : DistStep rt (.collect i.registrationIndex amount) (d, rem) (d', rem'))
    (ha : Token.unpack L k = some a) (hderived : DerivedFrom rt.scheme id a.owner)
    (htaken : ¬(books rt L').KeepsAt k a) :
    Collection rt id call (books rt L) ((books rt L').setDist d' rem') k a d d' rem := by
  obtain ⟨m, d₁, bucket, destination, ki, kb, kd, kp, hw⟩ := withdraw_ok hwithdraw
  obtain ⟨hdestination, hparent⟩ := hw.keys
  have hkeys : accounts.destinationTokenAccountKey = rt.poolKey d.dzEpoch ∧
      accounts.parentDistributionKey = rt.distributionKey d.dzEpoch := by
    simp only [Call.withdrawAccounts, hpool, hkeyDist, Option.bind_eq_bind, Option.bind_some,
      Option.bind_eq_some_iff] at haccounts
    obtain ⟨k₃, -, k₄, -, heq⟩ := haccounts
    cases heq
    exact ⟨rfl, rfl⟩
  rw [hkeys.1] at hdestination
  rw [hkeys.2] at hparent
  subst hdestination hparent
  obtain rfl : d₁ = d := by
    obtain ⟨rem₁, hview⟩ := hw.parent_eq
    have hstate := view_eq_stateAt.1 hview
    have hhas : stateAt L (rt.distributionKey d.dzEpoch) = some (.distribution d, rem) := has
    cases hhas.symm.trans hstate
    rfl
  obtain ⟨-, hauthority, a', c, ha', hc, -, -, -, hmoved⟩ := hw.taken hown ha htaken
  cases ha.symm.trans ha'
  have howner : c.owner = rt.distributionKey d₁.dzEpoch := by
    have hdata := (Token.unpack_eq_some.1 hc).2
    rw [hw.destination_eq] at hdata
    cases hdata
    exact hw.destination_owner
  have hne : k ≠ rt.poolKey d₁.dzEpoch := by
    rintro rfl
    cases ha.symm.trans hc
    exact hd.apart _ hderived (howner ▸ Runtime.derived_find _)
  obtain ⟨heq, -⟩ | ⟨-, hroom, hbooks⟩ := hmoved
  · exact absurd heq hne
  rw [UInt64.sub_self] at hbooks
  -- The pool grows by the whole bucket, so that is what is counted.
  obtain rfl : amount = a.amount := by
    have hdelta := hdelta c _ hc (by rw [hbooks, Books.setToken_tokens, if_pos rfl])
    rw [hdelta, UInt64.add_comm, UInt64.add_sub_cancel]
  obtain rfl : rem' = rem := by
    cases hstep
    rfl
  exact ⟨hdata, has, hauthority, ⟨i, irem, hcalled ▸ hintegration, hstep⟩, c, hc, hroom,
    by rw [hbooks]⟩

/-- A collection keeps the tokens of a bucket, empties it, or lends the signature it asks for. -/
theorem Transition.bucket {own' : OwnAccounts} (hd : Deployed rt id)
    (hown : own.Canonical rt.scheme id) (hlawful : InvokesLawfully rt id call own own')
    (ht : Transition rt call b b') (hdata : call.data = .collectIntegrationRewards)
    (hpool : ∀ e, call.key? 1 = some (rt.distributionKey e) → call.key? 5 = some (rt.poolKey e))
    (ha : b.tokens k = some a) (hderived : DerivedFrom rt.scheme id a.owner) :
    b'.KeepsAt k a ∨ (∃ d d' rem, Collection rt id call b b' k a d d' rem) ∨
      ∃ d rem, Relayed rt id call b a d rem := by
  cases ht with
  | @collect c d d' rem rem' irem i amount b₁ data running has integration keyDist keyIntegration
      invokes foreign delta step =>
    by_cases hkept : b₁.KeepsAt k a
    · exact .inl (hkept.congr rfl)
    obtain ⟨L₁, L', returnData, hc₁, hcpi, hbooks, rfl⟩ := invokes
    rw [← hbooks] at has integration delta ha ⊢
    have hcalled : calledProgram call L₁ = some i.programId :=
      calledProgram_eq data keyIntegration integration
    have hcase := hlawful.cpi L₁ L' returnData hcpi
    rw [hcalled] at hcase
    split at hcase
    · next heq =>
      obtain ⟨-, accounts, haccounts, hwithdraw⟩ := hcase
      exact .inr (.inl ⟨d, d', rem, Collection.of_withdraw hd hown data (hpool _ keyDist) has
        integration keyDist (Option.some.inj heq) haccounts hwithdraw delta step ha hderived hkept⟩)
    · next hne =>
      obtain ⟨d₁, rem₁, hhas, hlent, hauthority⟩ :=
        (relayed_bucket hd hc₁ hown hcase ha hderived).resolve_left hkept
      exact .inr (.inr ⟨d₁, rem₁, data, hhas, hlent, hauthority, i, irem, integration,
        keyIntegration, fun heq => hne (congrArg some heq)⟩)
  | _ => simp [‹call.data = _›] at hdata

end

end DoubleZero.Integration
