import DoubleZero.Revenue.Invariant.Rewards
import DoubleZero.Revenue.Safety.Collection
import DoubleZero.Revenue.Safety.Contributors
import DoubleZero.Revenue.Safety.Pool
import DoubleZero.Revenue.Safety.Stranding

/-!
# Rewards do not depend on the order of the calls

Every leaf is split out of what is collected at the moment of its call. Once a distribution is
settled that amount stays, so what a leaf gets depends on the leaf alone, and the pool holds enough
for every leaf that is still pending. A migration may open a settled distribution again; leaves paid
before it were split out of less.
-/

namespace DoubleZero.Revenue

open DoubleZero.Lib DoubleZero.Solana

/-- A tree of reward shares: what verifies against the root is one of the leaves, and together the
leaves have no more than all units. -/
structure RewardsTree (rt : Runtime) (root : Hash) (leaves : List RewardShare) : Prop where
  leaf : ∀ {i share}, Verifies rt root i (.rewardShare share) → leaves[i.toNat]? = some share
  units_le : (leaves.map fun share => share.unitShare.toNat).sum ≤ 1000000000

/-- What the counters of a distribution say was paid out. -/
def Distribution.paidOut (d : Distribution) : Nat :=
  d.distributed2zAmount.toNat + d.burned2zAmount.toNat

/-- What was paid out is covered by the leaves paid, and the pool holds the rest. -/
structure RewardsBooked (rt : Runtime) (leaves : List RewardShare) (b : Books) (s : DistState)
    (n : Nat) : Prop where
  holds : b.PoolHolds rt s.1.dzEpoch n
  covered : s.1.collected ≤ n + s.1.paidOut
  bounded : ∀ i ∈ s.1.processedRewards s.2, i < leaves.length
  booked : s.1.paidOut ≤ dues leaves s.1.collected (s.1.processedRewards s.2)

/-- Every leaf paid was split out of what is collected now. -/
def RewardsExact (leaves : List RewardShare) (s : DistState) : Prop :=
  s.1.processedRewards s.2 = ∅ ∨
    Settled s.1 ∧ s.1.paidOut = dues leaves s.1.collected (s.1.processedRewards s.2)

/-- The step migrates accounts only when the distribution has paid no leaf yet. -/
def MigratesEarly {σ : Type} (f : σ → Option Distribution) (x : Entry σ Label) : Prop :=
  x.label.migrates = true → ∀ d, f x.before = some d → d.distributedRewardsCount = 0

/-! ## One step -/

section

variable {rt : Runtime} {leaves : List RewardShare} {b b' b₀ : Books} {s s' s₀ : DistState}
  {n n' gift : Nat} {l : Label} {h h' : List (Entry Books Label)} {d d' : Distribution}
  {rem rem' : List (BitVec 8)}

/-- What a payment adds to the counters is what its leaf is due. -/
theorem RewardsBooked.since_eq {i : UInt32} {share : RewardShare} {transferred burned : UInt64}
    (h : RewardsBooked rt leaves b s n) (hpaid : RewardsPaid rt i share transferred burned s s')
    (hstep : PoolStep rt b b' s.1 n gift s'.1 s'.2 n') :
    s.1.distributedSince s'.1 = transferred.toNat ∧ s.1.burnedSince s'.1 = burned.toNat ∧
      transferred.toNat + burned.toNat = share.due s.1.collected := by
  have hdistributed : s.1.distributedSince s'.1 = transferred.toNat := by
    rw [Distribution.distributedSince, hpaid.distributed_eq]
    exact toNat_add_sub_self _ _
  have hburned : s.1.burnedSince s'.1 = burned.toNat := by
    rw [Distribution.burnedSince, hpaid.burned_eq]
    exact toNat_add_sub_self _ _
  refine ⟨hdistributed, hburned, ?_⟩
  have hdrawn := hstep.drawn
  obtain ⟨a, -, -, rfl⟩ := h.holds
  have hlt := a.amount.toNat_lt
  rw [← hpaid.due_eq, toNat_add_of_lt (by omega)]

/-- The counters do not wrap when a leaf is paid out. -/
theorem RewardsBooked.paid {i : UInt32} {share : RewardShare} {transferred burned : UInt64}
    (h : RewardsBooked rt leaves b s n) (htree : RewardsTree rt s.1.rewardsMerkleRoot leaves)
    (hpaid : RewardsPaid rt i share transferred burned s s')
    (hstep : PoolStep rt b b' s.1 n gift s'.1 s'.2 n') :
    leaves[i.toNat]? = some share ∧ s'.1.paidOut = share.due s.1.collected + s.1.paidOut := by
  have hleaf := htree.leaf hpaid.leaf
  have hi : i.toNat < leaves.length := (List.getElem?_eq_some_iff.1 hleaf).1
  obtain ⟨hdistributed, hburned, hdue⟩ := h.since_eq hpaid hstep
  have hdues : share.due s.1.collected + s.1.paidOut ≤ s.1.collected := by
    have hle := dues_le (C := s.1.collected) (P := insert i.toNat (s.1.processedRewards s.2))
      htree.units_le (by simpa using ⟨hi, h.bounded⟩)
    have hbooked := h.booked
    rw [dues_insert hleaf hpaid.pending] at hle
    omega
  have hfits : s.1.distributed2zAmount.toNat + transferred.toNat < 2 ^ 64 ∧
      s.1.burned2zAmount.toNat + burned.toNat < 2 ^ 64 := by
    have hd := s.1.distributed2zAmount.toNat_lt
    have hb := s.1.burned2zAmount.toNat_lt
    have hcollected := hpaid.collected_eq
    rw [Distribution.paidOut] at hdues
    rcases hstep.paid with ⟨hzero, hzero'⟩ | hlt
    · omega
    · omega
  refine ⟨hleaf, ?_⟩
  rw [Distribution.paidOut, Distribution.paidOut, hpaid.distributed_eq, hpaid.burned_eq,
    toNat_add_of_lt hfits.1, toNat_add_of_lt hfits.2]
  omega

theorem RewardsKept.paidOut_eq (h : RewardsKept s s') : s'.1.paidOut = s.1.paidOut := by
  rw [Distribution.paidOut, h.distributed_eq, h.burned_eq, Distribution.paidOut]

theorem RewardsKept.since_eq (h : RewardsKept s s') :
    s.1.distributedSince s'.1 = 0 ∧ s.1.burnedSince s'.1 = 0 := by
  rw [Distribution.distributedSince, Distribution.burnedSince, h.distributed_eq, h.burned_eq]
  simp

theorem RewardsBooked.step (h : RewardsBooked rt leaves b s n)
    (htree : s.1.isRewardsCalculationFinalized = true →
      RewardsTree rt s.1.rewardsMerkleRoot leaves)
    (hmove : RewardsMove rt s s') (hstep : PoolStep rt b b' s.1 n gift s'.1 s'.2 n') :
    RewardsBooked rt leaves b' s' n' := by
  have hholds : b'.PoolHolds rt s'.1.dzEpoch n' := hstep.epoch ▸ hstep.holds
  have hbalanced := hstep.balanced
  have hcovered := h.covered
  cases hmove with
  | kept hkept =>
    obtain ⟨hdistributed, hburned⟩ := hkept.since_eq
    refine ⟨hholds, ?_, ?_, ?_⟩
    · rw [hkept.paidOut_eq]
      omega
    · rw [hkept.processed_eq]
      exact h.bounded
    · rw [hkept.paidOut_eq, hkept.processed_eq]
      exact h.booked.trans (sum_share_mono hkept.collected_le)
  | @paid i share transferred burned hpaid =>
    obtain ⟨hleaf, hsum⟩ := h.paid (htree hpaid.final) hpaid hstep
    obtain ⟨hdistributed, hburned, hdue⟩ := h.since_eq hpaid hstep
    have hbooked := h.booked
    refine ⟨hholds, ?_, ?_, ?_⟩
    · have hdrawn := hstep.drawn
      have hcollected := hpaid.collected_eq
      rw [hsum]
      omega
    · rw [hpaid.processed_eq]
      simpa using ⟨(List.getElem?_eq_some_iff.1 hleaf).1, h.bounded⟩
    · rw [hsum, hpaid.processed_eq, hpaid.collected_eq, dues_insert hleaf hpaid.pending]
      omega

theorem RewardsBooked.subset_range (h : RewardsBooked rt leaves b s n) :
    s.1.processedRewards s.2 ⊆ Finset.range leaves.length :=
  fun i hi => Finset.mem_range.2 (h.bounded i hi)

theorem RewardsBooked.card_le (h : RewardsBooked rt leaves b s n) :
    (s.1.processedRewards s.2).card ≤ leaves.length := by
  have hle := Finset.card_le_card h.subset_range
  rwa [Finset.card_range] at hle

/-- While nothing is paid out nothing is booked. -/
theorem RewardsBooked.exact_eq (h : RewardsBooked rt leaves b s n)
    (hexact : RewardsExact leaves s) :
    s.1.paidOut = dues leaves s.1.collected (s.1.processedRewards s.2) := by
  rcases hexact with hnone | ⟨-, hexact⟩
  · have hbooked := h.booked
    rw [hnone] at hbooked ⊢
    exact Nat.le_zero.1 hbooked
  · exact hexact

theorem RewardsExact.step (hexact : RewardsExact leaves s) (h : RewardsBooked rt leaves b s n)
    (htree : s.1.isRewardsCalculationFinalized = true →
      RewardsTree rt s.1.rewardsMerkleRoot leaves)
    (hmove : RewardsMove rt s s') (hstep : PoolStep rt b b' s.1 n gift s'.1 s'.2 n')
    (hsettled : s.1.processedRewards s.2 = ∅ ∨
      (Settled s.1 → Settled s'.1 ∧ SameSplit s.1 s'.1)) : RewardsExact leaves s' := by
  cases hmove with
  | kept hkept =>
    rcases hexact with hnone | ⟨hs, hexact⟩
    · exact .inl (hkept.processed_eq.trans hnone)
    · rcases hsettled with hnone | hsettled
      · exact .inl (hkept.processed_eq.trans hnone)
      · obtain ⟨hs', hsame⟩ := hsettled hs
        refine .inr ⟨hs', ?_⟩
        rw [hkept.paidOut_eq, hexact, hsame.collected_eq, hkept.processed_eq]
  | paid hpaid =>
    obtain ⟨hleaf, hsum⟩ := h.paid (htree hpaid.final) hpaid hstep
    refine .inr ⟨hpaid.settled, ?_⟩
    rw [hsum, h.exact_eq hexact, hpaid.collected_eq, hpaid.processed_eq,
      dues_insert hleaf hpaid.pending]

/-! ## Whole runs -/

/-- What a step of the books does to a distribution, its pool and its rewards. -/
theorem BookStep.rewards (hs : BookStep rt l b b') (hhonest : Books.TakesNoPool rt ⟨b, l, b'⟩)
    (hv : Valid (d, rem)) (hd : b.HasDist d rem) (hholds : b.PoolHolds rt d.dzEpoch n)
    (hd' : b'.HasDist d' rem') (he : d'.dzEpoch = d.dzEpoch) :
    ∃ n' gift, PoolStep rt b b' d n gift d' rem' n' ∧ RewardsMove rt (d, rem) (d', rem') ∧
      (l.migrates = false → Settled d → Settled d' ∧ SameSplit d d') := by
  cases hs with
  | @call c _ _ ht =>
    obtain ⟨d₁, rem₁, n', gift, hstep, -⟩ := ht.pool hhonest hv hd hholds
    obtain ⟨rfl, rfl⟩ := hstep.has.unique hd' (he.trans hstep.epoch.symm)
    refine ⟨n', gift, hstep, ht.rewards hv hd hd' he, fun hmigrate hsettled => ?_⟩
    exact ht.settled hv hsettled hd hd' he (by simpa [Label.migrates] using hmigrate)
  | outside hforeign =>
    have hsame : b'.HasDist d rem := (congrFun hforeign.entry_eq _).trans hd
    obtain ⟨rfl, rfl⟩ := hsame.unique hd' he
    have hkeeps : b.KeepsPools rt b' := hhonest
    obtain ⟨gift, hholds'⟩ := hkeeps _ _ hholds
    exact ⟨n + gift, gift, .of_same hd' rfl hholds' rfl rfl rfl, .kept (.refl _),
      fun _ hsettled => ⟨hsettled, .refl _⟩⟩

/-- A new distribution has paid nothing. -/
theorem BookStep.rewards_new (hs : BookStep rt l b b') (hv : Valid (d, rem))
    (hnone : b.entry (.distribution d.dzEpoch) = none) (hd : b'.HasDist d rem) :
    RewardsBooked rt leaves b' (d, rem) d.collected ∧ d.processedRewards rem = ∅ := by
  cases hs with
  | @call c _ _ ht =>
    obtain ⟨hholds, hdistributed, hburned⟩ := ht.pool_new hnone hd
    have hempty : d.processedRewards rem = ∅ := by
      cases ht.change d.dzEpoch with
      | kept same => exact absurd ((same.symm.trans hd).symm.trans hnone) (by simp)
      | create data journal new initialized epoch created =>
        obtain ⟨rfl, rfl⟩ := created.unique hd epoch.symm
        exact hv.unpaid_sets (initialized.flag_eq)
      | step does epoch has => exact absurd (has.symm.trans (epoch ▸ hnone)) (by simp)
      | twice does books epoch has => exact absurd (has.symm.trans (epoch ▸ hnone)) (by simp)
    have hpaid : d.paidOut = 0 := by
      rw [Distribution.paidOut, hdistributed, hburned]
      rfl
    refine ⟨⟨hholds, Nat.le_add_right _ _, ?_, ?_⟩, hempty⟩
    · rw [hempty]
      simp
    · rw [hpaid]
      exact Nat.zero_le _
  | outside hforeign =>
    exact absurd ((congrFun hforeign.entry_eq _).symm.trans hd) (by simp [hnone])

theorem BookStep.frozen (hs : BookStep rt l b b') (hd : b.HasDist d rem) (hd' : b'.HasDist d' rem')
    (he : d'.dzEpoch = d.dzEpoch) : Frozen d d' := by
  obtain ⟨d₁, rem₁, hd₁, hmoves⟩ := BooksRun.persists (.next .start hs) hd
  obtain ⟨rfl, rfl⟩ := hd₁.unique hd' (he.trans hmoves.dzEpoch_eq.symm)
  exact Frozen.moves hmoves

/-- The rewards of every distribution with the given tree, along a run. -/
theorem BooksRun.rewardsBooked (hrun : BooksRun rt b₀ h b) (hempty : b₀.Empty)
    (hhonest : ∀ x ∈ h, Books.TakesNoPool rt x) (hd : b.HasDist d rem)
    (htree : d.isRewardsCalculationFinalized = true → RewardsTree rt d.rewardsMerkleRoot leaves) :
    ∃ n, RewardsBooked rt leaves b (d, rem) n ∧
      ((∀ x ∈ h, MigratesEarly (Books.dist d.dzEpoch) x) → RewardsExact leaves (d, rem)) := by
  induction hrun generalizing d rem with
  | start => exact absurd hd (by simp [Books.HasDist, hempty _])
  | @next h b b' l hr hs ih =>
    have hv' : Valid (d, rem) := BooksRun.valid (.next hr hs) hempty hd
    cases hold : b.entry (.distribution d.dzEpoch) with
    | none =>
      obtain ⟨hbooked, hnone⟩ := hs.rewards_new hv' hold hd
      exact ⟨_, hbooked, fun _ => .inl hnone⟩
    | some p =>
      obtain ⟨d₀, rem₀, he, hd₀⟩ := (BooksRun.proper hr hempty).dist hold
      have hv := BooksRun.valid hr hempty hd₀
      have hfrozen := hs.frozen hd₀ hd he.symm
      have htree₀ : d₀.isRewardsCalculationFinalized = true →
          RewardsTree rt d₀.rewardsMerkleRoot leaves := by
        intro hfinal
        obtain ⟨hfinal', -, hroot, -⟩ := hfrozen.rewardsFinal hfinal
        exact hroot ▸ htree hfinal'
      obtain ⟨m, hbooked, hexact⟩ :=
        ih (fun x hx => hhonest x (List.mem_cons_of_mem _ hx)) hd₀ htree₀
      obtain ⟨n', gift, hstep, hmove, hsettled⟩ :=
        hs.rewards (hhonest _ List.mem_cons_self) hv hd₀ hbooked.holds hd he.symm
      refine ⟨n', hbooked.step htree₀ hmove hstep, fun hearly => ?_⟩
      rw [← he] at hearly
      refine (hexact fun x hx => hearly x (List.mem_cons_of_mem _ hx)).step hbooked htree₀ hmove
        hstep ?_
      cases hl : l.migrates with
      | false => exact .inr (hsettled hl)
      | true =>
        have hcount := hearly _ List.mem_cons_self hl d₀ hd₀.dist_eq
        refine .inl ?_
        rw [← Finset.card_eq_zero, hv.counted.rewards_card, hcount]
        rfl

/-- What was paid out since a settled state: the leaves that were paid since. -/
structure RewardsSince (leaves : List RewardShare) (s s' : DistState) : Prop where
  settled : Settled s'.1
  same : SameSplit s.1 s'.1
  frozen : Frozen s.1 s'.1
  processed : s.1.processedRewards s.2 ⊆ s'.1.processedRewards s'.2
  paidOut_eq : s'.1.paidOut = s.1.paidOut +
    dues leaves s.1.collected (s'.1.processedRewards s'.2 \ s.1.processedRewards s.2)

theorem RewardsSince.refl (hs : Settled s.1) : RewardsSince leaves s s := by
  refine ⟨hs, .refl _, .refl _, subset_rfl, ?_⟩
  rw [Finset.sdiff_self]
  rfl

theorem RewardsSince.step (h : RewardsSince leaves s₀ s) (hbooked : RewardsBooked rt leaves b s n)
    (htree : RewardsTree rt s.1.rewardsMerkleRoot leaves) (hmove : RewardsMove rt s s')
    (hstep : PoolStep rt b b' s.1 n gift s'.1 s'.2 n') (hfrozen : Frozen s.1 s'.1)
    (hsettled : Settled s'.1 ∧ SameSplit s.1 s'.1) : RewardsSince leaves s₀ s' := by
  obtain ⟨hs', hsame⟩ := hsettled
  cases hmove with
  | kept hkept =>
    refine ⟨hs', h.same.trans hsame, h.frozen.trans hfrozen, ?_, ?_⟩
    · rw [hkept.processed_eq]
      exact h.processed
    · rw [hkept.paidOut_eq, hkept.processed_eq]
      exact h.paidOut_eq
  | paid hpaid =>
    obtain ⟨hleaf, hsum⟩ := hbooked.paid htree hpaid hstep
    have hnew : _ ∉ s₀.1.processedRewards s₀.2 := fun hi => hpaid.pending (h.processed hi)
    refine ⟨hs', h.same.trans hsame, h.frozen.trans hfrozen, ?_, ?_⟩
    · rw [hpaid.processed_eq]
      exact h.processed.trans (Finset.subset_insert _ _)
    · rw [hsum, h.paidOut_eq, hpaid.processed_eq, Finset.insert_sdiff_of_notMem _ hnew,
        dues_insert hleaf (by simp [hpaid.pending]), h.same.collected_eq]
      omega

theorem BooksRun.rewardsSince (hrun : BooksRun rt b₀ h b) (hempty : b₀.Empty)
    (hhonest : ∀ x ∈ h, Books.TakesNoPool rt x) (hd : b.HasDist d rem) (hsettled : Settled d)
    (htree : RewardsTree rt d.rewardsMerkleRoot leaves) (hrun' : BooksRun rt b h' b')
    (hhonest' : ∀ x ∈ h', Books.TakesNoPool rt x)
    (hmigrates : ∀ x ∈ h', x.label.migrates = false)
    (hd' : b'.HasDist d' rem') (he : d'.dzEpoch = d.dzEpoch) :
    RewardsSince leaves (d, rem) (d', rem') := by
  induction hrun' generalizing d' rem' with
  | start =>
    obtain ⟨rfl, rfl⟩ := hd.unique hd' he
    exact .refl hsettled
  | @next h' b₁ b₂ l hr hs ih =>
    obtain ⟨d₁, rem₁, hd₁, hmoves⟩ := BooksRun.persists hr hd
    have he₁ : d₁.dzEpoch = d.dzEpoch := hmoves.dzEpoch_eq
    have hall := hrun.append hr
    have hv := BooksRun.valid hall hempty hd₁
    have hsince := ih (fun x hx => hhonest' x (List.mem_cons_of_mem _ hx))
      (fun x hx => hmigrates x (List.mem_cons_of_mem _ hx)) hd₁ he₁
    have hfinal := (BooksRun.valid hrun hempty hd).ordered.swept_rewards hsettled.swept
    have hroot : d₁.rewardsMerkleRoot = d.rewardsMerkleRoot :=
      (hsince.frozen.rewardsFinal hfinal).2.2.1
    have htree₁ : RewardsTree rt d₁.rewardsMerkleRoot leaves := hroot ▸ htree
    have hall_honest : ∀ x ∈ h' ++ h, Books.TakesNoPool rt x := fun x hx =>
      (List.mem_append.1 hx).elim (fun hx => hhonest' x (List.mem_cons_of_mem _ hx)) (hhonest x)
    obtain ⟨m, hbooked, -⟩ := BooksRun.rewardsBooked hall hempty hall_honest hd₁ fun _ => htree₁
    have he' : d'.dzEpoch = d₁.dzEpoch := he.trans he₁.symm
    obtain ⟨n', gift, hstep, hmove, hkept⟩ :=
      hs.rewards (hhonest' _ List.mem_cons_self) hv hd₁ hbooked.holds hd' he'
    exact hsince.step hbooked htree₁ hmove hstep (hs.frozen hd₁ hd' he')
      (hkept (hmigrates _ List.mem_cons_self) hsince.settled)

/-! ## One call -/

/-- What a call that pays out a leaf does: the split of the leaf alone decides who gets what. -/
structure PaysLeaf (rt : Runtime) (call : Call) (unitShare economicBurnRate : UInt32)
    (proof : MerkleProof) (b b' : Books) (d d' : Distribution) (rem rem' : List (BitVec 8))
    (share : RewardShare) (burnShare remainingShare : UInt64) (r : ContributorRewards)
    (rrem : List (BitVec 8)) : Prop where
  leaf : ∃ i, proof.leafIndex = some i ∧ Verifies rt d.rewardsMerkleRoot i (.rewardShare share) ∧
    i.toNat ∉ d.processedRewards rem
  share_eq : RewardShare.new r.serviceKey unitShare false economicBurnRate = some share
  split : d.split2zAmount share = some (burnShare, remainingShare)
  keyContributor : call.key? 2 = some (Identity.key rt (.contributor r.serviceKey))
  contributor : b.entry (.contributor r.serviceKey) = some (.contributorRewards r, rrem)
  recipients : r.recipientShares.activeIter ≠ []
  has' : b'.HasDist d' rem'
  epoch_eq : d'.dzEpoch = d.dzEpoch
  distributed_eq : d'.distributed2zAmount = d.distributed2zAmount +
    payoutTotal remainingShare r.recipientShares.activeIter
  burned_eq : d'.burned2zAmount = d.burned2zAmount + (burnShare +
    (remainingShare - payoutTotal remainingShare r.recipientShares.activeIter))
  received : ∀ k a, k ≠ rt.poolKey d.dzEpoch → b.tokens k = some a → ∃ a', b'.tokens k = some a' ∧
    a'.amount.toNat = a.amount.toNat + receivedBy rt remainingShare r.recipientShares.activeIter k
  drawn : ∃ n n', b.PoolHolds rt d.dzEpoch n ∧ b'.PoolHolds rt d.dzEpoch n' ∧
    n = n' + (payoutTotal remainingShare r.recipientShares.activeIter).toNat + (burnShare +
      (remainingShare - payoutTotal remainingShare r.recipientShares.activeIter)).toNat

/-- The leaf is that of the contributor whose account is given. -/
theorem PaysLeaf.contributorKey_eq {call : Call} {unitShare economicBurnRate : UInt32}
    {proof : MerkleProof} {share : RewardShare} {burnShare remainingShare : UInt64}
    {r : ContributorRewards} {rrem : List (BitVec 8)} (h : PaysLeaf rt call unitShare
      economicBurnRate proof b b' d d' rem rem' share burnShare remainingShare r rrem) :
    r.serviceKey = share.contributorKey := by
  have shared := h.share_eq
  simp only [RewardShare.new, Option.bind_eq_bind, Option.bind_eq_some_iff, Option.pure_def,
    Option.some.injEq] at shared
  obtain ⟨_, -, _, -, rfl⟩ := shared
  rfl

/-- A call that pays a leaf takes its whole split out of the pool. -/
theorem PaysLeaf.covered {call : Call} {unitShare economicBurnRate : UInt32} {proof : MerkleProof}
    {share : RewardShare} {burnShare remainingShare : UInt64} {r : ContributorRewards}
    {rrem : List (BitVec 8)} (h : PaysLeaf rt call unitShare economicBurnRate proof b b' d d' rem
      rem' share burnShare remainingShare r rrem) (hholds : b.PoolHolds rt d.dzEpoch n) :
    burnShare.toNat + remainingShare.toNat ≤ n := by
  obtain ⟨m, m', hholds', -, hdrawn⟩ := h.drawn
  obtain rfl := hholds.unique hholds'
  obtain ⟨a, -, -, rfl⟩ := hholds
  have hlt := a.amount.toNat_lt
  obtain ⟨hdue, hfits⟩ := split2zAmount_due h.split
  have hsub := UInt64.toNat_sub remainingShare
    (payoutTotal remainingShare r.recipientShares.activeIter)
  have hadd := UInt64.toNat_add burnShare
    (remainingShare - payoutTotal remainingShare r.recipientShares.activeIter)
  omega

/-- The first recipient is paid by the authority of the pool. -/
theorem Payouts.pool_holds {e : DoubleZeroEpoch} {share : UInt64} {rs : List RecipientShare}
    (h : Payouts rt (rt.poolKey e) (rt.distributionKey e) share rs b b') (hrs : rs ≠ []) :
    ∃ n, b.PoolHolds rt e n := by
  cases h with
  | nil => exact absurd rfl hrs
  | cons htransfer _ =>
    obtain ⟨a, c, ha, -, -, -, howner, -⟩ := htransfer
    exact ⟨_, a, ha, howner, rfl⟩

theorem Transition.pays_leaf {call : Call} {unitShare economicBurnRate : UInt32}
    {proof : MerkleProof} (ht : Transition rt call b b') (hv : Valid (d, rem))
    (hd : b.HasDist d rem) (hdata : call.data = .distributeRewards unitShare economicBurnRate proof)
    (hkey : call.key? 1 = some (rt.distributionKey d.dzEpoch)) :
    ∃ d' rem' share burnShare remainingShare r rrem, PaysLeaf rt call unitShare economicBurnRate
      proof b b' d d' rem rem' share burnShare remainingShare r rrem := by
  cases ht with
  | @distribute c d₀ d₁ rem₀ rem₁ rrem r _ _ i _ share burnShare remainingShare _ b₁ b₂ b₃ data
      indexed running has keyDist contributor shared recipients split payouts step burn relayed
      keyContributor =>
    cases hdata.symm.trans data
    have he : d.dzEpoch = d₀.dzEpoch :=
      Runtime.distributionKey_inj.1 (Option.some.inj (hkey.symm.trans keyDist))
    obtain ⟨rfl, rfl⟩ := has.unique hd he
    have hpaid := hv.rewards_paid step
    obtain ⟨n, hholds⟩ := payouts.pool_holds recipients
    obtain ⟨n', hholds', hn⟩ := hholds.distribute payouts burn
    refine ⟨d₁, rem₁, share, burnShare, remainingShare, r, rrem, ⟨i, indexed, hpaid.leaf,
      hpaid.pending⟩, shared, split, keyContributor, contributor, recipients, ?_, step.fixed.1,
      hpaid.distributed_eq, hpaid.burned_eq, fun k a hk ha => ?_, n, n', hholds,
      hholds'.of_eq (by rw [relayed.tokens_eq]), hn⟩
    · rw [Books.HasDist, relayed.entry_eq, burn.entry_eq]
      exact Books.set_entry_self ..
    · obtain ⟨a', ha', hamount⟩ := payouts.received hk ha
      refine ⟨a', ?_, hamount⟩
      rw [relayed.tokens_eq, burn.tokens_of_ne hk]
      exact ha'
  | _ => simp [‹call.data = _›] at hdata

/-- The distribution that a call pays a leaf of. -/
theorem Transition.distributes {call : Call} {unitShare economicBurnRate : UInt32}
    {proof : MerkleProof} (ht : Transition rt call b b')
    (hdata : call.data = .distributeRewards unitShare economicBurnRate proof) :
    ∃ d rem, b.HasDist d rem ∧ call.key? 1 = some (rt.distributionKey d.dzEpoch) := by
  cases ht with
  | distribute data indexed running has keyDist => exact ⟨_, _, has, keyDist⟩
  | _ => simp [‹call.data = _›] at hdata

/-- The recipients a contributor has configured never get more than the leaf leaves them. -/
theorem BooksRun.payoutSum_le {k : Pubkey} {r : ContributorRewards} {rrem : List (BitVec 8)}
    (hrun : BooksRun rt b₀ h b) (hempty : b₀.Empty)
    (hr : b.entry (.contributor k) = some (.contributorRewards r, rrem)) (share : UInt64) :
    payoutSum share r.recipientShares.activeIter ≤ share.toNat := by
  apply Revenue.payoutSum_le
  rcases BooksRun.submitted hrun hempty hr with hdefault | ⟨_, _, _, recipients, _, _, _, hnew, -⟩
  · rw [hdefault]
    decide
  · exact (RecipientShares.new_sum hnew).le

/-- A leaf that is pending is covered by the pool. -/
theorem RewardsBooked.pending_le {i : Nat} {share : RewardShare}
    (h : RewardsBooked rt leaves b s n) (htree : RewardsTree rt s.1.rewardsMerkleRoot leaves)
    (hleaf : leaves[i]? = some share) (hi : i ∉ s.1.processedRewards s.2) :
    share.due s.1.collected ≤ n := by
  have hlt : i < leaves.length := (List.getElem?_eq_some_iff.1 hleaf).1
  have hle := dues_le (C := s.1.collected) (P := insert i (s.1.processedRewards s.2))
    htree.units_le (by simpa using ⟨hlt, h.bounded⟩)
  rw [dues_insert hleaf hi] at hle
  have hbooked := h.booked
  have hcovered := h.covered
  omega

/-- Once every leaf is paid, only what rounding left over stays behind. -/
theorem RewardsBooked.remainder_lt (h : RewardsBooked rt leaves b s n)
    (hexact : RewardsExact leaves s)
    (hunits : (leaves.map fun share => share.unitShare.toNat).sum = 1000000000)
    (hall : leaves.length ≤ (s.1.processedRewards s.2).card) :
    s.1.collected < s.1.paidOut + leaves.length := by
  have hrange : s.1.processedRewards s.2 = Finset.range leaves.length := by
    refine Finset.eq_of_subset_of_card_le h.subset_range ?_
    rw [Finset.card_range]
    exact hall
  have hlt := lt_sum_share_add_card (T := s.1.collected) (by decide)
    ((sum_unitAt leaves).trans hunits)
  rw [Finset.card_range] at hlt
  rw [h.exact_eq hexact, hrange]
  exact hlt

end

/-! ## On the ledger -/

/-- What the next call pays and burns is decided by its leaf. -/
theorem next_leaf_pays {rt : Runtime} {L' L'' : RevenueLedger} {d d' : Distribution}
    {rem' : List (BitVec 8)} {leaves : List RewardShare} {recipients : Pubkey → RecipientShares}
    {call : Call} {unitShare economicBurnRate : UInt32} {proof : MerkleProof}
    (hc' : Canonical rt L') (hv' : Valid (d', rem')) (has' : (books rt L').HasDist d' rem')
    (htree' : RewardsTree rt d'.rewardsMerkleRoot leaves) (hsame : SameSplit d d')
    (hfixed : ∀ (kr : Pubkey) (r : ContributorRewards) (rrem : List (BitVec 8)),
      view ID L' kr = some (r, rrem) → r.recipientShares = recipients r.serviceKey)
    (hstep : Step rt (.call call) L' L'')
    (hdata : call.data = .distributeRewards unitShare economicBurnRate proof)
    (hkey : call.key? 1 = some (rt.distributionKey d'.dzEpoch)) :
    ∃ (i : UInt32) (share : RewardShare) (burnShare remainingShare : UInt64)
      (d'' : Distribution) (rem'' : List (BitVec 8)),
      proof.leafIndex = some i ∧ leaves[i.toNat]? = some share ∧
      i.toNat ∉ d'.processedRewards rem' ∧
      d.split2zAmount share = some (burnShare, remainingShare) ∧
      view ID L'' (rt.distributionKey d'.dzEpoch) = some (d'', rem'') ∧
      d''.distributed2zAmount = d'.distributed2zAmount +
        payoutTotal remainingShare (recipients share.contributorKey).activeIter ∧
      d''.burned2zAmount = d'.burned2zAmount + (burnShare + (remainingShare -
        payoutTotal remainingShare (recipients share.contributorKey).activeIter)) ∧
      ∀ (key : Pubkey) (c : TokenAccount), key ≠ rt.poolKey d'.dzEpoch →
        Token.unpack L' key = some c → ∃ c', Token.unpack L'' key = some c' ∧
          c'.amount.toNat = c.amount.toNat +
            receivedBy rt remainingShare (recipients share.contributorKey).activeIter key := by
  obtain ⟨hc'', hbook⟩ := step_refines hc' hstep
  cases hbook with
  | call ht =>
    obtain ⟨d'', rem'', share, burnShare, remainingShare, r, rrem, hpays⟩ :=
      ht.pays_leaf hv' has' hdata hkey
    obtain ⟨i, hindex, hleaf, hpending⟩ := hpays.leaf
    have hshares : r.recipientShares = recipients share.contributorKey := by
      rw [← hpays.contributorKey_eq]
      exact hfixed _ r rrem (view_eq_stateAt.2 hpays.contributor)
    have hdistributed := hpays.distributed_eq
    have hburned := hpays.burned_eq
    have hreceived := hpays.received
    rw [hshares] at hdistributed hburned hreceived
    refine ⟨i, share, burnShare, remainingShare, d'', rem'', hindex, htree'.leaf hleaf, hpending,
      ?_, ?_, hdistributed, hburned, hreceived⟩
    · rw [← hsame.split_eq]
      exact hpays.split
    · rw [← hpays.epoch_eq]
      exact view_eq_stateAt.2 hpays.has'

theorem rewards_independent_of_order {rt : Runtime} {L₀ L L' : RevenueLedger} {h h' : History}
    {k : Pubkey} {d : Distribution} {rem : List (BitVec 8)} {leaves : List RewardShare}
    {recipients : Pubkey → RecipientShares} (hg : Genesis rt L₀) (hrun : LedgerRun rt L₀ h L)
    (hhonest : ∀ x ∈ h, TakesNoPool rt x) (hd : view ID L k = some (d, rem))
    (hswept : d.hasSwept2zTokens = true) (hcollected : d.areAllIntegrationsCollected = true)
    (htree : RewardsTree rt d.rewardsMerkleRoot leaves)
    (hleaves : leaves.length = d.totalContributors.toNat) (hrun' : LedgerRun rt L h' L')
    (hhonest' : ∀ x ∈ h', TakesNoPool rt x) (hmigrates : ∀ x ∈ h', x.label.migrates = false)
    (hfixed : ∀ (kr : Pubkey) (r : ContributorRewards) (rrem : List (BitVec 8)),
      view ID L' kr = some (r, rrem) → r.recipientShares = recipients r.serviceKey) :
    ∃ (d' : Distribution) (rem' : List (BitVec 8)) (a : TokenAccount),
      view ID L' k = some (d', rem') ∧
      Token.unpack L' (rt.find2zTokenPdaAddress k).1 = some a ∧
      -- The total that every leaf is split out of.
      d'.totalCollected2zTokens = d.totalCollected2zTokens ∧
      -- The pool covers whatever leaf is next.
      (∀ i share burnShare remainingShare, leaves[i]? = some share →
        i ∉ d'.processedRewards rem' →
        d.split2zAmount share = some (burnShare, remainingShare) →
        burnShare.toNat + remainingShare.toNat ≤ a.amount.toNat) ∧
      (∀ (kr : Pubkey) (r : ContributorRewards) (rrem : List (BitVec 8)) (share : UInt64),
        view ID L' kr = some (r, rrem) →
        payoutSum share r.recipientShares.activeIter ≤ share.toNat) ∧
      -- What the next call pays and burns is decided by its leaf.
      (∀ (call : Call) (L'' : RevenueLedger) (unitShare economicBurnRate : UInt32)
        (proof : MerkleProof), Step rt (.call call) L' L'' →
        call.data = .distributeRewards unitShare economicBurnRate proof → call.key? 1 = some k →
        ∃ (i : UInt32) (share : RewardShare) (burnShare remainingShare : UInt64)
          (d'' : Distribution) (rem'' : List (BitVec 8)),
          proof.leafIndex = some i ∧ leaves[i.toNat]? = some share ∧
          i.toNat ∉ d'.processedRewards rem' ∧
          d.split2zAmount share = some (burnShare, remainingShare) ∧
          view ID L'' k = some (d'', rem'') ∧
          d''.distributed2zAmount = d'.distributed2zAmount +
            payoutTotal remainingShare (recipients share.contributorKey).activeIter ∧
          d''.burned2zAmount = d'.burned2zAmount + (burnShare + (remainingShare -
            payoutTotal remainingShare (recipients share.contributorKey).activeIter)) ∧
          ∀ (key : Pubkey) (c : TokenAccount), key ≠ (rt.find2zTokenPdaAddress k).1 →
            Token.unpack L' key = some c → ∃ c', Token.unpack L'' key = some c' ∧
              c'.amount.toNat = c.amount.toNat +
                receivedBy rt remainingShare (recipients share.contributorKey).activeIter key) ∧
      (d'.processedRewards rem').card = d'.distributedRewardsCount.toNat ∧
      d'.distributedRewardsCount ≤ d'.totalContributors ∧
      -- What was paid out since is decided by the set of leaves paid since.
      d'.paidOut = d.paidOut +
        dues leaves d.collected (d'.processedRewards rem' \ d.processedRewards rem) ∧
      d'.paidOut ≤ d.collected ∧
      ((leaves.map fun share => share.unitShare.toNat).sum = 1000000000 →
        d'.areAllRewardsDistributed = true →
        (∀ x ∈ h, MigratesEarly (fun L => (view ID L k).map Prod.fst) x) →
        d.collected < d'.paidOut + leaves.length) := by
  obtain ⟨hc, hbooks⟩ := hrun.books hg
  obtain ⟨hc', hbooks'⟩ := hrun'.simulate hc fun hc hs => step_refines hc hs
  obtain ⟨hk, hview, -, -⟩ := hc.of_view hd
  have hk : k = rt.distributionKey d.dzEpoch := hk
  have has : (books rt L).HasDist d rem := hview
  obtain ⟨-, d', rem', hd', hmoves⟩ := hrun.persists hg hrun' hd
  have has' : (books rt L').HasDist d' rem' := (hc'.of_view hd').2.1
  have he : d'.dzEpoch = d.dzEpoch := hmoves.dzEpoch_eq
  have hk' : k = rt.distributionKey d'.dzEpoch := he ▸ hk
  have hempty := hg.books_empty
  have hbooked_honest : ∀ {h : History}, (∀ x ∈ h, TakesNoPool rt x) →
      ∀ x ∈ h.map (Entry.map (books rt)), Books.TakesNoPool rt x := by
    intro h hh x hx
    obtain ⟨y, hy, rfl⟩ := List.mem_map.1 hx
    exact hh y hy
  have hsince := BooksRun.rewardsSince hbooks hempty (hbooked_honest hhonest) has
    ⟨hswept, hcollected⟩ htree hbooks' (hbooked_honest hhonest')
    (fun x hx => by
      obtain ⟨y, hy, rfl⟩ := List.mem_map.1 hx
      exact hmigrates y hy) has' he
  have hall : BooksRun rt (books rt L₀) ((h' ++ h).map (Entry.map (books rt))) (books rt L') := by
    rw [List.map_append]
    exact hbooks.append hbooks'
  have hv' := BooksRun.valid hall hempty has'
  have hfinal := (BooksRun.valid hbooks hempty has).ordered.swept_rewards hswept
  obtain ⟨-, htotal, hroot, -⟩ := hsince.frozen.rewardsFinal hfinal
  have htree' : RewardsTree rt d'.rewardsMerkleRoot leaves := by
    have hroot : d'.rewardsMerkleRoot = d.rewardsMerkleRoot := hroot
    rw [hroot]
    exact htree
  obtain ⟨n, hbooked, hexact⟩ := BooksRun.rewardsBooked hall hempty
    (hbooked_honest fun x hx => (List.mem_append.1 hx).elim (hhonest' x) (hhonest x)) has'
    fun _ => htree'
  have hsame : SameSplit d d' := hsince.same
  have hcard : (d'.processedRewards rem').card = d'.distributedRewardsCount.toNat :=
    hv'.counted.rewards_card
  have hcount : (d'.processedRewards rem').card ≤ leaves.length := hbooked.card_le
  have hlength : leaves.length = d'.totalContributors.toNat := by
    have htotal : d'.totalContributors = d.totalContributors := htotal
    rw [htotal]
    exact hleaves
  obtain ⟨a, ha, -, hamount⟩ := hbooked.holds
  have hpool : (rt.find2zTokenPdaAddress k).1 = rt.poolKey d'.dzEpoch := by rw [hk']; rfl
  refine ⟨d', rem', a, hd', hpool ▸ ha, hsame.total_eq, ?_, ?_, ?_, hcard, ?_, hsince.paidOut_eq,
    ?_, ?_⟩
  · intro i share burnShare remainingShare hleaf hi hsplit
    have hle := hbooked.pending_le htree' hleaf hi
    obtain ⟨hdue, -⟩ := split2zAmount_due hsplit
    have hcol : d'.collected = d.collected := hsame.collected_eq
    simp only [hcol] at hle
    omega
  · intro kr r rrem share hr
    obtain ⟨-, hentry, -, -⟩ := hc'.of_view hr
    exact BooksRun.payoutSum_le hall hempty hentry share
  · intro call L'' unitShare economicBurnRate proof hstep hdata hkey
    rw [hpool, hk']
    exact next_leaf_pays hc' hv' has' htree' hsame hfixed hstep hdata (hk' ▸ hkey)
  · rw [UInt32.le_iff_toNat_le, ← hcard, ← hlength]
    exact hcount
  · rw [← hsame.collected_eq]
    exact hbooked.booked.trans (dues_le htree'.units_le hbooked.bounded)
  · intro hunits hdone hearly
    rw [← hsame.collected_eq]
    refine hbooked.remainder_lt (hexact ?_) hunits ?_
    · intro x hx hmigrate d₁ hd₁
      obtain ⟨y, hy, rfl⟩ := List.mem_map.1 hx
      rcases List.mem_append.1 hy with hy | hy
      · exact absurd ((hmigrates y hy).symm.trans hmigrate) (by simp)
      · refine hearly y hy hmigrate d₁ ?_
        rw [hk']
        exact (dist_books _ _).symm.trans hd₁
    · have hdone := of_decide_eq_true hdone
      show leaves.length ≤ (d'.processedRewards rem').card
      omega

theorem Sample.rewardsTree {debts : List SolanaValidatorDebt} {shares : List RewardShare}
    (h : (shares.map fun share => share.unitShare.toNat).sum ≤ 1000000000) :
    RewardsTree (Sample.runtime debts shares) ⟨2⟩ shares := by
  refine ⟨fun {i share} hverifies => ?_, h⟩
  obtain ⟨proof, hindex, hroot⟩ := hverifies
  simp only [Sample.runtime, Sample.rootFromPodLeaf, hindex] at hroot
  split at hroot
  · next hin => exact of_decide_eq_true hin
  · have := Hash.mk.inj hroot
    omega

/-- The two leaves of the epoch, paid in one order. -/
theorem rewards_independent_of_order_epoch :
    ∃ (h h' : History) (L L' : RevenueLedger) (d d' : Distribution) (rem rem' : List (BitVec 8)),
      LedgerRun (Sample.runtime Sample.debts Sample.shares) (Sample.genesis 1000 700) h L ∧
      LedgerRun (Sample.runtime Sample.debts Sample.shares) L h' L' ∧ h'.length = 2 ∧
      view ID L Sample.distribution = some (d, rem) ∧
      view ID L' Sample.distribution = some (d', rem') ∧
      d'.paidOut = d.paidOut +
        dues Sample.shares d.collected (d'.processedRewards rem' \ d.processedRewards rem) ∧
      d'.paidOut ≤ d.collected := by
  obtain ⟨h, L, h', L', hrun, hrun', hlabels, hP⟩ := Sample.exists_runs_of_replay Sample.debts
    Sample.shares 1000 700 (Sample.settled ++ [Sample.sweep 100 700])
    [Sample.distribute 1 400000000, Sample.distribute 0 600000000]
    (P := fun _ L h' _ => h'.length = 2 ∧ h'.all (fun x => !x.label.migrates) ∧
      (view (T := Distribution) ID L Sample.distribution).any fun x =>
        x.1.hasSwept2zTokens = true ∧ x.1.areAllIntegrationsCollected = true ∧
        x.1.rewardsMerkleRoot = ⟨2⟩ ∧ x.1.totalContributors = 2)
    (by decide +kernel) (by decide +kernel) (by decide +kernel)
  obtain ⟨hlength, hmigrates, hany⟩ := of_decide_eq_true hP
  obtain ⟨⟨d, rem⟩, hd, hfacts⟩ := (Option.any_eq_true _ _).1 hany
  obtain ⟨hswept, hcollected, hroot, htotal⟩ := of_decide_eq_true hfacts
  have hhonest : ∀ x ∈ h' ++ h, TakesNoPool (Sample.runtime Sample.debts Sample.shares) x := by
    intro x hx
    obtain ⟨e, -, hreplayed⟩ := hlabels x hx
    exact hreplayed.takesNoPool
  have htree : RewardsTree (Sample.runtime Sample.debts Sample.shares) d.rewardsMerkleRoot
      Sample.shares := by
    simp only at hroot
    rw [hroot]
    exact Sample.rewardsTree (by decide)
  have hleaves : Sample.shares.length = d.totalContributors.toNat := by
    simp only at htotal
    rw [htotal]
    rfl
  have hg : Genesis (Sample.runtime Sample.debts Sample.shares) (Sample.genesis 1000 700) :=
    Sample.genesis_unused 1000 700
  -- The recipients are those found in the last state.
  obtain ⟨recipients, hfixed⟩ : ∃ recipients : Pubkey → RecipientShares,
      ∀ (kr : Pubkey) (r : ContributorRewards) (rrem : List (BitVec 8)),
        view ID L' kr = some (r, rrem) → r.recipientShares = recipients r.serviceKey := by
    refine ⟨fun service => ((view (T := ContributorRewards) ID L' (Identity.key
      (Sample.runtime Sample.debts Sample.shares) (.contributor service))).elim default
        fun x => x.1.recipientShares), fun kr r rrem hr => ?_⟩
    have hkr : kr = Identity.key _ (.contributor r.serviceKey) :=
      ((LedgerRun.books hg (hrun.append hrun')).1.of_view hr).1
    simp only [← hkr, hr]
    rfl
  obtain ⟨d', rem', a, hd', -, -, -, -, -, -, -, hpaid, hle, -⟩ :=
    rewards_independent_of_order hg hrun (fun x hx => hhonest x (List.mem_append_right _ hx)) hd
      hswept hcollected htree hleaves hrun' (fun x hx => hhonest x (List.mem_append_left _ hx))
      (fun x hx => by simpa using List.all_eq_true.1 hmigrates x hx) hfixed
  exact ⟨h, h', L, L', d, d', rem, rem', hrun, hrun', hlength, hd, hd', hpaid, hle⟩

/-- An epoch without debt that is swept while its integration is still to be collected. Somebody has
sent 1000 2Z to its pool. -/
def Sample.gifted : List Event :=
  Sample.opening ++ [Sample.registerIntegration, Sample.openEpoch,
    .outside (.tokens Sample.buyerToken Sample.pool Sample.buyer 1000), Sample.finalizeDebt,
    Sample.configureRewards 2 ⟨2⟩, Sample.finalizeRewards, Sample.sweep 0 0]

/-- The integration takes 100 2Z out of the pool when it is collected. Both leaves are then split
out of a total that wrapped, and neither can be paid. -/
theorem rewards_uncovered :
    ∃ (h : History) (L : RevenueLedger) (d : Distribution) (rem : List (BitVec 8))
      (a : TokenAccount),
      LedgerRun (Sample.runtime [] Sample.shares) (Sample.genesis 0 1000) h L ∧
      view ID L Sample.distribution = some (d, rem) ∧
      d.hasSwept2zTokens = true ∧ d.areAllIntegrationsCollected = true ∧
      RewardsTree (Sample.runtime [] Sample.shares) d.rewardsMerkleRoot Sample.shares ∧
      Sample.shares.length = d.totalContributors.toNat ∧ d.distributedRewardsCount = 0 ∧
      Token.unpack L Sample.pool = some a ∧ a.amount = 900 ∧
      d.totalCollected2zTokens.map UInt64.toNat = some (2 ^ 64 - 100) ∧
      (∀ share ∈ Sample.shares, ∃ burnShare remainingShare,
        d.split2zAmount share = some (burnShare, remainingShare) ∧
        900 < burnShare.toNat + remainingShare.toNat) ∧
      ∀ (call : Call) (L' : RevenueLedger) (unitShare economicBurnRate : UInt32)
        (proof : MerkleProof), call.data = .distributeRewards unitShare economicBurnRate proof →
        call.key? 1 = some Sample.distribution →
        ¬Step (Sample.runtime [] Sample.shares) (.call call) L L' := by
  obtain ⟨h, L₁, L, hrun, hstep, hP⟩ := Sample.exists_step_of_replay [] Sample.shares 0 1000
    Sample.gifted (Sample.withdraw (.tokens Sample.pool Sample.bucket Sample.distribution 100))
    (P := fun _ _ L =>
      (view (T := Distribution) ID L Sample.distribution).any (fun x =>
        x.1.hasSwept2zTokens = true ∧ x.1.areAllIntegrationsCollected = true ∧
        x.1.rewardsMerkleRoot = ⟨2⟩ ∧ x.1.totalContributors = 2 ∧
        x.1.distributedRewardsCount = 0 ∧
        x.1.totalCollected2zTokens.map UInt64.toNat = some (2 ^ 64 - 100) ∧
        Sample.shares.all fun share => (x.1.split2zAmount share).any fun p =>
          900 < p.1.toNat + p.2.toNat) ∧
      (Token.unpack L Sample.pool).any fun a => a.amount = 900)
    (by decide +kernel) (by decide +kernel)
  obtain ⟨hdist, hpool⟩ := of_decide_eq_true hP
  obtain ⟨⟨d, rem⟩, hd, hfacts⟩ := (Option.any_eq_true _ _).1 hdist
  obtain ⟨hswept, hcollected, hroot, htotal, hcount, hsum, hsplits⟩ := of_decide_eq_true hfacts
  obtain ⟨a, ha, hamount⟩ := (Option.any_eq_true _ _).1 hpool
  have hamount : a.amount = 900 := of_decide_eq_true hamount
  have hruns : LedgerRun (Sample.runtime [] Sample.shares) (Sample.genesis 0 1000) (⟨L₁, _, L⟩ :: h)
      L := .next hrun hstep
  have htree : RewardsTree (Sample.runtime [] Sample.shares) d.rewardsMerkleRoot Sample.shares := by
    simp only at hroot
    rw [hroot]
    exact Sample.rewardsTree (by decide)
  have hsplits : ∀ share ∈ Sample.shares, ∃ burnShare remainingShare,
      d.split2zAmount share = some (burnShare, remainingShare) ∧
      900 < burnShare.toNat + remainingShare.toNat := by
    intro share hshare
    obtain ⟨⟨burnShare, remainingShare⟩, hsplit, hlt⟩ :=
      (Option.any_eq_true _ _).1 (List.all_eq_true.1 hsplits share hshare)
    exact ⟨burnShare, remainingShare, hsplit, of_decide_eq_true hlt⟩
  refine ⟨_, L, d, rem, a, hruns, hd, hswept, hcollected, htree, ?_, hcount, ha, hamount, hsum,
    hsplits, ?_⟩
  · simp only at htotal
    rw [htotal]
    rfl
  · intro call L' unitShare economicBurnRate proof hdata hkey hcall
    have hg : Genesis (Sample.runtime [] Sample.shares) (Sample.genesis 0 1000) :=
      Sample.genesis_unused 0 1000
    obtain ⟨hc, hbooks⟩ := hruns.books hg
    obtain ⟨-, hbook⟩ := step_refines hc hcall
    obtain ⟨hk, has, -, -⟩ := hc.of_view hd
    have hk : Sample.distribution =
        (Sample.runtime [] Sample.shares).distributionKey d.dzEpoch := hk
    have hv := BooksRun.valid hbooks hg.books_empty has
    cases hbook with
    | call ht =>
      obtain ⟨d', rem', share, burnShare, remainingShare, r, rrem, hpays⟩ :=
        ht.pays_leaf hv has hdata (hkey.trans (congrArg some hk))
      obtain ⟨i, -, hleaf, -⟩ := hpays.leaf
      obtain ⟨_, _, hsplit, hlt⟩ := hsplits share (List.mem_of_getElem? (htree.leaf hleaf))
      cases hsplit.symm.trans hpays.split
      obtain ⟨n, _, hholds, -⟩ := hpays.drawn
      have hcovered := hpays.covered hholds
      obtain ⟨a', ha', -, rfl⟩ := hholds
      -- The pool of the distribution is the account that holds 900.
      have hpool : (Sample.runtime [] Sample.shares).poolKey d.dzEpoch = Sample.pool :=
        (congrArg (fun k => ((Sample.runtime [] Sample.shares).find2zTokenPdaAddress k).1) hk).symm
      obtain rfl : a = a' := Option.some.inj (ha.symm.trans (hpool ▸ ha'))
      rw [hamount] at hcovered
      exact absurd hcovered (not_le.2 hlt)

end DoubleZero.Revenue
