import DoubleZero.Revenue.Refine.Run
import DoubleZero.Revenue.Replay

/-!
# Reward leaves, verified and rebuilt

A reward leaf packs its economic burn rate into the low 30 bits of a word and the blocked flag into
bit 31. `VerifyDistributionMerkleRoot` hashes the leaf as it is given; `DistributeRewards` hashes
the leaf that `RewardShare::new` packs again from the two numbers. Bit 30 belongs to neither field:
it is hashed by the first, never looked at, and cleared by the second.
-/

namespace DoubleZero.Revenue

open DoubleZero.Lib DoubleZero.Solana

/-! ## Packing a leaf -/

namespace RewardShare

variable {key : Pubkey} {unitShare economicBurnRate : UInt32} {share : RewardShare}

/-- The bit that no field of a leaf covers. -/
def UNUSED_BIT : Nat := 30

/-- What `RewardShare::new` packs for a leaf that is not blocked. -/
theorem new_unblocked : new key unitShare false economicBurnRate = some share ↔
    unitShare.toNat ≤ 1000000000 ∧ economicBurnRate.toNat ≤ 1000000000 ∧
      share = ⟨key, unitShare, economicBurnRate.toBitVec⟩ := by
  simp only [new, UnitShare.new, Option.bind_eq_bind, Option.pure_def]
  by_cases hunit : unitShare.toNat ≤ 1000000000
  · by_cases hrate : economicBurnRate.toNat ≤ 1000000000
    · have hword : BitVec.ofNat 32 economicBurnRate.toNat = economicBurnRate.toBitVec :=
        BitVec.ofNat_toNat ..
      simp [hunit, hrate, hword, eq_comm]
    · simp [hunit, hrate]
  · simp [hunit]

theorem economicBurnRate_eq (share : RewardShare) :
    share.economicBurnRate = share.remaining.toNat % 2 ^ 30 := by
  have hmask : (ECONOMIC_BURN_RATE_MASK).toNat = 2 ^ 30 - 1 := rfl
  rw [economicBurnRate, BitVec.toNat_and, hmask, Nat.and_two_pow_sub_one_eq_mod]

theorem isBlocked_eq (share : RewardShare) :
    share.isBlocked = bit share.remaining FLAG_IS_BLOCKED_BIT := rfl

/-- A word whose two top bits are clear is its low 30 bits. -/
theorem toNat_lt_iff {word : BitVec 32} (h : bit word FLAG_IS_BLOCKED_BIT = false) :
    word.toNat < 2 ^ 30 ↔ bit word UNUSED_BIT = false := by
  rw [bit_eq_getLsbD] at h ⊢
  rw [FLAG_IS_BLOCKED_BIT, BitVec.getLsbD, Nat.testBit_eq_decide_div_mod_eq] at h
  rw [UNUSED_BIT, BitVec.getLsbD, Nat.testBit_eq_decide_div_mod_eq]
  have hlt := word.isLt
  simp only [decide_eq_false_iff_not] at h ⊢
  omega

/-- A leaf is packed again as it was exactly when its unused bit is clear. -/
theorem new_self_iff {unit rate : UnitShare32} (hunit : share.checkedUnitShare = some unit)
    (hrate : share.checkedEconomicBurnRate = some rate) (hblocked : share.isBlocked = false) :
    new share.contributorKey share.unitShare false (UInt32.ofNat share.economicBurnRate) =
      some share ↔ bit share.remaining UNUSED_BIT = false := by
  rw [isBlocked_eq] at hblocked
  have hunit' : share.unitShare.toNat ≤ 1000000000 := by
    have hvalue := UnitShare.new_eq_some.1 hunit
    exact hvalue ▸ unit.le_max
  have hrate' : share.economicBurnRate ≤ 1000000000 := by
    have hvalue := UnitShare.new_eq_some.1 hrate
    exact hvalue ▸ rate.le_max
  obtain ⟨word, hword, hvalue⟩ : ∃ word, UInt32.ofNat share.economicBurnRate = word ∧
      word.toNat = share.economicBurnRate :=
    ⟨_, rfl, UInt32.toNat_ofNat_of_lt' (hrate'.trans_lt (by decide))⟩
  have hsame : share = ⟨share.contributorKey, share.unitShare, word.toBitVec⟩ ↔
      share.remaining.toNat = word.toNat := by
    constructor
    · intro h
      exact congrArg (fun s => s.remaining.toNat) h
    · intro h
      have hremaining : share.remaining = word.toBitVec := BitVec.eq_of_toNat_eq h
      rw [← hremaining]
  rw [hword, new_unblocked, hsame, hvalue, ← toNat_lt_iff hblocked]
  constructor
  · rintro ⟨-, -, h⟩
    rw [h, economicBurnRate_eq]
    exact Nat.mod_lt _ (by decide)
  · intro h
    refine ⟨hunit', hrate', ?_⟩
    rw [economicBurnRate_eq, Nat.mod_eq_of_lt h]

/-- What is packed again is the leaf exactly when its unused bit is clear. -/
theorem new_eq_iff {unit rate : UnitShare32} {leaf : RewardShare}
    (hunit : share.checkedUnitShare = some unit) (hrate : share.checkedEconomicBurnRate = some rate)
    (hblocked : share.isBlocked = false)
    (hleaf : new share.contributorKey share.unitShare false (UInt32.ofNat share.economicBurnRate) =
      some leaf) : leaf = share ↔ bit share.remaining UNUSED_BIT = false := by
  rw [← new_self_iff hunit hrate hblocked, hleaf, Option.some.injEq]

/-- What is packed from two rates passes the checks of a verification, and is not blocked. -/
theorem new_checked (h : new key unitShare false economicBurnRate = some share) :
    (∃ unit, share.checkedUnitShare = some unit ∧ unit.value = unitShare.toNat) ∧
      (∃ rate, share.checkedEconomicBurnRate = some rate ∧
        rate.value = economicBurnRate.toNat) ∧ share.isBlocked = false := by
  obtain ⟨hunit, hrate, rfl⟩ := new_unblocked.1 h
  have hlt : economicBurnRate.toBitVec.toNat < 2 ^ 30 := by
    rw [UInt32.toNat_toBitVec]
    omega
  refine ⟨⟨⟨_, hunit⟩, UnitShare.new_eq_some.2 rfl, rfl⟩, ⟨⟨_, hrate⟩, ?_, rfl⟩, ?_⟩
  · apply UnitShare.new_eq_some.2
    rw [economicBurnRate_eq, Nat.mod_eq_of_lt hlt, UInt32.toNat_toBitVec]
  · rw [isBlocked_eq, bit_eq_getLsbD, BitVec.getLsbD]
    exact Nat.testBit_lt_two_pow (hlt.trans (by decide))

end RewardShare

/-! ## The two instructions -/

section

variable {rt : Runtime} {L L' : RevenueLedger} {call : Call} {k : Pubkey} {d : Distribution}
  {rem : List (BitVec 8)} {reward : RewardShare} {proof : MerkleProof}

/-- When the verification of a reward leaf accepts it. -/
theorem verify_reward_ok
    (hdata : call.data = .verifyDistributionMerkleRoot (.rewardShare reward) proof)
    (hkey : call.key? 0 = some k) (hd : view ID L k = some (d, rem)) :
    (∃ L', process rt call L = .ok L') ↔ (∃ i, proof.leafIndex = some i) ∧
      (∃ unit, reward.checkedUnitShare = some unit) ∧
      (∃ rate, reward.checkedEconomicBurnRate = some rate) ∧
      rt.rootFromPodLeaf proof (.rewardShare reward) = d.rewardsMerkleRoot := by
  simp only [process_eq_ok, tryProcessInstruction, hdata, tryVerifyDistributionMerkleRoot,
    tryLeafIndex, ↓okOr_bind_ok, ↓zeroCopy_bind_ok, require_eq_ok]
  constructor
  · rintro ⟨L', r, ⟨i, hindex, m, rest, hit, d', rem', hd', unit, hunit, rate, hrate, hroot, -⟩, -⟩
    have hm : m.key = k := by simpa [Call.key?, show call.accounts = m :: rest from hit] using hkey
    have hd' : view ID L m.key = some (d', rem') := hd'
    rw [hm, hd] at hd'
    cases hd'
    exact ⟨⟨i, hindex⟩, ⟨unit, hunit⟩, ⟨rate, hrate⟩, hroot⟩
  · rintro ⟨⟨i, hindex⟩, ⟨unit, hunit⟩, ⟨rate, hrate⟩, hroot⟩
    obtain ⟨m, hm, rfl⟩ : ∃ m, call.accounts[0]? = some m ∧ m.key = k := by
      simpa [Call.key?] using hkey
    obtain ⟨rest, hit⟩ : ∃ rest, call.accounts = m :: rest := by
      cases hacc : call.accounts with
      | nil => simp [hacc] at hm
      | cons m' rest => exact ⟨rest, by rw [hacc] at hm; cases hm; rfl⟩
    exact ⟨_, _, ⟨i, hindex, m, rest, hit, d, rem, hd, unit, hunit, rate, hrate, hroot, rfl⟩, rfl⟩

theorem processLeaf_exec {data rem' : List (BitVec 8)} {start stop leafIndex : UInt32}
    {log : String} {s s' : Exec AccountState}
    (h : processLeaf data start stop leafIndex log s = .ok (rem', s')) : s' = s := by
  unfold processLeaf at h
  split at h
  · split at h
    · cases h
      rfl
    · cases h
    · cases h
  · cases h

/-- The chain on which every computed root is `root`. -/
def Runtime.accepting (rt : Runtime) (root : Hash) : Runtime :=
  { rt with rootFromPodLeaf := fun _ _ => root }

/-- Payouts compute no root. -/
theorem transferToRecipients_accepting {root : Hash} {tokenPda distributionKey : Pubkey}
    {seeds : List Seed} {bump : UInt8} {amount : UInt64} (recipients : List RecipientShare)
    (total : UInt64) :
    transferToRecipients (rt.accepting root) tokenPda distributionKey seeds bump amount recipients
        total =
      transferToRecipients rt tokenPda distributionKey seeds bump amount recipients total := by
  induction recipients generalizing total with
  | nil => rfl
  | cons recipient recipients ih =>
    simp only [transferToRecipients, ih]
    rfl

/-- A `DistributeRewards` whose rebuilt leaf has the root of the distribution goes on as if the root
were not checked. -/
theorem distribute_passes {kr : Pubkey} {r : ContributorRewards} {rrem : List (BitVec 8)}
    {unitShare economicBurnRate : UInt32} {leaf : RewardShare}
    (hdata : call.data = .distributeRewards unitShare economicBurnRate proof)
    (hkey : call.key? 1 = some k) (hd : view ID L k = some (d, rem))
    (hkr : call.key? 2 = some kr) (hr : view ID L kr = some (r, rrem))
    (hleaf : RewardShare.new r.serviceKey unitShare false economicBurnRate = some leaf)
    (hroot : rt.rootFromPodLeaf proof (.rewardShare leaf) = d.rewardsMerkleRoot) :
    process rt call L = process (rt.accepting d.rewardsMerkleRoot) call L := by
  have hsame : tryProcessInstruction rt call (call.exec L) =
      tryProcessInstruction (rt.accepting d.rewardsMerkleRoot) call (call.exec L) := by
    simp only [tryProcessInstruction, hdata, tryDistributeRewards, tryLeafIndex]
    refine bind_congr_ok fun i s hs => ?_
    obtain ⟨_, -, hs⟩ := okOr_eq_ok.1 hs
    cases hs
    refine bind_congr_ok fun programConfig s hs => ?_
    obtain ⟨m₀, r₀, hit, _, _, -, hs⟩ := tryNextZeroCopy_eq_ok.1 hs
    cases hs
    refine require_bind_congr fun _ => ?_
    refine bind_congr_ok fun distribution s hs => ?_
    obtain ⟨m₁, r₁, rfl, -, d', rem', hd', hs⟩ := tryNextZeroCopyMut_eq_ok.1 hs
    cases hs
    have haccounts : call.accounts = m₀ :: m₁ :: r₁ := hit
    have hk : m₁.key = k := by simpa [Call.key?, haccounts] using hkey
    have hd' : view ID L m₁.key = some (d', rem') := hd'
    rw [hk, hd] at hd'
    cases hd'
    refine require_bind_congr fun _ => ?_
    refine require_bind_congr fun _ => ?_
    refine require_bind_congr fun _ => ?_
    refine bind_congr_ok fun remainingData s hs => ?_
    cases processLeaf_exec hs
    refine bind_congr_ok fun contributorRewards s hs => ?_
    obtain ⟨m₂, r₂, rfl, r', rrem', hr', hs⟩ := tryNextZeroCopy_eq_ok.1 hs
    cases hs
    have hkr' : m₂.key = kr := by simpa [Call.key?, haccounts] using hkr
    have hr' : view ID L m₂.key = some (r', rrem') := hr'
    rw [hkr', hr] at hr'
    cases hr'
    refine bind_congr_ok fun rewardShare s hs => ?_
    obtain ⟨leaf', hleaf', hs⟩ := okOr_eq_ok.1 hs
    cases hs
    cases hleaf.symm.trans hleaf'
    have hroot' : (rt.accepting d.rewardsMerkleRoot).rootFromPodLeaf proof (.rewardShare leaf) =
        d.rewardsMerkleRoot := rfl
    -- the check passes on both sides, and nothing after it computes a root
    rw [require_bind_pos hroot, require_bind_pos hroot']
    simp only [transferToRecipients_accepting]
    rfl
  unfold process
  rw [hsame]

/-- What a successful `DistributeRewards` has checked of the leaf it rebuilt. -/
theorem distribute_leaf {unitShare economicBurnRate : UInt32}
    (hdata : call.data = .distributeRewards unitShare economicBurnRate proof)
    (hprocess : process rt call L = .ok L') :
    ∃ (k kr : Pubkey) (d : Distribution) (r : ContributorRewards) (rem rrem : List (BitVec 8))
      (leaf : RewardShare), call.key? 1 = some k ∧ view ID L k = some (d, rem) ∧
      call.key? 2 = some kr ∧ view ID L kr = some (r, rrem) ∧
      (∃ i, proof.leafIndex = some i) ∧
      RewardShare.new r.serviceKey unitShare false economicBurnRate = some leaf ∧
      rt.rootFromPodLeaf proof (.rewardShare leaf) = d.rewardsMerkleRoot := by
  obtain ⟨r, hr, -⟩ := process_eq_ok.1 hprocess
  simp only [tryProcessInstruction, hdata, tryDistributeRewards, tryLeafIndex, ↓okOr_bind_ok,
    ↓zeroCopy_bind_ok, ProgramConfig.tryRequireUnpaused, ↓require_bind_ok, ↓zeroCopyMut_bind_ok,
    ↓processLeaf_bind_ok, Exec.advance_iter, Exec.advance_ledger, Call.exec_iter,
    Call.exec_ledger] at hr
  obtain ⟨i, hindex, m₀, r₀, hit, _, _, -, -, m₁, r₁, rfl, -, d, rem, hd, -, -, -, -, -, m₂, r₂,
    rfl, cr, crem, hcr, leaf, hleaf, hroot, -⟩ := hr
  exact ⟨m₁.key, m₂.key, d, cr, rem, crem, leaf, by simp [Call.key?, hit], hd,
    by simp [Call.key?, hit], hcr, ⟨i, hindex⟩, hleaf, hroot⟩

end

/-! ## On the ledger -/

theorem verify_distribute_agree_iff {rt : Runtime} {L : RevenueLedger} {k : Pubkey}
    {d : Distribution} {rem : List (BitVec 8)} (hd : view ID L k = some (d, rem)) :
    -- A verified leaf that is not blocked, and the leaf that is rebuilt for it.
    (∀ (reward : RewardShare) (proof : MerkleProof) (call : Call) (L' : RevenueLedger),
      call.data = .verifyDistributionMerkleRoot (.rewardShare reward) proof →
      call.key? 0 = some k → Step rt (.call call) L L' → reward.isBlocked = false →
      ((∃ leaf, RewardShare.new reward.contributorKey reward.unitShare false
            (UInt32.ofNat reward.economicBurnRate) = some leaf ∧ leaf = reward ∧
          rt.rootFromPodLeaf proof (.rewardShare leaf) = d.rewardsMerkleRoot) ↔
        bit reward.remaining RewardShare.UNUSED_BIT = false) ∧
      -- The call it feeds passes its root check, and one that succeeds has rebuilt the leaf.
      ∀ (call' : Call) (kr : Pubkey) (r : ContributorRewards) (rrem : List (BitVec 8)),
        call'.data = .distributeRewards reward.unitShare (UInt32.ofNat reward.economicBurnRate)
          proof →
        call'.key? 1 = some k → call'.key? 2 = some kr → view ID L kr = some (r, rrem) →
        r.serviceKey = reward.contributorKey →
        (bit reward.remaining RewardShare.UNUSED_BIT = false →
          process rt call' L = process (rt.accepting d.rewardsMerkleRoot) call' L) ∧
        ∀ L'' : RevenueLedger, Step rt (.call call') L L'' →
          ∃ leaf, RewardShare.new r.serviceKey reward.unitShare false
              (UInt32.ofNat reward.economicBurnRate) = some leaf ∧
            rt.rootFromPodLeaf proof (.rewardShare leaf) = d.rewardsMerkleRoot ∧
            (leaf = reward ↔ bit reward.remaining RewardShare.UNUSED_BIT = false)) ∧
    -- A distributed leaf is not blocked, and its verification succeeds.
    ∀ (unitShare economicBurnRate : UInt32) (proof : MerkleProof) (call : Call)
      (L' : RevenueLedger),
      call.data = .distributeRewards unitShare economicBurnRate proof →
      call.key? 1 = some k → Step rt (.call call) L L' →
      ∃ (kr : Pubkey) (r : ContributorRewards) (rrem : List (BitVec 8)) (leaf : RewardShare),
        call.key? 2 = some kr ∧ view ID L kr = some (r, rrem) ∧
        RewardShare.new r.serviceKey unitShare false economicBurnRate = some leaf ∧
        leaf.isBlocked = false ∧
        ∀ call' : Call, call'.data = .verifyDistributionMerkleRoot (.rewardShare leaf) proof →
          call'.key? 0 = some k → call'.Admissible rt → ∃ L'', Step rt (.call call') L L'' := by
  refine ⟨fun reward proof call L' hdata hkey hstep hblocked => ?_,
    fun unitShare economicBurnRate proof call L' hdata hkey hstep => ?_⟩
  · cases hstep with
    | call _ hprocess =>
      obtain ⟨-, ⟨unit, hunit⟩, ⟨rate, hrate⟩, hroot⟩ :=
        (verify_reward_ok hdata hkey hd).1 ⟨L', hprocess⟩
      have hself := RewardShare.new_self_iff hunit hrate hblocked
      refine ⟨⟨?_, fun hbit => ⟨reward, hself.2 hbit, rfl, hroot⟩⟩, ?_⟩
      · rintro ⟨leaf, hleaf, rfl, -⟩
        exact hself.1 hleaf
      · intro call' kr r rrem hdata' hkey' hkr hr hservice
        refine ⟨fun hbit => ?_, fun L'' hstep' => ?_⟩
        · have hleaf := hself.2 hbit
          rw [← hservice] at hleaf
          exact distribute_passes hdata' hkey' hd hkr hr hleaf hroot
        · cases hstep' with
          | call _ hprocess' =>
            obtain ⟨k', kr', d', r', rem', rrem', leaf, hk', hd', hkr', hr', -, hleaf, hrooted⟩ :=
              distribute_leaf hdata' hprocess'
            obtain rfl : k = k' := Option.some.inj (hkey'.symm.trans hk')
            obtain rfl : kr = kr' := Option.some.inj (hkr.symm.trans hkr')
            cases hd.symm.trans hd'
            cases hr.symm.trans hr'
            refine ⟨leaf, hleaf, hrooted, ?_⟩
            rw [hservice] at hleaf
            exact RewardShare.new_eq_iff hunit hrate hblocked hleaf
  · cases hstep with
    | call _ hprocess =>
      obtain ⟨k', kr, d', r, rem', rrem, leaf, hkey', hd', hkr, hr, hindex, hleaf, hroot⟩ :=
        distribute_leaf hdata hprocess
      obtain rfl : k = k' := Option.some.inj (hkey.symm.trans hkey')
      cases hd.symm.trans hd'
      obtain ⟨⟨unit, hunit, -⟩, ⟨rate, hrate, -⟩, hblocked⟩ := RewardShare.new_checked hleaf
      refine ⟨kr, r, rrem, leaf, hkr, hr, hleaf, hblocked, fun call' hdata' hkey' hadmissible => ?_⟩
      obtain ⟨L'', hprocess'⟩ := (verify_reward_ok hdata' hkey' hd).2
        ⟨hindex, ⟨unit, hunit⟩, ⟨rate, hrate⟩, hroot⟩
      exact ⟨L'', .call hadmissible hprocess'⟩

/-- The verification of one of the leaves of the epoch. -/
def Sample.verifyReward (leafIndex : UInt32) (reward : RewardShare) : Event :=
  later (.verifyDistributionMerkleRoot (.rewardShare reward) ⟨some leafIndex, []⟩)
    [writable distribution]

/-- A leaf of the epoch is verified, and the distribution of its rewards rebuilds it. -/
theorem verify_distribute_agree_iff_epoch :
    ∃ (h : History) (L L' L'' : RevenueLedger) (root : Hash) (call : Call),
      LedgerRun (Sample.runtime Sample.debts Sample.shares) (Sample.genesis 1000 700) h L ∧
      Step (Sample.runtime Sample.debts Sample.shares)
        (Sample.verifyReward 1 ⟨Sample.service, 400000000, 0⟩).label L L' ∧
      RewardShare.new Sample.service 400000000 false
        (UInt32.ofNat (RewardShare.economicBurnRate ⟨Sample.service, 400000000, 0⟩)) =
          some ⟨Sample.service, 400000000, 0⟩ ∧
      (Sample.distribute 1 400000000).label = .call call ∧
      Step (Sample.runtime Sample.debts Sample.shares) (.call call) L L'' ∧
      process (Sample.runtime Sample.debts Sample.shares) call L =
        process ((Sample.runtime Sample.debts Sample.shares).accepting root) call L := by
  obtain ⟨h, L, L', hrun, hstep, hP⟩ := Sample.exists_step_of_replay Sample.debts Sample.shares
    1000 700 (Sample.settled ++ [Sample.sweep 100 700])
    (Sample.verifyReward 1 ⟨Sample.service, 400000000, 0⟩) (P := fun _ L _ =>
      (view (T := Distribution) ID L Sample.distribution).isSome ∧
      ((view (T := ContributorRewards) ID L Sample.contributor).any fun x =>
        x.1.serviceKey = Sample.service) ∧
      ((Sample.distribute 1 400000000).apply (Sample.runtime Sample.debts Sample.shares) L).isSome)
    (by decide +kernel) (by decide +kernel)
  obtain ⟨hdist, hcontributor, hdistributed⟩ := of_decide_eq_true hP
  obtain ⟨⟨d, rem⟩, hd⟩ := Option.isSome_iff_exists.1 hdist
  obtain ⟨⟨r, rrem⟩, hr, hservice⟩ := (Option.any_eq_true _ _).1 hcontributor
  obtain ⟨L'', hdistributed⟩ := Option.isSome_iff_exists.1 hdistributed
  have hstep' := Event.step (e := Sample.distribute 1 400000000)
    (Sample.lawful_of_isLawful rfl) hdistributed
  obtain ⟨hagree, hfeeds⟩ :=
    (verify_distribute_agree_iff hd).1 _ _ _ L' rfl rfl hstep (by decide)
  obtain ⟨leaf, hleaf, rfl, -⟩ := hagree.2 (by decide)
  obtain ⟨call, hlabel, hdata, hkey, hkey'⟩ : ∃ call : Call,
      (Sample.distribute 1 400000000).label = .call call ∧
      call.data = .distributeRewards 400000000 0 ⟨some 1, []⟩ ∧
      call.key? 1 = some Sample.distribution ∧ call.key? 2 = some Sample.contributor :=
    ⟨_, rfl, rfl, rfl, rfl⟩
  obtain ⟨hpasses, -⟩ := hfeeds call _ r rrem hdata hkey hkey' hr (of_decide_eq_true hservice)
  exact ⟨h, L, L', L'', d.rewardsMerkleRoot, call, hrun, hstep, hleaf, hlabel, hlabel ▸ hstep',
    hpasses (by decide)⟩

/-- One leaf, with its unused bit set. -/
def Sample.markedShares : List RewardShare := [⟨Sample.service, 1000000000, 0x40000000#32⟩]

/-- The leaf is verified, and no call can pay it out. -/
theorem verified_leaf_not_distributable :
    ∃ (h : History) (L L' : RevenueLedger) (r : ContributorRewards) (rrem : List (BitVec 8)),
      LedgerRun (Sample.runtime [] Sample.markedShares) (Sample.genesis 1000 700) h L ∧
      Step (Sample.runtime [] Sample.markedShares)
        (Sample.verifyReward 0 ⟨Sample.service, 1000000000, 0x40000000#32⟩).label L L' ∧
      RewardShare.isBlocked ⟨Sample.service, 1000000000, 0x40000000#32⟩ = false ∧
      view ID L Sample.contributor = some (r, rrem) ∧ r.serviceKey = Sample.service ∧
      ∀ (call : Call) (L'' : RevenueLedger), call.data = .distributeRewards 1000000000
          (UInt32.ofNat (RewardShare.economicBurnRate
            ⟨Sample.service, 1000000000, 0x40000000#32⟩)) ⟨some 0, []⟩ →
        call.key? 1 = some Sample.distribution → call.key? 2 = some Sample.contributor →
        ¬ Step (Sample.runtime [] Sample.markedShares) (.call call) L L'' := by
  obtain ⟨h, L, L', hrun, hstep, hP⟩ := Sample.exists_step_of_replay [] Sample.markedShares 1000 700
    (Sample.opening ++ [Sample.openEpoch, Sample.configureRewards 1 ⟨2⟩])
    (Sample.verifyReward 0 ⟨Sample.service, 1000000000, 0x40000000#32⟩) (P := fun _ L _ =>
      (view (T := Distribution) ID L Sample.distribution).any (fun x =>
        x.1.rewardsMerkleRoot = ⟨2⟩) ∧
      (view (T := ContributorRewards) ID L Sample.contributor).any fun x =>
        x.1.serviceKey = Sample.service) (by decide +kernel) (by decide +kernel)
  obtain ⟨hdist, hcontributor⟩ := of_decide_eq_true hP
  obtain ⟨⟨d, rem⟩, hd, hroot⟩ := (Option.any_eq_true _ _).1 hdist
  obtain ⟨⟨r, rrem⟩, hr, hservice⟩ := (Option.any_eq_true _ _).1 hcontributor
  have hroot : d.rewardsMerkleRoot = ⟨2⟩ := of_decide_eq_true hroot
  have hservice : r.serviceKey = Sample.service := of_decide_eq_true hservice
  refine ⟨h, L, L', r, rrem, hrun, hstep, by decide, hr, hservice, ?_⟩
  intro call L'' hdata hkey hkey' hcall
  cases hcall with
  | call _ hprocess =>
    obtain ⟨k, kr, d', r', rem', rrem', leaf, hk, hd', hkr, hr', -, hleaf, hleafRoot⟩ :=
      distribute_leaf hdata hprocess
    obtain rfl : Sample.distribution = k := Option.some.inj (hkey.symm.trans hk)
    obtain rfl : Sample.contributor = kr := Option.some.inj (hkey'.symm.trans hkr)
    cases hd.symm.trans hd'
    cases hr.symm.trans hr'
    rw [hservice] at hleaf
    obtain ⟨-, -, rfl⟩ := RewardShare.new_unblocked.1 hleaf
    -- The rebuilt leaf is not in the tree.
    have hnot : Sample.inTree [] Sample.markedShares (some 0) (.rewardShare ⟨Sample.service,
        1000000000, (UInt32.ofNat (RewardShare.economicBurnRate
          ⟨Sample.service, 1000000000, 0x40000000#32⟩)).toBitVec⟩) = false := by decide
    rw [hroot] at hleafRoot
    have hval := congrArg Hash.val hleafRoot
    simp only [Sample.runtime, Sample.rootFromPodLeaf, hnot, Bool.false_eq_true, if_false] at hval
    omega

end DoubleZero.Revenue
