import DoubleZero.Lib.Share
import DoubleZero.Revenue.Invariant.Pool

/-!
# Rewards, leaf by leaf

`RewardsMove` says what a call does to the rewards of one distribution: either it pays out one leaf
that was pending, and what is transferred and burned together is the leaf's share of what was
collected, or it pays out nothing. Once everything is in (`Settled`), only a migration changes how a
leaf is split.
-/

namespace DoubleZero.Revenue

open DoubleZero.Lib DoubleZero.Solana

/-- What a leaf is due out of a total of collected 2Z. -/
def RewardShare.due (share : RewardShare) (collected : Nat) : Nat :=
  share.unitShare.toNat * collected / 1000000000

/-- The units of a leaf. -/
def unitAt (leaves : List RewardShare) (i : Nat) : Nat :=
  (leaves[i]?.map fun share => share.unitShare.toNat).getD 0

/-- What a set of leaves is due together. -/
def dues (leaves : List RewardShare) (collected : Nat) (s : Finset Nat) : Nat :=
  ∑ i ∈ s, unitAt leaves i * collected / 1000000000

/-- Everything is in: the 2Z for the debt was swept, and every integration was collected from. -/
structure Settled (d : Distribution) : Prop where
  swept : d.hasSwept2zTokens = true
  collected : d.areAllIntegrationsCollected = true

/-- Nothing is paid out. -/
structure RewardsKept (s s' : DistState) : Prop where
  collected_le : s.1.collected ≤ s'.1.collected
  distributed_eq : s'.1.distributed2zAmount = s.1.distributed2zAmount
  burned_eq : s'.1.burned2zAmount = s.1.burned2zAmount
  processed_eq : s'.1.processedRewards s'.2 = s.1.processedRewards s.2

/-- One leaf that was pending is paid out. -/
structure RewardsPaid (rt : Runtime) (i : UInt32) (share : RewardShare)
    (transferred burned : UInt64) (s s' : DistState) : Prop where
  final : s.1.isRewardsCalculationFinalized = true
  settled : Settled s'.1
  leaf : Verifies rt s.1.rewardsMerkleRoot i (.rewardShare share)
  pending : i.toNat ∉ s.1.processedRewards s.2
  collected_eq : s'.1.collected = s.1.collected
  distributed_eq : s'.1.distributed2zAmount = s.1.distributed2zAmount + transferred
  burned_eq : s'.1.burned2zAmount = s.1.burned2zAmount + burned
  due_eq : (transferred + burned).toNat = share.due s.1.collected
  processed_eq : s'.1.processedRewards s'.2 = insert i.toNat (s.1.processedRewards s.2)

/-- What a step makes of the rewards of a distribution. -/
inductive RewardsMove (rt : Runtime) (s s' : DistState) : Prop
  | kept (kept : RewardsKept s s')
  | paid {i : UInt32} {share : RewardShare} {transferred burned : UInt64}
      (paid : RewardsPaid rt i share transferred burned s s')

/-- The two split every leaf in the same way. -/
structure SameSplit (d d' : Distribution) : Prop where
  collected_eq : d'.collected = d.collected
  total_eq : d'.totalCollected2zTokens = d.totalCollected2zTokens
  split_eq : d'.split2zAmount = d.split2zAmount

/-- The action pays out a leaf. -/
def DistAction.isDistribute : DistAction → Bool
  | .distribute _ _ _ _ => true
  | _ => false

section

variable {rt : Runtime} {call : Call} {a : DistAction} {s s' s'' : DistState} {b b' : Books}
  {d d' : Distribution} {rem rem' : List (BitVec 8)}

/-- The two parts of a leaf's share make up what the leaf is due. -/
theorem split2zAmount_due {share : RewardShare} {burnShare remainingShare : UInt64}
    (h : d.split2zAmount share = some (burnShare, remainingShare)) :
    burnShare.toNat + remainingShare.toNat = share.due d.collected ∧
      burnShare.toNat + remainingShare.toNat < 2 ^ 64 := by
  simp only [Distribution.split2zAmount, Option.bind_eq_bind, Option.bind_eq_some_iff,
    Option.pure_def, Option.some.injEq, Prod.mk.injEq] at h
  obtain ⟨unit, hunit, total, htotal, rfl, rfl⟩ := h
  have hvalue : unit.value = share.unitShare.toNat := UnitShare.new_eq_some.1 hunit
  have hle := UInt64.le_iff_toNat_le.1 (UnitShare.mulScalar_le
    (d.burnRate (share.checkedEconomicBurnRate.getD default)) (unit.mulScalar total))
  rw [toNat_sub_of_le (UInt64.le_iff_toNat_le.2 hle), Nat.add_sub_cancel' hle]
  refine ⟨?_, (unit.mulScalar total).toNat_lt⟩
  rw [UnitShare.toNat_mulScalar, hvalue, totalCollected2zTokens_eq_some.1 htotal]
  rfl

/-- Before the rewards are final no leaf is paid out. -/
theorem Valid.unpaid_sets (hv : Valid s) (hopen : s.1.isRewardsCalculationFinalized = false) :
    s.1.processedRewards s.2 = ∅ := by
  have hcount := (hv.booked.unswept (hv.ordered.open_rewards hopen)).2.1
  rw [← Finset.card_eq_zero, hv.counted.rewards_card, hcount]
  rfl

theorem Valid.rewards_eq (hv : Valid s) (hstep : DistStep rt a s s')
    (ha : a.isDistribute = false) : s'.1.processedRewards s'.2 = s.1.processedRewards s.2 := by
  cases hstep with
  | @finalizeRewards d rem hopen _ _ hfit =>
    have hnone : d.processedRewards rem = ∅ := hv.unpaid_sets hopen
    exact (members_grown (hv.layout.length_small hfit)).trans hnone.symm
  | finalizeDebt => exact hv.layout.sets_grown.2.2
  | enableWriteOff => exact hv.layout.sets_grown.2.2
  | pay _ hmarks _ => exact (hv.layout.mark_debt hmarks).2.2.1
  | writeOff _ hmarksOff hmarks _ => exact (hv.layout.mark_writeOff hmarksOff hmarks).2.2.1
  | distribute => exact absurd ha (by simp [DistAction.isDistribute])
  | _ => rfl

/-- Collected 2Z is only ever added to. -/
theorem Valid.collected_le (hv : Valid s) (hstep : DistStep rt a s s') :
    s.1.collected ≤ s'.1.collected := by
  cases hstep with
  | collect _ _ _ _ hsum _ =>
    obtain ⟨-, htotal⟩ := checkedAdd_eq_some.1 hsum
    simp only [Distribution.collected, htotal]
    omega
  | @sweep d rem _ _ hunswept _ _ _ =>
    have hzero : d.collected2zConvertedFromSol = 0 := (hv.booked.unswept hunswept).1
    show d.collected ≤ d.collectedPrepaid2zPayments.toNat + _ + d.collected2zFromIntegrations.toNat
    rw [Distribution.collected, hzero, UInt64.toNat_zero]
    omega
  | _ => exact le_rfl

theorem RewardsKept.refl (s : DistState) : RewardsKept s s := ⟨le_rfl, rfl, rfl, rfl⟩

theorem RewardsKept.trans (h : RewardsKept s s') (h' : RewardsKept s' s'') : RewardsKept s s'' :=
  ⟨h.collected_le.trans h'.collected_le, h'.distributed_eq.trans h.distributed_eq,
    h'.burned_eq.trans h.burned_eq, h'.processed_eq.trans h.processed_eq⟩

theorem Valid.rewards_kept (hv : Valid s) (hstep : DistStep rt a s s')
    (ha : a.isDistribute = false) : RewardsKept s s' := by
  refine ⟨hv.collected_le hstep, ?_, ?_, hv.rewards_eq hstep ha⟩
  · cases hstep with
    | distribute => exact absurd ha (by simp [DistAction.isDistribute])
    | _ => rfl
  · cases hstep with
    | distribute => exact absurd ha (by simp [DistAction.isDistribute])
    | _ => rfl

theorem Valid.rewards_paid {i : UInt32} {share : RewardShare} {transferred burned : UInt64}
    (hv : Valid s) (hstep : DistStep rt (.distribute i share transferred burned) s s') :
    RewardsPaid rt i share transferred burned s s' := by
  cases hstep with
  | distribute _ hswept hcollected hmarks hleaf hsplit =>
    obtain ⟨-, -, hprocessed, hpending⟩ := hv.layout.mark_rewards hmarks
    refine ⟨hv.ordered.swept_rewards hswept, ⟨hswept, hcollected⟩, hleaf, hpending, rfl, rfl, rfl,
      ?_, hprocessed⟩
    obtain ⟨hdue, hlt⟩ := split2zAmount_due hsplit
    rw [UInt64.add_comm, UInt64.add_assoc, UInt64.sub_add_cancel, toNat_add_of_lt hlt]
    exact hdue

theorem Valid.rewards_step (hv : Valid s) (hstep : DistStep rt a s s') : RewardsMove rt s s' := by
  cases a with
  | distribute i share transferred burned => exact .paid (hv.rewards_paid hstep)
  | _ => exact .kept (hv.rewards_kept hstep rfl)

/-- Every call pays out one leaf of a distribution or none. -/
theorem Transition.rewards (ht : Transition rt call b b') (hv : Valid (d, rem))
    (hd : b.HasDist d rem) (hd' : b'.HasDist d' rem') (he : d'.dzEpoch = d.dzEpoch) :
    RewardsMove rt (d, rem) (d', rem') := by
  cases ht.change d.dzEpoch with
  | kept same =>
    obtain ⟨rfl, rfl⟩ := Books.HasDist.unique (same.trans hd) hd' he
    exact .kept (.refl _)
  | create data journal new initialized epoch created =>
    exact absurd (new.symm.trans hd) (by simp)
  | step does epoch has step has' =>
    obtain ⟨rfl, rfl⟩ := has.unique hd epoch.symm
    obtain ⟨rfl, rfl⟩ := has'.unique hd' (he.trans step.fixed.1.symm)
    exact hv.rewards_step step
  | twice does books epoch has step step' has' =>
    obtain ⟨rfl, rfl⟩ := has.unique hd epoch.symm
    obtain ⟨rfl, rfl⟩ := has'.unique hd' (he.trans (step'.fixed.1.trans step.fixed.1).symm)
    exact .kept ((hv.rewards_kept step rfl).trans ((hv.step step).rewards_kept step' rfl))

/-! ## What is settled stays -/

theorem SameSplit.refl (d : Distribution) : SameSplit d d := ⟨rfl, rfl, rfl⟩

theorem SameSplit.trans {d'' : Distribution} (h : SameSplit d d') (h' : SameSplit d' d'') :
    SameSplit d d'' :=
  ⟨h'.collected_eq.trans h.collected_eq, h'.total_eq.trans h.total_eq,
    h'.split_eq.trans h.split_eq⟩

/-- Only a migration can open a settled distribution again. -/
theorem Valid.settled_step (hv : Valid s) (hs : Settled s.1) (hstep : DistStep rt a s s')
    (ha : ∀ n, a ≠ .migrate n) : Settled s'.1 ∧ SameSplit s.1 s'.1 := by
  have hfinal := hv.ordered.swept_rewards hs.swept
  have hdebt := hv.ordered.rewards_debt hfinal
  cases hstep with
  | collect hopen => exact absurd (hs.collected.symm.trans hopen) (by simp)
  | sweepNothing hopen => exact absurd (hs.swept.symm.trans hopen) (by simp)
  | sweep hopen => exact absurd (hs.swept.symm.trans hopen) (by simp)
  | setEconomicBurnRate hopen => exact absurd (hfinal.symm.trans hopen) (by simp)
  | migrate => exact absurd rfl (ha _)
  | finalizeZeroDebt hopen => exact absurd (hdebt.symm.trans hopen) (by simp)
  | finalizeDebt hopen => exact absurd (hdebt.symm.trans hopen) (by simp)
  | finalizeRewards hopen => exact absurd (hfinal.symm.trans hopen) (by simp)
  | enableWriteOff =>
    have hswept :=
      (Distribution.hasSwept2zTokens_setIsSolanaValidatorDebtWriteOffEnabled _ true).trans hs.swept
    exact ⟨⟨hswept, hs.collected⟩, rfl, rfl, rfl⟩
  | _ => exact ⟨⟨hs.swept, hs.collected⟩, rfl, rfl, rfl⟩

theorem Transition.settled (ht : Transition rt call b b') (hv : Valid (d, rem))
    (hs : Settled d) (hd : b.HasDist d rem) (hd' : b'.HasDist d' rem')
    (he : d'.dzEpoch = d.dzEpoch) (hmigrate : call.data ≠ .migrateProgramAccounts) :
    Settled d' ∧ SameSplit d d' := by
  cases ht.change d.dzEpoch with
  | kept same =>
    obtain ⟨rfl, rfl⟩ := Books.HasDist.unique (same.trans hd) hd' he
    exact ⟨hs, .refl _⟩
  | create data journal new initialized epoch created =>
    exact absurd (new.symm.trans hd) (by simp)
  | step does epoch has step has' =>
    obtain ⟨rfl, rfl⟩ := has.unique hd epoch.symm
    obtain ⟨rfl, rfl⟩ := has'.unique hd' (he.trans step.fixed.1.symm)
    refine hv.settled_step hs step fun n hn => ?_
    subst hn
    cases does with
    | migrate data => exact hmigrate data
  | twice does books epoch has step step' has' =>
    obtain ⟨rfl, rfl⟩ := has.unique hd epoch.symm
    obtain ⟨rfl, rfl⟩ := has'.unique hd' (he.trans (step'.fixed.1.trans step.fixed.1).symm)
    obtain ⟨hs₁, hsame⟩ := hv.settled_step hs step (by simp)
    obtain ⟨hs', hsame'⟩ := (hv.step step).settled_step hs₁ step' (by simp)
    exact ⟨hs', hsame.trans hsame'⟩

/-! ## What the leaves are due -/

variable {leaves : List RewardShare} {C : Nat} {P : Finset Nat} {i : Nat} {share : RewardShare}

theorem unitAt_eq (h : leaves[i]? = some share) : unitAt leaves i = share.unitShare.toNat := by
  rw [unitAt, h]
  rfl

theorem dues_insert (h : leaves[i]? = some share) (hi : i ∉ P) :
    dues leaves C (insert i P) = share.due C + dues leaves C P := by
  rw [dues, Finset.sum_insert hi, unitAt_eq h]
  rfl

theorem sum_unitAt (leaves : List RewardShare) :
    ∑ i ∈ Finset.range leaves.length, unitAt leaves i =
      (leaves.map fun share => share.unitShare.toNat).sum := by
  induction leaves with
  | nil => rfl
  | cons share leaves ih =>
    rw [List.length_cons, Finset.sum_range_succ', List.map_cons, List.sum_cons, ← ih]
    exact Nat.add_comm _ _

/-- Together the leaves are due no more than was collected. -/
theorem dues_le (hunits : (leaves.map fun share => share.unitShare.toNat).sum ≤ 1000000000)
    (hP : ∀ i ∈ P, i < leaves.length) : dues leaves C P ≤ C := by
  apply sum_share_le
  calc ∑ i ∈ P, unitAt leaves i
      ≤ ∑ i ∈ Finset.range leaves.length, unitAt leaves i :=
        Finset.sum_le_sum_of_subset fun i hi => Finset.mem_range.2 (hP i hi)
    _ = (leaves.map fun share => share.unitShare.toNat).sum := sum_unitAt leaves
    _ ≤ 1000000000 := hunits

end

/-! ## What the recipients receive -/

theorem RecipientShares.addRecipient_sum {out out' : List RecipientShare × UnitShare16}
    {recipient : Pubkey × UInt16} (h : addRecipient out recipient = some out')
    (hsum : (out.1.map fun r => r.share.value).sum = out.2.value) :
    (out'.1.map fun r => r.share.value).sum = out'.2.value := by
  unfold addRecipient at h
  split at h
  · cases h
  · simp only [Option.bind_eq_bind, Option.bind_eq_some_iff] at h
    obtain ⟨share, -, h⟩ := h
    split at h
    · cases h
    · simp only [Option.bind_eq_some_iff, Option.pure_def, Option.some.injEq] at h
      obtain ⟨total, htotal, rfl⟩ := h
      have hvalue := UnitShare.new_eq_some.1 htotal
      rw [hvalue, List.map_append, List.sum_append, hsum]
      simp

/-- The shares of a list of recipients add up to one whole. -/
theorem RecipientShares.new_sum {recipients : List (Pubkey × UInt16)} {shares : RecipientShares}
    (h : new recipients = some shares) :
    (shares.entries.map fun r => r.share.value).sum = 10000 := by
  have hfold : ∀ (l : List (Pubkey × UInt16)) (out out' : List RecipientShare × UnitShare16),
      l.foldlM addRecipient out = some out' →
      (out.1.map fun r => r.share.value).sum = out.2.value →
      (out'.1.map fun r => r.share.value).sum = out'.2.value := by
    intro l
    induction l with
    | nil =>
      intro out out' h hsum
      cases h
      exact hsum
    | cons recipient l ih =>
      intro out out' h hsum
      rw [List.foldlM_cons] at h
      obtain ⟨out₁, hout, h⟩ := Option.bind_eq_some_iff.1 h
      exact ih out₁ out' h (addRecipient_sum hout hsum)
  unfold new at h
  split at h
  · cases h
  · simp only [Option.bind_eq_bind, Option.bind_eq_some_iff] at h
    obtain ⟨⟨out, total⟩, hout, h⟩ := h
    split at h
    · cases h
    · next hmax =>
      have hsum := hfold _ _ _ hout rfl
      have htotal : total = UnitShare.MAX := by simpa using hmax
      simp only [Option.pure_def, Option.some.injEq] at h
      rw [← h, List.map_append, List.sum_append, hsum, htotal, List.map_replicate]
      simp [UnitShare.MAX, default, instInhabitedRecipientShare.default, UnitShare.MIN]

/-- The recipients never get more than there is for them. -/
theorem payoutSum_le {shares : RecipientShares} (share : UInt64)
    (h : (shares.entries.map fun r => r.share.value).sum ≤ 10000) :
    payoutSum share shares.activeIter ≤ share.toNat := by
  have hsub : (shares.activeIter.map fun r => r.share.value).sum ≤ 10000 :=
    (List.Sublist.sum_le_sum (List.filter_sublist.map _) (by simp)).trans h
  calc payoutSum share shares.activeIter
      = ((shares.activeIter.map fun r => r.share.value).map fun u =>
          u * share.toNat / 10000).sum := by
        rw [payoutSum, List.map_map]
        simp only [UnitShare.toNat_mulScalar]
        rfl
    _ ≤ (shares.activeIter.map fun r => r.share.value).sum * share.toNat / 10000 :=
        sum_map_share_le _ _ _
    _ ≤ 10000 * share.toNat / 10000 := Nat.div_le_div_right (Nat.mul_le_mul_right _ hsub)
    _ = share.toNat := Nat.mul_div_cancel_left _ (by decide)

/-- What a token account receives when the recipients of a leaf are paid. -/
def receivedBy (rt : Runtime) (share : UInt64) (rs : List RecipientShare) (k : Pubkey) : Nat :=
  (rs.map fun r =>
    if rt.scheme.getAssociatedTokenAddress r.recipientKey DOUBLEZERO_MINT_KEY = k then
      (r.share.mulScalar share).toNat
    else 0).sum

theorem Payouts.received {rt : Runtime} {b b' : Books} {e : DoubleZeroEpoch}
    {authority k : Pubkey} {share : UInt64} {rs : List RecipientShare} {a : TokenAccount}
    (h : Payouts rt (rt.poolKey e) authority share rs b b') (hk : k ≠ rt.poolKey e)
    (ha : b.tokens k = some a) : ∃ a', b'.tokens k = some a' ∧
      a'.amount.toNat = a.amount.toNat + receivedBy rt share rs k := by
  induction h generalizing a with
  | nil => exact ⟨a, ha, rfl⟩
  | @cons r rs b b₁ b₂ htransfer _ ih =>
    rw [receivedBy, List.map_cons, List.sum_cons, ← receivedBy]
    by_cases hr : rt.scheme.getAssociatedTokenAddress r.recipientKey DOUBLEZERO_MINT_KEY = k
    · obtain ⟨c, c', hc, hc', -, -, hamount⟩ := htransfer.target_eq (hr ▸ hk.symm)
      rw [hr] at hc hc'
      cases ha.symm.trans hc
      obtain ⟨a', ha', hamount'⟩ := ih hc'
      refine ⟨a', ha', ?_⟩
      rw [if_pos hr, hamount', hamount, Nat.add_assoc]
    · obtain ⟨a', ha', hamount'⟩ := ih ((htransfer.tokens_of_ne hk (Ne.symm hr)).trans ha)
      refine ⟨a', ha', ?_⟩
      rw [if_neg hr, hamount', Nat.zero_add]

end DoubleZero.Revenue
