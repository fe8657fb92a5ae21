import DoubleZero.Revenue.Safety.RewardLeaves
import DoubleZero.Revenue.Safety.Rewards

/-!
# The split of one leaf

A leaf's share of what was collected is rounded down, so is the part of it that is burned, and so is
what each recipient gets of the rest. The recipients' shares make up one whole, so what the last
rounding leaves over is less than one for each of them, and it is burned too.
-/

namespace DoubleZero.Revenue

open DoubleZero.Lib DoubleZero.Solana

/-! ## Recipients -/

namespace RecipientShares

variable {recipients : List (Pubkey × UInt16)} {shares : RecipientShares}

theorem addRecipient_eq {out out' : List RecipientShare × UnitShare16}
    {recipient : Pubkey × UInt16} (h : addRecipient out recipient = some out') :
    ∃ r, out'.1 = out.1 ++ [r] ∧ r.recipientKey ≠ default ∧
      (r.recipientKey, r.share.value) = (recipient.1, recipient.2.toNat) := by
  unfold addRecipient at h
  split at h
  · cases h
  · next hkey =>
    simp only [Option.bind_eq_bind, Option.bind_eq_some_iff] at h
    obtain ⟨share, hshare, h⟩ := h
    split at h
    · cases h
    · simp only [Option.bind_eq_some_iff, Option.pure_def, Option.some.injEq] at h
      obtain ⟨total, -, rfl⟩ := h
      exact ⟨⟨recipient.1, share⟩, rfl, hkey, by rw [UnitShare.new_eq_some.1 hshare]⟩

/-- The loop of `new` writes one entry for each recipient. -/
theorem addRecipients_eq {out out' : List RecipientShare × UnitShare16}
    (h : recipients.foldlM addRecipient out = some out') :
    ∃ rs, out'.1 = out.1 ++ rs ∧ (∀ r ∈ rs, r.recipientKey ≠ default) ∧
      rs.map (fun r => (r.recipientKey, r.share.value)) =
        recipients.map fun recipient => (recipient.1, recipient.2.toNat) := by
  induction recipients generalizing out with
  | nil =>
    cases h
    exact ⟨[], by simp, by simp, rfl⟩
  | cons recipient recipients ih =>
    rw [List.foldlM_cons] at h
    obtain ⟨out₁, hout, h⟩ := Option.bind_eq_some_iff.1 h
    obtain ⟨r, hr, hkey, hvalue⟩ := addRecipient_eq hout
    obtain ⟨rs, hrs, hkeys, hvalues⟩ := ih h
    refine ⟨r :: rs, ?_, ?_, ?_⟩
    · rw [hrs, hr, List.append_assoc, List.singleton_append]
    · intro r' hr'
      rcases List.mem_cons.1 hr' with rfl | hr'
      · exact hkey
      · exact hkeys r' hr'
    · rw [List.map_cons, List.map_cons, hvalue, hvalues]

/-- The active entries are the recipients that were asked for, in their order. -/
theorem new_active (h : new recipients = some shares) :
    shares.activeIter.map (fun r => (r.recipientKey, r.share.value)) =
        recipients.map (fun recipient => (recipient.1, recipient.2.toNat)) ∧
      (shares.activeIter.map fun r => r.share.value).sum = 10000 := by
  have hsum := new_sum h
  unfold new at h
  split at h
  · cases h
  · simp only [Option.bind_eq_bind, Option.bind_eq_some_iff] at h
    obtain ⟨⟨out, total⟩, hout, h⟩ := h
    split at h
    · cases h
    · simp only [Option.pure_def, Option.some.injEq] at h
      obtain ⟨rs, hrs, hkeys, hvalues⟩ := addRecipients_eq hout
      have hout : out = rs := by simpa using hrs
      subst hout
      have hactive : shares.activeIter = out := by
        rw [← h, activeIter, List.filter_append]
        have hall : out.filter (fun r => r.recipientKey ≠ default) = out :=
          List.filter_eq_self.2 fun r hr => by simpa using hkeys r hr
        have hnone : (List.replicate (MAX_RECIPIENTS - out.length) default).filter
            (fun r : RecipientShare => r.recipientKey ≠ default) = [] := by
          rw [List.filter_replicate]
          rfl
        rw [hall, hnone, List.append_nil]
      refine ⟨by rw [hactive, hvalues], ?_⟩
      rw [hactive]
      rw [← h, List.map_append, List.sum_append, List.map_replicate] at hsum
      simpa [default, instInhabitedRecipientShare.default, UnitShare.MIN] using hsum

/-- What is left over when the recipients are paid is less than one for each of them. -/
theorem lt_payoutSum_add_length (share : UInt64)
    (hsum : (shares.activeIter.map fun r => r.share.value).sum = 10000) :
    share.toNat < payoutSum share shares.activeIter + shares.activeIter.length := by
  have hlt := lt_sum_map_share_add_length (T := share.toNat) (by decide) hsum
  rw [List.length_map, List.map_map] at hlt
  simpa only [payoutSum, UnitShare.toNat_mulScalar, Function.comp_def] using hlt

end RecipientShares

/-! ## The parts of a leaf -/

theorem UnitShare.value_max {m : Nat} (a b : UnitShare m) :
    (a.max b).value = Nat.max a.value b.value := by
  unfold UnitShare.max
  split
  · next h => exact (Nat.max_eq_right h).symm
  · next h => exact (Nat.max_eq_left (by omega)).symm

/-- The rate at which a leaf with the given rate of its own is burned. -/
def Distribution.leafBurnRate (d : Distribution) (economicBurnRate : UInt32) : Nat :=
  Nat.max (Nat.max economicBurnRate.toNat d.economicBurnRate.value) d.communityBurnRate.value

/-- How `S`, the share of a leaf, falls into a part `B` to burn and a rest to distribute. -/
structure SplitInto (d : Distribution) (unitShare economicBurnRate : UInt32) (total : UInt64)
    (burnShare remainingShare : UInt64) (S : Nat) : Prop where
  share_eq : S = unitShare.toNat * total.toNat / 1000000000
  burn_eq : burnShare.toNat = d.leafBurnRate economicBurnRate * S / 1000000000
  rest_eq : burnShare.toNat + remainingShare.toNat = S

section

variable {d : Distribution} {key : Pubkey} {unitShare economicBurnRate : UInt32}
  {share : RewardShare} {total : UInt64}

/-- Every leaf that can be built can be split. -/
theorem split2zAmount_exact
    (hshare : RewardShare.new key unitShare false economicBurnRate = some share)
    (htotal : d.totalCollected2zTokens = some total) : ∃ burnShare remainingShare,
      d.split2zAmount share = some (burnShare, remainingShare) ∧
        SplitInto d unitShare economicBurnRate total burnShare remainingShare
          (unitShare.toNat * total.toNat / 1000000000) := by
  obtain ⟨⟨unit, hunit, hunitValue⟩, ⟨rate, hrate, hrateValue⟩, -⟩ := RewardShare.new_checked hshare
  have hsplit : d.split2zAmount share = some ((d.burnRate rate).mulScalar (unit.mulScalar total),
      unit.mulScalar total - (d.burnRate rate).mulScalar (unit.mulScalar total)) := by
    simp [Distribution.split2zAmount, hunit, hrate, htotal]
  have hle := UnitShare.mulScalar_le (d.burnRate rate) (unit.mulScalar total)
  have hvalue : (d.burnRate rate).value = d.leafBurnRate economicBurnRate := by
    rw [Distribution.burnRate, UnitShare.value_max, UnitShare.value_max, hrateValue]
    rfl
  have hwhole : (unit.mulScalar total).toNat = unitShare.toNat * total.toNat / 1000000000 := by
    rw [UnitShare.toNat_mulScalar, hunitValue]
  refine ⟨_, _, hsplit, rfl, ?_, ?_⟩
  · rw [UnitShare.toNat_mulScalar, hvalue, hwhole]
  · rw [toNat_sub_of_le hle, Nat.add_sub_cancel' (UInt64.le_iff_toNat_le.1 hle), hwhole]

end

/-- What is transferred and burned together is the share; beyond its part only dust is burned. -/
structure LosesNothing (S burnShare transferred burned n : Nat) : Prop where
  whole : transferred + burned = S
  least : burnShare ≤ burned
  dust : burned ≤ burnShare + n - 1
  recipients : 1 ≤ n

theorem SplitInto.losesNothing {d : Distribution} {unitShare economicBurnRate : UInt32}
    {total burnShare remainingShare : UInt64} {S : Nat} {recipients : List (Pubkey × UInt16)}
    {shares : RecipientShares}
    (h : SplitInto d unitShare economicBurnRate total burnShare remainingShare S)
    (hS : S < 2 ^ 64) (hnew : RecipientShares.new recipients = some shares) :
    (payoutTotal remainingShare shares.activeIter).toNat =
        payoutSum remainingShare shares.activeIter ∧
      LosesNothing S burnShare.toNat (payoutSum remainingShare shares.activeIter)
        (burnShare + (remainingShare - payoutTotal remainingShare shares.activeIter)).toNat
        shares.activeIter.length := by
  have hrest := h.rest_eq
  have hle := payoutSum_le remainingShare (RecipientShares.new_sum hnew).le
  obtain ⟨-, hsum⟩ := RecipientShares.new_active hnew
  have hlt := RecipientShares.lt_payoutSum_add_length remainingShare hsum
  have htotal : (payoutTotal remainingShare shares.activeIter).toNat =
      payoutSum remainingShare shares.activeIter := by
    rw [toNat_payoutTotal, Nat.mod_eq_of_lt (by omega)]
  have hdust : (remainingShare - payoutTotal remainingShare shares.activeIter).toNat =
      remainingShare.toNat - payoutSum remainingShare shares.activeIter := by
    rw [toNat_sub_of_le (UInt64.le_iff_toNat_le.2 (by omega)), htotal]
  have hburned : (burnShare +
      (remainingShare - payoutTotal remainingShare shares.activeIter)).toNat =
        burnShare.toNat + (remainingShare.toNat - payoutSum remainingShare shares.activeIter) := by
    rw [toNat_add_of_lt (by omega), hdust]
  have hnonempty : shares.activeIter.length ≠ 0 := by
    intro hnil
    rw [List.length_eq_zero_iff.1 hnil] at hsum
    exact absurd hsum (by decide)
  exact ⟨htotal, by omega, by omega, by omega, by omega⟩

/-! ## On the ledger -/

theorem split_loses_nothing {rt : Runtime} {L₀ L : RevenueLedger} {h : History} (hg : Genesis rt L₀)
    (hrun : LedgerRun rt L₀ h L) :
    -- Every leaf that can be built can be split by every distribution.
    (∀ (k : Pubkey) (d : Distribution) (rem : List (BitVec 8)), view ID L k = some (d, rem) →
      d.economicBurnRate.value ≤ 1000000000 ∧ d.communityBurnRate.value ≤ 1000000000 ∧
      ∀ (key : Pubkey) (unitShare economicBurnRate : UInt32) (share : RewardShare)
        (total : UInt64), RewardShare.new key unitShare false economicBurnRate = some share →
        d.totalCollected2zTokens = some total → ∃ burnShare remainingShare,
          d.split2zAmount share = some (burnShare, remainingShare) ∧
          SplitInto d unitShare economicBurnRate total burnShare remainingShare
            (unitShare.toNat * total.toNat / 1000000000)) ∧
    -- What a call pays out and burns.
    ∀ (unitShare economicBurnRate : UInt32) (proof : MerkleProof) (call : Call)
      (L' : RevenueLedger), call.data = .distributeRewards unitShare economicBurnRate proof →
      Step rt (.call call) L L' →
      ∃ (k kr : Pubkey) (d d' : Distribution) (rem rem' rrem : List (BitVec 8))
        (r : ContributorRewards) (recipients : List (Pubkey × UInt16)) (share : RewardShare)
        (total burnShare remainingShare burned : UInt64) (S : Nat) (a a' : TokenAccount),
        call.key? 1 = some k ∧ view ID L k = some (d, rem) ∧ view ID L' k = some (d', rem') ∧
        call.key? 2 = some kr ∧ view ID L kr = some (r, rrem) ∧
        RecipientShares.new recipients = some r.recipientShares ∧
        r.recipientShares.activeIter.length = recipients.length ∧
        RewardShare.new r.serviceKey unitShare false economicBurnRate = some share ∧
        d.totalCollected2zTokens = some total ∧
        d.split2zAmount share = some (burnShare, remainingShare) ∧
        SplitInto d unitShare economicBurnRate total burnShare remainingShare S ∧
        -- The part of each recipient, and the accounts they are paid to.
        (∀ x ∈ r.recipientShares.activeIter, (x.share.mulScalar remainingShare).toNat =
          x.share.value * (S - burnShare.toNat) / 10000) ∧
        (∀ (key : Pubkey) (c : TokenAccount), key ≠ (rt.find2zTokenPdaAddress k).1 →
          Token.unpack L key = some c → ∃ c', Token.unpack L' key = some c' ∧
            c'.amount.toNat = c.amount.toNat +
              receivedBy rt remainingShare r.recipientShares.activeIter key) ∧
        -- The pool loses what is transferred and burned, and nothing else.
        Token.unpack L (rt.find2zTokenPdaAddress k).1 = some a ∧
        Token.unpack L' (rt.find2zTokenPdaAddress k).1 = some a' ∧
        a.amount.toNat = a'.amount.toNat +
          payoutSum remainingShare r.recipientShares.activeIter + burned.toNat ∧
        d'.distributed2zAmount.toNat = (d.distributed2zAmount.toNat +
          payoutSum remainingShare r.recipientShares.activeIter) % 2 ^ 64 ∧
        d'.burned2zAmount = d.burned2zAmount + burned ∧
        LosesNothing S burnShare.toNat (payoutSum remainingShare r.recipientShares.activeIter)
          burned.toNat recipients.length := by
  obtain ⟨hc, hbooks⟩ := hrun.books hg
  refine ⟨fun k d rem hd => ⟨d.economicBurnRate.le_max, d.communityBurnRate.le_max,
    fun key unitShare economicBurnRate share total hshare htotal =>
      split2zAmount_exact hshare htotal⟩, ?_⟩
  intro unitShare economicBurnRate proof call L' hdata hstep
  obtain ⟨hc', hbook⟩ := step_refines hc hstep
  cases hbook with
  | call ht =>
    obtain ⟨d, rem, has, hkey⟩ := ht.distributes hdata
    obtain ⟨d', rem', share, burnShare, remainingShare, r, rrem, hpays⟩ :=
      ht.pays_leaf (hbooks.valid hg.books_empty has) has hdata hkey
    -- The contributor has recipients, so they were submitted.
    obtain ⟨recipients, hnew⟩ : ∃ recipients, RecipientShares.new recipients =
        some r.recipientShares := by
      rcases BooksRun.submitted hbooks hg.books_empty hpays.contributor with
        hdefault | ⟨_, _, _, recipients, _, _, _, hnew, -⟩
      · refine absurd ?_ hpays.recipients
        rw [hdefault]
        decide
      · exact ⟨recipients, hnew⟩
    obtain ⟨total, htotal⟩ := split2zAmount_total hpays.split
    obtain ⟨burnShare', remainingShare', hsplit, hinto⟩ :=
      split2zAmount_exact hpays.share_eq htotal
    cases hpays.split.symm.trans hsplit
    have hsmall : unitShare.toNat * total.toNat / 1000000000 < 2 ^ 64 := by
      have hdue := split2zAmount_due hpays.split
      have hrest := hinto.rest_eq
      omega
    obtain ⟨hsum, hloses⟩ := hinto.losesNothing hsmall hnew
    obtain ⟨hactive, -⟩ := RecipientShares.new_active hnew
    have hlength : r.recipientShares.activeIter.length = recipients.length := by
      simpa using congrArg List.length hactive
    obtain ⟨n, n', ⟨a, ha, -, rfl⟩, ⟨a', ha', -, rfl⟩, hdrawn⟩ := hpays.drawn
    rw [hsum] at hdrawn
    refine ⟨_, _, d, d', rem, rem', rrem, r, recipients, share, total, burnShare, remainingShare,
      _, _, a, a', hkey, view_eq_stateAt.2 has, ?_, hpays.keyContributor,
      view_eq_stateAt.2 hpays.contributor, hnew, hlength, hpays.share_eq, htotal, hsplit, hinto,
      fun x _ => ?_, hpays.received, ha, ha', hdrawn, ?_, hpays.burned_eq, hlength ▸ hloses⟩
    · rw [← hpays.epoch_eq]
      exact view_eq_stateAt.2 hpays.has'
    · have hrest := hinto.rest_eq
      rw [UnitShare.toNat_mulScalar, show _ - burnShare.toNat = remainingShare.toNat by omega]
    · rw [hpays.distributed_eq, UInt64.toNat_add, hsum]

/-- The larger leaf of the epoch: 2200 were collected, 1320 are its share, and 132 of it burn. -/
theorem split_loses_nothing_epoch :
    ∃ (h : History) (L L' : RevenueLedger) (r : ContributorRewards) (rrem : List (BitVec 8))
      (recipients : List (Pubkey × UInt16)) (burnShare remainingShare burned : UInt64),
      LedgerRun (Sample.runtime Sample.debts Sample.shares) (Sample.genesis 1000 700) h L ∧
      Step (Sample.runtime Sample.debts Sample.shares) (Sample.distribute 0 600000000).label L L' ∧
      view ID L Sample.contributor = some (r, rrem) ∧
      burnShare = 132 ∧ remainingShare = 1188 ∧
      LosesNothing 1320 burnShare.toNat (payoutSum remainingShare r.recipientShares.activeIter)
        burned.toNat recipients.length := by
  obtain ⟨h, L, L', hrun, hstep, hP⟩ := Sample.exists_step_of_replay Sample.debts Sample.shares
    1000 700 (Sample.settled ++ [Sample.sweep 100 700]) (Sample.distribute 0 600000000)
    (P := fun _ L _ => (view (T := Distribution) ID L Sample.distribution).any fun x =>
      x.1.totalCollected2zTokens = some 2200 ∧ x.1.leafBurnRate 0 = 100000000)
    (by decide +kernel) (by decide +kernel)
  obtain ⟨⟨d₀, rem₀⟩, hd₀, hfacts⟩ := (Option.any_eq_true _ _).1 hP
  obtain ⟨htotal₀, hrate⟩ := of_decide_eq_true hfacts
  obtain ⟨k, kr, d, d', rem, rem', rrem, r, recipients, share, total, burnShare, remainingShare,
    burned, S, a, a', hkey, hd, -, hkr, hr, -, -, -, htotal, -, hinto, -, -, -, -, -, -, -, hloses⟩ :=
    (split_loses_nothing (Sample.genesis_unused 1000 700) hrun).2 600000000 0 ⟨some 0, []⟩ _ L' rfl
      hstep
  obtain rfl : k = Sample.distribution := (Option.some.inj hkey).symm
  obtain rfl : kr = Sample.contributor := (Option.some.inj hkr).symm
  cases hd.symm.trans hd₀
  cases htotal.symm.trans htotal₀
  have hrate : d₀.leafBurnRate 0 = 100000000 := hrate
  have hS : S = 1320 := hinto.share_eq
  have hburn := hinto.burn_eq
  have hrest := hinto.rest_eq
  rw [hrate, hS] at hburn
  rw [hS] at hrest
  have hburnShare : burnShare = 132 := UInt64.toNat_inj.1 hburn
  refine ⟨h, L, L', r, rrem, recipients, burnShare, remainingShare, burned, hrun, hstep, hr,
    hburnShare, ?_, hS ▸ hloses⟩
  rw [hburnShare] at hrest
  apply UInt64.toNat_inj.1
  have h132 : (132 : UInt64).toNat = 132 := rfl
  have h1188 : (1188 : UInt64).toNat = 1188 := rfl
  omega

end DoubleZero.Revenue
