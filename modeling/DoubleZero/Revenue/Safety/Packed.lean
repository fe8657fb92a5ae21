import DoubleZero.Revenue.Safety.RewardSplit

/-!
# Packed data

Three of the program's data layouts, each with the values it stands for: the array of recipients,
the bitmap of processed leaves, and the word that a reward leaf shares between its burn rate and its
blocked flag.
-/

namespace DoubleZero.Revenue

open DoubleZero.Lib DoubleZero.Solana

/-! ## Recipients -/

namespace RecipientShares

variable {recipients : List (Pubkey × UInt16)} {total : Nat}

/-- What `new` asks of one recipient. -/
def Allowed (recipient : Pubkey × UInt16) : Prop :=
  recipient.1 ≠ default ∧ 1 ≤ recipient.2.toNat ∧ recipient.2.toNat ≤ 10000

theorem addRecipient_iff {out : List RecipientShare × UnitShare16} {recipient : Pubkey × UInt16} :
    (∃ out', addRecipient out recipient = some out' ∧ out'.2.value = total) ↔
      Allowed recipient ∧ total = out.2.value + recipient.2.toNat ∧ total ≤ 10000 := by
  simp only [addRecipient, Option.bind_eq_bind]
  constructor
  · rintro ⟨out', h, rfl⟩
    split at h
    · cases h
    · next hkey =>
      obtain ⟨share, hshare, h⟩ := Option.bind_eq_some_iff.1 h
      have hvalue := UnitShare.new_eq_some.1 hshare
      split at h
      · cases h
      · next hmin =>
        obtain ⟨sum, hsum, h⟩ := Option.bind_eq_some_iff.1 h
        obtain rfl := Option.some.inj h
        have hsum' := UnitShare.new_eq_some.1 hsum
        have hpos : share.value ≠ 0 := fun h0 => hmin (UnitShare.value_injective h0)
        refine ⟨⟨hkey, by omega, hvalue ▸ share.le_max⟩, ?_, sum.le_max⟩
        rw [hsum', hvalue]
  · rintro ⟨⟨hkey, hpos, hle⟩, rfl, htotal⟩
    have hmin : (⟨recipient.2.toNat, hle⟩ : UnitShare16) ≠ UnitShare.MIN := by
      intro h
      have hzero : recipient.2.toNat = 0 := congrArg UnitShare.value h
      omega
    refine ⟨(out.1 ++ [⟨recipient.1, ⟨recipient.2.toNat, hle⟩⟩], ⟨_, htotal⟩), ?_, rfl⟩
    rw [if_neg hkey, UnitShare.new, dif_pos hle, Option.bind_some, if_neg hmin,
      UnitShare.checkedAdd, UnitShare.new, dif_pos htotal, Option.bind_some]
    rfl

/-- The loop of `new`, from any running sum. -/
theorem addRecipients_iff {out : List RecipientShare × UnitShare16} :
    (∃ out', recipients.foldlM addRecipient out = some out' ∧ out'.2.value = total) ↔
      (∀ recipient ∈ recipients, Allowed recipient) ∧
        total = out.2.value + (recipients.map fun recipient => recipient.2.toNat).sum ∧
        total ≤ 10000 := by
  induction recipients generalizing out with
  | nil =>
    constructor
    · rintro ⟨out', h, rfl⟩
      cases h
      exact ⟨by simp, by simp, out.2.le_max⟩
    · rintro ⟨-, htotal, -⟩
      exact ⟨out, rfl, by simpa using htotal.symm⟩
  | cons recipient recipients ih =>
    have hstep : (∃ out', (recipient :: recipients).foldlM addRecipient out = some out' ∧
        out'.2.value = total) ↔ ∃ mid, addRecipient out recipient = some mid ∧
          ∃ out', recipients.foldlM addRecipient mid = some out' ∧ out'.2.value = total := by
      rw [List.foldlM_cons]
      constructor
      · rintro ⟨out', h, htotal⟩
        obtain ⟨mid, hmid, h⟩ := Option.bind_eq_some_iff.1 h
        exact ⟨mid, hmid, out', h, htotal⟩
      · rintro ⟨mid, hmid, out', h, htotal⟩
        exact ⟨out', Option.bind_eq_some_iff.2 ⟨mid, hmid, h⟩, htotal⟩
    simp only [hstep, ih, List.forall_mem_cons, List.map_cons, List.sum_cons]
    constructor
    · rintro ⟨mid, hmid, hall, htotal, hle⟩
      obtain ⟨hallowed, hmid', -⟩ := addRecipient_iff.1 ⟨mid, hmid, rfl⟩
      exact ⟨⟨hallowed, hall⟩, by omega, hle⟩
    · rintro ⟨⟨hallowed, hall⟩, htotal, hle⟩
      have hnext : out.2.value + recipient.2.toNat ≤ 10000 := by omega
      obtain ⟨mid, hmid, hvalue⟩ := addRecipient_iff.2 ⟨hallowed, rfl, hnext⟩
      exact ⟨mid, hmid, hall, by omega, hle⟩

theorem exists_new_iff : (∃ shares, new recipients = some shares) ↔
    recipients.length ≤ MAX_RECIPIENTS ∧
      ∃ out', recipients.foldlM addRecipient ([], UnitShare.MIN) = some out' ∧
        out'.2.value = 10000 := by
  unfold new
  split
  · next hlength => simp [Nat.not_le_of_gt hlength]
  · next hlength =>
    simp only [Option.bind_eq_bind, Option.bind_eq_some_iff]
    refine ⟨?_, ?_⟩
    · rintro ⟨shares, out', hout, h⟩
      split at h
      · cases h
      · next hmax =>
        have hvalue : out'.2.value = 10000 := congrArg UnitShare.value (not_ne_iff.1 hmax)
        exact ⟨Nat.le_of_not_gt hlength, out', hout, hvalue⟩
    · rintro ⟨-, out', hout, hvalue⟩
      have hmax : out'.2 = UnitShare.MAX := UnitShare.value_injective hvalue
      exact ⟨_, out', hout, if_neg (not_ne_iff.2 hmax)⟩

end RecipientShares

/-- Which lists of recipients are accepted, and that the active entries are those lists. -/
theorem recipientShares_new_iff (recipients : List (Pubkey × UInt16)) :
    ((∃ shares, RecipientShares.new recipients = some shares) ↔
      recipients.length ≤ 8 ∧
        (∀ recipient ∈ recipients, recipient.1 ≠ default ∧ 1 ≤ recipient.2.toNat ∧
          recipient.2.toNat ≤ 10000) ∧
        (recipients.map fun recipient => recipient.2.toNat).sum = 10000) ∧
      ∀ shares, RecipientShares.new recipients = some shares →
        shares.activeIter.map (fun r => (r.recipientKey, r.share.value)) =
          recipients.map fun recipient => (recipient.1, recipient.2.toNat) := by
  refine ⟨?_, fun shares hnew => (RecipientShares.new_active hnew).1⟩
  rw [RecipientShares.exists_new_iff, RecipientShares.addRecipients_iff]
  constructor
  · rintro ⟨hlength, hall, hsum, -⟩
    exact ⟨hlength, hall, by simpa [UnitShare.MIN] using hsum.symm⟩
  · rintro ⟨hlength, hall, hsum⟩
    exact ⟨hlength, hall, by simpa [UnitShare.MIN] using hsum.symm, le_rfl⟩

/-! ## The bitmap of processed leaves -/

section LeafBitmap

variable {bytes bytes' : List (BitVec 8)} {leafIndex : UInt32}

/-- `try_process_remaining_data_leaf_index` on the slice that it borrows: what it returns, and the
slice as it leaves it. -/
def processInPlace (processedLeafData : List (BitVec 8)) (leafIndex : UInt32) :
    Except Failure Unit × List (BitVec 8) :=
  match processedLeafData[leafIndex.toNat / 8]? with
  | none => (.error (.err .invalidInstructionData "Invalid leaf index"), processedLeafData)
  | some leafByte =>
    if bit leafByte (leafIndex.toNat % 8) then
      (.error (.err .invalidAccountData
        s!"Merkle leaf index {leafIndex} has already been processed"), processedLeafData)
    else (.ok (), processedLeafData.set (leafIndex.toNat / 8)
      (setBit leafByte (leafIndex.toNat % 8) true))

/-- Calls one after the other: the slice at the end, and the indexes that succeeded. -/
def processAll (bytes : List (BitVec 8)) : List UInt32 → List (BitVec 8) × List UInt32
  | [] => (bytes, [])
  | leafIndex :: leafIndexes =>
    match processInPlace bytes leafIndex with
    | (.ok (), bytes') =>
      ((processAll bytes' leafIndexes).1, leafIndex :: (processAll bytes' leafIndexes).2)
    | (.error _, bytes') => processAll bytes' leafIndexes

theorem leafIndex_ok : tryProcessRemainingDataLeafIndex bytes leafIndex = .ok bytes' ↔
    ∃ byte, bytes[leafIndex.toNat / 8]? = some byte ∧ bit byte (leafIndex.toNat % 8) = false ∧
      bytes.set (leafIndex.toNat / 8) (setBit byte (leafIndex.toNat % 8) true) = bytes' := by
  unfold tryProcessRemainingDataLeafIndex
  cases hbyte : bytes[leafIndex.toNat / 8]? with
  | none => simp
  | some byte =>
    cases hbit : bit byte (leafIndex.toNat % 8) with
    | true => simp [hbit]
    | false => simp [hbit]

theorem exists_leafIndex_ok :
    (∃ bytes', tryProcessRemainingDataLeafIndex bytes leafIndex = .ok bytes') ↔
      leafIndex.toNat < 8 * bytes.length ∧ leafIndex.toNat ∉ members bytes := by
  simp only [leafIndex_ok, mem_members, bitAt]
  constructor
  · rintro ⟨_, byte, hbyte, hbit, -⟩
    have hlt := (List.getElem?_eq_some_iff.1 hbyte).1
    exact ⟨by omega, by simp [hbyte, hbit]⟩
  · rintro ⟨hlt, hbit⟩
    have hbyte := List.getElem?_eq_getElem (show leafIndex.toNat / 8 < bytes.length by omega)
    rw [hbyte] at hbit
    exact ⟨_, _, hbyte, by simpa using hbit, rfl⟩

theorem members_leafIndex (h : tryProcessRemainingDataLeafIndex bytes leafIndex = .ok bytes') :
    bytes'.length = bytes.length ∧ members bytes' = insert leafIndex.toNat (members bytes) := by
  obtain ⟨byte, hbyte, -, rfl⟩ := leafIndex_ok.1 h
  exact ⟨List.length_set, members_set hbyte⟩

/-- The processors call it on a copy and store what it returns. -/
theorem processInPlace_eq : processInPlace bytes leafIndex =
    match tryProcessRemainingDataLeafIndex bytes leafIndex with
    | .ok bytes' => (.ok (), bytes')
    | .error e => (.error e, bytes) := by
  unfold processInPlace tryProcessRemainingDataLeafIndex
  cases bytes[leafIndex.toNat / 8]? with
  | none => rfl
  | some byte => cases hbit : bit byte (leafIndex.toNat % 8) <;> simp [hbit]

/-- A call that succeeds or fails leaves the set of the indexes it was given so far. -/
theorem processInPlace_members (bytes : List (BitVec 8)) (leafIndex : UInt32) :
    (processInPlace bytes leafIndex).2.length = bytes.length ∧
      members (processInPlace bytes leafIndex).2 =
        members bytes ∪ ({leafIndex.toNat} : Finset Nat).filter (· < 8 * bytes.length) := by
  rw [processInPlace_eq]
  cases h : tryProcessRemainingDataLeafIndex bytes leafIndex with
  | ok bytes' =>
    obtain ⟨hlt, -⟩ := exists_leafIndex_ok.1 ⟨bytes', h⟩
    obtain ⟨hlength, hmembers⟩ := members_leafIndex h
    refine ⟨hlength, ?_⟩
    rw [hmembers, Finset.filter_singleton, if_pos hlt, Finset.insert_eq, Finset.union_comm]
  | error e =>
    refine ⟨rfl, ?_⟩
    have hnot : ¬ ∃ bytes', tryProcessRemainingDataLeafIndex bytes leafIndex = .ok bytes' := by
      simp [h]
    rw [exists_leafIndex_ok, not_and_not_right] at hnot
    rw [Finset.filter_singleton]
    by_cases hlt : leafIndex.toNat < 8 * bytes.length
    · rw [if_pos hlt, Finset.union_comm, ← Finset.insert_eq, Finset.insert_eq_of_mem (hnot hlt)]
    · rw [if_neg hlt, Finset.union_empty]

theorem processAll_fst (leafIndexes : List UInt32) :
    (processAll bytes leafIndexes).1 =
      leafIndexes.foldl (fun bytes leafIndex => (processInPlace bytes leafIndex).2) bytes := by
  induction leafIndexes generalizing bytes with
  | nil => rfl
  | cons leafIndex leafIndexes ih =>
    rw [List.foldl_cons, processAll]
    split
    · next h => rw [h, ih]
    · next h => rw [h, ih]

/-- The set at the end, whatever the order of the calls. -/
theorem processAll_members (bytes : List (BitVec 8)) (leafIndexes : List UInt32) :
    (processAll bytes leafIndexes).1.length = bytes.length ∧
      members (processAll bytes leafIndexes).1 = members bytes ∪
        (leafIndexes.map UInt32.toNat).toFinset.filter (· < 8 * bytes.length) := by
  rw [processAll_fst]
  induction leafIndexes generalizing bytes with
  | nil => simp
  | cons leafIndex leafIndexes ih =>
    obtain ⟨hlength, hmembers⟩ := processInPlace_members bytes leafIndex
    obtain ⟨hlength', hmembers'⟩ := ih (processInPlace bytes leafIndex).2
    rw [List.foldl_cons]
    refine ⟨hlength'.trans hlength, ?_⟩
    rw [hmembers', hmembers, hlength, Finset.union_assoc, ← Finset.filter_union, List.map_cons,
      List.toFinset_cons, Finset.insert_eq]

/-- The indexes that succeeded are distinct, were clear before, and are what was added. -/
theorem processAll_succeeded (bytes : List (BitVec 8)) (leafIndexes : List UInt32) :
    (processAll bytes leafIndexes).2.Nodup ∧ (processAll bytes leafIndexes).2.Sublist leafIndexes ∧
      (∀ leafIndex ∈ (processAll bytes leafIndexes).2, leafIndex.toNat ∉ members bytes) ∧
      members (processAll bytes leafIndexes).1 =
        members bytes ∪ ((processAll bytes leafIndexes).2.map UInt32.toNat).toFinset := by
  induction leafIndexes generalizing bytes with
  | nil => simp [processAll]
  | cons leafIndex leafIndexes ih =>
    rw [processAll, processInPlace_eq]
    cases h : tryProcessRemainingDataLeafIndex bytes leafIndex with
    | error e =>
      obtain ⟨hnodup, hsublist, hclear, hmembers⟩ := ih bytes
      exact ⟨hnodup, hsublist.cons _, hclear, hmembers⟩
    | ok bytes' =>
      obtain ⟨-, hnew⟩ := exists_leafIndex_ok.1 ⟨bytes', h⟩
      obtain ⟨-, hinsert⟩ := members_leafIndex h
      obtain ⟨hnodup, hsublist, hclear, hmembers⟩ := ih bytes'
      rw [hinsert] at hclear hmembers
      refine ⟨List.nodup_cons.2 ⟨?_, hnodup⟩, hsublist.cons_cons _, ?_, ?_⟩
      · intro hmem
        exact hclear leafIndex hmem (Finset.mem_insert_self ..)
      · rintro leafIndex' hmem
        rcases List.mem_cons.1 hmem with rfl | hmem
        · exact hnew
        · exact fun hold => hclear leafIndex' hmem (Finset.mem_insert_of_mem hold)
      · rw [hmembers, List.map_cons, List.toFinset_cons, Finset.insert_union, Finset.union_insert]

end LeafBitmap

/-- The bitmap is the set of the indexes that were processed. -/
theorem leafBitmap_faithful :
    (∀ (bytes : List (BitVec 8)) (leafIndex : UInt32),
      ((processInPlace bytes leafIndex).1 = .ok () ↔
        ∃ byte, bytes[leafIndex.toNat / 8]? = some byte ∧
          bit byte (leafIndex.toNat % 8) = false) ∧
      ((processInPlace bytes leafIndex).1 = .ok () →
        (processInPlace bytes leafIndex).2.length = bytes.length ∧
          ∀ i, bitAt (processInPlace bytes leafIndex).2 i =
            if i = leafIndex.toNat then true else bitAt bytes i) ∧
      ((processInPlace bytes leafIndex).1 ≠ .ok () →
        (processInPlace bytes leafIndex).2 = bytes)) ∧
    ∀ (n : Nat) (leafIndexes : List UInt32),
      (processAll (List.replicate n 0#8) leafIndexes).2.Nodup ∧
      (processAll (List.replicate n 0#8) leafIndexes).2.Sublist leafIndexes ∧
      (processAll (List.replicate n 0#8) leafIndexes).1.length = n ∧
      (∀ i, bitAt (processAll (List.replicate n 0#8) leafIndexes).1 i = true ↔
        ∃ leafIndex ∈ (processAll (List.replicate n 0#8) leafIndexes).2, leafIndex.toNat = i) ∧
      ∀ leafIndexes', leafIndexes'.Perm leafIndexes →
        (processAll (List.replicate n 0#8) leafIndexes').1 =
          (processAll (List.replicate n 0#8) leafIndexes).1 := by
  refine ⟨fun bytes leafIndex => ⟨?_, ?_, ?_⟩, fun n leafIndexes => ?_⟩
  · rw [processInPlace_eq]
    cases h : tryProcessRemainingDataLeafIndex bytes leafIndex with
    | ok bytes' =>
      obtain ⟨byte, hbyte, hbit, -⟩ := leafIndex_ok.1 h
      exact ⟨fun _ => ⟨byte, hbyte, hbit⟩, fun _ => rfl⟩
    | error e =>
      constructor
      · intro h'
        cases h'
      · rintro ⟨byte, hbyte, hbit⟩
        have hok := leafIndex_ok.2 ⟨byte, hbyte, hbit, rfl⟩
        rw [h] at hok
        cases hok
  · rw [processInPlace_eq]
    cases h : tryProcessRemainingDataLeafIndex bytes leafIndex with
    | ok bytes' =>
      intro _
      obtain ⟨hlength, hmembers⟩ := members_leafIndex h
      refine ⟨hlength, fun i => ?_⟩
      rw [Bool.eq_iff_iff, ← mem_members, hmembers, Finset.mem_insert, mem_members]
      by_cases hi : i = leafIndex.toNat <;> simp [hi]
    | error e =>
      intro h'
      cases h'
  · rw [processInPlace_eq]
    cases h : tryProcessRemainingDataLeafIndex bytes leafIndex with
    | ok bytes' => exact fun h' => absurd rfl h'
    | error e => exact fun _ => rfl
  · obtain ⟨hnodup, hsublist, -, hmembers⟩ :=
      processAll_succeeded (List.replicate n 0#8) leafIndexes
    obtain ⟨hlength, hset⟩ := processAll_members (List.replicate n 0#8) leafIndexes
    refine ⟨hnodup, hsublist, by simpa using hlength, fun i => ?_, fun leafIndexes' hperm => ?_⟩
    · rw [← mem_members, hmembers, members_replicate, Finset.empty_union, List.mem_toFinset,
        List.mem_map]
    · obtain ⟨hlength', hset'⟩ := processAll_members (List.replicate n 0#8) leafIndexes'
      apply eq_of_members (hlength'.trans hlength.symm)
      rw [hset', hset, List.toFinset_eq_of_perm _ _ (hperm.map _)]

/-! ## Reward leaves under their setters -/

namespace RewardShare

variable {key : Pubkey} {unitShare economicBurnRate : UInt32} {shouldBlock : Bool}
  {share : RewardShare}

/-- A call of one of the two setters. -/
inductive Setter where
  | isBlocked (shouldBlock : Bool)
  | economicBurnRate (rate : UnitShare32)
  deriving DecidableEq, Repr

def Setter.apply (share : RewardShare) : Setter → RewardShare
  | .isBlocked shouldBlock => share.setIsBlocked shouldBlock
  | .economicBurnRate rate => share.setEconomicBurnRate rate

def applySetters (share : RewardShare) (setters : List Setter) : RewardShare :=
  setters.foldl Setter.apply share

/-- The flag that was set last. -/
def lastFlag (shouldBlock : Bool) : List Setter → Bool
  | [] => shouldBlock
  | .isBlocked shouldBlock' :: setters => lastFlag shouldBlock' setters
  | .economicBurnRate _ :: setters => lastFlag shouldBlock setters

/-- The rate that was set last. -/
def lastRate (rate : Nat) : List Setter → Nat
  | [] => rate
  | .isBlocked _ :: setters => lastRate rate setters
  | .economicBurnRate rate' :: setters => lastRate rate'.value setters

def flagValue (shouldBlock : Bool) : BitVec 32 := if shouldBlock then FLAG_IS_BLOCKED_MASK else 0#32

/-- The word that holds a flag and a rate, and nothing else. -/
def packed (shouldBlock : Bool) (rate : Nat) : BitVec 32 :=
  putField FLAG_IS_BLOCKED_MASK
    (putField ECONOMIC_BURN_RATE_MASK 0#32 (BitVec.ofNat 32 rate)) (flagValue shouldBlock)

theorem getLsbD_flagMask (i : Nat) : FLAG_IS_BLOCKED_MASK.getLsbD i = decide (i = 31) := by
  rw [FLAG_IS_BLOCKED_MASK, ← BitVec.twoPow_eq, BitVec.getLsbD_twoPow, FLAG_IS_BLOCKED_BIT]
  by_cases hi : i = 31 <;> simp [hi, eq_comm]

theorem getLsbD_rateMask (i : Nat) : ECONOMIC_BURN_RATE_MASK.getLsbD i = decide (i < 30) := by
  have hmask : ECONOMIC_BURN_RATE_MASK.toNat = 2 ^ 30 - 1 := rfl
  rw [BitVec.getLsbD, hmask, Nat.testBit_two_pow_sub_one]

theorem disjoint_masks : DisjointMasks FLAG_IS_BLOCKED_MASK ECONOMIC_BURN_RATE_MASK := by
  intro i hi
  rw [getLsbD_flagMask, decide_eq_true_eq] at hi
  rw [hi, getLsbD_rateMask]
  rfl

theorem within_flag (shouldBlock : Bool) :
    Within FLAG_IS_BLOCKED_MASK (flagValue shouldBlock) := by
  intro i hi
  cases shouldBlock with
  | false => simp [flagValue] at hi
  | true => exact hi

theorem within_rate {rate : Nat} (h : rate ≤ 1000000000) :
    Within ECONOMIC_BURN_RATE_MASK (BitVec.ofNat 32 rate) := by
  intro i hi
  rw [getLsbD_rateMask, decide_eq_true_eq]
  by_contra hge
  have hlt : rate < 2 ^ i := (Nat.lt_of_le_of_lt h (by decide)).trans_le
    (Nat.pow_le_pow_right Nat.two_pos (Nat.le_of_not_lt hge))
  rw [BitVec.getLsbD_ofNat, Nat.testBit_lt_two_pow hlt, Bool.and_false] at hi
  cases hi

theorem setIsBlocked_eq (share : RewardShare) (shouldBlock : Bool) :
    share.setIsBlocked shouldBlock = { share with
      remaining := putField FLAG_IS_BLOCKED_MASK share.remaining (flagValue shouldBlock) } := by
  have hword : (if shouldBlock then share.remaining ||| FLAG_IS_BLOCKED_MASK
      else share.remaining &&& ~~~FLAG_IS_BLOCKED_MASK) =
      putField FLAG_IS_BLOCKED_MASK share.remaining (flagValue shouldBlock) := by
    apply BitVec.eq_of_getLsbD_eq
    intro i hi
    rw [getLsbD_putField]
    cases shouldBlock with
    | false => simp [flagValue, hi]
    | true =>
      simp only [flagValue, if_true, BitVec.getLsbD_or]
      cases share.remaining.getLsbD i <;> cases FLAG_IS_BLOCKED_MASK.getLsbD i <;> rfl
  rw [setIsBlocked, hword]

theorem new_eq_packed : new key unitShare shouldBlock economicBurnRate = some share ↔
    unitShare.toNat ≤ 1000000000 ∧ economicBurnRate.toNat ≤ 1000000000 ∧
      share = ⟨key, unitShare, packed shouldBlock economicBurnRate.toNat⟩ := by
  simp only [new, UnitShare.new, Option.bind_eq_bind, Option.pure_def]
  by_cases hunit : unitShare.toNat ≤ 1000000000
  · by_cases hrate : economicBurnRate.toNat ≤ 1000000000
    · have hword : (if shouldBlock then
          BitVec.ofNat 32 economicBurnRate.toNat ||| FLAG_IS_BLOCKED_MASK
          else BitVec.ofNat 32 economicBurnRate.toNat) =
          packed shouldBlock economicBurnRate.toNat := by
        apply BitVec.eq_of_getLsbD_eq
        intro i hi
        have hwithin := within_rate hrate i
        have hdisjoint := disjoint_masks i
        rw [packed, getLsbD_putField, getLsbD_putField]
        cases shouldBlock with
        | false => simp only [flagValue, Bool.false_eq_true, if_false, BitVec.getLsbD_zero]; grind
        | true => simp only [flagValue, if_true, BitVec.getLsbD_or, BitVec.getLsbD_zero]; grind
      simp only [hunit, hrate, ↓reduceDIte, Option.bind_some, UInt32.ofNat_toNat, hword,
        Option.some.injEq, true_and, eq_comm]
    · simp [hunit, hrate]
  · simp [hunit]

variable {rate : Nat}

theorem isBlocked_packed : (packed shouldBlock rate &&& FLAG_IS_BLOCKED_MASK != 0#32) =
    shouldBlock := by
  rw [packed, putField_and (within_flag shouldBlock)]
  cases shouldBlock <;> decide

theorem economicBurnRate_packed (h : rate ≤ 1000000000) :
    (packed shouldBlock rate &&& ECONOMIC_BURN_RATE_MASK).toNat = rate := by
  rw [packed, putField_and_of_disjoint (within_flag shouldBlock) disjoint_masks,
    putField_and (within_rate h), BitVec.toNat_ofNat]
  exact Nat.mod_eq_of_lt (h.trans_lt (by decide))

theorem packed_setFlag (shouldBlock' : Bool) :
    putField FLAG_IS_BLOCKED_MASK (packed shouldBlock rate) (flagValue shouldBlock') =
      packed shouldBlock' rate :=
  putField_putField (within_flag shouldBlock)

theorem packed_setRate (h : rate ≤ 1000000000) {rate' : Nat} (h' : rate' ≤ 1000000000) :
    putField ECONOMIC_BURN_RATE_MASK (packed shouldBlock rate) (BitVec.ofNat 32 rate') =
      packed shouldBlock rate' := by
  rw [packed, ← putField_comm (within_flag shouldBlock) (within_rate h') disjoint_masks,
    putField_putField (within_rate h), packed]

theorem lastRate_le (h : rate ≤ 1000000000) (setters : List Setter) :
    lastRate rate setters ≤ 1000000000 := by
  induction setters generalizing rate with
  | nil => exact h
  | cons setter setters ih =>
    cases setter with
    | isBlocked => exact ih h
    | economicBurnRate rate' => exact ih rate'.le_max

/-- Setters keep a leaf packed. -/
theorem applySetters_packed (h : rate ≤ 1000000000) (setters : List Setter) :
    applySetters ⟨key, unitShare, packed shouldBlock rate⟩ setters =
      ⟨key, unitShare, packed (lastFlag shouldBlock setters) (lastRate rate setters)⟩ := by
  induction setters generalizing shouldBlock rate with
  | nil => rfl
  | cons setter setters ih =>
    cases setter with
    | isBlocked shouldBlock' =>
      have hset : setIsBlocked ⟨key, unitShare, packed shouldBlock rate⟩ shouldBlock' =
          ⟨key, unitShare, packed shouldBlock' rate⟩ := by
        rw [setIsBlocked_eq, packed_setFlag]
      rw [applySetters, List.foldl_cons, Setter.apply, hset]
      exact ih h
    | economicBurnRate rate' =>
      have hset : setEconomicBurnRate ⟨key, unitShare, packed shouldBlock rate⟩ rate' =
          ⟨key, unitShare, packed shouldBlock rate'.value⟩ :=
        congrArg (RewardShare.mk key unitShare) (packed_setRate h rate'.le_max)
      rw [applySetters, List.foldl_cons, Setter.apply, hset]
      exact ih rate'.le_max

end RewardShare

/-- After any calls of its setters a leaf is the one that `RewardShare::new` packs from the values
set last, these are read back from it, and it is no other leaf. -/
theorem rewardShare_setters {key : Pubkey} {unitShare economicBurnRate : UInt32}
    {shouldBlock : Bool} {share : RewardShare} (setters : List RewardShare.Setter)
    (hnew : RewardShare.new key unitShare shouldBlock economicBurnRate = some share) :
    (share.applySetters setters).isBlocked = RewardShare.lastFlag shouldBlock setters ∧
      (share.applySetters setters).checkedEconomicBurnRate.map UnitShare.value =
        some (RewardShare.lastRate economicBurnRate.toNat setters) ∧
      (share.applySetters setters).checkedUnitShare.map UnitShare.value = some unitShare.toNat ∧
      (share.applySetters setters).contributorKey = key ∧
      RewardShare.new key unitShare (RewardShare.lastFlag shouldBlock setters)
        (UInt32.ofNat (RewardShare.lastRate economicBurnRate.toNat setters)) =
        some (share.applySetters setters) ∧
      ∀ {key' : Pubkey} {unitShare' economicBurnRate' : UInt32} {shouldBlock' : Bool}
        {share' : RewardShare} (setters' : List RewardShare.Setter),
        RewardShare.new key' unitShare' shouldBlock' economicBurnRate' = some share' →
        share.applySetters setters = share'.applySetters setters' →
        key = key' ∧ unitShare = unitShare' ∧
          RewardShare.lastFlag shouldBlock setters = RewardShare.lastFlag shouldBlock' setters' ∧
          RewardShare.lastRate economicBurnRate.toNat setters =
            RewardShare.lastRate economicBurnRate'.toNat setters' := by
  obtain ⟨hunit, hrate, rfl⟩ := RewardShare.new_eq_packed.1 hnew
  have hlast := RewardShare.lastRate_le hrate setters
  rw [RewardShare.applySetters_packed hrate]
  refine ⟨RewardShare.isBlocked_packed, ?_, ?_, rfl, ?_, ?_⟩
  · rw [RewardShare.checkedEconomicBurnRate, RewardShare.economicBurnRate,
      RewardShare.economicBurnRate_packed hlast, UnitShare.new, dif_pos hlast]
    rfl
  · rw [RewardShare.checkedUnitShare, UnitShare.new, dif_pos hunit]
    rfl
  · have hword : (UInt32.ofNat (RewardShare.lastRate economicBurnRate.toNat setters)).toNat =
        RewardShare.lastRate economicBurnRate.toNat setters :=
      UInt32.toNat_ofNat_of_lt' (hlast.trans_lt (by decide))
    exact RewardShare.new_eq_packed.2 ⟨hunit, hword.symm ▸ hlast, by rw [hword]⟩
  · intro key' unitShare' economicBurnRate' shouldBlock' share' setters' hnew' heq
    obtain ⟨-, hrate', rfl⟩ := RewardShare.new_eq_packed.1 hnew'
    rw [RewardShare.applySetters_packed hrate', RewardShare.mk.injEq] at heq
    obtain ⟨hkey, hunits, hwords⟩ := heq
    have hlast' := RewardShare.lastRate_le hrate' setters'
    refine ⟨hkey, hunits, ?_, ?_⟩
    · have hflags := congrArg (fun word => word &&& RewardShare.FLAG_IS_BLOCKED_MASK != 0#32) hwords
      simpa only [RewardShare.isBlocked_packed] using hflags
    · rw [← RewardShare.economicBurnRate_packed hlast, hwords,
        RewardShare.economicBurnRate_packed hlast']

theorem rewardShare_setters_unblocked :
    ∃ share, RewardShare.new ⟨1⟩ 500000000 true 100000000 = some share ∧
      (share.applySetters [.isBlocked false, .economicBurnRate ⟨200000000, by decide⟩]).isBlocked =
        false ∧
      RewardShare.new ⟨1⟩ 500000000 false 200000000 =
        some (share.applySetters [.isBlocked false, .economicBurnRate ⟨200000000, by decide⟩]) := by
  have hnew : RewardShare.new ⟨1⟩ 500000000 true 100000000 =
      some ⟨⟨1⟩, 500000000, 0x85F5E100#32⟩ := by decide
  obtain ⟨hblocked, -, -, -, hpacked, -⟩ := rewardShare_setters
    [.isBlocked false, .economicBurnRate ⟨200000000, by decide⟩] hnew
  exact ⟨_, hnew, hblocked, hpacked⟩

end DoubleZero.Revenue
