import DoubleZero.Lib.Bits
import DoubleZero.Lib.Word
import DoubleZero.Solana.Account

/-!
# Types of the revenue distribution program

`types.rs`: unit shares, DoubleZero epochs and the two kinds of Merkle leaves. A unit share keeps
its bound as a field: the inner integer is private to the Rust type and every constructor checks it.

Merkle proofs come from `svm_hash`. The root that a proof and a leaf lead to is a parameter of the
model; what the program relies on is `LeafUnique`.
-/

namespace DoubleZero.Revenue

open DoubleZero.Lib DoubleZero.Solana

/-! ## Unit shares -/

/-- `UnitShare16` and `UnitShare32`: a share of `max`. -/
structure UnitShare (max : Nat) where
  value : Nat
  le_max : value ≤ max
  deriving DecidableEq, Repr

abbrev UnitShare16 := UnitShare 10000
abbrev UnitShare32 := UnitShare 1000000000
abbrev ValidatorFee := UnitShare16
abbrev BurnRate := UnitShare32

namespace UnitShare

variable {m : Nat}

def MIN : UnitShare m := ⟨0, Nat.zero_le m⟩

def MAX : UnitShare m := ⟨m, le_rfl⟩

instance : Inhabited (UnitShare m) := ⟨MIN⟩

def new (value : Nat) : Option (UnitShare m) :=
  if h : value ≤ m then some ⟨value, h⟩ else none

/-- `mul_scalar`. The product is computed in 128 bits and never saturates, and the quotient is at
most `x`, so the conversion back never panics (`toNat_mulScalar`). -/
def mulScalar (share : UnitShare m) (x : UInt64) : UInt64 :=
  UInt64.ofNat (share.value * x.toNat / m)

/-- `checked_add`. Two shares never overflow the inner integer. -/
def checkedAdd (a b : UnitShare m) : Option (UnitShare m) := new (a.value + b.value)

def saturatingSub (a b : UnitShare m) : UnitShare m :=
  ⟨a.value - b.value, (Nat.sub_le _ _).trans a.le_max⟩

def max (a b : UnitShare m) : UnitShare m := if a.value ≤ b.value then b else a

def min (a b : UnitShare m) : UnitShare m := if a.value ≤ b.value then a else b

theorem value_injective {a b : UnitShare m} (h : a.value = b.value) : a = b := by
  cases a; cases b; cases h; rfl

theorem new_eq_some {v : Nat} {a : UnitShare m} : new v = some a ↔ a.value = v := by
  unfold new
  split
  · next h =>
    rw [Option.some.injEq]
    constructor
    · rintro rfl; rfl
    · intro hv; exact value_injective hv.symm
  · next h =>
    simp only [reduceCtorEq, false_iff]
    intro hv
    exact h (hv ▸ a.le_max)

theorem mul_div_le (share : UnitShare m) (n : Nat) : share.value * n / m ≤ n := by
  rcases Nat.eq_zero_or_pos m with hm | hm
  · subst hm; simp
  · calc share.value * n / m ≤ m * n / m :=
        Nat.div_le_div_right (Nat.mul_le_mul_right n share.le_max)
      _ = n := Nat.mul_div_cancel_left n hm

theorem toNat_mulScalar (share : UnitShare m) (x : UInt64) :
    (share.mulScalar x).toNat = share.value * x.toNat / m := by
  have h : share.value * x.toNat / m < 2 ^ 64 :=
    (share.mul_div_le x.toNat).trans_lt x.toNat_lt
  exact UInt64.toNat_ofNat_of_lt h

theorem mulScalar_le (share : UnitShare m) (x : UInt64) : share.mulScalar x ≤ x := by
  rw [UInt64.le_iff_toNat_le, toNat_mulScalar]
  exact share.mul_div_le x.toNat

end UnitShare

/-! ## Epochs -/

abbrev DoubleZeroEpoch := UInt64

abbrev EpochDuration := UInt32

/-- `saturating_add_duration`. -/
def DoubleZeroEpoch.saturatingAddDuration (epoch : DoubleZeroEpoch) (duration : EpochDuration) :
    DoubleZeroEpoch :=
  saturatingAdd epoch duration.toUInt64

/-! ## Merkle leaves -/

/-- `SolanaValidatorDebt`. -/
structure SolanaValidatorDebt where
  nodeId : Pubkey
  amount : UInt64
  deriving DecidableEq, Repr

/-- `RewardShare`. The four remaining bytes are kept as the little-endian word they spell. -/
structure RewardShare where
  contributorKey : Pubkey
  unitShare : UInt32
  remaining : BitVec 32
  deriving DecidableEq, Repr

namespace RewardShare

def FLAG_IS_BLOCKED_BIT : Nat := 31
def FLAG_IS_BLOCKED_MASK : BitVec 32 := 1#32 <<< FLAG_IS_BLOCKED_BIT
def ECONOMIC_BURN_RATE_MASK : BitVec 32 := 0x3FFFFFFF#32

def new (contributorKey : Pubkey) (unitShare : UInt32) (shouldBlock : Bool)
    (economicBurnRate : UInt32) : Option RewardShare := do
  let unitShare' : UnitShare32 ← UnitShare.new unitShare.toNat
  let economicBurnRate : UnitShare32 ← UnitShare.new economicBurnRate.toNat
  let combined := BitVec.ofNat 32 economicBurnRate.value
  let combined := if shouldBlock then combined ||| FLAG_IS_BLOCKED_MASK else combined
  return ⟨contributorKey, UInt32.ofNat unitShare'.value, combined⟩

def checkedUnitShare (share : RewardShare) : Option UnitShare32 :=
  UnitShare.new share.unitShare.toNat

def isBlocked (share : RewardShare) : Bool :=
  (share.remaining &&& FLAG_IS_BLOCKED_MASK) != 0#32

def setIsBlocked (share : RewardShare) (shouldBlock : Bool) : RewardShare :=
  { share with
    remaining := if shouldBlock then share.remaining ||| FLAG_IS_BLOCKED_MASK
      else share.remaining &&& ~~~FLAG_IS_BLOCKED_MASK }

def economicBurnRate (share : RewardShare) : Nat :=
  (share.remaining &&& ECONOMIC_BURN_RATE_MASK).toNat

def checkedEconomicBurnRate (share : RewardShare) : Option UnitShare32 :=
  UnitShare.new share.economicBurnRate

def setEconomicBurnRate (share : RewardShare) (economicBurnRate : UnitShare32) : RewardShare :=
  { share with
    remaining := (share.remaining &&& ~~~ECONOMIC_BURN_RATE_MASK) |||
      BitVec.ofNat 32 economicBurnRate.value }

end RewardShare

/-- The two kinds of leaves; a constructor stands for the leaf prefix that is hashed with it. -/
inductive Leaf where
  | solanaValidatorDebt (debt : SolanaValidatorDebt)
  | rewardShare (share : RewardShare)
  deriving DecidableEq, Repr

/-- `svm_hash::sha2::Hash`; the default hash is all zeros. -/
structure Hash where
  val : Nat
  deriving DecidableEq, Repr

instance : Inhabited Hash := ⟨⟨0⟩⟩
instance : ToString Hash := ⟨fun hash => Base58.encode 32 hash.val⟩

/-- `svm_hash::merkle::MerkleProof`. -/
structure MerkleProof where
  leafIndex : Option UInt32
  siblings : List Hash
  deriving DecidableEq, Repr

/-- For a given root, prefix and leaf index at most one leaf value verifies. -/
structure LeafUnique (rootFromPodLeaf : MerkleProof → Leaf → Hash) : Prop where
  debt : ∀ {p p' i d d'}, p.leafIndex = some i → p'.leafIndex = some i →
    rootFromPodLeaf p (.solanaValidatorDebt d) = rootFromPodLeaf p' (.solanaValidatorDebt d') →
    d = d'
  reward : ∀ {p p' i r r'}, p.leafIndex = some i → p'.leafIndex = some i →
    rootFromPodLeaf p (.rewardShare r) = rootFromPodLeaf p' (.rewardShare r') → r = r'

end DoubleZero.Revenue
