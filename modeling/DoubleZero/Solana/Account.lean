import DoubleZero.Lib.Base58
import Mathlib.Tactic

/-!
# Accounts, addresses and the ledger

The part of the Solana account model the programs of this repository rely on. The ledger maps every
address to an account: lamports, owner, an executable mark and data. An address nobody has used
holds no lamports and no data and belongs to the System program.

Data is kept in the form in which the programs read it: as a value of one of the program's own
zero-copy types behind its discriminator, followed by whatever bytes come after it, or as an SPL
token account, or as the loader's program data. `D` is the sum of the program's own types.

Three things come from outside the repository and are parameters: program-derived addresses
(`AddressScheme`), the rent schedule (`Rent`), and, where a program uses it, the hash.
-/

namespace DoubleZero.Solana

/-- A 32-byte key, as the number it spells. -/
structure Pubkey where
  val : Nat
  deriving DecidableEq, Repr, Inhabited

instance : ToString Pubkey := ⟨fun key => Lib.Base58.encode 32 key.val⟩

theorem Pubkey.toString_injective : Function.Injective (toString : Pubkey → String) := by
  rintro ⟨m⟩ ⟨n⟩ h
  exact congrArg Pubkey.mk (Lib.Base58.encode_inj.1 h)

theorem Pubkey.toString_ne_empty (key : Pubkey) : toString key ≠ "" :=
  Lib.Base58.encode_ne_empty (by decide)

theorem Pubkey.notMem_toString {c : Char} (hc : c ∉ Lib.Base58.alphabet) (key : Pubkey) :
    c ∉ (toString key).toList :=
  fun h => hc (Lib.Base58.mem_alphabet h)

/-- The System program, whose key is all zeros, as is `Pubkey::default()`. -/
def systemProgramId : Pubkey := ⟨0⟩

/-- `TokenkegQfeZyiNwAJbNbGKPFXCWuBvf9Ss623VQ5DA`. -/
def tokenProgramId : Pubkey :=
  ⟨0x6ddf6e1d765a193d9cbe146ceeb79ac1cb485ed5f5b37913a8cf5857eff00a9⟩

/-- `ATokenGPvbdGVxr1b2hvZbsiqW5xWH25efTNsLJA8knL`. -/
def associatedTokenProgramId : Pubkey :=
  ⟨0x8c97258f4e2489f1bb3d1029148e0d830b5a1399daff1084048e7bd8dbe9f859⟩

/-! ## Program-derived addresses -/

/-- One seed of a program-derived address. -/
inductive Seed where
  | bytes (text : String)
  | key (k : Pubkey)
  | le64 (n : UInt64)
  deriving DecidableEq, Repr

/-- `Pubkey::find_program_address` and `Pubkey::create_program_address`. The address found for some
seeds is the one created from them with the bump that was found, and different seeds or programs
never lead to one address. -/
structure AddressScheme where
  findProgramAddress : List Seed → Pubkey → Pubkey × UInt8
  createProgramAddress : List Seed → UInt8 → Pubkey → Option Pubkey
  create_find : ∀ seeds programId,
    createProgramAddress seeds (findProgramAddress seeds programId).2 programId =
      some (findProgramAddress seeds programId).1
  find_injective : ∀ {seeds seeds' programId programId'},
    (findProgramAddress seeds programId).1 = (findProgramAddress seeds' programId').1 →
      seeds = seeds' ∧ programId = programId'

/-- `get_associated_token_address`. -/
def AddressScheme.getAssociatedTokenAddress (scheme : AddressScheme) (wallet mint : Pubkey) :
    Pubkey :=
  (scheme.findProgramAddress [.key wallet, .key tokenProgramId, .key mint]
    associatedTokenProgramId).1

/-! ## Rent -/

/-- The rent sysvar: the lamports an account needs by the length of its data, as a `u64`. Longer
data never needs less, and no account is exempt with no lamports at all. -/
structure Rent where
  minimumBalance : Nat → Nat
  monotone : Monotone minimumBalance
  pos : ∀ len, 0 < minimumBalance len
  fits : ∀ len, minimumBalance len < 2 ^ 64

/-! ## Accounts -/

/-- The fields of an SPL token account that transfers and burns read. -/
structure TokenAccount where
  mint : Pubkey
  owner : Pubkey
  amount : UInt64
  deriving DecidableEq, Repr

/-- The data of an account. -/
inductive AccountData (D : Type) where
  /-- Zeroed bytes, as allocation leaves them; `zeroed 0` is no data at all. -/
  | zeroed (len : Nat)
  /-- A discriminator, the value behind it, and the bytes after the value. -/
  | zeroCopy (data : D) (remainingData : List (BitVec 8))
  | token (account : TokenAccount)
  /-- The upgradeable loader's program data, with its upgrade authority. -/
  | programData (upgradeAuthority : Option Pubkey)
  /-- Anything else. -/
  | other (len : Nat)

structure Account (D : Type) where
  lamports : Nat
  owner : Pubkey
  executable : Bool
  data : AccountData D

/-- An address nobody has used. -/
def Account.unused {D : Type} : Account D := ⟨0, systemProgramId, false, .zeroed 0⟩

abbrev Ledger (D : Type) := Pubkey → Account D

/-- A discriminator and the value behind it: `zero_copy::data_end`. -/
def DISCRIMINATOR_LEN : Nat := 8

/-- `spl_token_interface::state::Account::LEN`. -/
def TOKEN_ACCOUNT_LEN : Nat := 165

/-- `MAX_PERMITTED_DATA_INCREASE`: how far one instruction may grow an account. -/
def MAX_PERMITTED_DATA_INCREASE : Nat := 10240

/-- `MAX_PERMITTED_DATA_LENGTH`: how long account data may be at all. -/
def MAX_PERMITTED_DATA_LENGTH : Nat := 10 * 1024 * 1024

/-! ## Zero-copy types -/

/-- `T` is one of the zero-copy types of the program whose types are `D`: its discriminator's name,
its size, and how a value of it is recognised. -/
class ZeroCopy (D : Type) (T : Type) where
  discriminator : String
  size : Nat
  wrap : T → D
  unwrap : D → Option T
  unwrap_eq_some : ∀ {d t}, unwrap d = some t ↔ d = wrap t

export ZeroCopy (wrap unwrap)

/-- `zero_copy::data_end::<T>()`. -/
def dataEnd (D T : Type) [ZeroCopy D T] : Nat := DISCRIMINATOR_LEN + ZeroCopy.size D T

/-- The length of a value of the sum of a program's types, with its discriminator. -/
class ZeroCopySum (D : Type) where
  len : D → Nat

namespace AccountData

variable {D : Type} [ZeroCopySum D]

/-- `AccountInfo::data_len`. -/
def dataLen : AccountData D → Nat
  | .zeroed len => len
  | .zeroCopy data remainingData => ZeroCopySum.len data + remainingData.length
  | .token _ => TOKEN_ACCOUNT_LEN
  | .programData _ => 45
  | .other len => len

end AccountData

/-! ## Writing to the ledger -/

namespace Ledger

variable {D : Type}

/-- Replaces the account at `k`. -/
def set (L : Ledger D) (k : Pubkey) (a : Account D) : Ledger D :=
  fun k' => if k' = k then a else L k'

/-- Replaces the data of the account at `k`. -/
def write (L : Ledger D) (k : Pubkey) (data : AccountData D) : Ledger D :=
  L.set k { L k with data := data }

/-- Adds lamports to the account at `k`. -/
def credit (L : Ledger D) (k : Pubkey) (lamports : Nat) : Ledger D :=
  L.set k { L k with lamports := (L k).lamports + lamports }

/-- Takes lamports from the account at `k`. -/
def debit (L : Ledger D) (k : Pubkey) (lamports : Nat) : Ledger D :=
  L.set k { L k with lamports := (L k).lamports - lamports }

theorem set_apply (L : Ledger D) (k k' : Pubkey) (a : Account D) :
    L.set k a k' = if k' = k then a else L k' := rfl

@[simp] theorem set_self (L : Ledger D) (k : Pubkey) (a : Account D) : L.set k a k = a := by
  simp [set]

theorem set_of_ne (L : Ledger D) {k k' : Pubkey} (a : Account D) (h : k' ≠ k) :
    L.set k a k' = L k' := by
  simp [set, h]

theorem write_data (L : Ledger D) (k k' : Pubkey) (data : AccountData D) :
    (L.write k data k').data = if k' = k then data else (L k').data := by
  unfold write set
  split <;> rfl

@[simp] theorem write_data_self (L : Ledger D) (k : Pubkey) (data : AccountData D) :
    (L.write k data k).data = data := by
  simp [write_data]

@[simp] theorem write_write (L : Ledger D) (k : Pubkey) (data data' : AccountData D) :
    (L.write k data).write k data' = L.write k data' := by
  funext k'
  by_cases h : k' = k
  · subst h; simp [write]
  · simp [write, set_of_ne _ _ h]

theorem write_set (L : Ledger D) (k : Pubkey) (a : Account D) (data : AccountData D) :
    (L.set k a).write k data = L.set k { a with data := data } := by
  funext k'
  by_cases h : k' = k
  · subst h
    simp [write]
  · simp [write, set_of_ne _ _ h]

@[simp] theorem write_lamports (L : Ledger D) (k k' : Pubkey) (data : AccountData D) :
    (L.write k data k').lamports = (L k').lamports := by
  unfold write set
  split
  · next h => subst h; rfl
  · rfl

@[simp] theorem write_owner (L : Ledger D) (k k' : Pubkey) (data : AccountData D) :
    (L.write k data k').owner = (L k').owner := by
  unfold write set
  split
  · next h => subst h; rfl
  · rfl

theorem credit_lamports (L : Ledger D) (k k' : Pubkey) (n : Nat) :
    (L.credit k n k').lamports = (L k').lamports + if k' = k then n else 0 := by
  unfold credit set
  split
  · next h => subst h; rfl
  · rfl

theorem debit_lamports (L : Ledger D) (k k' : Pubkey) (n : Nat) :
    (L.debit k n k').lamports = (L k').lamports - if k' = k then n else 0 := by
  unfold debit set
  split
  · next h => subst h; rfl
  · rfl

@[simp] theorem credit_data (L : Ledger D) (k k' : Pubkey) (n : Nat) :
    (L.credit k n k').data = (L k').data := by
  unfold credit set
  split
  · next h => subst h; rfl
  · rfl

@[simp] theorem credit_owner (L : Ledger D) (k k' : Pubkey) (n : Nat) :
    (L.credit k n k').owner = (L k').owner := by
  unfold credit set
  split
  · next h => subst h; rfl
  · rfl

@[simp] theorem debit_data (L : Ledger D) (k k' : Pubkey) (n : Nat) :
    (L.debit k n k').data = (L k').data := by
  unfold debit set
  split
  · next h => subst h; rfl
  · rfl

@[simp] theorem debit_owner (L : Ledger D) (k k' : Pubkey) (n : Nat) :
    (L.debit k n k').owner = (L k').owner := by
  unfold debit set
  split
  · next h => subst h; rfl
  · rfl

end Ledger

end DoubleZero.Solana
