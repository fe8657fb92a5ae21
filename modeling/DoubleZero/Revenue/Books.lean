import DoubleZero.Revenue.Step

/-!
# The books

What the ledger says about the program, account by account. An account of the program has an
identity, the one stored in it, and the identity has an address. `Books` has one entry for each
identity, plus the lamports and the token accounts of the whole ledger; `books` reads them off a
ledger, and each way of writing to the ledger is an update of the books.

`Canonical` is why nothing is lost on the way: every account of the program sits at the address of
its identity.
-/

namespace DoubleZero.Revenue

open DoubleZero.Lib DoubleZero.Solana

/-! ## Identities and addresses -/

/-- The accounts the program can have. -/
inductive Identity where
  | config
  | journal
  | distribution (dzEpoch : DoubleZeroEpoch)
  | contributor (serviceKey : Pubkey)
  | deposit (nodeId : Pubkey)
  | integration (programId : Pubkey)
  deriving DecidableEq

/-- The identity stored in an account. -/
def AccountState.identity : AccountState → Identity
  | .programConfig _ => .config
  | .journal _ => .journal
  | .distribution d => .distribution d.dzEpoch
  | .contributorRewards c => .contributor c.serviceKey
  | .solanaValidatorDeposit d => .deposit d.nodeId
  | .rewardsIntegration i => .integration i.programId

namespace Identity

def seeds : Identity → List Seed
  | .config => ProgramConfig.seeds
  | .journal => Journal.seeds
  | .distribution e => Distribution.seeds e
  | .contributor k => ContributorRewards.seeds k
  | .deposit k => SolanaValidatorDeposit.seeds k
  | .integration k => RewardsIntegration.seeds k

theorem seeds_injective {i j : Identity} (h : i.seeds = j.seeds) : i = j := by
  cases i <;> cases j <;>
    simp_all [seeds, ProgramConfig.seeds, Journal.seeds, Distribution.seeds,
      ContributorRewards.seeds, SolanaValidatorDeposit.seeds, RewardsIntegration.seeds]

/-- The address of an identity. -/
def key (rt : Runtime) (i : Identity) : Pubkey := (rt.find i.seeds).1

end Identity

namespace Runtime

variable (rt : Runtime)

def journalKey : Pubkey := (rt.find Journal.seeds).1
def distributionKey (dzEpoch : DoubleZeroEpoch) : Pubkey := (rt.find (Distribution.seeds dzEpoch)).1
def depositKey (nodeId : Pubkey) : Pubkey := (rt.find (SolanaValidatorDeposit.seeds nodeId)).1

/-- The 2Z token account of a distribution. -/
def poolKey (dzEpoch : DoubleZeroEpoch) : Pubkey :=
  (rt.find2zTokenPdaAddress (rt.distributionKey dzEpoch)).1

/-- The token account that receives the 2Z swapped for SOL. -/
def swapDestinationKey : Pubkey := (rt.find2zTokenPdaAddress rt.findSwapAuthorityAddress.1).1

variable {rt}

theorem find_inj {seeds seeds' : List Seed} :
    (rt.find seeds).1 = (rt.find seeds').1 ↔ seeds = seeds' := by
  constructor
  · intro h
    exact (rt.scheme.find_injective h).1
  · rintro rfl
    rfl

theorem create_find (seeds : List Seed) :
    rt.create seeds (rt.find seeds).2 = some (rt.find seeds).1 :=
  rt.scheme.create_find seeds ID

theorem derived_find (seeds : List Seed) : Derived rt (rt.find seeds).1 :=
  ⟨seeds, (rt.find seeds).2, create_find seeds⟩

/-- An associated token account is never at an address of this program. -/
theorem find_ne_ata (seeds : List Seed) (wallet mint : Pubkey) :
    (rt.find seeds).1 ≠ rt.scheme.getAssociatedTokenAddress wallet mint := by
  intro h
  exact absurd (rt.scheme.find_injective h).2 (by decide)

theorem distributionKey_inj {e e' : DoubleZeroEpoch} :
    rt.distributionKey e = rt.distributionKey e' ↔ e = e' := by
  simp [distributionKey, find_inj, Distribution.seeds]

@[simp] theorem poolKey_inj {e e' : DoubleZeroEpoch} : rt.poolKey e = rt.poolKey e' ↔ e = e' := by
  simp [poolKey, distributionKey, find2zTokenPdaAddress, find_inj, token2zPdaSeeds,
    Distribution.seeds]

end Runtime

namespace Identity

variable {rt : Runtime}

@[simp] theorem key_inj {i j : Identity} : i.key rt = j.key rt ↔ i = j := by
  constructor
  · intro h
    exact seeds_injective (Runtime.find_inj.1 h)
  · rintro rfl
    rfl

/-- No account of the program is at the address of a 2Z token account. -/
theorem key_ne_token (i : Identity) (tokenOwner : Pubkey) :
    i.key rt ≠ (rt.find2zTokenPdaAddress tokenOwner).1 := by
  intro h
  have hs : i.seeds = token2zPdaSeeds tokenOwner := Runtime.find_inj.1 h
  cases i <;>
    simp [seeds, token2zPdaSeeds, ProgramConfig.seeds, Journal.seeds, Distribution.seeds,
      ContributorRewards.seeds, SolanaValidatorDeposit.seeds, RewardsIntegration.seeds] at hs

end Identity

/-! ## Reading a ledger -/

/-- The account of the program at `k`. -/
def stateAt (L : RevenueLedger) (k : Pubkey) : Option (AccountState × List (BitVec 8)) :=
  match (L k).data with
  | .zeroCopy data remainingData => if (L k).owner = ID then some (data, remainingData) else none
  | _ => none

theorem stateAt_eq_some {L : RevenueLedger} {k : Pubkey} {s : AccountState}
    {rem : List (BitVec 8)} :
    stateAt L k = some (s, rem) ↔ (L k).owner = ID ∧ (L k).data = .zeroCopy s rem := by
  unfold stateAt
  split
  · next data rem' hd =>
    rw [hd]
    by_cases ho : (L k).owner = ID
    · simp [ho]
    · simp [ho]
  · next hne =>
    simp only [reduceCtorEq, false_iff, not_and]
    intro _ hd
    exact hne _ _ hd

theorem view_eq_stateAt {T : Type} [ZeroCopy AccountState T] {L : RevenueLedger} {k : Pubkey}
    {t : T} {rem : List (BitVec 8)} :
    view ID L k = some (t, rem) ↔ stateAt L k = some (wrap t, rem) := by
  rw [view_eq_some, stateAt_eq_some]

theorem stateAt_congr {L L' : RevenueLedger} {k : Pubkey} (ho : (L' k).owner = (L k).owner)
    (hd : (L' k).data = (L k).data) : stateAt L' k = stateAt L k := by
  unfold stateAt
  rw [ho, hd]

theorem stateAt_none_of_owner {L : RevenueLedger} {k : Pubkey} (ho : (L k).owner ≠ ID) :
    stateAt L k = none := by
  cases h : stateAt L k with
  | none => rfl
  | some p => exact absurd (stateAt_eq_some.1 h).1 ho

theorem stateAt_none_of_zeroed {L : RevenueLedger} {k : Pubkey} {len : Nat}
    (hd : (L k).data = .zeroed len) : stateAt L k = none := by
  unfold stateAt
  rw [hd]

theorem unpack_congr {L L' : RevenueLedger} {k : Pubkey} (ho : (L' k).owner = (L k).owner)
    (hd : (L' k).data = (L k).data) : Token.unpack L' k = Token.unpack L k := by
  unfold Token.unpack
  rw [ho, hd]

theorem unpack_none_of_owner {L : RevenueLedger} {k : Pubkey} (ho : (L k).owner ≠ tokenProgramId) :
    Token.unpack L k = none := by
  cases h : Token.unpack L k with
  | none => rfl
  | some a => exact absurd (Token.unpack_eq_some.1 h).1 ho

/-! ## The books of a ledger -/

/-- One entry for each account of the program, and the lamports and tokens of everyone. -/
@[ext] structure Books where
  entry : Identity → Option (AccountState × List (BitVec 8))
  lamports : Pubkey → Nat
  tokens : Pubkey → Option TokenAccount

def books (rt : Runtime) (L : RevenueLedger) : Books where
  entry i := stateAt L (i.key rt)
  lamports k := (L k).lamports
  tokens := Token.unpack L

namespace Books

/-- Replaces the entry of one identity. -/
def set (b : Books) (i : Identity) (s : AccountState) (rem : List (BitVec 8)) : Books :=
  { b with entry := Function.update b.entry i (some (s, rem)) }

def addLamports (b : Books) (k : Pubkey) (n : Nat) : Books :=
  { b with lamports := fun k' => b.lamports k' + if k' = k then n else 0 }

def subLamports (b : Books) (k : Pubkey) (n : Nat) : Books :=
  { b with lamports := fun k' => b.lamports k' - if k' = k then n else 0 }

def setToken (b : Books) (k : Pubkey) (a : TokenAccount) : Books :=
  { b with tokens := Function.update b.tokens k (some a) }

variable (b : Books) (i j : Identity) (s : AccountState) (rem : List (BitVec 8)) (k : Pubkey)
  (n : Nat) (a : TokenAccount)

@[simp] theorem set_entry_self : (b.set i s rem).entry i = some (s, rem) := by
  simp [set]

theorem set_entry_of_ne {i j : Identity} (h : j ≠ i) : (b.set i s rem).entry j = b.entry j := by
  simp [set, h]

theorem set_entry : (b.set i s rem).entry j = if j = i then some (s, rem) else b.entry j := by
  by_cases h : j = i
  · subst h; simp
  · simp [h, set_entry_of_ne]

@[simp] theorem set_lamports : (b.set i s rem).lamports = b.lamports := rfl
@[simp] theorem set_tokens : (b.set i s rem).tokens = b.tokens := rfl
@[simp] theorem addLamports_entry : (b.addLamports k n).entry = b.entry := rfl
@[simp] theorem addLamports_tokens : (b.addLamports k n).tokens = b.tokens := rfl
@[simp] theorem subLamports_entry : (b.subLamports k n).entry = b.entry := rfl
@[simp] theorem subLamports_tokens : (b.subLamports k n).tokens = b.tokens := rfl
@[simp] theorem setToken_entry : (b.setToken k a).entry = b.entry := rfl
@[simp] theorem setToken_lamports : (b.setToken k a).lamports = b.lamports := rfl

theorem addLamports_lamports (k' : Pubkey) :
    (b.addLamports k n).lamports k' = b.lamports k' + if k' = k then n else 0 := rfl

theorem subLamports_lamports (k' : Pubkey) :
    (b.subLamports k n).lamports k' = b.lamports k' - if k' = k then n else 0 := rfl

theorem setToken_tokens (k' : Pubkey) :
    (b.setToken k a).tokens k' = if k' = k then some a else b.tokens k' := by
  by_cases h : k' = k
  · subst h; simp [setToken]
  · simp [setToken, h]

end Books

section Updates

variable {rt : Runtime} {L L' : RevenueLedger}

theorem stateAt_write (L : RevenueLedger) (k k' : Pubkey) (s : AccountState)
    (rem : List (BitVec 8)) (ho : (L k).owner = ID) :
    stateAt (L.write k (.zeroCopy s rem)) k' = if k' = k then some (s, rem) else stateAt L k' := by
  split
  · next h =>
    subst h
    exact stateAt_eq_some.2 ⟨by simpa using ho, by simp⟩
  · next h => exact stateAt_congr (by simp) (by simp [Ledger.write_data, h])

/-- Writing to an account of the program is an update of its entry. -/
theorem books_write {i : Identity} {s : AccountState} {rem : List (BitVec 8)}
    (ho : (L (i.key rt)).owner = ID) :
    books rt (L.write (i.key rt) (.zeroCopy s rem)) = (books rt L).set i s rem := by
  apply Books.ext
  · funext j
    rw [Books.set_entry]
    show stateAt _ (j.key rt) = _
    rw [stateAt_write _ _ _ _ _ ho]
    simp only [Identity.key_inj]
    rfl
  · funext k
    simp [books]
  · funext k
    show Token.unpack _ k = Token.unpack L k
    by_cases hk : k = i.key rt
    · subst hk
      have hne : ID ≠ tokenProgramId := by decide
      rw [unpack_none_of_owner (by simpa [ho] using hne),
        unpack_none_of_owner (by rw [ho]; exact hne)]
    · exact unpack_congr (by simp) (by simp [Ledger.write_data, hk])

theorem books_credit (k : Pubkey) (n : Nat) :
    books rt (L.credit k n) = (books rt L).addLamports k n := by
  apply Books.ext
  · funext j
    exact stateAt_congr (by simp) (by simp)
  · funext k'
    exact Ledger.credit_lamports L k k' n
  · funext k'
    exact unpack_congr (by simp) (by simp)

theorem books_debit (k : Pubkey) (n : Nat) :
    books rt (L.debit k n) = (books rt L).subLamports k n := by
  apply Books.ext
  · funext j
    exact stateAt_congr (by simp) (by simp)
  · funext k'
    exact Ledger.debit_lamports L k k' n
  · funext k'
    exact unpack_congr (by simp) (by simp)

/-- Writing to a token account is an update of that token account. -/
theorem books_writeToken {k : Pubkey} {a a' : TokenAccount} (h : Token.unpack L k = some a) :
    books rt (L.write k (.token a')) = (books rt L).setToken k a' := by
  obtain ⟨ho, hd⟩ := Token.unpack_eq_some.1 h
  apply Books.ext
  · funext j
    show stateAt _ (j.key rt) = stateAt L (j.key rt)
    by_cases hk : j.key rt = k
    · have hne : tokenProgramId ≠ ID := by decide
      rw [hk, stateAt_none_of_owner (by simpa [ho] using hne),
        stateAt_none_of_owner (by rw [ho]; exact hne)]
    · exact stateAt_congr (by simp) (by simp [Ledger.write_data, hk])
  · funext k'
    simp [books]
  · funext k'
    rw [Books.setToken_tokens]
    show Token.unpack _ k' = _
    split
    · next hk => subst hk; exact Token.unpack_eq_some.2 ⟨by simpa using ho, by simp⟩
    · next hk => exact unpack_congr (by simp) (by simp [Ledger.write_data, hk])

end Updates

end DoubleZero.Revenue
