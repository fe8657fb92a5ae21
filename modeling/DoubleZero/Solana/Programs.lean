import DoubleZero.Solana.Account

/-!
# The System and SPL Token programs

The instructions of the two native programs that are invoked from this repository, as functions on
the ledger: what they check, in their order, and what they change. `signers` are the keys that
signed the invocation, program-derived ones included.

A lamport or token amount that would leave the range of `u64` fails the invocation; the System
program and the SPL Token program both compute with checked arithmetic.
-/

namespace DoubleZero.Solana

/-- `SystemError`. -/
inductive SystemError where
  | accountAlreadyInUse
  | resultWithNegativeLamports
  | invalidAccountDataLength
  deriving DecidableEq, Repr

/-- `TokenError`. -/
inductive TokenError where
  | insufficientFunds
  | mintMismatch
  | ownerMismatch
  | overflow
  | alreadyInUse
  deriving DecidableEq, Repr

/-- `ProgramError`, with the errors of the native programs. -/
inductive ProgramError where
  | incorrectProgramId
  | invalidArgument
  | invalidInstructionData
  | invalidAccountData
  | invalidAccountOwner
  | invalidRealloc
  | invalidSeeds
  | accountDataTooSmall
  | arithmeticOverflow
  | missingRequiredSignature
  | notEnoughAccountKeys
  | externalAccountLamportSpend
  | unbalancedInstruction
  | system (e : SystemError)
  | token (e : TokenError)
  deriving DecidableEq, Repr

variable {D : Type} [ZeroCopySum D]

/-- Passes when the condition holds. -/
def check (c : Prop) [Decidable c] (e : ProgramError) : Except ProgramError Unit :=
  if c then .ok () else .error e

theorem check_eq_ok {c : Prop} [Decidable c] {e : ProgramError} {u : Unit} :
    check c e = .ok u ↔ c := by
  unfold check; split <;> simp_all

theorem except_bind_eq_ok {ε α β : Type} {x : Except ε α} {f : α → Except ε β} {b : β} :
    (x >>= f) = .ok b ↔ ∃ a, x = .ok a ∧ f a = .ok b := by
  cases x <;> simp [bind, Except.bind]

/-! ## System program -/

namespace System

/-- `system_instruction::transfer`. -/
def transfer (signers : List Pubkey) (source target : Pubkey) (lamports : Nat) (L : Ledger D) :
    Except ProgramError (Ledger D) := do
  check (source ∈ signers) .missingRequiredSignature
  check ((L source).data.dataLen = 0) .invalidArgument
  check ((L source).owner = systemProgramId) .externalAccountLamportSpend
  check (lamports ≤ (L source).lamports) (.system .resultWithNegativeLamports)
  check (((L.debit source lamports) target).lamports + lamports < 2 ^ 64) .arithmeticOverflow
  return (L.debit source lamports).credit target lamports

/-- `system_instruction::allocate`. -/
def allocate (signers : List Pubkey) (k : Pubkey) (space : Nat) (L : Ledger D) :
    Except ProgramError (Ledger D) := do
  check (k ∈ signers) .missingRequiredSignature
  check ((L k).data.dataLen = 0 ∧ (L k).owner = systemProgramId) (.system .accountAlreadyInUse)
  check (space ≤ MAX_PERMITTED_DATA_LENGTH) (.system .invalidAccountDataLength)
  return L.write k (.zeroed space)

/-- `system_instruction::assign`. -/
def assign (signers : List Pubkey) (k owner : Pubkey) (L : Ledger D) :
    Except ProgramError (Ledger D) := do
  check (k ∈ signers) .missingRequiredSignature
  check ((L k).owner = systemProgramId) .invalidAccountOwner
  return L.set k { L k with owner := owner }

/-- `system_instruction::create_account`. -/
def createAccount (signers : List Pubkey) (source k : Pubkey) (lamports space : Nat)
    (owner : Pubkey) (L : Ledger D) : Except ProgramError (Ledger D) := do
  check ((L k).lamports = 0) (.system .accountAlreadyInUse)
  let L ← allocate signers k space L
  let L ← assign signers k owner L
  transfer signers source k lamports L

theorem transfer_eq_ok {signers : List Pubkey} {source target : Pubkey} {lamports : Nat}
    {L L' : Ledger D} :
    transfer signers source target lamports L = .ok L' ↔
      source ∈ signers ∧ (L source).data.dataLen = 0 ∧ (L source).owner = systemProgramId ∧
        lamports ≤ (L source).lamports ∧
        ((L.debit source lamports) target).lamports + lamports < 2 ^ 64 ∧
        (L.debit source lamports).credit target lamports = L' := by
  simp [transfer, except_bind_eq_ok, check_eq_ok, pure, Except.pure]

theorem allocate_eq_ok {signers : List Pubkey} {k : Pubkey} {space : Nat} {L L' : Ledger D} :
    allocate signers k space L = .ok L' ↔
      k ∈ signers ∧ ((L k).data.dataLen = 0 ∧ (L k).owner = systemProgramId) ∧
        space ≤ MAX_PERMITTED_DATA_LENGTH ∧ L.write k (.zeroed space) = L' := by
  simp [allocate, except_bind_eq_ok, check_eq_ok, pure, Except.pure]

omit [ZeroCopySum D] in
theorem assign_eq_ok {signers : List Pubkey} {k owner : Pubkey} {L L' : Ledger D} :
    assign signers k owner L = .ok L' ↔
      k ∈ signers ∧ (L k).owner = systemProgramId ∧
        L.set k { L k with owner := owner } = L' := by
  simp [assign, except_bind_eq_ok, check_eq_ok, pure, Except.pure]

theorem createAccount_eq_ok {signers : List Pubkey} {source k owner : Pubkey}
    {lamports space : Nat} {L L' : Ledger D} :
    createAccount signers source k lamports space owner L = .ok L' ↔
      (L k).lamports = 0 ∧ ∃ L₁, allocate signers k space L = .ok L₁ ∧
        ∃ L₂, assign signers k owner L₁ = .ok L₂ ∧
          transfer signers source k lamports L₂ = .ok L' := by
  simp [createAccount, except_bind_eq_ok, check_eq_ok]

end System

/-! ## SPL Token program -/

namespace Token

/-- The token account at `k`, which the SPL Token program must own. -/
def unpack (L : Ledger D) (k : Pubkey) : Option TokenAccount :=
  match (L k).data with
  | .token account => if (L k).owner = tokenProgramId then some account else none
  | _ => none

/-- The amount of a token account, zero for any other account. -/
def balance (L : Ledger D) (k : Pubkey) : UInt64 :=
  match unpack L k with
  | some account => account.amount
  | none => 0

omit [ZeroCopySum D] in
theorem balance_eq {L : Ledger D} {k : Pubkey} {a : TokenAccount} (h : unpack L k = some a) :
    balance L k = a.amount := by
  rw [balance, h]

/-- `token_instruction::transfer`. -/
def transfer (signers : List Pubkey) (source target authority : Pubkey) (amount : UInt64)
    (L : Ledger D) : Except ProgramError (Ledger D) :=
  match unpack L source, unpack L target with
  | some a, some b => do
    check (amount ≤ a.amount) (.token .insufficientFunds)
    check (a.mint = b.mint) (.token .mintMismatch)
    check (a.owner = authority) (.token .ownerMismatch)
    check (authority ∈ signers) .missingRequiredSignature
    if source = target then pure L
    else do
      check (b.amount.toNat + amount.toNat < 2 ^ 64) (.token .overflow)
      return (L.write source (.token { a with amount := a.amount - amount })).write target
        (.token { b with amount := b.amount + amount })
  | _, _ => .error .invalidAccountData

/-- `token_instruction::burn`. The mint's supply is not kept. -/
def burn (signers : List Pubkey) (source mint authority : Pubkey) (amount : UInt64)
    (L : Ledger D) : Except ProgramError (Ledger D) :=
  match unpack L source with
  | some a => do
    check (amount ≤ a.amount) (.token .insufficientFunds)
    check (a.mint = mint) (.token .mintMismatch)
    check (a.owner = authority) (.token .ownerMismatch)
    check (authority ∈ signers) .missingRequiredSignature
    return L.write source (.token { a with amount := a.amount - amount })
  | none => .error .invalidAccountData

/-- `token_instruction::initialize_account3`. -/
def initializeAccount3 (k mint owner : Pubkey) (L : Ledger D) :
    Except ProgramError (Ledger D) :=
  match (L k).data with
  | .zeroed len => do
    check ((L k).owner = tokenProgramId) .incorrectProgramId
    check (len = TOKEN_ACCOUNT_LEN) .invalidAccountData
    return L.write k (.token ⟨mint, owner, 0⟩)
  | _ => .error (.token .alreadyInUse)

omit [ZeroCopySum D] in
theorem unpack_eq_some {L : Ledger D} {k : Pubkey} {a : TokenAccount} :
    unpack L k = some a ↔ (L k).owner = tokenProgramId ∧ (L k).data = .token a := by
  unfold unpack
  split
  · next b hb =>
    rw [hb]
    by_cases ho : (L k).owner = tokenProgramId <;> simp [ho]
  · next hne =>
    simp only [reduceCtorEq, false_iff, not_and]
    intro _ hd
    exact hne _ hd

omit [ZeroCopySum D] in
theorem transfer_eq_ok {signers : List Pubkey} {source target authority : Pubkey}
    {amount : UInt64} {L L' : Ledger D} :
    transfer signers source target authority amount L = .ok L' ↔
      ∃ a b, unpack L source = some a ∧ unpack L target = some b ∧ amount ≤ a.amount ∧
        a.mint = b.mint ∧ a.owner = authority ∧ authority ∈ signers ∧
        ((source = target ∧ L = L') ∨
          (source ≠ target ∧ b.amount.toNat + amount.toNat < 2 ^ 64 ∧
            (L.write source (.token { a with amount := a.amount - amount })).write target
              (.token { b with amount := b.amount + amount }) = L')) := by
  unfold transfer
  cases ha : unpack L source with
  | none => simp
  | some a =>
    cases hb : unpack L target with
    | none => simp
    | some b =>
      by_cases heq : source = target
      · simp [except_bind_eq_ok, check_eq_ok, heq, pure, Except.pure]
      · simp [except_bind_eq_ok, check_eq_ok, heq, pure, Except.pure]

omit [ZeroCopySum D] in
theorem burn_eq_ok {signers : List Pubkey} {source mint authority : Pubkey} {amount : UInt64}
    {L L' : Ledger D} :
    burn signers source mint authority amount L = .ok L' ↔
      ∃ a, unpack L source = some a ∧ amount ≤ a.amount ∧ a.mint = mint ∧
        a.owner = authority ∧ authority ∈ signers ∧
        L.write source (.token { a with amount := a.amount - amount }) = L' := by
  unfold burn
  cases ha : unpack L source with
  | none => simp
  | some a => simp [except_bind_eq_ok, check_eq_ok, pure, Except.pure]

omit [ZeroCopySum D] in
theorem initializeAccount3_eq_ok {k mint owner : Pubkey} {L L' : Ledger D} :
    initializeAccount3 k mint owner L = .ok L' ↔
      (L k).data = .zeroed TOKEN_ACCOUNT_LEN ∧ (L k).owner = tokenProgramId ∧
        L.write k (.token ⟨mint, owner, 0⟩) = L' := by
  unfold initializeAccount3
  cases hd : (L k).data with
  | zeroed len =>
    simp only [except_bind_eq_ok, check_eq_ok, pure, Except.pure, Except.ok.injEq, exists_const,
      AccountData.zeroed.injEq]
    exact and_left_comm
  | zeroCopy data rem => simp
  | token a => simp
  | programData auth => simp
  | other len => simp

end Token

end DoubleZero.Solana
