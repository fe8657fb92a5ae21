import DoubleZero.Solana.Programs

/-!
# Instruction processors

An instruction processor walks the list of accounts it was given, checks them, and changes the
ledger. `Processor` is that computation: it reads and writes the ledger, carries the account
iterator (`accounts.iter().enumerate()`), and may fail. Failure carries the error and the last line
the failing check logs; a panic is a failure too. The runtime drops every change of a failed
instruction, so only the success of a processor says anything about the ledger afterwards.

Every primitive comes with a lemma that says exactly when it succeeds and with what
(`..._eq_ok`), and `bind_eq_ok` takes a sequence of them apart.

Zero-copy accounts are handed out as copies and stored back (`store`); no processor holds two
mutable views of one account at a time.
-/

namespace DoubleZero.Solana

/-- One entry of an instruction's account list. -/
structure AccountMeta where
  key : Pubkey
  isSigner : Bool
  isWritable : Bool
  deriving DecidableEq, Repr

/-- Why an instruction failed: an error with the last line logged, or a panic. -/
inductive Failure where
  | err (error : ProgramError) (log : String)
  | panic (log : String)
  deriving DecidableEq, Repr

/-- The state of a processor: the ledger and the account iterator. -/
structure Exec (D : Type) where
  accounts : List AccountMeta
  ledger : Ledger D
  iter : List AccountMeta
  index : Nat

abbrev Processor (D : Type) (α : Type) := StateT (Exec D) (Except Failure) α

variable {D : Type} {α β : Type}

theorem toOption_eq_some {ε : Type} {x : Except ε α} {a : α} : x.toOption = some a ↔ x = .ok a := by
  cases x <;> simp [Except.toOption]

theorem bind_eq_ok {x : Processor D α} {f : α → Processor D β} {s : Exec D} {r : β × Exec D} :
    (x >>= f) s = .ok r ↔ ∃ a s₁, x s = .ok (a, s₁) ∧ f a s₁ = .ok r := by
  show StateT.bind x f s = .ok r ↔ _
  unfold StateT.bind
  cases hx : x s with
  | error e => simp [bind, Except.bind]
  | ok p =>
    obtain ⟨a, s₁⟩ := p
    simp [bind, Except.bind]

/-- Two processors that agree wherever a first step can end agree after it. -/
theorem bind_congr_ok {x : Processor D α} {f g : α → Processor D β} {s : Exec D}
    (h : ∀ a s₁, x s = .ok (a, s₁) → f a s₁ = g a s₁) : (x >>= f) s = (x >>= g) s := by
  show StateT.bind x f s = StateT.bind x g s
  unfold StateT.bind
  cases hx : x s with
  | error e => rfl
  | ok p => exact h p.1 p.2 hx

theorem pure_eq_ok {a : α} {s : Exec D} {r : α × Exec D} :
    (pure a : Processor D α) s = .ok r ↔ r = (a, s) := by
  show Except.ok (a, s) = .ok r ↔ _
  simp [eq_comm]

/-! ## Failing -/

def fail (e : ProgramError) (log : String) : Processor D α := fun _ => .error (.err e log)

/-- `if !c { msg!(log); return Err(e) }`. -/
def require (c : Prop) [Decidable c] (e : ProgramError) (log : String) : Processor D Unit :=
  fun s => if c then .ok ((), s) else .error (.err e log)

/-- `o.ok_or_else(|| { msg!(log); e })?`. -/
def okOr (o : Option α) (e : ProgramError) (log : String) : Processor D α := fun s =>
  match o with
  | some a => .ok (a, s)
  | none => .error (.err e log)

/-- `o.unwrap()` and `o.expect(log)`. -/
def unwrap! (o : Option α) (log : String) : Processor D α := fun s =>
  match o with
  | some a => .ok (a, s)
  | none => .error (.panic log)

theorem fail_eq_ok {e : ProgramError} {log : String} {s : Exec D} {r : α × Exec D} :
    fail e log s = .ok r ↔ False := by
  simp [fail]

theorem require_eq_ok {c : Prop} {_ : Decidable c} {e : ProgramError} {log : String} {s : Exec D}
    {r : Unit × Exec D} : require c e log s = .ok r ↔ c ∧ r = ((), s) := by
  unfold require
  split
  · next h => simp [h, eq_comm]
  · next h => simp [h]

theorem okOr_eq_ok {o : Option α} {e : ProgramError} {log : String} {s : Exec D}
    {r : α × Exec D} : okOr o e log s = .ok r ↔ ∃ a, o = some a ∧ r = (a, s) := by
  unfold okOr
  cases o <;> simp [eq_comm]

theorem unwrap!_eq_ok {o : Option α} {log : String} {s : Exec D} {r : α × Exec D} :
    unwrap! o log s = .ok r ↔ ∃ a, o = some a ∧ r = (a, s) := by
  unfold unwrap!
  cases o <;> simp [eq_comm]

theorem ite_eq_ok {c : Prop} {_ : Decidable c} {x y : Processor D α} {s : Exec D} {r : α × Exec D} :
    (if c then x else y) s = .ok r ↔ (c ∧ x s = .ok r) ∨ (¬c ∧ y s = .ok r) := by
  split <;> simp_all

/-! ## Reading and writing the ledger -/

/-- The account at `k` as it stands. -/
def account (k : Pubkey) : Processor D (Account D) := fun s => .ok (s.ledger k, s)

/-- Runs a change of the whole ledger. -/
def modifyLedger (f : Ledger D → Ledger D) : Processor D Unit :=
  fun s => .ok ((), { s with ledger := f s.ledger })

/-- Runs a native program on the ledger. -/
def invoke (f : Ledger D → Except ProgramError (Ledger D)) : Processor D Unit := fun s =>
  match f s.ledger with
  | .ok L => .ok ((), { s with ledger := L })
  | .error e => .error (.err e "")

theorem account_eq_ok {k : Pubkey} {s : Exec D} {r : Account D × Exec D} :
    account k s = .ok r ↔ r = (s.ledger k, s) := by
  simp [account, eq_comm]

theorem modifyLedger_eq_ok {f : Ledger D → Ledger D} {s : Exec D} {r : Unit × Exec D} :
    modifyLedger f s = .ok r ↔ r = ((), { s with ledger := f s.ledger }) := by
  simp [modifyLedger, eq_comm]

theorem invoke_eq_ok {f : Ledger D → Except ProgramError (Ledger D)} {s : Exec D}
    {r : Unit × Exec D} :
    invoke f s = .ok r ↔ ∃ L, f s.ledger = .ok L ∧ r = ((), { s with ledger := L }) := by
  unfold invoke
  cases f s.ledger <;> simp [eq_comm]

/-- Moves lamports between two accounts by hand. The release build wraps at the ends of `u64`, and
the runtime then rejects the instruction because its accounts no longer balance; when both accounts
are one, the two wrapping steps cancel. -/
def moveLamports (source target : Pubkey) (lamports : Nat) : Processor D Unit := fun s =>
  if source = target then .ok ((), s)
  else if lamports ≤ (s.ledger source).lamports ∧
      (s.ledger target).lamports + lamports < 2 ^ 64 then
    .ok ((), { s with ledger := (s.ledger.debit source lamports).credit target lamports })
  else .error (.err .unbalancedInstruction "")

theorem moveLamports_eq_ok {source target : Pubkey} {lamports : Nat} {s : Exec D}
    {r : Unit × Exec D} :
    moveLamports source target lamports s = .ok r ↔
      (source = target ∧ r = ((), s)) ∨
      (source ≠ target ∧ lamports ≤ (s.ledger source).lamports ∧
        (s.ledger target).lamports + lamports < 2 ^ 64 ∧
        r = ((), { s with
          ledger := (s.ledger.debit source lamports).credit target lamports })) := by
  unfold moveLamports
  split
  · next h => simp [h, eq_comm]
  · next h =>
    split
    · next hb =>
      simp only [Except.ok.injEq, h, false_and, ne_eq, not_false_eq_true, hb.1, hb.2, true_and,
        false_or, eq_comm]
    · next hb =>
      simp only [reduceCtorEq, h, false_and, ne_eq, not_false_eq_true, true_and, false_or,
        false_iff, not_and]
      intro h₁ h₂
      exact absurd ⟨h₁, h₂⟩ hb

/-! ## The account iterator -/

/-- `NextAccountOptions`. -/
structure NextAccountOptions where
  mustBeSigner : Bool := false
  mustBeWritable : Bool := false
  mustBeExecutable : Bool := false
  ownedBy : Option Pubkey := none

/-- `AccountInfo`, with the position it was found at. -/
structure AccountInfo where
  index : Nat
  key : Pubkey
  isSigner : Bool
  isWritable : Bool
  deriving DecidableEq, Repr

/-- `accounts_iter.next().ok_or(ProgramError::NotEnoughAccountKeys)?`. -/
def nextAccount : Processor D AccountInfo := fun s =>
  match s.iter with
  | [] => .error (.err .notEnoughAccountKeys "")
  | m :: rest =>
    .ok (⟨s.index, m.key, m.isSigner, m.isWritable⟩, { s with iter := rest, index := s.index + 1 })

/-- `try_next_enumerated_account`. -/
def tryNextEnumeratedAccount (opts : NextAccountOptions) : Processor D AccountInfo := do
  let info ← nextAccount
  let acct ← account info.key
  require (opts.mustBeSigner = true → info.isSigner = true) .missingRequiredSignature
    s!"Account {info.index} must be signer"
  require (opts.mustBeWritable = true → info.isWritable = true) .invalidAccountData
    s!"Account {info.index} must be writable"
  require (opts.mustBeExecutable = true → acct.executable = true) .invalidAccountData
    s!"Account {info.index} must be executable"
  require (opts.ownedBy = none ∨ opts.ownedBy = some acct.owner) .invalidAccountOwner
    s!"Unexpected owner for account {info.index}. Expected {opts.ownedBy.getD default}, found {acct.owner}"
  return info

/-- The iterator one entry further. -/
def Exec.advance (s : Exec D) (rest : List AccountMeta) : Exec D :=
  { s with iter := rest, index := s.index + 1 }

/-- The entry `m` at the current position. -/
def Exec.info (s : Exec D) (m : AccountMeta) : AccountInfo :=
  ⟨s.index, m.key, m.isSigner, m.isWritable⟩

/-- What `try_next_enumerated_account` asks of the entry it takes. -/
def NextAccountOptions.Accepts (opts : NextAccountOptions) (L : Ledger D) (m : AccountMeta) :
    Prop :=
  (opts.mustBeSigner = true → m.isSigner = true) ∧
    (opts.mustBeWritable = true → m.isWritable = true) ∧
    (opts.mustBeExecutable = true → (L m.key).executable = true) ∧
    (opts.ownedBy = none ∨ opts.ownedBy = some (L m.key).owner)

theorem nextAccount_eq_ok {s : Exec D} {r : AccountInfo × Exec D} :
    nextAccount s = .ok r ↔
      ∃ m rest, s.iter = m :: rest ∧ r = (s.info m, s.advance rest) := by
  unfold nextAccount
  cases hs : s.iter with
  | nil => simp
  | cons m rest => simp [Exec.info, Exec.advance, eq_comm]

theorem tryNextEnumeratedAccount_eq_ok {opts : NextAccountOptions} {s : Exec D}
    {r : AccountInfo × Exec D} :
    tryNextEnumeratedAccount opts s = .ok r ↔
      ∃ m rest, s.iter = m :: rest ∧ opts.Accepts s.ledger m ∧
        r = (s.info m, s.advance rest) := by
  simp only [tryNextEnumeratedAccount, bind_eq_ok, nextAccount_eq_ok, account_eq_ok,
    require_eq_ok, pure_eq_ok]
  constructor
  · rintro ⟨info, s₁, ⟨m, rest, hs, h⟩, acct, s₂, h₂, ⟨⟩, s₃, ⟨hsig, h₃⟩, ⟨⟩, s₄, ⟨hw, h₄⟩, ⟨⟩,
      s₅, ⟨he, h₅⟩, ⟨⟩, s₆, ⟨ho, h₆⟩, rfl⟩
    cases h; cases h₂; cases h₃; cases h₄; cases h₅; cases h₆
    exact ⟨m, rest, hs, ⟨hsig, hw, he, ho⟩, rfl⟩
  · rintro ⟨m, rest, hs, ⟨hsig, hw, he, ho⟩, rfl⟩
    exact ⟨_, _, ⟨m, rest, hs, rfl⟩, _, _, rfl, _, _, ⟨hsig, rfl⟩, _, _, ⟨hw, rfl⟩, _, _,
      ⟨he, rfl⟩, _, _, ⟨ho, rfl⟩, rfl⟩

@[simp] theorem accepts_default (L : Ledger D) (m : AccountMeta) :
    NextAccountOptions.Accepts {} L m := by
  simp [NextAccountOptions.Accepts]

/-! ## Zero-copy accounts -/

/-- `ZeroCopyAccount` and `ZeroCopyMutAccount`: an account of the program with a value of `T`. -/
structure ZeroCopyAccount (T : Type) where
  info : AccountInfo
  data : T
  remainingData : List (BitVec 8)

section ZeroCopy

variable {T : Type} [ZeroCopy D T]

/-- The value of type `T` at `k`, if the program owns the account and the discriminator is `T`'s. -/
def view (programId : Pubkey) (L : Ledger D) (k : Pubkey) : Option (T × List (BitVec 8)) :=
  match (L k).data with
  | .zeroCopy data remainingData =>
    if (L k).owner = programId then (unwrap data).map fun t => (t, remainingData) else none
  | _ => none

theorem view_eq_some {programId : Pubkey} {L : Ledger D} {k : Pubkey} {t : T}
    {rem : List (BitVec 8)} :
    view programId L k = some (t, rem) ↔
      (L k).owner = programId ∧ (L k).data = .zeroCopy (wrap t) rem := by
  unfold view
  split
  · next data rem' hdata =>
    rw [hdata]
    by_cases ho : (L k).owner = programId
    · simp only [ho, if_true, Option.map_eq_some_iff, Prod.mk.injEq, true_and,
        AccountData.zeroCopy.injEq, ZeroCopy.unwrap_eq_some]
      constructor
      · rintro ⟨t', ht', rfl, rfl⟩; exact ⟨ht', rfl⟩
      · rintro ⟨hd, rfl⟩; exact ⟨t, hd, rfl, rfl⟩
    · simp [ho]
  · next hne =>
    simp only [reduceCtorEq, false_iff, not_and]
    intro _ hd
    exact hne _ _ hd

/-- `try_from_account_info` of both account wrappers: owner first, then discriminator. -/
def tryFromAccountInfo (T : Type) [ZeroCopy D T] (programId : Pubkey) (info : AccountInfo) :
    Processor D (ZeroCopyAccount T) := fun s =>
  if (s.ledger info.key).owner = programId then
    match (view programId s.ledger info.key : Option (T × List (BitVec 8))) with
    | some (data, remainingData) => .ok (⟨info, data, remainingData⟩, s)
    | none => .error (.err .invalidAccountData
        s!"Expected discriminator for account {info.index}")
  else .error (.err .invalidAccountOwner "")

/-- `ZeroCopyAccount::<T>::try_next_accounts(accounts_iter, Some(programId))`. -/
def tryNextZeroCopy (T : Type) [ZeroCopy D T] (programId : Pubkey) :
    Processor D (ZeroCopyAccount T) := do
  let info ← tryNextEnumeratedAccount {}
  tryFromAccountInfo T programId info

/-- `ZeroCopyMutAccount::<T>::try_next_accounts(accounts_iter, Some(programId))`. -/
def tryNextZeroCopyMut (T : Type) [ZeroCopy D T] (programId : Pubkey) :
    Processor D (ZeroCopyAccount T) := do
  let info ← tryNextEnumeratedAccount {}
  require (info.isWritable = true) .invalidAccountData s!"Account {info.index} must be writable"
  tryFromAccountInfo T programId info

/-- Stores a zero-copy value back into its account. -/
def store (k : Pubkey) (data : T) (remainingData : List (BitVec 8)) : Processor D Unit :=
  modifyLedger fun L => L.write k (.zeroCopy (wrap data) remainingData)

/-- `zero_copy::try_initialize`: the account must be zeroed and long enough. What follows the value
is handed back; the caller stores the value. -/
def tryInitialize (T : Type) [ZeroCopy D T] (info : AccountInfo) :
    Processor D (List (BitVec 8)) := fun s =>
  match (s.ledger info.key).data with
  | .zeroed len =>
    if dataEnd D T ≤ len then .ok (List.replicate (len - dataEnd D T) 0#8, s)
    else .error (.err .accountDataTooSmall "")
  | _ => .error (.err .invalidAccountData
      s!"Account {info.key} already initialized with discriminator")

theorem tryInitialize_eq_ok {info : AccountInfo} {s : Exec D} {r : List (BitVec 8) × Exec D} :
    tryInitialize T info s = .ok r ↔
      ∃ len, (s.ledger info.key).data = .zeroed len ∧ dataEnd D T ≤ len ∧
        r = (List.replicate (len - dataEnd D T) 0#8, s) := by
  unfold tryInitialize
  split
  · next len hlen =>
    rw [hlen]
    by_cases hle : dataEnd D T ≤ len
    · simp [hle, eq_comm]
    · simp [hle]
  · next hne =>
    simp only [reduceCtorEq, false_iff, not_exists, not_and]
    intro len hlen
    exact absurd hlen (hne len)

theorem tryFromAccountInfo_eq_ok {programId : Pubkey} {info : AccountInfo} {s : Exec D}
    {r : ZeroCopyAccount T × Exec D} :
    tryFromAccountInfo T programId info s = .ok r ↔
      ∃ data rem, view programId s.ledger info.key = some (data, rem) ∧
        r = (⟨info, data, rem⟩, s) := by
  unfold tryFromAccountInfo
  split
  · cases hv : (view programId s.ledger info.key : Option (T × List (BitVec 8))) with
    | none => simp
    | some p =>
      obtain ⟨data, rem⟩ := p
      simp [eq_comm]
  · next ho =>
    simp only [reduceCtorEq, false_iff, not_exists, not_and]
    intro data rem hv
    exact absurd (view_eq_some.1 hv).1 ho

theorem tryNextZeroCopy_eq_ok {programId : Pubkey} {s : Exec D}
    {r : ZeroCopyAccount T × Exec D} :
    tryNextZeroCopy T programId s = .ok r ↔
      ∃ m rest, s.iter = m :: rest ∧
        ∃ data rem, view programId s.ledger m.key = some (data, rem) ∧
          r = (⟨s.info m, data, rem⟩, s.advance rest) := by
  simp only [tryNextZeroCopy, bind_eq_ok, tryNextEnumeratedAccount_eq_ok,
    tryFromAccountInfo_eq_ok]
  constructor
  · rintro ⟨info, s₁, ⟨m, rest, hs, -, h⟩, data, rem, hv, rfl⟩
    cases h
    exact ⟨m, rest, hs, data, rem, hv, rfl⟩
  · rintro ⟨m, rest, hs, data, rem, hv, rfl⟩
    exact ⟨_, _, ⟨m, rest, hs, accepts_default _ _, rfl⟩, data, rem, hv, rfl⟩

theorem tryNextZeroCopyMut_eq_ok {programId : Pubkey} {s : Exec D}
    {r : ZeroCopyAccount T × Exec D} :
    tryNextZeroCopyMut T programId s = .ok r ↔
      ∃ m rest, s.iter = m :: rest ∧ m.isWritable = true ∧
        ∃ data rem, view programId s.ledger m.key = some (data, rem) ∧
          r = (⟨s.info m, data, rem⟩, s.advance rest) := by
  simp only [tryNextZeroCopyMut, bind_eq_ok, tryNextEnumeratedAccount_eq_ok,
    tryFromAccountInfo_eq_ok, require_eq_ok]
  constructor
  · rintro ⟨info, s₁, ⟨m, rest, hs, -, h⟩, ⟨⟩, s₂, ⟨hw, h₂⟩, data, rem, hv, rfl⟩
    cases h; cases h₂
    exact ⟨m, rest, hs, hw, data, rem, hv, rfl⟩
  · rintro ⟨m, rest, hs, hw, data, rem, hv, rfl⟩
    exact ⟨_, _, ⟨m, rest, hs, accepts_default _ _, rfl⟩, _, _, ⟨hw, rfl⟩, data, rem, hv, rfl⟩

theorem store_eq_ok {k : Pubkey} {data : T} {rem : List (BitVec 8)} {s : Exec D}
    {r : Unit × Exec D} :
    store k data rem s = .ok r ↔
      r = ((), { s with ledger := s.ledger.write k (.zeroCopy (wrap data) rem) }) := by
  simp [store, modifyLedger_eq_ok]

end ZeroCopy

/-! ## Resizing -/

/-- `AccountInfo::resize` of a zero-copy account to a greater length: the old bytes stay, the growth
is zeroed, and more than `MAX_PERMITTED_DATA_INCREASE` in one instruction is refused. -/
def resize [ZeroCopySum D] (k : Pubkey) (newLen : Nat) : Processor D Unit := fun s =>
  match (s.ledger k).data with
  | .zeroCopy data rem =>
    let growth := newLen - (s.ledger k).data.dataLen
    if growth ≤ MAX_PERMITTED_DATA_INCREASE then
      .ok ((), { s with
        ledger := s.ledger.write k (.zeroCopy data (rem ++ List.replicate growth 0#8)) })
    else .error (.err .invalidRealloc "")
  | _ => .error (.err .invalidAccountData "")

theorem resize_eq_ok [ZeroCopySum D] {k : Pubkey} {newLen : Nat} {s : Exec D} {r : Unit × Exec D} :
    resize k newLen s = .ok r ↔
      ∃ data rem, (s.ledger k).data = .zeroCopy data rem ∧
        newLen - (s.ledger k).data.dataLen ≤ MAX_PERMITTED_DATA_INCREASE ∧
        r = ((), { s with ledger := s.ledger.write k (.zeroCopy data
          (rem ++ List.replicate (newLen - (s.ledger k).data.dataLen) 0#8)) }) := by
  unfold resize
  split
  · next data rem hd =>
    simp only [hd, AccountData.zeroCopy.injEq]
    split
    · next hle =>
      constructor
      · intro h; cases h; exact ⟨data, rem, ⟨rfl, rfl⟩, hle, rfl⟩
      · rintro ⟨_, _, ⟨rfl, rfl⟩, -, rfl⟩; rfl
    · next hle =>
      simp only [reduceCtorEq, false_iff, not_exists, not_and]
      intro _ _ _ h
      exact absurd h hle
  · next hne =>
    simp only [reduceCtorEq, false_iff, not_exists, not_and]
    intro data rem hd
    exact absurd hd (hne data rem)

/-! ## Taking a processor apart

The same lemmas in continuation form. Rewriting with them turns the success of a whole processor
into the conjunction of what its steps ask for, with every later step read in the state the earlier
ones left. -/

section Bind

variable {s : Exec D} {r : β × Exec D}

theorem bind_bind_ok {γ : Type} {x : Processor D γ} {f : γ → Processor D α}
    {g : α → Processor D β} :
    ((x >>= f) >>= g) s = .ok r ↔ (x >>= fun a => f a >>= g) s = .ok r := by
  rw [bind_assoc]

theorem pure_bind_ok {a : α} {f : α → Processor D β} :
    ((pure a : Processor D α) >>= f) s = .ok r ↔ f a s = .ok r := by
  rw [pure_bind]

theorem fail_bind_ok {e : ProgramError} {log : String} {f : α → Processor D β} :
    (fail e log >>= f) s = .ok r ↔ False := by
  simp [bind_eq_ok, fail_eq_ok]

theorem require_bind_ok {c : Prop} {_ : Decidable c} {e : ProgramError} {log : String}
    {f : Unit → Processor D β} :
    (require c e log >>= f) s = .ok r ↔ c ∧ f () s = .ok r := by
  simp only [bind_eq_ok, require_eq_ok]
  constructor
  · rintro ⟨a, s₁, ⟨hc, hp⟩, h⟩; cases hp; exact ⟨hc, h⟩
  · rintro ⟨hc, h⟩; exact ⟨_, _, ⟨hc, rfl⟩, h⟩

theorem require_bind_pos {c : Prop} {_ : Decidable c} {e : ProgramError} {log : String}
    {f : Unit → Processor D β} (hc : c) : (require c e log >>= f) s = f () s := by
  show StateT.bind _ f s = _
  simp only [StateT.bind, require, if_pos hc]
  rfl

theorem require_bind_congr {c : Prop} {_ : Decidable c} {e : ProgramError} {log : String}
    {f g : Unit → Processor D β} (h : c → f () s = g () s) :
    (require c e log >>= f) s = (require c e log >>= g) s := by
  refine bind_congr_ok fun _ _ hs => ?_
  obtain ⟨hc, hs⟩ := require_eq_ok.1 hs
  cases hs
  exact h hc

theorem okOr_bind_ok {o : Option α} {e : ProgramError} {log : String} {f : α → Processor D β} :
    (okOr o e log >>= f) s = .ok r ↔ ∃ a, o = some a ∧ f a s = .ok r := by
  simp only [bind_eq_ok, okOr_eq_ok]
  constructor
  · rintro ⟨a, s₁, ⟨_, ho, hp⟩, h⟩; cases hp; exact ⟨_, ho, h⟩
  · rintro ⟨a, ho, h⟩; exact ⟨a, s, ⟨a, ho, rfl⟩, h⟩

theorem unwrap!_bind_ok {o : Option α} {log : String} {f : α → Processor D β} :
    (unwrap! o log >>= f) s = .ok r ↔ ∃ a, o = some a ∧ f a s = .ok r := by
  simp only [bind_eq_ok, unwrap!_eq_ok]
  constructor
  · rintro ⟨a, s₁, ⟨_, ho, hp⟩, h⟩; cases hp; exact ⟨_, ho, h⟩
  · rintro ⟨a, ho, h⟩; exact ⟨a, s, ⟨a, ho, rfl⟩, h⟩

theorem account_bind_ok {k : Pubkey} {f : Account D → Processor D β} :
    (account k >>= f) s = .ok r ↔ f (s.ledger k) s = .ok r := by
  simp only [bind_eq_ok, account_eq_ok]
  constructor
  · rintro ⟨a, s₁, hp, h⟩; cases hp; exact h
  · intro h; exact ⟨_, _, rfl, h⟩

theorem modifyLedger_bind_ok {g : Ledger D → Ledger D} {f : Unit → Processor D β} :
    (modifyLedger g >>= f) s = .ok r ↔ f () { s with ledger := g s.ledger } = .ok r := by
  simp only [bind_eq_ok, modifyLedger_eq_ok]
  constructor
  · rintro ⟨a, s₁, hp, h⟩; cases hp; exact h
  · intro h; exact ⟨_, _, rfl, h⟩

theorem tryNext_bind_ok {opts : NextAccountOptions} {f : AccountInfo → Processor D β} :
    (tryNextEnumeratedAccount opts >>= f) s = .ok r ↔
      ∃ m rest, s.iter = m :: rest ∧ opts.Accepts s.ledger m ∧
        f (s.info m) (s.advance rest) = .ok r := by
  simp only [bind_eq_ok, tryNextEnumeratedAccount_eq_ok]
  constructor
  · rintro ⟨a, s₁, ⟨m, rest, hs, ha, hp⟩, h⟩; cases hp; exact ⟨m, rest, hs, ha, h⟩
  · rintro ⟨m, rest, hs, ha, h⟩; exact ⟨_, _, ⟨m, rest, hs, ha, rfl⟩, h⟩

theorem zeroCopy_bind_ok {T : Type} [ZeroCopy D T] {programId : Pubkey}
    {f : ZeroCopyAccount T → Processor D β} :
    (tryNextZeroCopy T programId >>= f) s = .ok r ↔
      ∃ m rest, s.iter = m :: rest ∧ ∃ data rem, view programId s.ledger m.key = some (data, rem) ∧
        f ⟨s.info m, data, rem⟩ (s.advance rest) = .ok r := by
  simp only [bind_eq_ok, tryNextZeroCopy_eq_ok]
  constructor
  · rintro ⟨a, s₁, ⟨m, rest, hs, data, rem, hv, hp⟩, h⟩
    cases hp
    exact ⟨m, rest, hs, data, rem, hv, h⟩
  · rintro ⟨m, rest, hs, data, rem, hv, h⟩
    exact ⟨_, _, ⟨m, rest, hs, data, rem, hv, rfl⟩, h⟩

theorem zeroCopyMut_bind_ok {T : Type} [ZeroCopy D T] {programId : Pubkey}
    {f : ZeroCopyAccount T → Processor D β} :
    (tryNextZeroCopyMut T programId >>= f) s = .ok r ↔
      ∃ m rest, s.iter = m :: rest ∧ m.isWritable = true ∧
        ∃ data rem, view programId s.ledger m.key = some (data, rem) ∧
          f ⟨s.info m, data, rem⟩ (s.advance rest) = .ok r := by
  simp only [bind_eq_ok, tryNextZeroCopyMut_eq_ok]
  constructor
  · rintro ⟨a, s₁, ⟨m, rest, hs, hw, data, rem, hv, hp⟩, h⟩
    cases hp
    exact ⟨m, rest, hs, hw, data, rem, hv, h⟩
  · rintro ⟨m, rest, hs, hw, data, rem, hv, h⟩
    exact ⟨_, _, ⟨m, rest, hs, hw, data, rem, hv, rfl⟩, h⟩

theorem tryInitialize_bind_ok {T : Type} [ZeroCopy D T] {info : AccountInfo}
    {f : List (BitVec 8) → Processor D β} :
    (tryInitialize T info >>= f) s = .ok r ↔
      ∃ len, (s.ledger info.key).data = .zeroed len ∧ dataEnd D T ≤ len ∧
        f (List.replicate (len - dataEnd D T) 0#8) s = .ok r := by
  simp only [bind_eq_ok, tryInitialize_eq_ok]
  constructor
  · rintro ⟨a, s₁, ⟨len, hd, hle, hp⟩, h⟩; cases hp; exact ⟨len, hd, hle, h⟩
  · rintro ⟨len, hd, hle, h⟩; exact ⟨_, _, ⟨len, hd, hle, rfl⟩, h⟩

theorem resize_bind_ok [ZeroCopySum D] {k : Pubkey} {newLen : Nat} {f : Unit → Processor D β} :
    (resize k newLen >>= f) s = .ok r ↔
      ∃ data rem, (s.ledger k).data = .zeroCopy data rem ∧
        newLen - (s.ledger k).data.dataLen ≤ MAX_PERMITTED_DATA_INCREASE ∧
        f () { s with ledger := s.ledger.write k (.zeroCopy data
          (rem ++ List.replicate (newLen - (s.ledger k).data.dataLen) 0#8)) } = .ok r := by
  simp only [bind_eq_ok, resize_eq_ok]
  constructor
  · rintro ⟨a, s₁, ⟨data, rem, hd, hle, hp⟩, h⟩; cases hp; exact ⟨data, rem, hd, hle, h⟩
  · rintro ⟨data, rem, hd, hle, h⟩; exact ⟨_, _, ⟨data, rem, hd, hle, rfl⟩, h⟩

theorem store_bind_ok {T : Type} [ZeroCopy D T] {k : Pubkey} {data : T} {rem : List (BitVec 8)}
    {f : Unit → Processor D β} :
    (store k data rem >>= f) s = .ok r ↔
      f () { s with ledger := s.ledger.write k (.zeroCopy (wrap data) rem) } = .ok r := by
  rw [store, modifyLedger_bind_ok]

@[simp] theorem Exec.advance_iter (s : Exec D) (rest : List AccountMeta) :
    (s.advance rest).iter = rest := rfl

@[simp] theorem Exec.advance_ledger (s : Exec D) (rest : List AccountMeta) :
    (s.advance rest).ledger = s.ledger := rfl

@[simp] theorem Exec.advance_accounts (s : Exec D) (rest : List AccountMeta) :
    (s.advance rest).accounts = s.accounts := rfl

@[simp] theorem Exec.info_key (s : Exec D) (m : AccountMeta) : (s.info m).key = m.key := rfl

@[simp] theorem Exec.info_isSigner (s : Exec D) (m : AccountMeta) :
    (s.info m).isSigner = m.isSigner := rfl

end Bind

end DoubleZero.Solana
