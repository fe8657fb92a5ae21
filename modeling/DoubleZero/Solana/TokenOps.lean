import DoubleZero.Lib.Word
import DoubleZero.Solana.Processor

/-!
# What a program may do with token accounts

A program that is called can call the SPL Token program in turn, with the accounts it was given and
the signatures that came with them. `TokenStep` is one instruction of the SPL Token program under
its authority rules, `Performs` a sequence of them between other things the called program does.

The ledger keeps of a token account its mint, its owner and its amount. Who else may act for it is
kept beside the ledger here (`Grants`). What can only make an instruction fail is left out: frozen
accounts, and the supply of a mint.
-/

namespace DoubleZero.Solana

open DoubleZero.Lib

/-- `1nc1nerator11111111111111111111111111111111`. -/
def incineratorId : Pubkey := ⟨0x3390728d34116079bdc911bfff00dbd44d2ecdccf79ca6e10038e100000000⟩

/-- The delegate of each token account, with what is left of the delegated amount, its close
authority, and the mint authority of each mint. -/
structure Grants where
  delegate : Pubkey → Option (Pubkey × UInt64)
  closeAuthority : Pubkey → Option Pubkey
  mintAuthority : Pubkey → Option Pubkey

namespace Grants

def setDelegate (g : Grants) (k : Pubkey) (delegate : Option (Pubkey × UInt64)) : Grants :=
  { g with delegate := Function.update g.delegate k delegate }

def setCloseAuthority (g : Grants) (k : Pubkey) (authority : Option Pubkey) : Grants :=
  { g with closeAuthority := Function.update g.closeAuthority k authority }

def setMintAuthority (g : Grants) (mint : Pubkey) (authority : Option Pubkey) : Grants :=
  { g with mintAuthority := Function.update g.mintAuthority mint authority }

/-- Whether the authority is the delegate of the token account at `k`. -/
def isDelegate (g : Grants) (k authority : Pubkey) : Bool :=
  (g.delegate k).any fun d => d.1 = authority

/-- Who may move an amount out of the token account `a` at `k`: the delegate, within what is left to
it, or the owner. -/
def Authorizes (g : Grants) (k : Pubkey) (a : TokenAccount) (authority : Pubkey)
    (amount : UInt64) : Prop :=
  if g.isDelegate k authority then ∀ d, g.delegate k = some d → amount ≤ d.2
  else a.owner = authority

/-- A delegate has used an amount; with nothing left it is no delegate any more. -/
def spend (g : Grants) (k authority : Pubkey) (amount : UInt64) : Grants :=
  if g.isDelegate k authority then
    g.setDelegate k ((g.delegate k).bind fun d =>
      if d.2 = amount then none else some (d.1, d.2 - amount))
  else g

end Grants

structure TokenState (D : Type) where
  ledger : Ledger D
  grants : Grants

/-- The instructions of the SPL Token program on the accounts of a mint that is not native SOL. -/
inductive TokenOp where
  | transfer (source target authority : Pubkey) (amount : UInt64)
  | approve (source delegate owner : Pubkey) (amount : UInt64)
  | revoke (source owner : Pubkey)
  | setAccountOwner (k owner newOwner : Pubkey)
  | setCloseAuthority (k authority : Pubkey) (newAuthority : Option Pubkey)
  | setMintAuthority (mint authority : Pubkey) (newAuthority : Option Pubkey)
  | mintTo (mint target authority : Pubkey) (amount : UInt64)
  | burn (source mint authority : Pubkey) (amount : UInt64)
  | closeAccount (k destination authority : Pubkey)
  | initializeAccount3 (k mint owner : Pubkey)

namespace TokenOp

/-- The accounts an instruction writes. -/
def written : TokenOp → List Pubkey
  | transfer source target _ _ => [source, target]
  | approve source _ _ _ | revoke source _ => [source]
  | setAccountOwner k _ _ | setCloseAuthority k _ _ | setMintAuthority k _ _ => [k]
  | mintTo mint target _ _ => [mint, target]
  | burn source mint _ _ => [source, mint]
  | closeAccount k destination _ => [k, destination]
  | initializeAccount3 k _ _ => [k]

/-- The accounts an instruction only reads, its authority among them. -/
def consulted : TokenOp → List Pubkey
  | transfer _ _ authority _ => [authority]
  | approve _ delegate owner _ => [delegate, owner]
  | revoke _ owner | setAccountOwner _ owner _ => [owner]
  | setCloseAuthority _ authority _ | setMintAuthority _ authority _ => [authority]
  | mintTo _ _ authority _ | burn _ _ authority _ | closeAccount _ _ authority => [authority]
  | initializeAccount3 _ mint _ => [mint]

/-- What an instruction puts into the token account at `k`, and what it takes out of it. -/
def into (k : Pubkey) : TokenOp → Nat
  | transfer _ target _ amount | mintTo _ target _ amount => if target = k then amount.toNat else 0
  | _ => 0

def outOf (k : Pubkey) : TokenOp → Nat
  | transfer source _ _ amount | burn source _ _ amount => if source = k then amount.toNat else 0
  | _ => 0

/-- The totals over a sequence of instructions. -/
def inflow (ops : List TokenOp) (k : Pubkey) : Nat := (ops.map (into k)).sum

def outflow (ops : List TokenOp) (k : Pubkey) : Nat := (ops.map (outOf k)).sum

end TokenOp

variable {D : Type}

/-- Owned by the System program or the incinerator: anybody may burn what is in there. -/
def TokenAccount.IsAbandoned (a : TokenAccount) : Prop :=
  a.owner = systemProgramId ∨ a.owner = incineratorId

open Token in
/-- An instruction of the SPL Token program that succeeds. -/
inductive TokenStep (signers : List Pubkey) : TokenOp → TokenState D → TokenState D → Prop
  | transfer {source target authority : Pubkey} {amount : UInt64} {a b : TokenAccount}
      {L : Ledger D} {g : Grants} (ha : unpack L source = some a) (hb : unpack L target = some b)
      (hfunds : amount ≤ a.amount) (hmint : a.mint = b.mint)
      (hauthority : g.Authorizes source a authority amount) (hsigned : authority ∈ signers)
      (hne : source ≠ target) (hfits : b.amount.toNat + amount.toNat < 2 ^ 64) :
      TokenStep signers (.transfer source target authority amount) ⟨L, g⟩
        ⟨(L.write source (.token { a with amount := a.amount - amount })).write target
          (.token { b with amount := b.amount + amount }), g.spend source authority amount⟩
  | transferSelf {source authority : Pubkey} {amount : UInt64} {a : TokenAccount}
      {s : TokenState D} (ha : unpack s.ledger source = some a) (hfunds : amount ≤ a.amount)
      (hauthority : s.grants.Authorizes source a authority amount)
      (hsigned : authority ∈ signers) :
      TokenStep signers (.transfer source source authority amount) s s
  | approve {source delegate owner : Pubkey} {amount : UInt64} {a : TokenAccount} {L : Ledger D}
      {g : Grants} (ha : unpack L source = some a) (howner : a.owner = owner)
      (hsigned : owner ∈ signers) :
      TokenStep signers (.approve source delegate owner amount) ⟨L, g⟩
        ⟨L, g.setDelegate source (some (delegate, amount))⟩
  | revoke {source owner : Pubkey} {a : TokenAccount} {L : Ledger D} {g : Grants}
      (ha : unpack L source = some a) (howner : a.owner = owner) (hsigned : owner ∈ signers) :
      TokenStep signers (.revoke source owner) ⟨L, g⟩ ⟨L, g.setDelegate source none⟩
  | setAccountOwner {k owner newOwner : Pubkey} {a : TokenAccount} {L : Ledger D} {g : Grants}
      (ha : unpack L k = some a) (howner : a.owner = owner) (hsigned : owner ∈ signers) :
      TokenStep signers (.setAccountOwner k owner newOwner) ⟨L, g⟩
        ⟨L.write k (.token { a with owner := newOwner }), g.setDelegate k none⟩
  | setCloseAuthority {k authority : Pubkey} {newAuthority : Option Pubkey} {a : TokenAccount}
      {L : Ledger D} {g : Grants} (ha : unpack L k = some a)
      (hauthority : (g.closeAuthority k).getD a.owner = authority) (hsigned : authority ∈ signers) :
      TokenStep signers (.setCloseAuthority k authority newAuthority) ⟨L, g⟩
        ⟨L, g.setCloseAuthority k newAuthority⟩
  | setMintAuthority {mint authority : Pubkey} {newAuthority : Option Pubkey} {L : Ledger D}
      {g : Grants} (hauthority : g.mintAuthority mint = some authority)
      (hsigned : authority ∈ signers) :
      TokenStep signers (.setMintAuthority mint authority newAuthority) ⟨L, g⟩
        ⟨L, g.setMintAuthority mint newAuthority⟩
  | mintTo {mint target authority : Pubkey} {amount : UInt64} {b : TokenAccount} {L : Ledger D}
      {g : Grants} (hb : unpack L target = some b) (hmint : b.mint = mint)
      (hauthority : g.mintAuthority mint = some authority) (hsigned : authority ∈ signers)
      (hfits : b.amount.toNat + amount.toNat < 2 ^ 64) :
      TokenStep signers (.mintTo mint target authority amount) ⟨L, g⟩
        ⟨L.write target (.token { b with amount := b.amount + amount }), g⟩
  | burn {source mint authority : Pubkey} {amount : UInt64} {a : TokenAccount} {L : Ledger D}
      {g : Grants} (ha : unpack L source = some a) (hfunds : amount ≤ a.amount)
      (hmint : a.mint = mint)
      (hauthority : a.IsAbandoned ∨
        g.Authorizes source a authority amount ∧ authority ∈ signers) :
      TokenStep signers (.burn source mint authority amount) ⟨L, g⟩
        ⟨L.write source (.token { a with amount := a.amount - amount }),
          g.spend source authority amount⟩
  | closeAccount {k destination authority : Pubkey} {a : TokenAccount} {L : Ledger D} {g : Grants}
      (ha : unpack L k = some a) (hne : k ≠ destination) (hempty : a.amount = 0)
      (hauthority : a.IsAbandoned ∧ destination = incineratorId ∨
        (g.closeAuthority k).getD a.owner = authority ∧ authority ∈ signers) :
      TokenStep signers (.closeAccount k destination authority) ⟨L, g⟩
        ⟨(L.credit destination (L k).lamports).set k .unused, g⟩
  | initializeAccount3 {k mint owner : Pubkey} {L L' : Ledger D} {g : Grants}
      (h : Token.initializeAccount3 k mint owner L = .ok L') :
      TokenStep signers (.initializeAccount3 k mint owner) ⟨L, g⟩
        ⟨L', (g.setDelegate k none).setCloseAuthority k none⟩

/-- The instruction names accounts among those at hand only, and writes only writable ones. -/
def TokenOp.Permitted (metas : List AccountMeta) (op : TokenOp) : Prop :=
  (∀ k ∈ op.written, ∃ m ∈ metas, m.key = k ∧ m.isWritable = true) ∧
    ∀ k ∈ op.consulted, ∃ m ∈ metas, m.key = k

/-- The signatures a program has that was called with some accounts: those it was called with, and
those of its own derived addresses. -/
def signersOf (metas : List AccountMeta) (own : List Pubkey) : List Pubkey :=
  (metas.filter fun m => m.isSigner).map (fun m => m.key) ++ own

/-- A program called with some accounts performs some token instructions, among other things. -/
inductive Performs (others : Ledger D → Ledger D → Prop) (metas : List AccountMeta)
    (own : List Pubkey) : List TokenOp → TokenState D → TokenState D → Prop
  | done {s : TokenState D} : Performs others metas own [] s s
  | token {op : TokenOp} {ops : List TokenOp} {s s₁ s' : TokenState D} :
      op.Permitted metas → TokenStep (signersOf metas own) op s s₁ →
        Performs others metas own ops s₁ s' → Performs others metas own (op :: ops) s s'
  | other {ops : List TokenOp} {L L₁ : Ledger D} {g : Grants} {s' : TokenState D} :
      others L L₁ → Performs others metas own ops ⟨L₁, g⟩ s' →
        Performs others metas own ops ⟨L, g⟩ s'

/-! ## Balances -/

/-- The amount in the data at `k`, zero where there is no token account. -/
def Token.amountAt (L : Ledger D) (k : Pubkey) : UInt64 :=
  match (L k).data with
  | .token a => a.amount
  | _ => 0

section

variable {L L' : Ledger D} {k k' : Pubkey} {a : TokenAccount} {s s' : TokenState D}
  {others : Ledger D → Ledger D → Prop} {metas : List AccountMeta} {signers own : List Pubkey}
  {op : TokenOp} {ops : List TokenOp}

theorem Token.amountAt_of_data (h : (L k).data = .token a) : Token.amountAt L k = a.amount := by
  rw [Token.amountAt, h]

theorem Token.amountAt_of_unpack (h : Token.unpack L k = some a) :
    Token.amountAt L k = a.amount :=
  Token.amountAt_of_data (Token.unpack_eq_some.1 h).2

theorem Token.amountAt_congr (h : (L' k).data = (L k).data) :
    Token.amountAt L' k = Token.amountAt L k := by
  rw [Token.amountAt, Token.amountAt, h]

theorem Token.amountAt_write : Token.amountAt (L.write k' (.token a)) k =
    if k = k' then a.amount else Token.amountAt L k := by
  split
  · next h => exact Token.amountAt_of_data (by simp [h])
  · next h => exact Token.amountAt_congr (by simp [Ledger.write_data, h])

/-- One instruction changes an amount by what it puts in and takes out. -/
theorem TokenStep.amountAt (h : TokenStep signers op s s') (k : Pubkey) :
    (Token.amountAt s'.ledger k).toNat + op.outOf k =
      (Token.amountAt s.ledger k).toNat + op.into k := by
  cases h with
  | @transfer source target _ amount a b L _ ha hb hfunds _ _ _ hne hfits =>
    have hle := UInt64.le_iff_toNat_le.1 hfunds
    dsimp only [TokenOp.outOf, TokenOp.into]
    rw [Token.amountAt_write, Token.amountAt_write]
    by_cases hk : k = target
    · subst hk
      rw [if_pos rfl, if_pos rfl, if_neg hne, Token.amountAt_of_unpack hb, toNat_add_of_lt hfits,
        Nat.add_zero]
    · rw [if_neg hk, if_neg (Ne.symm hk)]
      by_cases hk' : k = source
      · subst hk'
        rw [if_pos rfl, if_pos rfl, Token.amountAt_of_unpack ha, toNat_sub_of_le hfunds]
        omega
      · rw [if_neg hk', if_neg (Ne.symm hk')]
  | transferSelf => rfl
  | approve => rfl
  | revoke => rfl
  | setAccountOwner ha =>
    dsimp only [TokenOp.outOf, TokenOp.into]
    rw [Token.amountAt_write]
    split
    · next hk => rw [hk, Token.amountAt_of_unpack ha]
    · rfl
  | setCloseAuthority => rfl
  | setMintAuthority => rfl
  | @mintTo _ target _ amount b L _ hb _ _ _ hfits =>
    dsimp only [TokenOp.outOf, TokenOp.into]
    rw [Token.amountAt_write]
    by_cases hk : k = target
    · subst hk
      rw [if_pos rfl, if_pos rfl, Token.amountAt_of_unpack hb, toNat_add_of_lt hfits, Nat.add_zero]
    · rw [if_neg hk, if_neg (Ne.symm hk)]
  | @burn source _ _ amount a L _ ha hfunds =>
    have hle := UInt64.le_iff_toNat_le.1 hfunds
    dsimp only [TokenOp.outOf, TokenOp.into]
    rw [Token.amountAt_write]
    by_cases hk : k = source
    · subst hk
      rw [if_pos rfl, if_pos rfl, Token.amountAt_of_unpack ha, toNat_sub_of_le hfunds]
      omega
    · rw [if_neg hk, if_neg (Ne.symm hk)]
  | @closeAccount k' destination _ a L _ ha _ hempty =>
    dsimp only [TokenOp.outOf, TokenOp.into]
    by_cases hk : k = k'
    · subst hk
      have hunused : ((L.credit destination (L k).lamports).set k .unused k).data = .zeroed 0 := by
        rw [Ledger.set_self]
        rfl
      rw [Token.amountAt_of_unpack ha, hempty, Token.amountAt, hunused]
    · rw [Token.amountAt_congr (L := L) (by rw [Ledger.set_of_ne _ _ hk, Ledger.credit_data])]
  | @initializeAccount3 k' _ _ L _ _ h =>
    obtain ⟨hdata, -, rfl⟩ := Token.initializeAccount3_eq_ok.1 h
    dsimp only [TokenOp.outOf, TokenOp.into]
    rw [Token.amountAt_write]
    split
    · next hk => rw [hk, Token.amountAt, hdata]
    · rfl

/-- A transfer signed by the owner, where nobody is delegate. -/
theorem TokenStep.of_transfer {source target authority : Pubkey} {amount : UInt64} {g : Grants}
    {signers' : List Pubkey}
    (h : Token.transfer signers' source target authority amount L = .ok L')
    (hsigned : authority ∈ signers) (hnone : g.delegate source = none) :
    TokenStep signers (.transfer source target authority amount) ⟨L, g⟩ ⟨L', g⟩ := by
  have hdelegate : g.isDelegate source authority = false := by simp [Grants.isDelegate, hnone]
  have hspend : g.spend source authority amount = g := by simp [Grants.spend, hdelegate]
  obtain ⟨a, b, ha, hb, hfunds, hmint, hauthority, -, ⟨rfl, rfl⟩ | ⟨hne, hfits, rfl⟩⟩ :=
    Token.transfer_eq_ok.1 h
  · exact .transferSelf ha hfunds (by simpa [Grants.Authorizes, hdelegate] using hauthority) hsigned
  · have hstep := TokenStep.transfer (g := g) ha hb hfunds hmint
      (by simpa [Grants.Authorizes, hdelegate] using hauthority) hsigned hne hfits
    rwa [hspend] at hstep

/-- What a program leaves in a token account is what it found there, with what it put in and without
what it took out. -/
theorem Performs.amountAt (h : Performs others metas own ops s s') (k : Pubkey)
    (hothers : ∀ {L L' : Ledger D}, others L L' → Token.amountAt L' k = Token.amountAt L k) :
    (Token.amountAt s'.ledger k).toNat + TokenOp.outflow ops k =
      (Token.amountAt s.ledger k).toNat + TokenOp.inflow ops k := by
  induction h with
  | done => rfl
  | token _ hstep _ ih =>
    have hamount := hstep.amountAt k
    simp only [TokenOp.outflow, TokenOp.inflow, List.map_cons, List.sum_cons] at ih ⊢
    omega
  | other hother _ ih =>
    rw [ih]
    dsimp only
    rw [hothers hother]

end

end DoubleZero.Solana
