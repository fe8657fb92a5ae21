import DoubleZero.Solana.Recipe
import DoubleZero.Solana.Supply

/-!
# Account creation, to the lamport

`Created` says what `try_create_account` leaves behind on either of its paths, lamports included.
`createAccountInvocations` lists the invocations it makes branch by branch, and
`tryCreateAccount_eq_invokeAll` says that it makes these and no others.
-/

namespace DoubleZero.Solana

variable {D : Type} [ZeroCopySum D]

/-! ## What is left behind -/

/-- The account at `k` is `owner`'s, its data zeroed, and the payer made up what it was short of
`lamports`. -/
structure Created (payer k owner : Pubkey) (len lamports : Nat) (L L' : Ledger D) : Prop where
  vacant : (L k).owner = systemProgramId ∧ (L k).data.dataLen = 0
  account : L' k =
    { L k with lamports := max (L k).lamports lamports, owner := owner, data := .zeroed len }
  charged : lamports - (L k).lamports ≤ (L payer).lamports
  /-- Only an account of the System program is charged. -/
  payable : lamports - (L k).lamports ≠ 0 → (L payer).owner = systemProgramId
  paid : payer ≠ k →
    L' payer = { L payer with lamports := (L payer).lamports - (lamports - (L k).lamports) }
  /-- Only an account that needs nothing can be its own payer. -/
  self : payer = k → lamports ≤ (L k).lamports
  frame : ∀ k', k' ≠ k → k' ≠ payer → L' k' = L k'

namespace Created

variable {payer k owner : Pubkey} {len lamports : Nat} {L L' : Ledger D}

theorem payer_lamports (h : Created payer k owner len lamports L L') :
    (L' payer).lamports = (L payer).lamports - (lamports - (L k).lamports) := by
  by_cases hpayer : payer = k
  · have hle := h.self hpayer
    rw [hpayer, h.account]
    dsimp only
    omega
  · rw [h.paid hpayer]

theorem lamports_exchange (h : Created payer k owner len lamports L L') (k' : Pubkey) :
    (L' k').lamports + (if k' = payer then lamports - (L k).lamports else 0) =
      (L k').lamports + (if k' = k then lamports - (L k).lamports else 0) := by
  have hcharged := h.charged
  by_cases hk : k' = k
  · subst hk
    rw [h.account]
    dsimp only
    by_cases hpayer : k' = payer
    · have hself := h.self hpayer.symm
      rw [if_pos hpayer, if_pos rfl]
      omega
    · rw [if_neg hpayer, if_pos rfl]
      omega
  · by_cases hpayer : k' = payer
    · subst hpayer
      rw [h.paid hk, if_pos rfl, if_neg hk]
      dsimp only
      omega
    · rw [h.frame k' hk hpayer, if_neg hpayer, if_neg hk]

theorem conserves (h : Created payer k owner len lamports L L') : Conserves L L' := by
  refine .of_exchange _ _ (S := {payer, k}) h.lamports_exchange fun T hT => ?_
  rw [Conserves.sum_single _ (by simp) hT, Conserves.sum_single _ (by simp) hT]

/-- No account of another program than System is touched. -/
theorem of_owner {programId k' : Pubkey} (h : Created payer k owner len lamports L L')
    (hsystem : programId ≠ systemProgramId) (howner : (L k').owner = programId) : L' k' = L k' := by
  have hk : k' ≠ k := by
    rintro rfl
    exact hsystem (howner.symm.trans h.vacant.1)
  by_cases hpayer : k' = payer
  · subst hpayer
    have hfree : lamports - (L k).lamports = 0 := by
      by_contra hne
      exact hsystem (howner.symm.trans (h.payable hne))
    rw [h.paid hk, hfree, Nat.sub_zero]
  · exact h.frame k' hk hpayer

/-- Only the new account changes hands or data. -/
theorem owner_data_frame {k' : Pubkey} (h : Created payer k owner len lamports L L')
    (hk : k' ≠ k) : (L' k').owner = (L k').owner ∧ (L' k').data = (L k').data := by
  by_cases hpayer : k' = payer
  · subst hpayer
    rw [h.paid hk]
    exact ⟨rfl, rfl⟩
  · rw [h.frame k' hk hpayer]
    exact ⟨rfl, rfl⟩

end Created

/-- What `System.allocate` and `System.assign` leave together. -/
theorem allocate_assign_ok {signers signers' : List Pubkey} {k owner : Pubkey} {len : Nat}
    {L L₁ L₂ : Ledger D} (h₁ : System.allocate signers k len L = .ok L₁)
    (h₂ : System.assign signers' k owner L₁ = .ok L₂) :
    ((L k).owner = systemProgramId ∧ (L k).data.dataLen = 0) ∧
      L₂ = L.set k { L k with owner := owner, data := .zeroed len } := by
  obtain ⟨-, ⟨hempty, hvacant⟩, -, rfl⟩ := System.allocate_eq_ok.1 h₁
  obtain ⟨-, -, rfl⟩ := System.assign_eq_ok.1 h₂
  refine ⟨⟨hvacant, hempty⟩, ?_⟩
  funext k'
  by_cases hk : k' = k
  · subst hk
    simp [Ledger.write]
  · simp [Ledger.set_of_ne _ _ hk, Ledger.write]

/-- Both paths of `try_create_account` come to the same. -/
theorem tryCreateAccount_created {scheme : AddressScheme} {rent : Rent} {callerId owner : Pubkey}
    {payer newAccount : Invoker} {currentLamports len : Nat} {additional : Option Nat} {s : Exec D}
    {r : Unit × Exec D}
    (h : tryCreateAccount scheme rent callerId payer newAccount currentLamports len owner additional
      s = .ok r) (hcur : currentLamports = (s.ledger newAccount.key).lamports)
    (hself : ¬(payer.key = newAccount.key ∧ len = 0 ∧ owner = systemProgramId)) :
    ∃ L', r = ((), { s with ledger := L' }) ∧
      Created payer.key newAccount.key owner len
        (min (additional.getD 0 + rent.minimumBalance len) (2 ^ 64 - 1)) s.ledger L' := by
  have hpos := rent.pos len
  unfold tryCreateAccount at h
  generalize hlamports : min (additional.getD 0 + rent.minimumBalance len) (2 ^ 64 - 1) = lamports
    at h ⊢
  simp only [ite_eq_ok] at h
  generalize newAccount.key = k at *
  generalize payer.key = source at *
  rcases h with ⟨hzero, h⟩ | ⟨hpositive, h⟩
  · obtain ⟨derived, -, L', hL, rfl⟩ := invokeSigned_eq_ok.1 h
    obtain ⟨hempty, L₁, h₁, L₂, h₂, h₃⟩ := System.createAccount_eq_ok.1 hL
    obtain ⟨hvacant, rfl⟩ := allocate_assign_ok h₁ h₂
    obtain ⟨-, -, howner, hfunds, -, rfl⟩ := System.transfer_eq_ok.1 h₃
    have hne : source ≠ k := by
      rintro rfl
      rw [Ledger.set_self] at hfunds
      dsimp only at hfunds
      omega
    rw [Ledger.set_of_ne _ _ hne] at hfunds howner
    refine ⟨_, rfl, hvacant, ?_, by omega, fun _ => howner, fun _ => ?_,
      fun heq => absurd heq hne, ?_⟩
    · rw [Ledger.credit, Ledger.set_self, Ledger.debit, Ledger.set_of_ne _ _ hne.symm,
        Ledger.set_self]
      dsimp only
      rw [hempty, Nat.zero_add, Nat.zero_max]
    · rw [Ledger.credit, Ledger.set_of_ne _ _ hne, Ledger.debit, Ledger.set_self,
        Ledger.set_of_ne _ _ hne, hempty, Nat.sub_zero]
    · intro k' hk hsource
      rw [Ledger.credit, Ledger.set_of_ne _ _ hk, Ledger.debit, Ledger.set_of_ne _ _ hsource,
        Ledger.set_of_ne _ _ hk]
  · simp only [bind_eq_ok, invokeSigned_eq_ok, ite_eq_ok, pure_eq_ok] at h
    obtain ⟨⟨⟩, s₁, ⟨derived, -, L₁, h₁, e₁⟩, ⟨⟩, s₂, ⟨derived₂, -, L₂, h₂, e₂⟩, h⟩ := h
    cases e₁; cases e₂
    obtain ⟨hvacant, rfl⟩ := allocate_assign_ok h₁ h₂
    rcases h with ⟨hdiff, derived₃, -, L₃, h₃, rfl⟩ | ⟨hdiff, rfl⟩
    · dsimp only at h₃
      obtain ⟨-, hdata, howner, hfunds, -, rfl⟩ := System.transfer_eq_ok.1 h₃
      have hne : source ≠ k := by
        rintro rfl
        rw [Ledger.set_self] at hdata howner
        exact hself ⟨rfl, hdata, howner⟩
      rw [Ledger.set_of_ne _ _ hne] at hfunds howner
      refine ⟨_, rfl, hvacant, ?_, by omega, fun _ => howner, fun _ => ?_,
        fun heq => absurd heq hne, ?_⟩
      · rw [Ledger.credit, Ledger.set_self, Ledger.debit, Ledger.set_of_ne _ _ hne.symm,
          Ledger.set_self]
        dsimp only
        rw [← hcur, Nat.max_eq_right (by omega), Nat.add_sub_cancel' (by omega)]
      · rw [Ledger.credit, Ledger.set_of_ne _ _ hne, Ledger.debit, Ledger.set_self,
          Ledger.set_of_ne _ _ hne, hcur]
      · intro k' hk hsource
        rw [Ledger.credit, Ledger.set_of_ne _ _ hk, Ledger.debit, Ledger.set_of_ne _ _ hsource,
          Ledger.set_of_ne _ _ hk]
    · refine ⟨_, rfl, hvacant, ?_, by omega, fun h => absurd (by omega) h, fun hne => ?_,
        fun _ => by omega, ?_⟩
      · rw [Ledger.set_self, Nat.max_eq_left (by omega)]
      · have hzero : lamports - (s.ledger k).lamports = 0 := by omega
        rw [Ledger.set_of_ne _ _ hne, hzero, Nat.sub_zero]
      · intro k' hk _
        rw [Ledger.set_of_ne _ _ hk]

/-- Neither path gets past an address that is allocated or that another program owns. -/
theorem tryCreateAccount_vacant {scheme : AddressScheme} {rent : Rent} {callerId owner : Pubkey}
    {payer newAccount : Invoker} {currentLamports len : Nat} {additional : Option Nat} {s : Exec D}
    {r : Unit × Exec D}
    (h : tryCreateAccount scheme rent callerId payer newAccount currentLamports len owner additional
      s = .ok r) :
    (s.ledger newAccount.key).owner = systemProgramId ∧
      (s.ledger newAccount.key).data.dataLen = 0 := by
  unfold tryCreateAccount at h
  simp only [ite_eq_ok] at h
  rcases h with ⟨-, h⟩ | ⟨-, h⟩
  · obtain ⟨derived, -, L', hL, -⟩ := invokeSigned_eq_ok.1 h
    obtain ⟨-, L₁, h₁, -⟩ := System.createAccount_eq_ok.1 hL
    obtain ⟨-, ⟨hempty, hvacant⟩, -⟩ := System.allocate_eq_ok.1 h₁
    exact ⟨hvacant, hempty⟩
  · obtain ⟨⟨⟩, s₁, h, -⟩ := bind_eq_ok.1 h
    obtain ⟨derived, -, L₁, h₁, -⟩ := invokeSigned_eq_ok.1 h
    obtain ⟨-, ⟨hempty, hvacant⟩, -⟩ := System.allocate_eq_ok.1 h₁
    exact ⟨hvacant, hempty⟩

/-! ## The invocations -/

/-- An instruction of the System program. -/
inductive SystemInstruction where
  | createAccount (source k : Pubkey) (lamports space : Nat) (owner : Pubkey)
  | allocate (k : Pubkey) (space : Nat)
  | assign (k owner : Pubkey)
  | transfer (source target : Pubkey) (lamports : Nat)
  deriving DecidableEq, Repr

namespace SystemInstruction

def run (signers : List Pubkey) (L : Ledger D) :
    SystemInstruction → Except ProgramError (Ledger D)
  | .createAccount source k lamports space owner =>
    System.createAccount signers source k lamports space owner L
  | .allocate k space => System.allocate signers k space L
  | .assign k owner => System.assign signers k owner L
  | .transfer source target lamports => System.transfer signers source target lamports L

/-- The accounts that have to sign the instruction. -/
def signedBy : SystemInstruction → List Pubkey
  | .createAccount source k _ _ _ => [source, k]
  | .allocate k _ => [k]
  | .assign k _ => [k]
  | .transfer source _ _ => [source]

end SystemInstruction

/-- `invoke_signed_unchecked` of a System instruction, with its signer seeds. -/
structure Invocation where
  instruction : SystemInstruction
  signerSeeds : List (List Seed × UInt8)
  deriving DecidableEq, Repr

def invokeAll (scheme : AddressScheme) (callerId : Pubkey) : List Invocation → Processor D Unit
  | [] => pure ()
  | invocation :: invocations => do
    invokeSigned scheme callerId invocation.signerSeeds fun signers L =>
      invocation.instruction.run signers L
    invokeAll scheme callerId invocations

/-- The branches of `try_create_account`, one by one. -/
def createAccountInvocations (payer newAccount : Invoker) (currentLamports lamports dataLen : Nat)
    (owner : Pubkey) : List Invocation :=
  if currentLamports = 0 then
    match payer, newAccount with
    | .pda payerKey payerSeeds payerBump, .pda newAccountKey newAccountSeeds newAccountBump =>
      [⟨.createAccount payerKey newAccountKey lamports dataLen owner,
        [(payerSeeds, payerBump), (newAccountSeeds, newAccountBump)]⟩]
    | .pda payerKey payerSeeds payerBump, .signer newAccountKey =>
      [⟨.createAccount payerKey newAccountKey lamports dataLen owner, [(payerSeeds, payerBump)]⟩]
    | .signer payerKey, .pda newAccountKey newAccountSeeds newAccountBump =>
      [⟨.createAccount payerKey newAccountKey lamports dataLen owner,
        [(newAccountSeeds, newAccountBump)]⟩]
    | .signer payerKey, .signer newAccountKey =>
      [⟨.createAccount payerKey newAccountKey lamports dataLen owner, []⟩]
  else
    (match newAccount with
    | .pda newAccountKey newAccountSeeds newAccountBump =>
      [⟨.allocate newAccountKey dataLen, [(newAccountSeeds, newAccountBump)]⟩,
        ⟨.assign newAccountKey owner, [(newAccountSeeds, newAccountBump)]⟩]
    | .signer newAccountKey =>
      [⟨.allocate newAccountKey dataLen, []⟩, ⟨.assign newAccountKey owner, []⟩]) ++
    if lamports - currentLamports ≠ 0 then
      match payer with
      | .pda payerKey payerSeeds payerBump =>
        [⟨.transfer payerKey newAccount.key (lamports - currentLamports),
          [(payerSeeds, payerBump)]⟩]
      | .signer payerKey =>
        [⟨.transfer payerKey newAccount.key (lamports - currentLamports), []⟩]
    else []

theorem tryCreateAccount_eq_invokeAll (scheme : AddressScheme) (rent : Rent) (callerId : Pubkey)
    (payer newAccount : Invoker) (currentLamports dataLen : Nat) (owner : Pubkey)
    (additional : Option Nat) :
    (tryCreateAccount scheme rent callerId payer newAccount currentLamports dataLen owner additional
      : Processor D Unit) =
      invokeAll scheme callerId (createAccountInvocations payer newAccount currentLamports
        (min (additional.getD 0 + rent.minimumBalance dataLen) (2 ^ 64 - 1)) dataLen owner) := by
  dsimp only [tryCreateAccount, createAccountInvocations]
  generalize min (additional.getD 0 + rent.minimumBalance dataLen) (2 ^ 64 - 1) = lamports
  by_cases hzero : currentLamports = 0
  · cases payer with
    | _ => cases newAccount with
      | _ => simp [hzero, invokeAll, SystemInstruction.run, Invoker.key, Invoker.signerSeeds]
  · by_cases hdiff : lamports - currentLamports = 0
    · cases newAccount with
      | _ =>
        simp [hzero, hdiff, invokeAll, SystemInstruction.run, Invoker.key, Invoker.signerSeeds]
    · cases payer with
      | _ => cases newAccount with
        | _ =>
          simp [hzero, hdiff, invokeAll, SystemInstruction.run, Invoker.key, Invoker.signerSeeds]

/-- An invocation is signed with the seeds of those that have to sign it, and no others. -/
theorem signed_createAccountInvocations {payer newAccount : Invoker}
    {currentLamports lamports dataLen : Nat} {owner : Pubkey} {invocation : Invocation}
    (h : invocation ∈ createAccountInvocations payer newAccount currentLamports lamports dataLen
      owner) :
    ∃ invokers : List Invoker, (∀ invoker ∈ invokers, invoker = payer ∨ invoker = newAccount) ∧
      invokers.map Invoker.key = invocation.instruction.signedBy ∧
      invokers.flatMap Invoker.signerSeeds = invocation.signerSeeds := by
  unfold createAccountInvocations at h
  split at h
  · refine ⟨[payer, newAccount], by simp, ?_⟩
    cases payer with
    | _ => cases newAccount with
      | _ =>
        obtain rfl := List.mem_singleton.1 h
        exact ⟨rfl, rfl⟩
  · rcases List.mem_append.1 h with h | h
    · refine ⟨[newAccount], by simp, ?_⟩
      cases newAccount with
      | _ =>
        rcases List.mem_pair.1 h with rfl | rfl
        · exact ⟨rfl, rfl⟩
        · exact ⟨rfl, rfl⟩
    · split at h
      · refine ⟨[payer], by simp, ?_⟩
        cases payer with
        | _ =>
          obtain rfl := List.mem_singleton.1 h
          exact ⟨rfl, rfl⟩
      · cases h

end DoubleZero.Solana
