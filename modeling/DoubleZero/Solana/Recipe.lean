import DoubleZero.Solana.Processor

/-!
# Account creation

`recipe::create_account` and `recipe::create_token_account` of `doublezero-program-tools`. An
address that already holds lamports cannot be created in one System instruction, so it is
allocated, assigned and topped up instead. `Allocated` is what both paths leave behind.
-/

namespace DoubleZero.Solana

variable {D : Type} [ZeroCopySum D]

/-- `Invoker`: who signs, and for a program-derived address the seeds and bump to sign with. -/
inductive Invoker where
  | signer (key : Pubkey)
  | pda (key : Pubkey) (seeds : List Seed) (bump : UInt8)
  deriving DecidableEq, Repr

def Invoker.key : Invoker → Pubkey
  | .signer key => key
  | .pda key _ _ => key

/-- The signer seeds an invoker contributes to an invocation. -/
def Invoker.signerSeeds : Invoker → List (List Seed × UInt8)
  | .signer _ => []
  | .pda _ seeds bump => [(seeds, bump)]

/-- The keys that signed the instruction. -/
def Exec.signers (s : Exec D) : List Pubkey :=
  (s.accounts.filter fun m => m.isSigner).map fun m => m.key

/-- `invoke_signed_unchecked`: the signers of the instruction, and the addresses the seeds derive
under the calling program. -/
def invokeSigned (scheme : AddressScheme) (callerId : Pubkey)
    (signerSeeds : List (List Seed × UInt8))
    (f : List Pubkey → Ledger D → Except ProgramError (Ledger D)) : Processor D Unit := fun s =>
  match signerSeeds.mapM fun p => scheme.createProgramAddress p.1 p.2 callerId with
  | some derived => invoke (f (s.signers ++ derived)) s
  | none => .error (.err .invalidSeeds "")

/-- `try_create_account`. -/
def tryCreateAccount (scheme : AddressScheme) (rent : Rent) (callerId : Pubkey)
    (payer newAccount : Invoker) (currentLamports dataLen : Nat) (owner : Pubkey)
    (additionalLamports : Option Nat) : Processor D Unit := do
  let rentExemptionLamports := rent.minimumBalance dataLen
  let lamports := min (additionalLamports.getD 0 + rentExemptionLamports) (2 ^ 64 - 1)
  if currentLamports = 0 then
    invokeSigned scheme callerId (payer.signerSeeds ++ newAccount.signerSeeds) fun signers =>
      System.createAccount signers payer.key newAccount.key lamports dataLen owner
  else do
    invokeSigned scheme callerId newAccount.signerSeeds fun signers =>
      System.allocate signers newAccount.key dataLen
    invokeSigned scheme callerId newAccount.signerSeeds fun signers =>
      System.assign signers newAccount.key owner
    let lamportDiff := lamports - currentLamports
    -- Transfer as much as we need for this account to be rent-exempt.
    if lamportDiff ≠ 0 then
      invokeSigned scheme callerId payer.signerSeeds fun signers =>
        System.transfer signers payer.key newAccount.key lamportDiff
    else pure ()

/-- `try_create_token_account`. -/
def tryCreateTokenAccount (scheme : AddressScheme) (rent : Rent) (callerId : Pubkey)
    (payer newTokenAccount : Invoker) (mintKey tokenOwnerKey : Pubkey) (currentLamports : Nat) :
    Processor D Unit := do
  tryCreateAccount scheme rent callerId payer newTokenAccount currentLamports TOKEN_ACCOUNT_LEN
    tokenProgramId none
  invokeSigned scheme callerId [] fun _ =>
    Token.initializeAccount3 newTokenAccount.key mintKey tokenOwnerKey

omit [ZeroCopySum D] in
theorem invokeSigned_eq_ok {scheme : AddressScheme} {callerId : Pubkey}
    {seeds : List (List Seed × UInt8)}
    {f : List Pubkey → Ledger D → Except ProgramError (Ledger D)} {s : Exec D}
    {r : Unit × Exec D} :
    invokeSigned scheme callerId seeds f s = .ok r ↔
      ∃ derived, (seeds.mapM fun p => scheme.createProgramAddress p.1 p.2 callerId) = some derived ∧
        ∃ L, f (s.signers ++ derived) s.ledger = .ok L ∧ r = ((), { s with ledger := L }) := by
  unfold invokeSigned
  cases seeds.mapM fun p => scheme.createProgramAddress p.1 p.2 callerId with
  | none => simp
  | some derived => simp [invoke_eq_ok]

/-- Creating an account at a vacant address. -/
theorem System.createAccount_vacant {signers : List Pubkey}
    {source k owner : Pubkey} {lamports space : Nat} {L : Ledger D} (hsource : source ∈ signers)
    (hk : k ∈ signers) (hne : source ≠ k) (hzero : (L k).lamports = 0)
    (hempty : (L k).data.dataLen = 0) (hvacant : (L k).owner = systemProgramId)
    (hspace : space ≤ MAX_PERMITTED_DATA_LENGTH) (hnone : (L source).data.dataLen = 0)
    (hsystem : (L source).owner = systemProgramId) (hfunds : lamports ≤ (L source).lamports)
    (hfits : lamports < 2 ^ 64) :
    System.createAccount signers source k lamports space owner L =
      .ok ((L.debit source lamports).set k
        { L k with lamports := lamports, owner := owner, data := .zeroed space }) := by
  let L₂ := (L.write k (.zeroed space)).set k { L.write k (.zeroed space) k with owner := owner }
  have hother : ∀ k', k' ≠ k → L₂ k' = L k' := by
    intro k' hne'
    show Ledger.set _ _ _ k' = _
    rw [Ledger.set_of_ne _ _ hne', Ledger.write, Ledger.set_of_ne _ _ hne']
  have hself : L₂ k = { L k with owner := owner, data := .zeroed space } := by
    show Ledger.set _ _ _ k = _
    rw [Ledger.set_self, Ledger.write, Ledger.set_self]
  refine System.createAccount_eq_ok.2 ⟨hzero, _,
    System.allocate_eq_ok.2 ⟨hk, ⟨hempty, hvacant⟩, hspace, rfl⟩, L₂,
    System.assign_eq_ok.2 ⟨hk, by simpa using hvacant, rfl⟩,
    System.transfer_eq_ok.2 ⟨hsource, ?_, ?_, ?_, ?_, ?_⟩⟩
  · rw [hother _ hne]
    exact hnone
  · rw [hother _ hne]
    exact hsystem
  · rw [hother _ hne]
    exact hfunds
  · rw [Ledger.debit_lamports, if_neg hne.symm, hself]
    simpa [hzero] using hfits
  · funext k'
    by_cases hk' : k' = k
    · subst hk'
      rw [Ledger.set_self, Ledger.credit, Ledger.set_self, Ledger.debit,
        Ledger.set_of_ne _ _ hne.symm, hself, hzero, Nat.zero_add]
    · rw [Ledger.set_of_ne _ _ hk', Ledger.credit, Ledger.set_of_ne _ _ hk', Ledger.debit,
        Ledger.debit, Ledger.set_apply, Ledger.set_apply, hother _ hk', hother _ hne]

/-! ## What creation leaves behind -/

/-- The account at `k`, unused before, now belongs to `owner`, holds `data` and is rent exempt.
Nobody else's data or owner changes, and no account outside the System program loses or gains
lamports. -/
structure Allocated (rent : Rent) (k owner : Pubkey) (data : AccountData D) (L L' : Ledger D) :
    Prop where
  vacant : (L k).owner = systemProgramId
  empty : (L k).data.dataLen = 0
  data_eq : (L' k).data = data
  owner_eq : (L' k).owner = owner
  funded : rent.minimumBalance data.dataLen ≤ (L' k).lamports
  data_frame : ∀ k', k' ≠ k → (L' k').data = (L k').data
  owner_frame : ∀ k', k' ≠ k → (L' k').owner = (L k').owner
  lamports_frame : ∀ k', k' ≠ k → (L k').owner ≠ systemProgramId →
    (L' k').lamports = (L k').lamports

namespace Allocated

variable {rent : Rent} {k owner : Pubkey} {L L' : Ledger D}

theorem of_createAccount {signers : List Pubkey} {source : Pubkey} {lamports len : Nat}
    (hfund : rent.minimumBalance len ≤ lamports) (hlen : len ≠ 0)
    (h : System.createAccount signers source k lamports len owner L = .ok L') :
    Allocated rent k owner (.zeroed len) L L' ∧ lamports ≤ (L' k).lamports := by
  obtain ⟨-, L₁, h₁, L₂, h₂, h₃⟩ := System.createAccount_eq_ok.1 h
  obtain ⟨-, ⟨hempty, hvacant⟩, -, rfl⟩ := System.allocate_eq_ok.1 h₁
  obtain ⟨-, -, rfl⟩ := System.assign_eq_ok.1 h₂
  obtain ⟨-, hsrc, hsys, -, -, rfl⟩ := System.transfer_eq_ok.1 h₃
  have hne : source ≠ k := by
    rintro rfl
    simp only [Ledger.set_self, Ledger.write_data_self, AccountData.dataLen] at hsrc
    exact hlen hsrc
  refine ⟨⟨hvacant, hempty, ?_, ?_, ?_, ?_, ?_, ?_⟩, ?_⟩
  · simp
  · simp
  · simp only [Ledger.credit_lamports, if_true, AccountData.dataLen]
    omega
  · intro k' hk
    simp [Ledger.set_of_ne _ _ hk, Ledger.write_data, hk]
  · intro k' hk
    simp [Ledger.set_of_ne _ _ hk]
  · intro k' hk hown
    have hk' : k' ≠ source := by
      rintro rfl
      rw [Ledger.set_of_ne _ _ hk] at hsys
      exact hown (by simpa using hsys)
    simp [Ledger.credit_lamports, Ledger.debit_lamports, hk, hk', Ledger.set_of_ne _ _ hk]
  · simp only [Ledger.credit_lamports, if_true]
    omega

/-- Overwriting the new account's data by data of the same length. -/
theorem write {data data' : AccountData D} (h : Allocated rent k owner data L L')
    (hlen : data'.dataLen = data.dataLen) :
    Allocated rent k owner data' L (L'.write k data') := by
  refine ⟨h.vacant, h.empty, ?_, ?_, ?_, ?_, ?_, ?_⟩
  · simp
  · simp [h.owner_eq]
  · simpa [hlen] using h.funded
  · intro k' hk
    simp [Ledger.write_data, hk, h.data_frame k' hk]
  · intro k' hk
    simp [h.owner_frame k' hk]
  · intro k' hk hown
    simp [h.lamports_frame k' hk hown]

end Allocated

/-- Both paths of `try_create_account` leave an allocated account behind that holds the rent
exemption and the additional lamports. -/
theorem tryCreateAccount_ok {scheme : AddressScheme} {rent : Rent} {callerId owner : Pubkey}
    {payer newAccount : Invoker} {currentLamports len : Nat} {additional : Option Nat} {s : Exec D}
    {r : Unit × Exec D}
    (h : tryCreateAccount scheme rent callerId payer newAccount currentLamports len owner additional
      s = .ok r) (hcur : currentLamports = (s.ledger newAccount.key).lamports) (hlen : len ≠ 0) :
    ∃ L', r = ((), { s with ledger := L' }) ∧
      Allocated rent newAccount.key owner (.zeroed len) s.ledger L' ∧
      min (additional.getD 0 + rent.minimumBalance len) (2 ^ 64 - 1) ≤
        (L' newAccount.key).lamports := by
  have hfit := rent.fits len
  have hfund : rent.minimumBalance len ≤
      min (additional.getD 0 + rent.minimumBalance len) (2 ^ 64 - 1) := by omega
  unfold tryCreateAccount at h
  simp only [ite_eq_ok] at h
  rcases h with ⟨-, h⟩ | ⟨-, h⟩
  · obtain ⟨derived, -, L', hL, rfl⟩ := invokeSigned_eq_ok.1 h
    obtain ⟨hal, hfunded⟩ := Allocated.of_createAccount hfund hlen hL
    exact ⟨L', rfl, hal, hfunded⟩
  · simp only [bind_eq_ok, invokeSigned_eq_ok, ite_eq_ok, pure_eq_ok] at h
    obtain ⟨⟨⟩, s₁, ⟨derived, -, L₁, h₁, e₁⟩, ⟨⟩, s₂, ⟨derived₂, -, L₂, h₂, e₂⟩, h⟩ := h
    cases e₁; cases e₂
    obtain ⟨-, ⟨hempty, hvacant⟩, -, rfl⟩ := System.allocate_eq_ok.1 h₁
    obtain ⟨-, -, rfl⟩ := System.assign_eq_ok.1 h₂
    -- Allocation and assignment alone already leave everything but the funding in place.
    have hframe : ∀ k', k' ≠ newAccount.key →
        ((s.ledger.write newAccount.key (.zeroed len)).set newAccount.key
          { (s.ledger.write newAccount.key (.zeroed len)) newAccount.key with owner := owner }) k' =
          s.ledger k' := by
      intro k' hk
      rw [Ledger.set_of_ne _ _ hk, Ledger.write, Ledger.set_of_ne _ _ hk]
    rcases h with ⟨-, derived₃, -, L₃, h₃, rfl⟩ | ⟨hdiff, rfl⟩
    · refine ⟨L₃, rfl, ?_⟩
      obtain ⟨-, hsrc, hsys, -, -, rfl⟩ := System.transfer_eq_ok.1 h₃
      have hne : payer.key ≠ newAccount.key := by
        intro heq
        rw [heq] at hsrc
        simp only [Ledger.set_self, Ledger.write_data_self, AccountData.dataLen] at hsrc
        exact hlen hsrc
      refine ⟨⟨hvacant, hempty, by simp, by simp, ?_, ?_, ?_, ?_⟩, ?_⟩
      · simp only [Ledger.credit_lamports, Ledger.debit_lamports, if_true, if_neg hne.symm,
          AccountData.dataLen, Ledger.set_self, Ledger.write_lamports]
        omega
      · intro k' hk
        rw [Ledger.credit_data, Ledger.debit_data]
        exact congrArg Account.data (hframe k' hk)
      · intro k' hk
        rw [Ledger.credit_owner, Ledger.debit_owner]
        exact congrArg Account.owner (hframe k' hk)
      · intro k' hk hown
        have hk' : k' ≠ payer.key := by
          rintro rfl
          exact hown ((congrArg Account.owner (hframe _ hk)).symm.trans hsys)
        rw [Ledger.credit_lamports, Ledger.debit_lamports, if_neg hk, if_neg hk']
        exact congrArg Account.lamports (hframe k' hk)
      · simp only [Ledger.credit_lamports, Ledger.debit_lamports, if_true, if_neg hne.symm,
          Ledger.set_self, Ledger.write_lamports]
        omega
    · refine ⟨_, rfl, ⟨hvacant, hempty, by simp, by simp, ?_, ?_, ?_, ?_⟩, ?_⟩
      · simp only [Ledger.set_self, Ledger.write_lamports, AccountData.dataLen]
        omega
      · intro k' hk
        rw [hframe k' hk]
      · intro k' hk
        rw [hframe k' hk]
      · intro k' hk _
        rw [hframe k' hk]
      · simp only [Ledger.set_self, Ledger.write_lamports]
        omega

/-- A new token account is empty, belongs to its mint and its authority. -/
theorem tryCreateTokenAccount_ok {scheme : AddressScheme} {rent : Rent} {callerId : Pubkey}
    {payer newAccount : Invoker} {mint tokenOwner : Pubkey} {currentLamports : Nat} {s : Exec D}
    {r : Unit × Exec D}
    (h : tryCreateTokenAccount scheme rent callerId payer newAccount mint tokenOwner
      currentLamports s = .ok r) (hcur : currentLamports = (s.ledger newAccount.key).lamports) :
    ∃ L', r = ((), { s with ledger := L' }) ∧
      Allocated rent newAccount.key tokenProgramId (.token ⟨mint, tokenOwner, 0⟩) s.ledger L' := by
  unfold tryCreateTokenAccount at h
  obtain ⟨⟨⟩, s₁, h₁, h₂⟩ := bind_eq_ok.1 h
  obtain ⟨L₁, e₁, hal, -⟩ := tryCreateAccount_ok h₁ hcur (by decide)
  cases e₁
  obtain ⟨derived, -, L₂, hinit, rfl⟩ := invokeSigned_eq_ok.1 h₂
  obtain ⟨-, -, rfl⟩ := Token.initializeAccount3_eq_ok.1 hinit
  refine ⟨_, rfl, ?_⟩
  exact hal.write rfl

end DoubleZero.Solana
