import DoubleZero.Passport.Processor
import DoubleZero.Solana.Creation

/-!
# What the instructions do

`Effect` says what an instruction that went through found and wrote, one case for each way in which
the ledger changes. Whatever is proved about runs is proved from these cases.
-/

namespace DoubleZero.Passport

open DoubleZero.Lib DoubleZero.Solana
open DoubleZero.Lib.Borsh (Bytes)

/-- No fee takes the whole deposit. A config without a deposit lets nobody in. -/
def ProgramConfig.Sound (config : ProgramConfig) : Prop :=
  config.requestDepositLamports ≠ 0 → config.requestFeeLamports < config.requestDepositLamports

/-- The account at `k` without its lamports. -/
def emptied (L : PassportLedger) (k : Pubkey) : PassportLedger :=
  L.set k { L k with lamports := 0 }

/-- What a new account of this program with a value of `T` is given, `additional` apart from its
rent exemption. -/
def Runtime.endowment (rt : Runtime) (T : Type) [ZeroCopy AccountState T] (additional : Nat) :
    Nat :=
  min (additional + rt.rent.minimumBalance (dataEnd AccountState T)) (2 ^ 64 - 1)

inductive Effect (rt : Runtime) (call : Call) (L : PassportLedger) : PassportLedger → Prop
  | initializeProgram {payer k : Pubkey} {L₁ : PassportLedger}
      (hdata : call.data = .initializeProgram) (hpayer : call.key? 0 = some payer)
      (hkey : call.key? 1 = some k)
      (hcreated : Created payer k ID (dataEnd AccountState ProgramConfig)
        (rt.endowment ProgramConfig 0) L L₁) :
      Effect rt call L (L₁.write k (.zeroCopy (.programConfig default) []))
  | configure {k : Pubkey} {config config' : ProgramConfig} {rem : List (BitVec 8)}
      (hdata : (∃ adminKey, call.data = .setAdmin adminKey) ∨
        ∃ setting, call.data = .configureProgram setting)
      (hconfig : view ID L k = some (config, rem)) (hsound : config.Sound → config'.Sound) :
      Effect rt call L (L.write k (.zeroCopy (.programConfig config') rem))
  | requestAccess {accessMode : AccessMode} {configKey payer : Pubkey} {config : ProgramConfig}
      {rem : List (BitVec 8)} {deposit : UInt64} {L₁ : PassportLedger} {encodedAccessMode : Bytes}
      (hdata : call.data = .requestAccess accessMode) (hconfigKey : call.key? 0 = some configKey)
      (hconfig : view ID L configKey = some (config, rem))
      (hdeposit : config.checkedRequestDepositLamports = some deposit)
      (hpayer : call.key? 1 = some payer)
      (hkey : call.key? 2 = some (rt.requestKey accessMode.serviceKey))
      (hcreated : Created payer (rt.requestKey accessMode.serviceKey) ID
        (dataEnd AccountState AccessRequest) (rt.endowment AccessRequest deposit.toNat) L L₁)
      (hencoded : AccessRequest.encodeAccessMode accessMode = .ok encodedAccessMode) :
      Effect rt call L (L₁.write (rt.requestKey accessMode.serviceKey) (.zeroCopy (.accessRequest
        ⟨accessMode.serviceKey, payer, config.requestFeeLamports, encodedAccessMode⟩) []))
  | grantAccess {sentinel k : Pubkey} {request : AccessRequest} {rem : List (BitVec 8)}
      (hdata : call.data = .grantAccess) (hsentinel : call.key? 1 = some sentinel)
      (hkey : call.key? 2 = some k) (hrequest : view ID L k = some (request, rem))
      (hbeneficiary : call.key? 3 = some request.rentBeneficiaryKey) (hne : sentinel ≠ k)
      (hne' : request.rentBeneficiaryKey ≠ k) :
      Effect rt call L (emptied ((L.credit sentinel request.requestFeeLamports.toNat).credit
        request.rentBeneficiaryKey ((L k).lamports - request.requestFeeLamports.toNat)) k)
  | denyAccess {sentinel k : Pubkey} {request : AccessRequest} {rem : List (BitVec 8)}
      (hdata : call.data = .denyAccess) (hsentinel : call.key? 1 = some sentinel)
      (hkey : call.key? 2 = some k) (hrequest : view ID L k = some (request, rem))
      (hne : sentinel ≠ k) :
      Effect rt call L (emptied (L.credit sentinel (L k).lamports) k)

/-! ## Taking the processors apart -/

section

variable {rt : Runtime} {β : Type} {s : Exec AccountState} {r : β × Exec AccountState}

theorem addLamports_bind_ok {borrowed target : Pubkey} {n : Nat} {f : Unit → PassportProcessor β} :
    (addLamports borrowed target n >>= f) s = .ok r ↔
      target ≠ borrowed ∧ (s.ledger target).lamports + n < 2 ^ 64 ∧
        f () { s with ledger := s.ledger.credit target n } = .ok r := by
  simp only [bind_eq_ok, addLamports]
  by_cases hne : target = borrowed
  · simp [hne]
  · by_cases hlt : (s.ledger target).lamports + n < 2 ^ 64
    · simp only [hne, hlt, if_false, if_true, ne_eq, not_false_eq_true, true_and]
      constructor
      · rintro ⟨a, s₁, hs, h⟩
        cases hs
        exact h
      · exact fun h => ⟨(), _, rfl, h⟩
    · simp only [hne, hlt, if_false, reduceCtorEq, false_and, and_false, exists_false]

theorem authorized_bind_ok {authority : Authority} {config : ProgramConfig}
    {f : AccountInfo → PassportProcessor β} :
    (authority.tryNextAsAuthorizedAccount config >>= f) s = .ok r ↔
      ∃ m rest, s.iter = m :: rest ∧ m.isSigner = true ∧ m.key = authority.key config ∧
        f (s.info m) (s.advance rest) = .ok r := by
  simp only [Authority.tryNextAsAuthorizedAccount, ↓bind_bind_ok, ↓tryNext_bind_ok,
    ↓require_bind_ok, ↓pure_bind_ok, Exec.info_key]
  constructor
  · rintro ⟨m, rest, hm, ha, hkey, h⟩
    exact ⟨m, rest, hm, ha.1 rfl, hkey, h⟩
  · rintro ⟨m, rest, hm, hsigner, hkey, h⟩
    exact ⟨m, rest, hm, by simp [NextAccountOptions.Accepts, hsigner], hkey, h⟩

theorem verified_bind_ok {authority : Authority}
    {f : ZeroCopyAccount ProgramConfig × AccountInfo → PassportProcessor β} :
    (verifiedProgramAuthority authority >>= f) s = .ok r ↔
      ∃ m rest, s.iter = m :: rest ∧ ∃ config rem, view ID s.ledger m.key = some (config, rem) ∧
        ∃ m' rest', rest = m' :: rest' ∧ m'.isSigner = true ∧ m'.key = authority.key config ∧
          f (⟨s.info m, config, rem⟩, (s.advance rest).info m')
            ((s.advance rest).advance rest') = .ok r := by
  simp only [verifiedProgramAuthority, ↓bind_bind_ok, ↓zeroCopy_bind_ok, ↓authorized_bind_ok,
    ↓pure_bind_ok, Exec.advance_iter]

theorem verifiedMut_bind_ok {authority : Authority}
    {f : ZeroCopyAccount ProgramConfig → PassportProcessor β} :
    (verifiedProgramAuthorityMut authority >>= f) s = .ok r ↔
      ∃ m rest, s.iter = m :: rest ∧ m.isWritable = true ∧
        ∃ config rem, view ID s.ledger m.key = some (config, rem) ∧
        ∃ m' rest', rest = m' :: rest' ∧ m'.isSigner = true ∧ m'.key = authority.key config ∧
          f ⟨s.info m, config, rem⟩ ((s.advance rest).advance rest') = .ok r := by
  simp only [verifiedProgramAuthorityMut, ↓bind_bind_ok, ↓zeroCopyMut_bind_ok,
    ↓authorized_bind_ok, ↓pure_bind_ok, Exec.advance_iter]

theorem upgradeAuthority_ledger {r : Unit × Exec AccountState} (h : upgradeAuthority rt s = .ok r) :
    r.2.ledger = s.ledger := by
  simp only [upgradeAuthority, ↓tryNext_bind_ok, ↓require_bind_ok, ↓account_bind_ok,
    Exec.info_key, Exec.advance_ledger] at h
  obtain ⟨m, rest, -, -, -, m', rest', -, -, h⟩ := h
  generalize (s.ledger m.key).data = data at h
  cases data with
  | programData authority =>
    cases authority with
    | some authority =>
      obtain ⟨-, rfl⟩ := require_eq_ok.1 h
      rfl
    | none => exact (fail_eq_ok.1 h).elim
  | _ => exact (fail_eq_ok.1 h).elim

theorem tryConfigure_ok {config : ProgramConfig} {setting : ProgramConfiguration}
    {r : ProgramConfig × Exec AccountState} (h : config.tryConfigure setting s = .ok r) :
    r.2 = s ∧ (config.Sound → r.1.Sound) := by
  cases setting with
  | flag configuration =>
    cases configuration with
    | _ =>
      obtain rfl := pure_eq_ok.1 h
      exact ⟨rfl, id⟩
  | doubleZeroLedgerSentinel sentinelKey =>
    obtain rfl := pure_eq_ok.1 h
    exact ⟨rfl, id⟩
  | accessRequestDeposit deposit fee =>
    simp only [ProgramConfig.tryConfigure, ↓require_bind_ok, pure_eq_ok] at h
    obtain ⟨-, hlt, rfl⟩ := h
    exact ⟨rfl, fun _ _ => hlt⟩
  | solanaValidatorBackupIdsLimit limit =>
    simp only [ProgramConfig.tryConfigure, ↓require_bind_ok, pure_eq_ok] at h
    obtain ⟨-, rfl⟩ := h
    exact ⟨rfl, id⟩

theorem tryServiceKey_ok {config : ProgramConfig} {accessMode : AccessMode}
    {r : Pubkey × Exec AccountState} (h : config.tryServiceKey accessMode s = .ok r) :
    r = (accessMode.serviceKey, s) := by
  cases accessMode with
  | solanaValidator attestation => exact pure_eq_ok.1 h
  | solanaValidatorWithBackupIds attestation backupIds =>
    simp only [ProgramConfig.tryServiceKey, ↓require_bind_ok, pure_eq_ok] at h
    exact h.2.2

theorem createOwned_created {T : Type} [ZeroCopy AccountState T] {payer newAccount : AccountInfo}
    {seeds : List Seed} {bump : UInt8} {additional : Option Nat} {r : Unit × Exec AccountState}
    (h : rt.createOwned payer newAccount seeds bump (dataEnd AccountState T) additional s = .ok r) :
    ∃ L', r = ((), { s with ledger := L' }) ∧ Created payer.key newAccount.key ID
      (dataEnd AccountState T) (rt.endowment T (additional.getD 0)) s.ledger L' := by
  rw [Runtime.createOwned, account_bind_ok] at h
  exact tryCreateAccount_created h rfl fun h => absurd h.2.2 (by decide)

end

/-! ## Each instruction -/

section

variable {rt : Runtime} {call : Call} {L : PassportLedger} {r : Unit × Exec AccountState}

theorem key?_of_accounts (ms : List AccountMeta) {rest : List AccountMeta} {m : AccountMeta}
    (h : call.accounts = ms ++ m :: rest) : call.key? ms.length = some m.key := by
  simp [Call.key?, h]

theorem tryInitializeProgram_effect (hdata : call.data = .initializeProgram)
    (h : tryInitializeProgram rt (call.exec L) = .ok r) : Effect rt call L r.2.ledger := by
  simp only [tryInitializeProgram, ↓tryNext_bind_ok, accepts_default, true_and, ↓require_bind_ok,
    Exec.advance_iter, Exec.info_key] at h
  obtain ⟨m₀, r₀, hit, m₁, r₁, rfl, -, h⟩ := h
  obtain ⟨⟨⟩, s₁, hcreate, h⟩ := bind_eq_ok.1 h
  obtain ⟨L₁, e₁, hcreated⟩ := createOwned_created hcreate
  cases e₁
  simp only [↓tryInitialize_bind_ok, store_eq_ok, Exec.info_key] at h
  obtain ⟨len, hlen, -, rfl⟩ := h
  have hzeroed := congrArg Account.data hcreated.account
  cases hzeroed.symm.trans hlen
  rw [Nat.sub_self, List.replicate_zero]
  exact .initializeProgram hdata (key?_of_accounts [] hit)
    (key?_of_accounts [m₀] hit) hcreated

theorem trySetAdmin_effect {adminKey : Pubkey} (hdata : call.data = .setAdmin adminKey)
    (h : trySetAdmin rt adminKey (call.exec L) = .ok r) : Effect rt call L r.2.ledger := by
  simp only [trySetAdmin, bind_eq_ok, tryNextZeroCopyMut_eq_ok, store_eq_ok] at h
  obtain ⟨⟨⟩, s₁, hauthority, account, s₂, ⟨m, rest, -, -, config, rem, hconfig, e₂⟩, rfl⟩ := h
  cases e₂
  have hledger : s₁.ledger = L := upgradeAuthority_ledger hauthority
  rw [hledger] at hconfig
  dsimp only [Exec.advance_ledger]
  rw [hledger]
  have hsound : config.Sound → ({ config with adminKey := adminKey } : ProgramConfig).Sound := id
  exact .configure (.inl ⟨adminKey, hdata⟩) hconfig hsound

theorem tryConfigureProgram_effect {setting : ProgramConfiguration}
    (hdata : call.data = .configureProgram setting)
    (h : tryConfigureProgram setting (call.exec L) = .ok r) : Effect rt call L r.2.ledger := by
  simp only [tryConfigureProgram, ↓verifiedMut_bind_ok] at h
  obtain ⟨m₀, r₀, hit, -, config, rem, hconfig, m₁, r₁, rfl, -, -, h⟩ := h
  obtain ⟨config', s₁, hconfigured, h⟩ := bind_eq_ok.1 h
  obtain ⟨rfl, hsound⟩ := tryConfigure_ok hconfigured
  cases store_eq_ok.1 h
  exact .configure (.inr ⟨setting, hdata⟩) hconfig hsound

theorem tryRequestAccess_effect {accessMode : AccessMode}
    (hdata : call.data = .requestAccess accessMode)
    (h : tryRequestAccess rt call.stackHeight accessMode (call.exec L) = .ok r) :
    Effect rt call L r.2.ledger := by
  simp only [tryRequestAccess, ProgramConfig.tryRequireUnpaused, ↓require_bind_ok,
    ↓zeroCopy_bind_ok] at h
  obtain ⟨-, m₀, r₀, hit, config, rem, hconfig, -, -, h⟩ := h
  obtain ⟨serviceKey, s₁, hservice, h⟩ := bind_eq_ok.1 h
  cases tryServiceKey_ok hservice
  simp only [↓require_bind_ok, ↓okOr_bind_ok, ↓tryNext_bind_ok, accepts_default, true_and,
    Exec.advance_iter, Exec.info_key] at h
  obtain ⟨-, deposit, hdeposit, m₁, r₁, rfl, m₂, r₂, rfl, hkey, h⟩ := h
  obtain ⟨⟨⟩, s₁, hcreate, h⟩ := bind_eq_ok.1 h
  obtain ⟨L₁, e₁, hcreated⟩ := createOwned_created hcreate
  cases e₁
  simp only [↓tryInitialize_bind_ok, ↓okOr_bind_ok, store_eq_ok, Exec.info_key] at h
  obtain ⟨len, hlen, -, encodedAccessMode, hencoded, rfl⟩ := h
  have hzeroed := congrArg Account.data hcreated.account
  cases hzeroed.symm.trans hlen
  rw [Nat.sub_self, List.replicate_zero]
  have hrequest := key?_of_accounts [m₀, m₁] hit
  simp only [Exec.info_key, hkey] at hcreated hrequest ⊢
  exact .requestAccess hdata (key?_of_accounts [] hit) hconfig hdeposit
    (key?_of_accounts [m₀] hit) hrequest hcreated (toOption_eq_some.1 hencoded)

theorem tryGrantAccess_effect (hdata : call.data = .grantAccess)
    (h : tryGrantAccess (call.exec L) = .ok r) : Effect rt call L r.2.ledger := by
  simp only [tryGrantAccess, ProgramConfig.tryRequireUnpaused, clearLamports, ↓verified_bind_ok,
    ↓require_bind_ok, ↓zeroCopy_bind_ok, ↓account_bind_ok, ↓addLamports_bind_ok, ↓tryNext_bind_ok,
    accepts_default, true_and, modifyLedger_eq_ok, Exec.advance_iter, Exec.info_key] at h
  obtain ⟨m₀, r₀, hit, config, rem, -, m₁, r₁, rfl, -, -, -, m₂, r₂, rfl, request, rem', hrequest,
    hne, -, m₃, r₃, rfl, hbeneficiary, hne', -, rfl⟩ := h
  rw [hbeneficiary] at hne'
  have hbeneficiary' := key?_of_accounts [m₀, m₁, m₂] hit
  simp only [hbeneficiary] at hbeneficiary' ⊢
  exact .grantAccess hdata (key?_of_accounts [m₀] hit) (key?_of_accounts [m₀, m₁] hit) hrequest
    hbeneficiary' hne hne'

theorem tryDenyAccess_effect (hdata : call.data = .denyAccess)
    (h : tryDenyAccess (call.exec L) = .ok r) : Effect rt call L r.2.ledger := by
  simp only [tryDenyAccess, ProgramConfig.tryRequireUnpaused, clearLamports, ↓verified_bind_ok,
    ↓require_bind_ok, ↓zeroCopy_bind_ok, ↓account_bind_ok, ↓addLamports_bind_ok,
    modifyLedger_eq_ok, Exec.advance_iter, Exec.info_key] at h
  obtain ⟨m₀, r₀, hit, config, rem, -, m₁, r₁, rfl, -, -, -, m₂, r₂, rfl, request, rem', hrequest,
    hne, -, rfl⟩ := h
  exact .denyAccess hdata (key?_of_accounts [m₀] hit)
    (key?_of_accounts [m₀, m₁] hit) hrequest hne

theorem execute_effect {L' : PassportLedger} (h : execute rt call L = .ok L') :
    Effect rt call L L' := by
  obtain ⟨r, hr, rfl⟩ := execute_eq_ok.1 h
  cases hdata : call.data with
  | _ =>
    simp only [tryProcessInstruction, hdata] at hr
    first
    | exact tryInitializeProgram_effect hdata hr
    | exact trySetAdmin_effect hdata hr
    | exact tryConfigureProgram_effect hdata hr
    | exact tryRequestAccess_effect hdata hr
    | exact tryGrantAccess_effect hdata hr
    | exact tryDenyAccess_effect hdata hr

end

/-! ## What a given instruction does -/

namespace Effect

variable {rt : Runtime} {call : Call} {L L' : PassportLedger}

theorem of_requestAccess {accessMode : AccessMode} (h : Effect rt call L L')
    (hdata : call.data = .requestAccess accessMode) :
    ∃ payer deposit L₁ request, Created payer (rt.requestKey accessMode.serviceKey) ID
        (dataEnd AccountState AccessRequest) (rt.endowment AccessRequest deposit) L L₁ ∧
      AccessRequest.encodeAccessMode accessMode = .ok request.encodedAccessMode ∧
      L' = L₁.write (rt.requestKey accessMode.serviceKey)
        (.zeroCopy (.accessRequest request) []) := by
  cases h with
  | requestAccess hdata' _ _ _ _ _ hcreated hencoded =>
    cases hdata.symm.trans hdata'
    exact ⟨_, _, _, _, hcreated, hencoded, rfl⟩
  | configure hdata' =>
    rcases hdata' with ⟨_, hdata'⟩ | ⟨_, hdata'⟩ <;> cases hdata.symm.trans hdata'
  | initializeProgram hdata' | grantAccess hdata' | denyAccess hdata' =>
    cases hdata.symm.trans hdata'

theorem of_grantAccess (h : Effect rt call L L') (hdata : call.data = .grantAccess) :
    ∃ sentinel k request rem, call.key? 1 = some sentinel ∧ call.key? 2 = some k ∧
      call.key? 3 = some request.rentBeneficiaryKey ∧
      view ID L k = some ((request, rem) : AccessRequest × List (BitVec 8)) ∧ sentinel ≠ k ∧
      request.rentBeneficiaryKey ≠ k ∧
      L' = emptied ((L.credit sentinel request.requestFeeLamports.toNat).credit
        request.rentBeneficiaryKey ((L k).lamports - request.requestFeeLamports.toNat)) k := by
  cases h with
  | grantAccess _ hsentinel hkey hrequest hbeneficiary hne hne' =>
    exact ⟨_, _, _, _, hsentinel, hkey, hbeneficiary, hrequest, hne, hne', rfl⟩
  | configure hdata' =>
    rcases hdata' with ⟨_, hdata'⟩ | ⟨_, hdata'⟩ <;> cases hdata.symm.trans hdata'
  | initializeProgram hdata' | requestAccess hdata' | denyAccess hdata' =>
    cases hdata.symm.trans hdata'

theorem of_denyAccess (h : Effect rt call L L') (hdata : call.data = .denyAccess) :
    ∃ sentinel k request rem, call.key? 1 = some sentinel ∧ call.key? 2 = some k ∧
      view ID L k = some ((request, rem) : AccessRequest × List (BitVec 8)) ∧ sentinel ≠ k ∧
      L' = emptied (L.credit sentinel (L k).lamports) k := by
  cases h with
  | denyAccess _ hsentinel hkey hrequest hne =>
    exact ⟨_, _, _, _, hsentinel, hkey, hrequest, hne, rfl⟩
  | configure hdata' =>
    rcases hdata' with ⟨_, hdata'⟩ | ⟨_, hdata'⟩ <;> cases hdata.symm.trans hdata'
  | initializeProgram hdata' | requestAccess hdata' | grantAccess hdata' =>
    cases hdata.symm.trans hdata'

end Effect

/-! ## What becomes of an account -/

/-- Whether the instruction makes, grants or denies the access request at `k`. -/
def Call.touches (rt : Runtime) (k : Pubkey) (call : Call) : Bool :=
  match call.data with
  | .requestAccess accessMode => rt.requestKey accessMode.serviceKey = k
  | .grantAccess | .denyAccess => call.key? 2 = some k
  | _ => false

section

variable {L L' : PassportLedger} {k k' : Pubkey}

theorem emptied_lamports :
    (emptied L k k').lamports = if k' = k then 0 else (L k').lamports := by
  unfold emptied Ledger.set
  split <;> rfl

@[simp] theorem emptied_owner : (emptied L k k').owner = (L k').owner := by
  unfold emptied Ledger.set
  split
  · next h => subst h; rfl
  · rfl

@[simp] theorem emptied_data : (emptied L k k').data = (L k').data := by
  unfold emptied Ledger.set
  split
  · next h => subst h; rfl
  · rfl

theorem view_congr {T : Type} [ZeroCopy AccountState T] (howner : (L' k).owner = (L k).owner)
    (hdata : (L' k).data = (L k).data) :
    (view ID L' k : Option (T × List (BitVec 8))) = view ID L k := by
  unfold view
  rw [howner, hdata]

theorem write_of_ne {data : AccountData AccountState} (hk : k' ≠ k) : L.write k data k' = L k' :=
  Ledger.set_of_ne _ _ hk

/-- An account of the program that creation and the write to the new account leave alone. -/
theorem of_created {payer : Pubkey} {len lamports : Nat} {data : AccountData AccountState}
    (hcreated : Created payer k ID len lamports L L') (hk : k' ≠ k)
    (howner : (L'.write k data k').owner = ID) : L'.write k data k' = L k' := by
  rw [write_of_ne hk] at howner ⊢
  rw [(hcreated.owner_data_frame hk).1] at howner
  exact hcreated.of_owner (by decide) howner

end

namespace Effect

variable {rt : Runtime} {call : Call} {L L' : PassportLedger} {k : Pubkey}

/-- An account is either one that the instruction writes data to, or it keeps its owner and data. -/
theorem owner_eq (h : Effect rt call L L') (howner : (L k).owner = ID) : (L' k).owner = ID := by
  cases h with
  | initializeProgram _ _ _ hcreated =>
    rw [Ledger.write_owner, hcreated.of_owner (by decide) howner, howner]
  | requestAccess _ _ _ _ _ _ hcreated _ =>
    rw [Ledger.write_owner, hcreated.of_owner (by decide) howner, howner]
  | configure => rw [Ledger.write_owner, howner]
  | grantAccess | denyAccess => simp [howner]

/-- Nothing but granting and denying a request takes lamports from an account of the program. -/
theorem lamports_le (h : Effect rt call L L') (howner : (L k).owner = ID)
    (huntouched : call.touches rt k = false) : (L k).lamports ≤ (L' k).lamports := by
  cases h with
  | initializeProgram _ _ _ hcreated =>
    rw [Ledger.write_lamports, hcreated.of_owner (by decide) howner]
  | requestAccess _ _ _ _ _ _ hcreated _ =>
    rw [Ledger.write_lamports, hcreated.of_owner (by decide) howner]
  | configure => rw [Ledger.write_lamports]
  | @grantAccess _ closed _ _ hdata _ hkey | @denyAccess _ closed _ _ hdata _ hkey =>
    have hne : k ≠ closed := by
      rintro rfl
      simp [Call.touches, hdata, hkey] at huntouched
    simp only [emptied_lamports, if_neg hne, Ledger.credit_lamports]
    omega

/-- A config found afterwards is sound and holds lamports, if it was and did before. -/
theorem config_eq (h : Effect rt call L L') {config : ProgramConfig} {rem : List (BitVec 8)}
    (hview : view ID L' k = some (config, rem)) :
    (config.Sound ∧ 0 < (L' k).lamports) ∨
      ∃ config₀ : ProgramConfig, view ID L k = some (config₀, rem) ∧
        (config₀.Sound → config.Sound) ∧ (L k).lamports ≤ (L' k).lamports := by
  obtain ⟨howner, hdata⟩ := view_eq_some.1 hview
  cases h with
  | @initializeProgram _ created L₁ _ _ _ hcreated =>
    by_cases hk : k = created
    · subst hk
      rw [Ledger.write_data_self] at hdata
      cases hdata
      refine .inl ⟨fun hdeposit => absurd rfl hdeposit, ?_⟩
      have hpos := rt.rent.pos (dataEnd AccountState ProgramConfig)
      rw [Ledger.write_lamports, hcreated.account]
      simp only [Runtime.endowment]
      omega
    · have hsame := of_created hcreated hk howner
      rw [hsame] at howner hdata ⊢
      exact .inr ⟨config, view_eq_some.2 ⟨howner, hdata⟩, id, le_rfl⟩
  | @configure configured config₀ config' rem₀ _ hconfig hsound =>
    by_cases hk : k = configured
    · subst hk
      rw [Ledger.write_data_self] at hdata
      cases hdata
      exact .inr ⟨config₀, hconfig, hsound, (Ledger.write_lamports ..).ge⟩
    · rw [write_of_ne hk] at howner hdata ⊢
      exact .inr ⟨config, view_eq_some.2 ⟨howner, hdata⟩, id, le_rfl⟩
  | @requestAccess accessMode _ _ _ _ _ L₁ _ _ _ _ _ _ _ hcreated _ =>
    by_cases hk : k = rt.requestKey accessMode.serviceKey
    · subst hk
      rw [Ledger.write_data_self] at hdata
      cases hdata
    · have hsame := of_created hcreated hk howner
      rw [hsame] at howner hdata ⊢
      exact .inr ⟨config, view_eq_some.2 ⟨howner, hdata⟩, id, le_rfl⟩
  | @grantAccess _ closed _ _ _ _ _ hrequest | @denyAccess _ closed _ _ _ _ _ hrequest =>
    simp only [emptied_owner, Ledger.credit_owner] at howner
    simp only [emptied_data, Ledger.credit_data] at hdata
    have hk : k ≠ closed := by
      rintro rfl
      cases hdata.symm.trans (view_eq_some.1 hrequest).2
    refine .inr ⟨config, view_eq_some.2 ⟨howner, hdata⟩, id, ?_⟩
    simp only [emptied_lamports, if_neg hk, Ledger.credit_lamports]
    omega

/-- A request found afterwards was made by this instruction, or it was there before. -/
theorem request_eq (h : Effect rt call L L') {request : AccessRequest} {rem : List (BitVec 8)}
    (hview : view ID L' k = some (request, rem)) :
    (∃ accessMode configKey config crem deposit, call.data = .requestAccess accessMode ∧
      rt.requestKey accessMode.serviceKey = k ∧ call.key? 0 = some configKey ∧
      view ID L configKey = some ((config, crem) : ProgramConfig × List (BitVec 8)) ∧
      config.checkedRequestDepositLamports = some deposit ∧
      request.requestFeeLamports = config.requestFeeLamports ∧ configKey ≠ k ∧
      L' configKey = L configKey ∧
      rt.endowment AccessRequest deposit.toNat ≤ (L' k).lamports) ∨
    (view ID L k = some (request, rem) ∧
      ∀ accessMode, call.data = .requestAccess accessMode →
        rt.requestKey accessMode.serviceKey ≠ k) := by
  obtain ⟨howner, hdata⟩ := view_eq_some.1 hview
  cases h with
  | @initializeProgram _ created L₁ hcall _ _ hcreated =>
    have hk : k ≠ created := by
      rintro rfl
      rw [Ledger.write_data_self] at hdata
      cases hdata
    have hsame := of_created hcreated hk howner
    rw [hsame] at howner hdata
    refine .inr ⟨view_eq_some.2 ⟨howner, hdata⟩, fun _ hcall' => ?_⟩
    cases hcall.symm.trans hcall'
  | @configure configured config₀ config' rem₀ hcall hconfig hsound =>
    have hk : k ≠ configured := by
      rintro rfl
      rw [Ledger.write_data_self] at hdata
      cases hdata
    rw [write_of_ne hk] at howner hdata
    refine .inr ⟨view_eq_some.2 ⟨howner, hdata⟩, fun _ hcall' => ?_⟩
    rcases hcall with ⟨_, hcall⟩ | ⟨_, hcall⟩ <;> cases hcall.symm.trans hcall'
  | @requestAccess accessMode configKey _ config crem deposit L₁ _ hcall hconfigKey hconfig
      hdeposit _ _ hcreated _ =>
    have hconfigOwner := (view_eq_some.1 hconfig).1
    by_cases hk : k = rt.requestKey accessMode.serviceKey
    · subst hk
      rw [Ledger.write_data_self] at hdata
      cases hdata
      have hne : configKey ≠ rt.requestKey accessMode.serviceKey := by
        rintro rfl
        rw [hcreated.vacant.1] at hconfigOwner
        exact absurd hconfigOwner (by decide)
      have hsame : L₁ configKey = L configKey := hcreated.of_owner (by decide) hconfigOwner
      refine .inl ⟨accessMode, configKey, config, crem, deposit, hcall, rfl, hconfigKey, hconfig,
        hdeposit, rfl, hne, (write_of_ne hne).trans hsame, ?_⟩
      rw [Ledger.write_lamports, hcreated.account]
      exact le_max_right _ _
    · have hsame := of_created hcreated hk howner
      rw [hsame] at howner hdata
      refine .inr ⟨view_eq_some.2 ⟨howner, hdata⟩, fun _ hcall' => ?_⟩
      cases hcall.symm.trans hcall'
      exact fun heq => hk heq.symm
  | @grantAccess _ closed _ _ hcall _ _ hrequest | @denyAccess _ closed _ _ hcall _ _ hrequest =>
    simp only [emptied_owner, Ledger.credit_owner] at howner
    simp only [emptied_data, Ledger.credit_data] at hdata
    refine .inr ⟨view_eq_some.2 ⟨howner, hdata⟩, fun _ hcall' => ?_⟩
    cases hcall.symm.trans hcall'

end Effect

/-! ## What is paid -/

section

variable {L : PassportLedger} {k p q : Pubkey} {m n : Nat}

/-- What `k` had against what two others got. -/
theorem paid_exchange (hp : p ≠ k) (hq : q ≠ k) (k' : Pubkey) :
    (emptied ((L.credit p m).credit q n) k k').lamports +
        (if k' = k then (L k).lamports else 0) =
      (L k').lamports + ((if k' = p then m else 0) + if k' = q then n else 0) := by
  rw [emptied_lamports, Ledger.credit_lamports, Ledger.credit_lamports]
  by_cases hk : k' = k
  · subst hk
    simp [Ne.symm hp, Ne.symm hq]
  · simp only [hk, if_false]
    omega

theorem paid_sum (hp : p ≠ k) (hq : q ≠ k) {T : Finset Pubkey} (hT : {k, p, q} ⊆ T) :
    ∑ k' ∈ T, (emptied ((L.credit p m).credit q n) k k').lamports + (L k).lamports =
      ∑ k' ∈ T, (L k').lamports + (m + n) := by
  have hsum : ∑ k' ∈ T, ((emptied ((L.credit p m).credit q n) k k').lamports +
      if k' = k then (L k).lamports else 0) =
      ∑ k' ∈ T, ((L k').lamports + ((if k' = p then m else 0) + if k' = q then n else 0)) :=
    Finset.sum_congr rfl fun k' _ => paid_exchange hp hq k'
  rwa [Finset.sum_add_distrib, Finset.sum_add_distrib, Finset.sum_add_distrib,
    Conserves.sum_single _ (by simp) hT, Conserves.sum_single _ (by simp) hT,
    Conserves.sum_single _ (by simp) hT] at hsum

/-- No lamports are made or lost when what is paid out is what was there. -/
theorem paid_conserves (hp : p ≠ k) (hq : q ≠ k) (hall : m + n = (L k).lamports) :
    Conserves L (emptied ((L.credit p m).credit q n) k) := by
  refine ⟨{k, p, q}, fun T hT => ?_⟩
  have hsum := paid_sum (L := L) (m := m) (n := n) hp hq hT
  omega

/-- Paying one account is paying two, the second nothing. -/
theorem credit_zero : (L.credit p m).credit p 0 = L.credit p m := by
  funext k'
  by_cases hk : k' = p
  · subst hk
    simp [Ledger.credit]
  · rw [Ledger.credit, Ledger.set_of_ne _ _ hk]

variable {call : Call}

theorem mem_of_key? {i : Nat} (h : call.key? i = some k) :
    k ∈ (call.accounts.map AccountMeta.key).toFinset := by
  obtain ⟨m, hm, rfl⟩ := Option.map_eq_some_iff.1 h
  exact List.mem_toFinset.2 (List.mem_map_of_mem (List.mem_of_getElem? hm))

/-- The runtime's balance check lets through exactly what pays out what was there. -/
theorem paid_balanced_iff {i j i' : Nat} (hk : call.key? i = some k) (hp : call.key? j = some p)
    (hq : call.key? i' = some q) (hpk : p ≠ k) (hqk : q ≠ k) :
    call.lamports (emptied ((L.credit p m).credit q n) k) = call.lamports L ↔
      m + n = (L k).lamports := by
  have hsubset : {k, p, q} ⊆ (call.accounts.map AccountMeta.key).toFinset := by
    simp [Finset.insert_subset_iff, mem_of_key? hk, mem_of_key? hp, mem_of_key? hq]
  have hsum := paid_sum (L := L) (m := m) (n := n) hpk hqk hsubset
  unfold Call.lamports
  omega

end

/-- What the runtime lets through makes and loses no lamports. -/
theorem Effect.conserves {rt : Runtime} {call : Call} {L L' : PassportLedger}
    (h : Effect rt call L L') (hbalance : call.lamports L' = call.lamports L) :
    Conserves L L' := by
  cases h with
  | initializeProgram _ _ _ hcreated | requestAccess _ _ _ _ _ _ hcreated _ =>
    exact hcreated.conserves.trans (.of_lamports fun k => Ledger.write_lamports ..)
  | configure => exact .of_lamports fun k => Ledger.write_lamports ..
  | grantAccess _ hsentinel hkey _ hbeneficiary hne hne' =>
    exact paid_conserves hne hne'
      ((paid_balanced_iff hkey hsentinel hbeneficiary hne hne').1 hbalance)
  | denyAccess _ _ _ _ hne =>
    rw [← credit_zero]
    exact paid_conserves hne hne (Nat.add_zero _)

end DoubleZero.Passport
