import DoubleZero.Passport.Deposits

/-!
# Who decides about access

The config sits at one address and is the settings of the run one after the other
(`config_in_force`), each under the authority of its moment. A pending request stays what it was
made until the sentinel of that config, while the program is not paused, grants or denies it
(`request_custody`).
-/

namespace DoubleZero.Passport

open DoubleZero.Lib DoubleZero.Solana

/-- The address of the program config. -/
def Runtime.configKey (rt : Runtime) : Pubkey := (rt.find ProgramConfig.seeds).1

def Call.Signed (call : Call) (k : Pubkey) : Prop :=
  ∃ m ∈ call.accounts, m.key = k ∧ m.isSigner = true

/-! ## Settings -/

/-- What a setting overwrites. -/
def ProgramConfig.apply (config : ProgramConfig) : ProgramConfiguration → ProgramConfig
  | .flag (.isPaused shouldPause) => config.setIsPaused shouldPause
  | .flag (.isRequestAccessPaused shouldPause) => config.setIsRequestAccessPaused shouldPause
  | .doubleZeroLedgerSentinel sentinelKey => { config with sentinelKey := sentinelKey }
  | .accessRequestDeposit depositLamports feeLamports => { config with
      requestDepositLamports := depositLamports, requestFeeLamports := feeLamports }
  | .solanaValidatorBackupIdsLimit limit =>
    { config with solanaValidatorBackupIdsLimit := limit }

/-- The values a setting may have. -/
def ProgramConfiguration.InRange : ProgramConfiguration → Prop
  | .accessRequestDeposit depositLamports feeLamports =>
    depositLamports ≠ 0 ∧ feeLamports < depositLamports
  | .solanaValidatorBackupIdsLimit limit => limit ≠ 0
  | _ => True

/-- The config a call leaves, from the one it finds. -/
def Call.configured (call : Call) (config : ProgramConfig) : ProgramConfig :=
  match call.data with
  | .initializeProgram => default
  | .setAdmin adminKey => { config with adminKey := adminKey }
  | .configureProgram setting => config.apply setting
  | _ => config

/-- The config after the calls of a history. -/
def configured : History → ProgramConfig
  | [] => default
  | e :: h =>
    match e.label with
    | .call call => call.configured (configured h)
    | _ => configured h

section

variable {rt : Runtime} {s : Exec AccountState}

theorem tryConfigure_eq_ok {config : ProgramConfig} {setting : ProgramConfiguration}
    {r : ProgramConfig × Exec AccountState} :
    config.tryConfigure setting s = .ok r ↔ setting.InRange ∧ r = (config.apply setting, s) := by
  cases setting with
  | flag configuration =>
    cases configuration <;>
      simp [ProgramConfig.tryConfigure, ProgramConfig.apply, ProgramConfiguration.InRange,
        pure_eq_ok]
  | doubleZeroLedgerSentinel sentinelKey =>
    simp [ProgramConfig.tryConfigure, ProgramConfig.apply, ProgramConfiguration.InRange, pure_eq_ok]
  | accessRequestDeposit deposit fee =>
    simp only [ProgramConfig.tryConfigure, ↓require_bind_ok, pure_eq_ok,
      ProgramConfiguration.InRange, ProgramConfig.apply, and_assoc]
  | solanaValidatorBackupIdsLimit limit =>
    simp only [ProgramConfig.tryConfigure, ↓require_bind_ok, pure_eq_ok,
      ProgramConfiguration.InRange, ProgramConfig.apply]

theorem upgradeAuthority_ok {r : Unit × Exec AccountState} (h : upgradeAuthority rt s = .ok r) :
    ∃ m m' rest, s.iter = m :: m' :: rest ∧ m'.isSigner = true ∧
      (s.ledger rt.programDataAddress).data = .programData (some m'.key) ∧
      r.2.ledger = s.ledger := by
  have hledger := upgradeAuthority_ledger h
  simp only [upgradeAuthority, ↓tryNext_bind_ok, ↓require_bind_ok, ↓account_bind_ok,
    Exec.info_key, Exec.advance_iter, Exec.advance_ledger] at h
  obtain ⟨m, rest, hm, -, hkey, m', rest', rfl, ha, h⟩ := h
  refine ⟨m, m', rest', hm, ha.1 rfl, ?_, hledger⟩
  rw [← hkey]
  generalize (s.ledger m.key).data = data at h ⊢
  cases data with
  | programData authority =>
    cases authority with
    | some authority =>
      obtain ⟨hauthority, -⟩ := require_eq_ok.1 h
      rw [hauthority]
    | none => exact (fail_eq_ok.1 h).elim
  | _ => exact (fail_eq_ok.1 h).elim

end

/-! ## One call -/

/-- The config that the program reads. -/
def InForce (rt : Runtime) (L : PassportLedger) (config : ProgramConfig) : Prop :=
  ∃ rem, view ID L rt.configKey = some ((config, rem) : ProgramConfig × List (BitVec 8))

/-- What an instruction must have to go through. -/
def Authorized (rt : Runtime) (call : Call) (L : PassportLedger) : Prop :=
  match call.data with
  | .initializeProgram => (L rt.configKey).owner = systemProgramId
  | .setAdmin _ => ∃ authority,
    (L rt.programDataAddress).data = .programData (some authority) ∧ call.Signed authority
  | .configureProgram setting =>
    setting.InRange ∧ ∃ config, InForce rt L config ∧ call.Signed config.adminKey
  | .requestAccess _ => call.stackHeight = TRANSACTION_LEVEL_STACK_HEIGHT ∧
    ∃ config, InForce rt L config ∧ config.isPaused = false ∧
      config.isRequestAccessPaused = false ∧ config.checkedRequestDepositLamports ≠ none
  | .grantAccess | .denyAccess => ∃ config, InForce rt L config ∧ config.isPaused = false ∧
    call.key? 1 = some config.sentinelKey ∧ call.Signed config.sentinelKey

/-- No config but `config`, and that one at its address. -/
def ConfigsAre (rt : Runtime) (L : PassportLedger) (config : ProgramConfig) : Prop :=
  ∀ (k : Pubkey) (config' : ProgramConfig) (rem : List (BitVec 8)),
    view ID L k = some (config', rem) → k = rt.configKey ∧ config' = config

section

variable {rt : Runtime} {call : Call} {L L' : PassportLedger} {k : Pubkey}
  {config config₀ config' : ProgramConfig} {rem rem' : List (BitVec 8)}

theorem ConfigsAre.inForce (h : ConfigsAre rt L config)
    (hview : view ID L k = some (config₀, rem)) : InForce rt L config₀ := by
  obtain ⟨rfl, -⟩ := h k config₀ rem hview
  exact ⟨rem, hview⟩

theorem ConfigsAre.write (h : ConfigsAre rt L config)
    (hview : view ID L k = some (config₀, rem)) :
    ConfigsAre rt (L.write k (.zeroCopy (.programConfig config') rem')) config' := by
  intro k' config₁ rem₁ hview'
  obtain ⟨hk, -⟩ := h k config₀ rem hview
  by_cases hk' : k' = k
  · subst hk'
    have hdata := (view_eq_some.1 hview').2
    rw [Ledger.write_data_self] at hdata
    cases hdata
    exact ⟨hk, rfl⟩
  · -- a second config would have been at the same address
    have hsame : L.write k (.zeroCopy (.programConfig config') rem') k' = L k' := write_of_ne hk'
    rw [view_congr (congrArg Account.owner hsame) (congrArg Account.data hsame)] at hview'
    exact absurd ((h k' config₁ rem₁ hview').1.trans hk.symm) hk'

theorem tryInitializeProgram_configs {r : Unit × Exec AccountState}
    (h : tryInitializeProgram rt (call.exec L) = .ok r) (hconfigs : ConfigsAre rt L config) :
    (L rt.configKey).owner = systemProgramId ∧ ConfigsAre rt r.2.ledger default := by
  simp only [tryInitializeProgram, ↓tryNext_bind_ok, accepts_default, true_and, ↓require_bind_ok,
    Exec.advance_iter, Exec.info_key] at h
  obtain ⟨m₀, r₀, hit, m₁, r₁, rfl, hkey, h⟩ := h
  obtain ⟨⟨⟩, s₁, hcreate, h⟩ := bind_eq_ok.1 h
  obtain ⟨L₁, e₁, hcreated⟩ := createOwned_created hcreate
  cases e₁
  simp only [↓tryInitialize_bind_ok, store_eq_ok, Exec.info_key] at h
  obtain ⟨len, hlen, -, rfl⟩ := h
  have hk : m₁.key = rt.configKey := hkey
  simp only [Exec.info_key, hk] at hcreated ⊢
  refine ⟨hcreated.vacant.1, fun k config' rem hview => ?_⟩
  obtain ⟨howner, hdata⟩ := view_eq_some.1 hview
  by_cases hne : k = rt.configKey
  · subst hne
    rw [Ledger.write_data_self] at hdata
    cases hdata
    exact ⟨rfl, rfl⟩
  · have hsame := of_created hcreated hne howner
    rw [hsame] at howner hdata
    exact absurd (hconfigs k config' rem (view_eq_some.2 ⟨howner, hdata⟩)).1 hne

theorem trySetAdmin_configs {adminKey : Pubkey} {r : Unit × Exec AccountState}
    (h : trySetAdmin rt adminKey (call.exec L) = .ok r) (hconfigs : ConfigsAre rt L config) :
    (∃ authority, (L rt.programDataAddress).data = .programData (some authority) ∧
      call.Signed authority) ∧ ConfigsAre rt r.2.ledger { config with adminKey := adminKey } := by
  simp only [trySetAdmin, bind_eq_ok, tryNextZeroCopyMut_eq_ok, store_eq_ok] at h
  obtain ⟨⟨⟩, s₁, hauthority, account, s₂, ⟨m, rest, -, -, config₀, rem, hview, e₂⟩, rfl⟩ := h
  cases e₂
  obtain ⟨m₀, m₁, rest', hit, hsigner, hdata, hledger⟩ := upgradeAuthority_ok hauthority
  have hs₁ : s₁.ledger = L := hledger
  rw [hs₁] at hview
  have haccounts : call.accounts = m₀ :: m₁ :: rest' := hit
  obtain ⟨-, rfl⟩ := hconfigs _ _ _ hview
  refine ⟨⟨m₁.key, hdata, m₁, by simp [haccounts], rfl, hsigner⟩, ?_⟩
  dsimp only [Exec.advance_ledger]
  rw [hs₁]
  exact hconfigs.write hview

theorem tryConfigureProgram_configs {setting : ProgramConfiguration} {r : Unit × Exec AccountState}
    (h : tryConfigureProgram setting (call.exec L) = .ok r) (hconfigs : ConfigsAre rt L config) :
    (setting.InRange ∧ ∃ config, InForce rt L config ∧ call.Signed config.adminKey) ∧
      ConfigsAre rt r.2.ledger (config.apply setting) := by
  simp only [tryConfigureProgram, ↓verifiedMut_bind_ok] at h
  obtain ⟨m₀, r₀, hit, -, config₀, rem, hview, m₁, r₁, rfl, hsigner, hadmin, h⟩ := h
  obtain ⟨config', s₁, hconfigured, h⟩ := bind_eq_ok.1 h
  obtain ⟨hrange, e₁⟩ := tryConfigure_eq_ok.1 hconfigured
  cases e₁
  cases store_eq_ok.1 h
  obtain ⟨-, rfl⟩ := hconfigs _ _ _ hview
  have haccounts : call.accounts = m₀ :: m₁ :: r₁ := hit
  refine ⟨⟨hrange, config₀, hconfigs.inForce hview, m₁, by simp [haccounts], hadmin, hsigner⟩, ?_⟩
  exact hconfigs.write hview

/-- Requests are made and settled without a change to any config. -/
theorem Effect.config_kept (h : Effect rt call L L')
    (hdata : (∃ accessMode, call.data = .requestAccess accessMode) ∨ call.data = .grantAccess ∨
      call.data = .denyAccess) (hview : view ID L' k = some (config, rem)) :
    view ID L k = some (config, rem) := by
  obtain ⟨howner, hvalue⟩ := view_eq_some.1 hview
  cases h with
  | initializeProgram hdata' =>
    rcases hdata with ⟨_, hdata⟩ | hdata | hdata <;> cases hdata.symm.trans hdata'
  | configure hdata' =>
    rcases hdata' with ⟨_, hdata'⟩ | ⟨_, hdata'⟩ <;>
      rcases hdata with ⟨_, hdata⟩ | hdata | hdata <;> cases hdata.symm.trans hdata'
  | @requestAccess accessMode _ _ _ _ _ L₁ _ _ _ _ _ _ _ hcreated _ =>
    by_cases hk : k = rt.requestKey accessMode.serviceKey
    · subst hk
      rw [Ledger.write_data_self] at hvalue
      cases hvalue
    · have hsame := of_created hcreated hk howner
      rw [hsame] at howner hvalue
      exact view_eq_some.2 ⟨howner, hvalue⟩
  | grantAccess | denyAccess =>
    simp only [emptied_owner, Ledger.credit_owner] at howner
    simp only [emptied_data, Ledger.credit_data] at hvalue
    exact view_eq_some.2 ⟨howner, hvalue⟩

theorem tryRequestAccess_authorized {accessMode : AccessMode} {r : Unit × Exec AccountState}
    (h : tryRequestAccess rt call.stackHeight accessMode (call.exec L) = .ok r)
    (hconfigs : ConfigsAre rt L config) :
    call.stackHeight = TRANSACTION_LEVEL_STACK_HEIGHT ∧
      ∃ config, InForce rt L config ∧ config.isPaused = false ∧
        config.isRequestAccessPaused = false ∧ config.checkedRequestDepositLamports ≠ none := by
  simp only [tryRequestAccess, ProgramConfig.tryRequireUnpaused, ↓require_bind_ok,
    ↓zeroCopy_bind_ok] at h
  obtain ⟨hheight, m₀, r₀, -, config₀, rem, hview, hpaused, hrequests, h⟩ := h
  obtain ⟨serviceKey, s₁, hservice, h⟩ := bind_eq_ok.1 h
  cases tryServiceKey_ok hservice
  simp only [↓require_bind_ok, ↓okOr_bind_ok] at h
  obtain ⟨-, deposit, hdeposit, -⟩ := h
  exact ⟨hheight, config₀, hconfigs.inForce hview, hpaused, hrequests, by simp [hdeposit]⟩

/-- Grants and denials start alike. -/
theorem verifiedSentinel_authorized {α : Type} {r : α × Exec AccountState}
    {f : ZeroCopyAccount ProgramConfig × AccountInfo → PassportProcessor α}
    (h : (verifiedProgramAuthority .sentinel >>= fun x =>
      x.1.data.tryRequireUnpaused >>= fun _ => f x) (call.exec L) = .ok r)
    (hconfigs : ConfigsAre rt L config) :
    ∃ config, InForce rt L config ∧ config.isPaused = false ∧
      call.key? 1 = some config.sentinelKey ∧ call.Signed config.sentinelKey := by
  simp only [ProgramConfig.tryRequireUnpaused, ↓verified_bind_ok, ↓require_bind_ok] at h
  obtain ⟨m₀, r₀, hit, config₀, rem, hview, m₁, r₁, rfl, hsigner, hsentinel, hpaused, -⟩ := h
  have haccounts : call.accounts = m₀ :: m₁ :: r₁ := hit
  have hkey : call.key? 1 = some m₁.key := key?_of_accounts [m₀] haccounts
  rw [hsentinel] at hkey
  have hsigned : call.Signed config₀.sentinelKey := ⟨m₁, by simp [haccounts], hsentinel, hsigner⟩
  exact ⟨config₀, hconfigs.inForce hview, hpaused, hkey, hsigned⟩

theorem execute_configs (h : execute rt call L = .ok L') (hconfigs : ConfigsAre rt L config) :
    Authorized rt call L ∧ ConfigsAre rt L' (call.configured config) := by
  have heffect := execute_effect h
  obtain ⟨r, hr, rfl⟩ := execute_eq_ok.1 h
  unfold Authorized Call.configured
  cases hdata : call.data with
  | initializeProgram =>
    simp only [tryProcessInstruction, hdata] at hr
    exact tryInitializeProgram_configs hr hconfigs
  | setAdmin adminKey =>
    simp only [tryProcessInstruction, hdata] at hr
    exact trySetAdmin_configs hr hconfigs
  | configureProgram setting =>
    simp only [tryProcessInstruction, hdata] at hr
    exact tryConfigureProgram_configs hr hconfigs
  | requestAccess accessMode =>
    simp only [tryProcessInstruction, hdata] at hr
    exact ⟨tryRequestAccess_authorized hr hconfigs, fun k config' rem hview =>
      hconfigs k config' rem (heffect.config_kept (.inl ⟨accessMode, hdata⟩) hview)⟩
  | grantAccess =>
    simp only [tryProcessInstruction, hdata] at hr
    exact ⟨verifiedSentinel_authorized hr hconfigs, fun k config' rem hview =>
      hconfigs k config' rem (heffect.config_kept (.inr (.inl hdata)) hview)⟩
  | denyAccess =>
    simp only [tryProcessInstruction, hdata] at hr
    exact ⟨verifiedSentinel_authorized hr hconfigs, fun k config' rem hview =>
      hconfigs k config' rem (heffect.config_kept (.inr (.inr hdata)) hview)⟩

end

/-! ## The config in force -/

section

variable {rt : Runtime} {L₀ L L' : PassportLedger} {h h' : History} {l : Label} {k : Pubkey}

theorem Step.configsAre (hstep : Step rt l L L') (hconfigs : ConfigsAre rt L (configured h)) :
    ConfigsAre rt L' (configured (⟨L, l, L'⟩ :: h)) := by
  cases hstep with
  | call hprocess => exact (execute_configs (process_eq_ok.1 hprocess).1 hconfigs).2
  | outside houtside =>
    intro k config rem hview
    exact hconfigs k config rem (houtside.of_view hview).1
  | endTransaction =>
    intro k config rem hview
    exact hconfigs k config rem (of_view_dropEmpty hview)

theorem PassportRun.configsAre (hgenesis : Genesis L₀) (hrun : PassportRun rt L₀ h L) :
    ConfigsAre rt L (configured h) := by
  induction hrun with
  | start =>
    intro k config rem hview
    cases hgenesis.view_eq_none.symm.trans hview
  | next _ hstep ih => exact hstep.configsAre ih

/-- The config is the settings of the run one after the other. Each call that went through had
the authority it needs: the upgrade authority's to appoint an admin, the admin's to set anything,
the sentinel's to decide about access. -/
theorem config_in_force (hgenesis : Genesis L₀) (hrun : PassportRun rt L₀ h L) :
    (∀ (k : Pubkey) (config : ProgramConfig) (rem : List (BitVec 8)),
      view ID L k = some (config, rem) → k = rt.configKey ∧ config = configured h) ∧
    ∀ x ∈ h, ∀ call, x.label = .call call → Authorized rt call x.before := by
  refine ⟨hrun.configsAre hgenesis, fun x hx call hlabel => ?_⟩
  obtain ⟨h₁, -, hrun₁, hstep⟩ := hrun.of_mem hx
  rw [hlabel] at hstep
  cases hstep with
  | call hprocess =>
    exact (execute_configs (process_eq_ok.1 hprocess).1 (PassportRun.configsAre hgenesis hrun₁)).1

/-- The program with an admin, a sentinel and a deposit. -/
theorem config_in_force_opening :
    ∃ (h : History) (L : PassportLedger) (config : ProgramConfig) (rem : List (BitVec 8)),
      PassportRun Sample.runtime Sample.genesis h L ∧
      view ID L Sample.config = some (config, rem) ∧ config.sentinelKey = Sample.sentinel ∧
      config = configured h ∧
      ∀ x ∈ h, ∀ call, x.label = .call call → Authorized Sample.runtime call x.before := by
  obtain ⟨h, L, hrun, hP⟩ := Sample.exists_run_of_replay Sample.opening (P := fun _ L =>
    (view ID L Sample.config : Option (ProgramConfig × List (BitVec 8))).any fun x =>
      x.1.sentinelKey = Sample.sentinel) (by decide +kernel)
  obtain ⟨⟨config, rem⟩, hview, hsentinel⟩ := (Option.any_eq_true _ _).1 hP
  obtain ⟨hconfig, hauthorized⟩ := config_in_force Sample.genesis_unused hrun
  exact ⟨h, L, config, rem, hrun, hview, by simpa using hsentinel, (hconfig _ _ _ hview).2,
    hauthorized⟩

end

/-! ## Requests -/

section

variable {rt : Runtime} {L₀ L L' : PassportLedger} {h h' : History} {call : Call} {k : Pubkey}
  {request : AccessRequest} {rem : List (BitVec 8)}

/-- What the program has already is not what it creates. -/
theorem ne_of_created {payer created : Pubkey} {len lamports : Nat}
    (hcreated : Created payer created ID len lamports L L') (howner : (L k).owner = ID) :
    k ≠ created := by
  rintro rfl
  exact absurd (howner.symm.trans hcreated.vacant.1) (by decide)

/-- No instruction writes to a request that is there. -/
theorem Effect.request_stays (h : Effect rt call L L') (hview : view ID L k = some (request, rem)) :
    view ID L' k = some (request, rem) := by
  obtain ⟨howner, hdata⟩ := view_eq_some.1 hview
  refine view_eq_some.2 ⟨h.owner_eq howner, ?_⟩
  rw [← hdata]
  cases h with
  | initializeProgram _ _ _ hcreated =>
    rw [write_of_ne (ne_of_created hcreated howner), hcreated.of_owner (by decide) howner]
  | @configure configured _ _ _ _ hconfig _ =>
    have hne : k ≠ configured := by
      rintro rfl
      cases hdata.symm.trans (view_eq_some.1 hconfig).2
    rw [write_of_ne hne]
  | requestAccess _ _ _ _ _ _ hcreated _ =>
    rw [write_of_ne (ne_of_created hcreated howner), hcreated.of_owner (by decide) howner]
  | grantAccess | denyAccess => simp

/-- The step grants or denies the request at `k`: the sentinel of the config in force has signed,
and the request is emptied, the fee it was made under paid to the sentinel and the rest to whoever
paid for it, or all of it to the sentinel. -/
def Settles (rt : Runtime) (k : Pubkey) (request : AccessRequest)
    (e : Entry PassportLedger Label) : Prop :=
  ∃ call config, e.label = .call call ∧ call.key? 2 = some k ∧ InForce rt e.before config ∧
    config.isPaused = false ∧ call.Signed config.sentinelKey ∧
    (call.data = .grantAccess ∧ e.after = emptied ((e.before.credit config.sentinelKey
        request.requestFeeLamports.toNat).credit request.rentBeneficiaryKey
          ((e.before k).lamports - request.requestFeeLamports.toNat)) k ∨
      call.data = .denyAccess ∧
        e.after = emptied (e.before.credit config.sentinelKey (e.before k).lamports) k)

/-- A call that touches a request that is there settles it. -/
theorem settles_of_touches (hgenesis : Genesis L₀) (hrun : PassportRun rt L₀ h L)
    (hview : view ID L k = some (request, rem)) (hprocess : process rt call L = .ok L')
    (htouches : call.touches rt k = true) : Settles rt k request ⟨L, .call call, L'⟩ := by
  have heffect := (process_effect hprocess).1
  have hauthorized :=
    (execute_configs (process_eq_ok.1 hprocess).1 (PassportRun.configsAre hgenesis hrun)).1
  have hmade : ∀ accessMode, call.data = .requestAccess accessMode →
      rt.requestKey accessMode.serviceKey ≠ k := by
    intro accessMode hdata
    obtain ⟨_, _, _, _, hcreated, -⟩ := heffect.of_requestAccess hdata
    exact (ne_of_created hcreated (view_eq_some.1 hview).1).symm
  have hcloses := closes_of_touches htouches hmade
  have hkey : call.key? 2 = some k := by
    rcases hcloses with hdata | hdata <;> simpa [Call.touches, hdata] using htouches
  obtain ⟨config, hinForce, hpaused, hsentinel, hsigned⟩ : ∃ config, InForce rt L config ∧
      config.isPaused = false ∧ call.key? 1 = some config.sentinelKey ∧
      call.Signed config.sentinelKey := by
    rcases hcloses with hdata | hdata <;> simpa only [Authorized, hdata] using hauthorized
  rcases hcloses with hdata | hdata
  · obtain ⟨sentinel, k', request', rem', hsentinel', hkey', -, hview', -, -, rfl⟩ :=
      heffect.of_grantAccess hdata
    cases hkey.symm.trans hkey'
    cases hview.symm.trans hview'
    cases hsentinel.symm.trans hsentinel'
    exact ⟨call, config, rfl, hkey, hinForce, hpaused, hsigned, .inl ⟨hdata, rfl⟩⟩
  · obtain ⟨sentinel, k', request', rem', hsentinel', hkey', -, -, rfl⟩ :=
      heffect.of_denyAccess hdata
    cases hkey.symm.trans hkey'
    cases hsentinel.symm.trans hsentinel'
    exact ⟨call, config, rfl, hkey, hinForce, hpaused, hsigned, .inr ⟨hdata, rfl⟩⟩

/-- A pending request stays as it was made and loses nothing, whatever anybody does, until the
sentinel in force settles it. It can then pay its fee. -/
theorem request_custody (hgenesis : Genesis L₀) (hrun : PassportRun rt L₀ h L)
    (hview : view ID L k = some (request, rem)) (hopen : ¬Closed rt k h)
    (hrun' : PassportRun rt L h' L') :
    request.requestFeeLamports.toNat < (L k).lamports ∧
      ((∃ e ∈ h', (L k).lamports ≤ (e.before k).lamports ∧ Settles rt k request e) ∨
        view ID L' k = some (request, rem) ∧ (L k).lamports ≤ (L' k).lamports) := by
  obtain ⟨config, deposit, -, -, hfee, hheld⟩ :=
    (hrun.requestsBacked hgenesis k request rem hview).resolve_left hopen
  have hlt : request.requestFeeLamports.toNat < deposit.toNat := hfee
  refine ⟨by omega, ?_⟩
  induction hrun' with
  | start => exact .inr ⟨hview, le_rfl⟩
  | @next h₁ L₁ L' l hrun₁ hstep ih =>
    rcases ih with ⟨e, he, hsettles⟩ | ⟨hview₁, hle⟩
    · exact .inl ⟨e, List.mem_cons_of_mem _ he, hsettles⟩
    cases hstep with
    | @call call _ _ hprocess =>
      by_cases htouches : call.touches rt k = true
      · exact .inl ⟨_, List.mem_cons_self, hle,
          settles_of_touches hgenesis (hrun.append hrun₁) hview₁ hprocess htouches⟩
      · have huntouched : call.touches rt k = false := Bool.not_eq_true _ ▸ htouches
        have heffect := (process_effect hprocess).1
        exact .inr ⟨heffect.request_stays hview₁,
          hle.trans (heffect.lamports_le (view_eq_some.1 hview₁).1 huntouched)⟩
    | outside houtside =>
      obtain ⟨howner, hdata⟩ := view_eq_some.1 hview₁
      obtain ⟨howner', hdata', hle'⟩ := houtside.owned k howner
      exact .inr ⟨view_eq_some.2 ⟨howner', hdata'.trans hdata⟩, hle.trans hle'⟩
    | endTransaction =>
      -- the deposit keeps it on the ledger
      have hkept : dropEmpty L₁ k = L₁ k := if_neg (by omega)
      rw [view_congr (congrArg Account.owner hkept) (congrArg Account.data hkept), hkept]
      exact .inr ⟨hview₁, hle⟩

theorem not_closed_of_makes
    (hmade : (lastTouch rt k h).any (fun e => e.label.makes rt k) = true) : ¬Closed rt k h := by
  rintro ⟨e, call, hlast, hlabel, hdata⟩
  rw [hlast, Option.any_some, hlabel] at hmade
  rcases hdata with hdata | hdata <;> simp [Label.makes, hdata] at hmade

/-- A request whose fee stayed what it was when the config raised it, and its grant. -/
theorem request_custody_granted :
    ∃ (h : History) (L : PassportLedger) (request : AccessRequest) (rem : List (BitVec 8))
      (h' : History) (L' : PassportLedger), PassportRun Sample.runtime Sample.genesis h L ∧
      view ID L Sample.request = some (request, rem) ∧ PassportRun Sample.runtime L h' L' ∧
      ∃ e ∈ h', Settles Sample.runtime Sample.request request e := by
  obtain ⟨h, L, hrun, hP⟩ := Sample.exists_run_of_replay Sample.requested (P := fun h L =>
    (view ID L Sample.request : Option (AccessRequest × List (BitVec 8))).isSome &&
      (lastTouch Sample.runtime Sample.request h).any
        (fun e => e.label.makes Sample.runtime Sample.request) &&
      (process Sample.runtime Sample.grantCall L).toOption.any
        fun L' => (L' Sample.request).lamports = 0) (by decide +kernel)
  simp only [Bool.and_eq_true] at hP
  obtain ⟨⟨hview, hmade⟩, hgranted⟩ := hP
  obtain ⟨⟨request, rem⟩, hview⟩ := Option.isSome_iff_exists.1 hview
  obtain ⟨L', hprocess, hzero⟩ := (Option.any_eq_true _ _).1 hgranted
  have hrun' : PassportRun Sample.runtime L [⟨L, .call Sample.grantCall, L'⟩] L' :=
    .next .start (.call (toOption_eq_some.1 hprocess))
  have hzero' : (L' Sample.request).lamports = 0 := of_decide_eq_true hzero
  obtain ⟨hpos, hcustody⟩ := request_custody Sample.genesis_unused hrun hview
    (not_closed_of_makes hmade) hrun'
  rcases hcustody with ⟨e, he, -, hsettles⟩ | ⟨-, hle⟩
  · exact ⟨h, L, request, rem, _, L', hrun, hview, hrun', e, he, hsettles⟩
  · omega

end

end DoubleZero.Passport
