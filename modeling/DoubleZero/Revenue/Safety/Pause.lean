import DoubleZero.Solana.Funds
import DoubleZero.Revenue.Invariant.Run
import DoubleZero.Revenue.Replay

/-!
# The paused program

While the program is paused only the instructions that create accounts or change settings go
through, and the migration. `Suspended` is what they may still do to the books, `Keeps` that none of
them takes lamports from an account of the program; `pause_freezes` carries both along a run.
-/

namespace DoubleZero.Revenue

open DoubleZero.Lib DoubleZero.Solana

/-! ## Instructions without a pause check -/

/-- The instructions that do not ask for the program to be unpaused. -/
def InstructionData.isUngated : InstructionData → Bool
  | .initializeProgram | .migrateProgramAccounts | .setAdmin _ | .configureProgram _
  | .initializeJournal | .initializeContributorRewards _ | .verifyDistributionMerkleRoot _ _
  | .initializeSolanaValidatorDeposit _ | .initializeSwapDestination
  | .initializeRewardsIntegration => true
  | _ => false

section Funds

variable {rt : Runtime}

theorem verifiedProgramAuthority_keeps (authority : Authority) :
    Keeps ID (verifiedProgramAuthority authority) :=
  .bind (.zeroCopy ID) fun _ => .bind (.bind (.next _) fun _ => .require _ _ _) fun _ => .pure _

theorem verifiedProgramAuthorityMut_keeps (authority : Authority) :
    Keeps ID (verifiedProgramAuthorityMut authority) :=
  .bind (.zeroCopyMut ID) fun _ => .bind (.bind (.next _) fun _ => .require _ _ _) fun _ => .pure _

theorem upgradeAuthority_keeps : Keeps ID (upgradeAuthority rt) := by
  refine .bind (.next _) fun _ => .bind (.require _ _ _) fun _ => .bind (.next _) fun _ =>
    .bind (.account _) fun acct => ?_
  split
  · exact .require _ _ _
  · exact .fail _ _

theorem tokenPda_keeps (tokenOwner : Pubkey) (name : String) (bump : Option UInt8) :
    Keeps ID (tryNext2zTokenPdaInfo rt tokenOwner name bump) :=
  .bind (.next _) fun _ => .bind (.okOr _ _ _) fun _ => .bind (.require _ _ _) fun _ => .pure _

theorem mintInfo_keeps : Keeps ID tryNext2zMintInfo := .bind (.next _) fun _ => .require _ _ _

theorem tokenProgramInfo_keeps : Keeps ID tryNextTokenProgramInfo :=
  .bind (.next _) fun _ => .require _ _ _

theorem createOwned_keeps {payer newAccount : AccountInfo} {seeds : List Seed} {bump : UInt8}
    {len : Nat} {additional : Option Nat} (hlen : len ≠ 0) :
    Keeps ID (rt.createOwned payer newAccount seeds bump len additional) := by
  intro s r h
  obtain ⟨L', rfl, hal, -⟩ := createOwned_ok hlen h
  exact KeepsFunds.allocated (by decide) hal

theorem create2zToken_keeps {payer newAccount : AccountInfo} {tokenOwner : Pubkey} {bump : UInt8} :
    Keeps ID (rt.create2zToken payer newAccount tokenOwner bump) := by
  intro s r h
  obtain ⟨L', rfl, hal⟩ := create2zToken_ok h
  exact KeepsFunds.allocated (by decide) hal

theorem tryInitializeProgram_keeps : Keeps ID (tryInitializeProgram rt) :=
  .bind (.next _) fun _ => .bind (.next _) fun _ => .bind (.require _ _ _) fun _ =>
    .bind (createOwned_keeps (by decide)) fun _ => .bind (tokenPda_keeps _ _ _) fun _ =>
    .bind mintInfo_keeps fun _ => .bind tokenProgramInfo_keeps fun _ =>
    .bind create2zToken_keeps fun _ => .bind (.tryInitialize _) fun _ => .store _ _ _

theorem trySetAdmin_keeps (adminKey : Pubkey) : Keeps ID (trySetAdmin rt adminKey) :=
  .bind upgradeAuthority_keeps fun _ => .bind (.zeroCopyMut ID) fun _ => .store _ _ _

theorem tryConfigureProgram_keeps (setting : ProgramConfiguration) :
    Keeps ID (tryConfigureProgram rt setting) :=
  .bind (verifiedProgramAuthorityMut_keeps _) fun _ =>
    .bind (.of_ledger fun h => by rw [(tryConfigure_ok h).1]) fun _ => .store _ _ _

theorem tryInitializeJournal_keeps : Keeps ID (tryInitializeJournal rt) :=
  .bind (.next _) fun _ => .bind (.next _) fun _ => .bind (.require _ _ _) fun _ =>
    .bind (createOwned_keeps (by decide)) fun _ => .bind (tokenPda_keeps _ _ _) fun _ =>
    .bind mintInfo_keeps fun _ => .bind tokenProgramInfo_keeps fun _ =>
    .bind create2zToken_keeps fun _ => .bind (.tryInitialize _) fun _ => .store _ _ _

theorem tryInitializeContributorRewards_keeps (serviceKey : Pubkey) :
    Keeps ID (tryInitializeContributorRewards rt serviceKey) :=
  .bind (.next _) fun _ => .bind (.next _) fun _ => .bind (.require _ _ _) fun _ =>
    .bind (createOwned_keeps (by decide)) fun _ => .bind (.tryInitialize _) fun _ => .store _ _ _

theorem tryInitializeSolanaValidatorDeposit_keeps (nodeId : Pubkey) :
    Keeps ID (tryInitializeSolanaValidatorDeposit rt nodeId) :=
  .bind (.next _) fun _ => .bind (.require _ _ _) fun _ => .bind (.next _) fun _ =>
    .bind (.account _) fun _ => .bind (createOwned_keeps (by decide)) fun _ =>
    .bind (.tryInitialize _) fun _ => .store _ _ _

theorem tryInitializeRewardsIntegration_keeps : Keeps ID (tryInitializeRewardsIntegration rt) :=
  .bind (verifiedProgramAuthority_keeps _) fun _ => .bind (.next _) fun _ => .bind (.next _) fun _ =>
    .bind (.next _) fun _ => .bind (.require _ _ _) fun _ =>
    .bind (createOwned_keeps (by decide)) fun _ => .bind (.tryInitialize _) fun _ =>
    .bind (.zeroCopyMut ID) fun _ => .bind (.unwrap! _ _) fun _ => .bind (.store _ _ _) fun _ =>
    .store _ _ _

theorem tryInitializeSwapDestination_keeps : Keeps ID (tryInitializeSwapDestination rt) :=
  .bind (.zeroCopyMut ID) fun _ => .bind (.next _) fun _ => .bind (.next _) fun _ =>
    .bind (.require _ _ _) fun _ => .bind (tokenPda_keeps _ _ _) fun _ =>
    .bind mintInfo_keeps fun _ => .bind tokenProgramInfo_keeps fun _ => .bind (.store _ _ _) fun _ =>
    create2zToken_keeps

theorem migrateDistributions_keeps (n : UInt16) (left : Nat) :
    Keeps ID (migrateDistributions n left) := by
  induction left with
  | zero => exact .pure ()
  | succ left ih =>
    exact .bind (.bind (.zeroCopyMut ID) fun _ => .bind (.require _ _ _) fun _ => .store _ _ _)
      fun _ => ih

theorem tryMigrateProgramAccounts_keeps : Keeps ID (tryMigrateProgramAccounts rt) :=
  .bind upgradeAuthority_keeps fun _ => .bind (.zeroCopy ID) fun _ =>
    .bind (.of_ledger fun h => by cases h; rfl) fun _ => migrateDistributions_keeps _ _

theorem tryVerifyDistributionMerkleRoot_keeps (kind : DistributionMerkleRootKind)
    (proof : MerkleProof) : Keeps ID (tryVerifyDistributionMerkleRoot rt kind proof) := by
  refine .bind (.okOr _ _ _) fun _ => .bind (.zeroCopy ID) fun _ => ?_
  cases kind with
  | solanaValidatorDebt debt => exact .require _ _ _
  | rewardShare reward =>
    exact .bind (.okOr _ _ _) fun _ => .bind (.okOr _ _ _) fun _ => .require _ _ _

/-- None of them takes lamports from an account of the program. -/
theorem process_keepsFunds {call : Call} {L L' : RevenueLedger}
    (hdata : call.data.isUngated = true) (h : process rt call L = .ok L') :
    KeepsFunds ID L L' := by
  obtain ⟨r, hr, rfl⟩ := process_eq_ok.1 h
  unfold tryProcessInstruction at hr
  cases hcall : call.data with
  | initializeProgram => exact tryInitializeProgram_keeps _ _ (by simpa only [hcall] using hr)
  | migrateProgramAccounts => exact tryMigrateProgramAccounts_keeps _ _ (by simpa only [hcall] using hr)
  | setAdmin adminKey => exact trySetAdmin_keeps adminKey _ _ (by simpa only [hcall] using hr)
  | configureProgram setting =>
    exact tryConfigureProgram_keeps setting _ _ (by simpa only [hcall] using hr)
  | initializeJournal => exact tryInitializeJournal_keeps _ _ (by simpa only [hcall] using hr)
  | initializeContributorRewards serviceKey =>
    exact tryInitializeContributorRewards_keeps serviceKey _ _ (by simpa only [hcall] using hr)
  | verifyDistributionMerkleRoot kind proof =>
    exact tryVerifyDistributionMerkleRoot_keeps kind proof _ _ (by simpa only [hcall] using hr)
  | initializeSolanaValidatorDeposit nodeId =>
    exact tryInitializeSolanaValidatorDeposit_keeps nodeId _ _ (by simpa only [hcall] using hr)
  | initializeSwapDestination =>
    exact tryInitializeSwapDestination_keeps _ _ (by simpa only [hcall] using hr)
  | initializeRewardsIntegration =>
    exact tryInitializeRewardsIntegration_keeps _ _ (by simpa only [hcall] using hr)
  | _ => simp [hcall, InstructionData.isUngated] at hdata

end Funds

/-! ## The books of a paused program -/

theorem Books.KeepsTokens.refl {rt : Runtime} (b : Books) : b.KeepsTokens rt b :=
  fun _ a ha _ => ⟨a, ha, rfl, rfl, UInt64.le_refl _⟩

theorem Books.KeepsTokens.trans {rt : Runtime} {b₁ b₂ b₃ : Books} (h : b₁.KeepsTokens rt b₂)
    (h' : b₂.KeepsTokens rt b₃) : b₁.KeepsTokens rt b₃ := by
  intro k a ha hd
  obtain ⟨a₂, ha₂, hm₂, ho₂, hle₂⟩ := h k a ha hd
  obtain ⟨a₃, ha₃, hm₃, ho₃, hle₃⟩ := h' k a₂ ha₂ (by rwa [ho₂])
  exact ⟨a₃, ha₃, hm₃.trans hm₂, ho₃.trans ho₂, UInt64.le_trans hle₂ hle₃⟩

/-- A token account at a vacant address takes nothing from the others. -/
theorem Books.keepsTokens_setToken {rt : Runtime} {b b' : Books} {k : Pubkey} {a : TokenAccount}
    (hvacant : b.tokens k = none) (he : b'.tokens = (b.setToken k a).tokens) :
    b.KeepsTokens rt b' := by
  intro k' a' ha' _
  refine ⟨a', ?_, rfl, rfl, UInt64.le_refl _⟩
  have hne : k' ≠ k := by
    rintro rfl
    rw [hvacant] at ha'
    cases ha'
  rw [he, Books.setToken_tokens, if_neg hne, ha']

/-- What can still happen to the books of a paused program. A distribution only sees its snapshot
rewritten, and only by the migration. Tokens stay as long as nobody outside takes them. -/
structure Suspended (rt : Runtime) (migrates spares : Prop) (b b' : Books) : Prop where
  config : ∀ {c rem}, b.entry .config = some (.programConfig c, rem) → c.isPaused = true →
    ∃ c', b'.entry .config = some (.programConfig c', rem) ∧ c'.isPaused = true ∧
      c'.nextCompletedDzEpoch = c.nextCompletedDzEpoch
  journal : ∀ {j rem}, b.entry .journal = some (.journal j, rem) →
    ∃ n, b'.entry .journal = some (.journal { j with integrationsCount := n }, rem)
  dist : ∀ {d rem}, b.HasDist d rem → ∃ n, b'.HasDist { d with integrationsCountSnapshot := n } rem ∧
    (n = d.integrationsCountSnapshot ∨ migrates)
  contributor : ∀ {k p}, b.entry (.contributor k) = some p → b'.entry (.contributor k) = some p
  deposit : ∀ {k p}, b.entry (.deposit k) = some p → b'.entry (.deposit k) = some p
  tokens : spares → b.KeepsTokens rt b'

namespace Suspended

variable {rt : Runtime} {m m' q q' : Prop} {b b' b'' : Books}

/-- Only the config changes, and new accounts come. -/
theorem of_kept
    (hconfig : ∀ {c rem}, b.entry .config = some (.programConfig c, rem) → c.isPaused = true →
      ∃ c', b'.entry .config = some (.programConfig c', rem) ∧ c'.isPaused = true ∧
        c'.nextCompletedDzEpoch = c.nextCompletedDzEpoch)
    (hkept : ∀ i p, b.entry i = some p → i ≠ .config → b'.entry i = some p)
    (htokens : q → b.KeepsTokens rt b') : Suspended rt m q b b' where
  config := hconfig
  journal hj := ⟨_, hkept _ _ hj (by simp)⟩
  dist hd := ⟨_, hkept _ _ hd (by simp), .inl rfl⟩
  contributor hc := hkept _ _ hc (by simp)
  deposit hp := hkept _ _ hp (by simp)
  tokens := htokens

/-- A new account comes. -/
theorem of_new {i : Identity} {s : AccountState} {rem : List (BitVec 8)} (hnew : b.entry i = none)
    (he : b'.entry = (b.set i s rem).entry) (htokens : b.KeepsTokens rt b') :
    Suspended rt m q b b' := by
  have hkept : ∀ j p, b.entry j = some p → b'.entry j = some p := by
    intro j p hp
    have hne : j ≠ i := by
      rintro rfl
      rw [hnew] at hp
      cases hp
    rw [he, Books.set_entry_of_ne _ _ _ hne, hp]
  exact of_kept (fun hc hp => ⟨_, hkept _ _ hc, hp, rfl⟩) (fun j p hp _ => hkept j p hp)
    fun _ => htokens

/-- A new integration comes, and the journal counts it. -/
theorem of_registration {k : Pubkey} {s : AccountState} {rem jrem : List (BitVec 8)} {j : Journal}
    {n : UInt16} (hnew : b.entry (.integration k) = none)
    (hjournal : b.entry .journal = some (.journal j, jrem))
    (he : b'.entry = ((b.set (.integration k) s rem).set .journal
      (.journal { j with integrationsCount := n }) jrem).entry)
    (htokens : b.KeepsTokens rt b') : Suspended rt m q b b' := by
  have hkept : ∀ i p, b.entry i = some p → i ≠ .journal → b'.entry i = some p := by
    intro i p hi hne
    have hne' : i ≠ .integration k := by
      rintro rfl
      rw [hnew] at hi
      cases hi
    rw [he, Books.set_entry_of_ne _ _ _ hne, Books.set_entry_of_ne _ _ _ hne', hi]
  refine ⟨fun hc hp => ⟨_, hkept _ _ hc (by simp), hp, rfl⟩, ?_,
    fun hd => ⟨_, hkept _ _ hd (by simp), .inl rfl⟩, fun hc => hkept _ _ hc (by simp),
    fun hp => hkept _ _ hp (by simp), fun _ => htokens⟩
  intro j₁ rem₁ hj₁
  cases hj₁.symm.trans hjournal
  exact ⟨n, by rw [he, Books.set_entry_self]⟩

theorem refl (b : Books) : Suspended rt m q b b :=
  of_kept (fun hc hp => ⟨_, hc, hp, rfl⟩) (fun _ _ hp _ => hp) fun _ => .refl b

theorem trans (h : Suspended rt m q b b') (h' : Suspended rt m' q' b' b'') :
    Suspended rt (m ∨ m') (q ∧ q') b b'' where
  config hc hp := by
    obtain ⟨c', hc', hp', hn'⟩ := h.config hc hp
    obtain ⟨c'', hc'', hp'', hn''⟩ := h'.config hc' hp'
    exact ⟨c'', hc'', hp'', hn''.trans hn'⟩
  journal hj := by
    obtain ⟨n, hn⟩ := h.journal hj
    obtain ⟨n', hn'⟩ := h'.journal hn
    exact ⟨n', hn'⟩
  dist hd := by
    obtain ⟨n, hn, hsame⟩ := h.dist hd
    obtain ⟨n', hn', hsame'⟩ := h'.dist hn
    refine ⟨n', hn', ?_⟩
    rcases hsame with rfl | hm
    · exact hsame'.imp id .inr
    · exact .inr (.inl hm)
  contributor hc := h'.contributor (h.contributor hc)
  deposit hp := h'.deposit (h.deposit hp)
  tokens hq := (h.tokens hq.1).trans (h'.tokens hq.2)

theorem mono (h : Suspended rt m q b b') (hm : m → m') (hq : q' → q) :
    Suspended rt m' q' b b' where
  config := h.config
  journal := h.journal
  dist hd := by
    obtain ⟨n, hn, hsame⟩ := h.dist hd
    exact ⟨n, hn, hsame.imp id hm⟩
  contributor := h.contributor
  deposit := h.deposit
  tokens hq' := h.tokens (hq hq')

theorem foreign (h : b.Foreign rt b') : Suspended rt m (b.KeepsTokens rt b') b b' := by
  have hkept : ∀ i p, b.entry i = some p → b'.entry i = some p := by
    intro i p hp
    rw [h.entry_eq, hp]
  exact of_kept (fun hc hp => ⟨_, hkept _ _ hc, hp, rfl⟩) (fun i p hp _ => hkept i p hp) id

/-- The migration changes snapshots of distributions only. -/
theorem migrated {keys : List Pubkey} {n : UInt16} (h : Migrated rt keys n b b') :
    Suspended rt True q b b' := by
  have hkept : ∀ i p, b.entry i = some p → (∀ e, i ≠ .distribution e) → b'.entry i = some p := by
    intro i p hp hne
    rcases h.entry i with hsame | ⟨d, rem, d', rem', hi, -, -, -⟩
    · rw [hsame, hp]
    · exact absurd hi (hne _)
  refine ⟨fun hc hp => ⟨_, hkept _ _ hc (by simp), hp, rfl⟩, fun hj => ⟨_, hkept _ _ hj (by simp)⟩,
    ?_, fun hc => hkept _ _ hc (by simp), fun hp => hkept _ _ hp (by simp), ?_⟩
  · intro d rem hd
    rcases h.entry (.distribution d.dzEpoch) with hsame | ⟨d₀, rem₀, d', rem', hi, hd₀, hstep, hd', -⟩
    · exact ⟨_, hsame.trans hd, .inl rfl⟩
    · cases hd.symm.trans hd₀
      cases hstep with
      | migrate _ => exact ⟨n, hd', .inr trivial⟩
  · intro _ k a ha _
    exact ⟨a, by rw [h.tokens_eq, ha], rfl, rfl, UInt64.le_refl _⟩

end Suspended

theorem Books.Running.not_paused {b : Books} {c c' : ProgramConfig} {rem : List (BitVec 8)}
    (h : b.Running c) (hc : b.entry .config = some (.programConfig c', rem)) :
    c'.isPaused = false := by
  obtain ⟨⟨rem', hc'⟩, hp⟩ := h
  cases hc.symm.trans hc'
  exact hp

/-- A call that succeeds while the program is paused. Every other instruction asked for the program
to be running. -/
theorem Transition.suspended {rt : Runtime} {call : Call} {b b' : Books} {c : ProgramConfig}
    {rem : List (BitVec 8)} (ht : Transition rt call b b')
    (hc : b.entry .config = some (.programConfig c, rem)) (hp : c.isPaused = true)
    (hno : call.data ≠ .configureProgram (.flag (.isPaused false))) :
    call.data.isUngated = true ∧
      Suspended rt (call.data = .migrateProgramAccounts) True b b' := by
  have hgated : ∀ {c'}, b.Running c' → False := by
    intro c' hrunning
    rw [hrunning.not_paused hc] at hp
    cases hp
  cases ht with
  | initializeProgram data new => simp [new] at hc
  | setAdmin data config =>
    refine ⟨by rw [data]; rfl, .of_kept ?_ ?_ fun _ => .refl _⟩
    · intro c₁ rem₁ hc₁ hp₁
      cases hc₁.symm.trans config
      exact ⟨_, Books.set_entry_self .., hp₁, rfl⟩
    · intro i p hi hne
      rw [Books.set_entry_of_ne _ _ _ hne, hi]
  | @configureProgram c₀ c' _ setting _ data config signed configured =>
    obtain ⟨-, hset⟩ := tryConfigure_ok configured
    refine ⟨by rw [data]; rfl, .of_kept ?_ ?_ fun _ => .refl _⟩
    · intro c₁ rem₁ hc₁ hp₁
      cases hc₁.symm.trans config
      refine ⟨_, Books.set_entry_self .., ?_, hset.epoch⟩
      rcases hset.paused with hsame | hsetting
      · exact hsame.trans hp₁
      · cases hv : c'.isPaused with
        | true => rfl
        | false => exact absurd (by rw [data, hsetting, hv]) hno
    · intro i p hi hne
      rw [Books.set_entry_of_ne _ _ _ hne, hi]
  | @initializeSwapDestination c₀ _ _ data config funds vacant =>
    refine ⟨by rw [data]; rfl, .of_kept ?_ ?_ fun _ => Books.keepsTokens_setToken vacant rfl⟩
    · intro c₁ rem₁ hc₁ hp₁
      cases hc₁.symm.trans config
      refine ⟨{ c₀ with
        swapAuthorityBumpSeed := rt.findSwapAuthorityAddress.2
        swapDestination2zBumpSeed := (rt.find2zTokenPdaAddress rt.findSwapAuthorityAddress.1).2 },
        ?_, hp₁, rfl⟩
      simp only [Books.setToken_entry, Books.set_entry_self]
    · intro i p hi hne
      exact (Books.set_entry_of_ne _ _ _ hne).trans hi
  | initializeJournal data new funds exempt vacant =>
    exact ⟨by rw [data]; rfl, .of_new new rfl (Books.keepsTokens_setToken vacant rfl)⟩
  | initializeContributorRewards data new funds =>
    exact ⟨by rw [data]; rfl, .of_new new rfl (.refl b)⟩
  | initializeDeposit data new funds exempt =>
    exact ⟨by rw [data]; rfl, .of_new new rfl (.refl b)⟩
  | initializeIntegration data config signed new journal counted funds =>
    exact ⟨by rw [data]; rfl, .of_registration new journal rfl (.refl b)⟩
  | migrate data journal migrated =>
    exact ⟨by rw [data]; rfl, (Suspended.migrated migrated).mono (fun _ => data) id⟩
  | verify data => exact ⟨by rw [data]; rfl, .refl b⟩
  | initializeDistribution data config unpaused =>
    cases hc.symm.trans config
    exact absurd (unpaused.symm.trans hp) (by simp)
  | _ => exact (hgated ‹b.Running _›).elim

/-! ## Along a run -/

/-- No step of a run unpauses the program. -/
def StaysPaused {σ : Type} (h : List (Entry σ Label)) : Prop :=
  ∀ x ∈ h, ∀ call, x.label = .call call →
    call.data ≠ .configureProgram (.flag (.isPaused false))

/-- Some step of a run is a migration. -/
def Migrates {σ : Type} (h : List (Entry σ Label)) : Prop :=
  ∃ x ∈ h, ∃ call, x.label = .call call ∧ call.data = .migrateProgramAccounts

section Run

variable {rt : Runtime} {L L' : RevenueLedger} {h : History}

theorem LedgerRun.suspended {c : ProgramConfig} {rem : List (BitVec 8)} (hcanon : Canonical rt L)
    (hrun : LedgerRun rt L h L')
    (hc : (Revenue.books rt L).entry .config = some (.programConfig c, rem))
    (hp : c.isPaused = true) (hstay : StaysPaused h) :
    Canonical rt L' ∧ Suspended rt (Migrates h) (∀ x ∈ h, SparesTokens rt x)
        (Revenue.books rt L) (Revenue.books rt L') ∧
      KeepsFunds ID L L' := by
  induction hrun with
  | start => exact ⟨hcanon, .refl _, .refl L⟩
  | @next h L₁ L₂ l hr hs ih =>
    obtain ⟨hcanon₁, hsus, hfunds⟩ := ih fun x hx => hstay x (List.mem_cons_of_mem _ hx)
    obtain ⟨c₁, hc₁, hp₁, -⟩ := hsus.config hc hp
    obtain ⟨hcanon₂, hbook⟩ := step_refines hcanon₁ hs
    refine ⟨hcanon₂, ?_⟩
    cases hs with
    | @call call _ _ ha hprocess =>
      cases hbook with
      | call ht =>
        have hno := hstay _ List.mem_cons_self call rfl
        obtain ⟨hungated, hstep⟩ := ht.suspended hc₁ hp₁ hno
        refine ⟨(hsus.trans hstep).mono ?_ fun hall => ⟨fun x hx => hall x (List.mem_cons_of_mem _ hx),
          trivial⟩, hfunds.trans (process_keepsFunds hungated hprocess)⟩
        rintro (⟨x, hx, hmig⟩ | hdata)
        · exact ⟨x, List.mem_cons_of_mem _ hx, hmig⟩
        · exact ⟨_, List.mem_cons_self, call, rfl, hdata⟩
    | outside hforeign =>
      have hstep : Suspended rt False _ (Revenue.books rt L₁) (Revenue.books rt L₂) :=
        .foreign (books_foreign hforeign)
      refine ⟨(hsus.trans hstep).mono ?_ fun hall => ⟨fun x hx => hall x (List.mem_cons_of_mem _ hx),
        hall _ List.mem_cons_self rfl⟩, hfunds.trans fun k ho => ?_⟩
      · rintro (⟨x, hx, hmig⟩ | hfalse)
        · exact ⟨x, List.mem_cons_of_mem _ hx, hmig⟩
        · exact hfalse.elim
      · obtain ⟨ho', -, hle⟩ := hforeign.owned k ho
        exact ⟨ho', hle⟩

end Run

theorem pause_freezes {rt : Runtime} {L₀ L L' : RevenueLedger} {h h' : History} {kc : Pubkey}
    {c : ProgramConfig} {crem : List (BitVec 8)} (hg : Genesis rt L₀) (hrun : LedgerRun rt L₀ h L)
    (hc : view ID L kc = some (c, crem)) (hp : c.isPaused = true) (hrun' : LedgerRun rt L h' L')
    (hstay : StaysPaused h') :
    (∀ (k : Pubkey) (d : Distribution) (rem : List (BitVec 8)), view ID L k = some (d, rem) →
      ∃ n, view ID L' k = some ({ d with integrationsCountSnapshot := n }, rem) ∧
        (n = d.integrationsCountSnapshot ∨ Migrates h')) ∧
      (∀ (k : Pubkey) (r : ContributorRewards) (rem : List (BitVec 8)),
        view ID L k = some (r, rem) → view ID L' k = some (r, rem)) ∧
      (∀ (k : Pubkey) (p : SolanaValidatorDeposit) (rem : List (BitVec 8)),
        view ID L k = some (p, rem) → view ID L' k = some (p, rem)) ∧
      (∀ (k : Pubkey) (j : Journal) (rem : List (BitVec 8)), view ID L k = some (j, rem) →
        ∃ j' : Journal, view ID L' k = some (j', rem) ∧ j'.totalSolBalance = j.totalSolBalance ∧
          j'.swappedSolAmount = j.swappedSolAmount ∧
          j'.swap2zDestinationBalance = j.swap2zDestinationBalance ∧
          j'.lifetimeSwapped2zAmount = j.lifetimeSwapped2zAmount ∧
          j'.nextDzEpochToSweepTokens = j.nextDzEpochToSweepTokens) ∧
      (∃ c' : ProgramConfig, view ID L' kc = some (c', crem) ∧
        c'.nextCompletedDzEpoch = c.nextCompletedDzEpoch) ∧
      (∀ k, (L k).owner = ID → (L k).lamports ≤ (L' k).lamports) ∧
      -- With a delegate somebody outside could take tokens.
      ((∀ x ∈ h', SparesTokens rt x) →
        ∀ (k : Pubkey) (a : TokenAccount), Token.unpack L k = some a → Derived rt a.owner →
          ∃ a', Token.unpack L' k = some a' ∧ a'.mint = a.mint ∧ a'.owner = a.owner ∧
            a.amount ≤ a'.amount) := by
  obtain ⟨hcanon, -⟩ := hrun.books hg
  obtain ⟨hkc, hconfig, -, -⟩ := hcanon.of_view hc
  obtain ⟨-, hsus, hfunds⟩ := LedgerRun.suspended hcanon hrun' hconfig hp hstay
  refine ⟨?_, ?_, ?_, ?_, ?_, fun k ho => (hfunds k ho).2, hsus.tokens⟩
  · intro k d rem hd
    obtain ⟨hk, has, -, -⟩ := hcanon.of_view hd
    obtain ⟨n, hn, hsame⟩ := hsus.dist has
    rw [hk]
    exact ⟨n, view_eq_stateAt.2 hn, hsame⟩
  · intro k r rem hr
    obtain ⟨hk, has, -, -⟩ := hcanon.of_view hr
    rw [hk]
    exact view_eq_stateAt.2 (hsus.contributor has)
  · intro k p rem hp
    obtain ⟨hk, has, -, -⟩ := hcanon.of_view hp
    rw [hk]
    exact view_eq_stateAt.2 (hsus.deposit has)
  · intro k j rem hj
    obtain ⟨hk, has, -, -⟩ := hcanon.of_view hj
    obtain ⟨n, hn⟩ := hsus.journal has
    rw [hk]
    exact ⟨_, view_eq_stateAt.2 hn, rfl, rfl, rfl, rfl, rfl⟩
  · obtain ⟨c', hc', -, hnext⟩ := hsus.config hconfig hp
    rw [hkc]
    exact ⟨c', view_eq_stateAt.2 hc', hnext⟩

/-- While the program is paused an integration is registered and lamports are sent to a deposit. -/
theorem pause_freezes_epoch :
    ∃ (h h' : History) (L L' : RevenueLedger) (d : Distribution) (rem : List (BitVec 8)) (n : UInt16),
      LedgerRun (Sample.runtime Sample.debts Sample.shares) (Sample.genesis 1000 700) h L ∧
      LedgerRun (Sample.runtime Sample.debts Sample.shares) L h' L' ∧ h'.length = 2 ∧
      view ID L Sample.distribution = some (d, rem) ∧
      view ID L' Sample.distribution = some ({ d with integrationsCountSnapshot := n }, rem) := by
  obtain ⟨h, L, h', L', hrun, hrun', -, hP⟩ := Sample.exists_runs_of_replay Sample.debts
    Sample.shares 1000 700
    (Sample.opening ++ [Sample.openEpoch, Sample.configure (.flag (.isPaused true))])
    [Sample.registerIntegration, .outside (.lamports Sample.payer Sample.depositA 7)]
    (P := fun _ L h' _ => h'.length = 2 ∧
      h'.all (fun x => !x.label.isCall (.configureProgram (.flag (.isPaused false)))) ∧
      (view (T := Distribution) ID L Sample.distribution).isSome ∧
      (view (T := ProgramConfig) ID L Sample.config).any fun x => x.1.isPaused)
    (by decide +kernel) (by decide +kernel) (by decide +kernel)
  obtain ⟨hlength, hlabels, hsome, hconfig⟩ := of_decide_eq_true hP
  obtain ⟨⟨d, rem⟩, hd⟩ := Option.isSome_iff_exists.1 hsome
  obtain ⟨⟨c, crem⟩, hc, hpaused⟩ := (Option.any_eq_true _ _).1 hconfig
  have hstay : StaysPaused h' := by
    intro x hx call hlabel
    simpa [Label.isCall, hlabel] using List.all_eq_true.1 hlabels x hx
  obtain ⟨hdists, -⟩ := pause_freezes (Sample.genesis_unused 1000 700) hrun hc hpaused hrun' hstay
  obtain ⟨n, hd', -⟩ := hdists _ d rem hd
  exact ⟨h, h', L, L', d, rem, n, hrun, hrun', hlength, hd, hd'⟩

end DoubleZero.Revenue
