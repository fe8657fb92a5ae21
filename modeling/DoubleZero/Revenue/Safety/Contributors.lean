import DoubleZero.Revenue.Invariant.Run
import DoubleZero.Revenue.Replay

/-!
# Who decides where a contributor's rewards go

Three instructions store contributor rewards. The contributor manager appoints the rewards manager
unless that is blocked, and the rewards manager alone sets the recipients and the block.
-/

namespace DoubleZero.Revenue

open DoubleZero.Lib DoubleZero.Solana

/-- The rewards manager of a contributor signed a setting for it. -/
structure Call.Configures (rt : Runtime) (call : Call) (serviceKey manager : Pubkey)
    (setting : ContributorRewardsConfiguration) : Prop where
  data : call.data = .configureContributorRewards setting
  key : call.key? 1 = some (Identity.key rt (.contributor serviceKey))
  signed : call.Signed manager

/-- What can happen to the rewards of one contributor. -/
inductive ContributorEffect (rt : Runtime) (call : Call) (k : Pubkey) (b b' : Books) : Prop
  | kept (same : b'.entry (.contributor k) = b.entry (.contributor k))
  | create (new : b.entry (.contributor k) = none)
      (created : b'.entry (.contributor k) = some (.contributorRewards
        { (default : ContributorRewards) with serviceKey := k }, []))
  | appoint {r : ContributorRewards} {rem : List (BitVec 8)} {manager : Pubkey}
      (old : b.entry (.contributor k) = some (.contributorRewards r, rem))
      (unblocked : r.isSetRewardsManagerBlocked = false)
      (appointed : b'.entry (.contributor k) = some (.contributorRewards
        { r with rewardsManagerKey := manager }, rem))
  | configure {r r' : ContributorRewards} {rem : List (BitVec 8)}
      {setting : ContributorRewardsConfiguration} {s : Exec AccountState}
      (old : b.entry (.contributor k) = some (.contributorRewards r, rem))
      (configures : call.Configures rt k r.rewardsManagerKey setting)
      (configured : r.tryConfigure setting s = .ok (r', s))
      (stored : b'.entry (.contributor k) = some (.contributorRewards r', rem))

section

variable {rt : Runtime} {call : Call} {b b' : Books}

theorem Transition.contributorEffect (ht : Transition rt call b b') (k : Pubkey) :
    ContributorEffect rt call k b b' := by
  by_cases hw : Kind.contributor ∈ call.data.writes
  · cases ht with
    | @initializeContributorRewards _ serviceKey data new funds =>
      by_cases hk : k = serviceKey
      · subst hk
        exact .create new (Books.set_entry_self ..)
      · exact .kept (Books.set_entry_of_ne _ _ _ (by simpa using hk))
    | @setRewardsManager _ r _ _ data running signed entry unblocked =>
      by_cases hk : k = r.serviceKey
      · subst hk
        exact .appoint entry unblocked (Books.set_entry_self ..)
      · exact .kept (Books.set_entry_of_ne _ _ _ (by simpa using hk))
    | @configureContributorRewards _ r _ _ _ _ data running entry signed configured key =>
      by_cases hk : k = r.serviceKey
      · subst hk
        exact .configure entry ⟨data, key, signed⟩ configured (Books.set_entry_self ..)
      · exact .kept (Books.set_entry_of_ne _ _ _ (by simpa using hk))
    | _ => simp [‹call.data = _›, InstructionData.writes] at hw
  · exact .kept (ht.frame hw)

/-- What a setting changes: the recipients, to a list that adds up, or the block. -/
theorem tryConfigureContributor_cases {r r' : ContributorRewards}
    {setting : ContributorRewardsConfiguration} {s s' : Exec AccountState}
    (h : r.tryConfigure setting s = .ok (r', s')) :
    (∃ recipients shares, setting = .recipients recipients ∧
      RecipientShares.new recipients = some shares ∧ r' = { r with recipientShares := shares }) ∨
      ∃ shouldBlock, setting = .isSetRewardsManagerBlocked shouldBlock ∧
        r' = r.setIsSetRewardsManagerBlocked shouldBlock := by
  cases setting with
  | recipients recipients =>
    simp only [ContributorRewards.tryConfigure, ↓okOr_bind_ok, pure_eq_ok] at h
    obtain ⟨shares, hshares, h⟩ := h
    cases h
    exact .inl ⟨recipients, shares, rfl, hshares, rfl⟩
  | isSetRewardsManagerBlocked shouldBlock =>
    cases pure_eq_ok.1 h
    exact .inr ⟨shouldBlock, rfl, rfl⟩

end

/-! ## Locked rewards managers -/

/-- `M` signs no setting for the contributor in any step of the run. -/
def Unsigned {σ : Type} (rt : Runtime) (h : List (Entry σ Label)) (serviceKey M : Pubkey) : Prop :=
  ∀ x ∈ h, ∀ call, x.label = .call call → ∀ setting, ¬call.Configures rt serviceKey M setting

theorem BooksRun.locked {rt : Runtime} {b b' : Books} {h : List (Entry Books Label)}
    {r : ContributorRewards} {rem : List (BitVec 8)} (hrun : BooksRun rt b h b')
    (hr : b.entry (.contributor r.serviceKey) = some (.contributorRewards r, rem))
    (hblocked : r.isSetRewardsManagerBlocked = true)
    (hunsigned : Unsigned rt h r.serviceKey r.rewardsManagerKey) :
    b'.entry (.contributor r.serviceKey) = some (.contributorRewards r, rem) := by
  induction hrun with
  | start => exact hr
  | @next h b₁ b₂ l hrun hs ih =>
    have hold := ih fun x hx => hunsigned x (List.mem_cons_of_mem _ hx)
    cases hs with
    | @call call _ _ ht =>
      cases ht.contributorEffect r.serviceKey with
      | kept same => exact same.trans hold
      | create new _ => simp [new] at hold
      | appoint old unblocked _ =>
        cases old.symm.trans hold
        simp [unblocked] at hblocked
      | configure old configures _ _ =>
        cases old.symm.trans hold
        exact absurd configures (hunsigned _ List.mem_cons_self call rfl _)
    | outside hforeign => rw [hforeign.entry_eq, hold]

/-! ## Where recipients come from -/

/-- Some step of the run set the recipients to `shares`, and the rewards manager of that moment had
signed it. -/
def Submitted (rt : Runtime) (h : List (Entry Books Label)) (serviceKey : Pubkey)
    (shares : RecipientShares) : Prop :=
  ∃ x ∈ h, ∃ call recipients r rem, x.label = .call call ∧
    RecipientShares.new recipients = some shares ∧
    x.before.entry (.contributor serviceKey) = some (.contributorRewards r, rem) ∧
    call.Configures rt serviceKey r.rewardsManagerKey (.recipients recipients)

theorem Submitted.cons {rt : Runtime} {h : List (Entry Books Label)} {serviceKey : Pubkey}
    {shares : RecipientShares} (hsub : Submitted rt h serviceKey shares) (e : Entry Books Label) :
    Submitted rt (e :: h) serviceKey shares := by
  obtain ⟨x, hx, hrest⟩ := hsub
  exact ⟨x, List.mem_cons_of_mem _ hx, hrest⟩

theorem BooksRun.submitted {rt : Runtime} {b₀ b : Books} {h : List (Entry Books Label)} {k : Pubkey}
    {r : ContributorRewards} {rem : List (BitVec 8)} (hrun : BooksRun rt b₀ h b)
    (hempty : b₀.Empty) (hr : b.entry (.contributor k) = some (.contributorRewards r, rem)) :
    r.recipientShares = default ∨ Submitted rt h k r.recipientShares := by
  induction hrun generalizing r rem with
  | start => simp [hempty _] at hr
  | @next h b₁ b₂ l hrun hs ih =>
    have hkept : ∀ {r₀ rem₀}, b₁.entry (.contributor k) = some (.contributorRewards r₀, rem₀) →
        r.recipientShares = r₀.recipientShares →
        r.recipientShares = default ∨ Submitted rt (⟨b₁, l, b₂⟩ :: h) k r.recipientShares := by
      intro r₀ rem₀ hr₀ hsame
      rw [hsame]
      exact (ih hr₀).imp id fun hsub => hsub.cons _
    cases hs with
    | @call call _ _ ht =>
      cases ht.contributorEffect k with
      | kept same => exact hkept (same.symm.trans hr) rfl
      | create _ created =>
        cases created.symm.trans hr
        exact .inl rfl
      | appoint old _ appointed =>
        cases appointed.symm.trans hr
        exact hkept old rfl
      | configure old configures configured stored =>
        cases stored.symm.trans hr
        rcases tryConfigureContributor_cases configured with
          ⟨recipients, shares, rfl, hshares, rfl⟩ | ⟨shouldBlock, rfl, rfl⟩
        · exact .inr ⟨_, List.mem_cons_self, call, recipients, _, _, rfl, hshares, old, configures⟩
        · exact hkept old rfl
    | outside hforeign => exact hkept (by rw [← hforeign.entry_eq]; exact hr) rfl

theorem rewards_manager_locked {rt : Runtime} {L₀ L : RevenueLedger} {h : History} {k : Pubkey}
    {r : ContributorRewards} {rem : List (BitVec 8)} (hg : Genesis rt L₀)
    (hrun : LedgerRun rt L₀ h L) (hr : view ID L k = some (r, rem)) :
    (r.isSetRewardsManagerBlocked = true → ∀ (L' : RevenueLedger) (h' : History),
      LedgerRun rt L h' L' →
      (∀ x ∈ h', ∀ call setting, x.label = .call call →
        call.data = .configureContributorRewards setting → call.key? 1 = some k →
        ¬call.Signed r.rewardsManagerKey) →
      ∃ (r' : ContributorRewards) (rem' : List (BitVec 8)), view ID L' k = some (r', rem') ∧
        r'.rewardsManagerKey = r.rewardsManagerKey ∧ r'.recipientShares = r.recipientShares ∧
        r'.isSetRewardsManagerBlocked = true) ∧
      (r.recipientShares = default ∨
        ∃ x ∈ h, ∃ call recipients, x.label = .call call ∧
          call.data = .configureContributorRewards (.recipients recipients) ∧
          call.key? 1 = some k ∧ RecipientShares.new recipients = some r.recipientShares ∧
          ∃ (r₀ : ContributorRewards) (rem₀ : List (BitVec 8)),
            view ID x.before k = some (r₀, rem₀) ∧ call.Signed r₀.rewardsManagerKey) := by
  obtain ⟨hc, hbooks⟩ := hrun.books hg
  obtain ⟨hk, hentry, -, -⟩ := hc.of_view hr
  have hk : k = Identity.key rt (.contributor r.serviceKey) := hk
  refine ⟨?_, ?_⟩
  · intro hblocked L' h' hrun' hunsigned
    obtain ⟨hc', hbooks'⟩ := hrun'.simulate hc fun hc hs => step_refines hc hs
    have hun : Unsigned rt (h'.map (Entry.map (books rt))) r.serviceKey r.rewardsManagerKey := by
      intro x hx call hcall setting hconf
      obtain ⟨y, hy, rfl⟩ := List.mem_map.1 hx
      exact hunsigned y hy call setting hcall hconf.data (hk ▸ hconf.key) hconf.signed
    have hlocked := BooksRun.locked hbooks' hentry hblocked hun
    refine ⟨r, rem, ?_, rfl, rfl, hblocked⟩
    rw [hk]
    exact view_eq_stateAt.2 hlocked
  · rcases hbooks.submitted hg.books_empty hentry with hdefault | hsub
    · exact .inl hdefault
    · obtain ⟨x, hx, call, recipients, r₀, rem₀, hlabel, hshares, hold, hconf⟩ := hsub
      obtain ⟨y, hy, rfl⟩ := List.mem_map.1 hx
      refine .inr ⟨y, hy, call, recipients, hlabel, hconf.data, hk ▸ hconf.key, hshares, r₀, rem₀,
        ?_, hconf.signed⟩
      rw [hk]
      exact view_eq_stateAt.2 hold

/-- The step configures no contributor. -/
def Sample.leavesContributors (x : Entry RevenueLedger Label) : Bool :=
  match x.label with
  | .call call =>
    match call.data with
    | .configureContributorRewards _ => false
    | _ => true
  | .outside => true

/-- The manager has set the recipients and locked itself in, and an epoch goes by. -/
theorem rewards_manager_locked_epoch :
    ∃ (h h' : History) (L L' : RevenueLedger) (r r' : ContributorRewards)
      (rem rem' : List (BitVec 8)),
      LedgerRun (Sample.runtime [] []) (Sample.genesis 1000 700) h L ∧
      LedgerRun (Sample.runtime [] []) L h' L' ∧ h'.length = 3 ∧
      view ID L Sample.contributor = some (r, rem) ∧ r.isSetRewardsManagerBlocked = true ∧
      r.recipientShares.activeIter.length = 1 ∧
      view ID L' Sample.contributor = some (r', rem') ∧
      r'.rewardsManagerKey = r.rewardsManagerKey ∧ r'.recipientShares = r.recipientShares ∧
      r'.isSetRewardsManagerBlocked = true ∧
      ∃ x ∈ h, ∃ call recipients, x.label = .call call ∧
        call.data = .configureContributorRewards (.recipients recipients) ∧
        RecipientShares.new recipients = some r.recipientShares := by
  obtain ⟨h, L, h', L', hrun, hrun', -, hP⟩ := Sample.exists_runs_of_replay [] [] 1000 700
    (Sample.opening ++
      [Sample.later (.configureContributorRewards (.isSetRewardsManagerBlocked true))
        [Sample.writable Sample.config, Sample.writable Sample.contributor,
          Sample.signed Sample.manager]])
    [Sample.registerIntegration, Sample.openEpoch, Sample.finalizeDebt]
    (P := fun _ L h' _ => h'.length = 3 ∧ h'.all Sample.leavesContributors ∧
      (view (T := ContributorRewards) ID L Sample.contributor).any fun x =>
        x.1.isSetRewardsManagerBlocked = true ∧ x.1.recipientShares.activeIter.length = 1)
    (by decide +kernel) (by decide +kernel) (by decide +kernel)
  obtain ⟨hlength, hleaves, hany⟩ := of_decide_eq_true hP
  obtain ⟨⟨r, rem⟩, hr, hfacts⟩ := (Option.any_eq_true _ _).1 hany
  obtain ⟨hblocked, hactive⟩ := of_decide_eq_true hfacts
  obtain ⟨hlocked, hsubmitted⟩ := rewards_manager_locked (Sample.genesis_unused 1000 700) hrun hr
  obtain ⟨r', rem', hr', hmanager, hshares, hblocked'⟩ :=
    hlocked hblocked L' h' hrun' fun x hx call setting hlabel hdata => by
      have hleave := List.all_eq_true.1 hleaves x hx
      simp [Sample.leavesContributors, hlabel, hdata] at hleave
  refine ⟨h, h', L, L', r, r', rem, rem', hrun, hrun', hlength, hr, hblocked, hactive, hr', hmanager,
    hshares, hblocked', ?_⟩
  rcases hsubmitted with hdefault | ⟨x, hx, call, recipients, hlabel, hdata, -, hnew, -⟩
  · simp only [hdefault] at hactive
    exact absurd hactive (by decide)
  · exact ⟨x, hx, call, recipients, hlabel, hdata, hnew⟩

end DoubleZero.Revenue
