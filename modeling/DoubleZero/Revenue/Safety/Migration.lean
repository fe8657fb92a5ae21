import DoubleZero.Revenue.Invariant.Rewards
import DoubleZero.Revenue.Safety.Integration
import DoubleZero.Revenue.Safety.Stranding
import DoubleZero.Revenue.Tabled

/-!
# Migrations of closed distributions

A migration gives the distributions it lists the number of integrations the journal counts now, in
whatever stage they are. A gate that was open for the snapshot stays open only if nothing was
registered since the snapshot was taken. When every migration of a run keeps to that, what a closed
distribution has collected is settled.
-/

namespace DoubleZero.Revenue

open DoubleZero.Lib DoubleZero.Solana

/-- It is decided how the 2Z of the distribution is split: nobody gets any, or somebody already got
some. -/
def Distribution.IsClosed (d : Distribution) : Prop :=
  d.IsBarred NullRoot ∨ 0 < d.distributedRewardsCount

/-- If the call lists the distribution, no integration was registered since its snapshot. -/
def CountsSnapshot (rt : Runtime) (call : Call) (L : RevenueLedger) (k : Pubkey)
    (d : Distribution) : Prop :=
  ∀ (j : Journal) (jrem : List (BitVec 8)), (k ∈ (call.accounts.drop 3).map fun m => m.key) →
    view ID L rt.journalKey = some (j, jrem) → j.integrationsCount = d.integrationsCountSnapshot

/-- A migration finds the registry as the snapshots of the closed distributions with an open gate
have it. -/
def MigratesCounted (rt : Runtime) (x : Entry RevenueLedger Label) : Prop :=
  ∀ (call : Call) (k : Pubkey) (d : Distribution) (rem : List (BitVec 8)), x.label = .call call →
    call.data = .migrateProgramAccounts → view ID x.before k = some (d, rem) → d.IsClosed →
    d.areAllIntegrationsCollected = true → CountsSnapshot rt call x.before k d

section

variable {rt : Runtime} {a : DistAction} {s s' : DistState} {b b' : Books}
  {h : List (Entry Books Label)} {d d' : Distribution} {rem rem' : List (BitVec 8)}

theorem Transition.migrates {call : Call} (ht : Transition rt call b b')
    (hdata : call.data = .migrateProgramAccounts) :
    ∃ j jrem, b.entry .journal = some (.journal j, jrem) ∧
      Migrated rt ((call.accounts.drop 3).map fun m => m.key) j.integrationsCount b b' := by
  cases ht with
  | migrate data journal migrated => exact ⟨_, _, journal, migrated⟩
  | _ => simp [‹call.data = _›] at hdata

/-- The gate of a migrated distribution. -/
theorem Gate.migrate_iff {n : UInt16} (hg : Gate d) (hall : d.areAllIntegrationsCollected = true)
    (hle : d.integrationsCountSnapshot ≤ n)
    (hstep : DistStep rt (.migrate n) (d, rem) (d', rem')) :
    d'.areAllIntegrationsCollected = true ↔ n = d.integrationsCountSnapshot := by
  have hcollected : d.integrationsCollectedCount = d.integrationsCountSnapshot := by
    have hge : d.integrationsCountSnapshot.toNat ≤ d.integrationsCollectedCount.toNat :=
      UInt16.le_iff_toNat_le.1 (of_decide_eq_true hall)
    have hcard := Finset.card_le_card hg.ones_subset
    rw [Finset.card_range, hg.card_eq] at hcard
    exact UInt16.toNat_inj.1 (Nat.le_antisymm hcard hge)
  cases hstep with
  | migrate _ =>
    rw [Distribution.areAllIntegrationsCollected, decide_eq_true_eq]
    dsimp only
    rw [hcollected]
    exact ⟨fun hge => UInt16.le_antisymm hge hle, fun heq => heq ▸ UInt16.le_refl _⟩

/-- Rewards that are given out are not taken back. -/
theorem Valid.distributed_pos (hv : Valid s) (hpos : 0 < s.1.distributedRewardsCount)
    (hstep : DistStep rt a s s') : 0 < s'.1.distributedRewardsCount := by
  have hcard := hv.counted.rewards_card
  have hcard' := (hv.step hstep).counted.rewards_card
  have hsubset : s.1.processedRewards s.2 ⊆ s'.1.processedRewards s'.2 := by
    cases hv.rewards_step hstep with
    | kept hkept => exact hkept.processed_eq.ge
    | paid hpaid => exact hpaid.processed_eq ▸ Finset.subset_insert _ _
  have hle := Finset.card_le_card hsubset
  rw [UInt32.lt_iff_toNat_lt] at hpos ⊢
  omega

theorem Valid.settled_of_distributed (hv : Valid (d, rem)) (hpos : 0 < d.distributedRewardsCount)
    (hall : d.areAllIntegrationsCollected = true) : Settled d := by
  refine ⟨?_, hall⟩
  by_contra hunswept
  have hzero := (hv.booked.unswept (by simpa using hunswept)).2.1
  simp only at hzero
  rw [hzero] at hpos
  exact absurd hpos (by decide)

/-- With rewards given out, all steps but a migration to a new count keep it settled. -/
theorem Valid.settled_migrate (hv : Valid s) (hs : Settled s.1) (hstep : DistStep rt a s s')
    (hmigrate : ∀ n, a = .migrate n → n = s.1.integrationsCountSnapshot) :
    Settled s'.1 ∧ SameSplit s.1 s'.1 := by
  by_cases ha : ∃ n, a = .migrate n
  · obtain ⟨n, rfl⟩ := ha
    have hsame := hmigrate n rfl
    cases hstep with
    | migrate _ =>
      subst hsame
      exact ⟨⟨hs.swept, hs.collected⟩, rfl, rfl, rfl⟩
  · exact hv.settled_step hs hstep fun n hn => ha ⟨n, hn⟩

/-- The 2Z total of a distribution that gave out rewards is the same at the end of the run. -/
theorem BooksRun.distributed_settled (hrun : BooksRun rt b h b') (hv : Valid (d, rem))
    (hmigrates : ∀ x ∈ h, ∀ {call j jrem d rem}, x.label = .call call →
      call.data = .migrateProgramAccounts → x.before.entry .journal = some (.journal j, jrem) →
      (rt.distributionKey d.dzEpoch ∈ (call.accounts.drop 3).map fun m => m.key) →
      x.before.HasDist d rem → 0 < d.distributedRewardsCount →
      d.areAllIntegrationsCollected = true → j.integrationsCount = d.integrationsCountSnapshot)
    (hd : b.HasDist d rem) (hpos : 0 < d.distributedRewardsCount)
    (hall : d.areAllIntegrationsCollected = true) :
    ∃ d' rem', b'.HasDist d' rem' ∧ d'.dzEpoch = d.dzEpoch ∧ Settled d' ∧ SameSplit d d' := by
  have hstart : Valid (d, rem) ∧ 0 < d.distributedRewardsCount ∧ Settled d ∧ SameSplit d d :=
    ⟨hv, hpos, hv.settled_of_distributed hpos hall, .refl d⟩
  obtain ⟨d', rem', hd', hepoch, -, -, hsettled, hsame⟩ := hrun.dist_kept
    (P := fun t => Valid t ∧ 0 < t.1.distributedRewardsCount ∧ Settled t.1 ∧ SameSplit d t.1)
    (fun x hx _ d₁ _ a s s' hlabel has hdoes hmid hstep ⟨hv, hpos, hsettled, hsame⟩ => by
      have hcounted : ∀ n, a = .migrate n → n = s.1.integrationsCountSnapshot := by
        rintro n rfl
        obtain ⟨m, hs⟩ := hmid.eq
        have hall := hsettled.collected
        rw [hs] at hpos hall ⊢
        cases hdoes with
        | @migrate j _ data journal listed =>
          have hsame : j.integrationsCount = d₁.integrationsCountSnapshot :=
            hmigrates x hx hlabel data journal listed has hpos hall
          exact hsame
      obtain ⟨hsettled', hsame'⟩ := hv.settled_migrate hsettled hstep hcounted
      exact ⟨hv.step hstep, hv.distributed_pos hpos hstep, hsettled', hsame.trans hsame'⟩)
    hd hstart
  exact ⟨d', rem', hd', hepoch, hsettled, hsame⟩

end

/-! ## On the ledger -/

section

variable {rt : Runtime} {L₀ L : RevenueLedger} {h : History} {k : Pubkey} {d : Distribution}
  {rem : List (BitVec 8)}

/-- A migration keeps the gate of a distribution open if and only if it counts what the snapshot
counted. -/
theorem LedgerRun.migrate_iff (hg : Genesis rt L₀) (hrun : LedgerRun rt L₀ h L)
    (hd : view ID L k = some (d, rem)) (hall : d.areAllIntegrationsCollected = true) {call : Call}
    {L₁ : RevenueLedger} (hstep : Step rt (.call call) L L₁)
    (hdata : call.data = .migrateProgramAccounts) :
    ∃ (d₁ : Distribution) (rem₁ : List (BitVec 8)), view ID L₁ k = some (d₁, rem₁) ∧
      d₁.totalCollected2zTokens = d.totalCollected2zTokens ∧
      (d₁.areAllIntegrationsCollected = true ↔ CountsSnapshot rt call L k d) := by
  obtain ⟨hc, hbooks⟩ := hrun.books hg
  obtain ⟨hc₁, hbook⟩ := step_refines hc hstep
  obtain ⟨rfl, hview, -, -⟩ := hc.of_view hd
  have has : (Revenue.books rt L).HasDist d rem := hview
  have hgated := hbooks.gated hg.books_empty
  cases hbook with
  | call ht =>
    obtain ⟨j, jrem, journal, migrated⟩ := ht.migrates hdata
    have hjournal : view ID L rt.journalKey = some (j, jrem) := view_eq_stateAt.2 journal
    by_cases hlisted : rt.distributionKey d.dzEpoch ∈ (call.accounts.drop 3).map fun m => m.key
    · obtain ⟨d₀, rem₀, d₁, rem₁, hkey, has₀, step, has₁⟩ := migrated.listed _ hlisted
      have hd₀ : view ID L (rt.distributionKey d.dzEpoch) = some (d₀, rem₀) := by
        rw [hkey]
        exact view_eq_stateAt.2 has₀
      cases hd₀.symm.trans hd
      have hd₁ : view ID L₁ (rt.distributionKey d₁.dzEpoch) = some (d₁, rem₁) :=
        view_eq_stateAt.2 has₁
      have hepoch : d₁.dzEpoch = d.dzEpoch := step.fixed.1
      rw [hepoch] at hd₁
      have hle := hgated.snapshot_le has
      rw [Books.integrationsCount_eq journal, ← UInt16.le_iff_toNat_le] at hle
      refine ⟨d₁, rem₁, hd₁, ?_, ((hgated.gate has).migrate_iff hall hle step).trans ?_⟩
      · cases step with
        | migrate _ => rfl
      · constructor
        · intro hsame j' jrem' _ hj'
          cases hj'.symm.trans hjournal
          exact hsame
        · intro hcounts
          exact hcounts j jrem hlisted hjournal
    · refine ⟨d, rem, view_eq_stateAt.2 ?_, rfl, ?_⟩
      · rcases migrated.entry (.distribution d.dzEpoch) with
          hsame | ⟨d₀, rem₀, d₁, rem₁, hi, -, -, -, hlisted₀⟩
        · exact hsame.trans has
        · exact absurd (Identity.distribution.inj hi ▸ hlisted₀) hlisted
      · exact ⟨fun _ _ _ hlisted' _ => absurd hlisted' hlisted, fun _ => hall⟩

/-- Nothing is owed under the null root when the migrations count what the snapshots counted. -/
theorem LedgerRun.counted_nothingOwed (hg : Genesis rt L₀) (hrun : LedgerRun rt L₀ h L)
    (hcounted : ∀ x ∈ h, MigratesCounted rt x) (hfits : ∀ x ∈ h, BooksWithinRange NullRoot x)
    (hd : view ID L k = some (d, rem)) (hfinal : d.isRewardsCalculationFinalized = true)
    (hroot : d.rewardsMerkleRoot = default) : NothingOwed d := by
  obtain ⟨hc, hbooks⟩ := hrun.books hg
  have has : (Revenue.books rt L).HasDist d rem := (hc.of_view hd).2.1
  refine BooksRun.nothingOwed NullRoot hbooks hg.books_empty ?_ ?_ ?_ has ⟨hfinal, hroot⟩
  · intro x _ call d rem _ _ _ _ hnull howed
    exact howed hnull
  · intro x hx call amount proof d rem hlabel hdata hkey has hbarred
    obtain ⟨y, hy, rfl⟩ := List.mem_map.1 hx
    exact hfits y hy call amount proof _ d rem hlabel hdata hkey (view_eq_stateAt.2 has) hbarred
  · intro x hx call j jrem d rem hlabel hdata hjournal hlisted has hbarred howed
    obtain ⟨y, hy, rfl⟩ := List.mem_map.1 hx
    have hsame := hcounted y hy call _ d rem hlabel hdata (view_eq_stateAt.2 has) (.inl hbarred)
      howed.integrations j jrem hlisted (view_eq_stateAt.2 hjournal)
    rw [hsame]
    exact of_decide_eq_true howed.integrations

end

theorem migration_keeps_closed_iff {rt : Runtime} {L₀ L : RevenueLedger} {h : History} {k : Pubkey}
    {d : Distribution} {rem : List (BitVec 8)} (hg : Genesis rt L₀) (hrun : LedgerRun rt L₀ h L)
    (hd : view ID L k = some (d, rem)) (hclosed : d.IsClosed)
    (hall : d.areAllIntegrationsCollected = true) :
    (∀ (call : Call) (L₁ : RevenueLedger), Step rt (.call call) L L₁ →
      call.data = .migrateProgramAccounts →
      ∃ (d₁ : Distribution) (rem₁ : List (BitVec 8)), view ID L₁ k = some (d₁, rem₁) ∧
        d₁.totalCollected2zTokens = d.totalCollected2zTokens ∧
        (d₁.areAllIntegrationsCollected = true ↔ CountsSnapshot rt call L k d)) ∧
    ∀ (h' : History) (L' : RevenueLedger), LedgerRun rt L h' L' →
      (∀ x ∈ h' ++ h, MigratesCounted rt x) →
      (d.distributedRewardsCount = 0 → ∀ x ∈ h' ++ h, BooksWithinRange NullRoot x) →
      ∃ (d' : Distribution) (rem' : List (BitVec 8)), view ID L' k = some (d', rem') ∧
        d'.areAllIntegrationsCollected = true ∧
        d'.totalCollected2zTokens = d.totalCollected2zTokens := by
  refine ⟨fun call L₁ hstep hdata => hrun.migrate_iff hg hd hall hstep hdata, ?_⟩
  intro h' L' hrun' hcounted hfits
  obtain ⟨hc, hbooks⟩ := hrun.books hg
  obtain ⟨hc', hbooks'⟩ := hrun'.simulate hc fun hc hs => step_refines hc hs
  obtain ⟨hv, d', rem', hd', hmoves⟩ := hrun.persists hg hrun' hd
  by_cases hzero : d.distributedRewardsCount = 0
  · -- Nothing is owed under the null root, before and after the run.
    rcases hclosed with ⟨hfinal, hroot⟩ | hpos
    · obtain ⟨hfinal', -, hroot', -⟩ := (Frozen.moves hmoves).rewardsFinal hfinal
      have howed := LedgerRun.counted_nothingOwed hg hrun (fun x hx =>
        hcounted x (List.mem_append_right _ hx)) (fun x hx =>
        hfits hzero x (List.mem_append_right _ hx)) hd hfinal hroot
      have howed' := LedgerRun.counted_nothingOwed hg (hrun.append hrun') hcounted (hfits hzero) hd'
        hfinal' (hroot'.trans hroot)
      exact ⟨d', rem', hd', howed'.integrations, howed'.collected.trans howed.collected.symm⟩
    · exact absurd hpos (by simp [hzero])
  · have hpos : 0 < d.distributedRewardsCount := UInt32.pos_iff_ne_zero.2 hzero
    obtain ⟨hk, hview, -, -⟩ := hc.of_view hd
    have has : (books rt L).HasDist d rem := hview
    have hmigrates : ∀ x ∈ h'.map (Entry.map (books rt)), ∀ {call j jrem d rem},
        x.label = .call call → call.data = .migrateProgramAccounts →
        x.before.entry .journal = some (.journal j, jrem) →
        (rt.distributionKey d.dzEpoch ∈ (call.accounts.drop 3).map fun m => m.key) →
        x.before.HasDist d rem → 0 < d.distributedRewardsCount →
        d.areAllIntegrationsCollected = true →
        j.integrationsCount = d.integrationsCountSnapshot := by
      intro x hx call j jrem d rem hlabel hdata hjournal hlisted has hpos hall
      obtain ⟨y, hy, rfl⟩ := List.mem_map.1 hx
      exact hcounted y (List.mem_append_left _ hy) call _ d rem hlabel hdata
        (view_eq_stateAt.2 has) (.inr hpos) hall j jrem hlisted (view_eq_stateAt.2 hjournal)
    obtain ⟨d₁, rem₁, has₁, hepoch, hsettled, hsame⟩ :=
      BooksRun.distributed_settled hbooks' hv hmigrates has hpos hall
    have hd₁ : view ID L' (rt.distributionKey d₁.dzEpoch) = some (d₁, rem₁) :=
      view_eq_stateAt.2 has₁
    rw [hepoch] at hd₁
    exact ⟨d₁, rem₁, hk ▸ hd₁, hsettled.collected, hsame.total_eq⟩

/-! ## A closed distribution that is migrated -/

namespace Sample

def lateDistribution : Pubkey := numberedDistribution 140

/-- The epochs up to the first that may be migrated, which is finalized under the null root. -/
def lateEpoch : List Event :=
  opening ++ openEpoch :: (List.range 140).map (fun n => openNumbered (n + 1)) ++
    [later .finalizeDistributionDebt [writable config, signed admin, writable lateDistribution,
        signed payer, writable systemProgramId],
      later .finalizeDistributionRewards [writable config, writable lateDistribution, signed payer,
        writable systemProgramId]]

def migrateLate : Event :=
  later .migrateProgramAccounts [writable programData, signed upgrader, writable journal,
    writable lateDistribution]

/-- The integration sends 2Z to the pool of the late distribution. -/
def collectLate : Event :=
  collectInto lateDistribution (numberedPool 140)
    (.tokens bucket (numberedPool 140) bucketAuthority 500)

/-- The late distribution is final under the null root, and passes a check. -/
def lateIs (Q : Distribution → Bool) (L : RevenueLedger) : Bool :=
  (view (T := Distribution) ID L lateDistribution).any fun x =>
    decide (x.1.isRewardsCalculationFinalized = true ∧ x.1.rewardsMerkleRoot = default) && Q x.1

theorem lateIs_elim {Q : Distribution → Bool} {L : RevenueLedger} (h : lateIs Q L = true) :
    ∃ d rem, view ID L lateDistribution = some (d, rem) ∧ d.IsBarred NullRoot ∧ Q d = true := by
  obtain ⟨⟨d, rem⟩, hd, hfacts⟩ := (Option.any_eq_true _ _).1 h
  obtain ⟨hbarred, hQ⟩ := (Bool.and_eq_true _ _).mp hfacts
  have hbarred : d.isRewardsCalculationFinalized = true ∧ d.rewardsMerkleRoot = default :=
    of_decide_eq_true hbarred
  exact ⟨d, rem, hd, hbarred, hQ⟩

/-- The late epoch migrated at once, and migrated and collected after a registration. -/
theorem exists_lateEpoch :
    ∃ (h : History) (L L₁ L' L₁' L₂' : RevenueLedger),
      LedgerRun (runtime [] []) (genesis 0 0) h L ∧
      lateIs (fun d => decide (d.integrationsCountSnapshot = 0 ∧
        d.areAllIntegrationsCollected = true)) L = true ∧
      ((view (T := Journal) ID L journal).any fun x => x.1.integrationsCount = 0) = true ∧
      migrateLate.apply (runtime [] []) L = some L₁ ∧
      registerIntegration.apply (runtime [] []) L = some L' ∧
      lateIs (fun d => d.areAllIntegrationsCollected) L' = true ∧
      migrateLate.apply (runtime [] []) L' = some L₁' ∧
      lateIs (fun d => !d.areAllIntegrationsCollected) L₁' = true ∧
      collectLate.apply (runtime [] []) L₁' = some L₂' ∧
      lateIs (fun d => d.totalCollected2zTokens = some 500) L₂' = true := by
  obtain ⟨h, L, hrun, hP⟩ := exists_run_of_table [] [] 0 0 lateEpoch (P := fun L =>
    lateIs (fun d => decide (d.integrationsCountSnapshot = 0 ∧
      d.areAllIntegrationsCollected = true)) L &&
    ((view (T := Journal) ID L journal).any (fun x => x.1.integrationsCount = 0) &&
    ((migrateLate.apply (runtime [] []) L).isSome &&
    (registerIntegration.apply (runtime [] []) L).any fun L' =>
      lateIs (fun d => d.areAllIntegrationsCollected) L' &&
      (migrateLate.apply (runtime [] []) L').any fun L₁' =>
        lateIs (fun d => !d.areAllIntegrationsCollected) L₁' &&
        (collectLate.apply (runtime [] []) L₁').any fun L₂' =>
          lateIs (fun d => d.totalCollected2zTokens = some 500) L₂')))
    (by decide +kernel) (by decide +kernel)
  obtain ⟨hclosed, hP⟩ := (Bool.and_eq_true _ _).mp hP
  obtain ⟨hjournal, hP⟩ := (Bool.and_eq_true _ _).mp hP
  obtain ⟨hmigrates, hP⟩ := (Bool.and_eq_true _ _).mp hP
  obtain ⟨L₁, hmigrated⟩ := Option.isSome_iff_exists.1 hmigrates
  obtain ⟨L', hregistered, hP⟩ := (Option.any_eq_true _ _).1 hP
  obtain ⟨hclosed', hP⟩ := (Bool.and_eq_true _ _).mp hP
  obtain ⟨L₁', hmigrated', hP⟩ := (Option.any_eq_true _ _).1 hP
  obtain ⟨hopen, hP⟩ := (Bool.and_eq_true _ _).mp hP
  obtain ⟨L₂', hcollected, hstranded⟩ := (Option.any_eq_true _ _).1 hP
  exact ⟨h, L, L₁, L', L₁', L₂', hrun, hclosed, hjournal, hmigrated, hregistered, hclosed',
    hmigrated', hopen, hcollected, hstranded⟩

end Sample

/-- Migrated before anything is registered, the distribution keeps its gate open. -/
theorem migration_keeps_closed_late :
    ∃ (h : History) (L L₁ : RevenueLedger) (d d₁ : Distribution) (rem rem₁ : List (BitVec 8)),
      LedgerRun (Sample.runtime [] []) (Sample.genesis 0 0) h L ∧
      view ID L Sample.lateDistribution = some (d, rem) ∧ d.IsClosed ∧
      Step (Sample.runtime [] []) Sample.migrateLate.label L L₁ ∧
      view ID L₁ Sample.lateDistribution = some (d₁, rem₁) ∧
      d₁.areAllIntegrationsCollected = true := by
  obtain ⟨h, L, L₁, -, -, -, hrun, hlate, hjournal, hmigrated, -⟩ := Sample.exists_lateEpoch
  obtain ⟨d, rem, hd, hbarred, hfacts⟩ := Sample.lateIs_elim hlate
  obtain ⟨hsnapshot, hall⟩ := of_decide_eq_true hfacts
  obtain ⟨⟨j, jrem⟩, hj, hcount⟩ := (Option.any_eq_true _ _).1 hjournal
  have hcount : j.integrationsCount = 0 := of_decide_eq_true hcount
  have hstep : Step (Sample.runtime [] []) Sample.migrateLate.label L L₁ :=
    Event.step (e := Sample.migrateLate) trivial hmigrated
  obtain ⟨d₁, rem₁, hd₁, -, hopen⟩ := (migration_keeps_closed_iff (Sample.genesis_unused 0 0) hrun
    hd (.inl hbarred) hall).1 _ L₁ hstep rfl
  refine ⟨h, L, L₁, d, d₁, rem, rem₁, hrun, hd, .inl hbarred, hstep, hd₁, hopen.2 ?_⟩
  intro j' jrem' _ hj'
  have hkey : (Sample.runtime [] []).journalKey = Sample.journal := by decide +kernel
  rw [hkey] at hj'
  cases hj'.symm.trans hj
  rw [hcount, hsnapshot]

/-- Migrated after a registration, the distribution collects again, with nobody to give it to. -/
theorem migration_reopens_closed :
    ∃ (h h' : History) (L L₁ L₂ : RevenueLedger) (d d₁ d₂ : Distribution)
      (rem rem₁ rem₂ : List (BitVec 8)),
      LedgerRun (Sample.runtime [] []) (Sample.genesis 0 0) h L ∧
      view ID L Sample.lateDistribution = some (d, rem) ∧ d.isRewardsCalculationFinalized = true ∧
      d.rewardsMerkleRoot = default ∧ d.areAllIntegrationsCollected = true ∧
      Step (Sample.runtime [] []) Sample.migrateLate.label L L₁ ∧
      view ID L₁ Sample.lateDistribution = some (d₁, rem₁) ∧
      d₁.areAllIntegrationsCollected = false ∧
      LedgerRun (Sample.runtime [] []) L₁ h' L₂ ∧
      view ID L₂ Sample.lateDistribution = some (d₂, rem₂) ∧
      d₂.isRewardsCalculationFinalized = true ∧ d₂.rewardsMerkleRoot = default ∧
      d₂.totalCollected2zTokens = some 500 := by
  obtain ⟨h, L, -, L', L₁, L₂, hrun, -, -, -, hregistered, hclosed, hmigrated, hopen, hcollected,
    hstranded⟩ := Sample.exists_lateEpoch
  obtain ⟨d, rem, hd, ⟨hfinal, hroot⟩, hall⟩ := Sample.lateIs_elim hclosed
  obtain ⟨d₁, rem₁, hd₁, -, hopen⟩ := Sample.lateIs_elim hopen
  obtain ⟨d₂, rem₂, hd₂, ⟨hfinal₂, hroot₂⟩, hstranded⟩ := Sample.lateIs_elim hstranded
  have hrun' : LedgerRun (Sample.runtime [] []) (Sample.genesis 0 0) _ L' :=
    .next hrun (Event.step (e := Sample.registerIntegration) trivial hregistered)
  have hstep : Step (Sample.runtime [] []) Sample.migrateLate.label L' L₁ :=
    Event.step (e := Sample.migrateLate) trivial hmigrated
  have hrun₂ : LedgerRun (Sample.runtime [] []) L₁ _ L₂ :=
    .next .start (Event.step (e := Sample.collectLate) trivial hcollected)
  exact ⟨_, _, L', L₁, L₂, d, d₁, d₂, rem, rem₁, rem₂, hrun', hd, hfinal, hroot, hall, hstep, hd₁,
    by simpa using hopen, hrun₂, hd₂, hfinal₂, hroot₂, of_decide_eq_true hstranded⟩

end DoubleZero.Revenue
