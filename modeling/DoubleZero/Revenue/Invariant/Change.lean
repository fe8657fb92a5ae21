import DoubleZero.Revenue.Invariant.Run

/-!
# One distribution along a run

`Transition.change` looks at a call from one distribution: nothing happens to it, it is created, or
it takes a step, which is then a step of the instruction that was called (`Does`). A write-off
booked on the indebted distribution itself takes two. `BooksRun.dist_induction` carries a property
of one distribution along a run when the steps that break it are known not to be in the run.
-/

namespace DoubleZero.Revenue

open DoubleZero.Lib DoubleZero.Solana

/-- The call takes the action on the distribution of the epoch. -/
inductive Does (rt : Runtime) (call : Call) (b : Books) (e : DoubleZeroEpoch) : DistAction → Prop
  | configureDebt {totalValidators : UInt32} {totalDebt : UInt64} {merkleRoot : Hash}
      (data : call.data = .configureDistributionDebt totalValidators totalDebt merkleRoot) :
      Does rt call b e (.configureDebt totalValidators totalDebt merkleRoot)
  | finalizeDebt (data : call.data = .finalizeDistributionDebt) : Does rt call b e .finalizeDebt
  | configureRewards {totalContributors : UInt32} {merkleRoot : Hash}
      (data : call.data = .configureDistributionRewards totalContributors merkleRoot) :
      Does rt call b e (.configureRewards totalContributors merkleRoot)
  | setEconomicBurnRate {value : UInt32} {burnRate : BurnRate}
      (data : call.data = .setDistributionEconomicBurnRate value) :
      Does rt call b e (.setEconomicBurnRate burnRate)
  | finalizeRewards (data : call.data = .finalizeDistributionRewards)
      (keyDist : call.key? 1 = some (rt.distributionKey e)) : Does rt call b e .finalizeRewards
  | collect {i : RewardsIntegration} {irem : List (BitVec 8)} {amount : UInt64}
      (data : call.data = .collectIntegrationRewards)
      (integration : b.entry (.integration i.programId) = some (.rewardsIntegration i, irem))
      (keyDist : call.key? 1 = some (rt.distributionKey e))
      (keyIntegration : call.key? 2 = some (Identity.key rt (.integration i.programId))) :
      Does rt call b e (.collect i.registrationIndex amount)
  | distribute {unitShare economicBurnRate leafIndex : UInt32} {proof : MerkleProof}
      {rewardShare : RewardShare} {transferred burned : UInt64}
      (data : call.data = .distributeRewards unitShare economicBurnRate proof)
      (indexed : proof.leafIndex = some leafIndex)
      (keyDist : call.key? 1 = some (rt.distributionKey e)) :
      Does rt call b e (.distribute leafIndex rewardShare transferred burned)
  | pay {amount : UInt64} {nodeId : Pubkey} {proof : MerkleProof} {leafIndex : UInt32}
      (data : call.data = .paySolanaValidatorDebt amount proof)
      (indexed : proof.leafIndex = some leafIndex)
      (keyDist : call.key? 1 = some (rt.distributionKey e)) :
      Does rt call b e (.pay leafIndex ⟨nodeId, amount⟩)
  | enableWriteOff (data : call.data = .enableSolanaValidatorDebtWriteOff)
      (keyDist : call.key? 1 = some (rt.distributionKey e)) : Does rt call b e .enableWriteOff
  | writeOff {amount : UInt64} {nodeId : Pubkey} {proof : MerkleProof} {leafIndex : UInt32}
      (data : call.data = .writeOffSolanaValidatorDebt amount proof)
      (indexed : proof.leafIndex = some leafIndex)
      (keyDist : call.key? 2 = some (rt.distributionKey e)) :
      Does rt call b e (.writeOff leafIndex ⟨nodeId, amount⟩)
  | book {amount : UInt64} {proof : MerkleProof}
      (data : call.data = .writeOffSolanaValidatorDebt amount proof)
      (keyBook : call.key? 4 = some (rt.distributionKey e)) : Does rt call b e (.book amount)
  | sweep {solDebt token2zAmount : UInt64} {j : Journal} {jrem : List (BitVec 8)}
      (data : call.data = .sweepDistributionTokens)
      (journal : b.entry .journal = some (.journal j, jrem))
      (next : j.nextDzEpochToSweepTokens = e) : Does rt call b e (.sweep solDebt token2zAmount)
  | migrate {j : Journal} {jrem : List (BitVec 8)} (data : call.data = .migrateProgramAccounts)
      (journal : b.entry .journal = some (.journal j, jrem))
      (listed : rt.distributionKey e ∈ (call.accounts.drop 3).map fun m => m.key) :
      Does rt call b e (.migrate j.integrationsCount)

/-- What a call does to the distribution of one epoch. -/
inductive DistChange (rt : Runtime) (call : Call) (b b' : Books) (e : DoubleZeroEpoch) : Prop
  | kept (same : b'.entry (.distribution e) = b.entry (.distribution e))
  | create {c : ProgramConfig} {j : Journal} {prepaid : UInt64} {d : Distribution}
      {jrem : List (BitVec 8)} (data : call.data = .initializeDistribution)
      (journal : b.entry .journal = some (.journal j, jrem))
      (new : b.entry (.distribution e) = none) (initialized : Initialized rt c j prepaid d)
      (epoch : d.dzEpoch = e) (created : b'.HasDist d [])
  | step {a : DistAction} {d d' : Distribution} {rem rem' : List (BitVec 8)}
      (does : Does rt call b e a) (epoch : d.dzEpoch = e) (has : b.HasDist d rem)
      (step : DistStep rt a (d, rem) (d', rem')) (has' : b'.HasDist d' rem')
  | twice {d d₁ d' : Distribution} {rem rem₁ rem' : List (BitVec 8)} {leafIndex : UInt32}
      {debt : SolanaValidatorDebt} (does : Does rt call b e (.writeOff leafIndex debt))
      (books : Does rt call b e (.book debt.amount)) (epoch : d.dzEpoch = e) (has : b.HasDist d rem)
      (step : DistStep rt (.writeOff leafIndex debt) (d, rem) (d₁, rem₁))
      (step' : DistStep rt (.book debt.amount) (d₁, rem₁) (d', rem')) (has' : b'.HasDist d' rem')

section

variable {rt : Runtime} {call : Call} {b b' b₁ : Books} {e : DoubleZeroEpoch}

/-- One distribution takes a step and the others stay. -/
theorem DistChange.of_updated {a : DistAction} {d d' : Distribution} {rem rem' : List (BitVec 8)}
    (does : Does rt call b d.dzEpoch a) (has : b.HasDist d rem)
    (step : DistStep rt a (d, rem) (d', rem')) (updated : b.DistUpdated b' d' rem') :
    DistChange rt call b b' e := by
  have hepoch : d'.dzEpoch = d.dzEpoch := step.fixed.1
  by_cases he : e = d'.dzEpoch
  · subst he
    exact .step (hepoch ▸ does) hepoch.symm has step updated.has
  · refine .kept ?_
    rw [updated e, if_neg he]

theorem DistChange.of_setDist {a : DistAction} {d d' : Distribution} {rem rem' : List (BitVec 8)}
    (does : Does rt call b d.dzEpoch a) (has : b.HasDist d rem)
    (step : DistStep rt a (d, rem) (d', rem')) (he : b₁.entry = b.entry) :
    DistChange rt call b (b₁.setDist d' rem') e := by
  refine .of_updated does has step fun e => ?_
  rw [Books.distUpdated_setDist _ _ _ e, he]

theorem Transition.change (ht : Transition rt call b b') (e : DoubleZeroEpoch) :
    DistChange rt call b b' e := by
  by_cases hw : Kind.distribution ∉ call.data.writes
  · exact .kept (ht.frame hw)
  cases ht with
  | @initializeDistribution c c' crem jrem j rate d prepaid lamports b₁ data config unpaused signed
      journal new advanced initialized rate_eq funds exempt moved =>
    by_cases he : e = d.dzEpoch
    · subst he
      exact .create data journal (initialized.dzEpoch_eq ▸ new) initialized rfl
        (Books.set_entry_self ..)
    · refine .kept ?_
      rw [Books.distUpdated_setDist _ _ _ e, if_neg he, moved.entry_eq]
      exact Books.set_entry_of_ne b (.programConfig c') crem (i := .config)
        (j := .distribution e) (by simp)
  | configureDebt data running signed has allowed charged step =>
    exact .of_setDist (.configureDebt data) has step rfl
  | finalizeZeroDebt data running signed has allowed step same =>
    exact .of_setDist (.finalizeDebt data) has step rfl
  | finalizeDebt data running signed has allowed step paid =>
    exact .of_setDist (.finalizeDebt data) has step rfl
  | configureRewards data running signed has allowed step =>
    exact .of_setDist (.configureRewards data) has step rfl
  | setEconomicBurnRate data valid running signed has step =>
    exact .of_setDist (.setEconomicBurnRate data) has step rfl
  | finalizeRewards data running has allowed configured aged step paid room keyDist =>
    exact .of_setDist (.finalizeRewards data keyDist) has step rfl
  | collect data running has integration keyDist keyIntegration invokes foreign delta step =>
    exact .of_setDist (.collect data integration keyDist keyIntegration) has step foreign.entry_eq
  | distribute data indexed running has keyDist contributor share recipients split payouts step burn
      relayed =>
    refine .of_updated (.distribute data indexed keyDist) has step fun e => ?_
    rw [relayed.entry_eq, burn.entry_eq, Books.distUpdated_setDist _ _ _ e, payouts.entry_eq]
  | pay data indexed running has keyDist deposit journal step enough moved =>
    refine .of_updated (.pay data indexed keyDist) has step fun e => ?_
    rw [moved.entry_eq, Books.set_entry_of_ne _ _ _ (by simp), Books.distUpdated_setDist _ _ _ e]
  | enableWriteOff data running activated has keyDist step paid =>
    exact .of_setDist (.enableWriteOff data keyDist) has step rfl
  | @writeOff _ d d' w w' rem rem' _ wrem wrem' _ _ _ _ b₁ data indexed running signed has keyDist
      keyBook deposit short step written hasBook later bookStep =>
    have hepoch : d'.dzEpoch = d.dzEpoch := step.fixed.1
    have hepoch' : w'.dzEpoch = w.dzEpoch := bookStep.fixed.1
    have hup : b.DistUpdated b₁ d' rem' := by
      intro e
      rw [written, Books.distUpdated_setDist _ _ _ e, Books.set_entry_of_ne _ _ _ (by simp)]
    have hup' : b₁.DistUpdated (b₁.setDist w' wrem') w' wrem' :=
      fun e => Books.distUpdated_setDist _ _ _ e
    rcases hup.of_has hasBook with ⟨rfl, rfl⟩ | ⟨hne, hold⟩
    · -- Booked on the indebted distribution itself.
      by_cases he : e = w'.dzEpoch
      · subst he
        rw [← hepoch, ← hepoch'] at keyDist
        rw [← hepoch'] at keyBook
        exact .twice (.writeOff data indexed keyDist) (.book data keyBook)
          (hepoch.symm.trans hepoch'.symm) has step bookStep hup'.has
      · refine .kept ?_
        rw [hup' e, if_neg he, hup e, if_neg (by rwa [← hepoch'])]
    · by_cases he : e = w'.dzEpoch
      · subst he
        exact .step (.book data (hepoch' ▸ keyBook)) hepoch'.symm hold bookStep hup'.has
      · by_cases hd : e = d'.dzEpoch
        · subst hd
          refine .step (.writeOff data indexed (hepoch ▸ keyDist)) hepoch.symm has step ?_
          rw [Books.HasDist, hup' _, if_neg he]
          exact hup.has
        · refine .kept ?_
          rw [hup' e, if_neg he, hup e, if_neg hd]
  | sweepNothing data running has journal next zero step =>
    refine .of_updated (.sweep data journal next) has step fun e => ?_
    rw [Books.set_entry_of_ne _ _ _ (by simp), Books.distUpdated_setDist _ _ _ e]
  | sweep data running has journal next debt nonzero enough invokes foreign transfer step =>
    refine .of_updated (.sweep data journal next) has step fun e => ?_
    rw [Books.set_entry_of_ne _ _ _ (by simp), Books.distUpdated_setDist _ _ _ e,
      transfer.entry_eq, foreign.entry_eq]
  | migrate data journal migrated =>
    rcases migrated.entry (.distribution e) with
      hsame | ⟨d, rem, d', rem', hi, has, step, hnew, listed⟩
    · exact .kept hsame
    · have he : e = d.dzEpoch := Identity.distribution.inj hi
      have hepoch : d'.dzEpoch = d.dzEpoch := step.fixed.1
      subst he
      refine .step (.migrate data journal listed) rfl has step ?_
      rw [Books.HasDist, hepoch]
      exact hnew
  | _ => exact absurd (by simp [‹call.data = _›, InstructionData.writes]) hw

/-- A distribution during a call: as the call found it, or with its leaf already written off. -/
inductive Midway (rt : Runtime) (s : DistState) : DistState → Prop
  | found : Midway rt s s
  | written {leafIndex : UInt32} {debt : SolanaValidatorDebt} {s₁ : DistState} :
      DistStep rt (.writeOff leafIndex debt) s s₁ → Midway rt s s₁

theorem Midway.eq {s : DistState} {d : Distribution} {rem : List (BitVec 8)}
    (h : Midway rt (d, rem) s) :
    ∃ n, s.1 = { d with solanaValidatorWriteOffCount := n } := by
  cases h with
  | found => exact ⟨_, rfl⟩
  | written hstep =>
    cases hstep with
    | writeOff _ _ _ _ => exact ⟨_, rfl⟩

theorem DistChange.preserves {P : DistState → Prop} {d' : Distribution} {rem' : List (BitVec 8)}
    (hchange : DistChange rt call b b' d'.dzEpoch) (hd : b'.HasDist d' rem')
    (hinit : ∀ {c j jrem prepaid d}, call.data = .initializeDistribution →
      b.entry .journal = some (.journal j, jrem) → Initialized rt c j prepaid d → P (d, []))
    (hstep : ∀ {d rem a s s'}, b.HasDist d rem → Does rt call b d.dzEpoch a →
      Midway rt (d, rem) s → DistStep rt a s s' → P s → P s')
    (hP : ∀ {d rem}, b.HasDist d rem → P (d, rem)) : P (d', rem') := by
  cases hchange with
  | kept same => exact hP (same.symm.trans hd)
  | create data journal new initialized epoch created =>
    obtain ⟨rfl, rfl⟩ := created.unique hd epoch.symm
    exact hinit data journal initialized
  | step does epoch has step has' =>
    obtain ⟨rfl, rfl⟩ := has'.unique hd (step.fixed.1.trans epoch).symm
    rw [← epoch] at does
    exact hstep has does .found step (hP has)
  | twice does books epoch has step step' has' =>
    obtain ⟨rfl, rfl⟩ := has'.unique hd ((step'.fixed.1.trans step.fixed.1).trans epoch).symm
    rw [← epoch] at does books
    exact hstep has books (.written step) step' (hstep has does .found step (hP has))

/-- A distribution stays, and keeps what the steps the call really takes keep. -/
theorem DistChange.keeps {P : DistState → Prop} {d : Distribution} {rem : List (BitVec 8)}
    (hchange : DistChange rt call b b' d.dzEpoch) (hd : b.HasDist d rem)
    (hstep : ∀ {a s s'}, Does rt call b d.dzEpoch a → Midway rt (d, rem) s → DistStep rt a s s' →
      P s → P s')
    (hP : P (d, rem)) :
    ∃ d' rem', b'.HasDist d' rem' ∧ d'.dzEpoch = d.dzEpoch ∧ P (d', rem') := by
  cases hchange with
  | kept same => exact ⟨d, rem, same.trans hd, rfl, hP⟩
  | create data journal new initialized epoch created =>
    exact absurd (new.symm.trans hd) (by simp)
  | step does epoch has step has' =>
    obtain ⟨rfl, rfl⟩ := has.unique hd epoch.symm
    exact ⟨_, _, has', step.fixed.1, hstep does .found step hP⟩
  | twice does books epoch has step step' has' =>
    obtain ⟨rfl, rfl⟩ := has.unique hd epoch.symm
    exact ⟨_, _, has', step'.fixed.1.trans step.fixed.1,
      hstep books (.written step) step' (hstep does .found step hP)⟩

/-- The same along a run. -/
theorem BooksRun.dist_kept {P : DistState → Prop} {h : List (Entry Books Label)}
    (hrun : BooksRun rt b h b')
    (hstep : ∀ x ∈ h, ∀ {call d rem a s s'}, x.label = .call call → x.before.HasDist d rem →
      Does rt call x.before d.dzEpoch a → Midway rt (d, rem) s → DistStep rt a s s' → P s → P s')
    {d : Distribution} {rem : List (BitVec 8)} (hd : b.HasDist d rem) (hP : P (d, rem)) :
    ∃ d' rem', b'.HasDist d' rem' ∧ d'.dzEpoch = d.dzEpoch ∧ P (d', rem') := by
  induction hrun with
  | start => exact ⟨d, rem, hd, rfl, hP⟩
  | next _ hs ih =>
    obtain ⟨d₁, rem₁, hd₁, hepoch₁, hP₁⟩ := ih fun x hx => hstep x (List.mem_cons_of_mem _ hx)
    cases hs with
    | call ht =>
      obtain ⟨d₂, rem₂, hd₂, hepoch₂, hP₂⟩ := (ht.change d₁.dzEpoch).keeps hd₁
        (hstep _ List.mem_cons_self rfl hd₁) hP₁
      exact ⟨d₂, rem₂, hd₂, hepoch₂.trans hepoch₁, hP₂⟩
    | outside hforeign =>
      exact ⟨d₁, rem₁, (congrFun hforeign.entry_eq _).trans hd₁, hepoch₁, hP₁⟩

/-- What holds of a new distribution and is kept by the steps the run really takes holds of every
distribution reached. -/
theorem BooksRun.dist_induction {P : DistState → Prop} {b₀ : Books} {h : List (Entry Books Label)}
    (hrun : BooksRun rt b₀ h b) (hempty : b₀.Empty)
    (hinit : ∀ x ∈ h, ∀ {call c j jrem prepaid d}, x.label = .call call →
      call.data = .initializeDistribution → x.before.entry .journal = some (.journal j, jrem) →
      Initialized rt c j prepaid d → P (d, []))
    (hstep : ∀ x ∈ h, ∀ {call d rem a s s'}, x.label = .call call → x.before.HasDist d rem →
      Does rt call x.before d.dzEpoch a → Midway rt (d, rem) s → DistStep rt a s s' → P s → P s')
    {d : Distribution} {rem : List (BitVec 8)} (hd : b.HasDist d rem) : P (d, rem) := by
  induction hrun generalizing d rem with
  | start => exact absurd hd (by simp [Books.HasDist, hempty _])
  | next _ hs ih =>
    have ih := @ih (fun x hx => hinit x (List.mem_cons_of_mem _ hx))
      fun x hx => hstep x (List.mem_cons_of_mem _ hx)
    cases hs with
    | call ht =>
      exact (ht.change d.dzEpoch).preserves hd (hinit _ List.mem_cons_self rfl)
        (hstep _ List.mem_cons_self rfl) ih
    | outside hforeign => exact ih ((congrFun hforeign.entry_eq _).symm.trans hd)

end

end DoubleZero.Revenue
