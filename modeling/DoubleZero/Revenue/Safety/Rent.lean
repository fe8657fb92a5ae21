import DoubleZero.Revenue.Invariant.Change
import DoubleZero.Revenue.Invariant.Lamports
import DoubleZero.Revenue.Replay

/-!
# Rent and relay payments of a distribution

When rewards are finalized the payer adds a relay payment for every contributor, and each
distribution of rewards pays one out. `Funded` says that the account keeps its rent and what is
still due. Opening a distribution for write-offs makes the account longer and tops it up to the rent
of the new length only, so it counts the relay payments as rent: `ReservesRelay` is the condition
under which that does no harm.
-/

namespace DoubleZero.Revenue

open DoubleZero.Lib DoubleZero.Solana

/-- The relay payments still due. -/
def Distribution.relayDue (d : Distribution) : Nat :=
  d.distributeRewardsRelayLamports.toNat *
    (d.totalContributors.toNat - d.distributedRewardsCount.toNat)

/-- What the account must hold besides its rent. -/
def Distribution.reserve (d : Distribution) : Nat :=
  if d.isRewardsCalculationFinalized = true then d.relayDue else 0

/-- The rent of a distribution with the bytes after its data. -/
def Runtime.distributionRent (rt : Runtime) (rem : List (BitVec 8)) : Nat :=
  rt.rent.minimumBalance (dataEnd AccountState Distribution + rem.length)

/-- The account holds its rent and its reserve. -/
def Funded (rt : Runtime) (b : Books) (s : DistState) : Prop :=
  rt.distributionRent s.2 + s.1.reserve ≤ b.lamports (rt.distributionKey s.1.dzEpoch)

section

variable {rt : Runtime} {call : Call} {b b' b₁ : Books} {a : DistAction} {s s' : DistState}
  {d d' : Distribution} {rem rem' : List (BitVec 8)} {lamports : Pubkey → Nat}

theorem Distribution.reserve_eq
    (hfinal : d'.isRewardsCalculationFinalized = d.isRewardsCalculationFinalized)
    (hrelay : d'.distributeRewardsRelayLamports = d.distributeRewardsRelayLamports)
    (htotal : d'.totalContributors = d.totalContributors)
    (hcount : d'.distributedRewardsCount = d.distributedRewardsCount) : d'.reserve = d.reserve := by
  rw [Distribution.reserve, Distribution.reserve, Distribution.relayDue, Distribution.relayDue,
    hfinal, hrelay, htotal, hcount]

theorem Distribution.reserve_of_final (hfinal : d.isRewardsCalculationFinalized = true) :
    d.reserve = d.relayDue :=
  if_pos hfinal

theorem Distribution.reserve_le (d : Distribution) : d.reserve ≤ d.relayDue := by
  unfold Distribution.reserve
  split
  · exact le_rfl
  · exact Nat.zero_le _

theorem Distribution.reserve_of_open (hopen : d.isRewardsCalculationFinalized = false) :
    d.reserve = 0 := by
  simp [Distribution.reserve, hopen]

/-- The steps that neither make the account longer nor pay out of it. -/
def DistAction.quiet : DistAction → Bool
  | .finalizeDebt | .finalizeRewards | .enableWriteOff | .distribute _ _ _ _ => false
  | _ => true

theorem DistStep.quiet_eq (hstep : DistStep rt a s s') (ha : a.quiet = true) :
    s'.2.length = s.2.length ∧ s'.1.reserve = s.1.reserve := by
  cases hstep with
  | finalizeZeroDebt | finalizeDebt | finalizeRewards | enableWriteOff | distribute =>
    exact absurd ha (by simp [DistAction.quiet])
  | configureRewards hopen =>
    refine ⟨rfl, ?_⟩
    rw [Distribution.reserve_of_open hopen]
    exact Distribution.reserve_of_open hopen
  | pay _ hmarks _ => exact ⟨hmarks.length_eq, rfl⟩
  | writeOff _ hmarksOff hmarks _ => exact ⟨hmarks.length_eq.trans hmarksOff.length_eq, rfl⟩
  | sweepNothing => exact ⟨rfl, Distribution.reserve_eq (by simp) rfl rfl rfl⟩
  | sweep =>
    exact ⟨rfl, Distribution.reserve_eq
      (Distribution.isRewardsCalculationFinalized_setHasSwept2zTokens _ true) rfl rfl rfl⟩
  | _ => exact ⟨rfl, rfl⟩

/-- A distribution whose account keeps its lamports and takes a quiet step. -/
theorem Funded.quiet (h : Funded rt b s) (hstep : DistStep rt a s s') (ha : a.quiet = true)
    (hle : b.lamports (rt.distributionKey s.1.dzEpoch) ≤
      b'.lamports (rt.distributionKey s.1.dzEpoch)) : Funded rt b' s' := by
  obtain ⟨hlen, hreserve⟩ := hstep.quiet_eq ha
  unfold Funded Runtime.distributionRent at h ⊢
  rw [hlen, hreserve, hstep.fixed.1]
  exact h.trans hle

/-- One distribution is rewritten, and the accounts of the others keep their lamports. -/
theorem Funded.of_updated (h : ∀ {d rem}, b.HasDist d rem → Funded rt b (d, rem))
    (hup : b.DistUpdated b' d' rem')
    (hle : ∀ e, b.entry (.distribution e) ≠ none → e ≠ d'.dzEpoch →
      b.lamports (rt.distributionKey e) ≤ b'.lamports (rt.distributionKey e))
    (hnew : Funded rt b' (d', rem')) : ∀ {d rem}, b'.HasDist d rem → Funded rt b' (d, rem) := by
  intro d rem hd
  rcases hup.of_has hd with ⟨rfl, rfl⟩ | ⟨hne, hold⟩
  · exact hnew
  · have hsome : b.entry (.distribution d.dzEpoch) ≠ none := by rw [hold]; simp
    exact (h hold).trans (hle _ hsome hne)

/-- One distribution takes a step, and a payer sends lamports to its account. -/
theorem Funded.of_paid {n : Nat} (h : ∀ {d rem}, b.HasDist d rem → Funded rt b (d, rem))
    (hstep : DistStep rt a (d, rem) (d', rem'))
    (hpaid : b.PaidIn rt (rt.distributionKey d.dzEpoch) n lamports)
    (hnew : rt.distributionRent rem' + d'.reserve ≤ lamports (rt.distributionKey d.dzEpoch))
    {x : Distribution} {xrem : List (BitVec 8)}
    (hx : (Books.setDist { b with lamports := lamports } d' rem').HasDist x xrem) :
    Funded rt (Books.setDist { b with lamports := lamports } d' rem') (x, xrem) := by
  have hepoch : d'.dzEpoch = d.dzEpoch := hstep.fixed.1
  have hup : b.DistUpdated (Books.setDist { b with lamports := lamports } d' rem') d' rem' :=
    fun e => Books.distUpdated_setDist _ _ _ e
  refine Funded.of_updated h hup (fun e hsome _ => ?_) ?_ hx
  · exact hpaid.le ⟨.distribution e, rfl, hsome⟩
  · unfold Funded
    rw [hepoch]
    exact hnew

/-- The debt is finalized before the rewards, so nothing is due yet. -/
theorem DistStep.finalizeDebt_reserve (hv : Valid s) (hstep : DistStep rt .finalizeDebt s s') :
    s'.1.reserve = 0 := by
  cases hstep with
  | finalizeZeroDebt hopen _ =>
    refine Distribution.reserve_of_open ?_
    rw [Distribution.isRewardsCalculationFinalized_setIsDebtCalculationFinalized]
    exact (hv.ordered.open_debt hopen).1
  | finalizeDebt hopen _ _ _ =>
    refine Distribution.reserve_of_open ?_
    refine (Distribution.isRewardsCalculationFinalized_setIsDebtCalculationFinalized _ true).trans ?_
    exact (hv.ordered.open_debt hopen).1

/-- Finalizing the rewards makes a relay payment due for every contributor. -/
theorem DistStep.finalizeRewards_reserve (hv : Valid s) (hstep : DistStep rt .finalizeRewards s s') :
    s'.1.reserve = s.1.distributeRewardsRelayLamports.toNat * s.1.totalContributors.toNat := by
  cases hstep with
  | @finalizeRewards d rem hopen _ _ _ =>
    have hcount : d.distributedRewardsCount = 0 :=
      (hv.booked.unswept (hv.ordered.open_rewards hopen)).2.1
    have hfinal := Distribution.isRewardsCalculationFinalized_setIsRewardsCalculationFinalized d true
    have hreserve : (d.setIsRewardsCalculationFinalized true).reserve =
        d.distributeRewardsRelayLamports.toNat *
          (d.totalContributors.toNat - d.distributedRewardsCount.toNat) := by
      exact Distribution.reserve_of_final hfinal
    rw [hcount] at hreserve
    exact hreserve

/-- Opening for write-offs leaves what is due. -/
theorem DistStep.enableWriteOff_reserve (hstep : DistStep rt .enableWriteOff s s') :
    s'.1.reserve = s.1.reserve ∧ s'.2 = grown s.2 s.1.totalSolanaValidators := by
  cases hstep with
  | enableWriteOff =>
    refine ⟨Distribution.reserve_eq ?_ rfl rfl rfl, rfl⟩
    exact Distribution.isRewardsCalculationFinalized_setIsSolanaValidatorDebtWriteOffEnabled _ true

/-- A distribution of rewards makes one payment less due. -/
theorem DistStep.distribute_reserve {leafIndex : UInt32} {rewardShare : RewardShare}
    {transferred burned : UInt64} (hv : Valid s)
    (hstep : DistStep rt (.distribute leafIndex rewardShare transferred burned) s s') :
    s'.2.length = s.2.length ∧
      s'.1.reserve + s.1.distributeRewardsRelayLamports.toNat = s.1.reserve := by
  cases hstep with
  | @distribute d rem rem' leafIndex rewardShare burnShare remainingShare transferred hopen hswept
      _ hmarks _ _ =>
    refine ⟨hmarks.length_eq, ?_⟩
    have hfinal : d.isRewardsCalculationFinalized = true := hv.ordered.swept_rewards hswept
    have hlt : d.distributedRewardsCount.toNat < d.totalContributors.toNat := by
      simp only [Distribution.areAllRewardsDistributed, decide_eq_false_iff_not] at hopen
      omega
    have htotal := d.totalContributors.toNat_lt
    have hcount : (d.distributedRewardsCount + 1).toNat = d.distributedRewardsCount.toNat + 1 := by
      rw [UInt32.toNat_add, UInt32.toNat_one, Nat.mod_eq_of_lt (by omega)]
    obtain ⟨n, hn⟩ : ∃ n, d.totalContributors.toNat = d.distributedRewardsCount.toNat + 1 + n :=
      ⟨_, (Nat.add_sub_of_le hlt).symm⟩
    have hold : d.reserve = d.distributeRewardsRelayLamports.toNat * (n + 1) := by
      rw [Distribution.reserve_of_final hfinal, Distribution.relayDue, hn]
      congr 1
      omega
    rw [hold, Nat.mul_succ]
    congr 1
    refine (Distribution.reserve_of_final ?_).trans ?_
    · exact hfinal
    · simp only [Distribution.relayDue, hcount, hn, Nat.add_sub_cancel_left]

/-- Every other instruction leaves what a distribution's account holds, and its reserve. -/
theorem Transition.funded_other (ht : Transition rt call b b')
    (hdata : ∀ {e a}, Does rt call b e a → a.quiet = true)
    (hspends : call.data.spends ≠ some .distribution)
    (hcreate : call.data ≠ .initializeDistribution)
    (h : ∀ {d rem}, b.HasDist d rem → Funded rt b (d, rem)) (hd : b'.HasDist d rem) :
    Funded rt b' (d, rem) := by
  have hle : ∀ {d rem}, b.HasDist d rem → b.lamports (rt.distributionKey d.dzEpoch) ≤
      b'.lamports (rt.distributionKey d.dzEpoch) := by
    intro d rem has
    have hsome : b.entry (.distribution d.dzEpoch) ≠ none := by rw [has]; simp
    exact ht.lamports_le hsome hspends
  cases ht.change d.dzEpoch with
  | kept same =>
    have has : b.HasDist d rem := same.symm.trans hd
    exact (h has).trans (hle has)
  | create data => exact absurd data hcreate
  | step does epoch has step has' =>
    obtain ⟨rfl, rfl⟩ := has'.unique hd (step.fixed.1.trans epoch).symm
    exact (h has).quiet step (hdata does) (hle has)
  | twice does books epoch has step step' has' =>
    obtain ⟨rfl, rfl⟩ := has'.unique hd ((step'.fixed.1.trans step.fixed.1).trans epoch).symm
    have hle₁ := hle has
    rw [← step.fixed.1] at hle₁
    exact ((h has).quiet step rfl le_rfl).quiet step' rfl hle₁

/-- The distributions a write-off may be enabled on without touching the relay payments. -/
def Distribution.Spares (rt : Runtime) (d : Distribution) (rem : List (BitVec 8)) (lamports : Nat) :
    Prop :=
  d.isRewardsCalculationFinalized = false ∨ d.relayDue = 0 ∨
    rt.distributionRent (grown rem d.totalSolanaValidators) + d.relayDue ≤ lamports

theorem Transition.funded (ht : Transition rt call b b')
    (hv : ∀ {d rem}, b.HasDist d rem → Valid (d, rem))
    (hspares : ∀ {d rem}, call.data = .enableSolanaValidatorDebtWriteOff →
      call.key? 1 = some (rt.distributionKey d.dzEpoch) → b.HasDist d rem →
      d.Spares rt rem (b.lamports (rt.distributionKey d.dzEpoch)))
    (h : ∀ {d rem}, b.HasDist d rem → Funded rt b (d, rem)) {x : Distribution}
    {xrem : List (BitVec 8)} (hx : b'.HasDist x xrem) : Funded rt b' (x, xrem) := by
  have hother := fun hdata hspends hcreate => ht.funded_other hdata hspends hcreate h hx
  cases ht with
  | @initializeDistribution c c' crem jrem j rate d prepaid lamports b₁ data config unpaused signed
      journal new advanced initialized rate_eq funds exempt moved =>
    have hlamports : ∀ k, (b₁.setDist d []).lamports k = lamports k := congrFun moved.lamports_eq
    have hup : b.DistUpdated (b₁.setDist d []) d [] := by
      intro e
      rw [Books.distUpdated_setDist _ _ _ e, moved.entry_eq]
      by_cases he : e = d.dzEpoch
      · rw [if_pos he, if_pos he]
      · rw [if_neg he, if_neg he]
        exact Books.set_entry_of_ne b (.programConfig c') crem (i := .config)
          (j := .distribution e) (by simp)
    refine Funded.of_updated h hup (fun e hsome _ => ?_) ?_ hx
    · rw [hlamports]
      exact funds.le ⟨.distribution e, rfl, hsome⟩
    · unfold Funded
      rw [hlamports, Distribution.reserve_of_open initialized.flag_eq]
      exact exempt
  | @finalizeZeroDebt c d d' rem rem' data running signed has allowed step same =>
    subst same
    have hup := Books.distUpdated_setDist b d' rem'
    refine Funded.of_updated h hup (fun e _ _ => le_rfl) ?_ hx
    unfold Funded
    rw [step.finalizeDebt_reserve (hv has), step.fixed.1]
    exact (Nat.add_le_add_left (Nat.zero_le _) _).trans (h has)
  | finalizeDebt data running signed has allowed step paid =>
    refine Funded.of_paid h step paid ?_ hx
    rw [step.finalizeDebt_reserve (hv has), paid.1]
    unfold Runtime.distributionRent
    omega
  | finalizeRewards data running has allowed configured aged step paid room =>
    refine Funded.of_paid h step paid ?_ hx
    have hpos := (rt.rent.pos _).trans_le ((Nat.le_add_right _ _).trans (h has))
    rw [paid.1] at room
    rw [step.finalizeRewards_reserve (hv has), paid.1]
    unfold Runtime.distributionRent
    simp only at hpos ⊢
    omega
  | @enableWriteOff c d d' rem rem' lamports data running activated has keyDist step paid =>
    refine Funded.of_paid h step paid ?_ hx
    obtain ⟨hreserve, hrem⟩ := step.enableWriteOff_reserve
    simp only at hreserve hrem
    rw [hreserve, paid.1]
    unfold Runtime.distributionRent
    rcases hspares data keyDist has with hopen | hnone | hcovered
    · rw [Distribution.reserve_of_open hopen]
      omega
    · have hle := Distribution.reserve_le d
      omega
    · have hle := Distribution.reserve_le d
      unfold Runtime.distributionRent at hcovered
      rw [hrem]
      omega
  | @distribute c d d' rem rem' rrem r _ _ _ _ _ _ _ relayer b₁ b₂ _ data indexed running has keyDist
      contributor share recipients split payouts step burn relayed =>
    have hepoch : d'.dzEpoch = d.dzEpoch := step.fixed.1
    have hlamports : b₂.lamports = b.lamports := burn.lamports_eq.trans payouts.lamports_eq
    have hup : b.DistUpdated b' d' rem' := by
      intro e
      rw [relayed.entry_eq, burn.entry_eq, Books.distUpdated_setDist _ _ _ e, payouts.entry_eq]
    obtain ⟨hlen, hreserve⟩ := step.distribute_reserve (hv has)
    have hold : rt.distributionRent rem + d.reserve ≤ b.lamports (rt.distributionKey d.dzEpoch) :=
      h has
    refine Funded.of_updated h hup (fun e _ hne => ?_) ?_ hx
    · rw [← hlamports]
      refine relayed.le_of_ne fun heq => hne ?_
      rw [Runtime.distributionKey_inj.1 heq, hepoch]
    · have hle := relayed.le_add (k := rt.distributionKey d.dzEpoch)
      unfold Funded Runtime.distributionRent at *
      rw [hlamports] at hle
      simp only at hlen hreserve ⊢
      rw [hlen, hepoch]
      omega
  | _ =>
    refine hother ?_ (by simp [‹call.data = _›, InstructionData.spends]) (by simp [‹call.data = _›])
    intro e a hdoes
    cases hdoes with
    | finalizeDebt data | finalizeRewards data | enableWriteOff data | distribute data =>
      simp [data] at *
    | _ => rfl

theorem BooksRun.funded {b₀ : Books} {h : List (Entry Books Label)} (hrun : BooksRun rt b₀ h b)
    (hempty : b₀.Empty)
    (hspares : ∀ y ∈ h, ∀ {call d rem}, y.label = .call call →
      call.data = .enableSolanaValidatorDebtWriteOff →
      call.key? 1 = some (rt.distributionKey d.dzEpoch) → y.before.HasDist d rem →
      d.Spares rt rem (y.before.lamports (rt.distributionKey d.dzEpoch)))
    {d : Distribution} {rem : List (BitVec 8)} (hd : b.HasDist d rem) : Funded rt b (d, rem) := by
  induction hrun generalizing d rem with
  | start => exact absurd hd (by simp [Books.HasDist, hempty _])
  | next hr hs ih =>
    have ih := @ih fun y hy => hspares y (List.mem_cons_of_mem _ hy)
    cases hs with
    | call ht =>
      refine ht.funded (fun has => BooksRun.valid hr hempty has) ?_ ih hd
      exact hspares _ List.mem_cons_self rfl
    | outside hforeign =>
      have has : Books.HasDist _ d rem := (congrFun hforeign.entry_eq _).symm.trans hd
      refine (ih has).trans (hforeign.lamports_le _ ⟨.distribution d.dzEpoch, rfl, ?_⟩)
      rw [has]
      simp

end

/-! ## On the ledger -/

/-- A distribution is opened for write-offs before its rewards are final, when no relay payment is
due any more, or with enough lamports for both. -/
def ReservesRelay (rt : Runtime) (x : Entry RevenueLedger Label) : Prop :=
  ∀ (call : Call) (k : Pubkey) (d : Distribution) (rem : List (BitVec 8)), x.label = .call call →
    call.data = .enableSolanaValidatorDebtWriteOff → call.key? 1 = some k →
    view ID x.before k = some (d, rem) → d.Spares rt rem (x.before k).lamports

theorem LedgerRun.funded {rt : Runtime} {L₀ L : RevenueLedger} {h : History} {k : Pubkey}
    {d : Distribution} {rem : List (BitVec 8)} (hg : Genesis rt L₀) (hrun : LedgerRun rt L₀ h L)
    (hspares : ∀ x ∈ h, ReservesRelay rt x) (hd : view ID L k = some (d, rem)) :
    rt.rent.minimumBalance (L k).data.dataLen + d.reserve ≤ (L k).lamports := by
  obtain ⟨hc, hbooks⟩ := hrun.books hg
  obtain ⟨hk, has, -, -⟩ := hc.of_view hd
  have hlen : (L k).data.dataLen = dataEnd AccountState Distribution + rem.length := by
    rw [(view_eq_some.1 hd).2]
    rfl
  have hfunded : Funded rt (Revenue.books rt L) (d, rem) := by
    refine BooksRun.funded hbooks hg.books_empty ?_ has
    intro y hy call d rem hlabel hdata hkey has
    obtain ⟨x, hx, rfl⟩ := List.mem_map.1 hy
    exact hspares x hx call _ d rem hlabel hdata hkey (view_eq_stateAt.2 has)
  rw [hlen, hk]
  exact hfunded

theorem relay_payments_covered {rt : Runtime} {L₀ L : RevenueLedger} {h : History} {k : Pubkey}
    {d : Distribution} {rem : List (BitVec 8)} (hg : Genesis rt L₀) (hrun : LedgerRun rt L₀ h L)
    (hspares : ∀ x ∈ h, ReservesRelay rt x) (hd : view ID L k = some (d, rem))
    (hfinal : d.isRewardsCalculationFinalized = true) :
    rt.rent.minimumBalance (L k).data.dataLen + d.distributeRewardsRelayLamports.toNat *
        (d.totalContributors.toNat - d.distributedRewardsCount.toNat) ≤ (L k).lamports ∧
      ∀ (call : Call) (unitShare economicBurnRate : UInt32) (proof : MerkleProof)
        (L' : RevenueLedger), call.data = .distributeRewards unitShare economicBurnRate proof →
        call.Admissible rt → process rt call L = .ok L' →
          rt.rent.minimumBalance (L' k).data.dataLen ≤ (L' k).lamports := by
  constructor
  · have hle := LedgerRun.funded hg hrun hspares hd
    rwa [Distribution.reserve_of_final hfinal] at hle
  · intro call unitShare economicBurnRate proof L' hdata hadmissible hprocess
    have hrun' : LedgerRun rt L₀ (⟨L, .call call, L'⟩ :: h) L' :=
      .next hrun (.call hadmissible hprocess)
    obtain ⟨-, d', rem', hd', -⟩ := hrun.persists hg (.next .start (.call hadmissible hprocess)) hd
    have hle := LedgerRun.funded hg hrun' ?_ hd'
    · exact (Nat.le_add_right _ _).trans hle
    · intro x hx
      rcases List.mem_cons.1 hx with rfl | hx
      · rintro c k₁ d₁ rem₁ ⟨⟩ hdata' - -
        exact absurd (hdata.symm.trans hdata') (by simp)
      · exact hspares x hx

/-- Write-offs are enabled before the rewards are final. -/
theorem relay_payments_covered_epoch :
    ∃ (h : History) (L : RevenueLedger) (d : Distribution) (rem : List (BitVec 8)),
      LedgerRun (Sample.runtime Sample.debts Sample.shares) (Sample.genesis 1000 700) h L ∧
      view ID L Sample.distribution = some (d, rem) ∧
      d.isSolanaValidatorDebtWriteOffEnabled = true ∧
      Sample.rent.minimumBalance (L Sample.distribution).data.dataLen +
          d.distributeRewardsRelayLamports.toNat *
            (d.totalContributors.toNat - d.distributedRewardsCount.toNat) ≤
        (L Sample.distribution).lamports := by
  obtain ⟨h, L, hrun, -, hP⟩ := Sample.exists_epoch (P := fun h L =>
    h.all (passes .enableSolanaValidatorDebtWriteOff 1 fun d => !d.isRewardsCalculationFinalized) ∧
    (view (T := Distribution) ID L Sample.distribution).any fun x =>
      x.1.isRewardsCalculationFinalized = true ∧ x.1.isSolanaValidatorDebtWriteOffEnabled = true)
    (by decide +kernel)
  obtain ⟨hall, hdist⟩ := of_decide_eq_true hP
  obtain ⟨⟨d, rem⟩, hd, hfacts⟩ := (Option.any_eq_true _ _).1 hdist
  obtain ⟨hfinal, henabled⟩ := of_decide_eq_true hfacts
  refine ⟨h, L, d, rem, hrun, hd, henabled, ?_⟩
  refine (relay_payments_covered (Sample.genesis_unused 1000 700) hrun ?_ hd hfinal).1
  intro x hx call k d rem hlabel hdata hkey hview
  have hpasses := List.all_eq_true.1 hall x hx
  rw [← hdata] at hpasses
  exact .inl (by simpa using passes_elim hpasses hlabel hkey hview)

/-- Finalized rewards, then write-offs: the reserve for the relayers pays for the longer account. -/
theorem relay_reserve_consumed :
    ∃ (h : History) (L : RevenueLedger) (d : Distribution) (rem : List (BitVec 8)),
      LedgerRun (Sample.runtime Sample.debts Sample.shares) (Sample.genesis 1000 700) h L ∧
      view ID L Sample.distribution = some (d, rem) ∧
      d.isRewardsCalculationFinalized = true ∧
      (L Sample.distribution).lamports <
        Sample.rent.minimumBalance (L Sample.distribution).data.dataLen +
          d.distributeRewardsRelayLamports.toNat *
            (d.totalContributors.toNat - d.distributedRewardsCount.toNat) := by
  obtain ⟨h, L, hrun, hlabels, hP⟩ := Sample.exists_run_of_replay Sample.debts Sample.shares 1000 700
    (Sample.opening ++ [Sample.openEpoch, Sample.configureDebt 2 150, Sample.finalizeDebt,
      Sample.configureRewards 2 ⟨2⟩, Sample.finalizeRewards, Sample.enableWriteOff])
    (P := fun _ L => (view (T := Distribution) ID L Sample.distribution).any fun x =>
      x.1.isRewardsCalculationFinalized = true ∧
      (L Sample.distribution).lamports <
        Sample.rent.minimumBalance (L Sample.distribution).data.dataLen +
          x.1.distributeRewardsRelayLamports.toNat *
            (x.1.totalContributors.toNat - x.1.distributedRewardsCount.toNat))
    (by decide +kernel) (by decide +kernel)
  obtain ⟨⟨d, rem⟩, hd, hfacts⟩ := (Option.any_eq_true _ _).1 hP
  exact ⟨h, L, d, rem, hrun, hd, of_decide_eq_true hfacts⟩

end DoubleZero.Revenue
