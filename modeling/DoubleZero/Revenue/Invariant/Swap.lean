import DoubleZero.Revenue.Invariant.Epochs
import DoubleZero.Revenue.Invariant.Pool
import DoubleZero.Revenue.Invariant.Totals

/-!
# The 2Z that was swapped for SOL

The journal counts the 2Z that buyers sent to the swap destination and that no sweep has taken out
of it yet. `SwapBooked` says that the count is backed by tokens, with room for a transfer that is
still to be counted, and that together with what was swept it makes up all that was ever swapped.
`Transition.swapBooked` is its step.
-/

namespace DoubleZero.Revenue

open DoubleZero.Lib DoubleZero.Solana

/-! ## The swap destination -/

/-- The swap destination holds `n`, under the authority only this program signs for. -/
def Books.SwapHolds (rt : Runtime) (b : Books) (n : Nat) : Prop :=
  ∃ a, b.tokens rt.swapDestinationKey = some a ∧ a.owner = rt.findSwapAuthorityAddress.1 ∧
    a.amount.toNat = n

/-- Nothing is taken out of the swap destination. -/
def Books.KeepsSwap (rt : Runtime) (b b' : Books) : Prop :=
  ∀ n, b.SwapHolds rt n → ∃ gift, b'.SwapHolds rt (n + gift)

/-- The programs a call invokes take nothing out of the swap destination: no call signs for its
authority when it invokes another program than the token program. -/
def Call.SparesSwap (rt : Runtime) (call : Call) : Prop :=
  ∀ L L' returnData, call.env.cpi L = .ok (L', returnData) →
    (books rt L).KeepsSwap rt (books rt L')

section

variable {rt : Runtime} {call : Call} {b b' b₁ : Books} {n : Nat} {k : Pubkey} {a : TokenAccount}
  {e : DoubleZeroEpoch}

theorem Books.SwapHolds.of_eq (h : b.SwapHolds rt n)
    (heq : b'.tokens rt.swapDestinationKey = b.tokens rt.swapDestinationKey) :
    b'.SwapHolds rt n := by
  obtain ⟨a, ha, howner, hamount⟩ := h
  exact ⟨a, heq.trans ha, howner, hamount⟩

theorem Books.KeepsSwap.of_eq
    (heq : b'.tokens rt.swapDestinationKey = b.tokens rt.swapDestinationKey) :
    b.KeepsSwap rt b' :=
  fun _ h => ⟨0, h.of_eq heq⟩

theorem Books.KeepsSwap.trans {b'' : Books} (h : b.KeepsSwap rt b') (h' : b'.KeepsSwap rt b'') :
    b.KeepsSwap rt b'' := by
  intro n hn
  obtain ⟨gift, hgift⟩ := h n hn
  obtain ⟨gift', hgift'⟩ := h' _ hgift
  exact ⟨gift + gift', by rwa [← Nat.add_assoc]⟩

/-- A token account that is created elsewhere. -/
theorem Books.KeepsSwap.of_vacant (hvacant : b.tokens k = none) :
    b.KeepsSwap rt (b.setToken k a) := by
  rintro n ⟨c, hc, howner, hamount⟩
  refine ⟨0, c, ?_, howner, hamount⟩
  rw [Books.setToken_tokens, if_neg, hc]
  rintro rfl
  exact absurd (hc.symm.trans hvacant) (by simp)

theorem Books.KeepsTokens.swap (h : b.KeepsTokens rt b') : b.KeepsSwap rt b' := by
  rintro n ⟨a, ha, howner, rfl⟩
  obtain ⟨a', ha', -, howner', hle⟩ := h _ a ha (howner ▸ Runtime.derived_find _)
  refine ⟨a'.amount.toNat - a.amount.toNat, a', ha', howner'.trans howner, ?_⟩
  have hle := UInt64.le_iff_toNat_le.1 hle
  omega

theorem Call.SparesSwap.invokes (h : call.SparesSwap rt) (hinvokes : call.Invokes rt b b') :
    b.KeepsSwap rt b' := by
  obtain ⟨L, L', returnData, -, hcpi, rfl, rfl⟩ := hinvokes
  exact h L L' returnData hcpi

theorem Payouts.swap_eq {authority : Pubkey} {share : UInt64} {rs : List RecipientShare}
    (h : Payouts rt (rt.poolKey e) authority share rs b b') :
    b'.tokens rt.swapDestinationKey = b.tokens rt.swapDestinationKey := by
  induction h with
  | nil => rfl
  | cons htransfer _ ih =>
    refine ih.trans (htransfer.tokens_of_ne (Runtime.swapDestinationKey_ne_poolKey e) ?_)
    exact Runtime.find_ne_ata _ _ _

/-- Only a sweep takes tokens out of the swap destination. -/
theorem Transition.keepsSwap (ht : Transition rt call b b') (hspares : call.SparesSwap rt)
    (hdata : call.data ≠ .sweepDistributionTokens) : b.KeepsSwap rt b' := by
  cases ht with
  | collect data running has integration keyDist keyIntegration invokes =>
    exact (hspares.invokes invokes).trans (.of_eq rfl)
  | @distribute c d d' rem rem' _ _ _ _ _ _ _ _ _ _ b₁ b₂ _ data indexed running has keyDist
      contributor share recipients split payouts step burn relayed =>
    refine .of_eq ?_
    rw [relayed.tokens_eq, burn.tokens_of_ne (Runtime.swapDestinationKey_ne_poolKey _)]
    exact payouts.swap_eq
  | sweepNothing data => exact absurd data hdata
  | sweep data => exact absurd data hdata
  | initializeProgram data new funds vacant =>
    exact Books.KeepsSwap.trans (.of_vacant vacant) (.of_eq rfl)
  | initializeSwapDestination data config funds vacant =>
    rintro n ⟨a, ha, -, -⟩
    exact absurd (ha.symm.trans vacant) (by simp)
  | initializeJournal data new funds exempt vacant =>
    exact Books.KeepsSwap.trans (.of_vacant vacant) (.of_eq rfl)
  | @initializeDistribution c c' crem jrem j rate d prepaid lamports b₁ data config unpaused signed
      journal new advanced initialized rate_eq funds exempt moved vacant =>
    have hpool : rt.swapDestinationKey ≠ rt.poolKey d.dzEpoch :=
      Runtime.swapDestinationKey_ne_poolKey _
    have hset : (b.setToken (rt.poolKey d.dzEpoch) ⟨DOUBLEZERO_MINT_KEY,
        rt.distributionKey d.dzEpoch, 0⟩).tokens rt.swapDestinationKey =
          b.tokens rt.swapDestinationKey := by
      rw [Books.setToken_tokens, if_neg hpool]
    refine .of_eq (Eq.trans ?_ hset)
    rcases moved with ⟨-, rfl⟩ | htransfer
    · rfl
    · exact htransfer.tokens_of_ne (Runtime.find_ne_ata _ _ _) hpool
  | pay data indexed running has keyDist deposit journal step enough moved =>
    refine .of_eq ?_
    rw [moved.tokens_eq]
    rfl
  | withdrawSol data running journal enough moved =>
    refine .of_eq ?_
    rw [moved.tokens_eq]
    rfl
  | withdrawDeposit data running deposit amount nonzero authorized moved =>
    refine .of_eq ?_
    rw [moved.tokens_eq]
  | migrate data journal migrated =>
    refine .of_eq ?_
    rw [migrated.tokens_eq]
  | writeOff data indexed running signed has keyDist keyBook deposit short step written =>
    subst written
    exact .of_eq rfl
  | _ => exact .of_eq rfl

end

/-! ## The journal and what was swept -/

/-- What the sweep of a distribution brought it. -/
def DistState.converted (s : DistState) : Nat := s.1.collected2zConvertedFromSol.toNat

/-- The two counters of swapped 2Z are the same. -/
def Journal.Same2z (j j' : Journal) : Prop :=
  j'.swap2zDestinationBalance = j.swap2zDestinationBalance ∧
    j'.lifetimeSwapped2zAmount = j.lifetimeSwapped2zAmount

section

variable {rt : Runtime} {call : Call} {b b' : Books} {a : DistAction} {s s' : DistState}
  {d d' : Distribution} {rem rem' : List (BitVec 8)}

theorem DistStep.converted_eq (hstep : DistStep rt a s s') (ha : ∀ x y, a ≠ .sweep x y) :
    DistState.converted s' = DistState.converted s := by
  cases hstep with
  | sweepNothing => exact absurd rfl (ha _ _)
  | sweep => exact absurd rfl (ha _ _)
  | _ => rfl

/-- What a sweep brings is what was not there before. -/
theorem DistStep.converted_sweep {solDebt token2zAmount : UInt64} (hv : Valid s)
    (hstep : DistStep rt (.sweep solDebt token2zAmount) s s') :
    DistState.converted s = 0 ∧ DistState.converted s' = token2zAmount.toNat := by
  generalize ha : DistAction.sweep solDebt token2zAmount = a at hstep
  cases hstep with
  | sweepNothing hunswept =>
    cases ha
    have hzero := (hv.booked.unswept hunswept).1
    simp only at hzero
    exact ⟨by simp [DistState.converted, hzero], rfl⟩
  | sweep hunswept =>
    cases ha
    have hzero := (hv.booked.unswept hunswept).1
    simp only at hzero
    exact ⟨by simp [DistState.converted, hzero], rfl⟩
  | _ => cases ha

theorem Transition.converted_eq (ht : Transition rt call b b')
    (hdata : call.data ≠ .sweepDistributionTokens) :
    b'.distTotal DistState.converted = b.distTotal DistState.converted := by
  have hstep : ∀ {e a s s'}, Does rt call b e a → DistStep rt a s s' →
      DistState.converted s' = DistState.converted s := by
    intro e a s s' hdoes hstep
    refine hstep.converted_eq fun x y hxy => ?_
    subst hxy
    cases hdoes with
    | sweep data => exact hdata data
  refine total_congr fun e => ?_
  cases ht.change e with
  | kept same => rw [Books.distAt_congr same]
  | @create _ _ _ d _ data journal new initialized epoch created =>
    subst epoch
    have hnone : b.distAt d.dzEpoch = none := by rw [Books.distAt, new]
    rw [created.distAt, hnone]
    exact congrArg (fun d => UInt64.toNat (Distribution.collected2zConvertedFromSol d))
      initialized.rest_eq
  | step does epoch has step has' =>
    subst epoch
    rw [has.distAt, ← step.fixed.1, has'.distAt]
    exact hstep does step
  | twice does books epoch has step step' has' =>
    subst epoch
    rw [has.distAt, ← step.fixed.1, ← step'.fixed.1, has'.distAt]
    exact (hstep books step').trans (hstep does step)

theorem Transition.same2z (ht : Transition rt call b b')
    (hsweep : call.data ≠ .sweepDistributionTokens)
    (hwithdraw : ∀ amount, call.data ≠ .withdrawSol amount) : b.journal.Same2z b'.journal := by
  by_cases hw : Kind.journal ∉ call.data.writes
  · rw [Books.journal_congr (ht.frame hw)]
    exact ⟨rfl, rfl⟩
  cases ht with
  | initializeJournal data new =>
    have hold : b.journal = default := by rw [Books.journal, new]
    rw [Books.journal_eq (Books.set_entry_self _ _ _ _), hold]
    exact ⟨rfl, rfl⟩
  | initializeIntegration data config signed new journal =>
    rw [Books.journal_eq (Books.set_entry_self _ _ _ _), Books.journal_eq journal]
    exact ⟨rfl, rfl⟩
  | pay data indexed running has keyDist deposit journal step enough moved =>
    have hentry := congrFun moved.entry_eq .journal
    rw [Books.journal_congr hentry, Books.journal_eq (Books.set_entry_self _ _ _ _),
      Books.journal_eq journal]
    exact ⟨rfl, rfl⟩
  | sweepNothing data => exact absurd data hsweep
  | sweep data => exact absurd data hsweep
  | withdrawSol data => exact absurd data (hwithdraw _)
  | _ => exact absurd (by simp [‹call.data = _›, InstructionData.writes]) hw

theorem Transition.credits {amount : UInt64} (ht : Transition rt call b b')
    (hdata : call.data = .withdrawSol amount) : ∃ transferAmount, call.Credits rt transferAmount := by
  cases ht with
  | withdrawSol data running journal enough moved credited => exact ⟨_, credited⟩
  | _ => simp [‹call.data = _›] at hdata

/-- The swap destination is set up once. -/
theorem Transition.swapAuthority_eq (ht : Transition rt call b b')
    (hdata : call.data ≠ .initializeSwapDestination) :
    b'.config.swapAuthorityBumpSeed = b.config.swapAuthorityBumpSeed := by
  cases ht.configEffect with
  | kept config => rw [Books.config_congr config]
  | create new config =>
    rw [Books.config_eq config, Books.config, new]
    rfl
  | setAdmin old config => rw [Books.config_eq config, Books.config_eq old]
  | configure data old configured config =>
    rw [Books.config_eq config, Books.config_eq old]
    exact (tryConfigure_ok configured).2.swapAuthority
  | swapDestination old config dists data => exact absurd data hdata
  | advance data old new advanced initialized config =>
    rw [Books.config_eq config, Books.config_eq old, advanced.rest_eq]

end

/-! ## The ledger of swapped 2Z -/

/-- What was ever swapped is counted as held or as swept, and what is counted as held is there, with
`p` to spare. Before the swap destination is set up nothing is counted. -/
structure SwapBooked (rt : Runtime) (b : Books) (p : Nat) : Prop where
  counted : b.journal.lifetimeSwapped2zAmount.toNat =
    b.journal.swap2zDestinationBalance.toNat + b.distTotal DistState.converted
  closed : b.config.swapAuthorityBumpSeed = 0 → b.journal.swap2zDestinationBalance = 0
  backed : b.config.swapAuthorityBumpSeed ≠ 0 →
    ∃ n, b.SwapHolds rt n ∧ b.journal.swap2zDestinationBalance.toNat + p ≤ n

namespace SwapBooked

variable {rt : Runtime} {call : Call} {b b' : Books} {p : Nat}

theorem mono {q : Nat} (h : SwapBooked rt b p) (hle : q ≤ p) : SwapBooked rt b q := by
  refine ⟨h.counted, h.closed, fun hopen => ?_⟩
  obtain ⟨n, hn, hbacked⟩ := h.backed hopen
  exact ⟨n, hn, by omega⟩

/-- A step that leaves the counters alone. -/
theorem of_same (h : SwapBooked rt b p) (hsame : b.journal.Same2z b'.journal)
    (htotal : b'.distTotal DistState.converted = b.distTotal DistState.converted)
    (hconfig : b'.config.swapAuthorityBumpSeed = b.config.swapAuthorityBumpSeed)
    (hkeeps : b.KeepsSwap rt b') : SwapBooked rt b' p := by
  obtain ⟨hbalance, hlifetime⟩ := hsame
  refine ⟨?_, fun hclosed => ?_, fun hopen => ?_⟩
  · rw [hlifetime, hbalance, htotal]
    exact h.counted
  · rw [hbalance]
    exact h.closed (hconfig ▸ hclosed)
  · obtain ⟨n, hn, hbacked⟩ := h.backed (hconfig ▸ hopen)
    obtain ⟨gift, hgift⟩ := hkeeps n hn
    exact ⟨n + gift, hgift, by rw [hbalance]; omega⟩

theorem of_empty (hempty : b.Empty) : SwapBooked rt b 0 := by
  have hjournal : b.journal = default := by rw [Books.journal, hempty]
  have hconfig : b.config = default := by rw [Books.config, hempty]
  refine ⟨?_, fun _ => by rw [hjournal]; rfl, fun hopen => absurd ?_ hopen⟩
  · rw [hjournal, Books.distTotal, total_none fun e => by rw [Books.distAt, hempty]]
    rfl
  · rw [hconfig]
    rfl

/-- A step of others that brings tokens to the swap destination. -/
theorem foreign {q : Nat} (h : SwapBooked rt b p) (hentry : b'.entry = b.entry)
    (hgain : ∀ n, b.SwapHolds rt n → ∃ gift, b'.SwapHolds rt (n + gift) ∧ q ≤ p + gift) :
    SwapBooked rt b' q := by
  have hjournal : b'.journal = b.journal := Books.journal_congr (congrFun hentry _)
  have hconfig : b'.config = b.config := Books.config_congr (congrFun hentry _)
  have htotal : b'.distTotal DistState.converted = b.distTotal DistState.converted :=
    total_congr fun e => by rw [Books.distAt_congr (congrFun hentry _)]
  refine ⟨?_, fun hclosed => ?_, fun hopen => ?_⟩
  · rw [hjournal, htotal]
    exact h.counted
  · rw [hjournal]
    exact h.closed (hconfig ▸ hclosed)
  · obtain ⟨n, hn, hbacked⟩ := h.backed (hconfig ▸ hopen)
    obtain ⟨gift, hgift, hle⟩ := hgain n hn
    exact ⟨n + gift, hgift, by rw [hjournal]; omega⟩

/-- The swap destination is set up, empty. -/
theorem opened (h : SwapBooked rt b p) (ht : Transition rt call b b')
    (hdata : call.data = .initializeSwapDestination) : SwapBooked rt b' 0 := by
  obtain ⟨hbalance, hlifetime⟩ := ht.same2z (by simp [hdata]) (by simp [hdata])
  have htotal := ht.converted_eq (by simp [hdata])
  have hvacant : b.tokens rt.swapDestinationKey = none ∧ b'.SwapHolds rt 0 := by
    cases ht with
    | initializeSwapDestination data config funds vacant =>
      refine ⟨vacant, ⟨DOUBLEZERO_MINT_KEY, rt.findSwapAuthorityAddress.1, 0⟩, ?_, rfl, rfl⟩
      simp [Books.setToken_tokens]
    | _ => simp [‹call.data = _›] at hdata
  have hzero : b.journal.swap2zDestinationBalance = 0 := by
    refine h.closed ?_
    by_contra hopen
    obtain ⟨n, ⟨a, ha, -, -⟩, -⟩ := h.backed hopen
    exact absurd (ha.symm.trans hvacant.1) (by simp)
  refine ⟨?_, fun _ => hbalance.trans hzero, fun _ => ⟨0, hvacant.2, ?_⟩⟩
  · rw [hlifetime, hbalance, htotal]
    exact h.counted
  · rw [hbalance, hzero]
    rfl

end SwapBooked

section

variable {rt : Runtime} {call : Call} {b b' : Books} {p : Nat}

/-- What was swept fits the lifetime counter, with room for one more word. -/
theorem Books.converted_le (hfin : FiniteMap b.distAt) :
    b.distTotal DistState.converted ≤ 2 ^ 64 * (2 ^ 64 - 1) := by
  refine total_le_mul (k := UInt64.toNat) hfin (fun e e' he => UInt64.toNat_inj.1 he)
    (fun e => e.toNat_lt) fun e s _ => ?_
  have hlt := s.1.collected2zConvertedFromSol.toNat_lt
  show s.1.collected2zConvertedFromSol.toNat ≤ _
  omega

theorem Transition.swapBooked_withdraw {amount : UInt64} (ht : Transition rt call b b')
    (hdata : call.data = .withdrawSol amount) (hfin : FiniteMap b.distAt)
    (h : SwapBooked rt b p) (hcredits : ∀ amount, call.Credits rt amount → amount.toNat ≤ p)
    (hspares : call.SparesSwap rt) : SwapBooked rt b' 0 := by
  have htotal := ht.converted_eq (by simp [hdata])
  have hconfig := ht.swapAuthority_eq (by simp [hdata])
  have hkeeps := ht.keepsSwap hspares (by simp [hdata])
  have hbound := Books.converted_le hfin
  cases ht with
  | @withdrawSol c j jrem amount transferAmount _ _ data running journal enough moved credited
      ready =>
    obtain ⟨⟨crem, hentry⟩, -⟩ := running
    have hopen : b.config.swapAuthorityBumpSeed ≠ 0 := by
      rw [Books.config_eq hentry]
      exact ready
    obtain ⟨n, hn, hbacked⟩ := h.backed hopen
    have hcounted := h.counted
    have hlt : n < 2 ^ 64 := by
      obtain ⟨a, -, -, rfl⟩ := hn
      exact a.amount.toNat_lt
    have hle := hcredits transferAmount credited
    rw [Books.journal_eq journal] at hbacked hcounted
    have hbalance : (j.swap2zDestinationBalance + transferAmount).toNat =
        j.swap2zDestinationBalance.toNat + transferAmount.toNat := toNat_add_of_lt (by omega)
    have hlifetime : (j.lifetimeSwapped2zAmount + BitVec.ofNat 128 transferAmount.toNat).toNat =
        j.lifetimeSwapped2zAmount.toNat + transferAmount.toNat := by
      rw [BitVec.toNat_add, BitVec.toNat_ofNat, Nat.add_mod_mod]
      exact Nat.mod_eq_of_lt (by omega)
    have hjournal := Books.journal_congr (congrFun moved.entry_eq .journal)
    rw [Books.journal_eq (Books.set_entry_self _ _ _ _)] at hjournal
    refine ⟨?_, fun hclosed => absurd (hconfig ▸ hclosed) hopen, fun _ => ?_⟩
    · rw [hjournal, htotal]
      simp only [hbalance, hlifetime]
      omega
    · obtain ⟨gift, hgift⟩ := hkeeps n hn
      refine ⟨n + gift, hgift, ?_⟩
      rw [hjournal]
      simp only [hbalance]
      omega
  | _ => simp [‹call.data = _›] at hdata

theorem sub_le_self_imp {x y : UInt64} (h : x - y ≤ x) : y ≤ x := by
  by_contra hlt
  have hlt := UInt64.lt_iff_toNat_lt.1 (UInt64.not_le.1 hlt)
  have h := UInt64.le_iff_toNat_le.1 h
  have hx := x.toNat_lt
  have hy := y.toNat_lt
  rw [UInt64.toNat_sub] at h
  omega

/-- A sweep moves 2Z from one count to the other, unless it asks for more than is counted. -/
theorem Transition.swapBooked_sweep (ht : Transition rt call b b')
    (hdata : call.data = .sweepDistributionTokens) (hfin : FiniteMap b.distAt)
    (hv : ∀ {d rem}, b.HasDist d rem → Valid (d, rem)) (h : SwapBooked rt b p)
    (hwithin : b'.journal.swap2zDestinationBalance ≤ b.journal.swap2zDestinationBalance)
    (hspares : call.SparesSwap rt) : SwapBooked rt b' 0 := by
  have hconfig := ht.swapAuthority_eq (by simp [hdata])
  have hcounted := h.counted
  cases ht with
  | @sweepNothing c d d' rem rem' jrem j data running has journal next zero step =>
    have hup : b.DistUpdated ((b.setDist d' rem').set .journal (.journal { j with
        nextDzEpochToSweepTokens := j.nextDzEpochToSweepTokens.saturatingAddDuration 1 }) jrem)
        d' rem' := by
      intro e
      rw [Books.set_entry_of_ne _ _ _ (by simp)]
      exact Books.distUpdated_setDist _ _ _ e
    have htotal := hup.distTotal_eq (f := DistState.converted) hfin has step.fixed.1
    have hnone := (step.converted_sweep (hv has)).1
    have hsame : DistState.converted (d', rem') = DistState.converted (d, rem) :=
      (step.converted_sweep (hv has)).2
    refine (h.mono (Nat.zero_le p)).of_same ?_ (by omega) hconfig (.of_eq rfl)
    rw [Books.journal_eq (Books.set_entry_self _ _ _ _), Books.journal_eq journal]
    exact ⟨rfl, rfl⟩
  | @sweep c d d' rem rem' jrem j totalSolDebt token2zAmount b₁ b₂ data running has journal next debt
      nonzero enough invokes foreign transfer step returned =>
    have hentry : b₂.entry = b.entry := transfer.entry_eq.trans foreign.entry_eq
    have hup : b.DistUpdated ((b₂.setDist d' rem').set .journal (.journal { j with
        nextDzEpochToSweepTokens := j.nextDzEpochToSweepTokens.saturatingAddDuration 1
        swappedSolAmount := j.swappedSolAmount - totalSolDebt
        swap2zDestinationBalance := j.swap2zDestinationBalance - token2zAmount }) jrem)
        d' rem' := by
      intro e
      rw [Books.set_entry_of_ne _ _ _ (by simp), Books.distUpdated_setDist _ _ _ e, hentry]
    have htotal := hup.distTotal_eq (f := DistState.converted) hfin has step.fixed.1
    obtain ⟨hnone, hsome⟩ := step.converted_sweep (hv has)
    rw [hnone, hsome] at htotal
    rw [Books.journal_eq (Books.set_entry_self _ _ _ _), Books.journal_eq journal] at hwithin
    rw [Books.journal_eq journal] at hcounted
    have hle := sub_le_self_imp hwithin
    have hle' := UInt64.le_iff_toNat_le.1 hle
    have hbalance : (j.swap2zDestinationBalance - token2zAmount).toNat =
        j.swap2zDestinationBalance.toNat - token2zAmount.toNat := toNat_sub_of_le hle
    refine ⟨?_, fun hclosed => ?_, fun hopen => ?_⟩
    · rw [Books.journal_eq (Books.set_entry_self _ _ _ _)]
      simp only [hbalance]
      omega
    · have hzero := h.closed (hconfig ▸ hclosed)
      rw [Books.journal_eq journal] at hzero
      rw [Books.journal_eq (Books.set_entry_self _ _ _ _), ← UInt64.toNat_inj]
      exact hbalance.trans (by simp [hzero])
    · obtain ⟨n, hn, hbacked⟩ := h.backed (hconfig ▸ hopen)
      obtain ⟨gift, a, ha, howner, hamount⟩ := hspares.invokes invokes n hn
      obtain ⟨a₁, a₂, ha₁, ha₂, -, howner₂, hamount₂⟩ :=
        transfer.source_eq (Runtime.swapDestinationKey_ne_poolKey _)
      cases ha.symm.trans ha₁
      refine ⟨a₂.amount.toNat, ⟨a₂, ha₂, howner₂.trans howner, rfl⟩, ?_⟩
      rw [Books.journal_eq journal] at hbacked
      rw [Books.journal_eq (Books.set_entry_self _ _ _ _)]
      simp only [hbalance]
      omega
  | _ => simp [‹call.data = _›] at hdata

/-- A call keeps the ledger of swapped 2Z, if it can only be credited what is there to spare, and if
a sweep does not ask for more than is counted. -/
theorem Transition.swapBooked (ht : Transition rt call b b') (hfin : FiniteMap b.distAt)
    (hv : ∀ {d rem}, b.HasDist d rem → Valid (d, rem)) (hspares : call.SparesSwap rt)
    (hcredits : ∀ amount, call.Credits rt amount → amount.toNat ≤ p)
    (hwithin : call.data = .sweepDistributionTokens →
      b'.journal.swap2zDestinationBalance ≤ b.journal.swap2zDestinationBalance)
    (h : SwapBooked rt b p) : SwapBooked rt b' 0 := by
  by_cases hsweep : call.data = .sweepDistributionTokens
  · exact ht.swapBooked_sweep hsweep hfin hv h (hwithin hsweep) hspares
  by_cases hwithdraw : ∃ amount, call.data = .withdrawSol amount
  · obtain ⟨amount, hdata⟩ := hwithdraw
    exact ht.swapBooked_withdraw hdata hfin h hcredits hspares
  by_cases hsetup : call.data = .initializeSwapDestination
  · exact h.opened ht hsetup
  · refine (h.mono (Nat.zero_le p)).of_same (ht.same2z hsweep fun amount hdata => ?_)
      (ht.converted_eq hsweep) (ht.swapAuthority_eq hsetup) (ht.keepsSwap hspares hsweep)
    exact hwithdraw ⟨amount, hdata⟩

end

end DoubleZero.Revenue
