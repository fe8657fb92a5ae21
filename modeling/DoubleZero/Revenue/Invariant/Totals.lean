import DoubleZero.Lib.Total
import DoubleZero.Revenue.Invariant.Leaves

/-!
# Totals over all distributions and all deposits

A measure of a distribution that every step raises by a known gain has a total over the books, and a
step of the books raises it by the gains of the steps its distributions take
(`DistEffect.distTotal_eq`). The totals over the accounts of a ledger are the totals over its books.
-/

namespace DoubleZero.Revenue

open DoubleZero.Lib DoubleZero.Solana

noncomputable def Books.distTotal (b : Books) (f : DistState → Nat) : Nat := total f b.distAt

noncomputable def Books.depositTotal (b : Books) (f : SolanaValidatorDeposit → Nat) : Nat :=
  total f b.depositAt

/-- What the steps of a step of the books add to a measure. -/
def DistActs.gain (acts : DistActs) (gain : DoubleZeroEpoch → DistAction → Nat) : Nat :=
  (acts.map fun x => gain x.1 x.2).sum

theorem DistActs.gain_eq_zero {acts : DistActs} {gain : DoubleZeroEpoch → DistAction → Nat}
    (h : ∀ x ∈ acts, gain x.1 x.2 = 0) : acts.gain gain = 0 := by
  refine List.sum_eq_zero fun m hm => ?_
  obtain ⟨x, hx, rfl⟩ := List.mem_map.1 hm
  exact h x hx

theorem DistActs.gain_mono {acts : DistActs} {gain gain' : DoubleZeroEpoch → DistAction → Nat}
    (h : ∀ x : DoubleZeroEpoch × DistAction, gain x.1 x.2 ≤ gain' x.1 x.2) :
    acts.gain gain ≤ acts.gain gain' :=
  List.sum_le_sum fun x _ => h x

theorem DistActs.gains_of_isQuiet {acts : DistActs} (hq : ∀ x ∈ acts, x.2.isQuiet = true) :
    acts.gain (fun _ a => a.paid) = 0 ∧ acts.gain (fun _ a => a.writtenOff) = 0 ∧
      acts.gain (fun _ a => a.booked) = 0 ∧ acts.gain (fun _ a => a.swept) = 0 := by
  have hzero := fun x hx => DistAction.amounts_of_isQuiet (hq x hx)
  exact ⟨gain_eq_zero fun x hx => (hzero x hx).1, gain_eq_zero fun x hx => (hzero x hx).2.1,
    gain_eq_zero fun x hx => (hzero x hx).2.2.1, gain_eq_zero fun x hx => (hzero x hx).2.2.2⟩

@[simp] theorem DistActs.gain_nil (gain : DoubleZeroEpoch → DistAction → Nat) :
    DistActs.gain [] gain = 0 := rfl

@[simp] theorem DistActs.gain_cons (x : DoubleZeroEpoch × DistAction) (acts : DistActs)
    (gain : DoubleZeroEpoch → DistAction → Nat) :
    DistActs.gain (x :: acts) gain = gain x.1 x.2 + acts.gain gain := rfl

/-! ## Only finitely many accounts -/

section

variable {rt : Runtime} {b b' b₀ : Books} {acts : DistActs} {h : List (Entry Books Label)}
  {d d' : Distribution} {rem rem' : List (BitVec 8)} {f : DistState → Nat}

theorem Books.DistUpdated.frame (hup : b.DistUpdated b' d rem) (e : DoubleZeroEpoch)
    (he : e ≠ d.dzEpoch) : b'.distAt e = b.distAt e := by
  rw [hup.distAt, if_neg he]

theorem Migrated.distAt {keys : List Pubkey} {n : UInt16} (hm : Migrated rt keys n b b') (e : DoubleZeroEpoch) :
    b'.distAt e = b.distAt e ∨ ∃ s s', b.distAt e = some s ∧ DistStep rt (.migrate n) s s' ∧
      b'.distAt e = some s' := by
  rcases hm.entry (.distribution e) with hsame | ⟨d, rem, d', rem', -, hold, step, hnew, -⟩
  · exact .inl (Books.distAt_congr hsame)
  · refine .inr ⟨(d, rem), (d', rem'), ?_, step, ?_⟩
    · rw [Books.distAt, hold]
    · rw [Books.distAt, hnew]

theorem DistEffect.finite (he : DistEffect rt b b' acts) (hfin : FiniteMap b.distAt) :
    FiniteMap b'.distAt := by
  cases he with
  | untouched same =>
    have heq : b'.distAt = b.distAt := funext fun e => Books.distAt_congr (same e)
    rw [heq]
    exact hfin
  | create _ _ _ updated => exact hfin.of_frame updated.frame
  | step _ _ updated => exact hfin.of_frame updated.frame
  | writeOff _ _ updated _ _ updated' => exact (hfin.of_frame updated.frame).of_frame updated'.frame
  | migrate _ migrated =>
    refine hfin.of_domain_eq fun e hne => ?_
    rcases migrated.distAt e with hsame | ⟨s, s', hold, -, -⟩
    · rwa [← hsame]
    · simp [hold]

theorem Books.DepositsKept.finite (hk : b.DepositsKept b') (hfin : FiniteMap b.depositAt) :
    FiniteMap b'.depositAt := by
  rcases hk with hsame | ⟨n, -, hnew⟩
  · rw [show b'.depositAt = b.depositAt from funext hsame]
    exact hfin
  · exact hfin.of_frame fun n' hn => by rw [hnew, if_neg hn]

theorem SolEffect.finite {n : Nat} (he : SolEffect rt b b' acts n) (hfin : FiniteMap b.depositAt) :
    FiniteMap b'.depositAt := by
  cases he with
  | quiet _ _ _ deposits => exact deposits.finite hfin
  | pay _ _ deposits => exact deposits.finite hfin
  | writeOff _ _ _ _ deposits => exact hfin.of_frame fun n hn => by rw [deposits, if_neg hn]
  | sweep _ _ _ deposits => exact deposits.finite hfin
  | withdraw _ _ _ deposits => exact deposits.finite hfin

theorem BooksRun.finite (hrun : BooksRun rt b₀ h b) (hempty : b₀.Empty) :
    FiniteMap b.distAt ∧ FiniteMap b.depositAt := by
  refine hrun.invariant (P := fun b => FiniteMap b.distAt ∧ FiniteMap b.depositAt) ?_ ?_
  · refine ⟨finiteMap_none fun e => ?_, finiteMap_none fun n => ?_⟩
    · rw [Books.distAt, hempty]
    · rw [Books.depositAt, hempty]
  · intro l b b' ⟨hdists, hdeposits⟩ hs
    obtain ⟨acts, n, he, -⟩ := hs.effect
    exact ⟨he.dists.finite hdists, he.finite hdeposits⟩

/-! ## The totals of the books -/

theorem Books.DistUpdated.distTotal_eq (hfin : FiniteMap b.distAt) (has : b.HasDist d rem)
    (hup : b.DistUpdated b' d' rem') (he : d'.dzEpoch = d.dzEpoch) :
    b'.distTotal f + f (d, rem) = b.distTotal f + f (d', rem') := by
  have hsum := total_update (f := f) hfin hup.frame
  rw [hup.has.distAt, he, has.distAt] at hsum
  exact hsum

theorem Books.DistUpdated.distTotal_new (hfin : FiniteMap b.distAt)
    (hnew : b.entry (.distribution d.dzEpoch) = none) (hup : b.DistUpdated b' d rem) :
    b'.distTotal f = b.distTotal f + f (d, rem) := by
  have hnone : b.distAt d.dzEpoch = none := by rw [Books.distAt, hnew]
  have hsum := total_update (f := f) hfin hup.frame
  rw [hup.has.distAt, hnone] at hsum
  exact hsum

theorem Books.HasDist.le_distTotal (has : b.HasDist d rem) (hfin : FiniteMap b.distAt) :
    f (d, rem) ≤ b.distTotal f :=
  le_total hfin has.distAt

/-- What a measure of distributions has to satisfy for its total to grow by the gains of the steps.
A step may be relied on only as long as the new value stays below `bound`. -/
structure Measured (rt : Runtime) (f : DistState → Nat)
    (gain : DoubleZeroEpoch → DistAction → Nat) (bound : Nat) : Prop where
  init : ∀ {c j prepaid d}, Initialized rt c j prepaid d → f (d, []) = 0
  step : ∀ {a s s'}, Valid s → DistStep rt a s s' → f s + gain s.1.dzEpoch a < bound →
    f s' = f s + gain s.1.dzEpoch a
  migrate : ∀ {n s s'}, DistStep rt (.migrate n) s s' → f s' = f s

theorem Measured.distTotal_step {a : DistAction} {gain : DoubleZeroEpoch → DistAction → Nat}
    {bound : Nat} (hm : Measured rt f gain bound) (hfin : FiniteMap b.distAt)
    (hv : Valid (d, rem)) (has : b.HasDist d rem) (hstep : DistStep rt a (d, rem) (d', rem'))
    (hup : b.DistUpdated b' d' rem') (hsmall : b.distTotal f + gain d.dzEpoch a < bound) :
    b'.distTotal f = b.distTotal f + gain d.dzEpoch a := by
  have hle := has.le_distTotal (f := f) hfin
  have hnew : f (d', rem') = f (d, rem) + gain d.dzEpoch a :=
    hm.step hv hstep (show f (d, rem) + gain d.dzEpoch a < bound by omega)
  have hsum := hup.distTotal_eq (f := f) hfin has hstep.fixed.1
  omega

theorem DistEffect.distTotal_eq {gain : DoubleZeroEpoch → DistAction → Nat} {bound : Nat}
    (he : DistEffect rt b b' acts) (hm : Measured rt f gain bound) (hfin : FiniteMap b.distAt)
    (hv : ∀ {d rem}, b.HasDist d rem → Valid (d, rem))
    (hsmall : b.distTotal f + acts.gain gain < bound) :
    b'.distTotal f = b.distTotal f + acts.gain gain := by
  cases he with
  | untouched same => exact total_congr fun e => by rw [Books.distAt_congr (same e)]
  | create _ new initialized updated =>
    rw [updated.distTotal_new hfin new, hm.init initialized]
    rfl
  | step has step updated =>
    simp only [DistActs.gain_cons, DistActs.gain_nil, Nat.add_zero] at hsmall ⊢
    exact hm.distTotal_step hfin (hv has) has step updated hsmall
  | @writeOff d d' w w' rem rem' wrem wrem' i debt b₁ has step updated hasBook bookStep updated' =>
    simp only [DistActs.gain_cons, DistActs.gain_nil, Nat.add_zero] at hsmall ⊢
    have hvBook : Valid (w, wrem) := by
      rcases updated.of_has hasBook with ⟨rfl, rfl⟩ | ⟨-, hold⟩
      · exact (hv has).step step
      · exact hv hold
    have hfirst := hm.distTotal_step hfin (hv has) has step updated (by omega)
    have hsecond := hm.distTotal_step (hfin.of_frame updated.frame) hvBook hasBook bookStep updated'
      (by omega)
    omega
  | migrate _ migrated =>
    refine total_congr fun e => ?_
    rcases migrated.distAt e with hsame | ⟨s, s', hold, step, hnew⟩
    · rw [hsame]
    · rw [hold, hnew]
      exact hm.migrate step

/-- Along a run the total of an exact measure is what the labels say. -/
theorem BooksRun.distTotal_eq {gain : DistAction → Nat} {labelled : Label → Nat}
    (hm : ∀ bound, Measured rt f (fun _ a => gain a) bound)
    (hl : ∀ {l acts n}, Label.Takes rt l acts n → labelled l = acts.gain (fun _ a => gain a))
    (hrun : BooksRun rt b₀ h b) (hempty : b₀.Empty) :
    b.distTotal f = (h.map fun x => labelled x.label).sum := by
  refine hrun.history (P := fun h b => b.distTotal f = (h.map fun x => labelled x.label).sum) ?_ ?_
  · exact total_none fun e => by rw [Books.distAt, hempty]
  · intro h b l b' hr ih hs
    obtain ⟨acts, n, he, htakes⟩ := hs.effect
    rw [he.dists.distTotal_eq (hm _) (BooksRun.finite hr hempty).1
      (fun hd => BooksRun.valid hr hempty hd) (Nat.lt_succ_self _), ih, List.map_cons,
      List.sum_cons, hl htakes, Nat.add_comm]

theorem Books.DepositsKept.depositTotal_eq {g : SolanaValidatorDeposit → Nat}
    (hk : b.DepositsKept b') (hfin : FiniteMap b.depositAt)
    (hzero : ∀ n, g { (default : SolanaValidatorDeposit) with nodeId := n } = 0) :
    b'.depositTotal g = b.depositTotal g := by
  rcases hk with hsame | ⟨n, hnone, hnew⟩
  · exact total_congr fun n => by rw [hsame]
  · have hother : ∀ n', n' ≠ n → b'.depositAt n' = b.depositAt n' := by
      intro n' hn
      rw [hnew, if_neg hn]
    have hsum := total_update (f := g) hfin hother
    rw [hnone, hnew, if_pos rfl] at hsum
    simp only [Option.elim, hzero, Nat.add_zero] at hsum
    exact hsum

end

/-! ## The totals of a ledger -/

section Ledger

variable {rt : Runtime} {L : RevenueLedger}

/-- The total of a measure over all accounts of one type. -/
noncomputable def accountTotal (T : Type) [ZeroCopy AccountState T] (L : RevenueLedger)
    (f : T × List (BitVec 8) → Nat) : Nat :=
  total f fun k => view (T := T) ID L k

theorem view_distribution (e : DoubleZeroEpoch) :
    view ID L (rt.distributionKey e) = (books rt L).distAt e := by
  have hentry : (books rt L).entry (.distribution e) = stateAt L (rt.distributionKey e) := rfl
  ext ⟨d, rem⟩
  rw [view_eq_stateAt, Books.distAt, hentry]
  split
  · next d' rem' hs => simp [hs, wrap]
  · next hne =>
    simp only [reduceCtorEq, iff_false]
    intro hs
    exact hne _ _ hs

theorem view_deposit (n : Pubkey) :
    (view ID L (rt.depositKey n)).map (fun x => x.1) = (books rt L).depositAt n := by
  have hentry : (books rt L).entry (.deposit n) = stateAt L (rt.depositKey n) := rfl
  ext p
  simp only [Option.map_eq_some_iff, Prod.exists, exists_and_right, exists_eq_right,
    view_eq_stateAt]
  rw [Books.depositAt, hentry]
  split
  · next p' rem' hs => simp [hs, wrap]
  · next hne =>
    simp only [reduceCtorEq, iff_false, not_exists]
    intro rem hs
    exact hne _ _ hs

theorem Canonical.exists_epoch (hc : Canonical rt L) (k : Pubkey)
    (hk : view (T := Distribution) ID L k ≠ none) : ∃ e, rt.distributionKey e = k := by
  obtain ⟨⟨d, rem⟩, hview⟩ := Option.ne_none_iff_exists'.1 hk
  exact ⟨d.dzEpoch, (hc.of_view hview).1.symm⟩

theorem Canonical.exists_nodeId (hc : Canonical rt L) (k : Pubkey)
    (hk : view (T := SolanaValidatorDeposit) ID L k ≠ none) : ∃ n, rt.depositKey n = k := by
  obtain ⟨⟨p, rem⟩, hview⟩ := Option.ne_none_iff_exists'.1 hk
  exact ⟨p.nodeId, (hc.of_view hview).1.symm⟩

theorem Canonical.finite_dists (hc : Canonical rt L) (hfin : FiniteMap (books rt L).distAt) :
    FiniteMap fun k => view (T := Distribution) ID L k := by
  refine FiniteMap.reindex ?_ hc.exists_epoch
  rwa [show (fun e => view (T := Distribution) ID L (rt.distributionKey e)) =
    (books rt L).distAt from funext view_distribution]

theorem Canonical.distTotal_eq (hc : Canonical rt L) (f : DistState → Nat) :
    accountTotal Distribution L f = (books rt L).distTotal f := by
  have hkey : Function.Injective rt.distributionKey := fun e e' he =>
    Runtime.distributionKey_inj.1 he
  rw [accountTotal, total_reindex hkey hc.exists_epoch]
  exact total_congr fun e => by rw [view_distribution]

theorem Canonical.finite_deposits (hc : Canonical rt L)
    (hfin : FiniteMap (books rt L).depositAt) :
    FiniteMap fun k => view (T := SolanaValidatorDeposit) ID L k := by
  refine FiniteMap.reindex ?_ hc.exists_nodeId
  refine hfin.of_domain_eq fun n hn => ?_
  rw [← view_deposit]
  simpa using hn

theorem Canonical.depositTotal_eq (hc : Canonical rt L) (g : SolanaValidatorDeposit → Nat) :
    accountTotal SolanaValidatorDeposit L (fun x => g x.1) = (books rt L).depositTotal g := by
  have hkey : Function.Injective rt.depositKey := by
    intro n n' hn
    have hseeds := Runtime.find_inj.1 hn
    simpa [SolanaValidatorDeposit.seeds] using hseeds
  rw [accountTotal, total_reindex hkey hc.exists_nodeId]
  refine total_congr fun n => ?_
  rw [← view_deposit]
  cases view (T := SolanaValidatorDeposit) ID L (rt.depositKey n) with
  | none => rfl
  | some x => rfl

end Ledger

end DoubleZero.Revenue
