import DoubleZero.Revenue.Invariant.Effect

/-!
# Distributions along a run

The rules that carry facts about single distributions along a run of the books. A distribution comes
into being once, is never lost, and in between takes the steps of `DistStep`.
-/

namespace DoubleZero.Revenue

open DoubleZero.Lib DoubleZero.Solana

section

variable {rt : Runtime} {b b' b₀ : Books} {acts : DistActs}
  {h h' : List (Entry Books Label)}

theorem DistMoves.dzEpoch_eq {s s' : DistState} (hm : DistMoves rt s s') :
    s'.1.dzEpoch = s.1.dzEpoch := by
  induction hm with
  | refl => rfl
  | tail _ hstep ih =>
    obtain ⟨a, hstep⟩ := hstep
    rw [hstep.fixed.1, ih]

/-- What every step keeps, a sequence of steps keeps. -/
theorem DistMoves.preserves {P : DistState → Prop} {s s' : DistState} (hm : DistMoves rt s s')
    (hstep : ∀ {a s s'}, P s → DistStep rt a s s' → P s') (hP : P s) : P s' := by
  induction hm with
  | refl => exact hP
  | tail _ h ih =>
    obtain ⟨a, h⟩ := h
    exact hstep ih h

/-- No step loses a distribution. -/
theorem DistEffect.persists {d : Distribution} {rem : List (BitVec 8)}
    (he : DistEffect rt b b' acts) (hd : b.HasDist d rem) :
    ∃ d' rem', b'.HasDist d' rem' ∧ DistMoves rt (d, rem) (d', rem') := by
  cases he with
  | untouched same => exact ⟨d, rem, (same _).trans hd, .refl⟩
  | create _ new _ updated =>
    refine ⟨d, rem, updated.keeps hd ?_, .refl⟩
    intro heq
    rw [← heq] at new
    exact absurd (new.symm.trans hd) (by simp)
  | @step a d₀ d' rem₀ rem' has step updated =>
    by_cases heq : d.dzEpoch = d₀.dzEpoch
    · obtain ⟨rfl, rfl⟩ := has.unique hd heq
      exact ⟨d', rem', updated.has, .single ⟨a, step⟩⟩
    · exact ⟨d, rem, updated.keeps hd (by rw [step.fixed.1]; exact heq), .refl⟩
  | @writeOff d₀ d' w w' rem₀ rem' wrem wrem' i debt b₁ has step updated hasBook bookStep updated' =>
    obtain ⟨d₁, rem₁, hd₁, hmoves⟩ : ∃ d₁ rem₁, b₁.HasDist d₁ rem₁ ∧
        DistMoves rt (d, rem) (d₁, rem₁) := by
      by_cases heq : d.dzEpoch = d₀.dzEpoch
      · obtain ⟨rfl, rfl⟩ := has.unique hd heq
        exact ⟨d', rem', updated.has, .single ⟨_, step⟩⟩
      · exact ⟨d, rem, updated.keeps hd (by rw [step.fixed.1]; exact heq), .refl⟩
    by_cases heq : d₁.dzEpoch = w.dzEpoch
    · obtain ⟨rfl, rfl⟩ := hasBook.unique hd₁ heq
      exact ⟨w', wrem', updated'.has, hmoves.tail ⟨_, bookStep⟩⟩
    · exact ⟨d₁, rem₁, updated'.keeps hd₁ (by rw [bookStep.fixed.1]; exact heq), hmoves⟩
  | migrate _ migrated =>
    rcases migrated.entry (.distribution d.dzEpoch) with
      hsame | ⟨d₀, rem₀, d₁, rem₁, hi, hold, step, hnew, -⟩
    · exact ⟨d, rem, hsame.trans hd, .refl⟩
    · cases hold.symm.trans hd
      refine ⟨d₁, rem₁, ?_, .single ⟨_, step⟩⟩
      unfold Books.HasDist
      rw [step.fixed.1]
      exact hnew

/-- What holds of a new distribution and is kept by every step holds of every distribution. -/
theorem BooksRun.dist_invariant {P : DistState → Prop} (hrun : BooksRun rt b₀ h b)
    (hempty : b₀.Empty)
    (hinit : ∀ {c j prepaid d}, Initialized rt c j prepaid d → P (d, []))
    (hstep : ∀ {a s s'}, P s → DistStep rt a s s' → P s') {d : Distribution}
    {rem : List (BitVec 8)} (hd : b.HasDist d rem) : P (d, rem) := by
  induction hrun generalizing d rem with
  | start => exact absurd hd (by simp [Books.HasDist, hempty _])
  | next _ hs ih =>
    obtain ⟨acts, n, he, -⟩ := hs.effect
    rcases he.dists.origin hd with ⟨rfl, -, _, _, _, _, hinit', -⟩ | ⟨d₀, rem₀, hold, -, hmoves⟩
    · exact hinit hinit'
    · exact hmoves.preserves hstep (ih hold)

/-- A distribution stays, and takes steps. -/
theorem BooksRun.persists (hrun : BooksRun rt b h' b') {d : Distribution} {rem : List (BitVec 8)}
    (hd : b.HasDist d rem) : ∃ d' rem', b'.HasDist d' rem' ∧ DistMoves rt (d, rem) (d', rem') := by
  induction hrun with
  | start => exact ⟨d, rem, hd, .refl⟩
  | next _ hs ih =>
    obtain ⟨d₁, rem₁, hd₁, hmoves₁⟩ := ih
    obtain ⟨acts, n, he, -⟩ := hs.effect
    obtain ⟨d₂, rem₂, hd₂, hmoves₂⟩ := he.dists.persists hd₁
    exact ⟨d₂, rem₂, hd₂, hmoves₁.trans hmoves₂⟩

theorem BooksRun.valid (hrun : BooksRun rt b₀ h b) (hempty : b₀.Empty) {d : Distribution}
    {rem : List (BitVec 8)} (hd : b.HasDist d rem) : Valid (d, rem) :=
  hrun.dist_invariant hempty (fun hi => hi.valid) (fun hv hs => hv.step hs) hd

end

/-- What a distribution is after more steps of a ledger it was reached on. -/
theorem LedgerRun.persists {rt : Runtime} {L₀ L L' : RevenueLedger} {h h' : History} {k : Pubkey}
    {d : Distribution} {rem : List (BitVec 8)} (hg : Genesis rt L₀) (hrun : LedgerRun rt L₀ h L)
    (hrun' : LedgerRun rt L h' L') (hd : view ID L k = some (d, rem)) :
    Valid (d, rem) ∧ ∃ d' rem', view ID L' k = some (d', rem') ∧
      DistMoves rt (d, rem) (d', rem') := by
  obtain ⟨hc, hbooks⟩ := hrun.books hg
  obtain ⟨hc', hbooks'⟩ := hrun'.simulate hc fun hc hs => step_refines hc hs
  obtain ⟨hk, hview, -, -⟩ := hc.of_view hd
  have has : (Revenue.books rt L).HasDist d rem := hview
  obtain ⟨d', rem', has', hmoves⟩ := BooksRun.persists hbooks' has
  refine ⟨hbooks.valid hg.books_empty has, d', rem', ?_, hmoves⟩
  have he : d'.dzEpoch = d.dzEpoch := hmoves.dzEpoch_eq
  rw [view_eq_stateAt, hk]
  show stateAt L' (Identity.key rt (.distribution d.dzEpoch)) = _
  rw [← he]
  exact has'

/-! ## Entries under their own identity -/

section Proper

variable {rt : Runtime} {call : Call} {b b' b₀ : Books} {h : List (Entry Books Label)}

theorem Transition.proper (ht : Transition rt call b b') (hp : b.Proper) : b'.Proper := by
  cases ht with
  | configureContributorRewards data running entry signed configured =>
    exact hp.set (congrArg Identity.contributor (tryConfigureContributor_ok configured).2)
  | migrate data journal migrated =>
    intro i s rem hs
    rcases migrated.entry i with hsame | ⟨d₀, rem₀, d₁, rem₁, rfl, hold, step, hnew, -⟩
    · exact hp i s rem (hsame.symm.trans hs)
    · cases hnew.symm.trans hs
      exact congrArg Identity.distribution step.fixed.1
  | verify data => exact hp
  | initializeDistribution data config unpaused signed journal new advanced initialized rate_eq funds
      exempt moved =>
    refine Books.Proper.setDist (.of_entry_eq moved.entry_eq ?_)
    exact Books.Proper.withLamports (Books.Proper.setToken (Books.Proper.set hp rfl))
  | collect data running has integration keyDist keyIntegration invokes foreign delta step =>
    exact Books.Proper.setDist (.of_entry_eq foreign.entry_eq hp)
  | distribute data indexed running has keyDist contributor share recipients split payouts step burn
      relayed =>
    refine .of_entry_eq (relayed.entry_eq.trans burn.entry_eq) ?_
    exact Books.Proper.setDist (.of_entry_eq payouts.entry_eq hp)
  | pay data indexed running has keyDist deposit journal step enough moved =>
    exact .of_entry_eq moved.entry_eq (Books.Proper.set hp.setDist rfl)
  | writeOff data indexed running signed has keyDist keyBook deposit short step written hasBook later
      bookStep =>
    subst written
    refine Books.Proper.setDist (Books.Proper.setDist ?_)
    exact Books.Proper.set hp rfl
  | sweepNothing data running has journal next zero step =>
    exact Books.Proper.set hp.setDist rfl
  | sweep data running has journal next debt nonzero enough invokes foreign transfer step =>
    have hp₂ := Books.Proper.of_entry_eq (transfer.entry_eq.trans foreign.entry_eq) hp
    exact Books.Proper.set hp₂.setDist rfl
  | withdrawSol data running journal enough moved =>
    exact .of_entry_eq moved.entry_eq (Books.Proper.set hp rfl)
  | withdrawDeposit data running deposit amount nonzero authorized moved =>
    exact .of_entry_eq moved.entry_eq hp
  | initializeIntegration data config signed new journal counted funds =>
    refine Books.Proper.set ?_ rfl
    exact Books.Proper.set hp.withLamports rfl
  | initializeSwapDestination data config funds =>
    exact Books.Proper.withLamports (Books.Proper.setToken (Books.Proper.set hp rfl))
  | initializeProgram data new funds => exact Books.Proper.set hp.setToken.withLamports rfl
  | initializeJournal data new funds exempt => exact Books.Proper.set hp.setToken.withLamports rfl
  | initializeContributorRewards data new funds => exact Books.Proper.set hp.withLamports rfl
  | initializeDeposit data new funds exempt => exact Books.Proper.set hp.withLamports rfl
  | finalizeDebt data running signed has allowed step paid => exact Books.Proper.set hp.withLamports rfl
  | finalizeRewards data running has allowed configured aged step paid room =>
    exact Books.Proper.set hp.withLamports rfl
  | enableWriteOff data running activated has keyDist step paid =>
    exact Books.Proper.set hp.withLamports rfl
  | _ => exact Books.Proper.set hp rfl

theorem BooksRun.proper (hrun : BooksRun rt b₀ h b) (hempty : b₀.Empty) : b.Proper := by
  refine hrun.invariant (P := Books.Proper) ?_ ?_
  · intro i s rem hs
    simp [hempty i] at hs
  · intro l b b' hp hs
    cases hs with
    | call ht => exact ht.proper hp
    | outside hforeign => exact .of_entry_eq hforeign.entry_eq hp

end Proper

end DoubleZero.Revenue
