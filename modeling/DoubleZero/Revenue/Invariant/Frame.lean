import DoubleZero.Revenue.Refine.Run

/-!
# What an instruction leaves alone

`InstructionData.writes` lists the kinds of account an instruction stores to. Every entry of another
kind is after the call what it was before (`Transition.frame`).
-/

namespace DoubleZero.Revenue

open DoubleZero.Lib DoubleZero.Solana

/-- The kinds of account of the program, one for each discriminator. -/
inductive Kind where
  | config
  | journal
  | distribution
  | contributor
  | deposit
  | integration
  deriving DecidableEq, Repr

@[simp] def Identity.kind : Identity → Kind
  | .config => .config
  | .journal => .journal
  | .distribution _ => .distribution
  | .contributor _ => .contributor
  | .deposit _ => .deposit
  | .integration _ => .integration

def InstructionData.writes : InstructionData → List Kind
  | .initializeProgram | .setAdmin _ | .configureProgram _ | .initializeSwapDestination => [.config]
  | .initializeJournal | .withdrawSol _ => [.journal]
  | .initializeDistribution => [.config, .distribution]
  | .migrateProgramAccounts | .configureDistributionDebt _ _ _ | .finalizeDistributionDebt
  | .configureDistributionRewards _ _ | .finalizeDistributionRewards | .distributeRewards _ _ _
  | .enableSolanaValidatorDebtWriteOff | .setDistributionEconomicBurnRate _
  | .collectIntegrationRewards => [.distribution]
  | .initializeContributorRewards _ | .setRewardsManager _ | .configureContributorRewards _ =>
    [.contributor]
  | .initializeSolanaValidatorDeposit _ => [.deposit]
  | .paySolanaValidatorDebt _ _ | .sweepDistributionTokens => [.distribution, .journal]
  | .writeOffSolanaValidatorDebt _ _ => [.distribution, .deposit]
  | .initializeRewardsIntegration => [.integration, .journal]
  | .verifyDistributionMerkleRoot _ _ | .withdrawSolanaValidatorDeposit => []

namespace Books

variable {b b₁ : Books} {i j : Identity} {s : AccountState} {rem : List (BitVec 8)}

/-- Setting an entry of one kind leaves the others. -/
theorem set_entry_of_kind (h : i.kind ≠ j.kind) (he : b₁.entry i = b.entry i) :
    (b₁.set j s rem).entry i = b.entry i := by
  rw [set_entry_of_ne _ _ _ (by rintro rfl; exact h rfl), he]

theorem setDist_entry_of_kind {d : Distribution} (h : i.kind ≠ .distribution)
    (he : b₁.entry i = b.entry i) : (b₁.setDist d rem).entry i = b.entry i :=
  set_entry_of_kind (by simpa using h) he

end Books

section

variable {rt : Runtime} {b b' : Books}

theorem LamportMove.entry_eq {source target : Pubkey} {n : Nat}
    (h : LamportMove source target n b b') : b'.entry = b.entry := by
  rcases h with ⟨-, rfl⟩ | ⟨-, -, -, rfl⟩
  · rfl
  · rfl

theorem TokenBurn.entry_eq {source mint authority : Pubkey} {amount : UInt64}
    (h : TokenBurn source mint authority amount b b') : b'.entry = b.entry := by
  obtain ⟨a, -, -, -, -, rfl⟩ := h
  rfl

theorem PrepaidMoved.entry_eq {e : DoubleZeroEpoch} {prepaid : UInt64}
    (h : PrepaidMoved rt e prepaid b b') : b'.entry = b.entry := by
  rcases h with ⟨-, rfl⟩ | h
  · rfl
  · exact h.entry_eq

end

theorem Transition.frame {rt : Runtime} {call : Call} {b b' : Books} {i : Identity}
    (ht : Transition rt call b b') (hi : i.kind ∉ call.data.writes) : b'.entry i = b.entry i := by
  cases ht with
  | initializeProgram data | setAdmin data | configureProgram data | initializeSwapDestination data
  | initializeJournal data | initializeContributorRewards data | setRewardsManager data
  | configureContributorRewards data | initializeDeposit data =>
    rw [data] at hi
    exact Books.set_entry_of_kind (by simpa [InstructionData.writes] using hi) rfl
  | initializeIntegration data =>
    rw [data] at hi
    simp only [InstructionData.writes, List.mem_cons, List.not_mem_nil, or_false, not_or] at hi
    exact Books.set_entry_of_kind hi.2 (Books.set_entry_of_kind hi.1 rfl)
  | migrate data journal migrated =>
    rw [data] at hi
    rcases migrated.entry i with hsame | ⟨d, rem, d', rem', rfl, -⟩
    · exact hsame
    · simp [InstructionData.writes] at hi
  | verify data => rfl
  | initializeDistribution data config unpaused signed journal new advanced initialized rate_eq funds
      exempt moved =>
    rw [data] at hi
    simp only [InstructionData.writes, List.mem_cons, List.not_mem_nil, or_false, not_or] at hi
    refine Books.setDist_entry_of_kind hi.2 ?_
    rw [moved.entry_eq]
    exact Books.set_entry_of_kind hi.1 rfl
  | configureDebt data | finalizeZeroDebt data | finalizeDebt data | configureRewards data
  | setEconomicBurnRate data | finalizeRewards data | enableWriteOff data =>
    rw [data] at hi
    exact Books.setDist_entry_of_kind (by simpa [InstructionData.writes] using hi) rfl
  | collect data running has integration keyDist keyIntegration invokes foreign delta step =>
    rw [data] at hi
    refine Books.setDist_entry_of_kind (by simpa [InstructionData.writes] using hi) ?_
    rw [foreign.entry_eq]
  | distribute data indexed running has keyDist contributor share recipients split payouts step burn
      relayed =>
    rw [data] at hi
    rw [relayed.entry_eq, burn.entry_eq]
    refine Books.setDist_entry_of_kind (by simpa [InstructionData.writes] using hi) ?_
    rw [payouts.entry_eq]
  | pay data indexed running has keyDist deposit journal step enough moved =>
    rw [data] at hi
    simp only [InstructionData.writes, List.mem_cons, List.not_mem_nil, or_false, not_or] at hi
    rw [moved.entry_eq]
    exact Books.set_entry_of_kind hi.2 (Books.setDist_entry_of_kind hi.1 rfl)
  | writeOff data indexed running signed has keyDist keyBook deposit short step written hasBook later
      bookStep =>
    rw [data] at hi
    simp only [InstructionData.writes, List.mem_cons, List.not_mem_nil, or_false, not_or] at hi
    subst written
    refine Books.setDist_entry_of_kind hi.1 (Books.setDist_entry_of_kind hi.1 ?_)
    exact Books.set_entry_of_kind hi.2 rfl
  | sweepNothing data running has journal next zero step =>
    rw [data] at hi
    simp only [InstructionData.writes, List.mem_cons, List.not_mem_nil, or_false, not_or] at hi
    exact Books.set_entry_of_kind hi.2 (Books.setDist_entry_of_kind hi.1 rfl)
  | sweep data running has journal next debt nonzero enough invokes foreign transfer step =>
    rw [data] at hi
    simp only [InstructionData.writes, List.mem_cons, List.not_mem_nil, or_false, not_or] at hi
    refine Books.set_entry_of_kind hi.2 (Books.setDist_entry_of_kind hi.1 ?_)
    rw [transfer.entry_eq, foreign.entry_eq]
  | withdrawSol data running journal enough moved =>
    rw [data] at hi
    rw [moved.entry_eq]
    exact Books.set_entry_of_kind (by simpa [InstructionData.writes] using hi) rfl
  | withdrawDeposit data running deposit amount nonzero authorized moved => rw [moved.entry_eq]

/-! ## Nothing is closed -/

section

variable {rt : Runtime} {call : Call} {b b' b₁ : Books} {i : Identity}

theorem Books.none_of_set {j : Identity} {s : AccountState} {rem : List (BitVec 8)}
    (h : (b.set j s rem).entry i = none) : b.entry i = none := by
  rw [Books.set_entry] at h
  split at h
  · cases h
  · exact h

theorem Books.none_of_setDist {d : Distribution} {rem : List (BitVec 8)}
    (h : (b.setDist d rem).entry i = none) : b.entry i = none :=
  Books.none_of_set h

/-- No call loses an account of the program. -/
theorem Transition.none_of (ht : Transition rt call b b') (hnone : b'.entry i = none) :
    b.entry i = none := by
  cases ht with
  | initializeIntegration data => exact Books.none_of_set (Books.none_of_set hnone)
  | migrate data journal migrated =>
    rcases migrated.entry i with hsame | ⟨d, rem, d', rem', rfl, -, -, hnew, -⟩
    · exact hsame.symm.trans hnone
    · exact absurd (hnew.symm.trans hnone) (by simp)
  | verify data => exact hnone
  | initializeDistribution data config unpaused signed journal new advanced initialized rate_eq funds
      exempt moved =>
    have hnone := Books.none_of_setDist hnone
    rw [moved.entry_eq] at hnone
    exact Books.none_of_set hnone
  | collect data running has integration keyDist keyIntegration invokes foreign delta step =>
    exact foreign.entry_eq ▸ Books.none_of_setDist hnone
  | distribute data indexed running has keyDist contributor share recipients split payouts step burn
      relayed =>
    rw [relayed.entry_eq, burn.entry_eq] at hnone
    exact payouts.entry_eq ▸ Books.none_of_setDist hnone
  | pay data indexed running has keyDist deposit journal step enough moved =>
    rw [moved.entry_eq] at hnone
    exact Books.none_of_setDist (Books.none_of_set hnone)
  | writeOff data indexed running signed has keyDist keyBook deposit short step written hasBook later
      bookStep =>
    subst written
    exact Books.none_of_set (Books.none_of_setDist (Books.none_of_setDist hnone))
  | sweepNothing data running has journal next zero step =>
    exact Books.none_of_setDist (Books.none_of_set hnone)
  | sweep data running has journal next debt nonzero enough invokes foreign transfer step =>
    have hnone := Books.none_of_setDist (Books.none_of_set hnone)
    rwa [transfer.entry_eq, foreign.entry_eq] at hnone
  | withdrawSol data running journal enough moved =>
    rw [moved.entry_eq] at hnone
    exact Books.none_of_set hnone
  | withdrawDeposit data running deposit amount nonzero authorized moved =>
    rwa [moved.entry_eq] at hnone
  | _ => exact Books.none_of_set hnone

end

end DoubleZero.Revenue
