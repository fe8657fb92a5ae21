import DoubleZero.Revenue.Invariant.Run

/-!
# Where lamports go

The program takes lamports out of its own accounts in four places: a payment out of a deposit, a
withdrawal out of the journal or a deposit, and a relay fee out of a distribution.
`Transition.lamports_le` says that everything else only adds to what an account of the program
holds.
-/

namespace DoubleZero.Revenue

open DoubleZero.Lib DoubleZero.Solana

section

variable {rt : Runtime} {call : Call} {b b' : Books} {k source target : Pubkey} {n : Nat}

theorem Books.KeepsLamports.le {lamports : Pubkey → Nat} (h : b.KeepsLamports rt lamports)
    (hk : b.Owns rt k) : b.lamports k ≤ lamports k :=
  (h k hk).ge

theorem Books.PaidIn.le {lamports : Pubkey → Nat} (h : b.PaidIn rt target n lamports)
    (hk : b.Owns rt k) : b.lamports k ≤ lamports k := by
  by_cases hkt : k = target
  · rw [hkt, h.1]
    exact Nat.le_add_right _ _
  · exact (h.2 k hk hkt).ge

theorem LamportMove.le_of_ne (h : LamportMove source target n b b') (hk : k ≠ source) :
    b.lamports k ≤ b'.lamports k := by
  rcases h with ⟨-, rfl⟩ | ⟨-, -, -, rfl⟩
  · exact le_rfl
  · rw [Books.addLamports_lamports, Books.subLamports_lamports, if_neg hk]
    exact Nat.le_add_right _ _

theorem LamportMove.le_add (h : LamportMove source target n b b') :
    b.lamports k ≤ b'.lamports k + n := by
  rcases h with ⟨-, rfl⟩ | ⟨-, -, -, rfl⟩
  · exact Nat.le_add_right _ _
  · rw [Books.addLamports_lamports, Books.subLamports_lamports]
    split <;> omega

theorem LamportMove.target_eq (h : LamportMove source target n b b') (hne : source ≠ target) :
    b'.lamports target = b.lamports target + n := by
  rcases h with ⟨heq, -⟩ | ⟨-, -, -, rfl⟩
  · exact absurd heq hne
  · rw [Books.addLamports_lamports, Books.subLamports_lamports, if_pos rfl, if_neg hne.symm]
    rfl

theorem LamportMove.source_eq (h : LamportMove source target n b b') (hne : source ≠ target) :
    b'.lamports source + n = b.lamports source := by
  rcases h with ⟨heq, -⟩ | ⟨-, hle, -, rfl⟩
  · exact absurd heq hne
  · rw [Books.addLamports_lamports, Books.subLamports_lamports, if_pos rfl, if_neg hne]
    omega

theorem TokenTransfer.lamports_eq {authority : Pubkey} {amount : UInt64}
    (h : TokenTransfer source target authority amount b b') : b'.lamports = b.lamports := by
  obtain ⟨a, c, -, -, -, -, -, ⟨-, rfl⟩ | ⟨-, -, rfl⟩⟩ := h
  · rfl
  · rfl

theorem TokenBurn.lamports_eq {mint authority : Pubkey} {amount : UInt64}
    (h : TokenBurn source mint authority amount b b') : b'.lamports = b.lamports := by
  obtain ⟨a, -, -, -, -, rfl⟩ := h
  rfl

theorem Payouts.lamports_eq {authority : Pubkey} {share : UInt64} {rs : List RecipientShare}
    (h : Payouts rt source authority share rs b b') : b'.lamports = b.lamports := by
  induction h with
  | nil => rfl
  | cons htransfer _ ih => exact ih.trans htransfer.lamports_eq

theorem PrepaidMoved.lamports_eq {e : DoubleZeroEpoch} {prepaid : UInt64}
    (h : PrepaidMoved rt e prepaid b b') : b'.lamports = b.lamports := by
  rcases h with ⟨-, rfl⟩ | h
  · rfl
  · exact h.lamports_eq

theorem Runtime.depositKey_ne_journalKey (nodeId : Pubkey) :
    rt.depositKey nodeId ≠ rt.journalKey := by
  intro h
  simpa [SolanaValidatorDeposit.seeds, Journal.seeds] using Runtime.find_inj.1 h

theorem Runtime.distributionKey_ne_journalKey (e : DoubleZeroEpoch) :
    rt.distributionKey e ≠ rt.journalKey := by
  intro h
  simpa [Distribution.seeds, Journal.seeds] using Runtime.find_inj.1 h

/-- The kind of account an instruction takes lamports from. -/
def InstructionData.spends : InstructionData → Option Kind
  | .paySolanaValidatorDebt _ _ | .withdrawSolanaValidatorDeposit => some .deposit
  | .withdrawSol _ => some .journal
  | .distributeRewards _ _ _ => some .distribution
  | _ => none

theorem LamportMove.le_of_kind {i j : Identity} (h : LamportMove (j.key rt) target n b b')
    (hi : i.kind ≠ j.kind) : b.lamports (i.key rt) ≤ b'.lamports (i.key rt) := by
  refine h.le_of_ne fun hkey => hi ?_
  rw [Identity.key_inj.1 hkey]

/-- Every other account of the program keeps its lamports or gets more. -/
theorem Transition.lamports_le {i : Identity} (ht : Transition rt call b b')
    (hi : b.entry i ≠ none) (hs : call.data.spends ≠ some i.kind) :
    b.lamports (i.key rt) ≤ b'.lamports (i.key rt) := by
  have hk : b.Owns rt (i.key rt) := ⟨i, rfl, hi⟩
  cases ht with
  | @pay _ _ _ _ _ _ _ p _ _ _ _ _ data indexed running has keyDist deposit journal step enough
      moved =>
    rw [data] at hs
    have hle := LamportMove.le_of_kind (i := i) (j := .deposit p.nodeId) moved
      fun h => hs (by rw [h]; rfl)
    exact hle
  | withdrawSol data running journal enough moved =>
    rw [data] at hs
    have hle := LamportMove.le_of_kind (i := i) (j := .journal) moved fun h => hs (by rw [h]; rfl)
    exact hle
  | @withdrawDeposit _ p _ _ _ _ data running deposit amount nonzero authorized moved =>
    rw [data] at hs
    exact LamportMove.le_of_kind (j := .deposit p.nodeId) moved fun h => hs (by rw [h]; rfl)
  | @distribute _ d _ _ _ _ _ _ _ _ _ _ _ _ _ _ _ _ data indexed running has keyDist contributor
      share recipients split payouts step burn relayed =>
    rw [data] at hs
    have hle := LamportMove.le_of_kind (i := i) (j := .distribution d.dzEpoch) relayed
      fun h => hs (by rw [h]; rfl)
    rw [burn.lamports_eq] at hle
    exact (congrFun payouts.lamports_eq _).ge.trans hle
  | initializeDistribution data config unpaused signed journal new advanced initialized rate_eq funds
      exempt moved =>
    exact (funds.le hk).trans (congrFun moved.lamports_eq _).ge
  | finalizeDebt data running signed has allowed step paid => exact paid.le hk
  | finalizeRewards data running has allowed configured aged step paid room => exact paid.le hk
  | enableWriteOff data running activated has keyDist step paid => exact paid.le hk
  | collect data running has integration keyDist keyIntegration invokes foreign delta step =>
    exact foreign.lamports_le _ hk
  | sweep data running has journal next debt nonzero enough invokes foreign transfer step =>
    exact (foreign.lamports_le _ hk).trans (congrFun transfer.lamports_eq _).ge
  | writeOff data indexed running signed has keyDist keyBook deposit short step written hasBook later
      bookStep =>
    subst written
    exact le_rfl
  | migrate data journal migrated => exact (congrFun migrated.lamports_eq _).ge
  | initializeProgram data new funds => exact funds.le hk
  | initializeSwapDestination data config funds => exact funds.le hk
  | initializeJournal data new funds exempt => exact funds.le hk
  | initializeContributorRewards data new funds => exact funds.le hk
  | initializeDeposit data new funds exempt => exact funds.le hk
  | initializeIntegration data config signed new journal counted funds => exact funds.le hk
  -- The rest leaves all lamports where they are.
  | _ => exact le_rfl

/-- What a call adds to an account of the program and takes out of it. -/
def Call.income (rt : Runtime) (call : Call) (k : Pubkey) : Nat :=
  if k = rt.journalKey then call.paid else 0

def Call.outlay (rt : Runtime) (call : Call) (k : Pubkey) : Nat :=
  if k = rt.journalKey then call.withdrawn else 0

/-- Apart from deposits, and from the relay fee of a distribution, an account of the program gets
its income and loses its outlay. -/
theorem Transition.lamports (ht : Transition rt call b b') (hk : b.Owns rt k)
    (hdeposit : ∀ nodeId, k ≠ rt.depositKey nodeId) :
    b.lamports k + call.income rt k ≤ b'.lamports k + call.outlay rt k ∨
      (∃ unitShare rate proof, call.data = .distributeRewards unitShare rate proof) ∧
        ∃ e, k = rt.distributionKey e := by
  obtain ⟨i, rfl, hi⟩ := hk
  have hle := fun hs => ht.lamports_le hi hs
  have hkept : call.paid = 0 → b.lamports (i.key rt) ≤ b'.lamports (i.key rt) →
      b.lamports (i.key rt) + call.income rt (i.key rt) ≤
        b'.lamports (i.key rt) + call.outlay rt (i.key rt) := by
    intro hpaid hle
    rw [Call.income, hpaid, ite_self]
    omega
  cases ht with
  | pay data indexed running has keyDist deposit journal step enough moved =>
    left
    rw [Call.income, Call.outlay]
    split
    · next hkj =>
      rw [hkj, moved.target_eq (Runtime.depositKey_ne_journalKey _), Call.paid, data]
      exact Nat.le_add_right _ _
    · exact moved.le_of_ne (hdeposit _)
  | withdrawSol data running journal enough moved =>
    left
    have hin : call.income rt (i.key rt) = 0 := by simp [Call.income, Call.paid, data]
    rw [hin, Call.outlay]
    by_cases hkj : i.key rt = rt.journalKey
    · rw [if_pos hkj, Call.withdrawn, data]
      exact moved.le_add
    · rw [if_neg hkj]
      exact moved.le_of_ne hkj
  | distribute data indexed running has keyDist contributor share recipients split payouts step burn
      relayed =>
    by_cases hkind : ∃ e, i = .distribution e
    · obtain ⟨e, rfl⟩ := hkind
      exact .inr ⟨⟨_, _, _, data⟩, e, rfl⟩
    · refine .inl (hkept (by rw [Call.paid, data]) (hle ?_))
      rw [data]
      cases i with
      | distribution e => exact absurd ⟨e, rfl⟩ hkind
      | _ => simp [InstructionData.spends]
  | withdrawDeposit data running deposit amount nonzero authorized moved =>
    exact .inl (hkept (by rw [Call.paid, data]) (moved.le_of_ne (hdeposit _)))
  | _ =>
    refine .inl (hkept (by rw [Call.paid, ‹call.data = _›]) (hle ?_))
    rw [‹call.data = _›]
    simp [InstructionData.spends]

end

end DoubleZero.Revenue
