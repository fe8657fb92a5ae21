import DoubleZero.Revenue.Invariant.Lamports
import DoubleZero.Revenue.Replay

/-!
# Validator deposits

A deposit loses lamports in two instructions. A payment takes the amount of a leaf that was open and
is settled by it, a withdrawal leaves the rent exemption and the written-off debt behind and pays
the validator's node unless the node signed. Both stop at the rent exemption, so no deposit ever
falls below it.
-/

namespace DoubleZero.Revenue

open DoubleZero.Lib DoubleZero.Solana

/-- The rent exemption of a deposit. -/
def Runtime.depositRent (rt : Runtime) : Nat :=
  rt.rent.minimumBalance (dataEnd AccountState SolanaValidatorDeposit)

/-- What a call does to the lamports of a deposit. -/
inductive DepositEffect (rt : Runtime) (call : Call) (p : SolanaValidatorDeposit) (b b' : Books) :
    Prop
  | kept (le : b.lamports (rt.depositKey p.nodeId) ≤ b'.lamports (rt.depositKey p.nodeId))
  | pay {amount : UInt64} {proof : MerkleProof} {leafIndex : UInt32} {d d' : Distribution}
      {rem rem' : List (BitVec 8)} (data : call.data = .paySolanaValidatorDebt amount proof)
      (indexed : proof.leafIndex = some leafIndex) (has : b.HasDist d rem)
      (has' : b'.HasDist d' rem')
      (step : DistStep rt (.pay leafIndex ⟨p.nodeId, amount⟩) (d, rem) (d', rem'))
      (enough : amount.toNat ≤ b.lamports (rt.depositKey p.nodeId) - rt.depositRent)
      (taken : b'.lamports (rt.depositKey p.nodeId) + amount.toNat =
        b.lamports (rt.depositKey p.nodeId))
  | withdraw {n : Nat} (data : call.data = .withdrawSolanaValidatorDeposit)
      (left : b'.lamports (rt.depositKey p.nodeId) = rt.depositRent + p.writtenOffSolDebt.toNat)
      (taken : b'.lamports (rt.depositKey p.nodeId) + n = b.lamports (rt.depositKey p.nodeId))
      (received : b'.lamports p.nodeId = b.lamports p.nodeId + n ∨ call.Signed p.nodeId)

section

variable {rt : Runtime} {call : Call} {b b' b₀ : Books} {p : SolanaValidatorDeposit}
  {prem : List (BitVec 8)} {h : List (Entry Books Label)}

theorem Runtime.depositKey_inj {n n' : Pubkey} : rt.depositKey n = rt.depositKey n' ↔ n = n' := by
  simp [depositKey, find_inj, SolanaValidatorDeposit.seeds]

theorem Transition.depositEffect (ht : Transition rt call b b')
    (hp : b.entry (.deposit p.nodeId) = some (.solanaValidatorDeposit p, prem)) :
    DepositEffect rt call p b b' := by
  have hkept : call.data.spends ≠ some .deposit →
      b.lamports (rt.depositKey p.nodeId) ≤ b'.lamports (rt.depositKey p.nodeId) :=
    fun hs => ht.lamports_le (i := .deposit p.nodeId) (by simp [hp]) hs
  cases ht with
  | @pay _ d d' rem rem' _ _ p₀ _ amount _ _ _ data indexed running has keyDist deposit journal step
      enough moved =>
    by_cases hn : p.nodeId = p₀.nodeId
    · rw [hn] at hp
      cases hp.symm.trans deposit
      have hne : rt.depositKey p.nodeId ≠ rt.journalKey := Runtime.depositKey_ne_journalKey _
      have htaken := moved.source_eq hne
      simp only [Books.set_lamports, Books.setDist] at htaken
      have has' : b'.HasDist d' rem' := by
        show b'.entry _ = _
        rw [moved.entry_eq, Books.set_entry_of_ne _ _ _ (by simp)]
        exact Books.set_entry_self ..
      exact .pay data indexed has has' step enough htaken
    · exact .kept (moved.le_of_ne fun hk => hn (Runtime.depositKey_inj.1 hk))
  | @withdrawDeposit _ p₀ _ beneficiary n _ data running deposit amount nonzero authorized moved =>
    by_cases hn : p.nodeId = p₀.nodeId
    · rw [hn] at hp
      cases hp.symm.trans deposit
      by_cases hself : rt.depositKey p.nodeId = beneficiary
      · -- The deposit pays itself and keeps everything.
        rcases moved with ⟨-, rfl⟩ | ⟨hne, -⟩
        · exact .kept le_rfl
        · exact absurd hself hne
      · have htaken := moved.source_eq hself
        refine .withdraw data ?_ htaken ?_
        · unfold Runtime.depositRent
          omega
        · rcases authorized with rfl | hsigned
          · exact .inl (moved.target_eq hself)
          · exact .inr hsigned
    · exact .kept (moved.le_of_ne fun hk => hn (Runtime.depositKey_inj.1 hk))
  | _ => exact .kept (hkept (by rw [‹call.data = _›]; simp [InstructionData.spends]))

/-- A deposit that is there after a call was there before, or the call created it. -/
theorem Transition.depositOrigin {n : Pubkey} (ht : Transition rt call b b')
    (hn : b'.entry (.deposit n) ≠ none) :
    b.entry (.deposit n) ≠ none ∨ rt.depositRent ≤ b'.lamports (rt.depositKey n) := by
  by_cases hw : Kind.deposit ∈ call.data.writes
  · cases ht with
    | @initializeDeposit _ nodeId data new funds exempt _ =>
      by_cases hk : n = nodeId
      · subst hk
        exact .inr exempt
      · left
        rwa [Books.set_entry_of_ne _ _ _ (by simpa using hk)] at hn
    | @writeOff _ d d' w w' rem rem' prem wrem wrem' p amount _ _ _ data indexed running signed has
        keyDist keyBook deposit short step written hasBook later bookStep =>
      left
      subst written
      simp only [Books.setDist_deposit] at hn
      by_cases hk : n = p.nodeId
      · subst hk
        simp [deposit]
      · rwa [Books.set_entry_of_ne _ _ _ (by simpa using hk)] at hn
    | _ => simp [‹call.data = _›, InstructionData.writes] at hw
  · exact .inl (by rwa [← ht.frame (i := .deposit n) hw])

/-- Every deposit is rent exempt. -/
def DepositsExempt (rt : Runtime) (b : Books) : Prop :=
  ∀ n, b.entry (.deposit n) ≠ none → rt.depositRent ≤ b.lamports (rt.depositKey n)

theorem DepositsExempt.step (hex : DepositsExempt rt b) (hproper : b.Proper)
    (ht : Transition rt call b b') : DepositsExempt rt b' := by
  intro n hn
  rcases ht.depositOrigin hn with hold | hnew
  · obtain ⟨⟨s, rem⟩, hs⟩ := Option.ne_none_iff_exists'.1 hold
    obtain ⟨p, rfl, rfl⟩ := hproper.deposit hs
    have hrent := hex _ hold
    cases ht.depositEffect hs with
    | kept le => exact hrent.trans le
    | pay _ _ _ _ _ enough taken => omega
    | withdraw _ left _ _ => omega
  · exact hnew

theorem BooksRun.depositsExempt (hrun : BooksRun rt b₀ h b) (hempty : b₀.Empty) :
    DepositsExempt rt b := by
  refine hrun.history (P := fun _ b => DepositsExempt rt b) ?_ ?_
  · intro n hn
    exact absurd (hempty _) hn
  · intro h b l b' hr hex hs
    cases hs with
    | call ht => exact hex.step (BooksRun.proper hr hempty) ht
    | outside hforeign =>
      intro n hn
      rw [hforeign.entry_eq] at hn
      exact (hex n hn).trans (hforeign.lamports_le _ ⟨.deposit n, rfl, hn⟩)

end

theorem deposits_debited_legitimately {rt : Runtime} {L₀ L : RevenueLedger} {h : History}
    (hg : Genesis rt L₀) (hrun : LedgerRun rt L₀ h L) :
    (∀ (k : Pubkey) (p : SolanaValidatorDeposit) (rem : List (BitVec 8)),
      view ID L k = some (p, rem) →
        rt.rent.minimumBalance (L k).data.dataLen ≤ (L k).lamports ∧
        ∀ (l : Label) (L' : RevenueLedger), Step rt l L L' → (L' k).lamports < (L k).lamports →
          (∃ call amount proof leafIndex, l = .call call ∧
            call.data = .paySolanaValidatorDebt amount proof ∧
            proof.leafIndex = some leafIndex ∧
            (L' k).lamports + amount.toNat = (L k).lamports ∧
            ∃ (kd : Pubkey) (d d' : Distribution) (drem drem' : List (BitVec 8)),
              view ID L kd = some (d, drem) ∧ view ID L' kd = some (d', drem') ∧
              d.isDebtCalculationFinalized = true ∧
              Verifies rt d.solanaValidatorDebtMerkleRoot leafIndex
                (.solanaValidatorDebt ⟨p.nodeId, amount⟩) ∧
              leafIndex.toNat ∉ d.processedDebt drem ∧ leafIndex.toNat ∈ d'.processedDebt drem') ∨
          ∃ call, l = .call call ∧ call.data = .withdrawSolanaValidatorDeposit ∧
            rt.rent.minimumBalance (L k).data.dataLen + p.writtenOffSolDebt.toNat ≤
              (L' k).lamports ∧
            ((L' p.nodeId).lamports =
                (L p.nodeId).lamports + ((L k).lamports - (L' k).lamports) ∨
              call.Signed p.nodeId)) ∧
      ∀ (call : Call) (nodeId : Pubkey) (L' : RevenueLedger), Step rt (.call call) L L' →
        call.data = .initializeSolanaValidatorDeposit nodeId →
        ∃ (p : SolanaValidatorDeposit) (rem : List (BitVec 8)),
          view ID L' (rt.depositKey nodeId) = some (p, rem) ∧ p.nodeId = nodeId ∧
          ((L (rt.depositKey nodeId)).lamports +
              rt.rent.minimumBalance (L' (rt.depositKey nodeId)).data.dataLen < 2 ^ 64 →
            (L (rt.depositKey nodeId)).lamports +
              rt.rent.minimumBalance (L' (rt.depositKey nodeId)).data.dataLen ≤
              (L' (rt.depositKey nodeId)).lamports) := by
  obtain ⟨hc, hbooks⟩ := hrun.books hg
  have hexempt := hbooks.depositsExempt hg.books_empty
  refine ⟨fun k p rem hp => ?_, fun call nodeId L' hs hdata => ?_⟩
  · obtain ⟨hk, hentry, -, hsound⟩ := hc.of_view hp
    have hk : k = rt.depositKey p.nodeId := hk
    have hrent : rt.rent.minimumBalance (L k).data.dataLen = rt.depositRent := by
      rw [(view_eq_some.1 hp).2, show rem = [] from hsound]
      rfl
    rw [hrent]
    subst hk
    have hentry : (books rt L).entry (.deposit p.nodeId) = some (.solanaValidatorDeposit p, rem) :=
      hentry
    refine ⟨hexempt p.nodeId (by rw [hentry]; simp), fun l L' hs hlt => ?_⟩
    obtain ⟨hc', hbook⟩ := step_refines hc hs
    cases hbook with
    | outside hforeign =>
      have hle := hforeign.lamports_le (rt.depositKey p.nodeId) ⟨_, rfl, by rw [hentry]; simp⟩
      exact absurd hlt (Nat.not_lt.2 hle)
    | @call call _ _ ht =>
      cases ht.depositEffect hentry with
      | kept le => exact absurd hlt (Nat.not_lt.2 le)
      | @pay amount proof leafIndex d d' drem drem' data indexed has has' step enough taken =>
        have hepoch : d'.dzEpoch = d.dzEpoch := step.fixed.1
        have hview' : view ID L' (rt.distributionKey d.dzEpoch) = some (d', drem') := by
          rw [← hepoch]
          exact view_eq_stateAt.2 has'
        refine .inl ⟨call, amount, proof, leafIndex, rfl, data, indexed, taken,
          rt.distributionKey d.dzEpoch, d, d', drem, drem', view_eq_stateAt.2 has, hview', ?_⟩
        cases step with
        | pay debtFinal marks leaf =>
          have hmem : leafIndex.toNat ∈ members (window drem'
              d.processedSolanaValidatorDebtStartIndex.toNat
              d.processedSolanaValidatorDebtEndIndex.toNat) := by
            rw [marks.members_eq]
            exact Finset.mem_insert_self _ _
          exact ⟨debtFinal, leaf, marks.not_mem, hmem⟩
      | @withdraw n data left taken received =>
        refine .inr ⟨call, rfl, data, left.ge, received.imp (fun hr => ?_) id⟩
        have htaken : (L' (rt.depositKey p.nodeId)).lamports + n =
            (L (rt.depositKey p.nodeId)).lamports := taken
        have hreceived : (L' p.nodeId).lamports = (L p.nodeId).lamports + n := hr
        omega
  · obtain ⟨hc', hbook⟩ := step_refines hc hs
    generalize hb' : books rt L' = b' at hbook
    cases hbook with
    | call ht =>
      cases ht with
      | @initializeDeposit lamports n data new funds exempt prefunded =>
        cases data.symm.trans hdata
        have hstate : stateAt L' (rt.depositKey nodeId) = some (.solanaValidatorDeposit
            { (default : SolanaValidatorDeposit) with nodeId := nodeId }, []) := by
          show (books rt L').entry (.deposit nodeId) = _
          rw [hb', Books.set_entry_self]
        refine ⟨_, _, view_eq_stateAt.2 hstate, rfl, ?_⟩
        have hlamports : (L' (rt.depositKey nodeId)).lamports =
            lamports (rt.depositKey nodeId) := by
          show (books rt L').lamports _ = _
          rw [hb']
          rfl
        rw [(stateAt_eq_some.1 hstate).2, hlamports]
        intro hfits
        have hrent : (AccountData.zeroCopy (AccountState.solanaValidatorDeposit
            { (default : SolanaValidatorDeposit) with nodeId := nodeId }) []).dataLen =
            dataEnd AccountState SolanaValidatorDeposit := rfl
        rw [hrent] at hfits ⊢
        have hbefore : (books rt L).lamports (rt.depositKey nodeId) =
            (L (rt.depositKey nodeId)).lamports := rfl
        rw [hbefore] at prefunded
        omega
      | _ => cases ‹call.data = _›.symm.trans hdata

/-- A deposit pays the first leaf of the epoch's debt, and keeps its rent. -/
theorem deposits_debited_legitimately_epoch :
    ∃ (h : History) (L L' : RevenueLedger) (p : SolanaValidatorDeposit) (rem : List (BitVec 8))
      (kd : Pubkey) (d d' : Distribution) (drem drem' : List (BitVec 8)),
      LedgerRun (Sample.runtime Sample.debts Sample.shares) (Sample.genesis 1000 700) h L ∧
      Step (Sample.runtime Sample.debts Sample.shares)
        (Sample.payDebt 0 100 Sample.depositA).label L L' ∧
      view ID L Sample.depositA = some (p, rem) ∧ p.nodeId = Sample.nodeA ∧
      Sample.rent.minimumBalance (L Sample.depositA).data.dataLen ≤
        (L Sample.depositA).lamports ∧
      (L' Sample.depositA).lamports + 100 = (L Sample.depositA).lamports ∧
      view ID L kd = some (d, drem) ∧ view ID L' kd = some (d', drem') ∧
      Verifies (Sample.runtime Sample.debts Sample.shares) d.solanaValidatorDebtMerkleRoot 0
        (.solanaValidatorDebt ⟨Sample.nodeA, 100⟩) ∧
      0 ∉ d.processedDebt drem ∧ 0 ∈ d'.processedDebt drem' := by
  obtain ⟨h, L, L', hrun, hstep, hP⟩ := Sample.exists_step_of_replay Sample.debts Sample.shares
    1000 700 (Sample.opening ++ [Sample.openEpoch, Sample.configureDebt 2 150, Sample.finalizeDebt])
    (Sample.payDebt 0 100 Sample.depositA) (P := fun _ L L' =>
      (view (T := SolanaValidatorDeposit) ID L Sample.depositA).any (fun x =>
        x.1.nodeId = Sample.nodeA) ∧
      (L' Sample.depositA).lamports < (L Sample.depositA).lamports)
    (by decide +kernel) (by decide +kernel)
  obtain ⟨hany, hlt⟩ := of_decide_eq_true hP
  obtain ⟨⟨p, rem⟩, hp, hnode⟩ := (Option.any_eq_true _ _).1 hany
  have hnode : p.nodeId = Sample.nodeA := of_decide_eq_true hnode
  obtain ⟨hrent, hdebited⟩ :=
    (deposits_debited_legitimately (Sample.genesis_unused 1000 700) hrun).1 _ p rem hp
  rcases hdebited _ L' hstep hlt with
    ⟨call, amount, proof, leafIndex, hcall, hdata, hindex, hpaid, kd, d, d', drem, drem', hd, hd',
      -, hverifies, hpending, hprocessed⟩ | ⟨call, hcall, hdata, -⟩
  · cases hcall
    cases hdata
    cases hindex
    rw [hnode] at hverifies
    exact ⟨h, L, L', p, rem, kd, d, d', drem, drem', hrun, hstep, hp, hnode, hrent, hpaid, hd, hd',
      hverifies, hpending, hprocessed⟩
  · cases hcall
    cases hdata

end DoubleZero.Revenue
