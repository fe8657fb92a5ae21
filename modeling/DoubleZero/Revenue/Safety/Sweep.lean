import DoubleZero.Revenue.Invariant.Pool
import DoubleZero.Revenue.Replay

/-!
# The books of a sweep

A sweep checks the SOL it takes off the journal before it asks the swap program, and the amount of
SOL that comes back. The 2Z that comes back is only checked by the transfer that follows, against
what the swap destination really holds. The count the journal keeps of it wraps when the swap
destination holds more than is counted and the swap program returns more than is counted.
-/

namespace DoubleZero.Revenue

open DoubleZero.Lib DoubleZero.Solana

/-- The answer of the swap program to a sweep: the 2Z it returned, and the ledger it left. It is not
asked when there is no net debt. -/
def Call.Answered (call : Call) (L : RevenueLedger) (netDebt returned : UInt64)
    (L₁ : RevenueLedger) : Prop :=
  (netDebt = 0 ∧ returned = 0 ∧ L₁ = L) ∨
    (netDebt ≠ 0 ∧ ∃ programId returnData rest,
      call.env.cpi L = .ok (L₁, some (programId, returnData)) ∧
      decodeReturnData returnData = some (netDebt, returned, rest))

/-- The journal is charged what the sweep took, and the distribution has what it received. -/
structure SweptExactly (j j' : Journal) (d' : Distribution)
    (netDebt returned balanceBefore balanceAfter : UInt64) : Prop where
  charged2z : j'.swap2zDestinationBalance.toNat + returned.toNat =
    j.swap2zDestinationBalance.toNat
  chargedSol : j'.swappedSolAmount.toNat + netDebt.toNat = j.swappedSolAmount.toNat
  received : balanceAfter.toNat =
    balanceBefore.toNat + d'.collected2zConvertedFromSol.toNat

section

variable {rt : Runtime} {call : Call} {L L' : RevenueLedger} {d d' : Distribution}
  {j j' : Journal}

theorem Dequeued.sweptExactly_iff (h : Dequeued rt call L L' d j d' j')
    (hnone : d.collected2zConvertedFromSol = 0) : ∃ netDebt returned L₁,
      d.checkedTotalSolDebt = some netDebt ∧ call.Answered L netDebt returned L₁ ∧
        (SweptExactly j j' d' netDebt returned (Token.balance L₁ (rt.poolKey d.dzEpoch))
            (Token.balance L' (rt.poolKey d.dzEpoch)) ↔
          returned ≤ j.swap2zDestinationBalance) := by
  cases h with
  | nothing zero tokens =>
    refine ⟨0, 0, L, zero, .inl ⟨rfl, rfl, rfl⟩, fun _ => UInt64.zero_le, fun _ => ⟨rfl, rfl, ?_⟩⟩
    have hsame : Token.unpack L' (rt.poolKey d.dzEpoch) = Token.unpack L (rt.poolKey d.dzEpoch) :=
      congrFun tokens _
    have hbalance : Token.balance L' (rt.poolKey d.dzEpoch) =
        Token.balance L (rt.poolKey d.dzEpoch) := by
      rw [Token.balance, hsame, Token.balance]
    have hzero : (d.setHasSwept2zTokens true).collected2zConvertedFromSol = 0 := hnone
    rw [hbalance, hzero]
    rfl
  | @fills netDebt returned rest L₁ programId returnData b₂ debt nonzero enough cpi decoded transfer
      tokens =>
    refine ⟨netDebt, returned, L₁, debt, .inr ⟨nonzero, _, _, _, cpi, decoded⟩, ?_⟩
    obtain ⟨a, a', ha, ha', -, -, hamount⟩ :=
      transfer.target_eq (Runtime.swapDestinationKey_ne_poolKey _)
    have ha : Token.unpack L₁ (rt.poolKey d.dzEpoch) = some a := ha
    have ha' : Token.unpack L' (rt.poolKey d.dzEpoch) = some a' := (congrFun tokens _).trans ha'
    rw [Token.balance_eq ha, Token.balance_eq ha', ← toNat_sub_add_eq_iff]
    exact ⟨fun h => h.charged2z, fun h => ⟨h, toNat_sub_add_eq_iff.2 enough, hamount⟩⟩

end

/-! ## On the ledger -/

theorem sweep_exact_iff_returned_le {rt : Runtime} {L₀ L L' : RevenueLedger} {h : History}
    {call : Call} (hg : Genesis rt L₀) (hrun : LedgerRun rt L₀ h L)
    (hdata : call.data = .sweepDistributionTokens) (hstep : Step rt (.call call) L L') :
    ∃ (k : Pubkey) (d d' : Distribution) (rem rem' : List (BitVec 8)) (j j' : Journal)
      (jrem jrem' : List (BitVec 8)) (netDebt returned : UInt64) (L₁ : RevenueLedger),
      call.key? 1 = some k ∧ view ID L k = some (d, rem) ∧ view ID L' k = some (d', rem') ∧
      view ID L rt.journalKey = some (j, jrem) ∧ view ID L' rt.journalKey = some (j', jrem') ∧
      d.checkedTotalSolDebt = some netDebt ∧ call.Answered L netDebt returned L₁ ∧
      (SweptExactly j j' d' netDebt returned
          (Token.balance L₁ (rt.find2zTokenPdaAddress k).1)
          (Token.balance L' (rt.find2zTokenPdaAddress k).1) ↔
        returned ≤ j.swap2zDestinationBalance) := by
  obtain ⟨hc, hbooks⟩ := hrun.books hg
  cases hstep with
  | call hadmissible hprocess =>
    obtain ⟨r, hr, rfl⟩ := process_eq_ok.1 hprocess
    unfold tryProcessInstruction at hr
    rw [hdata] at hr
    obtain ⟨-, d, rem, d', j, jrem, j', hkey, has, hunswept, has', hj, hj', hdequeued⟩ :=
      trySweepDistributionTokens_dequeued hc hadmissible hdata hr
    obtain ⟨hnone, -⟩ := (hbooks.valid hg.books_empty has).booked.unswept hunswept
    obtain ⟨netDebt, returned, L₁, hdebt, hanswered, hiff⟩ := hdequeued.sweptExactly_iff hnone
    have hepoch : d'.dzEpoch = d.dzEpoch := by cases hdequeued <;> rfl
    refine ⟨rt.distributionKey d.dzEpoch, d, d', rem, rem, j, j', jrem, jrem, netDebt, returned, L₁,
      hkey, view_eq_stateAt.2 has, ?_, view_eq_stateAt.2 hj, view_eq_stateAt.2 hj', hdebt, hanswered,
      hiff⟩
    rw [← hepoch]
    exact view_eq_stateAt.2 has'

/-- The sweep of the epoch takes off what is counted. -/
theorem sweep_exact_iff_returned_le_epoch :
    ∃ (h : History) (L L' : RevenueLedger) (j j' : Journal) (d' : Distribution)
      (jrem jrem' rem' : List (BitVec 8)) (L₁ : RevenueLedger),
      LedgerRun (Sample.runtime Sample.debts Sample.shares) (Sample.genesis 1000 700) h L ∧
      Step (Sample.runtime Sample.debts Sample.shares) (Sample.sweep 100 700).label L L' ∧
      view ID L Sample.journal = some (j, jrem) ∧ view ID L' Sample.journal = some (j', jrem') ∧
      view ID L' Sample.distribution = some (d', rem') ∧
      SweptExactly j j' d' 100 700 (Token.balance L₁ Sample.pool) (Token.balance L' Sample.pool) := by
  obtain ⟨h, L, L', hrun, hstep, hP⟩ := Sample.exists_step_of_replay Sample.debts Sample.shares 1000 700
    Sample.settled (Sample.sweep 100 700) (P := fun _ L _ =>
      (view (T := Journal) ID L Sample.journal).any (fun x => x.1.swap2zDestinationBalance = 700) ∧
      (view (T := Distribution) ID L Sample.distribution).any fun x =>
        x.1.checkedTotalSolDebt = some 100) (by decide +kernel) (by decide +kernel)
  obtain ⟨hjournal, hdist⟩ := of_decide_eq_true hP
  obtain ⟨⟨j₀, jrem₀⟩, hj₀, hbalance⟩ := (Option.any_eq_true _ _).1 hjournal
  obtain ⟨⟨d₀, rem₀⟩, hd₀, hnet⟩ := (Option.any_eq_true _ _).1 hdist
  have hbalance : j₀.swap2zDestinationBalance = 700 := of_decide_eq_true hbalance
  have hnet : d₀.checkedTotalSolDebt = some 100 := of_decide_eq_true hnet
  obtain ⟨k, d, d', rem, rem', j, j', jrem, jrem', netDebt, returned, L₁, hkey, hd, hd', hj, hj',
    hdebt, hanswered, hiff⟩ := sweep_exact_iff_returned_le (Sample.genesis_unused 1000 700) hrun rfl
      hstep
  obtain rfl : k = Sample.distribution := (Option.some.inj hkey).symm
  have hj : view ID L Sample.journal = some (j, jrem) := hj
  have hj' : view ID L' Sample.journal = some (j', jrem') := hj'
  cases hd₀.symm.trans hd
  cases hj₀.symm.trans hj
  cases hnet.symm.trans hdebt
  rcases hanswered with ⟨hzero, -, -⟩ | ⟨-, programId, returnData, rest, hcpi, hdecoded⟩
  · exact absurd hzero (by decide)
  · cases hcpi
    have hreturned : decodeReturnData (Sample.leBytes 100 ++ Sample.leBytes 700 ++
      Sample.leBytes 1) = some (100, 700, 1) := by decide
    cases hreturned.symm.trans hdecoded
    refine ⟨h, L, L', j₀, j', d', jrem₀, jrem', rem', L, hrun, hstep, hj, hj', hd', hiff.2 ?_⟩
    rw [hbalance]
    exact UInt64.le_refl _

/-- Somebody sends 300 2Z to the swap destination, and the swap program returns all of it. The
journal counts 700, and is left with the wrapped difference. -/
theorem sweep_wraps_balance :
    ∃ (h : History) (L L' : RevenueLedger) (j j' : Journal) (jrem jrem' : List (BitVec 8)),
      LedgerRun (Sample.runtime Sample.debts Sample.shares) (Sample.genesis 1000 1000) h L ∧
      Step (Sample.runtime Sample.debts Sample.shares) (Sample.sweep 100 1000).label L L' ∧
      view ID L Sample.journal = some (j, jrem) ∧ view ID L' Sample.journal = some (j', jrem') ∧
      j.swap2zDestinationBalance.toNat = 700 ∧
      j'.swap2zDestinationBalance.toNat = 2 ^ 64 - 300 ∧
      ∀ (d' : Distribution) (netDebt before after : UInt64),
        ¬SweptExactly j j' d' netDebt 1000 before after := by
  obtain ⟨h, L, L', hrun, hstep, hP⟩ := Sample.exists_step_of_replay Sample.debts Sample.shares 1000
    1000 (Sample.settled ++
      [.outside (.tokens Sample.buyerToken Sample.swapDestination Sample.buyer 300)])
    (Sample.sweep 100 1000) (P := fun _ L L' =>
      (view (T := Journal) ID L Sample.journal).any (fun x =>
        x.1.swap2zDestinationBalance.toNat = 700) ∧
      (view (T := Journal) ID L' Sample.journal).any fun x =>
        x.1.swap2zDestinationBalance.toNat = 2 ^ 64 - 300) (by decide +kernel) (by decide +kernel)
  obtain ⟨hbefore, hafter⟩ := of_decide_eq_true hP
  obtain ⟨⟨j, jrem⟩, hj, hbalance⟩ := (Option.any_eq_true _ _).1 hbefore
  obtain ⟨⟨j', jrem'⟩, hj', hbalance'⟩ := (Option.any_eq_true _ _).1 hafter
  have hbalance : j.swap2zDestinationBalance.toNat = 700 := of_decide_eq_true hbalance
  have hbalance' : j'.swap2zDestinationBalance.toNat = 2 ^ 64 - 300 := of_decide_eq_true hbalance'
  refine ⟨h, L, L', j, j', jrem, jrem', hrun, hstep, hj, hj', hbalance, hbalance', ?_⟩
  intro d' netDebt before after hexact
  have hcharged := hexact.charged2z
  omega

end DoubleZero.Revenue
