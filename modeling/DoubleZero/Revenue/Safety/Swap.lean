import DoubleZero.Revenue.Trace
import DoubleZero.Revenue.Safety.Pool

/-!
# The ledger of swapped 2Z

A withdrawal of SOL credits the journal with 2Z it never sees arrive: it takes the amount from its
last sibling. In every trace the credit is backed, because the sibling is a transfer that nobody
looked at before, and `pendingCredit` is the 2Z it brought.
-/

namespace DoubleZero.Revenue

open DoubleZero.Lib DoubleZero.Solana

/-- The swap program returns no more 2Z than the journal counts. -/
def ReturnsWithin (rt : Runtime) (x : Entry Trace TraceLabel) : Prop :=
  ∀ call, x.label = .call call → call.data = .sweepDistributionTokens →
    ∀ (j : Journal) (jrem : List (BitVec 8)), view ID x.before.ledger rt.journalKey = some (j, jrem) →
      ∀ L programId returnData solAmount token2zAmount rest,
        call.env.cpi x.before.ledger = .ok (L, some (programId, returnData)) →
        decodeReturnData returnData = some (solAmount, token2zAmount, rest) →
          token2zAmount ≤ j.swap2zDestinationBalance

/-- The 2Z that the next withdrawal could be credited with. -/
def pendingCredit (rt : Runtime) : Option (Nat × SiblingInstruction) → Nat
  | some (_, ix) =>
    if ix.programId = tokenProgramId ∧ ix.accounts[1]? = some DOUBLEZERO_MINT_KEY ∧
        ix.accounts[2]? = some rt.swapDestinationKey then (ix.transferChecked.getD 0).toNat
    else 0
  | none => 0

section

variable {rt : Runtime} {L₀ L L' : RevenueLedger} {T T' : Trace} {l : TraceLabel}
  {call : Call} {h : TraceHistory} {amount : UInt64} {n p : Nat}

/-- Nothing but a transfer brings anything. -/
theorem pendingCredit_of_other {ix : SiblingInstruction}
    (hother : ix.programId = tokenProgramId → ix.transferChecked = none) :
    pendingCredit rt (some (n, ix)) = 0 := by
  show (if _ then _ else _) = _
  split
  · next h =>
    rw [hother h.1]
    rfl
  · rfl

theorem pendingCredit_of_credits {ix : SiblingInstruction} (h : ix.Credits rt amount) :
    pendingCredit rt (some (n, ix)) = amount.toNat := by
  obtain ⟨hprogram, htransfer, hmint, htarget⟩ := h
  show (if _ then _ else _) = _
  rw [if_pos ⟨hprogram, hmint, htarget⟩, htransfer]
  rfl

/-- What a call is credited with is what its last sibling brought. -/
theorem credits_le (hsibling : call.env.sibling = T.frames.last.map Prod.snd)
    (hcredits : call.Credits rt amount) : amount.toNat ≤ pendingCredit rt T.frames.last := by
  obtain ⟨ix, hix, hcredits⟩ := hcredits
  obtain ⟨⟨n, ix⟩, hlast, rfl⟩ := Option.map_eq_some_iff.1 (hsibling.symm.trans hix)
  rw [hlast, pendingCredit_of_credits hcredits]

theorem SwapBooked.others (h : SwapBooked rt (books rt L) p) (hforeign : Foreign rt L L')
    (htokens : KeepsTokens rt L L') : SwapBooked rt (books rt L') p := by
  have hkeeps : (books rt L).KeepsTokens rt (books rt L') := htokens
  refine h.foreign (books_foreign hforeign).entry_eq fun n hn => ?_
  obtain ⟨gift, hgift⟩ := hkeeps.swap n hn
  exact ⟨gift, hgift, Nat.le_add_right _ _⟩

/-- A transfer to the swap destination arrives there. -/
theorem swapHolds_transfer {source authority : Pubkey}
    (hsigned : ¬Derived rt authority) (hn : (books rt L).SwapHolds rt n)
    (hmoved : Token.transfer [authority] source rt.swapDestinationKey authority amount L = .ok L') :
    (books rt L').SwapHolds rt (n + amount.toNat) := by
  obtain ⟨c, hc, howner, rfl⟩ := hn
  obtain ⟨a, b, ha, hb, -, -, hauthority, -, hcase⟩ := Token.transfer_eq_ok.1 hmoved
  cases hb.symm.trans hc
  obtain ⟨hsame, -⟩ | ⟨-, hfits, rfl⟩ := hcase
  · subst hsame
    cases ha.symm.trans hc
    exact absurd (howner.symm.trans hauthority ▸ Runtime.derived_find _) hsigned
  · refine ⟨{ c with amount := c.amount + amount }, ?_, howner, toNat_add_of_lt hfits⟩
    exact Token.unpack_eq_some.2 ⟨by simpa using (Token.unpack_eq_some.1 hb).1, by simp⟩

theorem SwapBooked.transferred {source mint target authority : Pubkey} {extra : List Pubkey}
    (h : SwapBooked rt (books rt L) p) (hsigned : ¬Derived rt authority)
    (hmoved : Token.transfer [authority] source target authority amount L = .ok L') :
    SwapBooked rt (books rt L') (pendingCredit rt
      (some (n, transferCheckedInstruction source mint target extra amount))) := by
  have hforeign : Foreign rt L L' := tokenTransfer_foreign hmoved
  have htokens : KeepsTokens rt L L' := tokenTransfer_keepsTokens hsigned hmoved
  by_cases hcredits : (transferCheckedInstruction source mint target extra amount).Credits rt amount
  · rw [pendingCredit_of_credits hcredits]
    obtain ⟨-, -, -, htarget⟩ := hcredits
    cases htarget
    refine h.foreign (books_foreign hforeign).entry_eq fun n hn => ?_
    exact ⟨_, swapHolds_transfer hsigned hn hmoved, Nat.le_add_left _ _⟩
  · have hnone : pendingCredit rt
        (some (n, transferCheckedInstruction source mint target extra amount)) = 0 := if_neg ?_
    · rw [hnone]
      exact (h.others hforeign htokens).mono (Nat.zero_le _)
    rintro ⟨hprogram, hmint, htarget⟩
    exact hcredits ⟨hprogram, rfl, hmint, htarget⟩

/-- A sweep within what the journal counts takes off no more than that. -/
theorem balance_le_of_sweep (hc : Canonical rt L) (hstep : Step rt (.call call) L L')
    (hdata : call.data = .sweepDistributionTokens)
    (hwithin : ReturnsWithin rt ⟨⟨L, T.frames⟩, .call call, T'⟩) :
    (books rt L').journal.swap2zDestinationBalance ≤
      (books rt L).journal.swap2zDestinationBalance := by
  cases hstep with
  | call hadmissible hprocess =>
    obtain ⟨r, hr, rfl⟩ := process_eq_ok.1 hprocess
    unfold tryProcessInstruction at hr
    rw [hdata] at hr
    obtain ⟨-, d, rem, d', j, jrem, j', -, -, -, -, hj, hj', hdequeued⟩ :=
      trySweepDistributionTokens_dequeued hc hadmissible hdata hr
    rw [Books.journal_eq hj, Books.journal_eq hj']
    cases hdequeued with
    | nothing => exact UInt64.le_refl _
    | @fills totalSolDebt token2zAmount rest L₁ programId returnData b₂ debt nonzero enough cpi
        decoded =>
      have hle := hwithin call rfl hdata j jrem (view_eq_stateAt.2 hj) L₁ programId returnData
        totalSolDebt token2zAmount rest cpi decoded
      rw [UInt64.le_iff_toNat_le, toNat_sub_of_le hle]
      exact Nat.sub_le _ _

theorem TraceStep.swapBooked {h' : History} (hg : Genesis rt L₀)
    (hrun : LedgerRun rt L₀ h' T.ledger) (hs : TraceStep rt l T T')
    (hwithin : ReturnsWithin rt ⟨T, l, T'⟩)
    (h : SwapBooked rt (books rt T.ledger) (pendingCredit rt T.frames.last)) :
    SwapBooked rt (books rt T'.ledger) (pendingCredit rt T'.frames.last) := by
  cases hs with
  | enter => exact h.mono (Nat.zero_le _)
  | finish => exact h.mono (Nat.zero_le _)
  | work foreign tokens => exact h.others foreign tokens
  | leave inner caller =>
    refine h.mono ?_
    rw [Frames.last_leave, pendingCredit_of_other (absurd · caller)]
    exact Nat.zero_le _
  | @instruction _ L' ix other foreign tokens =>
    refine (h.others foreign tokens).mono ?_
    rw [Frames.last_complete, pendingCredit_of_other other]
    exact Nat.zero_le _
  | transferChecked sent checked signed moved => exact h.transferred signed moved
  | @call _ L' call sibling step spares =>
    obtain ⟨hc, hbooks⟩ := hrun.books hg
    obtain ⟨-, hbookStep⟩ := step_refines hc step
    rw [Frames.last_complete, pendingCredit_of_other (fun _ => rfl)]
    cases hbookStep with
    | call ht =>
      refine ht.swapBooked (BooksRun.finite hbooks hg.books_empty).1
        (fun hd => BooksRun.valid hbooks hg.books_empty hd) spares
        (fun amount hcredits => credits_le sibling hcredits) (fun hdata => ?_) h
      exact balance_le_of_sweep hc step hdata hwithin

theorem TraceRun.swapBooked (hg : Genesis rt L₀) (hrun : TraceRun rt L₀ h T)
    (hwithin : ∀ x ∈ h, ReturnsWithin rt x) :
    SwapBooked rt (books rt T.ledger) (pendingCredit rt T.frames.last) := by
  refine hrun.history (P := fun h T => (∀ x ∈ h, ReturnsWithin rt x) →
    SwapBooked rt (books rt T.ledger) (pendingCredit rt T.frames.last)) ?_ ?_ hwithin
  · exact fun _ => .of_empty hg.books_empty
  · intro h T l T' hr ih hs hwithin
    obtain ⟨h', hledger⟩ := TraceRun.ledgerRun hr
    exact hs.swapBooked hg hledger (hwithin _ List.mem_cons_self)
      (ih fun x hx => hwithin x (List.mem_cons_of_mem _ hx))

/-- A withdrawal is credited with what a transfer of the trace brought to the swap destination. -/
theorem TraceRun.credits (hrun : TraceRun rt L₀ h T) {x : Entry Trace TraceLabel} (hx : x ∈ h)
    (hlabel : x.label = .call call) (hdata : call.data = .withdrawSol amount) (hg : Genesis rt L₀) :
    ∃ n ix transferAmount, creditedBy x = some n ∧ ix.Credits rt transferAmount ∧
      NumbersTransfer h n ix := by
  obtain ⟨h₁, hsub, hrun₁, hs⟩ := hrun.of_mem hx
  rw [hlabel] at hs
  obtain ⟨h', hledger⟩ := TraceRun.ledgerRun hrun₁
  obtain ⟨hc, -⟩ := LedgerRun.books hg hledger
  generalize hT : x.after = T' at hs
  cases hs with
  | call sibling step spares =>
    obtain ⟨-, hbookStep⟩ := step_refines hc step
    cases hbookStep with
    | call ht =>
      obtain ⟨transferAmount, ix, hix, hcredits⟩ := ht.credits hdata
      obtain ⟨⟨n, ix⟩, hlast, rfl⟩ := Option.map_eq_some_iff.1 (sibling.symm.trans hix)
      obtain ⟨y, hy, hnumber⟩ := TraceRun.lastNumbered hrun₁ n ix transferAmount hlast hcredits.1
        hcredits.2.1
      refine ⟨n, ix, transferAmount, ?_, hcredits, y, hsub hy, hnumber⟩
      simp [creditedBy, hlabel, hdata, hlast]

end

/-! ## On the ledger -/

theorem swap_ledger_counts_transfers_once {rt : Runtime} {L₀ : RevenueLedger} {h : TraceHistory}
    {T : Trace} (hg : Genesis rt L₀) (hrun : TraceRun rt L₀ h T)
    (hwithin : ∀ x ∈ h, ReturnsWithin rt x) :
    (∀ (j : Journal) (jrem : List (BitVec 8)), view ID T.ledger rt.journalKey = some (j, jrem) →
      (FiniteMap fun k => view (T := Distribution) ID T.ledger k) ∧
      j.lifetimeSwapped2zAmount.toNat = j.swap2zDestinationBalance.toNat +
        accountTotal Distribution T.ledger (fun x => x.1.collected2zConvertedFromSol.toNat) ∧
      j.swap2zDestinationBalance ≤ Token.balance T.ledger rt.swapDestinationKey) ∧
    (credited h).Nodup ∧ (transferNumbers h).Nodup ∧
    ∀ x ∈ h, ∀ (call : Call) (amount : UInt64), x.label = .call call →
      call.data = .withdrawSol amount → ∃ n ix transferAmount, creditedBy x = some n ∧
        ix.Credits rt transferAmount ∧ NumbersTransfer h n ix := by
  refine ⟨fun j jrem hview => ?_, (TraceRun.used hrun).nodup, TraceRun.transferNumbers_nodup hrun,
    fun x hx call amount hlabel hdata => TraceRun.credits hrun hx hlabel hdata hg⟩
  obtain ⟨h', hledger⟩ := TraceRun.ledgerRun hrun
  obtain ⟨hc, hbooks⟩ := LedgerRun.books hg hledger
  have hj : (books rt T.ledger).entry .journal = some (.journal j, jrem) := (hc.of_view hview).2.1
  have hbooked := TraceRun.swapBooked hg hrun hwithin
  have hcounted := hbooked.counted
  rw [Books.journal_eq hj] at hcounted
  refine ⟨hc.finite_dists (BooksRun.finite hbooks hg.books_empty).1, ?_, ?_⟩
  · rw [hc.distTotal_eq]
    exact hcounted
  · by_cases hopen : (books rt T.ledger).config.swapAuthorityBumpSeed = 0
    · have hzero := hbooked.closed hopen
      rw [Books.journal_eq hj] at hzero
      rw [hzero]
      exact UInt64.zero_le
    · obtain ⟨n, ⟨a, ha, -, rfl⟩, hbacked⟩ := hbooked.backed hopen
      have ha : Token.unpack T.ledger rt.swapDestinationKey = some a := ha
      rw [Books.journal_eq hj] at hbacked
      rw [Token.balance_eq ha, UInt64.le_iff_toNat_le]
      exact (Nat.le_add_right _ _).trans hbacked

/-- `ReturnsWithin`, checked. -/
def returnsWithin (rt : Runtime) (x : Entry Trace TraceLabel) : Bool :=
  match x.label with
  | .call call =>
    match call.env.cpi x.before.ledger with
    | .ok (_, some (_, returnData)) => (decodeReturnData returnData).all fun r =>
        (view (T := Journal) ID x.before.ledger rt.journalKey).all fun s =>
          r.2.1 ≤ s.1.swap2zDestinationBalance
    | _ => true
  | _ => true

theorem returnsWithin_elim {rt : Runtime} {x : Entry Trace TraceLabel}
    (h : returnsWithin rt x = true) : ReturnsWithin rt x := by
  intro call hlabel _ j jrem hj L programId returnData solAmount token2zAmount rest hcpi hdecoded
  simpa [returnsWithin, hlabel, hcpi, hdecoded, hj] using h

/-- A purchase is made by the swap program. -/
def Sample.purchase (token2zAmount solAmount : UInt64) : List TraceEvent :=
  TraceEvent.invoked Sample.swapProgram ((Sample.swap token2zAmount solAmount).map .event)

/-- A program through which SOL is bought in parts. -/
def Sample.router : Pubkey := ⟨32⟩

def Sample.purchases : List TraceEvent :=
  TraceEvent.invoked Sample.router (Sample.purchase 300 60 ++ Sample.purchase 400 40)

def Sample.nestedEpoch : List TraceEvent :=
  Sample.unswapped.map .event ++ Sample.purchases ++ [.event (Sample.sweep 100 700)]

/-- `byOutsider`, for the events of a trace. -/
def Sample.tracedByOutsider : TraceEvent → Bool
  | .event e => Sample.byOutsider e
  | .enter => true
  | .leave _ => true

theorem Sample.nestedEpoch_unsigned :
    ∀ e ∈ Sample.nestedEpoch, e.Unsigned (Sample.runtime Sample.debts Sample.shares) := by
  have houtsider : Sample.nestedEpoch.all Sample.tracedByOutsider = true := by decide +kernel
  intro e he
  have he := List.all_eq_true.1 houtsider e he
  cases e with
  | event e => exact Sample.unsigned_of_byOutsider he
  | enter => trivial
  | leave ix => trivial

/-- Two transfers, of 300 and 400 2Z, in frames of their own. Each withdrawal of SOL is credited
with the one before it, and a sweep takes out both. -/
theorem swap_ledger_counts_transfers_once_epoch :
    ∃ (h : TraceHistory) (T : Trace) (j : Journal) (jrem : List (BitVec 8)),
      TraceRun (Sample.runtime Sample.debts Sample.shares) (Sample.genesis 1000 700) h T ∧
      view ID T.ledger Sample.journal = some (j, jrem) ∧ j.lifetimeSwapped2zAmount.toNat = 700 ∧
      j.lifetimeSwapped2zAmount.toNat = j.swap2zDestinationBalance.toNat +
        accountTotal Distribution T.ledger (fun x => x.1.collected2zConvertedFromSol.toNat) ∧
      (∃ x ∈ h, x.before.frames.stack.length = 3 ∧ (creditedBy x).isSome) ∧
      (transferNumbers h).length = 2 ∧ credited h = transferNumbers h ∧ (credited h).Nodup := by
  have hreplay : (replayTrace (Sample.runtime Sample.debts Sample.shares) Sample.nestedEpoch
      ([], ⟨Sample.genesis 1000 700, .initial⟩)).any (fun s =>
        s.1.all (returnsWithin (Sample.runtime Sample.debts Sample.shares)) ∧
        s.1.any (fun x => x.before.frames.stack.length = 3 ∧ (creditedBy x).isSome) ∧
        (transferNumbers s.1).length = 2 ∧ credited s.1 = transferNumbers s.1 ∧
        (view (T := Journal) ID s.2.ledger Sample.journal).any fun x =>
          x.1.lifetimeSwapped2zAmount.toNat = 700) = true := by decide +kernel
  obtain ⟨⟨h, T⟩, hreplay, hP⟩ := (Option.any_eq_true _ _).1 hreplay
  obtain ⟨hwithin, hnested, htransfers, hcredited, hjournal⟩ := of_decide_eq_true hP
  obtain ⟨x, hx, hinner⟩ := List.any_eq_true.1 hnested
  obtain ⟨⟨j, jrem⟩, hj, hlifetime⟩ := (Option.any_eq_true _ _).1 hjournal
  have hrun : TraceRun _ _ h T := .of_replay .start Sample.nestedEpoch_unsigned hreplay
  obtain ⟨hbooked, hnodup, -⟩ := swap_ledger_counts_transfers_once
    (Sample.genesis_unused 1000 700) hrun
    fun x hx => returnsWithin_elim (List.all_eq_true.1 hwithin x hx)
  exact ⟨h, T, j, jrem, hrun, hj, of_decide_eq_true hlifetime, (hbooked j jrem hj).2.1,
    ⟨x, hx, of_decide_eq_true hinner⟩, htransfers, hcredited, hnodup⟩

end DoubleZero.Revenue
