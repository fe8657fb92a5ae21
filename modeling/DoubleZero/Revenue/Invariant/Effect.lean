import DoubleZero.Revenue.Invariant.Dist
import DoubleZero.Revenue.Invariant.Frame

/-!
# What a step does to the distributions

`DistEffect` sorts the transitions by what they do to the distributions: nothing, create one, take
one through a step, write off a debt of one and book it on another, or migrate some. `SolEffect`
adds what goes with it in the journal and the deposits. Invariants of single distributions, and of
the totals over all of them, follow without looking at the instructions again.

`Label.Takes` ties the steps to the call: which leaf it settles, and what it pays or writes off.
-/

namespace DoubleZero.Revenue

open DoubleZero.Lib DoubleZero.Solana

/-! ## Entries under their own identity -/

def Books.Proper (b : Books) : Prop := ∀ i s rem, b.entry i = some (s, rem) → s.identity = i

namespace Books.Proper

variable {b : Books} {rem : List (BitVec 8)}

theorem set {s : AccountState} {i : Identity} (h : b.Proper) (hs : s.identity = i) :
    (b.set i s rem).Proper := by
  intro j s' rem' he
  rw [Books.set_entry] at he
  split at he
  · next hj => cases he; rw [hj, hs]
  · exact h j s' rem' he

theorem setDist {d : Distribution} (h : b.Proper) : (b.setDist d rem).Proper := h.set rfl

theorem of_entry_eq {b' : Books} (he : b'.entry = b.entry) (h : b.Proper) : b'.Proper := by
  intro i s rem hs
  rw [he] at hs
  exact h i s rem hs

theorem setToken {k : Pubkey} {a : TokenAccount} (h : b.Proper) : (b.setToken k a).Proper := h

theorem withLamports {lamports : Pubkey → Nat} (h : b.Proper) :
    Books.Proper { b with lamports := lamports } := h

/-- What is under the identity of a distribution is that distribution. -/
theorem dist {s : AccountState} {e : DoubleZeroEpoch} (h : b.Proper)
    (he : b.entry (.distribution e) = some (s, rem)) :
    ∃ d, s = .distribution d ∧ d.dzEpoch = e ∧ b.HasDist d rem := by
  have hid := h _ _ _ he
  cases s with
  | distribution d =>
    cases hid
    exact ⟨d, rfl, rfl, he⟩
  | _ => simp [AccountState.identity] at hid

theorem deposit {s : AccountState} {n : Pubkey} (h : b.Proper)
    (he : b.entry (.deposit n) = some (s, rem)) :
    ∃ p : SolanaValidatorDeposit, s = .solanaValidatorDeposit p ∧ p.nodeId = n := by
  have hid := h _ _ _ he
  cases s with
  | solanaValidatorDeposit p => exact ⟨p, rfl, Identity.deposit.inj hid⟩
  | _ => simp [AccountState.identity] at hid

theorem journal {s : AccountState} (h : b.Proper) (he : b.entry .journal = some (s, rem)) :
    ∃ j, s = .journal j := by
  have hid := h _ _ _ he
  cases s with
  | journal j => exact ⟨j, rfl⟩
  | _ => simp [AccountState.identity] at hid

end Books.Proper

/-! ## Reading the books -/

namespace Books

/-- The distribution of an epoch. -/
def distAt (b : Books) (e : DoubleZeroEpoch) : Option DistState :=
  match b.entry (.distribution e) with
  | some (.distribution d, rem) => some (d, rem)
  | _ => none

def depositAt (b : Books) (nodeId : Pubkey) : Option SolanaValidatorDeposit :=
  match b.entry (.deposit nodeId) with
  | some (.solanaValidatorDeposit p, _) => some p
  | _ => none

/-- The journal, or a blank one before there is one. -/
def journal (b : Books) : Journal :=
  match b.entry .journal with
  | some (.journal j, _) => j
  | _ => default

variable {b b' : Books} {d : Distribution} {p : SolanaValidatorDeposit} {j : Journal}
  {rem : List (BitVec 8)}

theorem HasDist.distAt (h : b.HasDist d rem) : b.distAt d.dzEpoch = some (d, rem) := by
  unfold Books.distAt
  rw [h]

theorem journal_eq (h : b.entry .journal = some (.journal j, rem)) : b.journal = j := by
  unfold journal
  rw [h]

theorem depositAt_eq {n : Pubkey} (h : b.entry (.deposit n) = some (.solanaValidatorDeposit p, rem)) :
    b.depositAt n = some p := by
  unfold depositAt
  rw [h]

theorem distAt_congr {e : DoubleZeroEpoch}
    (h : b'.entry (.distribution e) = b.entry (.distribution e)) : b'.distAt e = b.distAt e := by
  unfold distAt
  rw [h]

theorem depositAt_congr {n : Pubkey} (h : b'.entry (.deposit n) = b.entry (.deposit n)) :
    b'.depositAt n = b.depositAt n := by
  unfold depositAt
  rw [h]

theorem journal_congr (h : b'.entry .journal = b.entry .journal) : b'.journal = b.journal := by
  unfold journal
  rw [h]

end Books

/-- Both ways of reading a distribution. -/
theorem Books.Proper.distAt {b : Books} {e : DoubleZeroEpoch} {s : DistState} (hp : b.Proper)
    (hs : b.distAt e = some s) : s.1.dzEpoch = e ∧ b.HasDist s.1 s.2 := by
  unfold Books.distAt at hs
  split at hs
  · next d rem hentry =>
    cases hs
    obtain ⟨d', hd', he, has⟩ := hp.dist hentry
    cases hd'
    exact ⟨he, has⟩
  · simp at hs

/-! ## The effect on the distributions -/

/-- The entries of the distributions are those of `b` but for one. -/
def Books.DistUpdated (b b' : Books) (d : Distribution) (rem : List (BitVec 8)) : Prop :=
  ∀ e, b'.entry (.distribution e) =
    if e = d.dzEpoch then some (.distribution d, rem) else b.entry (.distribution e)

/-- The steps that distributions take, with their epochs. -/
abbrev DistActs := List (DoubleZeroEpoch × DistAction)

inductive DistEffect (rt : Runtime) (b b' : Books) : DistActs → Prop
  | untouched (same : ∀ e, b'.entry (.distribution e) = b.entry (.distribution e)) :
      DistEffect rt b b' []
  | create {c : ProgramConfig} {j : Journal} {prepaid : UInt64} {d : Distribution}
      {jrem : List (BitVec 8)} (journal : b.entry .journal = some (.journal j, jrem))
      (new : b.entry (.distribution d.dzEpoch) = none) (initialized : Initialized rt c j prepaid d)
      (updated : b.DistUpdated b' d []) : DistEffect rt b b' []
  | step {a : DistAction} {d d' : Distribution} {rem rem' : List (BitVec 8)}
      (has : b.HasDist d rem) (step : DistStep rt a (d, rem) (d', rem'))
      (updated : b.DistUpdated b' d' rem') : DistEffect rt b b' [(d.dzEpoch, a)]
  | writeOff {d d' w w' : Distribution} {rem rem' wrem wrem' : List (BitVec 8)}
      {leafIndex : UInt32} {debt : SolanaValidatorDebt} {b₁ : Books} (has : b.HasDist d rem)
      (step : DistStep rt (.writeOff leafIndex debt) (d, rem) (d', rem'))
      (updated : b.DistUpdated b₁ d' rem') (hasBook : b₁.HasDist w wrem)
      (bookStep : DistStep rt (.book debt.amount) (w, wrem) (w', wrem'))
      (updated' : b₁.DistUpdated b' w' wrem') :
      DistEffect rt b b' [(d.dzEpoch, .writeOff leafIndex debt), (w.dzEpoch, .book debt.amount)]
  | migrate {keys : List Pubkey} {j : Journal} {jrem : List (BitVec 8)}
      (journal : b.entry .journal = some (.journal j, jrem))
      (migrated : Migrated rt keys j.integrationsCount b b') : DistEffect rt b b' []

/-! ## The effect on the SOL of the books -/

/-- The parts of the journal that keep track of SOL. -/
def Journal.SameSol (j j' : Journal) : Prop :=
  j'.totalSolBalance = j.totalSolBalance ∧ j'.swappedSolAmount = j.swappedSolAmount ∧
    j'.nextDzEpochToSweepTokens = j.nextDzEpochToSweepTokens

/-- No deposit is changed; one may be new. -/
def Books.DepositsKept (b b' : Books) : Prop :=
  (∀ n, b'.depositAt n = b.depositAt n) ∨
    ∃ n, b.depositAt n = none ∧ ∀ n', b'.depositAt n' =
      if n' = n then some { (default : SolanaValidatorDeposit) with nodeId := n }
      else b.depositAt n'

/-- Steps that move no SOL and book none. -/
def DistAction.isQuiet : DistAction → Bool
  | .pay _ _ | .writeOff _ _ | .book _ | .sweep _ _ => false
  | _ => true

/-- What a step of the books does to the distributions, the journal and the deposits, and how much
SOL it withdraws. -/
inductive SolEffect (rt : Runtime) (b b' : Books) : DistActs → Nat → Prop
  | quiet {acts : DistActs} (dists : DistEffect rt b b' acts)
      (quiet : ∀ x ∈ acts, x.2.isQuiet = true) (journal : b.journal.SameSol b'.journal)
      (deposits : b.DepositsKept b') : SolEffect rt b b' acts 0
  | pay {e : DoubleZeroEpoch} {leafIndex : UInt32} {debt : SolanaValidatorDebt}
      (dists : DistEffect rt b b' [(e, .pay leafIndex debt)])
      (journal : Journal.SameSol
        { b.journal with totalSolBalance := b.journal.totalSolBalance + debt.amount } b'.journal)
      (deposits : b.DepositsKept b') : SolEffect rt b b' [(e, .pay leafIndex debt)] 0
  | writeOff {e w : DoubleZeroEpoch} {leafIndex : UInt32} {debt : SolanaValidatorDebt}
      {p : SolanaValidatorDeposit}
      (dists : DistEffect rt b b' [(e, .writeOff leafIndex debt), (w, .book debt.amount)])
      (journal : b.journal.SameSol b'.journal) (later : e ≤ w)
      (deposit : b.depositAt p.nodeId = some p)
      (deposits : ∀ n, b'.depositAt n = if n = p.nodeId then
        some { p with writtenOffSolDebt := p.writtenOffSolDebt + debt.amount }
        else b.depositAt n) :
      SolEffect rt b b' [(e, .writeOff leafIndex debt), (w, .book debt.amount)] 0
  | sweep {solDebt token2zAmount : UInt64}
      (dists : DistEffect rt b b'
        [(b.journal.nextDzEpochToSweepTokens, .sweep solDebt token2zAmount)])
      (enough : solDebt ≤ b.journal.swappedSolAmount)
      (journal : Journal.SameSol { b.journal with
        nextDzEpochToSweepTokens := b.journal.nextDzEpochToSweepTokens.saturatingAddDuration 1
        swappedSolAmount := b.journal.swappedSolAmount - solDebt } b'.journal)
      (deposits : b.DepositsKept b') :
      SolEffect rt b b' [(b.journal.nextDzEpochToSweepTokens, .sweep solDebt token2zAmount)] 0
  | withdraw {amount : UInt64} (dists : DistEffect rt b b' [])
      (enough : amount ≤ b.journal.totalSolBalance)
      (journal : Journal.SameSol { b.journal with
        totalSolBalance := b.journal.totalSolBalance - amount
        swappedSolAmount := b.journal.swappedSolAmount + amount } b'.journal)
      (deposits : b.DepositsKept b') : SolEffect rt b b' [] amount.toNat

theorem SolEffect.dists {rt : Runtime} {b b' : Books} {acts : DistActs} {n : Nat}
    (h : SolEffect rt b b' acts n) : DistEffect rt b b' acts := by
  cases h with
  | quiet dists _ _ _ => exact dists
  | pay dists _ _ => exact dists
  | writeOff dists _ _ _ _ => exact dists
  | sweep dists _ _ _ => exact dists
  | withdraw dists _ _ _ => exact dists

/-! ## What a call says about its steps -/

/-- The distribution account and the debt leaf that a payment or a write-off names. -/
def Call.settled (call : Call) : Option (Pubkey × UInt32) :=
  match call.data with
  | .paySolanaValidatorDebt _ proof =>
    (call.key? 1).bind fun k => proof.leafIndex.map fun i => (k, i)
  | .writeOffSolanaValidatorDebt _ proof =>
    (call.key? 2).bind fun k => proof.leafIndex.map fun i => (k, i)
  | _ => none

/-- The amount a payment pays. -/
def Call.paid (call : Call) : Nat :=
  match call.data with
  | .paySolanaValidatorDebt amount _ => amount.toNat
  | _ => 0

/-- The amount a write-off writes off. -/
def Call.writtenOff (call : Call) : Nat :=
  match call.data with
  | .writeOffSolanaValidatorDebt amount _ => amount.toNat
  | _ => 0

/-- The amount a withdrawal of SOL takes out of the journal. -/
def Call.withdrawn (call : Call) : Nat :=
  match call.data with
  | .withdrawSol amount => amount.toNat
  | _ => 0

/-- The distribution account whose leaf a write-off settles, and the one it is booked on. -/
def Call.writeOffKeys (call : Call) : Option (Pubkey × Pubkey) :=
  match call.data with
  | .writeOffSolanaValidatorDebt _ _ => (call.key? 2).bind fun k => (call.key? 4).map fun w => (k, w)
  | _ => none

namespace Label

def settled : Label → Option (Pubkey × UInt32)
  | .call c => c.settled
  | .outside => none

def paid : Label → Nat
  | .call c => c.paid
  | .outside => 0

def writtenOff : Label → Nat
  | .call c => c.writtenOff
  | .outside => 0

def withdrawn : Label → Nat
  | .call c => c.withdrawn
  | .outside => 0

def writeOffKeys : Label → Option (Pubkey × Pubkey)
  | .call c => c.writeOffKeys
  | .outside => none

end Label

/-- What a step pays, writes off or books as uncollectible. -/
def DistAction.paid : DistAction → Nat
  | .pay _ debt => debt.amount.toNat
  | _ => 0

def DistAction.writtenOff : DistAction → Nat
  | .writeOff _ debt => debt.amount.toNat
  | _ => 0

def DistAction.booked : DistAction → Nat
  | .book amount => amount.toNat
  | _ => 0

/-- The net debt a step sweeps. -/
def DistAction.swept : DistAction → Nat
  | .sweep solDebt _ => solDebt.toNat
  | _ => 0

/-- The label of a step of the books says which leaf is settled, and what is paid, written off or
withdrawn. -/
structure Label.Takes (rt : Runtime) (l : Label) (acts : DistActs) (withdrawn : Nat) : Prop where
  settled_eq : l.settled = acts.findSome? fun x => x.2.settles.map fun i =>
    (rt.distributionKey x.1, i)
  paid_eq : l.paid = (acts.map fun x => x.2.paid).sum
  writtenOff_eq : l.writtenOff = (acts.map fun x => x.2.writtenOff).sum
  keys_eq : ∀ {e w leafIndex debt}, acts = [(e, .writeOff leafIndex debt), (w, .book debt.amount)] →
    l.writeOffKeys = some (rt.distributionKey e, rt.distributionKey w)
  withdrawn_eq : l.withdrawn = withdrawn

section

variable {rt : Runtime} {call : Call} {b b' : Books}

theorem Books.distUpdated_setDist (b : Books) (d : Distribution) (rem : List (BitVec 8)) :
    b.DistUpdated (b.setDist d rem) d rem := by
  intro e
  rw [Books.setDist, Books.set_entry]
  simp only [Identity.distribution.injEq]

@[simp] theorem Books.setDist_journal (b : Books) (d : Distribution) (rem : List (BitVec 8)) :
    (b.setDist d rem).entry .journal = b.entry .journal :=
  Books.set_entry_of_ne _ _ _ (by simp)

@[simp] theorem Books.setDist_deposit (b : Books) (d : Distribution) (rem : List (BitVec 8))
    (n : Pubkey) : (b.setDist d rem).entry (.deposit n) = b.entry (.deposit n) :=
  Books.set_entry_of_ne _ _ _ (by simp)

theorem DistAction.amounts_of_isQuiet {a : DistAction} (h : a.isQuiet = true) :
    a.paid = 0 ∧ a.writtenOff = 0 ∧ a.booked = 0 ∧ a.swept = 0 := by
  cases a with
  | pay _ _ => simp [isQuiet] at h
  | writeOff _ _ => simp [isQuiet] at h
  | book _ => simp [isQuiet] at h
  | sweep _ _ => simp [isQuiet] at h
  | _ => exact ⟨rfl, rfl, rfl, rfl⟩

/-- A call that is neither a payment nor a write-off settles nothing. -/
theorem Label.Takes.other {acts : DistActs} {n : Nat} (hsettled : call.settled = none)
    (hpaid : call.paid = 0) (hwrittenOff : call.writtenOff = 0) (hwithdrawn : call.withdrawn = n)
    (hacts : ∀ x ∈ acts, x.2.settles = none) : (Label.call call).Takes rt acts n := by
  have hzero : ∀ x ∈ acts, x.2.paid = 0 ∧ x.2.writtenOff = 0 := by
    intro x hx
    have hx' := hacts x hx
    cases ha : x.2 with
    | pay _ _ => simp [ha, DistAction.settles] at hx'
    | writeOff _ _ => simp [ha, DistAction.settles] at hx'
    | _ => exact ⟨rfl, rfl⟩
  constructor
  · refine hsettled.trans (List.findSome?_eq_none_iff.2 fun x hx => ?_).symm
    rw [hacts x hx]
    rfl
  · refine hpaid.trans (List.sum_eq_zero fun n hn => ?_).symm
    obtain ⟨x, hx, rfl⟩ := List.mem_map.1 hn
    exact (hzero x hx).1
  · refine hwrittenOff.trans (List.sum_eq_zero fun n hn => ?_).symm
    obtain ⟨x, hx, rfl⟩ := List.mem_map.1 hn
    exact (hzero x hx).2
  · intro e w leafIndex debt he
    have hx := hacts (e, .writeOff leafIndex debt) (by rw [he]; simp)
    simp [DistAction.settles] at hx
  · exact hwithdrawn

/-! ## Reading it off the transitions -/

theorem Books.sameSol (h : b'.entry .journal = b.entry .journal) :
    b.journal.SameSol b'.journal := by
  rw [Books.journal_congr h]
  exact ⟨rfl, rfl, rfl⟩

/-- Nothing that matters here is touched. -/
theorem SolEffect.idle
    (hdist : ∀ e, b'.entry (.distribution e) = b.entry (.distribution e))
    (hjournal : b'.entry .journal = b.entry .journal)
    (hdeposit : ∀ n, b'.entry (.deposit n) = b.entry (.deposit n)) : SolEffect rt b b' [] 0 := by
  exact .quiet (.untouched hdist) (by simp) (Books.sameSol hjournal)
    (.inl fun n => Books.depositAt_congr (hdeposit n))

/-- One distribution takes a quiet step. -/
theorem SolEffect.distStep {a : DistAction} {d d' : Distribution} {rem rem' : List (BitVec 8)}
    (has : b.HasDist d rem) (step : DistStep rt a (d, rem) (d', rem'))
    (updated : b.DistUpdated b' d' rem') (ha : a.isQuiet = true)
    (hjournal : b'.entry .journal = b.entry .journal)
    (hdeposit : ∀ n, b'.entry (.deposit n) = b.entry (.deposit n)) :
    SolEffect rt b b' [(d.dzEpoch, a)] 0 := by
  exact .quiet (.step has step updated) (by simpa using ha) (Books.sameSol hjournal)
    (.inl fun n => Books.depositAt_congr (hdeposit n))

/-- A quiet step of one distribution, written with `setDist`. -/
theorem SolEffect.setDist {a : DistAction} {d d' : Distribution} {rem rem' : List (BitVec 8)}
    {b₁ : Books} (has : b.HasDist d rem) (step : DistStep rt a (d, rem) (d', rem'))
    (he : b₁.entry = b.entry) (ha : a.isQuiet = true) :
    SolEffect rt b (b₁.setDist d' rem') [(d.dzEpoch, a)] 0 := by
  refine .distStep has step (fun e => ?_) ha ?_ fun n => ?_
  · rw [Books.distUpdated_setDist _ _ _ e, he]
  · rw [Books.setDist_journal, he]
  · rw [Books.setDist_deposit, he]

/-- The next distribution is swept. -/
theorem SolEffect.sweepStep {d d' : Distribution} {rem rem' jrem : List (BitVec 8)} {b₁ : Books}
    {j j' : Journal} {solDebt token2zAmount : UInt64} (he : b₁.entry = b.entry)
    (has : b.HasDist d rem) (journal : b.entry .journal = some (.journal j, jrem))
    (next : j.nextDzEpochToSweepTokens = d.dzEpoch)
    (step : DistStep rt (.sweep solDebt token2zAmount) (d, rem) (d', rem'))
    (enough : solDebt ≤ j.swappedSolAmount)
    (hj' : Journal.SameSol { j with
      nextDzEpochToSweepTokens := j.nextDzEpochToSweepTokens.saturatingAddDuration 1
      swappedSolAmount := j.swappedSolAmount - solDebt } j') :
    SolEffect rt b ((b₁.setDist d' rem').set .journal (.journal j') jrem)
      [(b.journal.nextDzEpochToSweepTokens, .sweep solDebt token2zAmount)] 0 := by
  have hj := Books.journal_eq journal
  have hdists : DistEffect rt b ((b₁.setDist d' rem').set .journal (.journal j') jrem)
      [(d.dzEpoch, .sweep solDebt token2zAmount)] := by
    refine .step has step fun e => ?_
    rw [Books.set_entry_of_ne _ _ _ (by simp), Books.distUpdated_setDist _ _ _ e, he]
  rw [← next, ← hj] at hdists
  refine .sweep hdists (by rw [hj]; exact enough) ?_ (.inl fun n => Books.depositAt_congr ?_)
  · rw [Books.journal_eq (Books.set_entry_self _ _ _ _), hj]
    exact hj'
  · rw [Books.set_entry_of_ne _ _ _ (by simp), Books.setDist_deposit, he]

theorem Transition.effect (h : Transition rt call b b') :
    ∃ acts n, SolEffect rt b b' acts n ∧ (Label.call call).Takes rt acts n := by
  -- The label of everything but payments and write-offs.
  have hother : ∀ {acts : DistActs} {n : Nat}, call.settled = none ∧ call.paid = 0 ∧
      call.writtenOff = 0 ∧ call.withdrawn = n → (∀ x ∈ acts, x.2.settles = none) →
      (Label.call call).Takes rt acts n :=
    fun ⟨hs, hp, hw, hn⟩ hacts => .other hs hp hw hn hacts
  by_cases hidle : Kind.distribution ∉ call.data.writes ∧ Kind.journal ∉ call.data.writes ∧
      Kind.deposit ∉ call.data.writes
  · obtain ⟨hdist, hjournal, hdeposit⟩ := hidle
    refine ⟨[], 0, .idle (fun e => h.frame (i := .distribution e) hdist)
      (h.frame (i := .journal) hjournal) (fun n => h.frame (i := .deposit n) hdeposit),
      hother ?_ (by simp)⟩
    cases hdata : call.data with
    | paySolanaValidatorDebt | writeOffSolanaValidatorDebt | withdrawSol =>
      simp [hdata, InstructionData.writes] at hdist hjournal
    | _ => simp [Call.settled, Call.paid, Call.writtenOff, Call.withdrawn, hdata]
  cases h with
  | initializeDistribution data config unpaused signed journal new advanced initialized rate_eq funds
      exempt moved =>
    refine ⟨[], _, .quiet (.create journal (initialized.dzEpoch_eq ▸ new) initialized fun e => ?_)
      (by simp) (Books.sameSol ?_) (.inl fun n => Books.depositAt_congr ?_),
      hother (by simp [Call.settled, Call.paid, Call.writtenOff, Call.withdrawn, data]) (by simp)⟩
    · rw [Books.distUpdated_setDist _ _ _ e, moved.entry_eq]
      simp only [Books.setToken_entry, Books.set_entry, reduceCtorEq, if_false]
    · rw [Books.setDist_journal, moved.entry_eq]
      simp only [Books.setToken_entry, Books.set_entry, reduceCtorEq, if_false]
    · rw [Books.setDist_deposit, moved.entry_eq]
      simp only [Books.setToken_entry, Books.set_entry, reduceCtorEq, if_false]
  | configureDebt data _ _ has _ _ step | finalizeZeroDebt data _ _ has _ step
  | finalizeDebt data _ _ has _ step | configureRewards data _ _ has _ step
  | setEconomicBurnRate data _ _ _ has step | finalizeRewards data _ has _ _ _ step
  | enableWriteOff data _ _ has _ step =>
    exact ⟨_, _, .setDist has step rfl rfl,
      hother (by simp [Call.settled, Call.paid, Call.writtenOff, Call.withdrawn, data])
        (by simp [DistAction.settles])⟩
  | collect data running has integration keyDist keyIntegration invokes foreign delta step =>
    exact ⟨_, _, .setDist has step foreign.entry_eq rfl,
      hother (by simp [Call.settled, Call.paid, Call.writtenOff, Call.withdrawn, data])
        (by simp [DistAction.settles])⟩
  | distribute data indexed running has keyDist contributor share recipients split payouts step burn
      relayed =>
    have hentry := relayed.entry_eq.trans burn.entry_eq
    refine ⟨_, _, .distStep has step (fun e => ?_) rfl ?_ fun n => ?_,
      hother (by simp [Call.settled, Call.paid, Call.writtenOff, Call.withdrawn, data])
        (by simp [DistAction.settles])⟩
    · rw [hentry, Books.distUpdated_setDist _ _ _ e, payouts.entry_eq]
    · rw [hentry, Books.setDist_journal, payouts.entry_eq]
    · rw [hentry, Books.setDist_deposit, payouts.entry_eq]
  | pay data indexed running has keyDist deposit journal step enough moved =>
    refine ⟨_, _, .pay (.step has step fun e => ?_) ?_ (.inl fun n => Books.depositAt_congr ?_), ?_⟩
    · rw [moved.entry_eq, Books.set_entry_of_ne _ _ _ (by simp), Books.distUpdated_setDist _ _ _ e]
    · have hnew := Books.journal_eq (by rw [moved.entry_eq, Books.set_entry_self])
      rw [Books.journal_eq journal, hnew]
      exact ⟨rfl, rfl, rfl⟩
    · rw [moved.entry_eq, Books.set_entry_of_ne _ _ _ (by simp), Books.setDist_deposit]
    · constructor
      · simp [Label.settled, Call.settled, data, keyDist, indexed, DistAction.settles]
      · simp [Label.paid, Call.paid, data, DistAction.paid]
      · simp [Label.writtenOff, Call.writtenOff, data, DistAction.writtenOff]
      · simp
      · simp [Label.withdrawn, Call.withdrawn, data]
  | writeOff data indexed running signed has keyDist keyBook deposit short step written hasBook later
      bookStep =>
    subst written
    refine ⟨_, _, .writeOff (.writeOff has step (fun e => ?_) hasBook bookStep
      (Books.distUpdated_setDist _ _ _)) (Books.sameSol ?_) later (Books.depositAt_eq deposit)
      (fun n => ?_), ?_⟩
    · rw [Books.distUpdated_setDist _ _ _ e, Books.set_entry_of_ne _ _ _ (by simp)]
    · rw [Books.setDist_journal, Books.setDist_journal, Books.set_entry_of_ne _ _ _ (by simp)]
    · split
      · next hn =>
        subst hn
        apply Books.depositAt_eq
        rw [Books.setDist_deposit, Books.setDist_deposit, Books.set_entry_self]
      · next hn =>
        refine Books.depositAt_congr ?_
        rw [Books.setDist_deposit, Books.setDist_deposit,
          Books.set_entry_of_ne _ _ _ (by simpa using hn)]
    · constructor
      · simp [Label.settled, Call.settled, data, keyDist, indexed, DistAction.settles]
      · simp [Label.paid, Call.paid, data, DistAction.paid]
      · simp [Label.writtenOff, Call.writtenOff, data, DistAction.writtenOff]
      · intro e w i debt he
        simp only [List.cons.injEq, Prod.mk.injEq] at he
        obtain ⟨⟨rfl, -⟩, ⟨rfl, -⟩, -⟩ := he
        simp [Label.writeOffKeys, Call.writeOffKeys, data, keyDist, keyBook]
      · simp [Label.withdrawn, Call.withdrawn, data]
  | sweepNothing data running has journal next zero step =>
    exact ⟨_, _, .sweepStep rfl has journal next step UInt64.zero_le ⟨rfl, by simp, rfl⟩,
      hother (by simp [Call.settled, Call.paid, Call.writtenOff, Call.withdrawn, data])
        (by simp [DistAction.settles])⟩
  | sweep data running has journal next debt nonzero enough invokes foreign transfer step =>
    exact ⟨_, _, .sweepStep (transfer.entry_eq.trans foreign.entry_eq) has journal next step enough
      ⟨rfl, rfl, rfl⟩, hother (by simp [Call.settled, Call.paid, Call.writtenOff, Call.withdrawn, data])
        (by simp [DistAction.settles])⟩
  | withdrawSol data running journal enough moved =>
    have hj := Books.journal_eq journal
    refine ⟨[], _, .withdraw (.untouched fun e => ?_) (by rw [hj]; exact enough) ?_
      (.inl fun n => Books.depositAt_congr ?_),
      hother (by simp [Call.settled, Call.paid, Call.writtenOff, Call.withdrawn, data]) (by simp)⟩
    · rw [moved.entry_eq, Books.set_entry_of_ne _ _ _ (by simp)]
    · have hnew := Books.journal_eq (by rw [moved.entry_eq, Books.set_entry_self])
      rw [hnew, hj]
      exact ⟨rfl, rfl, rfl⟩
    · rw [moved.entry_eq, Books.set_entry_of_ne _ _ _ (by simp)]
  | migrate data journal migrated =>
    have hsame : ∀ i, (∀ e, i ≠ .distribution e) → b'.entry i = b.entry i := by
      intro i hi
      rcases migrated.entry i with hsame | ⟨d, -, -, -, hdist, -⟩
      · exact hsame
      · exact absurd hdist (hi _)
    exact ⟨[], _, .quiet (.migrate journal migrated) (by simp)
      (Books.sameSol (hsame _ (by simp)))
      (.inl fun n => Books.depositAt_congr (hsame _ (by simp))),
      hother (by simp [Call.settled, Call.paid, Call.writtenOff, Call.withdrawn, data]) (by simp)⟩
  | initializeIntegration data config signed new journal counted funds =>
    refine ⟨[], _, .quiet (.untouched fun e => ?_) (by simp) ?_
      (.inl fun n => Books.depositAt_congr ?_),
      hother (by simp [Call.settled, Call.paid, Call.writtenOff, Call.withdrawn, data]) (by simp)⟩
    · rw [Books.set_entry_of_ne _ _ _ (by simp), Books.set_entry_of_ne _ _ _ (by simp)]
    · rw [Books.journal_eq (Books.set_entry_self _ _ _ _), Books.journal_eq journal]
      exact ⟨rfl, rfl, rfl⟩
    · rw [Books.set_entry_of_ne _ _ _ (by simp), Books.set_entry_of_ne _ _ _ (by simp)]
  | initializeJournal data new funds exempt =>
    have hblank : b.journal = default := by
      unfold Books.journal
      rw [new]
    refine ⟨[], _, .quiet (.untouched fun e => ?_) (by simp) ?_
      (.inl fun n => Books.depositAt_congr ?_),
      hother (by simp [Call.settled, Call.paid, Call.writtenOff, Call.withdrawn, data]) (by simp)⟩
    · exact Books.set_entry_of_ne _ _ _ (by simp)
    · rw [Books.journal_eq (Books.set_entry_self _ _ _ _), hblank]
      exact ⟨rfl, rfl, rfl⟩
    · exact Books.set_entry_of_ne _ _ _ (by simp)
  | @initializeDeposit lamports nodeId data new funds exempt =>
    have hnone : b.depositAt nodeId = none := by
      unfold Books.depositAt
      rw [new]
    refine ⟨[], _, .quiet (.untouched fun e => ?_) (by simp) (Books.sameSol ?_)
      (.inr ⟨nodeId, hnone, fun n => ?_⟩),
      hother (by simp [Call.settled, Call.paid, Call.writtenOff, Call.withdrawn, data]) (by simp)⟩
    · exact Books.set_entry_of_ne _ _ _ (by simp)
    · exact Books.set_entry_of_ne _ _ _ (by simp)
    · split
      · next hn =>
        rw [hn]
        exact Books.depositAt_eq (Books.set_entry_self _ _ _ _)
      · next hn => exact Books.depositAt_congr (Books.set_entry_of_ne _ _ _ (by simpa using hn))
  | _ => simp [‹call.data = _›, InstructionData.writes] at hidle

theorem BookStep.effect {l : Label} (h : BookStep rt l b b') :
    ∃ acts n, SolEffect rt b b' acts n ∧ l.Takes rt acts n := by
  cases h with
  | call ht => exact ht.effect
  | outside hforeign =>
    refine ⟨[], _, .idle (fun _ => by rw [hforeign.entry_eq]) (by rw [hforeign.entry_eq])
      (fun _ => by rw [hforeign.entry_eq]), ⟨rfl, rfl, rfl, by simp, rfl⟩⟩

/-! ## Following one distribution -/

variable {acts : DistActs}

/-- The states of a distribution that a step leads through. -/
abbrev DistMoves (rt : Runtime) : DistState → DistState → Prop :=
  Relation.ReflTransGen fun s s' => ∃ a, DistStep rt a s s'

theorem Books.DistUpdated.has {d : Distribution} {rem : List (BitVec 8)}
    (h : b.DistUpdated b' d rem) : b'.HasDist d rem := by
  have := h d.dzEpoch
  rwa [if_pos rfl] at this

theorem Books.DistUpdated.distAt {d : Distribution} {rem : List (BitVec 8)}
    (h : b.DistUpdated b' d rem) (e : DoubleZeroEpoch) :
    b'.distAt e = if e = d.dzEpoch then some (d, rem) else b.distAt e := by
  unfold Books.distAt
  rw [h e]
  by_cases he : e = d.dzEpoch
  · rw [if_pos he, if_pos he]
  · rw [if_neg he, if_neg he]

/-- A distribution after an update is the updated one or one from before. -/
theorem Books.DistUpdated.of_has {d d₁ : Distribution} {rem rem₁ : List (BitVec 8)}
    (h : b.DistUpdated b' d rem) (hd₁ : b'.HasDist d₁ rem₁) :
    (d₁ = d ∧ rem₁ = rem) ∨ (d₁.dzEpoch ≠ d.dzEpoch ∧ b.HasDist d₁ rem₁) := by
  have he := h d₁.dzEpoch
  unfold Books.HasDist at hd₁
  split at he
  · cases he.symm.trans hd₁
    exact .inl ⟨rfl, rfl⟩
  · next hne => exact .inr ⟨hne, he.symm.trans hd₁⟩

theorem Books.DistUpdated.keeps {d d₁ : Distribution} {rem rem₁ : List (BitVec 8)}
    (h : b.DistUpdated b' d rem) (hd₁ : b.HasDist d₁ rem₁) (hne : d₁.dzEpoch ≠ d.dzEpoch) :
    b'.HasDist d₁ rem₁ := by
  have he := h d₁.dzEpoch
  rw [if_neg hne] at he
  exact he.trans hd₁

theorem Books.HasDist.unique {d d₁ : Distribution} {rem rem₁ : List (BitVec 8)}
    (h : b.HasDist d rem) (h₁ : b.HasDist d₁ rem₁) (he : d₁.dzEpoch = d.dzEpoch) :
    d₁ = d ∧ rem₁ = rem := by
  unfold Books.HasDist at h h₁
  rw [he] at h₁
  cases h.symm.trans h₁
  exact ⟨rfl, rfl⟩

/-- Where a distribution in the new books comes from: it was created just now, or it was there and
has taken some steps. -/
theorem DistEffect.origin {d : Distribution} {rem : List (BitVec 8)}
    (h : DistEffect rt b b' acts) (hd : b'.HasDist d rem) :
    (rem = [] ∧ b.entry (.distribution d.dzEpoch) = none ∧
        ∃ c j prepaid jrem, Initialized rt c j prepaid d ∧
          b.entry .journal = some (.journal j, jrem)) ∨
      ∃ d₀ rem₀, b.HasDist d₀ rem₀ ∧ d₀.dzEpoch = d.dzEpoch ∧
        DistMoves rt (d₀, rem₀) (d, rem) := by
  cases h with
  | untouched same => exact .inr ⟨d, rem, (same _).symm.trans hd, rfl, .refl⟩
  | create journal new initialized updated =>
    rcases updated.of_has hd with ⟨rfl, rfl⟩ | ⟨-, hold⟩
    · exact .inl ⟨rfl, new, _, _, _, _, initialized, journal⟩
    · exact .inr ⟨d, rem, hold, rfl, .refl⟩
  | @step a d₀ d' rem₀ rem' has step updated =>
    rcases updated.of_has hd with ⟨rfl, rfl⟩ | ⟨-, hold⟩
    · exact .inr ⟨d₀, rem₀, has, step.fixed.1.symm, .single ⟨a, step⟩⟩
    · exact .inr ⟨d, rem, hold, rfl, .refl⟩
  | @writeOff d₀ d' w w' rem₀ rem' wrem wrem' i debt b₁ has step updated hasBook bookStep updated' =>
    -- Both distributions may be the same, so the booked one is traced back through the first update.
    have hmid : ∀ d₁ rem₁, b₁.HasDist d₁ rem₁ → ∃ d₂ rem₂, b.HasDist d₂ rem₂ ∧
        d₂.dzEpoch = d₁.dzEpoch ∧ DistMoves rt (d₂, rem₂) (d₁, rem₁) := by
      intro d₁ rem₁ h₁
      rcases updated.of_has h₁ with ⟨rfl, rfl⟩ | ⟨-, hold⟩
      · exact ⟨d₀, rem₀, has, step.fixed.1.symm, .single ⟨_, step⟩⟩
      · exact ⟨d₁, rem₁, hold, rfl, .refl⟩
    rcases updated'.of_has hd with ⟨rfl, rfl⟩ | ⟨-, hold⟩
    · obtain ⟨d₂, rem₂, h₂, hepoch, hmoves⟩ := hmid w wrem hasBook
      exact .inr ⟨d₂, rem₂, h₂, hepoch.trans bookStep.fixed.1.symm, hmoves.tail ⟨_, bookStep⟩⟩
    · exact .inr (hmid d rem hold)
  | migrate journal migrated =>
    rcases migrated.entry (.distribution d.dzEpoch) with
      hsame | ⟨d₀, rem₀, d₁, rem₁, hi, hold, step, hnew, -⟩
    · exact .inr ⟨d, rem, hsame.symm.trans hd, rfl, .refl⟩
    · cases hnew.symm.trans hd
      rw [hi] at hold
      exact .inr ⟨d₀, rem₀, hold, step.fixed.1.symm, .single ⟨_, step⟩⟩

end

end DoubleZero.Revenue
