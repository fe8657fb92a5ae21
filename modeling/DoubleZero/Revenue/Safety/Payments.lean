import DoubleZero.Lib.Reorder
import DoubleZero.Revenue.Invariant.Layout
import DoubleZero.Revenue.Refine.Basic
import DoubleZero.Revenue.Replay

/-!
# Payments in any order

Anybody may have a validator's debt paid, and all payments go into the one journal. They still may
come in any order: a payment moves each of its accounts on its own (`PaysAt`), and at every account
two payments change places, whether they settle the same distribution, draw on the same deposit or
only share the journal. So a batch of payments that goes through goes through in every order, to the
same ledger (`payments_any_order`).
-/

namespace DoubleZero.Revenue

open DoubleZero.Lib DoubleZero.Solana

/-! ## Marking two leaves -/

namespace MarksLeaf

variable {rem rem₁ rem₂ : List (BitVec 8)} {start stop i j : UInt32}

/-- Marking a leaf, seen as adding it to the set of those marked. -/
theorem iff_members : MarksLeaf rem start stop i rem₁ ↔
    start ≤ stop ∧ stop.toNat ≤ rem.length ∧ i.toNat / 8 < stop.toNat - start.toNat ∧
      i.toNat ∉ members (window rem start.toNat stop.toNat) ∧
      ∃ bytes, bytes.length = stop.toNat - start.toNat ∧
        members bytes = insert i.toNat (members (window rem start.toNat stop.toNat)) ∧
        rem₁ = splice rem start.toNat stop.toNat bytes := by
  constructor
  · intro h
    have hnot := h.not_mem
    obtain ⟨hle, hstop, byte, hbyte, -, rfl⟩ := h
    have hlength : (window rem start.toNat stop.toNat).length = stop.toNat - start.toNat :=
      length_window hstop
    refine ⟨hle, hstop, ?_, hnot, _, ?_, members_set hbyte, rfl⟩
    · rw [← hlength]
      exact (List.getElem?_eq_some_iff.1 hbyte).1
    · rw [List.length_set, hlength]
  · rintro ⟨hle, hstop, hin, hnot, bytes, hbytes, hmembers, rfl⟩
    have hlength : (window rem start.toNat stop.toNat).length = stop.toNat - start.toNat :=
      length_window hstop
    rw [← hlength] at hin
    have hbyte := List.getElem?_eq_getElem hin
    refine ⟨hle, hstop, _, hbyte, ?_, ?_⟩
    · rw [mem_members, bitAt, hbyte] at hnot
      simpa using hnot
    · congr 1
      refine eq_of_members ?_ (hmembers.trans (members_set hbyte).symm)
      rw [List.length_set, hlength, hbytes]

/-- Leaves are marked in any order. -/
theorem swap (h : MarksLeaf rem start stop i rem₁) (h' : MarksLeaf rem₁ start stop j rem₂) :
    ∃ rem₁', MarksLeaf rem start stop j rem₁' ∧ MarksLeaf rem₁' start stop i rem₂ := by
  have hj := h'.not_mem
  rw [h.members_eq, Finset.mem_insert, not_or] at hj
  obtain ⟨hle, hstop, hi, hnot, bytes, hbytes, -, rfl⟩ := iff_members.1 h
  obtain ⟨-, -, hin, -, bytes', hbytes', hmembers', rfl⟩ := iff_members.1 h'
  have hstart : start.toNat ≤ stop.toNat := UInt32.le_iff_toNat_le.1 hle
  rw [h.members_eq] at hmembers'
  have hlength : (window rem start.toNat stop.toNat).length = stop.toNat - start.toNat :=
    length_window hstop
  have hbyte := List.getElem?_eq_getElem (hlength ▸ hin)
  have hclear : bit (window rem start.toNat stop.toNat)[j.toNat / 8] (j.toNat % 8) = false := by
    have hnot := hj.2
    rw [mem_members, bitAt, hbyte] at hnot
    simpa using hnot
  have hfirst : MarksLeaf rem start stop j (splice rem start.toNat stop.toNat _) :=
    ⟨hle, hstop, _, hbyte, hclear, rfl⟩
  refine ⟨_, hfirst, iff_members.2 ⟨hle, hfirst.length_eq ▸ hstop, hi, ?_, bytes', hbytes', ?_, ?_⟩⟩
  · rw [hfirst.members_eq, Finset.mem_insert, not_or]
    exact ⟨fun heq => hj.1 heq.symm, hnot⟩
  · rw [hfirst.members_eq, hmembers', Finset.insert_comm]
  · rw [splice_splice hstart hstop hbytes, splice_splice hstart hstop]
    rw [List.length_set, hlength]

end MarksLeaf

/-! ## A payment, account by account -/

/-- The accounts of a payment. -/
inductive PaymentRole where
  | config
  | distribution
  | deposit
  | journal
  deriving DecidableEq, Repr

/-- What a call that pays a debt was given: its accounts, the amount, the leaf, and the validator
whose deposit it draws on. -/
structure Payment where
  key : PaymentRole → Pubkey
  amount : UInt64
  proof : MerkleProof
  leafIndex : UInt32
  nodeId : Pubkey

/-- What a kind of account is used for. -/
def AccountState.paymentRole : AccountState → Option PaymentRole
  | .programConfig _ => some .config
  | .distribution _ => some .distribution
  | .solanaValidatorDeposit _ => some .deposit
  | .journal _ => some .journal
  | _ => none

/-- The account holds a value of the program that is used in the role. -/
def Account.Plays (a : Account AccountState) (role : PaymentRole) : Prop :=
  ∃ state rem, a.owner = ID ∧ a.data = .zeroCopy state rem ∧ state.paymentRole = some role

/-- What a payment asks of each of its accounts and makes of it. -/
inductive PaysIn (rt : Runtime) (p : Payment) :
    PaymentRole → Account AccountState → Account AccountState → Prop
  | config {a : Account AccountState} {c : ProgramConfig} {rem : List (BitVec 8)}
      (owner : a.owner = ID) (data : a.data = .zeroCopy (.programConfig c) rem)
      (unpaused : c.isPaused = false) : PaysIn rt p .config a a
  | distribution {a : Account AccountState} {d : Distribution} {rem rem' : List (BitVec 8)}
      (owner : a.owner = ID) (data : a.data = .zeroCopy (.distribution d) rem)
      (debtFinal : d.isDebtCalculationFinalized = true)
      (marks : MarksLeaf rem d.processedSolanaValidatorDebtStartIndex
        d.processedSolanaValidatorDebtEndIndex p.leafIndex rem')
      (leaf : rt.rootFromPodLeaf p.proof (.solanaValidatorDebt ⟨p.nodeId, p.amount⟩) =
        d.solanaValidatorDebtMerkleRoot) :
      PaysIn rt p .distribution a { a with data := .zeroCopy (.distribution { d with
        collectedSolanaValidatorPayments := d.collectedSolanaValidatorPayments + p.amount
        solanaValidatorPaymentsCount := d.solanaValidatorPaymentsCount + 1 }) rem' }
  | deposit {a : Account AccountState} {v : SolanaValidatorDeposit} {rem : List (BitVec 8)}
      (owner : a.owner = ID) (data : a.data = .zeroCopy (.solanaValidatorDeposit v) rem)
      (node : v.nodeId = p.nodeId)
      (enough : p.amount.toNat ≤
        a.lamports - rt.rent.minimumBalance (dataEnd AccountState SolanaValidatorDeposit)) :
      PaysIn rt p .deposit a { a with lamports := a.lamports - p.amount.toNat }
  | journal {a : Account AccountState} {j : Journal} {rem : List (BitVec 8)}
      (owner : a.owner = ID) (data : a.data = .zeroCopy (.journal j) rem)
      (room : a.lamports + p.amount.toNat < 2 ^ 64) :
      PaysIn rt p .journal a { a with
        lamports := a.lamports + p.amount.toNat
        data := .zeroCopy (.journal
          { j with totalSolBalance := j.totalSolBalance + p.amount }) rem }

/-- What a payment makes of the account at `k`. -/
structure PaysAt (rt : Runtime) (p : Payment) (k : Pubkey) (a a' : Account AccountState) : Prop where
  given : ∀ role, k = p.key role → PaysIn rt p role a a'
  other : (∀ role, k ≠ p.key role) → a' = a

section Payments

variable {rt : Runtime} {p q : Payment} {role role' : PaymentRole} {x y z : Account AccountState}

theorem PaysIn.plays (h : PaysIn rt p role x y) : Account.Plays x role ∧ Account.Plays y role := by
  cases h with
  | config owner data _ => exact ⟨⟨_, _, owner, data, rfl⟩, _, _, owner, data, rfl⟩
  | distribution owner data _ _ _ => exact ⟨⟨_, _, owner, data, rfl⟩, _, _, owner, rfl, rfl⟩
  | deposit owner data _ _ => exact ⟨⟨_, _, owner, data, rfl⟩, _, _, owner, data, rfl⟩
  | journal owner data _ => exact ⟨⟨_, _, owner, data, rfl⟩, _, _, owner, rfl, rfl⟩

theorem Account.Plays.unique (h : Account.Plays x role) (h' : Account.Plays x role') :
    role = role' := by
  obtain ⟨state, rem, -, hdata, hrole⟩ := h
  obtain ⟨state', rem', -, hdata', hrole'⟩ := h'
  cases hdata.symm.trans hdata'
  exact Option.some.inj (hrole.symm.trans hrole')

theorem add64_right_comm (a b c : UInt64) : a + b + c = a + c + b := by
  rw [UInt64.add_assoc, UInt64.add_comm b c, UInt64.add_assoc]

/-- Two payments change places at every account they share. -/
theorem PaysIn.swap (h : PaysIn rt p role x y) (h' : PaysIn rt q role y z) :
    ∃ y', PaysIn rt q role x y' ∧ PaysIn rt p role y' z := by
  cases h with
  | config owner data unpaused =>
    cases h' with
    | config _ _ _ => exact ⟨_, .config owner data unpaused, .config owner data unpaused⟩
  | @distribution _ d _ _ owner data debtFinal marks leaf =>
    cases h' with
    | distribution _ data' _ marks' leaf' =>
      cases data'
      obtain ⟨rem₁', hmarks, hmarks'⟩ := marks.swap marks'
      refine ⟨_, .distribution owner data debtFinal hmarks leaf', ?_⟩
      have hlast : PaysIn rt p .distribution { x with data := .zeroCopy (.distribution { d with
          collectedSolanaValidatorPayments := d.collectedSolanaValidatorPayments + q.amount
          solanaValidatorPaymentsCount := d.solanaValidatorPaymentsCount + 1 }) rem₁' } _ :=
        .distribution owner rfl debtFinal hmarks' leaf
      dsimp only at hlast
      rw [add64_right_comm] at hlast
      exact hlast
  | deposit owner data node enough =>
    cases h' with
    | deposit _ data' node' enough' =>
      cases data.symm.trans data'
      dsimp only at enough'
      refine ⟨_, .deposit owner data node' (by omega), ?_⟩
      have hlast : PaysIn rt p .deposit { x with lamports := x.lamports - q.amount.toNat } _ :=
        .deposit owner data node (by dsimp only; omega)
      rw [Nat.sub_right_comm] at hlast
      exact hlast
  | @journal _ j rem owner data room =>
    cases h' with
    | journal _ data' room' =>
      cases data'
      dsimp only at room'
      refine ⟨_, .journal owner data (by omega), ?_⟩
      have hlast : PaysIn rt p .journal { x with
          lamports := x.lamports + q.amount.toNat
          data := .zeroCopy (.journal
            { j with totalSolBalance := j.totalSolBalance + q.amount }) rem } _ :=
        .journal owner rfl (by dsimp only; omega)
      dsimp only at hlast
      rw [add64_right_comm, Nat.add_right_comm] at hlast
      exact hlast

theorem PaysAt.swap {k : Pubkey} (h : PaysAt rt p k x y) (h' : PaysAt rt q k y z) :
    ∃ y', PaysAt rt q k x y' ∧ PaysAt rt p k y' z := by
  by_cases hp : ∃ role, k = p.key role
  · obtain ⟨role, hrole⟩ := hp
    have hpays := h.given role hrole
    by_cases hq : ∃ role', k = q.key role'
    · -- Both payments use the account, and for the same thing.
      obtain ⟨role', hrole'⟩ := hq
      have hpays' := h'.given role' hrole'
      obtain rfl := hpays.plays.2.unique hpays'.plays.1
      obtain ⟨y', hy, hy'⟩ := hpays.swap hpays'
      refine ⟨y', ⟨fun role' hk => ?_, fun hk => absurd hrole' (hk _)⟩,
        ⟨fun role' hk => ?_, fun hk => absurd hrole (hk _)⟩⟩
      · obtain rfl := hpays'.plays.1.unique (h'.given role' hk).plays.1
        exact hy
      · obtain rfl := hpays.plays.1.unique (h.given role' hk).plays.1
        exact hy'
    · have hsame : z = y := h'.other fun role' hk => hq ⟨role', hk⟩
      subst hsame
      exact ⟨x, ⟨fun role' hk => absurd ⟨role', hk⟩ hq, fun _ => rfl⟩, h⟩
  · have hsame : y = x := h.other fun role hk => hp ⟨role, hk⟩
    subst hsame
    exact ⟨z, h', ⟨fun role hk => absurd ⟨role, hk⟩ hp, fun _ => rfl⟩⟩

/-! ## The call -/

/-- The call pays the debt: four accounts in their order, three of them to write to. -/
def Call.Pays (call : Call) (p : Payment) : Prop :=
  call.data = .paySolanaValidatorDebt p.amount p.proof ∧ p.proof.leafIndex = some p.leafIndex ∧
    ∃ mc md mp mj rest, call.accounts = mc :: md :: mp :: mj :: rest ∧
      md.isWritable = true ∧ mp.isWritable = true ∧ mj.isWritable = true ∧
      p.key .config = mc.key ∧ p.key .distribution = md.key ∧ p.key .deposit = mp.key ∧
      p.key .journal = mj.key

/-- What the processor leaves: the distribution and the journal stored, the lamports moved. -/
def Payment.paid (p : Payment) (d : Distribution) (rem : List (BitVec 8)) (j : Journal)
    (jrem : List (BitVec 8)) (L : RevenueLedger) : RevenueLedger :=
  (((L.write (p.key .distribution) (.zeroCopy (.distribution d) rem)).write (p.key .journal)
    (.zeroCopy (.journal j) jrem)).debit (p.key .deposit) p.amount.toNat).credit (p.key .journal)
    p.amount.toNat

section Paid

variable {d : Distribution} {rem jrem : List (BitVec 8)} {j : Journal} {L L' : RevenueLedger}
  {k : Pubkey}

theorem Payment.paid_other (h : ∀ role, role ≠ .config → k ≠ p.key role) :
    p.paid d rem j jrem L k = L k := by
  have hdist : k ≠ p.key .distribution := h _ (by decide)
  have hdeposit : k ≠ p.key .deposit := h _ (by decide)
  have hjournal : k ≠ p.key .journal := h _ (by decide)
  simp only [paid, Ledger.credit, Ledger.debit, Ledger.write, Ledger.set_of_ne _ _ hjournal,
    Ledger.set_of_ne _ _ hdeposit, Ledger.set_of_ne _ _ hdist]

variable (hinj : Function.Injective p.key)

include hinj

theorem Payment.paid_distribution : p.paid d rem j jrem L (p.key .distribution) =
    { L (p.key .distribution) with data := .zeroCopy (.distribution d) rem } := by
  have hdeposit : p.key .distribution ≠ p.key .deposit := hinj.ne (by decide)
  have hjournal : p.key .distribution ≠ p.key .journal := hinj.ne (by decide)
  simp only [paid, Ledger.credit, Ledger.debit, Ledger.write, Ledger.set_of_ne _ _ hjournal,
    Ledger.set_of_ne _ _ hdeposit, Ledger.set_self]

theorem Payment.paid_deposit : p.paid d rem j jrem L (p.key .deposit) =
    { L (p.key .deposit) with lamports := (L (p.key .deposit)).lamports - p.amount.toNat } := by
  have hdist : p.key .deposit ≠ p.key .distribution := hinj.ne (by decide)
  have hjournal : p.key .deposit ≠ p.key .journal := hinj.ne (by decide)
  simp only [paid, Ledger.credit, Ledger.debit, Ledger.write, Ledger.set_of_ne _ _ hjournal,
    Ledger.set_of_ne _ _ hdist, Ledger.set_self]

theorem Payment.paid_journal : p.paid d rem j jrem L (p.key .journal) =
    { L (p.key .journal) with
      lamports := (L (p.key .journal)).lamports + p.amount.toNat
      data := .zeroCopy (.journal j) jrem } := by
  have hdist : p.key .journal ≠ p.key .distribution := hinj.ne (by decide)
  have hdeposit : p.key .journal ≠ p.key .deposit := hinj.ne (by decide)
  simp only [paid, Ledger.credit, Ledger.debit, Ledger.write, Ledger.set_of_ne _ _ hdist,
    Ledger.set_of_ne _ _ hdeposit, Ledger.set_self]

end Paid

/-- What the processor finds in the accounts of a payment that goes through. -/
structure Payment.Accepted (rt : Runtime) (p : Payment) (L : RevenueLedger) (d : Distribution)
    (rem rem' : List (BitVec 8)) (j : Journal) (jrem : List (BitVec 8)) : Prop where
  config : ∃ (c : ProgramConfig) (crem : List (BitVec 8)),
    view ID L (p.key .config) = some (c, crem) ∧ c.isPaused = false
  distribution : view ID L (p.key .distribution) = some (d, rem)
  debtFinal : d.isDebtCalculationFinalized = true
  marks : MarksLeaf rem d.processedSolanaValidatorDebtStartIndex
    d.processedSolanaValidatorDebtEndIndex p.leafIndex rem'
  deposit : ∃ (v : SolanaValidatorDeposit) (vrem : List (BitVec 8)),
    view ID L (p.key .deposit) = some (v, vrem) ∧ v.nodeId = p.nodeId
  leaf : rt.rootFromPodLeaf p.proof (.solanaValidatorDebt ⟨p.nodeId, p.amount⟩) =
    d.solanaValidatorDebtMerkleRoot
  enough : p.amount.toNat ≤ (L (p.key .deposit)).lamports -
    rt.rent.minimumBalance (dataEnd AccountState SolanaValidatorDeposit)
  journal : view ID L (p.key .journal) = some (j, jrem)
  room : (L (p.key .journal)).lamports + p.amount.toNat < 2 ^ 64

/-- The distribution with the payment counted. -/
def Distribution.withPayment (d : Distribution) (amount : UInt64) : Distribution := { d with
  collectedSolanaValidatorPayments := d.collectedSolanaValidatorPayments + amount
  solanaValidatorPaymentsCount := d.solanaValidatorPaymentsCount + 1 }

/-- The journal with the payment counted. -/
def Journal.withPayment (j : Journal) (amount : UInt64) : Journal :=
  { j with totalSolBalance := j.totalSolBalance + amount }

variable {call : Call} {L L' : RevenueLedger}

theorem process_pay {amount : UInt64} {proof : MerkleProof}
    (hdata : call.data = .paySolanaValidatorDebt amount proof) :
    process rt call L = .ok L' ↔ ∃ p d rem rem' j jrem, call.Pays p ∧
      p.Accepted rt L d rem rem' j jrem ∧
      L' = p.paid (d.withPayment p.amount) rem' (j.withPayment p.amount) jrem L := by
  rw [process_eq_ok]
  simp only [tryProcessInstruction, hdata, tryPaySolanaValidatorDebt, tryLeafIndex,
    ProgramConfig.tryRequireUnpaused, Distribution.tryRequireFinalizedDebtCalculation,
    ↓okOr_bind_ok, ↓zeroCopy_bind_ok, ↓require_bind_ok, ↓zeroCopyMut_bind_ok, ↓processLeaf_bind_ok,
    ↓account_bind_ok, ↓store_bind_ok, moveLamports_eq_ok, Call.exec_iter,
    Call.exec_ledger, Exec.advance_iter, Exec.advance_ledger, Exec.info_key]
  constructor
  · rintro ⟨r, ⟨i, hi, mc, _, haccounts, c, crem, hc, hunpaused, md, _, rfl, hwd, d, rem, hd,
      hfinal, mp, _, rfl, hwp, v, vrem, hv, rem', hmarks, hroot, henough, mj, rest, rfl, hwj, j, jrem,
      hj, hmoved⟩, rfl⟩
    have hne : mp.key ≠ mj.key := by
      intro heq
      rw [heq] at hv
      cases (view_eq_some.1 hv).2.symm.trans (view_eq_some.1 hj).2
    obtain ⟨-, -, hroom, rfl⟩ := hmoved.resolve_left fun h => hne h.1
    simp only [Ledger.write_lamports] at hroom
    let key : PaymentRole → Pubkey
      | .config => mc.key
      | .distribution => md.key
      | .deposit => mp.key
      | .journal => mj.key
    exact ⟨⟨key, amount, proof, i, v.nodeId⟩, d, rem, rem', j, jrem,
      ⟨hdata, hi, mc, md, mp, mj, rest, haccounts, hwd, hwp, hwj, rfl, rfl, rfl, rfl⟩,
      ⟨⟨c, crem, hc, hunpaused⟩, hd, hfinal, hmarks, ⟨v, vrem, hv, rfl⟩, hroot, henough, hj, hroom⟩,
      rfl⟩
  · rintro ⟨p, d, rem, rem', j, jrem, ⟨hpays, hi, mc, md, mp, mj, rest, haccounts, hwd, hwp, hwj,
      hkc, hkd, hkp, hkj⟩, ⟨⟨c, crem, hc, hunpaused⟩, hd, hfinal, hmarks, ⟨v, vrem, hv, hnode⟩,
      hroot, henough, hj, hroom⟩, rfl⟩
    cases hdata.symm.trans hpays
    rw [hkc] at hc
    rw [hkd] at hd
    rw [hkp] at hv henough
    rw [hkj] at hj hroom
    rw [← hnode] at hroot
    have hne : mp.key ≠ mj.key := by
      intro heq
      rw [heq] at hv
      cases (view_eq_some.1 hv).2.symm.trans (view_eq_some.1 hj).2
    refine ⟨_, ⟨_, hi, mc, _, haccounts, c, crem, hc, hunpaused, md, _, rfl, hwd, d, rem, hd, hfinal,
      mp, _, rfl, hwp, v, vrem, hv, rem', hmarks, hroot, henough, mj, rest, rfl, hwj, j, jrem, hj,
      .inr ⟨hne, ?_, ?_, rfl⟩⟩, ?_⟩
    · simp only [Ledger.write_lamports]
      exact henough.trans (Nat.sub_le _ _)
    · simpa only [Ledger.write_lamports] using hroom
    · simp only [Payment.paid, hkd, hkp, hkj]
      rfl

theorem plays_of_view {T : Type} [ZeroCopy AccountState T] {t : T} {rem : List (BitVec 8)}
    {k : Pubkey} (h : view ID L k = some (t, rem))
    (hrole : (wrap t : AccountState).paymentRole = some role) : Account.Plays (L k) role :=
  ⟨_, _, (view_eq_some.1 h).1, (view_eq_some.1 h).2, hrole⟩

/-- The four accounts of a payment are four different ones. -/
theorem Payment.key_injective (h : ∀ role, Account.Plays (L (p.key role)) role) :
    Function.Injective p.key := by
  intro role role' hkey
  have hrole := h role'
  rw [← hkey] at hrole
  exact (h role).unique hrole

theorem Payment.Accepted.plays {d : Distribution} {rem rem' jrem : List (BitVec 8)} {j : Journal}
    (h : p.Accepted rt L d rem rem' j jrem) (role : PaymentRole) :
    Account.Plays (L (p.key role)) role := by
  cases role with
  | config =>
    obtain ⟨c, crem, hc, -⟩ := h.config
    exact plays_of_view hc rfl
  | distribution => exact plays_of_view h.distribution rfl
  | deposit =>
    obtain ⟨v, vrem, hv, -⟩ := h.deposit
    exact plays_of_view hv rfl
  | journal => exact plays_of_view h.journal rfl

/-- A payment goes through when it does at each of its accounts. -/
theorem cellwise_pays_iff : Cellwise (PaysAt rt p) L L' ↔
    ∃ d rem rem' j jrem, p.Accepted rt L d rem rem' j jrem ∧
      L' = p.paid (d.withPayment p.amount) rem' (j.withPayment p.amount) jrem L := by
  constructor
  · intro h
    have hpays := fun role => (h (p.key role)).given role rfl
    have hinj := Payment.key_injective fun role => (hpays role).plays.1
    have hc := hpays .config
    have hd := hpays .distribution
    have hp := hpays .deposit
    have hj := hpays .journal
    generalize hLc : L' (p.key .config) = ac at hc
    generalize hLd : L' (p.key .distribution) = ad at hd
    generalize hLp : L' (p.key .deposit) = ap at hp
    generalize hLj : L' (p.key .journal) = aj at hj
    cases hc with
    | @config _ c crem cowner cdata unpaused =>
    cases hd with
    | @distribution _ d rem rem' downer ddata debtFinal marks leaf =>
    cases hp with
    | @deposit _ v vrem vowner vdata node enough =>
    cases hj with
    | @journal _ j jrem jowner jdata room =>
    refine ⟨d, rem, rem', j, jrem, ⟨⟨c, crem, view_eq_some.2 ⟨cowner, cdata⟩, unpaused⟩,
      view_eq_some.2 ⟨downer, ddata⟩, debtFinal, marks, ⟨v, vrem, view_eq_some.2 ⟨vowner, vdata⟩,
      node⟩, leaf, enough, view_eq_some.2 ⟨jowner, jdata⟩, room⟩, ?_⟩
    funext k
    by_cases hrole : ∃ role, role ≠ .config ∧ k = p.key role
    · obtain ⟨role, hne, rfl⟩ := hrole
      cases role with
      | config => exact absurd rfl hne
      | distribution => rw [hLd, Payment.paid_distribution hinj]; rfl
      | deposit => rw [hLp, Payment.paid_deposit hinj]
      | journal => rw [hLj, Payment.paid_journal hinj]; rfl
    · have hother : ∀ role, role ≠ .config → k ≠ p.key role :=
        fun role hne hk => hrole ⟨role, hne, hk⟩
      rw [Payment.paid_other hother]
      by_cases hconfig : k = p.key .config
      · rw [hconfig, hLc]
      · refine (h k).other fun role => ?_
        cases role with
        | config => exact hconfig
        | _ => exact hother _ (by decide)
  · rintro ⟨d, rem, rem', j, jrem, h, rfl⟩
    have hinj := Payment.key_injective h.plays
    have hgiven : ∀ role, PaysIn rt p role (L (p.key role))
        (p.paid (d.withPayment p.amount) rem' (j.withPayment p.amount) jrem L (p.key role)) := by
      intro role
      cases role with
      | config =>
        obtain ⟨c, crem, hc, hunpaused⟩ := h.config
        have hsame : p.paid (d.withPayment p.amount) rem' (j.withPayment p.amount) jrem L
            (p.key .config) = L (p.key .config) :=
          Payment.paid_other fun role hne => hinj.ne (Ne.symm hne)
        rw [hsame]
        exact .config (view_eq_some.1 hc).1 (view_eq_some.1 hc).2 hunpaused
      | distribution =>
        rw [Payment.paid_distribution hinj]
        exact .distribution (view_eq_some.1 h.distribution).1 (view_eq_some.1 h.distribution).2
          h.debtFinal h.marks h.leaf
      | deposit =>
        obtain ⟨v, vrem, hv, hnode⟩ := h.deposit
        rw [Payment.paid_deposit hinj]
        exact .deposit (view_eq_some.1 hv).1 (view_eq_some.1 hv).2 hnode h.enough
      | journal =>
        rw [Payment.paid_journal hinj]
        exact .journal (view_eq_some.1 h.journal).1 (view_eq_some.1 h.journal).2 h.room
    intro k
    refine ⟨fun role hk => hk ▸ hgiven role, fun hk => Payment.paid_other fun role _ => hk role⟩

theorem process_pay_iff {amount : UInt64} {proof : MerkleProof}
    (hdata : call.data = .paySolanaValidatorDebt amount proof) :
    process rt call L = .ok L' ↔ ∃ p, call.Pays p ∧ Cellwise (PaysAt rt p) L L' := by
  rw [process_pay hdata]
  constructor
  · rintro ⟨p, d, rem, rem', j, jrem, hpays, haccepted⟩
    exact ⟨p, hpays, cellwise_pays_iff.2 ⟨d, rem, rem', j, jrem, haccepted⟩⟩
  · rintro ⟨p, hpays, hcells⟩
    obtain ⟨d, rem, rem', j, jrem, haccepted⟩ := cellwise_pays_iff.1 hcells
    exact ⟨p, d, rem, rem', j, jrem, hpays, haccepted⟩

end Payments

/-! ## Batches -/

/-- The call asks to pay a debt. -/
def Call.IsPayment (call : Call) : Prop :=
  ∃ amount proof, call.data = .paySolanaValidatorDebt amount proof

/-- Payments change places. -/
theorem swaps_pay {rt : Runtime} {call call' : Call} (h : call.IsPayment) (h' : call'.IsPayment) :
    Swaps (fun call L L' => process rt call L = .ok L') (fun _ => True) call call' := by
  obtain ⟨amount, proof, hdata⟩ := h
  obtain ⟨amount', proof', hdata'⟩ := h'
  intro L L₁ L₂ _ hfirst hsecond
  obtain ⟨p, hp, hcells⟩ := (process_pay_iff hdata).1 hfirst
  obtain ⟨q, hq, hcells'⟩ := (process_pay_iff hdata').1 hsecond
  obtain ⟨L₁', hq', hp'⟩ := hcells.swap (fun _ _ _ _ => PaysAt.swap) hcells'
  exact ⟨L₁', (process_pay_iff hdata').2 ⟨q, hq, hq'⟩, (process_pay_iff hdata).2 ⟨p, hp, hp'⟩⟩

/-- A batch of payments that goes through in one order goes through in every order, and leaves the
same ledger. -/
theorem payments_any_order {rt : Runtime} {calls calls' : List Call} {L L' : RevenueLedger}
    (hpayments : ∀ call ∈ calls, call.IsPayment) (hperm : calls.Perm calls')
    (h : Sequence (fun call L L' => process rt call L = .ok L') calls L L') :
    Sequence (fun call L L' => process rt call L = .ok L') calls' L L' := by
  refine h.perm (P := fun _ => True) (fun _ _ _ _ _ _ => trivial) ?_ hperm trivial
  exact List.pairwise_of_forall_mem_list fun a ha b hb =>
    ⟨swaps_pay (hpayments a ha) (hpayments b hb), swaps_pay (hpayments b hb) (hpayments a ha)⟩

/-- A payment out of a deposit on the sample deployment. -/
def Sample.pay (leafIndex : UInt32) (amount : UInt64) (deposit : Pubkey) : Call where
  data := .paySolanaValidatorDebt amount ⟨some leafIndex, []⟩
  accounts := [writable config, writable distribution, writable deposit, writable journal]
  env := ⟨200000, none, fun L => .ok (L, none)⟩

/-- Two validators pay, in either order. -/
theorem payments_any_order_two :
    ∃ (h : History) (L L' : RevenueLedger),
      LedgerRun (Sample.runtime Sample.debts Sample.shares) (Sample.genesis 1000 700) h L ∧
      Sequence (fun call L L' => process (Sample.runtime Sample.debts Sample.shares) call L = .ok L')
        [Sample.pay 0 100 Sample.depositA, Sample.pay 1 50 Sample.depositB] L L' ∧
      Sequence (fun call L L' => process (Sample.runtime Sample.debts Sample.shares) call L = .ok L')
        [Sample.pay 1 50 Sample.depositB, Sample.pay 0 100 Sample.depositA] L L' := by
  obtain ⟨h, L, hrun, -, hP⟩ := Sample.exists_run_of_replay Sample.debts Sample.shares 1000 700
    (Sample.opening ++ [.outside (.lamports Sample.payer Sample.depositB 500), Sample.openEpoch,
      Sample.configureDebt 2 150, Sample.finalizeDebt])
    (P := fun _ L =>
      (process (Sample.runtime Sample.debts Sample.shares) (Sample.pay 0 100 Sample.depositA)
        L).toOption.any fun L₁ => (process (Sample.runtime Sample.debts Sample.shares)
          (Sample.pay 1 50 Sample.depositB) L₁).toOption.isSome)
    (by decide +kernel) (by decide +kernel)
  obtain ⟨L₁, hfirst, hP⟩ := (Option.any_eq_true _ _).1 hP
  obtain ⟨L', hsecond⟩ := Option.isSome_iff_exists.1 hP
  rw [toOption_eq_some] at hfirst hsecond
  have hsequence : Sequence (fun call L L' =>
      process (Sample.runtime Sample.debts Sample.shares) call L = .ok L')
      [Sample.pay 0 100 Sample.depositA, Sample.pay 1 50 Sample.depositB] L L' :=
    .cons hfirst (.cons hsecond .nil)
  refine ⟨h, L, L', hrun, hsequence, payments_any_order ?_ (.swap _ _ _) hsequence⟩
  intro call hcall
  rcases List.mem_pair.1 hcall with rfl | rfl
  · exact ⟨_, _, rfl⟩
  · exact ⟨_, _, rfl⟩

end DoubleZero.Revenue
