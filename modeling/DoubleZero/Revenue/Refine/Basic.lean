import DoubleZero.Revenue.Transition

/-!
# Following a processor on the books

`Refines L b`: the ledger is canonical and its books are `b`. Every primitive an instruction uses
takes a ledger and its books to a ledger and its books, so an instruction is followed step by step
without ever looking at addresses again.
-/

namespace DoubleZero.Revenue

open DoubleZero.Lib DoubleZero.Solana

theorem Books.Owns.set {rt : Runtime} {b : Books} {k : Pubkey} (h : b.Owns rt k) (i : Identity)
    (s : AccountState) (rem : List (BitVec 8)) : (b.set i s rem).Owns rt k := by
  obtain ⟨j, hk, hj⟩ := h
  refine ⟨j, hk, ?_⟩
  rw [Books.set_entry]
  split
  · simp
  · exact hj

structure Refines (rt : Runtime) (L : RevenueLedger) (b : Books) : Prop where
  canonical : Canonical rt L
  books_eq : books rt L = b

@[simp] theorem Call.exec_iter (call : Call) (L : RevenueLedger) :
    (call.exec L).iter = call.accounts := rfl

@[simp] theorem Call.exec_ledger (call : Call) (L : RevenueLedger) : (call.exec L).ledger = L := rfl

/-- A step of one distribution keeps its identity and its bump seeds. -/
theorem DistStep.fixed {rt : Runtime} {a : DistAction} {s s' : DistState} (h : DistStep rt a s s') :
    s'.1.dzEpoch = s.1.dzEpoch ∧ s'.1.bumpSeed = s.1.bumpSeed ∧
      s'.1.token2zPdaBumpSeed = s.1.token2zPdaBumpSeed := by
  cases h <;> exact ⟨rfl, rfl, rfl⟩

namespace Refines

variable {rt : Runtime} {L L' : RevenueLedger} {b : Books} {k : Pubkey} {rem : List (BitVec 8)}

theorem start (hc : Canonical rt L) : Refines rt L (books rt L) := ⟨hc, rfl⟩

/-! ## Reading -/

theorem entry_of_stateAt {s : AccountState} (h : Refines rt L b) (hs : stateAt L k = some (s, rem)) :
    k = s.identity.key rt ∧ b.entry s.identity = some (s, rem) := by
  have hk := h.canonical.atKey hs
  refine ⟨hk, ?_⟩
  rw [← h.books_eq]
  show stateAt L _ = _
  rw [← hk, hs]

theorem stateAt_of_entry {i : Identity} {s : AccountState} (h : Refines rt L b)
    (he : b.entry i = some (s, rem)) : stateAt L (i.key rt) = some (s, rem) := by
  rw [← h.books_eq] at he
  exact he

theorem sound {i : Identity} {s : AccountState} (h : Refines rt L b)
    (he : b.entry i = some (s, rem)) : s.Sound rt rem :=
  h.canonical.sound (h.stateAt_of_entry he)

theorem owner {i : Identity} {p : AccountState × List (BitVec 8)} (h : Refines rt L b)
    (he : b.entry i = some p) : (L (i.key rt)).owner = ID :=
  (stateAt_eq_some.1 (h.stateAt_of_entry he)).1

theorem lamports_eq (h : Refines rt L b) (k : Pubkey) : (L k).lamports = b.lamports k := by
  rw [← h.books_eq]
  rfl

theorem tokens_eq (h : Refines rt L b) (k : Pubkey) : Token.unpack L k = b.tokens k := by
  rw [← h.books_eq]
  rfl

theorem config {c : ProgramConfig} (h : Refines rt L b) (hv : view ID L k = some (c, rem)) :
    k = Identity.config.key rt ∧ b.entry .config = some (.programConfig c, rem) :=
  h.entry_of_stateAt (view_eq_stateAt.1 hv)

theorem journal {j : Journal} (h : Refines rt L b) (hv : view ID L k = some (j, rem)) :
    k = rt.journalKey ∧ b.entry .journal = some (.journal j, rem) :=
  h.entry_of_stateAt (view_eq_stateAt.1 hv)

theorem dist {d : Distribution} (h : Refines rt L b) (hv : view ID L k = some (d, rem)) :
    k = rt.distributionKey d.dzEpoch ∧ b.HasDist d rem :=
  h.entry_of_stateAt (view_eq_stateAt.1 hv)

theorem contributor {r : ContributorRewards} (h : Refines rt L b)
    (hv : view ID L k = some (r, rem)) :
    k = Identity.key rt (.contributor r.serviceKey) ∧
      b.entry (.contributor r.serviceKey) = some (.contributorRewards r, rem) :=
  h.entry_of_stateAt (view_eq_stateAt.1 hv)

theorem deposit {p : SolanaValidatorDeposit} (h : Refines rt L b)
    (hv : view ID L k = some (p, rem)) :
    k = rt.depositKey p.nodeId ∧
      b.entry (.deposit p.nodeId) = some (.solanaValidatorDeposit p, rem) :=
  h.entry_of_stateAt (view_eq_stateAt.1 hv)

theorem integration {i : RewardsIntegration} (h : Refines rt L b)
    (hv : view ID L k = some (i, rem)) :
    k = Identity.key rt (.integration i.programId) ∧
      b.entry (.integration i.programId) = some (.rewardsIntegration i, rem) :=
  h.entry_of_stateAt (view_eq_stateAt.1 hv)

/-! ## Writing -/

theorem write {s : AccountState} (h : Refines rt L b) (hk : k = s.identity.key rt)
    (ho : (L k).owner = ID) (hs : s.Sound rt rem) :
    Refines rt (L.write k (.zeroCopy s rem)) (b.set s.identity s rem) := by
  refine ⟨h.canonical.write ho hk hs, ?_⟩
  subst hk
  rw [books_write ho, h.books_eq]

/-- Rewriting an account the program already has. -/
theorem rewrite {s₀ s : AccountState} {rem₀ : List (BitVec 8)} (h : Refines rt L b)
    (he : b.entry s.identity = some (s₀, rem₀)) (hk : k = s.identity.key rt)
    (hs : s.Sound rt rem) :
    Refines rt (L.write k (.zeroCopy s rem)) (b.set s.identity s rem) := by
  refine h.write hk ?_ hs
  rw [hk]
  exact h.owner he

/-- What was just stored. -/
theorem entry_self {i : Identity} {s : AccountState} (h : Refines rt L (b.set i s rem)) :
    (books rt L).entry i = some (s, rem) := by
  rw [h.books_eq]
  exact Books.set_entry_self ..

theorem hasDist {d : Distribution} (h : Refines rt L b) (hd : b.HasDist d rem) :
    (books rt L).HasDist d rem := by
  rw [h.books_eq]
  exact hd

theorem books_tokens_eq (h : Refines rt L b) : (books rt L).tokens = b.tokens := by
  rw [h.books_eq]

/-- A step of a distribution, stored. -/
theorem stepDist {a : DistAction} {d d' : Distribution} {rem' : List (BitVec 8)}
    (h : Refines rt L b) (hk : k = rt.distributionKey d.dzEpoch) (has : b.HasDist d rem)
    (step : DistStep rt a (d, rem) (d', rem')) :
    Refines rt (L.write k (.zeroCopy (.distribution d') rem')) (b.setDist d' rem') := by
  obtain ⟨hepoch, hbump, htoken⟩ := step.fixed
  have hsound := h.sound has
  have hid : (AccountState.distribution d').identity = (AccountState.distribution d).identity :=
    congrArg Identity.distribution hepoch
  refine h.rewrite (by rw [hid]; exact has) (by rw [hid]; exact hk) ?_
  show d'.bumpSeed = _ ∧ d'.token2zPdaBumpSeed = _
  simp only at hepoch hbump htoken
  rw [hepoch, hbump, htoken]
  exact hsound

/-! ## Lamports -/

theorem credit (h : Refines rt L b) (k : Pubkey) (n : Nat) :
    Refines rt (L.credit k n) (b.addLamports k n) :=
  ⟨h.canonical.credit k n, by rw [books_credit, h.books_eq]⟩

theorem debit (h : Refines rt L b) (k : Pubkey) (n : Nat) :
    Refines rt (L.debit k n) (b.subLamports k n) :=
  ⟨h.canonical.debit k n, by rw [books_debit, h.books_eq]⟩

theorem moveLamports {source target : Pubkey} {n : Nat} {s : Exec AccountState}
    {r : Unit × Exec AccountState} (h : Refines rt s.ledger b)
    (hm : Solana.moveLamports source target n s = .ok r) :
    ∃ b', Refines rt r.2.ledger b' ∧ LamportMove source target n b b' := by
  rcases moveLamports_eq_ok.1 hm with ⟨heq, rfl⟩ | ⟨hne, henough, hroom, rfl⟩
  · exact ⟨b, h, .inl ⟨heq, rfl⟩⟩
  · rw [h.lamports_eq] at henough hroom
    exact ⟨_, (h.debit source n).credit target n, .inr ⟨hne, henough, hroom, rfl⟩⟩

/-- A System transfer into an account of the program. The payer belongs to the System program, so it
is not an account of this program. -/
theorem paidIn {signers : List Pubkey} {source : Pubkey} {n : Nat} (h : Refines rt L b)
    (hown : b.Owns rt k) (ht : System.transfer signers source k n L = .ok L') :
    ∃ lamports, Refines rt L' { b with lamports := lamports } ∧ b.PaidIn rt k n lamports ∧
      lamports k < 2 ^ 64 := by
  obtain ⟨-, -, hsys, -, hroom, rfl⟩ := System.transfer_eq_ok.1 ht
  have hsource : ∀ k', b.Owns rt k' → k' ≠ source := by
    rintro _ hk' rfl
    rw [← h.books_eq] at hk'
    exact absurd (hk'.owner_eq.symm.trans hsys) (by decide)
  have hne := hsource k hown
  refine ⟨_, (h.debit source n).credit k n, ⟨?_, ?_⟩, ?_⟩
  · simp [Books.subLamports, hne]
  · intro k' hk' hkne
    simp [Books.subLamports, hkne, hsource k' hk']
  · rw [Ledger.debit_lamports, if_neg hne, h.lamports_eq] at hroom
    simpa [Books.addLamports, Books.subLamports, hne] using hroom

/-! ## Tokens -/

theorem writeToken {a a' : TokenAccount} (h : Refines rt L b) (ha : b.tokens k = some a) :
    Refines rt (L.write k (.token a')) (b.setToken k a') := by
  rw [← h.tokens_eq] at ha
  exact ⟨h.canonical.writeToken ha, by rw [books_writeToken ha, h.books_eq]⟩

theorem transfer {signers : List Pubkey} {source target authority : Pubkey} {amount : UInt64}
    (h : Refines rt L b) (ht : Token.transfer signers source target authority amount L = .ok L') :
    ∃ b', Refines rt L' b' ∧ TokenTransfer source target authority amount b b' := by
  obtain ⟨a, c, ha, hc, hle, hmint, hauth, -, heq | hne⟩ := Token.transfer_eq_ok.1 ht
  · obtain ⟨heq, rfl⟩ := heq
    rw [h.tokens_eq] at ha hc
    exact ⟨b, h, a, c, ha, hc, hle, hmint, hauth, .inl ⟨heq, rfl⟩⟩
  · obtain ⟨hne, hroom, rfl⟩ := hne
    rw [h.tokens_eq] at ha hc
    have hc' : (b.setToken source { a with amount := a.amount - amount }).tokens target = some c := by
      rw [Books.setToken_tokens, if_neg hne.symm, hc]
    exact ⟨_, (h.writeToken ha).writeToken hc', a, c, ha, hc, hle, hmint, hauth,
      .inr ⟨hne, hroom, rfl⟩⟩

theorem burn {signers : List Pubkey} {source mint authority : Pubkey} {amount : UInt64}
    (h : Refines rt L b) (ht : Token.burn signers source mint authority amount L = .ok L') :
    ∃ b', Refines rt L' b' ∧ TokenBurn source mint authority amount b b' := by
  obtain ⟨a, ha, hle, hmint, hauth, -, rfl⟩ := Token.burn_eq_ok.1 ht
  rw [h.tokens_eq] at ha
  exact ⟨_, h.writeToken ha, a, ha, hle, hmint, hauth, rfl⟩

/-! ## Creation and other programs -/

theorem allocated {len : Nat} (h : Refines rt L b)
    (hal : Allocated rt.rent k ID (.zeroed len) L L') :
    Refines rt L' { b with lamports := (books rt L').lamports } := by
  refine ⟨h.canonical.of_same (stateAt_allocated hal (by simp)), ?_⟩
  rw [books_allocated hal, h.books_eq]

theorem allocatedToken {a : TokenAccount} (h : Refines rt L b)
    (hal : Allocated rt.rent k tokenProgramId (.token a) L L') :
    Refines rt L' { b.setToken k a with lamports := (books rt L').lamports } := by
  refine ⟨h.canonical.of_same (stateAt_allocated hal (by simp)), ?_⟩
  rw [books_allocatedToken hal, h.books_eq]

theorem keepsLamports {owner : Pubkey} {data : AccountData AccountState} (h : Refines rt L b)
    (hal : Allocated rt.rent k owner data L L') :
    b.KeepsLamports rt (books rt L').lamports := by
  rw [← h.books_eq]
  exact keepsLamports_of_allocated hal

/-- Nothing was at the address of a new token account before. -/
theorem tokens_none {owner : Pubkey} {data : AccountData AccountState} (h : Refines rt L b)
    (hal : Allocated rt.rent k owner data L L') : b.tokens k = none := by
  rw [← h.tokens_eq]
  exact unpack_none_of_owner (by rw [hal.vacant]; decide)

theorem entry_none {owner : Pubkey} {data : AccountData AccountState} {i : Identity}
    (h : Refines rt L b) (hal : Allocated rt.rent (i.key rt) owner data L L') :
    b.entry i = none := by
  rw [← h.books_eq]
  exact entry_none_of_allocated hal

/-- A new account. -/
theorem create {i : Identity} {len : Nat} (h : Refines rt L b)
    (hal : Allocated rt.rent (i.key rt) ID (.zeroed len) L L') :
    Refines rt L' { b with lamports := (books rt L').lamports } ∧ b.entry i = none ∧
      rt.rent.minimumBalance len ≤ (books rt L').lamports (i.key rt) ∧
      (L' (i.key rt)).owner = ID ∧ (L' (i.key rt)).data = .zeroed len :=
  ⟨h.allocated hal, h.entry_none hal, hal.funded, hal.owner_eq, hal.data_eq⟩

/-- A new account and the 2Z token account it comes with. -/
theorem createPair {i : Identity} {len : Nat} {tokenOwner : Pubkey} {a : TokenAccount}
    {L₁ L₂ : RevenueLedger} (h : Refines rt L b)
    (hal₁ : Allocated rt.rent (i.key rt) ID (.zeroed len) L L₁)
    (hal₂ : Allocated rt.rent (rt.find2zTokenPdaAddress tokenOwner).1 tokenProgramId (.token a)
      L₁ L₂) :
    Refines rt L₂ { b.setToken (rt.find2zTokenPdaAddress tokenOwner).1 a with
        lamports := (books rt L₂).lamports } ∧
      b.entry i = none ∧ b.KeepsLamports rt (books rt L₂).lamports ∧
      rt.rent.minimumBalance len ≤ (books rt L₂).lamports (i.key rt) ∧
      (L₂ (i.key rt)).owner = ID ∧ (L₂ (i.key rt)).data = .zeroed len ∧
      b.tokens (rt.find2zTokenPdaAddress tokenOwner).1 = none := by
  have hne : i.key rt ≠ (rt.find2zTokenPdaAddress tokenOwner).1 := i.key_ne_token tokenOwner
  have h₁ := h.allocated hal₁
  refine ⟨h₁.allocatedToken hal₂, h.entry_none hal₁, ?_, ?_, ?_, ?_, h₁.tokens_none hal₂⟩
  · intro k hk
    rw [h₁.keepsLamports hal₂ k hk]
    exact h.keepsLamports hal₁ k hk
  · have hframe := hal₂.lamports_frame _ hne (by rw [hal₁.owner_eq]; decide)
    show _ ≤ (L₂ _).lamports
    rw [hframe]
    exact hal₁.funded
  · rw [hal₂.owner_frame _ hne, hal₁.owner_eq]
  · rw [hal₂.data_frame _ hne, hal₁.data_eq]

theorem foreign (h : Refines rt L b) (hf : Foreign rt L L') :
    Refines rt L' (books rt L') ∧ b.Foreign rt (books rt L') := by
  refine ⟨.start (h.canonical.foreign hf), ?_⟩
  rw [← h.books_eq]
  exact books_foreign hf

end Refines

/-! ## Composed operations -/

/-- A successful processor leaves a canonical ledger and makes a transition of the books. -/
def Followed (rt : Runtime) (call : Call) (L : RevenueLedger) (r : Unit × Exec AccountState) :
    Prop :=
  Canonical rt r.2.ledger ∧ Transition rt call (books rt L) (books rt r.2.ledger)

theorem Refines.followed {rt : Runtime} {call : Call} {L : RevenueLedger}
    {r : Unit × Exec AccountState} {b' : Books} (h : Refines rt r.2.ledger b')
    (ht : Transition rt call (books rt L) b') : Followed rt call L r :=
  ⟨h.canonical, by rw [h.books_eq]; exact ht⟩


section Composed

variable {rt : Runtime} {s : Exec AccountState} {b : Books}

theorem processLeaf_bind_ok {β : Type} {r : β × Exec AccountState} {rem : List (BitVec 8)}
    {start stop leafIndex : UInt32} {log : String} {f : List (BitVec 8) → RevenueProcessor β} :
    (processLeaf rem start stop leafIndex log >>= f) s = .ok r ↔
      ∃ rem', MarksLeaf rem start stop leafIndex rem' ∧ f rem' s = .ok r := by
  simp only [bind_eq_ok, processLeaf, tryProcessRemainingDataLeafIndex]
  constructor
  · rintro ⟨rem', s₁, hp, h⟩
    split at hp
    · next hrange =>
      cases hbyte : (window rem start.toNat stop.toNat)[leafIndex.toNat / 8]? with
      | none => simp [hbyte] at hp
      | some byte =>
        cases hbit : bit byte (leafIndex.toNat % 8) with
        | true => simp [hbyte, hbit] at hp
        | false =>
          simp only [hbyte, hbit, Bool.false_eq_true, if_false, Except.ok.injEq,
            Prod.mk.injEq] at hp
          obtain ⟨rfl, rfl⟩ := hp
          exact ⟨_, ⟨hrange.1, hrange.2, byte, hbyte, hbit, rfl⟩, h⟩
    · cases hp
  · rintro ⟨rem', ⟨hle, hstop, byte, hbyte, hbit, rfl⟩, h⟩
    refine ⟨_, s, ?_, h⟩
    simp only [hle, hstop, and_self, if_true, hbyte, hbit, Bool.false_eq_true, if_false]

/-- The token account an instruction is given is the one its owner's address leads to. -/
theorem tokenPda_key {tokenOwner k : Pubkey} {bump? : Option UInt8} {bump : UInt8}
    (hbump : bump? = none ∨ bump? = some (rt.find2zTokenPdaAddress tokenOwner).2)
    (h : rt.expected2zTokenPda tokenOwner bump? = some (k, bump)) :
    (k, bump) = rt.find2zTokenPdaAddress tokenOwner := by
  rcases hbump with rfl | rfl
  · exact (Option.some.inj h).symm
  · have hcreate : rt.checked2zTokenPdaAddress tokenOwner (rt.find2zTokenPdaAddress tokenOwner).2 =
        some (rt.find2zTokenPdaAddress tokenOwner).1 := Runtime.create_find _
    rw [Runtime.expected2zTokenPda, hcreate] at h
    exact (Option.some.inj h).symm

/-- What `createOwned` leaves behind. -/
theorem createOwned_ok {payer newAccount : AccountInfo} {seeds : List Seed} {bump : UInt8}
    {len : Nat} {additional : Option Nat} {r : Unit × Exec AccountState} (hlen : len ≠ 0)
    (h : rt.createOwned payer newAccount seeds bump len additional s = .ok r) :
    ∃ L', r = ((), { s with ledger := L' }) ∧
      Allocated rt.rent newAccount.key ID (.zeroed len) s.ledger L' ∧
      min (additional.getD 0 + rt.rent.minimumBalance len) (2 ^ 64 - 1) ≤
        (L' newAccount.key).lamports := by
  rw [Runtime.createOwned, account_bind_ok] at h
  exact tryCreateAccount_ok h rfl hlen

theorem create2zToken_ok {payer newAccount : AccountInfo} {tokenOwner : Pubkey} {bump : UInt8}
    {r : Unit × Exec AccountState}
    (h : rt.create2zToken payer newAccount tokenOwner bump s = .ok r) :
    ∃ L', r = ((), { s with ledger := L' }) ∧
      Allocated rt.rent newAccount.key tokenProgramId
        (.token ⟨DOUBLEZERO_MINT_KEY, tokenOwner, 0⟩) s.ledger L' := by
  rw [Runtime.create2zToken, account_bind_ok] at h
  exact tryCreateTokenAccount_ok h rfl

/-- Growing a distribution is its step, and a payment for the new length and the relays. -/
theorem growDistribution_refines {account : ZeroCopyAccount Distribution} {d' : Distribution}
    {a : DistAction} {n : UInt32} {relayLamports : Nat} {r : Unit × Exec AccountState}
    (href : Refines rt s.ledger b) (hkey : account.info.key = rt.distributionKey account.data.dzEpoch)
    (has : b.HasDist account.data account.remainingData)
    (hstep : n.toNat ≤ MAX_PERMITTED_DATA_INCREASE →
      DistStep rt a (account.data, account.remainingData)
        (d', account.remainingData ++ List.replicate n.toNat 0#8))
    (h : growDistribution rt account d' n relayLamports s = .ok r) :
    ∃ rem' lamports, DistStep rt a (account.data, account.remainingData) (d', rem') ∧
      Refines rt r.2.ledger (Books.setDist { b with lamports := lamports } d' rem') ∧
      b.PaidIn rt (rt.distributionKey account.data.dzEpoch)
        (min (relayLamports + (rt.rent.minimumBalance (dataEnd AccountState Distribution + rem'.length) -
          b.lamports (rt.distributionKey account.data.dzEpoch))) (2 ^ 64 - 1)) lamports ∧
      lamports (rt.distributionKey account.data.dzEpoch) < 2 ^ 64 := by
  simp only [growDistribution, ↓store_bind_ok, ↓account_bind_ok, ↓resize_bind_ok, ↓tryNext_bind_ok,
    accepts_default, true_and, invokeUnsigned_eq_ok, Ledger.write_data_self,
    AccountData.zeroCopy.injEq, Ledger.write_lamports, Exec.info_key] at h
  obtain ⟨data, rem, ⟨rfl, rfl⟩, hfit, m, rest, -, L', ht, rfl⟩ := h
  simp only [AccountData.dataLen, Nat.add_sub_cancel_left, Ledger.write_write] at hfit ht
  have step := hstep hfit
  have hlen : ZeroCopySum.len (wrap d' : AccountState) = dataEnd AccountState Distribution := rfl
  have hstored := href.stepDist hkey has step
  have hown : (b.setDist d' (account.remainingData ++ List.replicate n.toNat 0#8)).Owns rt
      account.info.key := by
    refine ⟨.distribution d'.dzEpoch, ?_, ?_⟩
    · rw [step.fixed.1]; exact hkey
    · simp [Books.setDist]
  obtain ⟨lamports, hL', hpaid, hroom⟩ := hstored.paidIn hown ht
  refine ⟨_, lamports, step, hL', ?_, hkey ▸ hroom⟩
  rw [hlen, href.lamports_eq, Nat.add_assoc] at hpaid
  rw [List.length_append, List.length_replicate, ← hkey]
  exact ⟨hpaid.1, fun k' hk' hne => hpaid.2 k' (hk'.set _ _ _) hne⟩

end Composed

end DoubleZero.Revenue
