import DoubleZero.Integration.Processor
import DoubleZero.Revenue.Safety.TokenCustody

/-!
# The two programs together

The revenue program and one integration, deployed on the same chain. Anybody may invoke either of
them, in any order; the revenue program invokes the integration in a collection, with the accounts
of the interface. Another integration that is collected from can invoke this one in turn and relay
the signature of the distribution that it was lent (`Relay`). `Joint.project` is the reason to trust
the revenue program in this company: seen from its accounts, a run of both is a run of the one, with
the integration as part of the rest of the chain.
-/

namespace DoubleZero.Integration

open DoubleZero.Lib DoubleZero.Solana DoubleZero.Revenue

/-! ## Signatures -/

/-- An address for which only the given program signs. -/
def DerivedFrom (scheme : AddressScheme) (programId k : Pubkey) : Prop :=
  ∃ seeds bump, scheme.createProgramAddress seeds bump programId = some k

/-- Nobody without the integration's signature takes tokens that are under an address of its own. It
approves no delegate and lends its signature to the SPL Token program only. -/
def KeepsTokensOf (scheme : AddressScheme) (id : Pubkey) (L L' : RevenueLedger) : Prop :=
  ∀ k a, Token.unpack L k = some a → DerivedFrom scheme id a.owner →
    ∃ b, Token.unpack L' k = some b ∧ b.mint = a.mint ∧ b.owner = a.owner ∧ a.amount ≤ b.amount

/-- The integration is another program, and no address is derived from both. -/
structure Deployed (rt : Runtime) (id : Pubkey) : Prop where
  other : id ≠ ID
  apart : ∀ k, DerivedFrom rt.scheme id k → ¬Derived rt k

/-! ## Steps -/

structure State where
  own : OwnAccounts
  ledger : RevenueLedger

/-- Who is invoked, by a transaction. -/
inductive Action where
  | revenue (call : Call)
  | integration (accounts : List AccountMeta) (ix : Instruction)
  | outside

/-- The program a collection calls, by the record it names. -/
def calledProgram (call : Call) (L : RevenueLedger) : Option Pubkey :=
  if call.data = .collectIntegrationRewards then
    (call.key? 2).bind fun k => (view (T := RewardsIntegration) ID L k).map fun p => p.1.programId
  else none

/-- Of the addresses of the two programs at most the one that was lent signs. -/
def Privileged (rt : Runtime) (id : Pubkey) (lent : Option Pubkey) (accounts : List AccountMeta) :
    Prop :=
  ∀ m ∈ accounts, m.isSigner = true →
    (Derived rt m.key → lent = some m.key) ∧ ¬DerivedFrom rt.scheme id m.key

/-- What a program does that was invoked with a lent signature: it invokes the integration, with that
signature at most, or it acts without it. -/
inductive Relay (rt : Runtime) (id : Pubkey) (lent : Option Pubkey) : State → State → Prop
  | integration {accounts : List AccountMeta} {ix : Instruction} {own own' : OwnAccounts}
      {L L' : RevenueLedger} : Privileged rt id lent accounts →
        process rt.scheme rt.rent id own accounts ix L = .ok (own', L') →
        Relay rt id lent ⟨own, L⟩ ⟨own', L'⟩
  | other {own : OwnAccounts} {L L' : RevenueLedger} :
      Foreign rt L L' → KeepsTokensOf rt.scheme id L L' → Relay rt id lent ⟨own, L⟩ ⟨own, L'⟩

/-- A collection from the integration calls it with the accounts of the interface. Another program
that is invoked may relay the signature it was lent. -/
structure InvokesLawfully (rt : Runtime) (id : Pubkey) (call : Call) (own own' : OwnAccounts) :
    Prop where
  cpi : ∀ L L' returnData, call.env.cpi L = .ok (L', returnData) →
    if calledProgram call L = some id then own' = own ∧
      ∃ accounts, call.withdrawAccounts = some accounts ∧
        withdraw rt.scheme id own accounts.metas L = .ok L'
    else Relation.ReflTransGen (Relay rt id (call.lent rt)) ⟨own, L⟩ ⟨own', L'⟩
  /-- Only programs that are invoked act. -/
  idle : (∀ L p, call.env.cpi L ≠ .ok p) → own' = own

inductive Joint (rt : Runtime) (id : Pubkey) : Action → State → State → Prop
  | revenue {call : Call} {own own' : OwnAccounts} {L L' : RevenueLedger} :
      InvokesLawfully rt id call own own' → Revenue.process rt call L = .ok L' →
        Joint rt id (.revenue call) ⟨own, L⟩ ⟨own', L'⟩
  | integration {accounts : List AccountMeta} {ix : Instruction} {own own' : OwnAccounts}
      {L L' : RevenueLedger} : Privileged rt id none accounts →
        process rt.scheme rt.rent id own accounts ix L = .ok (own', L') →
        Joint rt id (.integration accounts ix) ⟨own, L⟩ ⟨own', L'⟩
  | outside {own : OwnAccounts} {L L' : RevenueLedger} :
      Foreign rt L L' → KeepsTokensOf rt.scheme id L L' →
        Joint rt id .outside ⟨own, L⟩ ⟨own, L'⟩

/-- The integration has no accounts before it is first used. -/
def State.initial (L : RevenueLedger) : State := ⟨fun _ => none, L⟩

abbrev JointRun (rt : Runtime) (id : Pubkey) (L₀ : RevenueLedger) :=
  Run (Joint rt id) (State.initial L₀)

/-- A step of both, seen from the revenue program. -/
def Action.label : Action → Label
  | .revenue call => .call call
  | .integration .. | .outside => .outside

/-! ## What the integration does to the ledger -/

section

variable {rt : Runtime} {id k : Pubkey} {own own' : OwnAccounts} {accounts : List AccountMeta}
  {L L' L₁ : RevenueLedger} {st st' : State}

theorem derivedFrom_find (scheme : AddressScheme) (seeds : List Seed) (programId : Pubkey) :
    DerivedFrom scheme programId (scheme.findProgramAddress seeds programId).1 :=
  ⟨seeds, _, scheme.create_find seeds programId⟩

/-- A new account that is not at an address of the revenue program is no matter of that program. -/
theorem foreign_allocated {rent : Rent} {owner : Pubkey} {data : AccountData AccountState}
    (h : Allocated rent k owner data L L') (howner : owner ≠ ID) (hk : ¬Derived rt k) :
    Foreign rt L L' where
  owned k' ho := by
    have hne : k' ≠ k := by
      rintro rfl
      exact absurd (ho.symm.trans h.vacant) (by decide)
    refine ⟨(h.owner_frame k' hne).trans ho, h.data_frame k' hne, ?_⟩
    rw [h.lamports_frame k' hne (by rw [ho]; decide)]
  fresh k' hne ho := by
    by_cases hk' : k' = k
    · subst hk'
      exact absurd (h.owner_eq.symm.trans ho) howner
    · exact absurd ((h.owner_frame k' hk').symm.trans ho) hne
  derived k' hderived ho := by
    have hne : k' ≠ k := by
      rintro rfl
      exact hk hderived
    exact ⟨(h.owner_frame k' hne).trans ho, h.data_frame k' hne⟩

/-- A new account touches no token account there is. -/
theorem unpack_allocated {rent : Rent} {owner : Pubkey} {data : AccountData AccountState}
    (h : Allocated rent k owner data L L') {k' : Pubkey} {a : TokenAccount}
    (ha : Token.unpack L k' = some a) : Token.unpack L' k' = some a := by
  have hne : k' ≠ k := by
    rintro rfl
    exact absurd ((Token.unpack_eq_some.1 ha).1.symm.trans h.vacant) (by decide)
  rw [← ha]
  exact unpack_congr (h.owner_frame k' hne) (h.data_frame k' hne)

theorem keepsTokensOf_of_unpack
    (h : ∀ k a, Token.unpack L k = some a → Token.unpack L' k = some a) :
    KeepsTokensOf rt.scheme id L L' :=
  fun k a ha _ => ⟨a, h k a ha, rfl, rfl, UInt64.le_refl _⟩

/-- A transfer of the SPL Token program, on the books. -/
theorem tokenTransfer_of_ok {signers : List Pubkey} {source target authority : Pubkey}
    {amount : UInt64} (h : Token.transfer signers source target authority amount L = .ok L') :
    TokenTransfer source target authority amount (books rt L) (books rt L') := by
  obtain ⟨a, c, ha, hc, hle, hmint, hauth, -, ⟨heq, rfl⟩ | ⟨hne, hroom, rfl⟩⟩ :=
    Token.transfer_eq_ok.1 h
  · exact ⟨a, c, ha, hc, hle, hmint, hauth, .inl ⟨heq, rfl⟩⟩
  · have hc' : Token.unpack (L.write source (.token { a with amount := a.amount - amount }))
        target = some c := by
      rw [← hc]
      exact unpack_congr (by simp) (by rw [Ledger.write_data, if_neg hne.symm])
    exact ⟨a, c, ha, hc, hle, hmint, hauth, .inr ⟨hne, hroom, by
      rw [books_writeToken hc', books_writeToken ha]⟩⟩

/-- A withdrawal is a transfer of tokens. -/
theorem withdraw_foreign {scheme : AddressScheme} (h : withdraw scheme id own accounts L = .ok L') :
    Foreign rt L L' := by
  obtain ⟨m, d, bucket, destination, ki, kb, kd, kp, hwithdrawn⟩ := withdraw_ok h
  obtain ⟨signers, htransfer⟩ := hwithdrawn.transfer
  exact tokenTransfer_foreign htransfer

/-- Only with the signature of a distribution is anything withdrawn. -/
theorem withdraw_signed (hc : Canonical rt L)
    (h : withdraw rt.scheme id own accounts L = .ok L') :
    ∃ m ∈ accounts, m.isSigner = true ∧ Derived rt m.key := by
  obtain ⟨m, d, bucket, destination, ki, kb, kd, kp, hwithdrawn⟩ := withdraw_ok h
  obtain ⟨mi, mb, md, mp, rest, rfl, -, -, -, hkey, -, -, -, hsigner⟩ := hwithdrawn.listed
  obtain ⟨rem, hview⟩ := hwithdrawn.parent_eq
  refine ⟨mp, by simp, hsigner, ?_⟩
  rw [hkey, (hc.of_view hview).1]
  exact Runtime.derived_find _

/-- The account and the bucket of an epoch are created, and the account says which epoch. -/
def Initializes (rt : Runtime) (id : Pubkey) (own own' : OwnAccounts) (L L' : RevenueLedger) : Prop :=
  ∃ dzEpoch k bump, findIntegrationDistributionAddress rt.scheme id dzEpoch = (k, bump) ∧
    own' = Function.update own k (some ⟨dzEpoch, bump⟩) ∧
    ∃ L₁, Allocated rt.rent k id (.other MOCK_INTEGRATION_DISTRIBUTION_END) L L₁ ∧
      Allocated rt.rent (findIntegrationBucketAddress rt.scheme id k).1 tokenProgramId
        (.token ⟨DOUBLEZERO_MINT_KEY, k, 0⟩) L₁ L'

/-- An invocation of the integration withdraws, or it sets up an epoch. -/
theorem process_cases {ix : Instruction}
    (h : process rt.scheme rt.rent id own accounts ix L = .ok (own', L')) :
    own' = own ∧ withdraw rt.scheme id own accounts L = .ok L' ∨
      Initializes rt id own own' L L' := by
  cases ix with
  | withdrawIntegrationRewards =>
    simp only [process] at h
    cases hw : withdraw rt.scheme id own accounts L with
    | error e => simp [hw, Except.map] at h
    | ok L₁ =>
      rw [hw] at h
      cases h
      exact .inl ⟨rfl, rfl⟩
  | initializeIntegrationDistribution dzEpoch =>
    simp only [process] at h
    cases hi : tryInitializeIntegrationDistribution rt.scheme rt.rent id dzEpoch (exec accounts L) with
    | error e => simp [hi] at h
    | ok r =>
      obtain ⟨⟨k, m⟩, s⟩ := r
      rw [hi] at h
      cases h
      obtain ⟨hr, L₁, hdistribution, hbucket⟩ := tryInitializeIntegrationDistribution_ok hi
      cases hr
      exact .inr ⟨dzEpoch, _, _, rfl, rfl, L₁, hdistribution, hbucket⟩

/-- In a transaction of its own the integration sets up an epoch, and nothing else. -/
theorem process_initializes (hc : Canonical rt L) (hplain : Privileged rt id none accounts)
    {ix : Instruction} (h : process rt.scheme rt.rent id own accounts ix L = .ok (own', L')) :
    Initializes rt id own own' L L' := by
  rcases process_cases h with ⟨-, hwithdraw⟩ | hinitializes
  · obtain ⟨m, hm, hsigner, hderived⟩ := withdraw_signed hc hwithdraw
    cases (hplain m hm hsigner).1 hderived
  · exact hinitializes

/-- Setting up an epoch takes no tokens from anybody. -/
theorem Initializes.unpack (h : Initializes rt id own own' L L') {k : Pubkey} {a : TokenAccount}
    (ha : Token.unpack L k = some a) : Token.unpack L' k = some a := by
  obtain ⟨dzEpoch, k', bump, -, -, L₁, hdistribution, hbucket⟩ := h
  exact unpack_allocated hbucket (unpack_allocated hdistribution ha)

theorem Initializes.foreign (hd : Deployed rt id) (h : Initializes rt id own own' L L') :
    Foreign rt L L' := by
  obtain ⟨dzEpoch, k, bump, hfind, -, L₁, hdistribution, hbucket⟩ := h
  have hk : ¬Derived rt k := by
    refine hd.apart k ?_
    have hderived := derivedFrom_find rt.scheme (integrationDistributionSeeds dzEpoch) id
    rwa [← findIntegrationDistributionAddress, hfind] at hderived
  have hb : ¬Derived rt (findIntegrationBucketAddress rt.scheme id k).1 :=
    hd.apart _ (derivedFrom_find ..)
  exact (foreign_allocated hdistribution hd.other hk).trans (foreign_allocated hbucket (by decide) hb)

/-- The integration finds its accounts at the addresses of their epochs. -/
def OwnAccounts.Canonical (scheme : AddressScheme) (id : Pubkey) (own : OwnAccounts) : Prop :=
  ∀ k m, own k = some m →
    findIntegrationDistributionAddress scheme id m.dzEpoch = (k, m.bumpSeed)

theorem Initializes.canonical (hown : own.Canonical rt.scheme id)
    (h : Initializes rt id own own' L L') : own'.Canonical rt.scheme id := by
  obtain ⟨dzEpoch, k, bump, hfind, rfl, -⟩ := h
  intro k' m hm
  by_cases hk : k' = k
  · subst hk
    rw [Function.update_self] at hm
    cases hm
    exact hfind
  · rw [Function.update_of_ne hk] at hm
    exact hown k' m hm

/-! ## What relaying does -/

variable {lent : Option Pubkey}

theorem Relay.foreign (hd : Deployed rt id) (h : Relay rt id lent st st') :
    Foreign rt st.ledger st'.ledger := by
  cases h with
  | other hforeign => exact hforeign
  | integration hprivileged hprocess =>
    rcases process_cases hprocess with ⟨-, hwithdraw⟩ | hinitializes
    · exact withdraw_foreign hwithdraw
    · exact hinitializes.foreign hd

theorem Relay.canonical (h : Relay rt id lent st st') (hown : st.own.Canonical rt.scheme id) :
    st'.own.Canonical rt.scheme id := by
  cases h with
  | other => exact hown
  | integration hprivileged hprocess =>
    rcases process_cases hprocess with ⟨rfl, -⟩ | hinitializes
    · exact hown
    · exact hinitializes.canonical hown

theorem relayed_foreign (hd : Deployed rt id)
    (h : Relation.ReflTransGen (Relay rt id lent) st st') : Foreign rt st.ledger st'.ledger := by
  induction h with
  | refl => exact .refl
  | tail _ hrelay ih => exact ih.trans (hrelay.foreign hd)

theorem relayed_canonical (h : Relation.ReflTransGen (Relay rt id lent) st st')
    (hown : st.own.Canonical rt.scheme id) : st'.own.Canonical rt.scheme id := by
  induction h with
  | refl => exact hown
  | tail _ hrelay ih => exact hrelay.canonical ih

/-! ## A run of both is a run of the revenue program -/

theorem InvokesLawfully.admissible {call : Call} (hd : Deployed rt id)
    (h : InvokesLawfully rt id call own own') : call.Admissible rt := by
  intro L L' returnData hcpi
  have hcase := h.cpi L L' returnData hcpi
  split at hcase
  · obtain ⟨-, accounts, -, hwithdraw⟩ := hcase
    exact withdraw_foreign hwithdraw
  · exact relayed_foreign hd hcase

theorem InvokesLawfully.canonical {call : Call} (h : InvokesLawfully rt id call own own')
    (hown : own.Canonical rt.scheme id) : own'.Canonical rt.scheme id := by
  by_cases hidle : ∀ L p, call.env.cpi L ≠ .ok p
  · rw [h.idle hidle]
    exact hown
  · push Not at hidle
    obtain ⟨L, ⟨L', returnData⟩, hcpi⟩ := hidle
    have hcase := h.cpi L L' returnData hcpi
    split at hcase
    · rw [hcase.1]
      exact hown
    · exact relayed_canonical hcase hown

/-- A step of both is a step of the revenue program, or one of the rest of the chain. -/
theorem Joint.step {action : Action} (hd : Deployed rt id) (hc : Canonical rt st.ledger)
    (h : Joint rt id action st st') : Step rt action.label st.ledger st'.ledger := by
  cases h with
  | revenue hlawful hprocess => exact .call (hlawful.admissible hd) hprocess
  | integration hplain hprocess =>
    exact .outside ((process_initializes hc hplain hprocess).foreign hd)
  | outside hforeign _ => exact .outside hforeign

theorem Joint.project {h : List (Entry State Action)} {L₀ : RevenueLedger} (hd : Deployed rt id)
    (hg : Genesis rt L₀) (hrun : JointRun rt id L₀ h st) : ∃ h', LedgerRun rt L₀ h' st.ledger := by
  induction hrun with
  | start => exact ⟨[], .start⟩
  | next _ hstep ih =>
    obtain ⟨h', hrun'⟩ := ih
    exact ⟨_, .next hrun' (hstep.step hd (hrun'.books hg).1)⟩

theorem Joint.canonical {h : List (Entry State Action)} {L₀ : RevenueLedger} (hd : Deployed rt id)
    (hg : Genesis rt L₀) (hrun : JointRun rt id L₀ h st) : st.own.Canonical rt.scheme id := by
  induction hrun with
  | start => exact fun k m hm => absurd hm (by simp [State.initial])
  | next hrun hstep ih =>
    obtain ⟨h', hrun'⟩ := Joint.project hd hg hrun
    cases hstep with
    | revenue hlawful => exact hlawful.canonical ih
    | outside => exact ih
    | integration hplain hprocess =>
      exact (process_initializes (hrun'.books hg).1 hplain hprocess).canonical ih

end

end DoubleZero.Integration
