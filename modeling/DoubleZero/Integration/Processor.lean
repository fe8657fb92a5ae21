import DoubleZero.Revenue.Safety.Collection

/-!
# Integrations

`revenue-distribution/src/integration.rs` is what the program asks of an integration that it
collects from: the account list it passes, and `WithdrawIntegrationRewardsHandlerAccounts`, with
which an integration takes that list apart. The integration here is the one of
`mock/rewards-integration`, which keeps one account and one 2Z bucket for each epoch.

The data of an integration's own account is opaque to the revenue program, so it is kept beside the
ledger (`OwnAccounts`). The address under which the integration is deployed is a parameter.
-/

namespace DoubleZero.Integration

open DoubleZero.Lib DoubleZero.Solana DoubleZero.Revenue

/-! ## Addresses -/

/-- `INTEGRATION_DISTRIBUTION_SEED_PREFIX` and the epoch. -/
def integrationDistributionSeeds (dzEpoch : DoubleZeroEpoch) : List Seed :=
  [.bytes "integration_distribution", .le64 dzEpoch]

def findIntegrationDistributionAddress (scheme : AddressScheme) (integrationProgramId : Pubkey)
    (dzEpoch : DoubleZeroEpoch) : Pubkey × UInt8 :=
  scheme.findProgramAddress (integrationDistributionSeeds dzEpoch) integrationProgramId

def findIntegrationBucketAddress (scheme : AddressScheme)
    (integrationProgramId integrationDistributionKey : Pubkey) : Pubkey × UInt8 :=
  scheme.findProgramAddress (token2zPdaSeeds integrationDistributionKey) integrationProgramId

/-! ## The handler's accounts -/

structure WithdrawIntegrationRewardsHandlerAccounts where
  integrationDistributionInfo : AccountInfo
  integration2zBucketInfo : AccountInfo
  destinationTokenAccountInfo : AccountInfo
  parentDistribution : ZeroCopyAccount Distribution

def WithdrawIntegrationRewardsHandlerAccounts.tryNextAccounts
    (integrationDzEpoch : DoubleZeroEpoch) :
    RevenueProcessor WithdrawIntegrationRewardsHandlerAccounts := do
  let integrationDistributionInfo ← tryNextEnumeratedAccount { mustBeWritable := true }
  let integration2zBucketInfo ← tryNextEnumeratedAccount { mustBeWritable := true }
  let destinationTokenAccountInfo ← tryNextEnumeratedAccount { mustBeWritable := true }
  let parentDistribution ← tryNextZeroCopy Distribution ID
  require (parentDistribution.info.isSigner = true) .missingRequiredSignature
    s!"Account {parentDistribution.info.index} must be signer"
  require (parentDistribution.data.dzEpoch = integrationDzEpoch) .invalidAccountData
    s!"DZ epoch mismatch: integration={integrationDzEpoch}, parent={parentDistribution.data.dzEpoch}"
  let acct ← account destinationTokenAccountInfo.key
  let destinationTokenAccount ← okOr (unpackData acct.data) .invalidAccountData ""
  require (destinationTokenAccount.owner = parentDistribution.info.key) .invalidAccountData
    s!"Destination token account (account {destinationTokenAccountInfo.index}) authority must be parent distribution"
  return ⟨integrationDistributionInfo, integration2zBucketInfo, destinationTokenAccountInfo,
    parentDistribution⟩

/-! ## The integration -/

structure MockIntegrationDistribution where
  dzEpoch : DoubleZeroEpoch
  bumpSeed : UInt8
  deriving DecidableEq, Repr

/-- `zero_copy::data_end::<MockIntegrationDistribution>()`. -/
def MOCK_INTEGRATION_DISTRIBUTION_END : Nat := DISCRIMINATOR_LEN + 152

/-- What is in the accounts behind the integration's discriminator. -/
abbrev OwnAccounts := Pubkey → Option MockIntegrationDistribution

/-- The integration's instructions, its own and the one of the interface. -/
inductive Instruction where
  | withdrawIntegrationRewards
  | initializeIntegrationDistribution (dzEpoch : DoubleZeroEpoch)
  deriving DecidableEq, Repr

section

variable (scheme : AddressScheme) (rent : Rent) (id : Pubkey) (own : OwnAccounts)

/-- `accounts.first()`. -/
def firstAccount : RevenueProcessor AccountInfo := fun s =>
  match s.accounts with
  | [] => .error (.err .notEnoughAccountKeys "")
  | m :: _ => .ok (⟨0, m.key, m.isSigner, m.isWritable⟩, s)

/-- `ZeroCopyAccount::<MockIntegrationDistribution>::try_from_account_info`. -/
def tryOwnDistribution (info : AccountInfo) : RevenueProcessor MockIntegrationDistribution := do
  let acct ← account info.key
  require (acct.owner = id) .invalidAccountOwner ""
  okOr (own info.key) .invalidAccountData s!"Expected discriminator for account {info.index}"

def tryWithdrawIntegrationRewards : RevenueProcessor Unit := do
  -- The local epoch is read from the first account before the list is taken apart.
  let info ← firstAccount
  let state ← tryOwnDistribution id own info
  let interface ← WithdrawIntegrationRewardsHandlerAccounts.tryNextAccounts state.dzEpoch
  let acct ← account interface.integration2zBucketInfo.key
  let bucket ← okOr (unpackData acct.data) .invalidAccountData ""
  invokeSigned scheme id [(integrationDistributionSeeds state.dzEpoch, state.bumpSeed)] fun signers =>
    Token.transfer signers interface.integration2zBucketInfo.key
      interface.destinationTokenAccountInfo.key interface.integrationDistributionInfo.key
      bucket.amount

/-- `zero_copy::try_initialize` for the integration's account. What the account says from now on is
kept beside the ledger. -/
def tryInitializeOwn (info : AccountInfo) : RevenueProcessor Unit := do
  let acct ← account info.key
  match acct.data with
  | .zeroed len =>
    require (MOCK_INTEGRATION_DISTRIBUTION_END ≤ len) .accountDataTooSmall ""
    modifyLedger fun L => L.write info.key (.other len)
  | _ => fail .invalidAccountData s!"Account {info.key} already initialized with discriminator"

/-- Returns the address of the account and what it says from now on. -/
def tryInitializeIntegrationDistribution (dzEpoch : DoubleZeroEpoch) :
    RevenueProcessor (Pubkey × MockIntegrationDistribution) := do
  let payer ← tryNextEnumeratedAccount {}
  let newIntegrationDistribution ← tryNextEnumeratedAccount {}
  let (expectedKey, bumpSeed) := findIntegrationDistributionAddress scheme id dzEpoch
  require (newIntegrationDistribution.key = expectedKey) .invalidSeeds
    "Invalid seeds for integration distribution"
  let acct ← account newIntegrationDistribution.key
  tryCreateAccount scheme rent id (.signer payer.key)
    (.pda expectedKey (integrationDistributionSeeds dzEpoch) bumpSeed) acct.lamports
    MOCK_INTEGRATION_DISTRIBUTION_END id none
  tryInitializeOwn newIntegrationDistribution
  let newBucket ← tryNextEnumeratedAccount {}
  let (expectedBucketKey, bucketBump) := findIntegrationBucketAddress scheme id expectedKey
  require (newBucket.key = expectedBucketKey) .invalidSeeds "Invalid seeds for integration bucket"
  let acct ← account newBucket.key
  tryCreateTokenAccount scheme rent id (.signer payer.key)
    (.pda newBucket.key (token2zPdaSeeds expectedKey) bucketBump) DOUBLEZERO_MINT_KEY expectedKey
    acct.lamports
  return (newIntegrationDistribution.key, ⟨dzEpoch, bumpSeed⟩)

/-- What an account list is taken apart from. -/
def exec (accounts : List AccountMeta) (L : RevenueLedger) : Exec AccountState :=
  ⟨accounts, L, accounts, 0⟩

/-- The integration's `WithdrawIntegrationRewards`, as a program that is called. -/
def withdraw (accounts : List AccountMeta) (L : RevenueLedger) : Except Failure RevenueLedger :=
  match tryWithdrawIntegrationRewards scheme id own (exec accounts L) with
  | .ok (_, s) => .ok s.ledger
  | .error e => .error e

/-- One invocation of the integration. -/
def process (accounts : List AccountMeta) (ix : Instruction) (L : RevenueLedger) :
    Except Failure (OwnAccounts × RevenueLedger) :=
  match ix with
  | .withdrawIntegrationRewards => (withdraw scheme id own accounts L).map fun L' => (own, L')
  | .initializeIntegrationDistribution dzEpoch =>
    match tryInitializeIntegrationDistribution scheme rent id dzEpoch (exec accounts L) with
    | .ok ((k, m), s) => .ok (Function.update own k (some m), s.ledger)
    | .error e => .error e

end

/-! ## A withdrawal -/

section

variable {scheme : AddressScheme} {id : Pubkey} {own : OwnAccounts} {accounts : List AccountMeta}
  {L L' : RevenueLedger}

/-- What a withdrawal asks for, and the transfer it makes. -/
structure Withdrawn (scheme : AddressScheme) (id : Pubkey) (own : OwnAccounts)
    (accounts : List AccountMeta) (L L' : RevenueLedger) (m : MockIntegrationDistribution)
    (d : Distribution) (bucket destination : TokenAccount)
    (distributionKey bucketKey destinationKey parentKey : Pubkey) : Prop where
  listed : ∃ mi mb md mp rest, accounts = mi :: mb :: md :: mp :: rest ∧
    mi.key = distributionKey ∧ mb.key = bucketKey ∧ md.key = destinationKey ∧ mp.key = parentKey ∧
    mi.isWritable = true ∧ mb.isWritable = true ∧ md.isWritable = true ∧ mp.isSigner = true
  owned : (L distributionKey).owner = id
  own_eq : own distributionKey = some m
  parent_eq : ∃ rem, view ID L parentKey = some (d, rem)
  epoch_eq : d.dzEpoch = m.dzEpoch
  bucket_eq : (L bucketKey).data = .token bucket
  destination_eq : (L destinationKey).data = .token destination
  destination_owner : destination.owner = parentKey
  transfer : ∃ signers,
    Token.transfer signers bucketKey destinationKey distributionKey bucket.amount L = .ok L'

theorem unpackData_eq_some {data : AccountData AccountState} {a : TokenAccount} :
    unpackData data = some a ↔ data = .token a := by
  cases data with
  | token b => simp [unpackData]
  | _ => simp [unpackData]

theorem firstAccount_bind_ok {β : Type} {f : AccountInfo → RevenueProcessor β}
    {s : Exec AccountState} {r : β × Exec AccountState} :
    (firstAccount >>= f) s = .ok r ↔
      ∃ m rest, s.accounts = m :: rest ∧ f ⟨0, m.key, m.isSigner, m.isWritable⟩ s = .ok r := by
  rw [bind_eq_ok]
  unfold firstAccount
  cases s.accounts with
  | nil => simp
  | cons m rest => simp

theorem withdraw_ok (h : withdraw scheme id own accounts L = .ok L') :
    ∃ m d bucket destination ki kb kd kp,
      Withdrawn scheme id own accounts L L' m d bucket destination ki kb kd kp := by
  unfold withdraw at h
  split at h
  · next u s hs =>
    cases h
    simp only [tryWithdrawIntegrationRewards, tryOwnDistribution,
      WithdrawIntegrationRewardsHandlerAccounts.tryNextAccounts, ↓firstAccount_bind_ok,
      ↓bind_bind_ok, ↓account_bind_ok, ↓require_bind_ok, ↓okOr_bind_ok, ↓tryNext_bind_ok,
      ↓zeroCopy_bind_ok, ↓pure_bind_ok, invokeSigned_eq_ok, exec, Exec.advance_iter,
      Exec.advance_ledger, Exec.info_key, Exec.info_isSigner, unpackData_eq_some] at hs
    obtain ⟨mi, _, rfl, hown, m, hm, _, _, hlist, hi, mb, _, rfl, hb, md, _, rfl, hd, mp, rest, rfl,
      d, rem, hview, hsigner, hepoch, destination, hdestination, howner, bucket, hbucket, derived,
      -, L₁, htransfer, hs⟩ := hs
    cases hlist
    cases hs
    exact ⟨m, d, bucket, destination, _, _, _, _, ⟨mi, mb, md, mp, rest, rfl, rfl, rfl, rfl, rfl,
      hi.2.1 rfl, hb.2.1 rfl, hd.2.1 rfl, hsigner⟩, hown, hm, ⟨rem, hview⟩, hepoch, hbucket,
      hdestination, howner, _, htransfer⟩
  · cases h

/-! ## An initialization -/

theorem tryInitializeOwn_eq_ok {info : AccountInfo} {s : Exec AccountState}
    {r : Unit × Exec AccountState} :
    tryInitializeOwn info s = .ok r ↔
      ∃ len, (s.ledger info.key).data = .zeroed len ∧ MOCK_INTEGRATION_DISTRIBUTION_END ≤ len ∧
        r = ((), { s with ledger := s.ledger.write info.key (.other len) }) := by
  unfold tryInitializeOwn
  simp only [↓account_bind_ok]
  cases (s.ledger info.key).data with
  | zeroed len => simp [bind_eq_ok, require_eq_ok, modifyLedger_eq_ok]
  | _ => simp [fail_eq_ok]

/-- The account and the bucket of an epoch are new, and at their addresses. -/
theorem tryInitializeIntegrationDistribution_ok {rent : Rent} {dzEpoch : DoubleZeroEpoch}
    {r : (Pubkey × MockIntegrationDistribution) × Exec AccountState}
    (h : tryInitializeIntegrationDistribution scheme rent id dzEpoch (exec accounts L) = .ok r) :
    r.1 = ((findIntegrationDistributionAddress scheme id dzEpoch).1,
      ⟨dzEpoch, (findIntegrationDistributionAddress scheme id dzEpoch).2⟩) ∧
    ∃ L₁, Allocated rent (findIntegrationDistributionAddress scheme id dzEpoch).1 id
        (.other MOCK_INTEGRATION_DISTRIBUTION_END) L L₁ ∧
      Allocated rent (findIntegrationBucketAddress scheme id
          (findIntegrationDistributionAddress scheme id dzEpoch).1).1 tokenProgramId
        (.token ⟨DOUBLEZERO_MINT_KEY, (findIntegrationDistributionAddress scheme id dzEpoch).1, 0⟩)
        L₁ r.2.ledger := by
  simp only [tryInitializeIntegrationDistribution, ↓tryNext_bind_ok, ↓require_bind_ok,
    ↓account_bind_ok, exec, Exec.advance_iter, Exec.advance_ledger, Exec.info_key] at h
  obtain ⟨m₀, r₀, -, -, m₁, r₁, -, -, hkey, h⟩ := h
  obtain ⟨⟨⟩, s₁, hcreate, h⟩ := bind_eq_ok.1 h
  obtain ⟨L₁, hs₁, hallocated, -⟩ := tryCreateAccount_ok hcreate
    (by simp [Invoker.key, hkey]) (by decide)
  cases hs₁
  obtain ⟨⟨⟩, s₂, hinit, h⟩ := bind_eq_ok.1 h
  obtain ⟨len, hdata, -, hs₂⟩ := tryInitializeOwn_eq_ok.1 hinit
  cases hs₂
  simp only [Exec.info_key, hkey] at hdata h
  obtain rfl : len = MOCK_INTEGRATION_DISTRIBUTION_END := by
    have := hallocated.data_eq
    simp only [Invoker.key] at this
    rw [hdata] at this
    cases this
    rfl
  simp only [↓tryNext_bind_ok, ↓require_bind_ok, ↓account_bind_ok, Exec.advance_ledger,
    Exec.info_key] at h
  obtain ⟨m₂, r₂, -, -, hbucket, h⟩ := h
  obtain ⟨⟨⟩, s₃, htoken, h⟩ := bind_eq_ok.1 h
  obtain ⟨L₂, hs₃, hbucketAllocated⟩ := tryCreateTokenAccount_ok htoken rfl
  cases hs₃
  cases pure_eq_ok.1 h
  refine ⟨rfl, _, hallocated.write rfl, ?_⟩
  rw [← hbucket]
  exact hbucketAllocated

end

end DoubleZero.Integration
