import DoubleZero.Revenue.Canonical

/-!
# What an instruction does to the books

`DistStep` says what can happen to one distribution: which of its fields an instruction changes, and
what it asks of the distribution first. `Transition` says what a whole instruction does to the
books: the steps of the distributions it touches, and the journal, deposits, lamports and tokens
that go with them. Everything else stays, since a transition is stated as an update.

Both are relations read off the processor; the module `Refine` proves that every successful call is
a transition.
-/

namespace DoubleZero.Revenue

open DoubleZero.Lib DoubleZero.Solana

/-! ## One distribution -/

/-- A distribution's data and the bytes after it, which hold its bitmaps. -/
abbrev DistState := Distribution × List (BitVec 8)

/-- What can happen to a distribution. -/
inductive DistAction where
  | configureDebt (totalValidators : UInt32) (totalDebt : UInt64) (merkleRoot : Hash)
  | finalizeDebt
  | configureRewards (totalContributors : UInt32) (merkleRoot : Hash)
  | setEconomicBurnRate (burnRate : BurnRate)
  | finalizeRewards
  | collect (registrationIndex : UInt16) (amount : UInt64)
  | distribute (leafIndex : UInt32) (rewardShare : RewardShare) (transferred burned : UInt64)
  | pay (leafIndex : UInt32) (debt : SolanaValidatorDebt)
  | enableWriteOff
  | writeOff (leafIndex : UInt32) (debt : SolanaValidatorDebt)
  | book (amount : UInt64)
  | sweep (solDebt token2zAmount : UInt64)
  | migrate (integrationsCountSnapshot : UInt16)

/-- Bit `leafIndex` of the bitmap in `start .. stop` was clear and is now set. -/
structure MarksLeaf (rem : List (BitVec 8)) (start stop leafIndex : UInt32)
    (rem' : List (BitVec 8)) : Prop where
  start_le : start ≤ stop
  stop_le : stop.toNat ≤ rem.length
  marked : ∃ byte, (window rem start.toNat stop.toNat)[leafIndex.toNat / 8]? = some byte ∧
    bit byte (leafIndex.toNat % 8) = false ∧
    rem' = splice rem start.toNat stop.toNat ((window rem start.toNat stop.toNat).set
      (leafIndex.toNat / 8) (setBit byte (leafIndex.toNat % 8) true))

/-- The leaf is in the tree with the given root at the given index. -/
def Verifies (rt : Runtime) (root : Hash) (leafIndex : UInt32) (leaf : Leaf) : Prop :=
  ∃ proof, proof.leafIndex = some leafIndex ∧ rt.rootFromPodLeaf proof leaf = root

/-- The remaining data grown by one bitmap. -/
def grown (rem : List (BitVec 8)) (n : UInt32) : List (BitVec 8) :=
  rem ++ List.replicate (bitmapLen n).toNat 0#8

/-- Where a bitmap appended to the remaining data starts and ends. -/
def bitmapStart (rem : List (BitVec 8)) : UInt32 := UInt32.ofNat rem.length

def bitmapEnd (rem : List (BitVec 8)) (n : UInt32) : UInt32 :=
  saturatingAdd32 (bitmapStart rem) (bitmapLen n)

inductive DistStep (rt : Runtime) : DistAction → DistState → DistState → Prop
  | configureDebt {d : Distribution} {rem : List (BitVec 8)} {totalValidators : UInt32}
      {totalDebt : UInt64} {merkleRoot : Hash} (open_ : d.isDebtCalculationFinalized = false) :
      DistStep rt (.configureDebt totalValidators totalDebt merkleRoot) (d, rem)
        ({ d with
            totalSolanaValidators := totalValidators
            totalSolanaValidatorDebt := totalDebt
            solanaValidatorDebtMerkleRoot := merkleRoot }, rem)
  | finalizeZeroDebt {d : Distribution} {rem : List (BitVec 8)}
      (open_ : d.isDebtCalculationFinalized = false) (zero : d.checkedTotalSolDebt = some 0) :
      DistStep rt .finalizeDebt (d, rem) (d.setIsDebtCalculationFinalized true, rem)
  | finalizeDebt {d : Distribution} {rem : List (BitVec 8)} {totalSolDebt : UInt64}
      (open_ : d.isDebtCalculationFinalized = false)
      (debt : d.checkedTotalSolDebt = some totalSolDebt) (nonzero : totalSolDebt ≠ 0)
      (fits : (bitmapLen d.totalSolanaValidators).toNat ≤ MAX_PERMITTED_DATA_INCREASE) :
      DistStep rt .finalizeDebt (d, rem)
        ({ d.setIsDebtCalculationFinalized true with
            processedSolanaValidatorDebtStartIndex := bitmapStart rem
            processedSolanaValidatorDebtEndIndex := bitmapEnd rem d.totalSolanaValidators },
          grown rem d.totalSolanaValidators)
  | configureRewards {d : Distribution} {rem : List (BitVec 8)} {totalContributors : UInt32}
      {merkleRoot : Hash} (open_ : d.isRewardsCalculationFinalized = false) :
      DistStep rt (.configureRewards totalContributors merkleRoot) (d, rem)
        ({ d with totalContributors := totalContributors, rewardsMerkleRoot := merkleRoot }, rem)
  | setEconomicBurnRate {d : Distribution} {rem : List (BitVec 8)} {burnRate : BurnRate}
      (open_ : d.isRewardsCalculationFinalized = false) :
      DistStep rt (.setEconomicBurnRate burnRate) (d, rem)
        ({ d with economicBurnRate := burnRate }, rem)
  | finalizeRewards {d : Distribution} {rem : List (BitVec 8)}
      (open_ : d.isRewardsCalculationFinalized = false)
      (debtFinal : d.isDebtCalculationFinalized = true)
      (nothingOwed : d.rewardsMerkleRoot = default → d.checkedTotalSolDebt = some 0 ∧
        d.totalCollected2zTokens = some 0 ∧ d.areAllIntegrationsCollected = true)
      (fits : (bitmapLen d.totalContributors).toNat ≤ MAX_PERMITTED_DATA_INCREASE) :
      DistStep rt .finalizeRewards (d, rem)
        ({ d.setIsRewardsCalculationFinalized true with
            processedRewardsStartIndex := bitmapStart rem
            processedRewardsEndIndex := bitmapEnd rem d.totalContributors },
          grown rem d.totalContributors)
  | collect {d : Distribution} {rem : List (BitVec 8)} {index : UInt16} {amount total : UInt64}
      {count : UInt16} (open_ : d.areAllIntegrationsCollected = false)
      (inSnapshot : index < d.integrationsCountSnapshot) (capacity : index.toNat < 512)
      (pending : bit d.collectedIntegrationsBitmap index.toNat = false)
      (sum : checkedAdd d.collected2zFromIntegrations amount = some total)
      (counted : checkedAdd16 d.integrationsCollectedCount 1 = some count) :
      DistStep rt (.collect index amount) (d, rem)
        ({ d with
            collected2zFromIntegrations := total
            integrationsCollectedCount := count
            collectedIntegrationsBitmap :=
              setBit d.collectedIntegrationsBitmap index.toNat true }, rem)
  | distribute {d : Distribution} {rem rem' : List (BitVec 8)} {leafIndex : UInt32}
      {rewardShare : RewardShare} {burnShare remainingShare transferred : UInt64}
      (open_ : d.areAllRewardsDistributed = false) (swept : d.hasSwept2zTokens = true)
      (collected : d.areAllIntegrationsCollected = true)
      (marks : MarksLeaf rem d.processedRewardsStartIndex d.processedRewardsEndIndex leafIndex rem')
      (leaf : Verifies rt d.rewardsMerkleRoot leafIndex (.rewardShare rewardShare))
      (split : d.split2zAmount rewardShare = some (burnShare, remainingShare)) :
      DistStep rt (.distribute leafIndex rewardShare transferred
          (burnShare + (remainingShare - transferred))) (d, rem)
        ({ d with
            distributed2zAmount := d.distributed2zAmount + transferred
            burned2zAmount := d.burned2zAmount + (burnShare + (remainingShare - transferred))
            distributedRewardsCount := d.distributedRewardsCount + 1 }, rem')
  | pay {d : Distribution} {rem rem' : List (BitVec 8)} {leafIndex : UInt32}
      {debt : SolanaValidatorDebt} (debtFinal : d.isDebtCalculationFinalized = true)
      (marks : MarksLeaf rem d.processedSolanaValidatorDebtStartIndex
        d.processedSolanaValidatorDebtEndIndex leafIndex rem')
      (leaf : Verifies rt d.solanaValidatorDebtMerkleRoot leafIndex (.solanaValidatorDebt debt)) :
      DistStep rt (.pay leafIndex debt) (d, rem)
        ({ d with
            collectedSolanaValidatorPayments := d.collectedSolanaValidatorPayments + debt.amount
            solanaValidatorPaymentsCount := d.solanaValidatorPaymentsCount + 1 }, rem')
  | enableWriteOff {d : Distribution} {rem : List (BitVec 8)}
      (open_ : d.isSolanaValidatorDebtWriteOffEnabled = false)
      (debtFinal : d.isDebtCalculationFinalized = true)
      (fits : (bitmapLen d.totalSolanaValidators).toNat ≤ MAX_PERMITTED_DATA_INCREASE) :
      DistStep rt .enableWriteOff (d, rem)
        ({ d.setIsSolanaValidatorDebtWriteOffEnabled true with
            processedSolanaValidatorDebtWriteOffStartIndex := bitmapStart rem
            processedSolanaValidatorDebtWriteOffEndIndex := bitmapEnd rem d.totalSolanaValidators },
          grown rem d.totalSolanaValidators)
  | writeOff {d : Distribution} {rem rem₁ rem' : List (BitVec 8)} {leafIndex : UInt32}
      {debt : SolanaValidatorDebt} (enabled : d.isSolanaValidatorDebtWriteOffEnabled = true)
      (marksWriteOff : MarksLeaf rem d.processedSolanaValidatorDebtWriteOffStartIndex
        d.processedSolanaValidatorDebtWriteOffEndIndex leafIndex rem₁)
      (marks : MarksLeaf rem₁ d.processedSolanaValidatorDebtStartIndex
        d.processedSolanaValidatorDebtEndIndex leafIndex rem')
      (leaf : Verifies rt d.solanaValidatorDebtMerkleRoot leafIndex (.solanaValidatorDebt debt)) :
      DistStep rt (.writeOff leafIndex debt) (d, rem)
        ({ d with solanaValidatorWriteOffCount := d.solanaValidatorWriteOffCount + 1 }, rem')
  | book {d : Distribution} {rem : List (BitVec 8)} {amount net : UInt64}
      (unswept : d.hasSwept2zTokens = false) (debtFinal : d.isDebtCalculationFinalized = true)
      (covered : checkedSub d.totalSolanaValidatorDebt (d.uncollectibleSolDebt + amount) =
        some net) :
      DistStep rt (.book amount) (d, rem)
        ({ d with uncollectibleSolDebt := d.uncollectibleSolDebt + amount }, rem)
  | sweepNothing {d : Distribution} {rem : List (BitVec 8)} (unswept : d.hasSwept2zTokens = false)
      (rewardsFinal : d.isRewardsCalculationFinalized = true)
      (zero : d.checkedTotalSolDebt = some 0) :
      DistStep rt (.sweep 0 d.collected2zConvertedFromSol) (d, rem)
        (d.setHasSwept2zTokens true, rem)
  | sweep {d : Distribution} {rem : List (BitVec 8)} {totalSolDebt token2zAmount : UInt64}
      (unswept : d.hasSwept2zTokens = false)
      (rewardsFinal : d.isRewardsCalculationFinalized = true)
      (debt : d.checkedTotalSolDebt = some totalSolDebt) (nonzero : totalSolDebt ≠ 0) :
      DistStep rt (.sweep totalSolDebt token2zAmount) (d, rem)
        ({ d.setHasSwept2zTokens true with collected2zConvertedFromSol := token2zAmount }, rem)
  | migrate {d : Distribution} {rem : List (BitVec 8)} {n : UInt16}
      (epoch : MIN_DZ_EPOCH ≤ d.dzEpoch) :
      DistStep rt (.migrate n) (d, rem) ({ d with integrationsCountSnapshot := n }, rem)

/-! ## Tokens -/

/-- `Token.transfer`, on the books. -/
def TokenTransfer (source target authority : Pubkey) (amount : UInt64) (b b' : Books) : Prop :=
  ∃ a c, b.tokens source = some a ∧ b.tokens target = some c ∧ amount ≤ a.amount ∧
    a.mint = c.mint ∧ a.owner = authority ∧
    ((source = target ∧ b' = b) ∨
      (source ≠ target ∧ c.amount.toNat + amount.toNat < 2 ^ 64 ∧
        b' = (b.setToken source { a with amount := a.amount - amount }).setToken target
          { c with amount := c.amount + amount }))

/-- `Token.burn`, on the books. -/
def TokenBurn (source mint authority : Pubkey) (amount : UInt64) (b b' : Books) : Prop :=
  ∃ a, b.tokens source = some a ∧ amount ≤ a.amount ∧ a.mint = mint ∧ a.owner = authority ∧
    b' = b.setToken source { a with amount := a.amount - amount }

/-- Every recipient in turn is paid its part of `remainingShare` out of the pool. -/
inductive Payouts (rt : Runtime) (pool authority : Pubkey) (remainingShare : UInt64) :
    List RecipientShare → Books → Books → Prop
  | nil {b : Books} : Payouts rt pool authority remainingShare [] b b
  | cons {r : RecipientShare} {rs : List RecipientShare} {b b₁ b₂ : Books} :
      TokenTransfer pool (rt.scheme.getAssociatedTokenAddress r.recipientKey DOUBLEZERO_MINT_KEY)
        authority (r.share.mulScalar remainingShare) b b₁ →
      Payouts rt pool authority remainingShare rs b₁ b₂ →
      Payouts rt pool authority remainingShare (r :: rs) b b₂

/-- The total paid to the recipients, wrapping as the source adds it up. -/
def payoutTotal (remainingShare : UInt64) (recipients : List RecipientShare) : UInt64 :=
  recipients.foldl (fun total r => total + r.share.mulScalar remainingShare) 0

/-! ## Lamports -/

/-- `moveLamports`, on the books. -/
def LamportMove (source target : Pubkey) (n : Nat) (b b' : Books) : Prop :=
  (source = target ∧ b' = b) ∨
    (source ≠ target ∧ n ≤ b.lamports source ∧ b.lamports target + n < 2 ^ 64 ∧
      b' = (b.subLamports source n).addLamports target n)

/-- A payer that is not of this program sends `n` lamports to an account of it. -/
def Books.PaidIn (rt : Runtime) (b : Books) (k : Pubkey) (n : Nat) (lamports : Pubkey → Nat) :
    Prop :=
  lamports k = b.lamports k + n ∧ ∀ k', b.Owns rt k' → k' ≠ k → lamports k' = b.lamports k'

/-! ## Whole instructions -/

def Call.Signed (call : Call) (k : Pubkey) : Prop :=
  ∃ m ∈ call.accounts, m.key = k ∧ m.isSigner = true

/-- The key of the account at a position of the account list. -/
def Call.key? (call : Call) (i : Nat) : Option Pubkey := (call.accounts[i]?).map fun m => m.key

/-- The entry of a distribution. -/
def Books.HasDist (b : Books) (d : Distribution) (rem : List (BitVec 8)) : Prop :=
  b.entry (.distribution d.dzEpoch) = some (.distribution d, rem)

def Books.setDist (b : Books) (d : Distribution) (rem : List (BitVec 8)) : Books :=
  b.set (.distribution d.dzEpoch) (.distribution d) rem

/-- The program is configured and not paused. -/
def Books.Running (b : Books) (c : ProgramConfig) : Prop :=
  (∃ rem, b.entry .config = some (.programConfig c, rem)) ∧ c.isPaused = false

/-- The migration rewrites the snapshot of the distributions it is given, and of no others. -/
structure Migrated (rt : Runtime) (keys : List Pubkey) (n : UInt16) (b b' : Books) : Prop where
  lamports_eq : b'.lamports = b.lamports
  tokens_eq : b'.tokens = b.tokens
  listed : ∀ k ∈ keys, ∃ d rem d' rem', k = rt.distributionKey d.dzEpoch ∧ b.HasDist d rem ∧
    DistStep rt (.migrate n) (d, rem) (d', rem') ∧ b'.HasDist d' rem'
  entry : ∀ i, b'.entry i = b.entry i ∨
    ∃ d rem d' rem', i = .distribution d.dzEpoch ∧ b.entry i = some (.distribution d, rem) ∧
      DistStep rt (.migrate n) (d, rem) (d', rem') ∧ b'.entry i = some (.distribution d', rem') ∧
      rt.distributionKey d.dzEpoch ∈ keys

/-- A distribution as `try_initialize_distribution` leaves it. -/
structure Initialized (rt : Runtime) (c : ProgramConfig) (j : Journal) (prepaid : UInt64)
    (d : Distribution) : Prop where
  dzEpoch_eq : d.dzEpoch = c.nextCompletedDzEpoch
  sound : (AccountState.distribution d).Sound rt []
  snapshot_eq : d.integrationsCountSnapshot = j.integrationsCount
  prepaid_eq : d.collectedPrepaid2zPayments = prepaid
  fees_eq : d.solanaValidatorFeeParameters = c.distributionParameters.solanaValidatorFeeParameters
  relay_eq : c.checkedDistributeRewardsRelayLamports = some d.distributeRewardsRelayLamports
  rest_eq : d = { (default : Distribution) with
    dzEpoch := d.dzEpoch
    bumpSeed := d.bumpSeed
    token2zPdaBumpSeed := d.token2zPdaBumpSeed
    communityBurnRate := d.communityBurnRate
    solanaValidatorFeeParameters := d.solanaValidatorFeeParameters
    distributeRewardsRelayLamports := d.distributeRewardsRelayLamports
    calculationAllowedTimestamp := d.calculationAllowedTimestamp
    integrationsCountSnapshot := d.integrationsCountSnapshot
    collectedPrepaid2zPayments := d.collectedPrepaid2zPayments }

/-- The config as `try_initialize_distribution` leaves it. -/
structure Advanced (now : Int) (c c' : ProgramConfig) (rate : BurnRate) : Prop where
  computed : c.distributionParameters.communityBurnRateParameters.checkedCompute =
    some (rate, c'.distributionParameters.communityBurnRateParameters)
  waited : ∃ grace, c.checkedDistributionInitializationGracePeriodSeconds = some grace ∧
    (c.lastInitializedDistributionTimestamp.toNat + grace.toNat : Int) ≤ now
  timestamp : (c'.lastInitializedDistributionTimestamp.toNat : Int) = now
  rest_eq : c' = { c with
    lastInitializedDistributionTimestamp := c'.lastInitializedDistributionTimestamp
    distributionParameters := { c.distributionParameters with
      communityBurnRateParameters := c'.distributionParameters.communityBurnRateParameters }
    nextCompletedDzEpoch := c.nextCompletedDzEpoch.saturatingAddDuration 1 }

/-- The config as `try_initialize_program` leaves it. -/
def ProgramConfig.initial (rt : Runtime) : ProgramConfig :=
  ProgramConfig.setIsPaused { (default : ProgramConfig) with
    bumpSeed := (rt.find ProgramConfig.seeds).2
    reserve2zBumpSeed := (rt.find2zTokenPdaAddress (rt.find ProgramConfig.seeds).1).2 } true

/-- The journal as `try_initialize_journal` leaves it. -/
def Journal.initial (rt : Runtime) : Journal :=
  { (default : Journal) with
    bumpSeed := (rt.find Journal.seeds).2
    token2zPdaBumpSeed := (rt.find2zTokenPdaAddress (rt.find Journal.seeds).1).2 }

/-- The journal's ATA is emptied into the pool of a new distribution, if it holds anything. -/
def PrepaidMoved (rt : Runtime) (dzEpoch : DoubleZeroEpoch) (prepaid : UInt64) (b b' : Books) :
    Prop :=
  (prepaid = 0 ∧ b' = b) ∨
    TokenTransfer (rt.scheme.getAssociatedTokenAddress rt.journalKey DOUBLEZERO_MINT_KEY)
      (rt.poolKey dzEpoch) rt.journalKey prepaid b b'

/-- What the program a call invokes made of the ledger behind the books. -/
def Call.Invokes (rt : Runtime) (call : Call) (b b' : Books) : Prop :=
  ∃ L L' returnData, Canonical rt L ∧ call.env.cpi L = .ok (L', returnData) ∧ books rt L = b ∧
    books rt L' = b'

/-- The swap program returned these amounts of SOL and 2Z. -/
def Call.Returns (call : Call) (solAmount token2zAmount : UInt64) : Prop :=
  ∃ L L' programId returnData rest, call.env.cpi L = .ok (L', some (programId, returnData)) ∧
    decodeReturnData returnData = some (solAmount, token2zAmount, rest)

/-- The instruction just before the call moved `amount` of 2Z to the swap destination. -/
def SiblingInstruction.Credits (rt : Runtime) (sibling : SiblingInstruction) (amount : UInt64) :
    Prop :=
  sibling.programId = tokenProgramId ∧ sibling.transferChecked = some amount ∧
    sibling.accounts[1]? = some DOUBLEZERO_MINT_KEY ∧
    sibling.accounts[2]? = some rt.swapDestinationKey

def Call.Credits (rt : Runtime) (call : Call) (amount : UInt64) : Prop :=
  ∃ sibling, call.env.sibling = some sibling ∧ sibling.Credits rt amount

/-- What a successful call does to the books. -/
inductive Transition (rt : Runtime) (call : Call) (b : Books) : Books → Prop
  | initializeProgram {lamports : Pubkey → Nat} {rem : List (BitVec 8)}
      (data : call.data = .initializeProgram) (new : b.entry .config = none)
      (funds : b.KeepsLamports rt lamports)
      (vacant : b.tokens (rt.find2zTokenPdaAddress (Identity.config.key rt)).1 = none) :
      Transition rt call b (Books.set { b.setToken
          (rt.find2zTokenPdaAddress (Identity.config.key rt)).1
          ⟨DOUBLEZERO_MINT_KEY, Identity.config.key rt, 0⟩ with lamports := lamports }
        .config (.programConfig (ProgramConfig.initial rt)) rem)
  | setAdmin {c : ProgramConfig} {rem : List (BitVec 8)} {adminKey : Pubkey}
      (data : call.data = .setAdmin adminKey)
      (config : b.entry .config = some (.programConfig c, rem)) :
      Transition rt call b (b.set .config (.programConfig { c with adminKey := adminKey }) rem)
  | configureProgram {c c' : ProgramConfig} {rem : List (BitVec 8)}
      {setting : ProgramConfiguration} {s : Exec AccountState}
      (data : call.data = .configureProgram setting)
      (config : b.entry .config = some (.programConfig c, rem)) (signed : call.Signed c.adminKey)
      (configured : c.tryConfigure rt setting s = .ok (c', s)) :
      Transition rt call b (b.set .config (.programConfig c') rem)
  | initializeSwapDestination {c : ProgramConfig} {rem : List (BitVec 8)}
      {lamports : Pubkey → Nat} (data : call.data = .initializeSwapDestination)
      (config : b.entry .config = some (.programConfig c, rem))
      (funds : b.KeepsLamports rt lamports)
      (vacant : b.tokens rt.swapDestinationKey = none) :
      Transition rt call b { Books.setToken (b.set .config (.programConfig { c with
            swapAuthorityBumpSeed := rt.findSwapAuthorityAddress.2
            swapDestination2zBumpSeed :=
              (rt.find2zTokenPdaAddress rt.findSwapAuthorityAddress.1).2 }) rem)
          rt.swapDestinationKey
          ⟨DOUBLEZERO_MINT_KEY, rt.findSwapAuthorityAddress.1, 0⟩ with lamports := lamports }
  | initializeJournal {lamports : Pubkey → Nat} {rem : List (BitVec 8)}
      (data : call.data = .initializeJournal) (new : b.entry .journal = none)
      (funds : b.KeepsLamports rt lamports)
      (exempt : rt.rent.minimumBalance MAX_PERMITTED_DATA_INCREASE ≤ lamports rt.journalKey)
      (vacant : b.tokens (rt.find2zTokenPdaAddress rt.journalKey).1 = none) :
      Transition rt call b (Books.set { b.setToken
          (rt.find2zTokenPdaAddress rt.journalKey).1
          ⟨DOUBLEZERO_MINT_KEY, rt.journalKey, 0⟩ with lamports := lamports }
        .journal (.journal (Journal.initial rt)) rem)
  | initializeContributorRewards {lamports : Pubkey → Nat} {serviceKey : Pubkey}
      (data : call.data = .initializeContributorRewards serviceKey)
      (new : b.entry (.contributor serviceKey) = none) (funds : b.KeepsLamports rt lamports) :
      Transition rt call b (Books.set { b with lamports := lamports } (.contributor serviceKey)
        (.contributorRewards { (default : ContributorRewards) with serviceKey := serviceKey }) [])
  | setRewardsManager {c : ProgramConfig} {r : ContributorRewards} {rem : List (BitVec 8)}
      {rewardsManagerKey : Pubkey} (data : call.data = .setRewardsManager rewardsManagerKey)
      (running : b.Running c) (signed : call.Signed c.contributorManagerKey)
      (entry : b.entry (.contributor r.serviceKey) = some (.contributorRewards r, rem))
      (unblocked : r.isSetRewardsManagerBlocked = false) :
      Transition rt call b (b.set (.contributor r.serviceKey)
        (.contributorRewards { r with rewardsManagerKey := rewardsManagerKey }) rem)
  | configureContributorRewards {c : ProgramConfig} {r r' : ContributorRewards}
      {rem : List (BitVec 8)} {setting : ContributorRewardsConfiguration} {s : Exec AccountState}
      (data : call.data = .configureContributorRewards setting) (running : b.Running c)
      (entry : b.entry (.contributor r.serviceKey) = some (.contributorRewards r, rem))
      (signed : call.Signed r.rewardsManagerKey)
      (configured : r.tryConfigure setting s = .ok (r', s))
      (keyContributor : call.key? 1 = some (Identity.key rt (.contributor r.serviceKey))) :
      Transition rt call b (b.set (.contributor r.serviceKey) (.contributorRewards r') rem)
  | initializeDeposit {lamports : Pubkey → Nat} {nodeId : Pubkey}
      (data : call.data = .initializeSolanaValidatorDeposit nodeId)
      (new : b.entry (.deposit nodeId) = none) (funds : b.KeepsLamports rt lamports)
      (exempt : rt.rent.minimumBalance (dataEnd AccountState SolanaValidatorDeposit) ≤
        lamports (rt.depositKey nodeId))
      (prefunded : min (b.lamports (rt.depositKey nodeId) +
        rt.rent.minimumBalance (dataEnd AccountState SolanaValidatorDeposit)) (2 ^ 64 - 1) ≤
        lamports (rt.depositKey nodeId)) :
      Transition rt call b (Books.set { b with lamports := lamports } (.deposit nodeId)
        (.solanaValidatorDeposit { (default : SolanaValidatorDeposit) with nodeId := nodeId }) [])
  | initializeIntegration {c : ProgramConfig} {crem jrem : List (BitVec 8)} {j : Journal}
      {lamports : Pubkey → Nat} {programId : Pubkey} {count : UInt16}
      (data : call.data = .initializeRewardsIntegration)
      (config : b.entry .config = some (.programConfig c, crem)) (signed : call.Signed c.adminKey)
      (new : b.entry (.integration programId) = none)
      (journal : b.entry .journal = some (.journal j, jrem))
      (counted : checkedAdd16 j.integrationsCount 1 = some count)
      (funds : b.KeepsLamports rt lamports) :
      Transition rt call b (Books.set (Books.set { b with lamports := lamports }
          (.integration programId) (.rewardsIntegration ⟨programId,
            (rt.find (RewardsIntegration.seeds programId)).2, j.integrationsCount⟩) [])
        .journal (.journal { j with integrationsCount := count }) jrem)
  | migrate {j : Journal} {jrem : List (BitVec 8)} {b' : Books}
      (data : call.data = .migrateProgramAccounts)
      (journal : b.entry .journal = some (.journal j, jrem))
      (migrated : Migrated rt ((call.accounts.drop 3).map fun m => m.key) j.integrationsCount b b') :
      Transition rt call b b'
  | verify {kind : DistributionMerkleRootKind} {proof : MerkleProof}
      (data : call.data = .verifyDistributionMerkleRoot kind proof) : Transition rt call b b
  | initializeDistribution {c c' : ProgramConfig} {crem jrem : List (BitVec 8)} {j : Journal}
      {rate : BurnRate} {d : Distribution} {prepaid : UInt64} {lamports : Pubkey → Nat}
      {b₁ : Books} (data : call.data = .initializeDistribution)
      (config : b.entry .config = some (.programConfig c, crem)) (unpaused : c.isPaused = false)
      (signed : call.Signed c.debtAccountantKey)
      (journal : b.entry .journal = some (.journal j, jrem))
      (new : b.entry (.distribution c.nextCompletedDzEpoch) = none)
      (advanced : Advanced call.env.unixTimestamp c c' rate)
      (initialized : Initialized rt c j prepaid d) (rate_eq : d.communityBurnRate = rate)
      (funds : b.KeepsLamports rt lamports)
      (exempt : rt.rent.minimumBalance (dataEnd AccountState Distribution) ≤
        lamports (rt.distributionKey d.dzEpoch))
      (moved : PrepaidMoved rt d.dzEpoch prepaid { Books.setToken
          (b.set .config (.programConfig c') crem) (rt.poolKey d.dzEpoch)
          ⟨DOUBLEZERO_MINT_KEY, rt.distributionKey d.dzEpoch, 0⟩ with lamports := lamports } b₁)
      (vacant : b.tokens (rt.poolKey d.dzEpoch) = none) :
      Transition rt call b (b₁.setDist d [])
  | configureDebt {c : ProgramConfig} {d d' : Distribution} {rem rem' : List (BitVec 8)}
      {totalValidators : UInt32} {totalDebt : UInt64} {merkleRoot : Hash}
      (data : call.data = .configureDistributionDebt totalValidators totalDebt merkleRoot)
      (running : b.Running c) (signed : call.Signed c.debtAccountantKey) (has : b.HasDist d rem)
      (allowed : d.isCalculationAllowed call.env.unixTimestamp = true)
      (charged : d.solanaValidatorFeeParameters ≠ default)
      (step : DistStep rt (.configureDebt totalValidators totalDebt merkleRoot) (d, rem)
        (d', rem')) :
      Transition rt call b (b.setDist d' rem')
  | finalizeZeroDebt {c : ProgramConfig} {d d' : Distribution} {rem rem' : List (BitVec 8)}
      (data : call.data = .finalizeDistributionDebt) (running : b.Running c)
      (signed : call.Signed c.debtAccountantKey) (has : b.HasDist d rem)
      (allowed : d.isCalculationAllowed call.env.unixTimestamp = true)
      (step : DistStep rt .finalizeDebt (d, rem) (d', rem')) (same : rem' = rem) :
      Transition rt call b (b.setDist d' rem')
  | finalizeDebt {c : ProgramConfig} {d d' : Distribution} {rem rem' : List (BitVec 8)}
      {lamports : Pubkey → Nat} (data : call.data = .finalizeDistributionDebt)
      (running : b.Running c) (signed : call.Signed c.debtAccountantKey) (has : b.HasDist d rem)
      (allowed : d.isCalculationAllowed call.env.unixTimestamp = true)
      (step : DistStep rt .finalizeDebt (d, rem) (d', rem'))
      (paid : b.PaidIn rt (rt.distributionKey d.dzEpoch)
        (rt.rent.minimumBalance (dataEnd AccountState Distribution + rem'.length) -
          b.lamports (rt.distributionKey d.dzEpoch)) lamports) :
      Transition rt call b (Books.setDist { b with lamports := lamports } d' rem')
  | configureRewards {c : ProgramConfig} {d d' : Distribution} {rem rem' : List (BitVec 8)}
      {totalContributors : UInt32} {merkleRoot : Hash}
      (data : call.data = .configureDistributionRewards totalContributors merkleRoot)
      (running : b.Running c) (signed : call.Signed c.rewardsAccountantKey)
      (has : b.HasDist d rem)
      (allowed : d.isCalculationAllowed call.env.unixTimestamp = true)
      (step : DistStep rt (.configureRewards totalContributors merkleRoot) (d, rem) (d', rem')) :
      Transition rt call b (b.setDist d' rem')
  | setEconomicBurnRate {c : ProgramConfig} {d d' : Distribution} {rem rem' : List (BitVec 8)}
      {value : UInt32} {burnRate : BurnRate}
      (data : call.data = .setDistributionEconomicBurnRate value)
      (valid : UnitShare.new value.toNat = some burnRate) (running : b.Running c)
      (signed : call.Signed c.rewardsAccountantKey) (has : b.HasDist d rem)
      (step : DistStep rt (.setEconomicBurnRate burnRate) (d, rem) (d', rem')) :
      Transition rt call b (b.setDist d' rem')
  | finalizeRewards {c : ProgramConfig} {d d' : Distribution} {rem rem' : List (BitVec 8)}
      {lamports : Pubkey → Nat} {duration : EpochDuration}
      (data : call.data = .finalizeDistributionRewards) (running : b.Running c)
      (has : b.HasDist d rem) (allowed : d.isCalculationAllowed call.env.unixTimestamp = true)
      (configured : c.checkedMinimumEpochDurationToFinalizeRewards = some duration)
      (aged : d.dzEpoch.saturatingAddDuration duration ≤ c.nextCompletedDzEpoch)
      (step : DistStep rt .finalizeRewards (d, rem) (d', rem'))
      (paid : b.PaidIn rt (rt.distributionKey d.dzEpoch)
        (min (d.distributeRewardsRelayLamports.toNat * d.totalContributors.toNat +
            (rt.rent.minimumBalance (dataEnd AccountState Distribution + rem'.length) -
              b.lamports (rt.distributionKey d.dzEpoch))) (2 ^ 64 - 1)) lamports)
      (room : lamports (rt.distributionKey d.dzEpoch) < 2 ^ 64)
      (keyDist : call.key? 1 = some (rt.distributionKey d.dzEpoch)) :
      Transition rt call b (Books.setDist { b with lamports := lamports } d' rem')
  | collect {c : ProgramConfig} {d d' : Distribution} {rem rem' irem : List (BitVec 8)}
      {i : RewardsIntegration} {amount : UInt64} {b₁ : Books}
      (data : call.data = .collectIntegrationRewards) (running : b.Running c)
      (has : b.HasDist d rem)
      (integration : b.entry (.integration i.programId) = some (.rewardsIntegration i, irem))
      (keyDist : call.key? 1 = some (rt.distributionKey d.dzEpoch))
      (keyIntegration : call.key? 2 = some (Identity.key rt (.integration i.programId)))
      (invokes : call.Invokes rt b b₁) (foreign : b.Foreign rt b₁)
      (delta : ∀ a a', b.tokens (rt.poolKey d.dzEpoch) = some a →
        b₁.tokens (rt.poolKey d.dzEpoch) = some a' → amount = a'.amount - a.amount)
      (step : DistStep rt (.collect i.registrationIndex amount) (d, rem) (d', rem')) :
      Transition rt call b (b₁.setDist d' rem')
  | distribute {c : ProgramConfig} {d d' : Distribution} {rem rem' rrem : List (BitVec 8)}
      {r : ContributorRewards} {unitShare economicBurnRate leafIndex : UInt32}
      {proof : MerkleProof} {rewardShare : RewardShare} {burnShare remainingShare : UInt64}
      {relayer : Pubkey} {b₁ b₂ b₃ : Books}
      (data : call.data = .distributeRewards unitShare economicBurnRate proof)
      (indexed : proof.leafIndex = some leafIndex) (running : b.Running c) (has : b.HasDist d rem)
      (keyDist : call.key? 1 = some (rt.distributionKey d.dzEpoch))
      (contributor : b.entry (.contributor r.serviceKey) = some (.contributorRewards r, rrem))
      (share : RewardShare.new r.serviceKey unitShare false economicBurnRate = some rewardShare)
      (recipients : r.recipientShares.activeIter ≠ [])
      (split : d.split2zAmount rewardShare = some (burnShare, remainingShare))
      (payouts : Payouts rt (rt.poolKey d.dzEpoch) (rt.distributionKey d.dzEpoch) remainingShare
        r.recipientShares.activeIter b b₁)
      (step : DistStep rt (.distribute leafIndex rewardShare
          (payoutTotal remainingShare r.recipientShares.activeIter)
          (burnShare + (remainingShare -
            payoutTotal remainingShare r.recipientShares.activeIter))) (d, rem) (d', rem'))
      (burn : TokenBurn (rt.poolKey d.dzEpoch) DOUBLEZERO_MINT_KEY (rt.distributionKey d.dzEpoch)
        (burnShare + (remainingShare - payoutTotal remainingShare r.recipientShares.activeIter))
        (b₁.setDist d' rem') b₂)
      (relayed : LamportMove (rt.distributionKey d.dzEpoch) relayer
        d.distributeRewardsRelayLamports.toNat b₂ b₃)
      (keyContributor : call.key? 2 = some (Identity.key rt (.contributor r.serviceKey))) :
      Transition rt call b b₃
  | pay {c : ProgramConfig} {d d' : Distribution} {rem rem' prem jrem : List (BitVec 8)}
      {p : SolanaValidatorDeposit} {j : Journal} {amount : UInt64} {proof : MerkleProof}
      {leafIndex : UInt32} {b₁ : Books} (data : call.data = .paySolanaValidatorDebt amount proof)
      (indexed : proof.leafIndex = some leafIndex) (running : b.Running c) (has : b.HasDist d rem)
      (keyDist : call.key? 1 = some (rt.distributionKey d.dzEpoch))
      (deposit : b.entry (.deposit p.nodeId) = some (.solanaValidatorDeposit p, prem))
      (journal : b.entry .journal = some (.journal j, jrem))
      (step : DistStep rt (.pay leafIndex ⟨p.nodeId, amount⟩) (d, rem) (d', rem'))
      (enough : amount.toNat ≤ b.lamports (rt.depositKey p.nodeId) -
        rt.rent.minimumBalance (dataEnd AccountState SolanaValidatorDeposit))
      (moved : LamportMove (rt.depositKey p.nodeId) rt.journalKey amount.toNat
        ((b.setDist d' rem').set .journal
          (.journal { j with totalSolBalance := j.totalSolBalance + amount }) jrem) b₁) :
      Transition rt call b b₁
  | enableWriteOff {c : ProgramConfig} {d d' : Distribution} {rem rem' : List (BitVec 8)}
      {lamports : Pubkey → Nat} (data : call.data = .enableSolanaValidatorDebtWriteOff)
      (running : b.Running c) (activated : c.isDebtWriteOffFeatureActivated = true)
      (has : b.HasDist d rem) (keyDist : call.key? 1 = some (rt.distributionKey d.dzEpoch))
      (step : DistStep rt .enableWriteOff (d, rem) (d', rem'))
      (paid : b.PaidIn rt (rt.distributionKey d.dzEpoch)
        (rt.rent.minimumBalance (dataEnd AccountState Distribution + rem'.length) -
          b.lamports (rt.distributionKey d.dzEpoch)) lamports) :
      Transition rt call b (Books.setDist { b with lamports := lamports } d' rem')
  | writeOff {c : ProgramConfig} {d d' w w' : Distribution}
      {rem rem' prem wrem wrem' : List (BitVec 8)} {p : SolanaValidatorDeposit} {amount : UInt64}
      {proof : MerkleProof} {leafIndex : UInt32} {b₁ : Books}
      (data : call.data = .writeOffSolanaValidatorDebt amount proof)
      (indexed : proof.leafIndex = some leafIndex) (running : b.Running c)
      (signed : call.Signed c.debtAccountantKey) (has : b.HasDist d rem)
      (keyDist : call.key? 2 = some (rt.distributionKey d.dzEpoch))
      (keyBook : call.key? 4 = some (rt.distributionKey w.dzEpoch))
      (deposit : b.entry (.deposit p.nodeId) = some (.solanaValidatorDeposit p, prem))
      (short : b.lamports (rt.depositKey p.nodeId) -
        rt.rent.minimumBalance (dataEnd AccountState SolanaValidatorDeposit + prem.length) <
          amount.toNat)
      (step : DistStep rt (.writeOff leafIndex ⟨p.nodeId, amount⟩) (d, rem) (d', rem'))
      (written : b₁ = (b.set (.deposit p.nodeId) (.solanaValidatorDeposit
        { p with writtenOffSolDebt := p.writtenOffSolDebt + amount }) prem).setDist d' rem')
      (hasBook : b₁.HasDist w wrem) (later : d.dzEpoch ≤ w.dzEpoch)
      (bookStep : DistStep rt (.book amount) (w, wrem) (w', wrem'))
      (keyDeposit : call.key? 3 = some (rt.depositKey p.nodeId)) :
      Transition rt call b (b₁.setDist w' wrem')
  | sweepNothing {c : ProgramConfig} {d d' : Distribution} {rem rem' jrem : List (BitVec 8)}
      {j : Journal} (data : call.data = .sweepDistributionTokens) (running : b.Running c)
      (has : b.HasDist d rem) (journal : b.entry .journal = some (.journal j, jrem))
      (next : j.nextDzEpochToSweepTokens = d.dzEpoch) (zero : d.checkedTotalSolDebt = some 0)
      (step : DistStep rt (.sweep 0 d.collected2zConvertedFromSol) (d, rem) (d', rem'))
      (keyDist : call.key? 1 = some (rt.distributionKey d.dzEpoch)) :
      Transition rt call b ((b.setDist d' rem').set .journal (.journal { j with
        nextDzEpochToSweepTokens := j.nextDzEpochToSweepTokens.saturatingAddDuration 1 }) jrem)
  | sweep {c : ProgramConfig} {d d' : Distribution} {rem rem' jrem : List (BitVec 8)} {j : Journal}
      {totalSolDebt token2zAmount : UInt64} {b₁ b₂ : Books}
      (data : call.data = .sweepDistributionTokens) (running : b.Running c) (has : b.HasDist d rem)
      (journal : b.entry .journal = some (.journal j, jrem))
      (next : j.nextDzEpochToSweepTokens = d.dzEpoch)
      (debt : d.checkedTotalSolDebt = some totalSolDebt) (nonzero : totalSolDebt ≠ 0)
      (enough : totalSolDebt ≤ j.swappedSolAmount) (invokes : call.Invokes rt b b₁)
      (foreign : b.Foreign rt b₁)
      (transfer : TokenTransfer rt.swapDestinationKey
        (rt.poolKey d.dzEpoch) rt.findSwapAuthorityAddress.1 token2zAmount b₁ b₂)
      (step : DistStep rt (.sweep totalSolDebt token2zAmount) (d, rem) (d', rem'))
      (returned : call.Returns totalSolDebt token2zAmount)
      (keyDist : call.key? 1 = some (rt.distributionKey d.dzEpoch)) :
      Transition rt call b ((b₂.setDist d' rem').set .journal (.journal { j with
        nextDzEpochToSweepTokens := j.nextDzEpochToSweepTokens.saturatingAddDuration 1
        swappedSolAmount := j.swappedSolAmount - totalSolDebt
        swap2zDestinationBalance := j.swap2zDestinationBalance - token2zAmount }) jrem)
  | withdrawSol {c : ProgramConfig} {j : Journal} {jrem : List (BitVec 8)}
      {amount transferAmount : UInt64} {solDestination : Pubkey} {b₁ : Books}
      (data : call.data = .withdrawSol amount) (running : b.Running c)
      (journal : b.entry .journal = some (.journal j, jrem))
      (enough : amount ≤ j.totalSolBalance)
      (moved : LamportMove rt.journalKey solDestination amount.toNat
        (b.set .journal (.journal { j with
          totalSolBalance := j.totalSolBalance - amount
          swappedSolAmount := j.swappedSolAmount + amount
          swap2zDestinationBalance := j.swap2zDestinationBalance + transferAmount
          lifetimeSwapped2zAmount :=
            j.lifetimeSwapped2zAmount + BitVec.ofNat 128 transferAmount.toNat }) jrem) b₁)
      (credited : call.Credits rt transferAmount) (ready : c.swapAuthorityBumpSeed ≠ 0) :
      Transition rt call b b₁
  | withdrawDeposit {c : ProgramConfig} {p : SolanaValidatorDeposit} {prem : List (BitVec 8)}
      {beneficiary : Pubkey} {n : Nat} {b₁ : Books}
      (data : call.data = .withdrawSolanaValidatorDeposit) (running : b.Running c)
      (deposit : b.entry (.deposit p.nodeId) = some (.solanaValidatorDeposit p, prem))
      (amount : n = b.lamports (rt.depositKey p.nodeId) -
        rt.rent.minimumBalance (dataEnd AccountState SolanaValidatorDeposit) -
        p.writtenOffSolDebt.toNat) (nonzero : n ≠ 0)
      (authorized : beneficiary = p.nodeId ∨ call.Signed p.nodeId)
      (moved : LamportMove (rt.depositKey p.nodeId) beneficiary n b b₁) :
      Transition rt call b b₁

/-- The books move with every step of a run. -/
inductive BookStep (rt : Runtime) : Label → Books → Books → Prop
  | call {call : Call} {b b' : Books} : Transition rt call b b' → BookStep rt (.call call) b b'
  | outside {b b' : Books} : b.Foreign rt b' → BookStep rt .outside b b'

end DoubleZero.Revenue
