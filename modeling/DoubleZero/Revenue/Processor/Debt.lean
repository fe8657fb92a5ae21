import DoubleZero.Revenue.Processor.Accounts

/-!
# Debt, write-offs, sweeping and withdrawals

The instructions of `processor.rs` that move SOL: validators pay debt out of their deposits into the
journal, bad debt is written off against a distribution that has not swept yet, the swap program
withdraws SOL against 2Z, and a sweep takes the 2Z of one epoch into its distribution.
-/

namespace DoubleZero.Revenue

open DoubleZero.Lib DoubleZero.Solana

variable (rt : Runtime) (env : Env)

/-! ## Validator debt -/

def tryPaySolanaValidatorDebt (amount : UInt64) (proof : MerkleProof) : RevenueProcessor Unit := do
  let leafIndex ← tryLeafIndex proof
  let programConfig ← tryNextZeroCopy ProgramConfig ID
  programConfig.data.tryRequireUnpaused
  let distribution ← tryNextZeroCopyMut Distribution ID
  distribution.data.tryRequireFinalizedDebtCalculation
    "Distribution debt calculation is not finalized yet"
  let d := { distribution.data with
    collectedSolanaValidatorPayments := distribution.data.collectedSolanaValidatorPayments + amount
    solanaValidatorPaymentsCount := distribution.data.solanaValidatorPaymentsCount + 1 }
  let deposit ← tryNextZeroCopyMut SolanaValidatorDeposit ID
  let remainingData ← processLeaf distribution.remainingData
    d.processedSolanaValidatorDebtStartIndex d.processedSolanaValidatorDebtEndIndex leafIndex
    "Solana validator debt already processed"
  let debt : SolanaValidatorDebt := ⟨deposit.data.nodeId, amount⟩
  require (rt.rootFromPodLeaf proof (.solanaValidatorDebt debt) = d.solanaValidatorDebtMerkleRoot)
    .invalidInstructionData
    s!"Invalid computed merkle root: {rt.rootFromPodLeaf proof (.solanaValidatorDebt debt)}"
  -- We cannot remove more lamports than the rent exemption.
  let depositAcct ← account deposit.info.key
  let rentExemptionLamports :=
    rt.rent.minimumBalance (dataEnd AccountState SolanaValidatorDeposit)
  require (amount.toNat ≤ depositAcct.lamports - rentExemptionLamports) .invalidAccountData
    "Insufficient funds in Solana validator deposit to pay debt"
  let journal ← tryNextZeroCopyMut Journal ID
  store distribution.info.key d remainingData
  store journal.info.key { journal.data with
    totalSolBalance := journal.data.totalSolBalance + amount } journal.remainingData
  moveLamports deposit.info.key journal.info.key amount.toNat

def tryEnableSolanaValidatorDebtWriteOff : RevenueProcessor Unit := do
  let programConfig ← tryNextZeroCopy ProgramConfig ID
  programConfig.data.tryRequireUnpaused
  let activationEpoch := programConfig.data.debtWriteOffFeatureActivationEpoch
  require (programConfig.data.isDebtWriteOffFeatureActivated = true) .invalidAccountData
    (if activationEpoch = 0 then "Debt write-off feature activation epoch not configured"
      else s!"Debt write-off feature activates at epoch {activationEpoch}")
  let distribution ← tryNextZeroCopyMut Distribution ID
  require (distribution.data.isSolanaValidatorDebtWriteOffEnabled = false) .invalidAccountData
    "Solana validator debt write off is already enabled"
  let d := distribution.data.setIsSolanaValidatorDebtWriteOffEnabled true
  d.tryRequireFinalizedDebtCalculation "Distribution debt calculation is not finalized yet"
  let additionalDataLen := bitmapLen d.totalSolanaValidators
  let startIndex := UInt32.ofNat distribution.remainingData.length
  growDistribution rt distribution { d with
      processedSolanaValidatorDebtWriteOffStartIndex := startIndex
      processedSolanaValidatorDebtWriteOffEndIndex :=
        saturatingAdd32 startIndex additionalDataLen }
    additionalDataLen 0

def tryWriteOffSolanaValidatorDebt (amount : UInt64) (proof : MerkleProof) :
    RevenueProcessor Unit := do
  let leafIndex ← tryLeafIndex proof
  let programConfig ← verifiedProgramAuthority .debtAccountant
  programConfig.data.tryRequireUnpaused
  let distribution ← tryNextZeroCopyMut Distribution ID
  let dzEpoch := distribution.data.dzEpoch
  let deposit ← tryNextZeroCopyMut SolanaValidatorDeposit ID
  let nodeId := deposit.data.nodeId
  -- If there are enough lamports to pay debt, revert.
  let depositAcct ← account deposit.info.key
  let rentExemptionLamports := rt.rent.minimumBalance depositAcct.data.dataLen
  require (depositAcct.lamports - rentExemptionLamports < amount.toNat) .invalidAccountData
    "Lamports balance in deposit account is enough to cover debt amount"
  require (distribution.data.isSolanaValidatorDebtWriteOffEnabled = true) .invalidAccountData
    "Solana validator debt write off is not enabled yet"
  let d := { distribution.data with
    solanaValidatorWriteOffCount := distribution.data.solanaValidatorWriteOffCount + 1 }
  let remainingData ← processLeaf distribution.remainingData
    d.processedSolanaValidatorDebtWriteOffStartIndex d.processedSolanaValidatorDebtWriteOffEndIndex
    leafIndex s!"Solana validator debt already written off for epoch {dzEpoch}"
  -- Any debt, written off or not, must be marked as processed.
  let remainingData ← processLeaf remainingData d.processedSolanaValidatorDebtStartIndex
    d.processedSolanaValidatorDebtEndIndex leafIndex
    s!"Solana validator debt already processed for epoch {dzEpoch}"
  require (rt.rootFromPodLeaf proof (.solanaValidatorDebt ⟨nodeId, amount⟩) =
    d.solanaValidatorDebtMerkleRoot) .invalidInstructionData
    s!"Invalid computed merkle root: {rt.rootFromPodLeaf proof (.solanaValidatorDebt ⟨nodeId, amount⟩)}"
  store deposit.info.key { deposit.data with
    writtenOffSolDebt := deposit.data.writtenOffSolDebt + amount } deposit.remainingData
  -- The write-off distribution may be this one, so this one is stored first.
  store distribution.info.key d remainingData
  let writeOff ← tryNextZeroCopyMut Distribution ID
  require (dzEpoch ≤ writeOff.data.dzEpoch) .invalidAccountData
    "Write-off distribution's epoch must be at least the epoch of the current distribution"
  writeOff.data.tryRequireHasNotSwept2zTokens
    s!"Write-off epoch {writeOff.data.dzEpoch} has already swept 2Z tokens"
  writeOff.data.tryRequireFinalizedDebtCalculation
    s!"Write-off epoch {writeOff.data.dzEpoch} has unfinalized debt"
  let w := { writeOff.data with
    uncollectibleSolDebt := writeOff.data.uncollectibleSolDebt + amount }
  -- Double-check that the uncollectible debt does not exceed the total debt.
  let _totalSolDebt ← okOr w.checkedTotalSolDebt .arithmeticOverflow
    "Uncollectible SOL debt exceeds total debt for write-off epoch"
  store writeOff.info.key w writeOff.remainingData

/-! ## Sweeping -/

/-- A little-endian word of any width. -/
def leWord : List (BitVec 8) → Nat
  | [] => 0
  | byte :: bytes => byte.toNat + 256 * leWord bytes

/-- Borsh decoding of `(u64, u64, u64)`; trailing bytes are an error. -/
def decodeReturnData (bytes : List (BitVec 8)) : Option (UInt64 × UInt64 × UInt64) :=
  if bytes.length = 24 then
    let word (i : Nat) := UInt64.ofNat (leWord ((bytes.drop (8 * i)).take 8))
    some (word 0, word 1, word 2)
  else none

/-- Dequeues fills worth the given SOL debt from the swap program; returns their 2Z amount. -/
def dequeueFills (config : ProgramConfig) (journal : ZeroCopyAccount Journal)
    (totalSolDebt : UInt64) : RevenueProcessor UInt64 := do
  let _configurationRegistry ← tryNextEnumeratedAccount {}
  let _programState ← tryNextEnumeratedAccount {}
  let _fillsRegistry ← tryNextEnumeratedAccount {}
  let swapProgram ← tryNextEnumeratedAccount {}
  require (swapProgram.key = config.sol2zSwapProgramId) .invalidAccountData
    s!"Invalid SOL/2Z Swap program (account {swapProgram.index})"
  let returned ← rt.invokeForeign env Journal.seeds journal.data.bumpSeed
  let (returnDataProgramId, returnData) ← okOr returned .invalidAccountData
    "No return data found after CPI to SOL/2Z Swap program"
  require (returnDataProgramId = config.sol2zSwapProgramId) .invalidAccountData
    "Return data program ID is not the SOL/2Z Swap program"
  let (returnSolAmount, token2zAmount, _) ← okOr (decodeReturnData returnData) .invalidAccountData
    "Failed to deserialize return data from SOL/2Z Swap program"
  require (returnSolAmount = totalSolDebt) .invalidAccountData
    "SOL amount in return data does not equal total SOL debt"
  return token2zAmount

def trySweepDistributionTokens : RevenueProcessor Unit := do
  let programConfig ← tryNextZeroCopy ProgramConfig ID
  programConfig.data.tryRequireUnpaused
  let distribution ← tryNextZeroCopyMut Distribution ID
  distribution.data.tryRequireHasNotSwept2zTokens "Distribution has already swept 2Z tokens"
  let d := distribution.data.setHasSwept2zTokens true
  require (d.isRewardsCalculationFinalized = true) .invalidAccountData
    "Distribution rewards have not been finalized"
  let journal ← tryNextZeroCopyMut Journal ID
  require (journal.data.nextDzEpochToSweepTokens = d.dzEpoch) .invalidAccountData
    s!"Can only sweep tokens for DZ epoch {journal.data.nextDzEpochToSweepTokens}"
  let j := { journal.data with
    nextDzEpochToSweepTokens := journal.data.nextDzEpochToSweepTokens.saturatingAddDuration 1 }
  let totalSolDebt ← unwrap! d.checkedTotalSolDebt ""
  -- If there is no debt, we can return early.
  if totalSolDebt = 0 then do
    store distribution.info.key d distribution.remainingData
    store journal.info.key j journal.remainingData
  else do
    require (totalSolDebt ≤ j.swappedSolAmount) .invalidAccountData
      "Journal does not have enough swapped SOL to cover the SOL debt"
    let j := { j with swappedSolAmount := j.swappedSolAmount - totalSolDebt }
    let token2zAmount ← dequeueFills rt env programConfig.data journal totalSolDebt
    let d := { d with collected2zConvertedFromSol := token2zAmount }
    let (tokenPda, _) ← tryNext2zTokenPdaInfo rt distribution.info.key "distribution's"
      (some d.token2zPdaBumpSeed)
    let swapAuthority ← tryNextEnumeratedAccount {}
    let expectedSwapAuthorityKey ← unwrap! (rt.checkedSwapAuthorityAddress programConfig.data) ""
    require (swapAuthority.key = expectedSwapAuthorityKey) .invalidSeeds
      s!"Invalid address for swap authority (account {swapAuthority.index})"
    let (swapDestination, _) ← tryNext2zTokenPdaInfo rt expectedSwapAuthorityKey
      "swap destination" none
    rt.invokeSigned [(swapAuthoritySeeds, programConfig.data.swapAuthorityBumpSeed)] fun signers =>
      Token.transfer signers swapDestination.key tokenPda.key swapAuthority.key token2zAmount
    store distribution.info.key d distribution.remainingData
    store journal.info.key { j with
      swap2zDestinationBalance := j.swap2zDestinationBalance - token2zAmount } journal.remainingData

/-! ## Withdrawals -/

/-- What `try_withdraw_sol` requires of the instruction just before it; the 2Z amount it moved. -/
def requireSiblingTransfer (config : ProgramConfig) : RevenueProcessor UInt64 := do
  let sibling ← okOr env.sibling .invalidAccountData "No processed sibling instruction found"
  require (sibling.programId = tokenProgramId) .invalidInstructionData
    "Sibling instruction's program ID is not SPL Token"
  let transferAmount ← okOr sibling.transferChecked .invalidInstructionData
    "Sibling instruction is not a token transfer checked call"
  let expectedSwapDestination2zKey ← unwrap! (rt.checkedSwapDestination2zAddress config) ""
  let mint ← unwrap! sibling.accounts[1]? "index out of bounds"
  require (mint = DOUBLEZERO_MINT_KEY) .invalidInstructionData
    "Sibling transfer checked call is not for 2Z mint"
  let destination ← unwrap! sibling.accounts[2]? "index out of bounds"
  require (destination = expectedSwapDestination2zKey) .invalidInstructionData
    "Sibling transfer not for 2Z swap destination"
  return transferAmount

def tryWithdrawSol (amount : UInt64) : RevenueProcessor Unit := do
  let programConfig ← tryNextZeroCopy ProgramConfig ID
  let config := programConfig.data
  config.tryRequireUnpaused
  require (config.withdrawSolAuthorityBumpSeed ≠ 0) .invalidAccountData
    "SOL/2Z swap program ID is not set"
  let withdrawSolAuthority ← tryNextEnumeratedAccount { mustBeSigner := true }
  let expectedKey ← unwrap! (rt.checkedWithdrawSolAuthorityAddress config) ""
  require (withdrawSolAuthority.key = expectedKey) .invalidAccountData
    s!"Invalid address for withdraw SOL authority (account {withdrawSolAuthority.index})"
  let transferAmount ← requireSiblingTransfer rt env config
  let journal ← tryNextZeroCopyMut Journal ID
  let j := journal.data
  require (amount ≤ j.totalSolBalance) .invalidAccountData
    "Journal does not have enough SOL to cover the amount"
  let solDestination ← tryNextEnumeratedAccount { mustBeWritable := true }
  store journal.info.key { j with
      totalSolBalance := j.totalSolBalance - amount
      swappedSolAmount := j.swappedSolAmount + amount
      swap2zDestinationBalance := j.swap2zDestinationBalance + transferAmount
      lifetimeSwapped2zAmount :=
        j.lifetimeSwapped2zAmount + BitVec.ofNat 128 transferAmount.toNat } journal.remainingData
  moveLamports journal.info.key solDestination.key amount.toNat

/-- The next account, if there is one. -/
def nextAccount? : RevenueProcessor (Option AccountInfo) := fun s =>
  match s.iter with
  | [] => .ok (none, s)
  | m :: rest => .ok (some (s.info m), s.advance rest)

def tryWithdrawSolanaValidatorDeposit : RevenueProcessor Unit := do
  let programConfig ← tryNextZeroCopy ProgramConfig ID
  programConfig.data.tryRequireUnpaused
  let deposit ← tryNextZeroCopy SolanaValidatorDeposit ID
  let validatorNode ← tryNextEnumeratedAccount {}
  require (validatorNode.key = deposit.data.nodeId) .invalidAccountData
    s!"Invalid address for validator node (account {validatorNode.index})"
  let beneficiary? ← nextAccount?
  require (beneficiary?.isSome = true → validatorNode.isSigner = true) .missingRequiredSignature
    "Validator node must be a signer when a beneficiary is provided"
  let beneficiary := beneficiary?.getD validatorNode
  let acct ← account deposit.info.key
  let rentExemptionLamports :=
    rt.rent.minimumBalance (dataEnd AccountState SolanaValidatorDeposit)
  let withdrawnLamports :=
    acct.lamports - rentExemptionLamports - deposit.data.writtenOffSolDebt.toNat
  require (withdrawnLamports ≠ 0) .invalidAccountData
    s!"No excess lamports to withdraw. Delinquent debt: {deposit.data.writtenOffSolDebt}"
  moveLamports deposit.info.key beneficiary.key withdrawnLamports

end DoubleZero.Revenue
