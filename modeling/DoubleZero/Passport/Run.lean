import DoubleZero.Lib.Run
import DoubleZero.Passport.Effect

/-!
# Runs of the passport program

The program's instructions interleave with what the rest of the chain does. The runtime drops an
account without lamports, data and all, but only when the transaction ends: until then a closed
request keeps its data, and lamports sent to it in time keep it on the ledger. What else the runtime
asks of a transaction, accounts to be writable or rent exempt, is left out, which allows more runs.
-/

namespace DoubleZero.Passport

open DoubleZero.Lib DoubleZero.Solana

/-- What the rest of the chain may do. Accounts of this program keep their owner and data and lose
no lamports, and an account handed over to this program is zeroed. -/
structure Outside (L L' : PassportLedger) : Prop where
  owned : ∀ k, (L k).owner = ID →
    (L' k).owner = ID ∧ (L' k).data = (L k).data ∧ (L k).lamports ≤ (L' k).lamports
  fresh : ∀ k, (L k).owner ≠ ID → (L' k).owner = ID → ∃ len, (L' k).data = .zeroed len
  conserves : Conserves L L'

/-- What the end of a transaction leaves of the ledger. -/
def dropEmpty (L : PassportLedger) : PassportLedger := fun k =>
  if (L k).lamports = 0 then .unused else L k

inductive Label where
  | call (call : Call)
  | outside
  | endTransaction

inductive Step (rt : Runtime) : Label → PassportLedger → PassportLedger → Prop
  | call {call : Call} {L L' : PassportLedger} :
      process rt call L = .ok L' → Step rt (.call call) L L'
  | outside {L L' : PassportLedger} : Outside L L' → Step rt .outside L L'
  | endTransaction {L : PassportLedger} : Step rt .endTransaction L (dropEmpty L)

/-- Before the program is first used it has written to no account. All lamports together are a
`u64`. -/
structure Genesis (L : PassportLedger) : Prop where
  zeroed : ∀ k, (L k).owner = ID → ∃ len, (L k).data = .zeroed len
  supply : ∀ T : Finset Pubkey, ∑ k ∈ T, (L k).lamports < 2 ^ 64

abbrev PassportRun (rt : Runtime) := Run (Step rt)

abbrev History := List (Entry PassportLedger Label)

/-! ## What happened to a request last -/

def Label.touches (rt : Runtime) (k : Pubkey) : Label → Bool
  | .call c => c.touches rt k
  | _ => false

/-- The newest step that made, granted or denied the access request at `k`. -/
def lastTouch (rt : Runtime) (k : Pubkey) (h : History) : Option (Entry PassportLedger Label) :=
  h.find? fun e => e.label.touches rt k

/-- The request at `k` was granted or denied, and not made again. -/
def Closed (rt : Runtime) (k : Pubkey) (h : History) : Prop :=
  ∃ e call, lastTouch rt k h = some e ∧ e.label = .call call ∧
    (call.data = .grantAccess ∨ call.data = .denyAccess)

/-- The request at `k` was made last, under this config and for this deposit. -/
def Pending (rt : Runtime) (k : Pubkey) (h : History) (config : ProgramConfig) (deposit : UInt64) :
    Prop :=
  ∃ e call accessMode configKey rem, lastTouch rt k h = some e ∧ e.label = .call call ∧
    call.data = .requestAccess accessMode ∧ call.key? 0 = some configKey ∧
    view ID e.before configKey = some ((config, rem) : ProgramConfig × List (BitVec 8)) ∧
    config.checkedRequestDepositLamports = some deposit

section

variable {rt : Runtime} {k : Pubkey} {h : History} {e : Entry PassportLedger Label}
  {config : ProgramConfig} {deposit : UInt64}

theorem lastTouch_cons_of_touches (he : e.label.touches rt k = true) :
    lastTouch rt k (e :: h) = some e := by
  simp [lastTouch, he]

theorem lastTouch_cons_of_not_touches (he : e.label.touches rt k = false) :
    lastTouch rt k (e :: h) = lastTouch rt k h := by
  simp [lastTouch, he]

theorem Closed.cons (hclosed : Closed rt k h) (he : e.label.touches rt k = false) :
    Closed rt k (e :: h) := by
  obtain ⟨e', call, hlast, hrest⟩ := hclosed
  exact ⟨e', call, (lastTouch_cons_of_not_touches he).trans hlast, hrest⟩

theorem Pending.cons (hpending : Pending rt k h config deposit)
    (he : e.label.touches rt k = false) : Pending rt k (e :: h) config deposit := by
  obtain ⟨e', call, accessMode, configKey, rem, hlast, hrest⟩ := hpending
  exact ⟨e', call, accessMode, configKey, rem, (lastTouch_cons_of_not_touches he).trans hlast,
    hrest⟩

theorem Pending.not_closed (hpending : Pending rt k h config deposit) : ¬Closed rt k h := by
  rintro ⟨e', call', hlast', hlabel', hdata'⟩
  obtain ⟨e, call, accessMode, configKey, rem, hlast, hlabel, hdata, -⟩ := hpending
  cases hlast.symm.trans hlast'
  cases hlabel.symm.trans hlabel'
  rcases hdata' with hdata' | hdata' <;> cases hdata.symm.trans hdata'

end

/-! ## Lamports -/

section

variable {rt : Runtime} {l : Label} {L L' : PassportLedger} {k : Pubkey}

theorem dropEmpty_lamports : (dropEmpty L k).lamports = (L k).lamports := by
  unfold dropEmpty
  split
  · next hzero => exact hzero.symm
  · rfl

/-- The end of a transaction makes no account of this program. -/
theorem dropEmpty_eq (howner : (dropEmpty L k).owner = ID) : dropEmpty L k = L k := by
  unfold dropEmpty at howner ⊢
  split
  · next hzero =>
    rw [if_pos hzero] at howner
    exact absurd howner (by decide)
  · rfl

theorem process_effect {call : Call} (h : process rt call L = .ok L') :
    Effect rt call L L' ∧ call.lamports L' = call.lamports L := by
  obtain ⟨hexecute, hbalance⟩ := process_eq_ok.1 h
  exact ⟨execute_effect hexecute, hbalance⟩

theorem Step.conserves (h : Step rt l L L') : Conserves L L' := by
  cases h with
  | call h =>
    obtain ⟨heffect, hbalance⟩ := process_effect h
    exact heffect.conserves hbalance
  | outside h => exact h.conserves
  | endTransaction => exact .of_lamports fun _ => dropEmpty_lamports

variable {L₀ : PassportLedger} {h : History}

theorem PassportRun.conserves (hrun : PassportRun rt L₀ h L) : Conserves L₀ L :=
  hrun.invariant (Conserves.refl L₀) fun hconserves hstep => hconserves.trans hstep.conserves

/-- No two accounts hold more than there is. -/
theorem PassportRun.pair_lt (hgenesis : Genesis L₀) (hrun : PassportRun rt L₀ h L) {k' : Pubkey}
    (hne : k ≠ k') : (L k).lamports + (L k').lamports < 2 ^ 64 := by
  have hsupply : ∀ T : Finset Pubkey, ∑ k ∈ T, (L₀ k).lamports ≤ 2 ^ 64 - 1 := fun T =>
    Nat.le_sub_one_of_lt (hgenesis.supply T)
  have hle := Conserves.le_supply hrun.conserves hsupply {k, k'}
  rw [Finset.sum_pair hne] at hle
  omega

end

end DoubleZero.Passport
