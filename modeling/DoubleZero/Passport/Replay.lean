import DoubleZero.Passport.AccessMode
import DoubleZero.Passport.Run
import DoubleZero.Revenue.Replay

/-!
# Replaying runs of the passport program

`replay` takes instructions, transfers by others and ends of transactions through a ledger and keeps
the history, which is then a run (`PassportRun.of_replay`). The deployment to replay on is the
revenue program's in its rent and its numbering; its addresses come from a table of its own.
-/

namespace DoubleZero.Passport

open DoubleZero.Lib DoubleZero.Solana

/-- An instruction of the transaction itself, a transfer by others, or the end of the
transaction. -/
inductive Event where
  | call (data : InstructionData) (accounts : List AccountMeta)
  | transfer (source target : Pubkey) (lamports : Nat)
  | endTransaction

namespace Event

def label : Event → Label
  | .call data accounts => .call ⟨data, accounts, TRANSACTION_LEVEL_STACK_HEIGHT⟩
  | .transfer .. => .outside
  | .endTransaction => .endTransaction

def apply (rt : Runtime) (L : PassportLedger) : Event → Option PassportLedger
  | .call data accounts =>
    (process rt ⟨data, accounts, TRANSACTION_LEVEL_STACK_HEIGHT⟩ L).toOption
  | .transfer source target lamports =>
    (System.transfer [source] source target lamports L).toOption
  | .endTransaction => some (dropEmpty L)

end Event

/-- Takes the events, oldest first, through the ledger. -/
def replay (rt : Runtime) : List Event → History × PassportLedger →
    Option (History × PassportLedger)
  | [], s => some s
  | e :: es, (h, L) => (e.apply rt L).bind fun L' => replay rt es (⟨L, e.label, L'⟩ :: h, L')

section

variable {rt : Runtime} {L₀ L L' : PassportLedger} {h h' : History}

theorem systemTransfer_outside {signers : List Pubkey} {source target : Pubkey} {n : Nat}
    (h : System.transfer signers source target n L = .ok L') : Outside L L' := by
  obtain ⟨-, -, howner, hfunds, -, rfl⟩ := System.transfer_eq_ok.1 h
  refine ⟨fun k hk => ⟨?_, ?_, ?_⟩, fun k hne hk => ?_, Conserves.move hfunds⟩
  · rw [Ledger.credit_owner, Ledger.debit_owner, hk]
  · rw [Ledger.credit_data, Ledger.debit_data]
  · have hne : k ≠ source := by
      rintro rfl
      exact absurd (hk.symm.trans howner) (by decide)
    rw [Ledger.credit_lamports, Ledger.debit_lamports, if_neg hne]
    omega
  · rw [Ledger.credit_owner, Ledger.debit_owner] at hk
    exact absurd hk hne

theorem Event.step {e : Event} (h : e.apply rt L = some L') : Step rt e.label L L' := by
  cases e with
  | call data accounts => exact .call (toOption_eq_some.1 h)
  | transfer source target n => exact .outside (systemTransfer_outside (toOption_eq_some.1 h))
  | endTransaction =>
    obtain rfl := Option.some.inj h
    exact .endTransaction

theorem PassportRun.of_replay {es : List Event} (hrun : PassportRun rt L₀ h L)
    (hreplay : replay rt es (h, L) = some (h', L')) : PassportRun rt L₀ h' L' := by
  induction es generalizing h L with
  | nil =>
    cases hreplay
    exact hrun
  | cons e es ih =>
    obtain ⟨L₁, happly, hrest⟩ := Option.bind_eq_some_iff.1 hreplay
    exact ih (.next hrun (Event.step happly)) hrest

end

/-! ## A deployment -/

namespace Sample

open Revenue.Sample (code code_injective rent signed writable)

def payer : Pubkey := ⟨2⟩
def admin : Pubkey := ⟨4⟩
def upgrader : Pubkey := ⟨6⟩
def sentinel : Pubkey := ⟨8⟩
def stranger : Pubkey := ⟨10⟩
def service : Pubkey := ⟨14⟩

def config : Pubkey := ⟨1000⟩
def request : Pubkey := ⟨1002⟩
def programData : Pubkey := ⟨1004⟩

/-- The derived addresses in use, in the order of their keys. -/
def table : List (List Seed × Pubkey) :=
  [(ProgramConfig.seeds, ID), (AccessRequest.seeds service, ID),
    ([.key ID], bpfLoaderUpgradeableId)]

instance countableDerivation : Countable (List Seed × Pubkey) := inferInstance

/-- Addresses of the table are even, all others odd. -/
noncomputable def address (x : List Seed × Pubkey) : Pubkey :=
  match table.findIdx? fun y => decide (y = x) with
  | some i => ⟨1000 + 2 * i⟩
  | none => ⟨2 * code x + 1⟩

theorem address_cases (x : List Seed × Pubkey) :
    (∃ i, table[i]? = some x ∧ address x = ⟨1000 + 2 * i⟩) ∨ address x = ⟨2 * code x + 1⟩ := by
  unfold address
  cases hi : table.findIdx? fun y => decide (y = x) with
  | none => exact .inr rfl
  | some i =>
    obtain ⟨hlt, hx, -⟩ := List.findIdx?_eq_some_iff_getElem.1 hi
    refine .inl ⟨i, ?_, rfl⟩
    rw [List.getElem?_eq_getElem hlt, of_decide_eq_true hx]

theorem address_injective : Function.Injective address := by
  intro x y h
  have hval : ∀ {m n : Nat}, address x = ⟨m⟩ → address y = ⟨n⟩ → m = n := fun hm hn =>
    Pubkey.mk.inj (hm.symm.trans (h.trans hn))
  rcases address_cases x with ⟨i, hx, hi⟩ | hc
  · rcases address_cases y with ⟨j, hy, hj⟩ | hc'
    · have hij : i = j := by
        have := hval hi hj
        omega
      subst hij
      exact Option.some.inj (hx.symm.trans hy)
    · have := hval hi hc'
      omega
  · rcases address_cases y with ⟨j, hy, hj⟩ | hc'
    · have := hval hc hj
      omega
    · have := hval hc hc'
      exact code_injective (by omega)

noncomputable def scheme : AddressScheme where
  findProgramAddress seeds programId := (address (seeds, programId), 255)
  createProgramAddress seeds bump programId :=
    if bump = 255 then some (address (seeds, programId)) else none
  create_find _ _ := rfl
  find_injective h := Prod.mk.inj (address_injective h)

noncomputable def runtime : Runtime := ⟨scheme, rent⟩

/-- Before the program is used there are a payer, a stranger with lamports, and the loader's record
of the program. -/
def genesis : PassportLedger := fun k =>
  if k = payer ∨ k = stranger then ⟨10 ^ 12, systemProgramId, false, .zeroed 0⟩
  else if k = programData then ⟨10 ^ 9, bpfLoaderUpgradeableId, false, .programData (some upgrader)⟩
  else .unused

theorem genesis_unused : Genesis genesis where
  zeroed k hk := by
    have howner : (genesis k).owner ≠ ID := by
      unfold genesis
      split_ifs <;> decide
    exact absurd hk howner
  supply T := by
    have hle : ∀ k, (genesis k).lamports ≤ (if k = payer then 10 ^ 12 else 0) +
        ((if k = stranger then 10 ^ 12 else 0) + if k = programData then 10 ^ 9 else 0) := by
      intro k
      unfold genesis
      split_ifs <;> simp_all [Account.unused]
    have hsum := Finset.sum_le_sum fun k (_ : k ∈ T) => hle k
    rw [Finset.sum_add_distrib, Finset.sum_add_distrib, Finset.sum_ite_eq', Finset.sum_ite_eq',
      Finset.sum_ite_eq'] at hsum
    split_ifs at hsum <;> omega

/-- What is checked of a replay on this deployment holds of a run. -/
theorem exists_run_of_replay (es : List Event) {P : History → PassportLedger → Bool}
    (hP : (replay runtime es ([], genesis)).any (fun s => P s.1 s.2) = true) :
    ∃ h L, PassportRun runtime genesis h L ∧ P h L = true := by
  obtain ⟨⟨h, L⟩, hreplay, hPhL⟩ := (Option.any_eq_true _ _).1 hP
  exact ⟨h, L, .of_replay .start hreplay, hPhL⟩

/-! ### Events -/

def accessMode : AccessMode := .solanaValidator attestation

def configure (setting : ProgramConfiguration) : Event :=
  .call (.configureProgram setting) [writable config, signed admin]

/-- The program with an admin, a sentinel and a deposit. -/
def opening : List Event :=
  [.call .initializeProgram [signed payer, writable config],
    .call (.setAdmin admin) [writable programData, signed upgrader, writable config],
    configure (.doubleZeroLedgerSentinel sentinel),
    configure (.accessRequestDeposit 20000000 1000000)]

def requestAccess : Event :=
  .call (.requestAccess accessMode) [writable config, signed payer, writable request]

def grantAccounts : List AccountMeta :=
  [writable config, signed sentinel, writable request, writable payer]

def grantAccess : Event := .call .grantAccess grantAccounts

def grantCall : Call := ⟨.grantAccess, grantAccounts, TRANSACTION_LEVEL_STACK_HEIGHT⟩

/-- A request on an address that already holds lamports, and a fee above its deposit afterwards. -/
def requested : List Event :=
  opening ++ [.transfer stranger request 5, requestAccess,
    configure (.accessRequestDeposit 90000000 80000000), .transfer stranger request 7,
    .endTransaction]

/-- A request that is sent its rent exemption after it was granted and before the transaction is
over. -/
def revived : List Event :=
  opening ++ [requestAccess, .endTransaction, grantAccess, .transfer stranger request 29955840,
    .endTransaction]

end Sample

end DoubleZero.Passport
