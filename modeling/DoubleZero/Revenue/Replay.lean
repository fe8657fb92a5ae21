import Mathlib.Data.Countable.Basic
import Mathlib.Tactic.DeriveCountable
import DoubleZero.Revenue.Transition

/-!
# Replaying runs

`replay` takes a list of events, calls of the program and transfers by others, through a ledger and
keeps the history. What others do here is what the two native programs let them do without the
signature of one of this program's addresses (`Move`), and `Move.foreign` shows that this is within
what a run allows; so whatever `replay` goes through is a run (`LedgerRun.of_replay`).

The second half is a deployment to replay on: addresses from a table, two Merkle trees given by
their leaves, and a ledger on which the program was never used.
-/

namespace DoubleZero.Revenue

open DoubleZero.Lib DoubleZero.Solana

/-! ## Transfers by others -/

/-- A transfer that does not involve this program. -/
inductive Move where
  | stay
  | lamports (source target : Pubkey) (n : Nat)
  | tokens (source target authority : Pubkey) (amount : UInt64)

def Move.apply : Move → RevenueLedger → Except ProgramError RevenueLedger
  | .stay, L => .ok L
  | .lamports source target n, L => System.transfer [source] source target n L
  | .tokens source target authority amount, L =>
    Token.transfer [authority] source target authority amount L

/-- Tokens are moved by an authority that is not an address of this program. -/
def Move.Unsigned (rt : Runtime) : Move → Prop
  | .tokens _ _ authority _ => ¬Derived rt authority
  | _ => True

section

variable {rt : Runtime} {L L' : RevenueLedger}

theorem Foreign.refl : Foreign rt L L where
  owned _ ho := ⟨ho, rfl, le_rfl⟩
  fresh _ hne ho := absurd ho hne
  derived _ _ ho := ⟨ho, rfl⟩

theorem Foreign.trans {L₁ : RevenueLedger} (h : Foreign rt L L₁) (h' : Foreign rt L₁ L') :
    Foreign rt L L' where
  owned k ho := by
    obtain ⟨ho₁, hd₁, hle₁⟩ := h.owned k ho
    obtain ⟨ho', hd', hle'⟩ := h'.owned k ho₁
    exact ⟨ho', hd'.trans hd₁, hle₁.trans hle'⟩
  fresh k hne ho := by
    by_cases ho₁ : (L₁ k).owner = ID
    · obtain ⟨len, hd₁⟩ := h.fresh k hne ho₁
      exact ⟨len, (h'.owned k ho₁).2.1.trans hd₁⟩
    · exact h'.fresh k ho₁ ho
  derived k hk ho := by
    obtain ⟨ho₁, hd₁⟩ := h.derived k hk ho
    obtain ⟨ho', hd'⟩ := h'.derived k hk ho₁
    exact ⟨ho', hd'.trans hd₁⟩

theorem KeepsTokens.refl : KeepsTokens rt L L :=
  fun _ a ha _ => ⟨a, ha, rfl, rfl, UInt64.le_refl _⟩

/-- Nothing but lamports changed, and none were taken from this program. -/
theorem Foreign.of_lamports (howner : ∀ k, (L' k).owner = (L k).owner)
    (hdata : ∀ k, (L' k).data = (L k).data)
    (hlamports : ∀ k, (L k).owner = ID → (L k).lamports ≤ (L' k).lamports) : Foreign rt L L' where
  owned k ho := ⟨(howner k).trans ho, hdata k, hlamports k ho⟩
  fresh k hne ho := absurd ((howner k).symm.trans ho) hne
  derived k _ ho := ⟨(howner k).trans ho, hdata k⟩

theorem systemTransfer_foreign {signers : List Pubkey} {source target : Pubkey} {lamports : Nat}
    (h : System.transfer signers source target lamports L = .ok L') :
    Foreign rt L L' ∧ KeepsTokens rt L L' := by
  obtain ⟨-, -, hsystem, -, -, rfl⟩ := System.transfer_eq_ok.1 h
  constructor
  · refine .of_lamports (fun k => by simp) (fun k => by simp) fun k ho => ?_
    have hne : k ≠ source := by
      rintro rfl
      exact absurd (ho.symm.trans hsystem) (by decide)
    rw [Ledger.credit_lamports, Ledger.debit_lamports, if_neg hne]
    omega
  · intro k a ha _
    refine ⟨a, ?_, rfl, rfl, UInt64.le_refl _⟩
    rw [← ha]
    exact unpack_congr (by simp) (by simp)

/-- A token transfer touches two accounts of the SPL Token program, whoever signs for it. -/
theorem tokenTransfer_foreign {signers : List Pubkey} {source target authority : Pubkey}
    {amount : UInt64} (h : Token.transfer signers source target authority amount L = .ok L') :
    Foreign rt L L' := by
  obtain ⟨a, b, ha, hb, -, -, rfl, -, ⟨-, rfl⟩ | ⟨hne, hfits, rfl⟩⟩ := Token.transfer_eq_ok.1 h
  · exact .refl
  obtain ⟨hsource, hadata⟩ := Token.unpack_eq_some.1 ha
  obtain ⟨htarget, hbdata⟩ := Token.unpack_eq_some.1 hb
  have hother : ∀ {k}, (L k).owner ≠ tokenProgramId →
      (((L.write source (.token { a with amount := a.amount - amount })).write target
        (.token { b with amount := b.amount + amount })) k).data = (L k).data := by
    intro k ho
    have hk : k ≠ source := fun he => ho (he ▸ hsource)
    have hk' : k ≠ target := fun he => ho (he ▸ htarget)
    rw [Ledger.write_data, if_neg hk', Ledger.write_data, if_neg hk]
  constructor
  · intro k ho
    exact ⟨by simpa using ho, hother (by rw [ho]; decide), by simp⟩
  · intro k hk ho
    exact absurd (by simpa using ho) hk
  · intro k _ ho
    exact ⟨by simpa using ho, hother (by rw [ho]; decide)⟩

theorem tokenTransfer_keepsTokens {source target authority : Pubkey} {amount : UInt64}
    (hauthority : ¬Derived rt authority)
    (h : Token.transfer [authority] source target authority amount L = .ok L') :
    KeepsTokens rt L L' := by
  obtain ⟨a, b, ha, hb, -, -, rfl, -, ⟨-, rfl⟩ | ⟨hne, hfits, rfl⟩⟩ := Token.transfer_eq_ok.1 h
  · exact .refl
  have htarget := (Token.unpack_eq_some.1 hb).1
  intro k c hc hderived
  have hk : k ≠ source := by
    rintro rfl
    cases ha.symm.trans hc
    exact hauthority hderived
  by_cases hk' : k = target
  · subst hk'
    cases hb.symm.trans hc
    refine ⟨{ b with amount := b.amount + amount }, ?_, rfl, rfl, ?_⟩
    · exact Token.unpack_eq_some.2 ⟨by simpa using htarget, by simp⟩
    · rw [UInt64.le_iff_toNat_le, UInt64.toNat_add, Nat.mod_eq_of_lt hfits]
      exact Nat.le_add_right _ _
  · refine ⟨c, ?_, rfl, rfl, UInt64.le_refl _⟩
    rw [← hc]
    exact unpack_congr (by simp) (by rw [Ledger.write_data, if_neg hk', Ledger.write_data,
      if_neg hk])

theorem Move.foreign {m : Move} (h : m.apply L = .ok L') : Foreign rt L L' := by
  cases m with
  | stay =>
    cases h
    exact .refl
  | lamports source target n => exact (systemTransfer_foreign h).1
  | tokens source target authority amount => exact tokenTransfer_foreign h

theorem Move.keepsTokens {m : Move} (hm : m.Unsigned rt) (h : m.apply L = .ok L') :
    KeepsTokens rt L L' := by
  cases m with
  | stay =>
    cases h
    exact .refl
  | lamports source target n => exact (systemTransfer_foreign h).2
  | tokens source target authority amount => exact tokenTransfer_keepsTokens hm h

end

/-! ## Events -/

/-- A call, with what the program it invokes moves and returns, or a transfer by others. -/
inductive Event where
  | call (data : InstructionData) (accounts : List AccountMeta) (unixTimestamp : Int)
      (sibling : Option SiblingInstruction) (invoked : Move)
      (returnData : Option (Pubkey × List (BitVec 8)))
  | outside (m : Move)

namespace Event

def label : Event → Label
  | .call data accounts unixTimestamp sibling invoked returnData =>
    .call ⟨data, accounts, unixTimestamp, sibling,
      fun L => (invoked.apply L).map fun L' => (L', returnData)⟩
  | .outside _ => .outside

def apply (rt : Runtime) (L : RevenueLedger) : Event → Option RevenueLedger
  | .call data accounts unixTimestamp sibling invoked returnData =>
    (process rt ⟨data, accounts, unixTimestamp, sibling,
      fun L => (invoked.apply L).map fun L' => (L', returnData)⟩ L).toOption
  | .outside m => (m.apply L).toOption

def Unsigned (rt : Runtime) : Event → Prop
  | .call _ _ _ _ invoked _ => invoked.Unsigned rt
  | .outside m => m.Unsigned rt

/-- What is possible on the chain: the program a call invokes may have its signature. -/
def Lawful (rt : Runtime) : Event → Prop
  | .call .. => True
  | .outside m => m.Unsigned rt

theorem Unsigned.lawful {rt : Runtime} {e : Event} (h : e.Unsigned rt) : e.Lawful rt := by
  cases e with
  | call => trivial
  | outside m => exact h

end Event

/-- Takes the events, oldest first, through the ledger. -/
def replay (rt : Runtime) : List Event → History × RevenueLedger → Option (History × RevenueLedger)
  | [], s => some s
  | e :: es, (h, L) => (e.apply rt L).bind fun L' => replay rt es (⟨L, e.label, L'⟩ :: h, L')

section

variable {rt : Runtime} {L₀ L L' : RevenueLedger} {h h' : History}

/-- The program a replayed call invokes makes its move and returns its data. -/
theorem Move.invoked_eq_ok {m : Move} {returnData returnData' : Option (Pubkey × List (BitVec 8))} :
    ((m.apply L).map fun L' => (L', returnData)) = .ok (L', returnData') ↔
      m.apply L = .ok L' ∧ returnData = returnData' := by
  cases m.apply L <;> simp [Except.map]

/-- The programs a replayed call invokes. -/
theorem Event.cpi_eq {e : Event} {call : Call} {returnData : Option (Pubkey × List (BitVec 8))}
    (hlabel : e.label = .call call) (hcpi : call.env.cpi L = .ok (L', returnData)) :
    ∃ m : Move, m.apply L = .ok L' ∧ (e.Unsigned rt → m.Unsigned rt) := by
  cases e with
  | outside m => cases hlabel
  | call data accounts unixTimestamp sibling invoked rd =>
    cases hlabel
    exact ⟨invoked, (Move.invoked_eq_ok.1 hcpi).1, id⟩

theorem Event.cpi_keepsTokens {e : Event} {call : Call}
    {returnData : Option (Pubkey × List (BitVec 8))} (he : e.Unsigned rt)
    (hlabel : e.label = .call call) (hcpi : call.env.cpi L = .ok (L', returnData)) :
    KeepsTokens rt L L' := by
  obtain ⟨m, hm, hunsigned⟩ := Event.cpi_eq hlabel hcpi
  exact Move.keepsTokens (hunsigned he) hm

theorem Event.step {e : Event} (he : e.Lawful rt) (h : e.apply rt L = some L') :
    Step rt e.label L L' := by
  cases e with
  | outside m =>
    have happly := toOption_eq_some.1 h
    exact .outside (Move.foreign happly)
  | call data accounts unixTimestamp sibling invoked rd =>
    exact .call (fun L L' _ hcpi => Move.foreign (Move.invoked_eq_ok.1 hcpi).1)
      (toOption_eq_some.1 h)

/-- What a replay goes through is a run. -/
theorem LedgerRun.of_replay {es : List Event} (hrun : LedgerRun rt L₀ h L)
    (hes : ∀ e ∈ es, e.Unsigned rt) (hreplay : replay rt es (h, L) = some (h', L')) :
    LedgerRun rt L₀ h' L' := by
  induction es generalizing h L with
  | nil =>
    cases hreplay
    exact hrun
  | cons e es ih =>
    obtain ⟨L₁, happly, hrest⟩ := Option.bind_eq_some_iff.1 hreplay
    refine ih (.next hrun (Event.step (hes e (by simp)).lawful happly)) (fun e' he' => ?_) hrest
    exact hes e' (by simp [he'])

/-- The step is what the event does. -/
structure Event.Replayed (rt : Runtime) (e : Event) (x : Entry RevenueLedger Label) : Prop where
  unsigned : e.Unsigned rt
  label_eq : x.label = e.label
  apply_eq : e.apply rt x.before = some x.after

theorem replayed_of_replay {es : List Event} (hes : ∀ e ∈ es, e.Unsigned rt)
    (hreplay : replay rt es (h, L) = some (h', L')) :
    ∀ x ∈ h', x ∈ h ∨ ∃ e ∈ es, e.Replayed rt x := by
  induction es generalizing h L with
  | nil =>
    cases hreplay
    exact fun x hx => .inl hx
  | cons e es ih =>
    obtain ⟨L₁, happly, hrest⟩ := Option.bind_eq_some_iff.1 hreplay
    obtain ⟨he, hes⟩ := List.forall_mem_cons.1 hes
    intro x hx
    rcases ih hes hrest x hx with hx | ⟨e', he', hreplayed⟩
    · rcases List.mem_cons.1 hx with rfl | hx
      · exact .inr ⟨e, by simp, he, rfl, happly⟩
      · exact .inl hx
    · exact .inr ⟨e', by simp [he'], hreplayed⟩

/-- What happens outside in a replay is signed for by others. -/
theorem Event.Replayed.sparesTokens {e : Event} {x : Entry RevenueLedger Label}
    (h : e.Replayed rt x) : SparesTokens rt x := by
  intro hlabel
  cases e with
  | call => cases hlabel.symm.trans h.label_eq
  | outside m => exact Move.keepsTokens h.unsigned (toOption_eq_some.1 h.apply_eq)

/-- A run that goes through the given events, with what is checked on the way. -/
theorem exists_run {es : List Event} {P : History → RevenueLedger → Bool}
    (hes : ∀ e ∈ es, e.Unsigned rt)
    (hP : (replay rt es ([], L₀)).any (fun s => P s.1 s.2) = true) :
    ∃ h L, LedgerRun rt L₀ h L ∧ (∀ x ∈ h, ∃ e ∈ es, e.Replayed rt x) ∧ P h L = true := by
  obtain ⟨⟨h, L⟩, hreplay, hPhL⟩ := (Option.any_eq_true _ _).1 hP
  refine ⟨h, L, .of_replay .start hes hreplay, fun x hx => ?_, hPhL⟩
  exact (replayed_of_replay hes hreplay x hx).resolve_left (by simp)

/-- Two runs, one after the other. -/
theorem exists_runs {es es' : List Event}
    {P : History → RevenueLedger → History → RevenueLedger → Bool}
    (hes : ∀ e ∈ es, e.Unsigned rt) (hes' : ∀ e ∈ es', e.Unsigned rt)
    (hP : (replay rt es ([], L₀)).any (fun s =>
      (replay rt es' ([], s.2)).any fun s' => P s.1 s.2 s'.1 s'.2) = true) :
    ∃ h L h' L', LedgerRun rt L₀ h L ∧ LedgerRun rt L h' L' ∧
      (∀ x ∈ h' ++ h, ∃ e ∈ es' ++ es, e.Replayed rt x) ∧ P h L h' L' = true := by
  obtain ⟨h, L, hrun, hlabels, hP⟩ := exists_run (P := fun h L =>
    (replay rt es' ([], L)).any fun s' => P h L s'.1 s'.2) hes hP
  obtain ⟨h', L', hrun', hlabels', hP⟩ := exists_run (P := P h L) hes' hP
  refine ⟨h, L, h', L', hrun, hrun', fun x hx => ?_, hP⟩
  rcases List.mem_append.1 hx with hx | hx
  · obtain ⟨e, he, hreplayed⟩ := hlabels' x hx
    exact ⟨e, List.mem_append_left _ he, hreplayed⟩
  · obtain ⟨e, he, hreplayed⟩ := hlabels x hx
    exact ⟨e, List.mem_append_right _ he, hreplayed⟩

/-- A run, and one more step. -/
theorem exists_step {es : List Event} {e : Event}
    {P : History → RevenueLedger → RevenueLedger → Bool} (hes : ∀ e ∈ es, e.Unsigned rt)
    (he : e.Lawful rt) (hP : (replay rt es ([], L₀)).any (fun s =>
      (e.apply rt s.2).any fun L' => P s.1 s.2 L') = true) :
    ∃ h L L', LedgerRun rt L₀ h L ∧ Step rt e.label L L' ∧ P h L L' = true := by
  obtain ⟨h, L, hrun, -, hP⟩ := exists_run (P := fun h L => (e.apply rt L).any fun L' => P h L L')
    hes hP
  obtain ⟨L', happly, hP⟩ := (Option.any_eq_true _ _).1 hP
  exact ⟨h, L, L', hrun, Event.step he happly, hP⟩

/-- The distribution that a call names as its account `n`, as the call finds it. -/
def namedDist (n : Nat) (x : Entry RevenueLedger Label) : Option (Distribution × List (BitVec 8)) :=
  match x.label with
  | .call call => (call.key? n).bind fun k => view ID x.before k
  | .outside => none

def Label.isCall (data : InstructionData) : Label → Bool
  | .call c => c.data = data
  | .outside => false

/-- The distribution named by a call with the given data passes a check. -/
def passes (data : InstructionData) (n : Nat) (Q : Distribution → Bool)
    (x : Entry RevenueLedger Label) : Bool :=
  !x.label.isCall data || (namedDist n x).all fun s => Q s.1

variable {x : Entry RevenueLedger Label} {call : Call} {n : Nat} {k : Pubkey} {d : Distribution}
  {rem : List (BitVec 8)}

theorem namedDist_eq (hlabel : x.label = .call call) (hkey : call.key? n = some k)
    (hd : view ID x.before k = some (d, rem)) : namedDist n x = some (d, rem) := by
  simp [namedDist, hlabel, hkey, hd]

theorem passes_elim {Q : Distribution → Bool} (hpasses : passes call.data n Q x = true)
    (hlabel : x.label = .call call) (hkey : call.key? n = some k)
    (hd : view ID x.before k = some (d, rem)) : Q d = true := by
  simpa [passes, Label.isCall, hlabel, namedDist_eq hlabel hkey hd] using hpasses

end

/-! ## A deployment -/

namespace Sample

instance countableChar : Countable Char :=
  Function.Injective.countable (f := Char.toNat) fun _ _ h => Char.toNat_inj.1 h
instance countableString : Countable String :=
  Function.Injective.countable (f := String.toList) fun _ _ h => String.toList_inj.1 h
instance countableUInt64 : Countable UInt64 :=
  Function.Injective.countable (f := UInt64.toNat) fun _ _ h => UInt64.toNat_inj.1 h
instance countableUInt32 : Countable UInt32 :=
  Function.Injective.countable (f := UInt32.toNat) fun _ _ h => UInt32.toNat_inj.1 h
instance countableWord32 : Countable (BitVec 32) :=
  Function.Injective.countable (f := BitVec.toNat) fun _ _ h => BitVec.toNat_inj.1 h

deriving instance Countable for Pubkey
deriving instance Countable for Seed
deriving instance Countable for SolanaValidatorDebt
deriving instance Countable for RewardShare
deriving instance Countable for Leaf

/-! ### Addresses -/

def payer : Pubkey := ⟨2⟩
def admin : Pubkey := ⟨4⟩
def upgrader : Pubkey := ⟨6⟩
def nodeA : Pubkey := ⟨8⟩
def nodeB : Pubkey := ⟨10⟩
def recipient : Pubkey := ⟨12⟩
def service : Pubkey := ⟨14⟩
def swapProgram : Pubkey := ⟨16⟩
def integrationProgram : Pubkey := ⟨18⟩
def relayer : Pubkey := ⟨20⟩
def buyer : Pubkey := ⟨22⟩
def buyerToken : Pubkey := ⟨24⟩
def manager : Pubkey := ⟨26⟩
def bucket : Pubkey := ⟨28⟩
def bucketAuthority : Pubkey := ⟨30⟩

def config : Pubkey := ⟨1000⟩
def reserve2z : Pubkey := ⟨1002⟩
def journal : Pubkey := ⟨1004⟩
def journal2z : Pubkey := ⟨1006⟩
def distribution : Pubkey := ⟨1008⟩
def pool : Pubkey := ⟨1010⟩
def journalAta : Pubkey := ⟨1012⟩
def programData : Pubkey := ⟨1014⟩
def swapAuthority : Pubkey := ⟨1016⟩
def swapDestination : Pubkey := ⟨1018⟩
def withdrawSolAuthority : Pubkey := ⟨1020⟩
def contributor : Pubkey := ⟨1022⟩
def depositA : Pubkey := ⟨1024⟩
def depositB : Pubkey := ⟨1026⟩
def integration : Pubkey := ⟨1028⟩
def recipientAta : Pubkey := ⟨1030⟩

/-- The derived addresses in use, in the order of their keys. -/
def table : List (List Seed × Pubkey) :=
  [(ProgramConfig.seeds, ID),
    (token2zPdaSeeds config, ID),
    (Journal.seeds, ID),
    (token2zPdaSeeds journal, ID),
    (Distribution.seeds 0, ID),
    (token2zPdaSeeds distribution, ID),
    ([.key journal, .key tokenProgramId, .key DOUBLEZERO_MINT_KEY], associatedTokenProgramId),
    ([.key ID], bpfLoaderUpgradeableId),
    (swapAuthoritySeeds, ID),
    (token2zPdaSeeds swapAuthority, ID),
    (withdrawSolAuthoritySeeds, swapProgram),
    (ContributorRewards.seeds service, ID),
    (SolanaValidatorDeposit.seeds nodeA, ID),
    (SolanaValidatorDeposit.seeds nodeB, ID),
    (RewardsIntegration.seeds integrationProgram, ID),
    ([.key recipient, .key tokenProgramId, .key DOUBLEZERO_MINT_KEY], associatedTokenProgramId)]

/-- Some numbering of a countable type. -/
noncomputable def code {α : Type} [Countable α] : α → Nat :=
  Classical.choose (exists_injective_nat α)

theorem code_injective {α : Type} [Countable α] : Function.Injective (code : α → Nat) :=
  Classical.choose_spec (exists_injective_nat α)

/-! The keys from 2000 on belong to further distributions, their pools, and integrations, eight keys
apart. The programs of the integrations are not derived from anything. -/

def numberedDistribution (n : Nat) : Pubkey := ⟨2000 + 8 * n⟩
def numberedPool (n : Nat) : Pubkey := ⟨2002 + 8 * n⟩
def numberedIntegration (n : Nat) : Pubkey := ⟨2004 + 8 * n⟩
def numberedProgram (n : Nat) : Pubkey := ⟨2006 + 8 * n⟩

/-- What the numbered keys are derived from, and the number of a derivation, if it has one. -/
def derivation (m : Nat) : List Seed × Pubkey :=
  let n := (m - 2000) / 8
  if m % 8 = 0 then (Distribution.seeds (UInt64.ofNat n), ID)
  else if m % 8 = 2 then (token2zPdaSeeds (numberedDistribution n), ID)
  else (RewardsIntegration.seeds (numberedProgram n), ID)

def number (x : List Seed × Pubkey) : Nat :=
  match x.1 with
  | [_, .le64 n] => 2000 + 8 * n.toNat
  | [_, .key k] => if k.val % 8 = 0 then k.val + 2 else k.val - 2
  | _ => 0

def IsNumbered (x : List Seed × Pubkey) : Prop :=
  2008 ≤ number x ∧ number x % 2 = 0 ∧ derivation (number x) = x

instance isNumberedDecidable (x : List Seed × Pubkey) : Decidable (IsNumbered x) :=
  inferInstanceAs (Decidable (_ ∧ _ ∧ _))

/-- Addresses of the table and numbered ones are even, all others odd. -/
noncomputable def address (x : List Seed × Pubkey) : Pubkey :=
  if IsNumbered x then ⟨number x⟩
  else match table.findIdx? fun y => decide (y = x) with
    | some i => ⟨1000 + 2 * i⟩
    | none => ⟨2 * code x + 1⟩

theorem address_cases (x : List Seed × Pubkey) :
    (∃ i, table[i]? = some x ∧ address x = ⟨1000 + 2 * i⟩) ∨
      (IsNumbered x ∧ address x = ⟨number x⟩) ∨ address x = ⟨2 * code x + 1⟩ := by
  unfold address
  by_cases hx : IsNumbered x
  · rw [if_pos hx]
    exact .inr (.inl ⟨hx, rfl⟩)
  · rw [if_neg hx]
    cases hi : table.findIdx? fun y => decide (y = x) with
    | none => exact .inr (.inr rfl)
    | some i =>
      obtain ⟨hlt, hx, -⟩ := List.findIdx?_eq_some_iff_getElem.1 hi
      refine .inl ⟨i, ?_, rfl⟩
      rw [List.getElem?_eq_getElem hlt, of_decide_eq_true hx]

theorem table_lt {i : Nat} {x : List Seed × Pubkey} (hx : table[i]? = some x) : i < 16 :=
  (List.getElem?_eq_some_iff.1 hx).1

theorem address_injective : Function.Injective address := by
  intro x y h
  have hval : ∀ {m n : Nat}, address x = ⟨m⟩ → address y = ⟨n⟩ → m = n := fun hm hn =>
    Pubkey.mk.inj (hm.symm.trans (h.trans hn))
  rcases address_cases x with ⟨i, hx, hi⟩ | ⟨⟨hle, heven, hx⟩, hm⟩ | hc <;>
    rcases address_cases y with ⟨j, hy, hj⟩ | ⟨⟨hle', heven', hy⟩, hm'⟩ | hc'
  · have hij : i = j := by
      have := hval hi hj
      omega
    subst hij
    exact Option.some.inj (hx.symm.trans hy)
  · have := hval hi hm'
    have := table_lt hx
    omega
  · have := hval hi hc'
    omega
  · have := hval hm hj
    have := table_lt hy
    omega
  · rw [← hx, ← hy, hval hm hm']
  · have := hval hm hc'
    omega
  · have := hval hc hj
    omega
  · have := hval hc hm'
    omega
  · have := hval hc hc'
    exact code_injective (by omega)

noncomputable def scheme : AddressScheme where
  findProgramAddress seeds programId := (address (seeds, programId), 255)
  createProgramAddress seeds bump programId :=
    if bump = 255 then some (address (seeds, programId)) else none
  create_find _ _ := rfl
  find_injective h := Prod.mk.inj (address_injective h)

/-- The rent of the main network, up to a length no account reaches. -/
def rent : Rent where
  minimumBalance len := 6960 * (min len (2 ^ 32) + 128)
  monotone a b h := by
    have : min a (2 ^ 32) ≤ min b (2 ^ 32) := min_le_min_right _ h
    simpa using this
  pos len := by omega
  fits len := by omega

/-! ### Merkle trees -/

section

variable (debts : List SolanaValidatorDebt) (shares : List RewardShare)

/-- Whether the leaf is the one at the index of its tree. -/
def inTree : Option UInt32 → Leaf → Bool
  | some i, .solanaValidatorDebt debt => debts[i.toNat]? = some debt
  | some i, .rewardShare share => shares[i.toNat]? = some share
  | none, _ => false

/-- The roots of the two trees. -/
def rootOf : Leaf → Hash
  | .solanaValidatorDebt _ => ⟨1⟩
  | .rewardShare _ => ⟨2⟩

/-- Leaves of a tree lead to its root, and nothing else does. -/
noncomputable def rootFromPodLeaf (proof : MerkleProof) (leaf : Leaf) : Hash :=
  if inTree debts shares proof.leafIndex leaf then rootOf leaf else ⟨3 + code leaf⟩

theorem rootOf_lt (leaf : Leaf) : (rootOf leaf).val < 3 := by
  cases leaf <;> simp [rootOf]

variable {debts shares}

theorem rootFromPodLeaf_inj {p p' : MerkleProof} {leaf leaf' : Leaf}
    (h : rootFromPodLeaf debts shares p leaf = rootFromPodLeaf debts shares p' leaf') :
    leaf = leaf' ∨ inTree debts shares p.leafIndex leaf = true ∧
      inTree debts shares p'.leafIndex leaf' = true := by
  unfold rootFromPodLeaf at h
  have hlt := rootOf_lt leaf
  have hlt' := rootOf_lt leaf'
  split at h <;> split at h
  · next hin hin' => exact .inr ⟨hin, hin'⟩
  · rw [h] at hlt
    exact absurd hlt (by simp)
  · rw [← h] at hlt'
    exact absurd hlt' (by simp)
  · have := Hash.mk.inj h
    exact .inl (code_injective (by omega))

theorem leafUnique : LeafUnique (rootFromPodLeaf debts shares) where
  debt {p p' i d d'} hi hi' h := by
    rcases rootFromPodLeaf_inj h with h | ⟨hin, hin'⟩
    · exact Leaf.solanaValidatorDebt.inj h
    · rw [hi] at hin
      rw [hi'] at hin'
      exact Option.some.inj ((of_decide_eq_true hin).symm.trans (of_decide_eq_true hin'))
  reward {p p' i r r'} hi hi' h := by
    rcases rootFromPodLeaf_inj h with h | ⟨hin, hin'⟩
    · exact Leaf.rewardShare.inj h
    · rw [hi] at hin
      rw [hi'] at hin'
      exact Option.some.inj ((of_decide_eq_true hin).symm.trans (of_decide_eq_true hin'))

variable (debts shares)

noncomputable def runtime : Runtime := ⟨scheme, rent, rootFromPodLeaf debts shares⟩

end

/-! ### The ledger -/

section

variable {debts : List SolanaValidatorDebt} {shares : List RewardShare}

def tokenAccount (owner : Pubkey) (amount : UInt64) : Account AccountState :=
  ⟨2039280, tokenProgramId, false, .token ⟨DOUBLEZERO_MINT_KEY, owner, amount⟩⟩

/-- What is there before the program is used: a payer, the loader's record of the program, programs
to integrate, one of them with 2Z to give, somebody with 2Z in the purse, and 2Z prepaid to the
journal. -/
def genesis (prepaid purse : UInt64) : RevenueLedger := fun k =>
  if k = payer then ⟨10 ^ 15, systemProgramId, false, .zeroed 0⟩
  else if k = programData then ⟨10 ^ 9, bpfLoaderUpgradeableId, false, .programData (some upgrader)⟩
  else if k = integrationProgram ∨ 2008 ≤ k.val ∧ k.val % 8 = 6 then
    ⟨10 ^ 9, bpfLoaderUpgradeableId, true, .other 36⟩
  else if k = bucket then tokenAccount bucketAuthority 500
  else if k = buyerToken then tokenAccount buyer purse
  else if k = recipientAta then tokenAccount recipient 0
  else if k = journalAta then tokenAccount journal prepaid
  else .unused

theorem address_of_derived {k : Pubkey} (h : Derived (runtime debts shares) k) :
    (∃ i x, table[i]? = some x ∧ x.2 = ID ∧ k = ⟨1000 + 2 * i⟩) ∨
      (∃ x, IsNumbered x ∧ k = ⟨number x⟩) ∨ ∃ n, k = ⟨2 * n + 1⟩ := by
  obtain ⟨seeds, bump, h⟩ := h
  have haddress : address (seeds, ID) = k := by
    simp only [Runtime.create, runtime, scheme] at h
    split at h
    · exact Option.some.inj h
    · cases h
  rcases address_cases (seeds, ID) with ⟨i, hi, hkey⟩ | ⟨hnumbered, hkey⟩ | hkey
  · exact .inl ⟨i, _, hi, rfl, haddress.symm.trans hkey⟩
  · exact .inr (.inl ⟨_, hnumbered, haddress.symm.trans hkey⟩)
  · exact .inr (.inr ⟨_, haddress.symm.trans hkey⟩)

theorem not_derived_of_table {i : Nat} {x : List Seed × Pubkey} (hx : table[i]? = some x)
    (hid : x.2 ≠ ID) : ¬Derived (runtime debts shares) ⟨1000 + 2 * i⟩ := by
  intro h
  rcases address_of_derived h with ⟨j, y, hy, hyid, hkey⟩ | ⟨y, ⟨hle, -, -⟩, hkey⟩ | ⟨n, hkey⟩
  · have hij : i = j := by
      have := Pubkey.mk.inj hkey
      omega
    subst hij
    cases hx.symm.trans hy
    exact hid hyid
  · have := Pubkey.mk.inj hkey
    have := table_lt hx
    omega
  · have := Pubkey.mk.inj hkey
    omega

theorem not_derived_of_small {n : Nat} (hn : n < 500) :
    ¬Derived (runtime debts shares) ⟨2 * n⟩ := by
  intro h
  rcases address_of_derived h with ⟨j, y, -, -, hkey⟩ | ⟨y, ⟨hle, -, -⟩, hkey⟩ | ⟨m, hkey⟩ <;>
  · have := Pubkey.mk.inj hkey
    omega

/-- A program to integrate is not at a numbered address: those of its row end in 0, 2 and 4. -/
theorem number_mod_ne {x : List Seed × Pubkey} (hx : IsNumbered x) : number x % 8 ≠ 6 := by
  have hnumber : number (derivation (number x)) = number x := by rw [hx.2.2]
  generalize number x = m at hnumber
  intro hmod
  have hprogram : (2006 + 8 * ((m - 2000) / 8)) % 8 = 6 := by omega
  simp [derivation, hmod, RewardsIntegration.seeds, numberedProgram, number, hprogram] at hnumber
  omega

theorem not_derived_of_program {k : Pubkey} (hk : 2008 ≤ k.val ∧ k.val % 8 = 6) :
    ¬Derived (runtime debts shares) k := by
  intro h
  rcases address_of_derived h with ⟨j, y, hy, -, rfl⟩ | ⟨y, hy, rfl⟩ | ⟨m, rfl⟩
  · have := table_lt hy
    simp only at hk
    omega
  · exact number_mod_ne hy hk.2
  · simp only at hk
    omega

theorem genesis_unused (prepaid purse : UInt64) :
    Genesis (runtime debts shares) (genesis prepaid purse) where
  owned k := by
    unfold genesis tokenAccount
    split_ifs <;> dsimp only [Account.unused] <;> decide
  derived k hk := by
    have hne : ∀ {k'}, ¬Derived (runtime debts shares) k' → k ≠ k' := by
      rintro k' hk' rfl
      exact hk' hk
    have h₁ : k ≠ programData := hne (not_derived_of_table (i := 7) rfl (by decide))
    have h₂ : ¬(k = integrationProgram ∨ 2008 ≤ k.val ∧ k.val % 8 = 6) := by
      rintro (rfl | hprogram)
      · exact not_derived_of_small (n := 9) (by decide) hk
      · exact not_derived_of_program hprogram hk
    have h₃ : k ≠ bucket := hne (not_derived_of_small (n := 14) (by decide))
    have h₄ : k ≠ buyerToken := hne (not_derived_of_small (n := 12) (by decide))
    have h₅ : k ≠ recipientAta := hne (not_derived_of_table (i := 15) rfl (by decide))
    have h₆ : k ≠ journalAta := hne (not_derived_of_table (i := 6) rfl (by decide))
    unfold genesis
    rw [if_neg h₁, if_neg h₂, if_neg h₃, if_neg h₄, if_neg h₅, if_neg h₆]
    split_ifs <;> exact ⟨rfl, rfl⟩

end

/-! ### Events -/

section

variable {debts : List SolanaValidatorDebt} {shares : List RewardShare}

/-- Tokens are moved by one of the small even keys, which are not derived from anything. -/
def byOutsider : Event → Bool
  | .call _ _ _ _ (.tokens _ _ authority _) _ | .outside (.tokens _ _ authority _) =>
    authority.val % 2 = 0 ∧ authority.val < 1000
  | _ => true

theorem unsigned_of_byOutsider {e : Event} (he : byOutsider e = true) :
    e.Unsigned (runtime debts shares) := by
  have hsmall : ∀ {k : Pubkey}, k.val % 2 = 0 ∧ k.val < 1000 →
      ¬Derived (runtime debts shares) k := by
    intro k hk
    have hkey : ¬Derived (runtime debts shares) ⟨2 * (k.val / 2)⟩ := not_derived_of_small (by omega)
    rwa [Nat.mul_div_cancel' (Nat.dvd_of_mod_eq_zero hk.1)] at hkey
  match e, he with
  | .call _ _ _ _ (.tokens _ _ authority _) _, he => exact hsmall (of_decide_eq_true he)
  | .outside (.tokens _ _ authority _), he => exact hsmall (of_decide_eq_true he)
  | .call _ _ _ _ .stay _, _ | .call _ _ _ _ (.lamports ..) _, _ => trivial
  | .outside .stay, _ | .outside (.lamports ..), _ => trivial

def isLawful : Event → Bool
  | .call .. => true
  | e => byOutsider e

theorem lawful_of_isLawful {e : Event} (he : isLawful e = true) :
    e.Lawful (runtime debts shares) := by
  cases e with
  | call => trivial
  | outside m => exact (unsigned_of_byOutsider (e := .outside m) he).lawful

variable (debts shares)

/-- What is checked of a replay on this deployment holds of a run. -/
theorem exists_run_of_replay (prepaid purse : UInt64) (es : List Event)
    {P : History → RevenueLedger → Bool} (hes : es.all byOutsider = true)
    (hP : (replay (runtime debts shares) es ([], genesis prepaid purse)).any
      (fun s => P s.1 s.2) = true) :
    ∃ h L, LedgerRun (runtime debts shares) (genesis prepaid purse) h L ∧
      (∀ x ∈ h, ∃ e ∈ es, e.Replayed (runtime debts shares) x) ∧ P h L = true :=
  exists_run (fun e he => unsigned_of_byOutsider (List.all_eq_true.1 hes e he)) hP

theorem exists_runs_of_replay (prepaid purse : UInt64) (es es' : List Event)
    {P : History → RevenueLedger → History → RevenueLedger → Bool}
    (hes : es.all byOutsider = true) (hes' : es'.all byOutsider = true)
    (hP : (replay (runtime debts shares) es ([], genesis prepaid purse)).any (fun s =>
      (replay (runtime debts shares) es' ([], s.2)).any fun s' => P s.1 s.2 s'.1 s'.2) = true) :
    ∃ h L h' L', LedgerRun (runtime debts shares) (genesis prepaid purse) h L ∧
      LedgerRun (runtime debts shares) L h' L' ∧
      (∀ x ∈ h' ++ h, ∃ e ∈ es' ++ es, e.Replayed (runtime debts shares) x) ∧
      P h L h' L' = true :=
  exists_runs (fun e he => unsigned_of_byOutsider (List.all_eq_true.1 hes e he))
    (fun e he => unsigned_of_byOutsider (List.all_eq_true.1 hes' e he)) hP

theorem exists_step_of_replay (prepaid purse : UInt64) (es : List Event) (e : Event)
    {P : History → RevenueLedger → RevenueLedger → Bool}
    (hes : (es.all byOutsider && isLawful e) = true)
    (hP : (replay (runtime debts shares) es ([], genesis prepaid purse)).any (fun s =>
      (e.apply (runtime debts shares) s.2).any fun L' => P s.1 s.2 L') = true) :
    ∃ h L L', LedgerRun (runtime debts shares) (genesis prepaid purse) h L ∧
      Step (runtime debts shares) e.label L L' ∧ P h L L' = true := by
  obtain ⟨hes, he⟩ := (Bool.and_eq_true _ _).mp hes
  exact exists_step (fun e' he' => unsigned_of_byOutsider (List.all_eq_true.1 hes e' he'))
    (lawful_of_isLawful he) hP

end

def signed (k : Pubkey) : AccountMeta := ⟨k, true, true⟩
def writable (k : Pubkey) : AccountMeta := ⟨k, false, true⟩

/-- A call at a given time that invokes no other program. -/
def callAt (unixTimestamp : Int) (data : InstructionData) (accounts : List AccountMeta) : Event :=
  .call data accounts unixTimestamp none .stay none

/-- A call after the grace period of the epoch. -/
def later (data : InstructionData) (accounts : List AccountMeta) : Event := callAt 200000 data accounts

def configure (setting : ProgramConfiguration) : Event :=
  later (.configureProgram setting) [writable config, signed admin]

def token2zAccounts : List AccountMeta :=
  [writable DOUBLEZERO_MINT_KEY, writable tokenProgramId, writable systemProgramId]

/-- The program is set up: configuration, journal, swap destination, a contributor with one
recipient, and the deposits of two validators, of which one is funded. -/
def opening : List Event :=
  [later .initializeProgram ([signed payer, writable config, writable reserve2z] ++ token2zAccounts),
    later (.setAdmin admin) [writable programData, signed upgrader, writable config],
    configure (.flag (.isPaused false)),
    configure (.debtAccountant admin),
    configure (.rewardsAccountant admin),
    configure (.contributorManager admin),
    configure (.sol2zSwapProgram swapProgram),
    configure (.solanaValidatorFeeParameters 500 0 0 0 0 0),
    configure (.calculationGracePeriodMinutes 1),
    configure (.distributionInitializationGracePeriodMinutes 1),
    configure (.communityBurnRateParameters 500000000 1 20 (some 100000000)),
    configure (.distributeRewardsRelayLamports 10000),
    configure (.minimumEpochDurationToFinalizeRewards 1),
    configure (.featureActivation .solanaValidatorDebtWriteOff 1),
    later .initializeJournal
      ([signed payer, writable journal, writable journal2z] ++ token2zAccounts),
    later .initializeSwapDestination ([writable config, signed payer, writable swapAuthority,
      writable swapDestination] ++ token2zAccounts),
    later (.initializeContributorRewards service)
      [signed payer, writable contributor, writable systemProgramId],
    later (.setRewardsManager manager) [writable config, signed admin, writable contributor],
    later (.configureContributorRewards (.recipients [(recipient, 10000)]))
      [writable config, writable contributor, signed manager],
    later (.initializeSolanaValidatorDeposit nodeA)
      [writable depositA, signed payer, writable systemProgramId],
    later (.initializeSolanaValidatorDeposit nodeB)
      [writable depositB, signed payer, writable systemProgramId],
    .outside (.lamports payer depositA 1000)]

def registerIntegration : Event :=
  later .initializeRewardsIntegration [writable config, signed admin, writable integrationProgram,
    signed payer, writable integration, writable journal]

def openEpoch : Event :=
  callAt 100000 .initializeDistribution ([writable config, signed admin, signed payer,
    writable distribution, writable pool, writable DOUBLEZERO_MINT_KEY, writable tokenProgramId,
    writable journal, writable journal2z, writable journalAta, writable systemProgramId])

/-- Any further epoch. -/
def openNumbered (n : Nat) : Event :=
  callAt (100000 + 100 * n) .initializeDistribution [writable config, signed admin, signed payer,
    writable (numberedDistribution n), writable (numberedPool n), writable DOUBLEZERO_MINT_KEY,
    writable tokenProgramId, writable journal, writable journal2z, writable journalAta,
    writable systemProgramId]

def configureDebt (totalValidators : UInt32) (totalDebt : UInt64) : Event :=
  later (.configureDistributionDebt totalValidators totalDebt ⟨1⟩)
    [writable config, signed admin, writable distribution]

def finalizeDebt : Event :=
  later .finalizeDistributionDebt
    [writable config, signed admin, writable distribution, signed payer, writable systemProgramId]

def configureRewards (totalContributors : UInt32) (root : Hash) : Event :=
  later (.configureDistributionRewards totalContributors root)
    [writable config, signed admin, writable distribution]

def finalizeRewards : Event :=
  later .finalizeDistributionRewards
    [writable config, writable distribution, signed payer, writable systemProgramId]

def enableWriteOff : Event :=
  later .enableSolanaValidatorDebtWriteOff
    [writable config, writable distribution, signed payer, writable systemProgramId]

def payDebt (leafIndex : UInt32) (amount : UInt64) (deposit : Pubkey) : Event :=
  later (.paySolanaValidatorDebt amount ⟨some leafIndex, []⟩)
    [writable config, writable distribution, writable deposit, writable journal]

def writeOffDebt (leafIndex : UInt32) (amount : UInt64) (deposit : Pubkey) : Event :=
  later (.writeOffSolanaValidatorDebt amount ⟨some leafIndex, []⟩)
    [writable config, signed admin, writable distribution, writable deposit, writable distribution]

/-- A collection into the pool of a distribution, and what the integration does in it. -/
def collectInto (distribution pool : Pubkey) (m : Move) : Event :=
  .call .collectIntegrationRewards [writable config, writable distribution, writable integration,
    writable bucketAuthority, writable bucket, writable pool, writable integrationProgram,
    writable tokenProgramId] 200000 none m none

/-- The integration sends 2Z to the pool when it is asked to. -/
def collectIntegration (amount : UInt64) : Event :=
  collectInto distribution pool (.tokens bucket pool bucketAuthority amount)

/-- Somebody buys SOL: sends 2Z to the swap destination, after which the swap program withdraws. -/
def swap (token2zAmount solAmount : UInt64) : List Event :=
  [.outside (.tokens buyerToken swapDestination buyer token2zAmount),
    .call (.withdrawSol solAmount) [writable config, signed withdrawSolAuthority, writable journal,
      writable buyer] 200000
      (some ⟨tokenProgramId, some token2zAmount,
        [buyerToken, DOUBLEZERO_MINT_KEY, swapDestination, buyer]⟩) .stay none]

/-- A little-endian word of eight bytes. -/
def leBytes (n : Nat) : List (BitVec 8) := (List.range 8).map fun i => BitVec.ofNat 8 (n / 256 ^ i)

/-- A sweep for which the swap program returns the given fills. -/
def sweep (solAmount token2zAmount : Nat) : Event :=
  .call .sweepDistributionTokens [writable config, writable distribution, writable journal,
    writable swapProgram, writable swapProgram, writable swapProgram, writable swapProgram,
    writable pool, writable swapAuthority, writable swapDestination, writable tokenProgramId] 200000
    none .stay (some (swapProgram, leBytes solAmount ++ leBytes token2zAmount ++ leBytes 1))

def distribute (leafIndex : UInt32) (unitShare : UInt32) : Event :=
  later (.distributeRewards unitShare 0 ⟨some leafIndex, []⟩)
    [writable config, writable distribution, writable contributor, writable pool,
      writable DOUBLEZERO_MINT_KEY, writable relayer, writable tokenProgramId, writable recipientAta]

/-- Two validators owe 150 lamports; one contributor has both shares. -/
def debts : List SolanaValidatorDebt := [⟨nodeA, 100⟩, ⟨nodeB, 50⟩]
def shares : List RewardShare := [⟨service, 600000000, 0⟩, ⟨service, 400000000, 0⟩]

/-- Debt leaves of which one overflows the books. -/
def wrappingDebts : List SolanaValidatorDebt := [⟨nodeB, 1⟩, ⟨nodeB, 18446744073709551615⟩, ⟨nodeA, 1⟩]

/-- An epoch before the swap: one validator pays, the debt of the other is written off. -/
def unswapped : List Event :=
  opening ++ [registerIntegration, openEpoch, configureDebt 2 150, finalizeDebt, enableWriteOff,
    payDebt 0 100 depositA, writeOffDebt 1 50 depositB, collectIntegration 500,
    configureRewards 2 ⟨2⟩, finalizeRewards]

/-- And with it. -/
def settled : List Event := unswapped ++ swap 700 100

/-- The same epoch to its last reward. -/
def epoch : List Event :=
  settled ++ [sweep 100 700, distribute 1 400000000, distribute 0 600000000]

theorem exists_epoch {P : History → RevenueLedger → Bool}
    (hP : (replay (runtime debts shares) epoch ([], genesis 1000 700)).any
      (fun s => P s.1 s.2) = true) :
    ∃ h L, LedgerRun (runtime debts shares) (genesis 1000 700) h L ∧
      (∀ x ∈ h, ∃ e ∈ epoch, e.Replayed (runtime debts shares) x) ∧ P h L = true :=
  exists_run_of_replay debts shares 1000 700 epoch (by decide +kernel) hP

end Sample

end DoubleZero.Revenue
