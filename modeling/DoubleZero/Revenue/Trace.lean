import DoubleZero.Lib.Siblings
import DoubleZero.Revenue.Invariant.Swap
import DoubleZero.Revenue.Replay

/-!
# Instruction traces

Withdrawing SOL looks at the instruction processed just before under the same parent, which only a
trace has: transactions, the instructions they list, and the instructions those invoke. A trace
keeps the open frames next to the ledger. What runs in it are calls of this program, transfers of
the SPL Token program, and any other instruction, nested in any way; the effect of the others is
`Foreign`.
-/

namespace DoubleZero.Revenue

open DoubleZero.Lib DoubleZero.Solana

/-- The ledger in the middle of a trace, and the open frames. -/
structure Trace where
  ledger : RevenueLedger
  frames : Frames SiblingInstruction

/-- The `TransferChecked` instruction, as siblings see it. `extra` is the authority and what comes
after it. -/
def transferCheckedInstruction (source mint target : Pubkey) (extra : List Pubkey)
    (amount : UInt64) : SiblingInstruction :=
  ⟨tokenProgramId, some amount, source :: mint :: target :: extra⟩

inductive TraceLabel where
  /-- An instruction that invokes others starts. -/
  | enter
  /-- An instruction acts on the ledger by itself. -/
  | work
  /-- The innermost instruction completes. -/
  | leave (ix : SiblingInstruction)
  /-- An instruction that invokes nothing. -/
  | instruction (ix : SiblingInstruction)
  | transferChecked (source mint target : Pubkey) (extra : List Pubkey) (amount : UInt64)
  | call (call : Call)
  /-- The transaction ends, and another one begins. -/
  | finish

inductive TraceStep (rt : Runtime) : TraceLabel → Trace → Trace → Prop
  | enter {T : Trace} : TraceStep rt .enter T ⟨T.ledger, T.frames.enter⟩
  | work {T : Trace} {L' : RevenueLedger} (foreign : Foreign rt T.ledger L')
      (tokens : KeepsTokens rt T.ledger L') : TraceStep rt .work T ⟨L', T.frames⟩
  | leave {T : Trace} {ix : SiblingInstruction} (inner : 2 ≤ T.frames.stack.length)
      (caller : ix.programId ≠ tokenProgramId) :
      TraceStep rt (.leave ix) T ⟨T.ledger, T.frames.leave ix⟩
  | instruction {T : Trace} {L' : RevenueLedger} {ix : SiblingInstruction}
      (other : ix.programId = tokenProgramId → ix.transferChecked = none)
      (foreign : Foreign rt T.ledger L') (tokens : KeepsTokens rt T.ledger L') :
      TraceStep rt (.instruction ix) T ⟨L', T.frames.complete ix⟩
  /-- Whether the owner of the source signs or a delegate of it, the effect is the owner's
  transfer. -/
  | transferChecked {T : Trace} {L' : RevenueLedger} {source mint target : Pubkey}
      {extra : List Pubkey} {amount : UInt64} {a : TokenAccount}
      (sent : Token.unpack T.ledger source = some a) (checked : a.mint = mint)
      (signed : ¬Derived rt a.owner)
      (moved : Token.transfer [a.owner] source target a.owner amount T.ledger = .ok L') :
      TraceStep rt (.transferChecked source mint target extra amount) T
        ⟨L', T.frames.complete (transferCheckedInstruction source mint target extra amount)⟩
  /-- The call sees its last sibling. The programs it invokes itself do not get the signature of the
  swap destination's authority. -/
  | call {T : Trace} {L' : RevenueLedger} {call : Call}
      (sibling : call.env.sibling = T.frames.last.map Prod.snd)
      (step : Step rt (.call call) T.ledger L') (spares : call.SparesSwap rt) :
      TraceStep rt (.call call) T
        ⟨L', T.frames.complete ⟨ID, none, call.accounts.map fun m => m.key⟩⟩
  | finish {T : Trace} (outermost : T.frames.stack.length = 1) :
      TraceStep rt .finish T ⟨T.ledger, T.frames.restart⟩

abbrev TraceRun (rt : Runtime) (L₀ : RevenueLedger) := Run (TraceStep rt) ⟨L₀, .initial⟩

abbrev TraceHistory := List (Entry Trace TraceLabel)

/-- The number of the instruction a step looks back at, if it withdraws SOL. -/
def creditedBy (x : Entry Trace TraceLabel) : Option Nat :=
  match x.label with
  | .call call =>
    match call.data with
    | .withdrawSol _ => x.before.frames.last.map Prod.fst
    | _ => none
  | _ => none

/-- The numbers of all instructions that were credited. -/
def credited (h : TraceHistory) : List Nat := h.filterMap creditedBy

/-- The number of a transfer. -/
def transferNumber (x : Entry Trace TraceLabel) : Option Nat :=
  match x.label with
  | .transferChecked .. => some x.before.frames.completed
  | _ => none

/-- The numbers of all transfers. -/
def transferNumbers (h : TraceHistory) : List Nat := h.filterMap transferNumber

section

variable {rt : Runtime} {L₀ : RevenueLedger} {T T' : Trace} {l : TraceLabel} {h : TraceHistory}

/-- What a step of a trace does to the ledger is a step of a run, or nothing. -/
theorem TraceStep.ledger_step (hs : TraceStep rt l T T') :
    T'.ledger = T.ledger ∨ ∃ l', Step rt l' T.ledger T'.ledger := by
  cases hs with
  | enter => exact .inl rfl
  | work foreign => exact .inr ⟨.outside, .outside foreign⟩
  | leave => exact .inl rfl
  | instruction other foreign => exact .inr ⟨.outside, .outside foreign⟩
  | transferChecked sent checked signed moved =>
    exact .inr ⟨.outside, .outside (tokenTransfer_foreign moved)⟩
  | call sibling step spares => exact .inr ⟨_, step⟩
  | finish => exact .inl rfl

/-- The ledger of a trace is one that a run reaches. -/
theorem TraceRun.ledgerRun (hrun : TraceRun rt L₀ h T) : ∃ h', LedgerRun rt L₀ h' T.ledger := by
  refine hrun.invariant (P := fun T => ∃ h', LedgerRun rt L₀ h' T.ledger) ⟨[], .start⟩ ?_
  rintro l T T' ⟨h', hrun'⟩ hs
  rcases hs.ledger_step with hsame | ⟨l', hstep⟩
  · exact ⟨h', hsame ▸ hrun'⟩
  · exact ⟨_, .next hrun' hstep⟩

/-! ## Every instruction is looked at once -/

theorem credited_cons (x : Entry Trace TraceLabel) :
    credited (x :: h) = match creditedBy x with
      | none => credited h
      | some n => n :: credited h := by
  cases hx : creditedBy x with
  | none => simp [credited, hx]
  | some n => simp [credited, hx]

/-- A step looks at its last sibling and completes, or it looks at nothing. -/
theorem TraceStep.used (hs : TraceStep rt l T T') (hu : T.frames.Used (credited h)) :
    T'.frames.Used (credited (⟨T, l, T'⟩ :: h)) := by
  rw [credited_cons]
  cases hs with
  | enter => exact hu.enter
  | work => exact hu
  | leave => exact hu.leave
  | instruction => exact hu.complete
  | transferChecked => exact hu.complete
  | @call _ L' call sibling step spares =>
    cases hx : creditedBy ⟨T, .call call,
        ⟨L', T.frames.complete ⟨ID, none, call.accounts.map fun m => m.key⟩⟩⟩ with
    | none => exact hu.complete
    | some n =>
      simp only [creditedBy] at hx
      split at hx
      · obtain ⟨y, hlast, rfl⟩ := Option.map_eq_some_iff.1 hx
        exact hu.look hlast
      · cases hx
  | finish => exact hu.restart

theorem TraceRun.used (hrun : TraceRun rt L₀ h T) : T.frames.Used (credited h) :=
  hrun.history (P := fun h T => T.frames.Used (credited h)) Frames.Used.initial
    fun _ hu hs => hs.used hu

/-- Numbers of transfers are given out once. -/
theorem TraceStep.transferNumbers (hs : TraceStep rt l T T')
    (hn : (transferNumbers h).Nodup ∧ ∀ n ∈ transferNumbers h, n < T.frames.completed) :
    (Revenue.transferNumbers (⟨T, l, T'⟩ :: h)).Nodup ∧
      ∀ n ∈ Revenue.transferNumbers (⟨T, l, T'⟩ :: h), n < T'.frames.completed := by
  obtain ⟨hnodup, hlt⟩ := hn
  have hlater : ∀ n ∈ Revenue.transferNumbers h, n < T.frames.completed + 1 :=
    fun n hn => (hlt n hn).trans (Nat.lt_succ_self _)
  cases hs with
  | enter => exact ⟨hnodup, hlt⟩
  | work => exact ⟨hnodup, hlt⟩
  | leave => exact ⟨hnodup, hlater⟩
  | instruction => exact ⟨hnodup, hlater⟩
  | transferChecked =>
    refine ⟨List.nodup_cons.2 ⟨fun hmem => Nat.lt_irrefl _ (hlt _ hmem), hnodup⟩, fun n hn => ?_⟩
    rcases List.mem_cons.1 hn with rfl | hn
    · exact Nat.lt_succ_self _
    · exact hlater n hn
  | call => exact ⟨hnodup, hlater⟩
  | finish => exact ⟨hnodup, hlt⟩

theorem TraceRun.transferNumbers_nodup (hrun : TraceRun rt L₀ h T) : (transferNumbers h).Nodup :=
  (hrun.history (P := fun h T => (transferNumbers h).Nodup ∧
    ∀ n ∈ transferNumbers h, n < T.frames.completed) ⟨List.nodup_nil, by simp [transferNumbers]⟩
    fun _ hn hs => hs.transferNumbers hn).1

/-- The transfer a number belongs to. -/
def NumbersTransfer (h : TraceHistory) (n : Nat) (ix : SiblingInstruction) : Prop :=
  ∃ x ∈ h, x.before.frames.completed = n ∧ ∃ source mint target extra amount,
    x.label = .transferChecked source mint target extra amount ∧
      ix = transferCheckedInstruction source mint target extra amount

/-- A last sibling that moved tokens is a transfer of the trace. -/
def LastNumbered (h : TraceHistory) (T : Trace) : Prop :=
  ∀ n ix amount, T.frames.last = some (n, ix) → ix.programId = tokenProgramId →
    ix.transferChecked = some amount → NumbersTransfer h n ix

theorem TraceStep.lastNumbered (hs : TraceStep rt l T T') (hn : LastNumbered h T) :
    LastNumbered (⟨T, l, T'⟩ :: h) T' := by
  intro n ix amount hlast hprogram htransfer
  cases hs with
  | enter => simp at hlast
  | work =>
    obtain ⟨x, hx, hrest⟩ := hn n ix amount hlast hprogram htransfer
    exact ⟨x, List.mem_cons_of_mem _ hx, hrest⟩
  | leave inner caller =>
    cases hlast
    exact absurd hprogram caller
  | instruction other =>
    cases hlast
    exact absurd (htransfer.symm.trans (other hprogram)) (by simp)
  | transferChecked =>
    cases hlast
    exact ⟨_, List.mem_cons_self, rfl, _, _, _, _, _, rfl, rfl⟩
  | call =>
    cases hlast
    exact absurd hprogram (show ID ≠ tokenProgramId by decide)
  | finish => simp at hlast

theorem TraceRun.lastNumbered (hrun : TraceRun rt L₀ h T) : LastNumbered h T :=
  hrun.history (P := LastNumbered) (fun n ix amount hlast => by simp at hlast)
    fun _ hn hs => hs.lastNumbered hn

end

/-! ## Replaying a trace -/

section

variable {rt : Runtime} {L₀ : RevenueLedger} {T T' : Trace} {h h' : TraceHistory}

/-- An event as an instruction of a trace: tokens are moved by `TransferChecked`, and a call sees
the last sibling of the trace. -/
def Event.traced (T : Trace) : Event → TraceLabel
  | .call data accounts unixTimestamp _ invoked returnData =>
    .call ⟨data, accounts, unixTimestamp, T.frames.last.map Prod.snd,
      fun L => (invoked.apply L).map fun L' => (L', returnData)⟩
  | .outside (.tokens source target authority amount) =>
    .transferChecked source DOUBLEZERO_MINT_KEY target [authority] amount
  | .outside _ => .work

def Event.trace (rt : Runtime) (T : Trace) : Event → Option Trace
  | .call data accounts unixTimestamp _ invoked returnData =>
    ((Event.call data accounts unixTimestamp (T.frames.last.map Prod.snd) invoked returnData).apply rt
      T.ledger).map fun L' =>
        ⟨L', T.frames.complete ⟨ID, none, accounts.map fun m => m.key⟩⟩
  | .outside (.tokens source target authority amount) =>
    if (Token.unpack T.ledger source).map TokenAccount.mint = some DOUBLEZERO_MINT_KEY then
      (Move.apply (.tokens source target authority amount) T.ledger).toOption.map fun L' =>
        ⟨L', T.frames.complete
          (transferCheckedInstruction source DOUBLEZERO_MINT_KEY target [authority] amount)⟩
    else none
  | .outside m => (m.apply T.ledger).toOption.map fun L' => ⟨L', T.frames⟩

theorem Event.traceStep {e : Event} (he : e.Unsigned rt) (h : e.trace rt T = some T') :
    TraceStep rt (e.traced T) T T' := by
  match e, he with
  | .call data accounts unixTimestamp sibling invoked returnData, he =>
    obtain ⟨L', happly, rfl⟩ := Option.map_eq_some_iff.1 h
    have he' : (Event.call data accounts unixTimestamp (T.frames.last.map Prod.snd) invoked
        returnData).Unsigned rt := he
    refine .call rfl (Event.step he'.lawful happly) fun L L' rd hcpi => ?_
    have hkeeps : (books rt L).KeepsTokens rt (books rt L') := Event.cpi_keepsTokens he' rfl hcpi
    exact hkeeps.swap
  | .outside (.tokens source target authority amount), he =>
    simp only [Event.trace] at h
    split at h
    · next hmint =>
      obtain ⟨L', happly, rfl⟩ := Option.map_eq_some_iff.1 h
      obtain ⟨a, ha, hmint⟩ := Option.map_eq_some_iff.1 hmint
      have hmoved := toOption_eq_some.1 happly
      obtain ⟨a', -, ha', -, -, -, rfl, -⟩ := Token.transfer_eq_ok.1 hmoved
      cases ha.symm.trans ha'
      exact .transferChecked ha hmint he hmoved
    · cases h
  | .outside (.lamports source target n), he =>
    obtain ⟨L', happly, rfl⟩ := Option.map_eq_some_iff.1 h
    have hmoved := toOption_eq_some.1 happly
    exact .work (Move.foreign hmoved) (Move.keepsTokens (m := .lamports source target n) he hmoved)
  | .outside .stay, he =>
    cases h
    exact .work .refl .refl

/-- What happens in a trace: an event, or an instruction that invokes others starts or completes. -/
inductive TraceEvent where
  | event (e : Event)
  | enter
  | leave (ix : SiblingInstruction)

namespace TraceEvent

def label (T : Trace) : TraceEvent → TraceLabel
  | .event e => e.traced T
  | .enter => .enter
  | .leave ix => .leave ix

def apply (rt : Runtime) (T : Trace) : TraceEvent → Option Trace
  | .event e => e.trace rt T
  | .enter => some ⟨T.ledger, T.frames.enter⟩
  | .leave ix =>
    if 2 ≤ T.frames.stack.length ∧ ix.programId ≠ tokenProgramId then
      some ⟨T.ledger, T.frames.leave ix⟩
    else none

def Unsigned (rt : Runtime) : TraceEvent → Prop
  | .event e => e.Unsigned rt
  | _ => True

/-- A program is invoked by a transaction or by another program, and the events happen in it. -/
def invoked (programId : Pubkey) (es : List TraceEvent) : List TraceEvent :=
  .enter :: es ++ [.leave ⟨programId, none, []⟩]

theorem step {e : TraceEvent} (he : e.Unsigned rt) (h : e.apply rt T = some T') :
    TraceStep rt (e.label T) T T' := by
  cases e with
  | event e => exact Event.traceStep he h
  | enter =>
    cases h
    exact .enter
  | leave ix =>
    simp only [apply, Option.ite_none_right_eq_some, Option.some.injEq] at h
    obtain ⟨⟨hinner, hcaller⟩, rfl⟩ := h
    exact .leave hinner hcaller

end TraceEvent

/-- Takes the events, oldest first, through a trace. -/
def replayTrace (rt : Runtime) :
    List TraceEvent → TraceHistory × Trace → Option (TraceHistory × Trace)
  | [], s => some s
  | e :: es, (h, T) =>
    (e.apply rt T).bind fun T' => replayTrace rt es (⟨T, e.label T, T'⟩ :: h, T')

theorem TraceRun.of_replay {es : List TraceEvent} (hrun : TraceRun rt L₀ h T)
    (hes : ∀ e ∈ es, e.Unsigned rt) (hreplay : replayTrace rt es (h, T) = some (h', T')) :
    TraceRun rt L₀ h' T' := by
  induction es generalizing h T with
  | nil =>
    cases hreplay
    exact hrun
  | cons e es ih =>
    obtain ⟨T₁, happly, hrest⟩ := Option.bind_eq_some_iff.1 hreplay
    refine ih (.next hrun (TraceEvent.step (hes e (by simp)) happly)) (fun e' he' => ?_) hrest
    exact hes e' (by simp [he'])

end

end DoubleZero.Revenue
