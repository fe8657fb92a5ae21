import DoubleZero.Lib.Reorder
import DoubleZero.Solana.Recipe

/-!
# What an instruction looks at

A processor stays within a set of addresses when the accounts outside make no difference to it and
it makes no difference to them (`Stays`). The native programs stay within the accounts they are
given, taking an account from the iterator stays within the accounts listed, and staying within a
set goes through sequencing; so a whole instruction stays within its account list.

`Q` carries what a computation returns to the one after it, for the most part that an account it
hands out is one of those it may look at.
-/

namespace DoubleZero.Solana

open DoubleZero.Lib Classical

variable {D : Type} {α β : Type} {K : Set Pubkey} {L L' : Ledger D} {k : Pubkey}

/-! ## The ledger -/

namespace Ledger

theorem piecewise_apply (hk : k ∈ K) : K.piecewise L L' k = L k :=
  Set.piecewise_eq_of_mem _ _ _ hk

theorem set_piecewise (hk : k ∈ K) (a : Account D) :
    Ledger.set (K.piecewise L L') k a = K.piecewise (L.set k a) L' := by
  funext k'
  by_cases hk' : k' ∈ K
  · rw [Set.piecewise_eq_of_mem _ _ _ hk', set_apply, set_apply, Set.piecewise_eq_of_mem _ _ _ hk']
  · have hne : k' ≠ k := by
      rintro rfl
      exact hk' hk
    rw [set_of_ne _ _ hne, Set.piecewise_eq_of_notMem _ _ _ hk',
      Set.piecewise_eq_of_notMem _ _ _ hk']

theorem write_piecewise (hk : k ∈ K) (data : AccountData D) :
    Ledger.write (K.piecewise L L') k data = K.piecewise (L.write k data) L' := by
  rw [write, piecewise_apply hk, set_piecewise hk, write]

theorem credit_piecewise (hk : k ∈ K) (n : Nat) :
    Ledger.credit (K.piecewise L L') k n = K.piecewise (L.credit k n) L' := by
  rw [credit, piecewise_apply hk, set_piecewise hk, credit]

theorem debit_piecewise (hk : k ∈ K) (n : Nat) :
    Ledger.debit (K.piecewise L L') k n = K.piecewise (L.debit k n) L' := by
  rw [debit, piecewise_apply hk, set_piecewise hk, debit]

end Ledger

/-! ## Native programs -/

section Native

variable {signers : List Pubkey} {source target owner mint authority : Pubkey}

namespace System

variable [ZeroCopySum D]

theorem confined_transfer {n : Nat} (hsource : source ∈ K) (htarget : target ∈ K) :
    Confined K (transfer (D := D) signers source target n) := by
  intro L L'
  change _ = (fun L₁ => K.piecewise L₁ L') <$> _
  simp only [transfer, map_bind, map_pure, Ledger.piecewise_apply hsource,
    Ledger.debit_piecewise hsource, Ledger.piecewise_apply htarget,
    Ledger.credit_piecewise htarget]

theorem confined_allocate {space : Nat} (hk : k ∈ K) :
    Confined K (allocate (D := D) signers k space) := by
  intro L L'
  change _ = (fun L₁ => K.piecewise L₁ L') <$> _
  simp only [allocate, map_bind, map_pure, Ledger.piecewise_apply hk, Ledger.write_piecewise hk]

omit [ZeroCopySum D] in
theorem confined_assign (hk : k ∈ K) : Confined K (assign (D := D) signers k owner) := by
  intro L L'
  change _ = (fun L₁ => K.piecewise L₁ L') <$> _
  simp only [assign, map_bind, map_pure, Ledger.piecewise_apply hk, Ledger.set_piecewise hk]

theorem confined_createAccount {n space : Nat} (hsource : source ∈ K) (hk : k ∈ K) :
    Confined K (createAccount (D := D) signers source k n space owner) := by
  have hallocate : Confined K (allocate (D := D) signers k space) := confined_allocate hk
  have hassign : Confined K (assign (D := D) signers k owner) := confined_assign hk
  have htransfer : Confined K (transfer (D := D) signers source k n) :=
    confined_transfer hsource hk
  have hcreate := hallocate.bind (hassign.bind htransfer)
  intro L L'
  change _ = (fun L₁ => K.piecewise L₁ L') <$> _
  simp only [createAccount, map_bind, Ledger.piecewise_apply hk]
  refine bind_congr fun _ => ?_
  simp only [← map_bind]
  exact hcreate L L'

end System

namespace Token

theorem unpack_piecewise (hk : k ∈ K) : unpack (K.piecewise L L') k = unpack L k := by
  unfold unpack
  rw [Ledger.piecewise_apply hk]

theorem confined_transfer {amount : UInt64} (hsource : source ∈ K) (htarget : target ∈ K) :
    Confined K (transfer (D := D) signers source target authority amount) := by
  intro L L'
  change _ = (fun L₁ => K.piecewise L₁ L') <$> _
  simp only [transfer, unpack_piecewise hsource, unpack_piecewise htarget]
  split
  · simp only [map_bind]
    refine bind_congr fun _ => bind_congr fun _ => bind_congr fun _ => bind_congr fun _ => ?_
    split
    · rfl
    · simp only [map_bind, map_pure, Ledger.write_piecewise hsource,
        Ledger.write_piecewise htarget]
  · rfl

theorem confined_burn {amount : UInt64} (hsource : source ∈ K) :
    Confined K (burn (D := D) signers source mint authority amount) := by
  intro L L'
  change _ = (fun L₁ => K.piecewise L₁ L') <$> _
  simp only [burn, unpack_piecewise hsource]
  split
  · simp only [map_bind, map_pure, Ledger.write_piecewise hsource]
  · rfl

theorem confined_initializeAccount3 (hk : k ∈ K) :
    Confined K (initializeAccount3 (D := D) k mint owner) := by
  intro L L'
  change _ = (fun L₁ => K.piecewise L₁ L') <$> _
  simp only [initializeAccount3, Ledger.piecewise_apply hk]
  split
  · simp only [map_bind, map_pure, Ledger.write_piecewise hk]
  · rfl

end Token

end Native

/-! ## Processors -/

/-- The same state on another ledger outside `K`. -/
noncomputable def Exec.patch (K : Set Pubkey) (s : Exec D) (L : Ledger D) : Exec D :=
  { s with ledger := K.piecewise s.ledger L }

/-- The accounts left on the iterator are in `K`. -/
def Exec.Within (K : Set Pubkey) (s : Exec D) : Prop := ∀ m ∈ s.iter, m.key ∈ K

structure Stays (K : Set Pubkey) (Q : α → Prop) (x : Processor D α) : Prop where
  patch : ∀ {s : Exec D} (L : Ledger D), s.Within K →
    x (s.patch K L) = (x s).map fun r => (r.1, r.2.patch K L)
  returns : ∀ {s : Exec D} {a : α} {s₁ : Exec D}, s.Within K → x s = .ok (a, s₁) →
    Q a ∧ s₁.Within K

namespace Stays

variable {Q : α → Prop} {R : β → Prop} {x : Processor D α}

/-- A computation that leaves the accounts alone. -/
theorem of_pure (h : (∃ a, Q a ∧ ∀ s : Exec D, x s = .ok (a, s)) ∨
    ∃ e, ∀ s : Exec D, x s = .error e) : Stays K Q x := by
  rcases h with ⟨b, hb, hx⟩ | ⟨e, hx⟩
  · refine ⟨fun {s} L _ => by rw [hx, hx]; rfl, fun {s a s₁} hs h => ?_⟩
    cases (hx s).symm.trans h
    exact ⟨hb, hs⟩
  · refine ⟨fun {s} L _ => by rw [hx, hx]; rfl, fun {s a s₁} _ h => ?_⟩
    cases (hx s).symm.trans h

protected theorem pure {a : α} (h : Q a) : Stays K Q (pure a : Processor D α) :=
  .of_pure (.inl ⟨a, h, fun _ => rfl⟩)

theorem fail {e : ProgramError} {log : String} : Stays K Q (Solana.fail e log : Processor D α) :=
  .of_pure (.inr ⟨_, fun _ => rfl⟩)

theorem require {c : Prop} {_ : Decidable c} {e : ProgramError} {log : String} :
    Stays K (fun _ => c) (Solana.require c e log : Processor D Unit) := by
  by_cases h : c
  · exact .of_pure (.inl ⟨(), h, fun s => if_pos h⟩)
  · exact .of_pure (.inr ⟨.err e log, fun s => if_neg h⟩)

theorem okOr {o : Option α} {e : ProgramError} {log : String} :
    Stays K (fun a => o = some a) (Solana.okOr o e log : Processor D α) := by
  cases o with
  | some a => exact .of_pure (.inl ⟨a, rfl, fun _ => rfl⟩)
  | none => exact .of_pure (.inr ⟨.err e log, fun _ => rfl⟩)

theorem unwrap! {o : Option α} {log : String} :
    Stays K (fun a => o = some a) (Solana.unwrap! o log : Processor D α) := by
  cases o with
  | some a => exact .of_pure (.inl ⟨a, rfl, fun _ => rfl⟩)
  | none => exact .of_pure (.inr ⟨.panic log, fun _ => rfl⟩)

protected theorem bind {f : α → Processor D β} (hx : Stays K Q x) (hf : ∀ a, Q a → Stays K R (f a)) :
    Stays K R (x >>= f) := by
  refine ⟨fun {s} L hs => ?_, fun {s b s₂} hs h => ?_⟩
  · show (x (s.patch K L)).bind (fun r => f r.1 r.2) = ((x s).bind fun r => f r.1 r.2).map _
    rw [hx.patch L hs]
    cases hr : x s with
    | error e => rfl
    | ok r =>
      obtain ⟨hQ, hs₁⟩ := hx.returns hs hr
      exact (hf r.1 hQ).patch L hs₁
  · obtain ⟨a, s₁, ha, hb⟩ := bind_eq_ok.1 h
    obtain ⟨hQ, hs₁⟩ := hx.returns hs ha
    exact (hf a hQ).returns hs₁ hb

theorem mono {Q' : α → Prop} (hx : Stays K Q x) (hQ : ∀ a, Q a → Q' a) : Stays K Q' x :=
  ⟨hx.patch, fun hs h => (hx.returns hs h).imp_left (hQ _)⟩

theorem ite {c : Prop} {_ : Decidable c} {y : Processor D α} (hx : Stays K Q x)
    (hy : Stays K Q y) : Stays K Q (if c then x else y) := by
  split
  · exact hx
  · exact hy

/-! ### Ledger -/

theorem account (hk : k ∈ K) : Stays K (fun _ => True) (Solana.account k : Processor D (Account D)) := by
  refine ⟨fun {s} L _ => ?_, fun {s a s₁} hs h => ?_⟩
  · show Except.ok (K.piecewise s.ledger L k, _) = _
    rw [Ledger.piecewise_apply hk]
    rfl
  · cases account_eq_ok.1 h
    exact ⟨trivial, hs⟩

theorem invoke {f : Ledger D → Except ProgramError (Ledger D)} (hf : Confined K f) :
    Stays K (fun _ => True) (Solana.invoke f : Processor D Unit) := by
  refine ⟨fun {s} L _ => ?_, fun {s a s₁} hs h => ?_⟩
  · have heq := hf s.ledger L
    simp only [Solana.invoke, Exec.patch, heq]
    cases f s.ledger with
    | error e => rfl
    | ok L₁ => rfl
  · obtain ⟨L₁, -, heq⟩ := invoke_eq_ok.1 h
    cases heq
    exact ⟨trivial, hs⟩

theorem modifyLedger {f : Ledger D → Ledger D}
    (hf : ∀ L L', f (K.piecewise L L') = K.piecewise (f L) L') :
    Stays K (fun _ => True) (Solana.modifyLedger f : Processor D Unit) := by
  refine ⟨fun {s} L _ => ?_, fun {s a s₁} hs h => ?_⟩
  · simp only [Solana.modifyLedger, Exec.patch, hf]
    rfl
  · cases modifyLedger_eq_ok.1 h
    exact ⟨trivial, hs⟩

theorem moveLamports {source target : Pubkey} {n : Nat} (hsource : source ∈ K)
    (htarget : target ∈ K) :
    Stays K (fun _ => True) (Solana.moveLamports source target n : Processor D Unit) := by
  refine ⟨fun {s} L _ => ?_, fun {s a s₁} hs h => ?_⟩
  · simp only [Solana.moveLamports, Exec.patch, Ledger.piecewise_apply hsource,
      Ledger.piecewise_apply htarget, Ledger.debit_piecewise hsource,
      Ledger.credit_piecewise htarget]
    split
    · rfl
    · split
      · rfl
      · rfl
  · rcases moveLamports_eq_ok.1 h with ⟨-, heq⟩ | ⟨-, -, -, heq⟩
    · cases heq
      exact ⟨trivial, hs⟩
    · cases heq
      exact ⟨trivial, hs⟩

theorem resize [ZeroCopySum D] {newLen : Nat} (hk : k ∈ K) :
    Stays K (fun _ => True) (Solana.resize k newLen : Processor D Unit) := by
  refine ⟨fun {s} L _ => ?_, fun {s a s₁} hs h => ?_⟩
  · simp only [Solana.resize, Exec.patch, Ledger.piecewise_apply hk, Ledger.write_piecewise hk]
    split
    · split
      · rfl
      · rfl
    · rfl
  · obtain ⟨data, rem, -, -, heq⟩ := resize_eq_ok.1 h
    cases heq
    exact ⟨trivial, hs⟩

/-! ### The account list -/

theorem nextAccount :
    Stays K (fun info => info.key ∈ K) (Solana.nextAccount : Processor D AccountInfo) := by
  refine ⟨fun {s} L _ => ?_, fun {s a s₁} hs h => ?_⟩
  · simp only [Solana.nextAccount, Exec.patch]
    cases s.iter with
    | nil => rfl
    | cons m rest => rfl
  · obtain ⟨m, rest, hiter, heq⟩ := nextAccount_eq_ok.1 h
    cases heq
    refine ⟨hs m (by simp [hiter]), fun m' hm' => hs m' ?_⟩
    rw [hiter]
    exact List.mem_cons_of_mem _ hm'

theorem tryNextEnumeratedAccount {opts : NextAccountOptions} :
    Stays K (fun info => info.key ∈ K)
      (Solana.tryNextEnumeratedAccount opts : Processor D AccountInfo) := by
  unfold Solana.tryNextEnumeratedAccount
  refine nextAccount.bind fun info hinfo => (account hinfo).bind fun acct _ => ?_
  refine require.bind fun _ _ => require.bind fun _ _ => require.bind fun _ _ => ?_
  exact require.bind fun _ _ => .pure hinfo

section ZeroCopy

variable {T : Type} [ZeroCopy D T] {programId : Pubkey} {info : AccountInfo}

theorem view_piecewise (hk : k ∈ K) :
    (view programId (K.piecewise L L') k : Option (T × List (BitVec 8))) = view programId L k := by
  unfold view
  rw [Ledger.piecewise_apply hk]

theorem tryFromAccountInfo (hk : info.key ∈ K) :
    Stays K (fun acct => acct.info.key ∈ K)
      (Solana.tryFromAccountInfo T programId info : Processor D (ZeroCopyAccount T)) := by
  refine ⟨fun {s} L _ => ?_, fun {s a s₁} hs h => ?_⟩
  · simp only [Solana.tryFromAccountInfo, Exec.patch, Ledger.piecewise_apply hk,
      view_piecewise hk]
    split
    · cases (view programId s.ledger info.key : Option (T × List (BitVec 8))) with
      | none => rfl
      | some p => rfl
    · rfl
  · obtain ⟨data, rem, -, heq⟩ := tryFromAccountInfo_eq_ok.1 h
    cases heq
    exact ⟨hk, hs⟩

theorem tryNextZeroCopy :
    Stays K (fun acct => acct.info.key ∈ K)
      (Solana.tryNextZeroCopy T programId : Processor D (ZeroCopyAccount T)) :=
  tryNextEnumeratedAccount.bind fun _ hinfo => tryFromAccountInfo hinfo

theorem tryNextZeroCopyMut :
    Stays K (fun acct => acct.info.key ∈ K)
      (Solana.tryNextZeroCopyMut T programId : Processor D (ZeroCopyAccount T)) :=
  tryNextEnumeratedAccount.bind fun _ hinfo =>
    require.bind fun _ _ => tryFromAccountInfo hinfo

theorem store {data : T} {rem : List (BitVec 8)} (hk : k ∈ K) :
    Stays K (fun _ => True) (Solana.store k data rem : Processor D Unit) :=
  .modifyLedger fun _ _ => Ledger.write_piecewise hk _

theorem tryInitialize (hk : info.key ∈ K) :
    Stays K (fun _ => True) (Solana.tryInitialize T info : Processor D (List (BitVec 8))) := by
  refine ⟨fun {s} L _ => ?_, fun {s a s₁} hs h => ?_⟩
  · simp only [Solana.tryInitialize, Exec.patch, Ledger.piecewise_apply hk]
    split
    · split
      · rfl
      · rfl
    · rfl
  · obtain ⟨len, -, -, heq⟩ := tryInitialize_eq_ok.1 h
    cases heq
    exact ⟨trivial, hs⟩

end ZeroCopy

/-! ### Creating accounts -/

variable {scheme : AddressScheme} {callerId : Pubkey}

theorem invokeSigned {seeds : List (List Seed × UInt8)}
    {f : List Pubkey → Ledger D → Except ProgramError (Ledger D)}
    (hf : ∀ signers, Confined K (f signers)) :
    Stays K (fun _ => True) (Solana.invokeSigned scheme callerId seeds f : Processor D Unit) := by
  refine ⟨fun {s} L hs => ?_, fun {s a s₁} hs h => ?_⟩
  · unfold Solana.invokeSigned
    cases seeds.mapM fun p => scheme.createProgramAddress p.1 p.2 callerId with
    | none => rfl
    | some derived => exact (invoke (hf (s.signers ++ derived))).patch L hs
  · obtain ⟨derived, -, L₁, -, heq⟩ := invokeSigned_eq_ok.1 h
    cases heq
    exact ⟨trivial, hs⟩

variable [ZeroCopySum D] {rent : Rent} {payer newAccount : Invoker}

theorem tryCreateAccount {currentLamports len : Nat} {owner : Pubkey} {additional : Option Nat}
    (hpayer : payer.key ∈ K) (hnew : newAccount.key ∈ K) :
    Stays K (fun _ => True) (Solana.tryCreateAccount scheme rent callerId payer newAccount
      currentLamports len owner additional : Processor D Unit) := by
  unfold Solana.tryCreateAccount
  refine .ite (invokeSigned fun _ => System.confined_createAccount hpayer hnew) ?_
  refine (invokeSigned fun _ => System.confined_allocate hnew).bind fun _ _ => ?_
  refine (invokeSigned fun _ => System.confined_assign hnew).bind fun _ _ => ?_
  exact .ite (invokeSigned fun _ => System.confined_transfer hpayer hnew) (.pure trivial)

theorem tryCreateTokenAccount {currentLamports : Nat} {mint owner : Pubkey}
    (hpayer : payer.key ∈ K) (hnew : newAccount.key ∈ K) :
    Stays K (fun _ => True) (Solana.tryCreateTokenAccount scheme rent callerId payer newAccount
      mint owner currentLamports : Processor D Unit) := by
  unfold Solana.tryCreateTokenAccount
  refine (tryCreateAccount hpayer hnew).bind fun _ _ => ?_
  exact invokeSigned fun _ => Token.confined_initializeAccount3 hnew

end Stays

end DoubleZero.Solana
