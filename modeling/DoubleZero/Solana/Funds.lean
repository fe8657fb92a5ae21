import DoubleZero.Solana.Recipe

/-!
# Processors that take nothing from their program's accounts

`Keeps programId p`: whatever `p` does, every account of the program stays with it and loses no
lamports. Checks, reads and writes of data do, and so does paying for a new account, since System
transfers only take from accounts of the System program. A processor is followed by `Keeps.bind`.
-/

namespace DoubleZero.Solana

variable {D : Type} {programId : Pubkey}

/-- Accounts of the program stay with it and lose no lamports. -/
def KeepsFunds (programId : Pubkey) (L L' : Ledger D) : Prop :=
  ∀ k, (L k).owner = programId → (L' k).owner = programId ∧ (L k).lamports ≤ (L' k).lamports

namespace KeepsFunds

variable {L L' L'' : Ledger D}

theorem refl (L : Ledger D) : KeepsFunds programId L L := fun _ ho => ⟨ho, le_refl _⟩

theorem trans (h : KeepsFunds programId L L') (h' : KeepsFunds programId L' L'') :
    KeepsFunds programId L L'' := by
  intro k ho
  obtain ⟨ho', hle⟩ := h k ho
  obtain ⟨ho'', hle'⟩ := h' k ho'
  exact ⟨ho'', hle.trans hle'⟩

theorem write (L : Ledger D) (k : Pubkey) (data : AccountData D) :
    KeepsFunds programId L (L.write k data) := by
  intro k' ho
  simp [ho]

theorem allocated [ZeroCopySum D] {rent : Rent} {k owner : Pubkey} {data : AccountData D}
    (hsys : programId ≠ systemProgramId) (h : Allocated rent k owner data L L') :
    KeepsFunds programId L L' := by
  intro k' ho
  have hne : k' ≠ k := by
    rintro rfl
    exact hsys (ho.symm.trans h.vacant)
  refine ⟨(h.owner_frame k' hne).trans ho, le_of_eq ?_⟩
  exact (h.lamports_frame k' hne (by rw [ho]; exact hsys)).symm

end KeepsFunds

variable {α β : Type}

def Keeps (programId : Pubkey) (p : Processor D α) : Prop :=
  ∀ s r, p s = .ok r → KeepsFunds programId s.ledger r.2.ledger

namespace Keeps

/-- A processor that leaves the ledger alone. -/
theorem of_ledger {p : Processor D α} (h : ∀ {s r}, p s = .ok r → r.2.ledger = s.ledger) :
    Keeps programId p := by
  intro s r hr
  rw [h hr]
  exact KeepsFunds.refl _

theorem bind {x : Processor D α} {f : α → Processor D β} (hx : Keeps programId x)
    (hf : ∀ a, Keeps programId (f a)) : Keeps programId (x >>= f) := by
  intro s r h
  obtain ⟨a, s₁, h₁, h₂⟩ := bind_eq_ok.1 h
  exact (hx s (a, s₁) h₁).trans (hf a s₁ r h₂)

theorem pure (a : α) : Keeps programId (Pure.pure a : Processor D α) :=
  of_ledger fun h => by cases pure_eq_ok.1 h; rfl

theorem fail (e : ProgramError) (log : String) :
    Keeps programId (Solana.fail e log : Processor D α) :=
  of_ledger fun h => (fail_eq_ok.1 h).elim

theorem require (c : Prop) [Decidable c] (e : ProgramError) (log : String) :
    Keeps programId (Solana.require c e log : Processor D Unit) :=
  of_ledger fun h => by obtain ⟨-, rfl⟩ := require_eq_ok.1 h; rfl

theorem okOr (o : Option α) (e : ProgramError) (log : String) :
    Keeps programId (Solana.okOr o e log : Processor D α) :=
  of_ledger fun h => by obtain ⟨_, -, rfl⟩ := okOr_eq_ok.1 h; rfl

theorem unwrap! (o : Option α) (log : String) :
    Keeps programId (Solana.unwrap! o log : Processor D α) :=
  of_ledger fun h => by obtain ⟨_, -, rfl⟩ := unwrap!_eq_ok.1 h; rfl

theorem account (k : Pubkey) : Keeps programId (Solana.account k : Processor D (Account D)) :=
  of_ledger fun h => by cases account_eq_ok.1 h; rfl

theorem next (opts : NextAccountOptions) :
    Keeps programId (tryNextEnumeratedAccount opts : Processor D AccountInfo) :=
  of_ledger fun h => by
    obtain ⟨m, rest, -, -, rfl⟩ := tryNextEnumeratedAccount_eq_ok.1 h
    rfl

section ZeroCopy

variable {T : Type} [ZeroCopy D T] (owner : Pubkey)

theorem zeroCopy : Keeps (D := D) programId (tryNextZeroCopy T owner) :=
  of_ledger fun h => by
    obtain ⟨m, rest, -, _, _, -, rfl⟩ := tryNextZeroCopy_eq_ok.1 h
    rfl

theorem zeroCopyMut : Keeps (D := D) programId (tryNextZeroCopyMut T owner) :=
  of_ledger fun h => by
    obtain ⟨m, rest, -, -, _, _, -, rfl⟩ := tryNextZeroCopyMut_eq_ok.1 h
    rfl

theorem tryInitialize (info : AccountInfo) :
    Keeps (D := D) programId (Solana.tryInitialize T info) :=
  of_ledger fun h => by obtain ⟨_, -, -, rfl⟩ := tryInitialize_eq_ok.1 h; rfl

theorem store (k : Pubkey) (data : T) (rem : List (BitVec 8)) :
    Keeps (D := D) programId (Solana.store k data rem) := by
  intro s r h
  cases store_eq_ok.1 h
  exact KeepsFunds.write _ _ _

end ZeroCopy

end Keeps

end DoubleZero.Solana
