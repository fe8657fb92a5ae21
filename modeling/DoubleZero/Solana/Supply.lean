import DoubleZero.Solana.Programs

/-!
# Lamports are conserved

A ledger has infinitely many addresses, of which a change touches finitely many. It conserves
lamports when every finite set of accounts that has the touched ones holds as much after it as
before.
-/

namespace DoubleZero.Solana

variable {D : Type} {L L' L'' : Ledger D}

def Conserves (L L' : Ledger D) : Prop :=
  ∃ S : Finset Pubkey, ∀ T, S ⊆ T → ∑ k ∈ T, (L' k).lamports = ∑ k ∈ T, (L k).lamports

namespace Conserves

theorem of_lamports (h : ∀ k, (L' k).lamports = (L k).lamports) : Conserves L L' :=
  ⟨∅, fun _ _ => Finset.sum_congr rfl fun k _ => h k⟩

theorem refl (L : Ledger D) : Conserves L L := of_lamports fun _ => rfl

theorem trans (h : Conserves L L') (h' : Conserves L' L'') : Conserves L L'' := by
  obtain ⟨S, hS⟩ := h
  obtain ⟨S', hS'⟩ := h'
  refine ⟨S ∪ S', fun T hT => ?_⟩
  rw [hS' T (Finset.union_subset_right hT), hS T (Finset.union_subset_left hT)]

/-- Gains and losses that add up to the same on the accounts they touch. -/
theorem of_exchange (gain loss : Pubkey → Nat) {S : Finset Pubkey}
    (h : ∀ k, (L' k).lamports + loss k = (L k).lamports + gain k)
    (hS : ∀ T, S ⊆ T → ∑ k ∈ T, gain k = ∑ k ∈ T, loss k) : Conserves L L' := by
  refine ⟨S, fun T hT => ?_⟩
  have hsum : ∑ k ∈ T, ((L' k).lamports + loss k) = ∑ k ∈ T, ((L k).lamports + gain k) :=
    Finset.sum_congr rfl fun k _ => h k
  rw [Finset.sum_add_distrib, Finset.sum_add_distrib, hS T hT] at hsum
  omega

theorem sum_single {S T : Finset Pubkey} {k : Pubkey} (n : Nat) (hk : k ∈ S) (hT : S ⊆ T) :
    (∑ k' ∈ T, if k' = k then n else 0) = n := by
  rw [Finset.sum_ite_eq', if_pos (hT hk)]

theorem move {source target : Pubkey} {n : Nat} (hle : n ≤ (L source).lamports) :
    Conserves L ((L.debit source n).credit target n) := by
  refine of_exchange (fun k => if k = target then n else 0) (fun k => if k = source then n else 0)
    (S := {source, target}) (fun k => ?_) ?_
  · rw [Ledger.credit_lamports, Ledger.debit_lamports]
    by_cases hk : k = source
    · subst hk
      simp only [if_true]
      omega
    · simp only [hk, if_false]
      omega
  · intro T hT
    rw [sum_single n (by simp) hT, sum_single n (by simp) hT]

/-- What there is at most in total stays a bound. -/
theorem le_supply {supply : Nat} (h : Conserves L L')
    (hsupply : ∀ T : Finset Pubkey, ∑ k ∈ T, (L k).lamports ≤ supply) (T : Finset Pubkey) :
    ∑ k ∈ T, (L' k).lamports ≤ supply := by
  obtain ⟨S, hS⟩ := h
  calc ∑ k ∈ T, (L' k).lamports ≤ ∑ k ∈ S ∪ T, (L' k).lamports :=
        Finset.sum_le_sum_of_subset Finset.subset_union_right
    _ = ∑ k ∈ S ∪ T, (L k).lamports := hS _ Finset.subset_union_left
    _ ≤ supply := hsupply _

end Conserves

end DoubleZero.Solana
