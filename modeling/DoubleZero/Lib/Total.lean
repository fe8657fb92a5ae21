import Mathlib.Tactic
import Mathlib.Algebra.BigOperators.Finprod
import Mathlib.Algebra.Order.BigOperators.Group.Finset

/-!
# Totals over a partial map

A store that holds one value under each of finitely many keys has a total of every measure of its
values. `total_update` says what replacing one value does to it, and `total_reindex` that it is the
same total when the keys are addresses.
-/

namespace DoubleZero.Lib

open Function

variable {ι κ α β : Type} {f g : α → ℕ} {m m' : ι → Option α} {i : ι} {a : α}

/-- Only finitely many keys are in use. -/
def FiniteMap (m : ι → Option α) : Prop := {i | m i ≠ none}.Finite

/-- The sum of a measure over all values of a map. -/
noncomputable def total (f : α → ℕ) (m : ι → Option α) : ℕ := ∑ᶠ i, (m i).elim 0 f

theorem support_elim_subset (f : α → ℕ) (m : ι → Option α) :
    (support fun i => (m i).elim 0 f) ⊆ {i | m i ≠ none} := by
  intro i hi hnone
  exact hi (by simp only [hnone, Option.elim])

namespace FiniteMap

theorem support (hm : FiniteMap m) (f : α → ℕ) : HasFiniteSupport fun i => (m i).elim 0 f :=
  hm.subset (support_elim_subset f m)

theorem of_frame (hm : FiniteMap m) (hframe : ∀ j, j ≠ i → m' j = m j) : FiniteMap m' := by
  refine (hm.insert i).subset fun j hj => ?_
  by_cases hji : j = i
  · exact .inl hji
  · have hold : m j ≠ none := by
      rw [← hframe j hji]
      exact hj
    exact .inr hold

/-- A finite set of keys that has those in use. -/
theorem subset_toFinset (hm : FiniteMap m) : {i | m i ≠ none} ⊆ (Set.Finite.toFinset hm : Set ι) :=
  fun _ hi => (Set.Finite.mem_toFinset hm).2 hi

theorem of_domain_eq {m' : ι → Option β} (hm : FiniteMap m)
    (h : ∀ j, m' j ≠ none → m j ≠ none) : FiniteMap m' :=
  hm.subset fun j hj => h j hj

end FiniteMap

theorem finiteMap_none (h : ∀ i, m i = none) : FiniteMap m := by
  unfold FiniteMap
  simp [h]

theorem total_none (h : ∀ i, m i = none) : total f m = 0 := by
  unfold total
  simp [h]

theorem total_congr {f' : β → ℕ} {m' : ι → Option β}
    (h : ∀ i, (m' i).elim 0 f' = (m i).elim 0 f) :
    total f' m' = total f m :=
  finsum_congr h

/-- The total as a sum over any finite set of keys that has those in use. -/
theorem total_eq_sum {s : Finset ι} (hs : {i | m i ≠ none} ⊆ s) :
    total f m = ∑ i ∈ s, (m i).elim 0 f :=
  finsum_eq_sum_of_support_subset _ ((support_elim_subset f m).trans hs)

/-- Replacing the value of one key changes the total by the new value less the old. -/
theorem total_update (hm : FiniteMap m) (hframe : ∀ j, j ≠ i → m' j = m j) :
    total f m' + (m i).elim 0 f = total f m + (m' i).elim 0 f := by
  classical
  have hm' := hm.of_frame hframe
  let s : Finset ι := insert i (hm.toFinset ∪ hm'.toFinset)
  have hs : {i | m i ≠ none} ⊆ s := by
    intro j hj
    exact Finset.mem_insert_of_mem (Finset.mem_union_left _ (hm.subset_toFinset hj))
  have hs' : {i | m' i ≠ none} ⊆ s := by
    intro j hj
    exact Finset.mem_insert_of_mem (Finset.mem_union_right _ (hm'.subset_toFinset hj))
  have hi : i ∈ s := Finset.mem_insert_self _ _
  have hrest : ∑ j ∈ s.erase i, (m' j).elim 0 f = ∑ j ∈ s.erase i, (m j).elim 0 f := by
    refine Finset.sum_congr rfl fun j hj => ?_
    rw [hframe j (Finset.ne_of_mem_erase hj)]
  rw [total_eq_sum hs, total_eq_sum hs', ← Finset.add_sum_erase s _ hi,
    ← Finset.add_sum_erase s _ hi, hrest]
  omega

theorem le_total (hm : FiniteMap m) (h : m i = some a) : f a ≤ total f m := by
  have hle := single_le_finsum i (hm.support f) fun j => Nat.zero_le _
  rwa [h] at hle

theorem total_add (hm : FiniteMap m) : total (fun a => f a + g a) m = total f m + total g m := by
  unfold total
  rw [← finsum_add_distrib (hm.support f) (hm.support g)]
  refine finsum_congr fun i => ?_
  cases m i with
  | none => rfl
  | some a => rfl

theorem total_mono (hm : FiniteMap m) (h : ∀ i a, m i = some a → f a ≤ g a) :
    total f m ≤ total g m := by
  rw [total_eq_sum hm.subset_toFinset, total_eq_sum hm.subset_toFinset]
  refine Finset.sum_le_sum fun i _ => ?_
  cases hi : m i with
  | none => exact le_rfl
  | some a => exact h i a hi

/-- A bound for few keys with small values. -/
theorem total_le_mul {k : ι → ℕ} {N M : ℕ} (hm : FiniteMap m) (hk : Injective k)
    (hN : ∀ i, k i < N) (hM : ∀ i a, m i = some a → f a ≤ M) : total f m ≤ N * M := by
  have hcard : (Set.Finite.toFinset hm).card ≤ N := by
    rw [← Finset.card_range N]
    exact Finset.card_le_card_of_injOn k (fun i _ => by simpa using hN i) hk.injOn
  calc total f m = ∑ i ∈ Set.Finite.toFinset hm, (m i).elim 0 f := total_eq_sum hm.subset_toFinset
    _ ≤ ∑ _i ∈ Set.Finite.toFinset hm, M := by
      refine Finset.sum_le_sum fun i _ => ?_
      cases hi : m i with
      | none => exact Nat.zero_le M
      | some a => exact hM i a hi
    _ = (Set.Finite.toFinset hm).card * M := by rw [Finset.sum_const, smul_eq_mul]
    _ ≤ N * M := Nat.mul_le_mul_right M hcard

/-- The total over addresses is the total over the keys that have them. -/
theorem total_reindex {key : ι → κ} {M : κ → Option α} (hkey : Injective key)
    (hrange : ∀ k, M k ≠ none → ∃ i, key i = k) : total f M = total f fun i => M (key i) := by
  have hsupport : ∀ k ∈ support fun k => (M k).elim 0 f, k ∈ Set.univ ↔ k ∈ Set.range key := by
    intro k hk
    exact iff_of_true trivial (hrange k (support_elim_subset f M hk))
  calc total f M = ∑ᶠ k ∈ Set.univ, (M k).elim 0 f := (finsum_mem_univ _).symm
    _ = ∑ᶠ k ∈ Set.range key, (M k).elim 0 f := finsum_mem_inter_support_eq' _ _ _ hsupport
    _ = total f fun i => M (key i) := finsum_mem_range hkey

theorem FiniteMap.reindex {key : ι → κ} {M : κ → Option α} (h : FiniteMap fun i => M (key i))
    (hrange : ∀ k, M k ≠ none → ∃ i, key i = k) : FiniteMap M := by
  refine (h.image key).subset fun k hk => ?_
  obtain ⟨i, rfl⟩ := hrange k hk
  exact ⟨i, hk, rfl⟩

end DoubleZero.Lib
