import Mathlib.Tactic
import Mathlib.Algebra.BigOperators.Intervals

/-!
# Shares of a whole, rounded down

A whole of `T` is divided by units of `M`: whoever has `u` units is due `u * T / M`, rounded down.
The parts never exceed the whole, and when all units are given out, what rounding leaves over is
less than one for each part.
-/

namespace DoubleZero.Lib

open Finset

variable {ι : Type} {s : Finset ι} {u : ι → Nat} {T M : Nat}

theorem sum_share_le (h : ∑ i ∈ s, u i ≤ M) : ∑ i ∈ s, u i * T / M ≤ T := by
  rcases Nat.eq_zero_or_pos M with hM | hM
  · subst hM
    simp
  · refine Nat.le_of_mul_le_mul_left ?_ hM
    calc M * ∑ i ∈ s, u i * T / M = ∑ i ∈ s, M * (u i * T / M) := mul_sum ..
      _ ≤ ∑ i ∈ s, u i * T := sum_le_sum fun _ _ => Nat.mul_div_le _ _
      _ = (∑ i ∈ s, u i) * T := (sum_mul ..).symm
      _ ≤ M * T := Nat.mul_le_mul_right T h

theorem lt_sum_share_add_card (hM : 0 < M) (h : ∑ i ∈ s, u i = M) :
    T < ∑ i ∈ s, u i * T / M + s.card := by
  have hs : s.Nonempty := by
    rw [nonempty_iff_ne_empty]
    rintro rfl
    simp at h
    omega
  refine Nat.lt_of_mul_lt_mul_left (a := M) ?_
  calc M * T = ∑ i ∈ s, u i * T := by rw [← h, sum_mul]
    _ < ∑ i ∈ s, M * (u i * T / M + 1) := by
      refine sum_lt_sum_of_nonempty hs fun i _ => ?_
      exact Nat.lt_mul_div_succ _ hM
    _ = M * (∑ i ∈ s, u i * T / M + s.card) := by
      rw [← mul_sum, sum_add_distrib, sum_const, smul_eq_mul, mul_one]

/-- A share of a larger whole is not smaller. -/
theorem sum_share_mono {T' : Nat} (h : T ≤ T') :
    ∑ i ∈ s, u i * T / M ≤ ∑ i ∈ s, u i * T' / M :=
  sum_le_sum fun _ _ => Nat.div_le_div_right (Nat.mul_le_mul_left _ h)

/-- `sum_share_le`, along a list. -/
theorem sum_map_share_le (T M : Nat) (l : List Nat) :
    (l.map fun u => u * T / M).sum ≤ l.sum * T / M := by
  induction l with
  | nil => simp
  | cons u l ih =>
    rw [List.map_cons, List.sum_cons, List.sum_cons, Nat.add_mul]
    exact (Nat.add_le_add_left ih _).trans Nat.div_add_div_le_add_div

/-- Along a list, the parts and the remainders of the divisions make up the whole. -/
theorem mul_sum_map_share_add (T M : Nat) (l : List Nat) :
    M * (l.map fun u => u * T / M).sum + (l.map fun u => u * T % M).sum = l.sum * T := by
  induction l with
  | nil => simp
  | cons u l ih =>
    simp only [List.map_cons, List.sum_cons, Nat.mul_add, Nat.add_mul]
    have hdiv := Nat.div_add_mod (u * T) M
    omega

/-- `lt_sum_share_add_card`, along a list. -/
theorem lt_sum_map_share_add_length {l : List Nat} (hM : 0 < M) (h : l.sum = M) :
    T < (l.map fun u => u * T / M).sum + l.length := by
  have hne : l ≠ [] := by
    rintro rfl
    exact absurd h (by simpa using hM.ne)
  have hmods : (l.map fun u => u * T % M).sum < l.length * M := by
    have hlt := List.sum_lt_sum_of_ne_nil hne (fun u => u * T % M) (fun _ => M)
      fun u _ => Nat.mod_lt _ hM
    simpa using hlt
  refine Nat.lt_of_mul_lt_mul_left (a := M) ?_
  have hwhole := mul_sum_map_share_add T M l
  rw [h] at hwhole
  rw [Nat.mul_add, Nat.mul_comm M l.length]
  omega

end DoubleZero.Lib
