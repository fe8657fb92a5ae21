import Mathlib.Tactic

/-!
# Tries over numbers

A finite map that branches on the bits of its keys, the lowest first. Evaluating a lookup costs as
many steps as the key has bits, however many keys the map has.
-/

namespace DoubleZero.Lib

inductive Trie (α : Type) where
  | leaf
  | node (even : Trie α) (here : Option α) (odd : Trie α)

namespace Trie

variable {α : Type}

def get : Trie α → Nat → Option α
  | leaf, _ => none
  | node even here odd, n =>
    if n = 0 then here else if n % 2 = 0 then even.get (n / 2) else odd.get (n / 2)

def even : Trie α → Trie α
  | leaf => leaf
  | node even _ _ => even

def here : Trie α → Option α
  | leaf => none
  | node _ here _ => here

def odd : Trie α → Trie α
  | leaf => leaf
  | node _ _ odd => odd

/-- Enters a value under a key of up to `depth` bits. -/
def insert : Nat → Trie α → Nat → α → Trie α
  | 0, t, _, a => node t.even (some a) t.odd
  | depth + 1, t, n, a =>
    if n = 0 then node t.even (some a) t.odd
    else if n % 2 = 0 then node (insert depth t.even (n / 2) a) t.here t.odd
    else node t.even t.here (insert depth t.odd (n / 2) a)

@[simp] theorem get_leaf (n : Nat) : (leaf : Trie α).get n = none := rfl

theorem get_eq (t : Trie α) (n : Nat) :
    t.get n = if n = 0 then t.here else if n % 2 = 0 then t.even.get (n / 2)
      else t.odd.get (n / 2) := by
  cases t with
  | leaf => simp [here, even, odd]
  | node even here odd => rfl

theorem get_insert {depth n : Nat} (h : n < 2 ^ depth) (t : Trie α) (a : α) (m : Nat) :
    (t.insert depth n a).get m = if m = n then some a else t.get m := by
  induction depth generalizing t n m with
  | zero =>
    obtain rfl : n = 0 := by simpa using h
    rw [insert, get_eq _ m, get_eq t m]
    split <;> rfl
  | succ depth ih =>
    have hhalf : n / 2 < 2 ^ depth := by
      rw [Nat.pow_succ] at h
      omega
    rw [insert, get_eq t m]
    by_cases hn : n = 0
    · rw [if_pos hn, get_eq]
      by_cases hm : m = 0
      · simp [hm, hn, here]
      · simp [hm, hn, even, odd]
    · rw [if_neg hn]
      by_cases hparity : n % 2 = 0
      · rw [if_pos hparity, get_eq]
        simp only [here, even, odd, ih hhalf]
        split_ifs with hm hm' hm' hm'
        all_goals first | rfl | omega
      · rw [if_neg hparity, get_eq]
        simp only [here, even, odd, ih hhalf]
        split_ifs with hm hm' hm' hm'
        all_goals first | rfl | omega

end Trie

end DoubleZero.Lib
