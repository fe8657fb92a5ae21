import Mathlib.Data.Nat.Digits.Lemmas

/-!
# Base 58

How keys and hashes are printed: the digits of the number in base 58, and a one for every zero byte
the number starts with.
-/

namespace DoubleZero.Lib.Base58

def alphabet : List Char := "123456789ABCDEFGHJKLMNPQRSTUVWXYZabcdefghijkmnopqrstuvwxyz".toList

def digit (n : Nat) : Char := alphabet.getD n '1'

/-- The characters for the number `n`, as `len` bytes. -/
def chars (len n : Nat) : List Char :=
  List.replicate (len - (Nat.digits 256 n).length) '1' ++ (Nat.digits 58 n).reverse.map digit

def encode (len n : Nat) : String := String.ofList (chars len n)

variable {len m n : Nat}

theorem idxOf_digit (hn : n < 58) : alphabet.idxOf (digit n) = n := by
  have h : ∀ n : Fin 58, alphabet.idxOf (digit n) = n := by decide +kernel
  exact h ⟨n, hn⟩

theorem digit_mem (n : Nat) : digit n ∈ alphabet := by
  have hlength : alphabet.length = 58 := by decide +kernel
  by_cases hn : n < alphabet.length
  · rw [digit, List.getD_eq_getElem?_getD, List.getElem?_eq_getElem hn]
    exact List.getElem_mem hn
  · rw [digit, List.getD_eq_getElem?_getD, List.getElem?_eq_none (by omega)]
    decide +kernel

/-- The number is read back from its digits. -/
theorem ofDigits_chars (len n : Nat) :
    Nat.ofDigits 58 ((chars len n).map fun c => alphabet.idxOf c).reverse = n := by
  have hone : alphabet.idxOf '1' = 0 := by decide +kernel
  have hdigits : (Nat.digits 58 n).map (fun n => alphabet.idxOf (digit n)) = Nat.digits 58 n := by
    conv_rhs => rw [← List.map_id (Nat.digits 58 n)]
    exact List.map_congr_left fun m hm => idxOf_digit (Nat.digits_lt_base (by decide) hm)
  rw [chars, List.map_append, List.reverse_append, List.map_replicate, List.reverse_replicate,
    hone, List.map_map, List.map_reverse, List.reverse_reverse, Nat.ofDigits_append_replicate_zero]
  exact (congrArg (Nat.ofDigits 58) hdigits).trans (Nat.ofDigits_digits 58 n)

theorem encode_inj : encode len m = encode len n ↔ m = n := by
  refine ⟨fun h => ?_, fun h => h ▸ rfl⟩
  have hchars : chars len m = chars len n := String.ofList_injective h
  have hm := ofDigits_chars len m
  rw [hchars, ofDigits_chars] at hm
  exact hm.symm

theorem encode_ne_empty (hlen : 0 < len) : encode len n ≠ "" := by
  intro h
  have hchars : chars len n = [] := String.ofList_injective h
  obtain ⟨hones, hdigits⟩ := List.append_eq_nil_iff.1 hchars
  obtain rfl : n = 0 := Nat.digits_eq_nil_iff_eq_zero.1 (by simpa using hdigits)
  rw [Nat.digits_zero, List.replicate_eq_nil_iff] at hones
  exact hlen.ne' hones

theorem mem_alphabet {c : Char} (h : c ∈ (encode len n).toList) : c ∈ alphabet := by
  rw [encode, String.toList_ofList, chars, List.mem_append] at h
  rcases h with hone | hdigit
  · rw [List.eq_of_mem_replicate hone]
    decide +kernel
  · obtain ⟨n, -, rfl⟩ := List.mem_map.1 hdigit
    exact digit_mem n

end DoubleZero.Lib.Base58
