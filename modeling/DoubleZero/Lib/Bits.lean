import Mathlib.Data.Finset.Card
import Mathlib.Data.Finset.Range
import Mathlib.Data.Finset.Filter
import Mathlib.Data.Finset.Basic
import Mathlib.Tactic

/-!
# Bit fields and byte bitmaps

Two representations of a finite set of natural numbers. A *bit field* is one machine word of
width `w`, read and written through masks (`bit`, `setBit`). A *bitmap* is a list of bytes in
which number `i` is bit `i % 8` of byte `i / 8` (`bitAt`). Each denotes the finite set of its ones
(`ones`, `members`), and the only thing a client needs is how a write changes that set:
`ones_setBit` and `members_set`. A word may also be shared by wider fields (`putField`).

A bitmap may live in a window of a longer byte buffer. `window` reads it, `splice` writes it back,
and windows that do not overlap do not see each other's writes (`window_splice_of_disjoint`).
-/

namespace DoubleZero.Lib

/-! ## Bit fields -/

section BitField

variable {w : Nat}

/-- Bit `i` of a word, by masking; bits past the width read as clear. -/
def bit (x : BitVec w) (i : Nat) : Bool :=
  if i ≥ w then false else (x &&& (1#w <<< i)) != 0#w

/-- Writes bit `i` of a word, by masking; positions past the width are ignored. -/
def setBit (x : BitVec w) (i : Nat) (value : Bool) : BitVec w :=
  if i < w then
    if value then x ||| (1#w <<< i) else x &&& ~~~(1#w <<< i)
  else x

theorem bit_eq_getLsbD (x : BitVec w) (i : Nat) : bit x i = x.getLsbD i := by
  unfold bit
  split
  · next h => rw [BitVec.getLsbD_of_ge x i h]
  · next h =>
    have hi : i < w := by omega
    rw [← BitVec.twoPow_eq, BitVec.and_twoPow]
    cases hx : x.getLsbD i
    · simp
    · have hne : BitVec.twoPow w i ≠ 0#w := by
        intro h0
        have := congrArg (fun y => y.getLsbD i) h0
        simp [hi] at this
      simpa [bne_iff_ne] using hne

theorem bit_of_ge (x : BitVec w) {i : Nat} (h : w ≤ i) : bit x i = false := by
  simp [bit, h]

theorem default_eq_zero (w : Nat) : (default : BitVec w) = 0#w := rfl

@[simp] theorem bit_zero (i : Nat) : bit (0#w) i = false := by
  rw [bit_eq_getLsbD]; simp

/-- A write changes the bit it names and no other. -/
theorem bit_setBit (x : BitVec w) (i j : Nat) (value : Bool) :
    bit (setBit x i value) j = if i = j ∧ j < w then value else bit x j := by
  simp only [bit_eq_getLsbD]
  unfold setBit
  by_cases hi : i < w
  · rw [if_pos hi, ← BitVec.twoPow_eq]
    by_cases hij : i = j
    · subst hij
      cases value <;> simp [hi]
    · cases value
      · simp only [Bool.false_eq_true, if_false, hij, false_and, BitVec.getLsbD_and,
          BitVec.getLsbD_not, BitVec.getLsbD_twoPow]
        cases hx : x.getLsbD j
        · simp
        · simp [BitVec.lt_of_getLsbD hx]
      · simp [hij]
  · rw [if_neg hi, if_neg (by omega)]

/-- The positions of the ones of a word. -/
def ones (x : BitVec w) : Finset Nat := (Finset.range w).filter fun i => bit x i = true

theorem mem_ones {x : BitVec w} {i : Nat} : i ∈ ones x ↔ bit x i = true := by
  simp only [ones, Finset.mem_filter, Finset.mem_range, and_iff_right_iff_imp]
  intro h
  by_contra hw
  rw [bit_of_ge x (by omega)] at h
  cases h

@[simp] theorem ones_zero : ones (0#w) = ∅ := by
  ext i; simp [mem_ones]

theorem ones_setBit (x : BitVec w) {i : Nat} (hi : i < w) :
    ones (setBit x i true) = insert i (ones x) := by
  ext j
  rw [mem_ones, bit_setBit, Finset.mem_insert, mem_ones]
  by_cases hj : i = j
  · subst hj; simp [hi]
  · have hj' : ¬ j = i := fun h => hj h.symm
    simp [hj, hj']

end BitField

/-! ## Fields under a mask

A word can be shared by several fields, each under a mask of its own. -/

section MaskedField

variable {w : Nat} {mask mask' x value value' : BitVec w}

/-- Replaces the bits under a mask. -/
def putField (mask x value : BitVec w) : BitVec w := (x &&& ~~~mask) ||| value

/-- The value has no bit outside the mask. -/
def Within (mask value : BitVec w) : Prop :=
  ∀ i, value.getLsbD i = true → mask.getLsbD i = true

/-- The masks share no bit. -/
def DisjointMasks (mask mask' : BitVec w) : Prop :=
  ∀ i, mask.getLsbD i = true → mask'.getLsbD i = false

theorem getLsbD_putField (i : Nat) : (putField mask x value).getLsbD i =
    ((x.getLsbD i && !mask.getLsbD i) || value.getLsbD i) := by
  rw [putField, BitVec.getLsbD_or, BitVec.getLsbD_and, BitVec.getLsbD_not]
  by_cases hi : i < w
  · simp [hi]
  · simp [BitVec.getLsbD_of_ge x i (by omega)]

theorem putField_and (h : Within mask value) : putField mask x value &&& mask = value := by
  apply BitVec.eq_of_getLsbD_eq
  intro i hi
  have hvalue := h i
  rw [BitVec.getLsbD_and, getLsbD_putField]
  grind

/-- A field does not see what is written to another one. -/
theorem putField_and_of_disjoint (h : Within mask value) (hmask : DisjointMasks mask mask') :
    putField mask x value &&& mask' = x &&& mask' := by
  apply BitVec.eq_of_getLsbD_eq
  intro i hi
  have hvalue := h i
  have hother := hmask i
  rw [BitVec.getLsbD_and, getLsbD_putField, BitVec.getLsbD_and]
  grind

theorem putField_putField (h : Within mask value) :
    putField mask (putField mask x value) value' = putField mask x value' := by
  apply BitVec.eq_of_getLsbD_eq
  intro i hi
  have hvalue := h i
  simp only [getLsbD_putField]
  grind

theorem putField_comm (h : Within mask value) (h' : Within mask' value')
    (hmask : DisjointMasks mask mask') : putField mask (putField mask' x value') value =
      putField mask' (putField mask x value) value' := by
  apply BitVec.eq_of_getLsbD_eq
  intro i hi
  have hvalue := h i
  have hvalue' := h' i
  have hother := hmask i
  simp only [getLsbD_putField]
  grind

end MaskedField

/-! ## Bitmaps -/

section Bitmap

/-- Bit `i % 8` of byte `i / 8`; clear when there is no such byte. -/
def bitAt (bytes : List (BitVec 8)) (i : Nat) : Bool :=
  match bytes[i / 8]? with
  | some byte => bit byte (i % 8)
  | none => false

/-- The numbers whose bit is set. -/
def members (bytes : List (BitVec 8)) : Finset Nat :=
  (Finset.range (8 * bytes.length)).filter fun i => bitAt bytes i = true

theorem mem_members {bytes : List (BitVec 8)} {i : Nat} :
    i ∈ members bytes ↔ bitAt bytes i = true := by
  simp only [members, Finset.mem_filter, Finset.mem_range, and_iff_right_iff_imp]
  intro h
  unfold bitAt at h
  split at h
  · next byte hb =>
    have := (List.getElem?_eq_some_iff.1 hb).1
    omega
  · cases h

theorem members_subset (bytes : List (BitVec 8)) :
    members bytes ⊆ Finset.range (8 * bytes.length) :=
  Finset.filter_subset _ _

theorem card_members_le (bytes : List (BitVec 8)) : (members bytes).card ≤ 8 * bytes.length := by
  simpa using Finset.card_le_card (members_subset bytes)

@[simp] theorem members_nil : members [] = ∅ := rfl

@[simp] theorem members_replicate (n : Nat) : members (List.replicate n 0#8) = ∅ := by
  ext i
  simp only [mem_members, bitAt, List.getElem?_replicate, Finset.notMem_empty, iff_false]
  split
  · next byte hb =>
    split at hb
    · cases hb; simp
    · cases hb
  · simp

/-- Setting one clear or set bit of a byte that exists inserts its number. -/
theorem members_set {bytes : List (BitVec 8)} {i : Nat} {byte : BitVec 8}
    (hb : bytes[i / 8]? = some byte) :
    members (bytes.set (i / 8) (setBit byte (i % 8) true)) = insert i (members bytes) := by
  have hlt : i / 8 < bytes.length := (List.getElem?_eq_some_iff.1 hb).1
  ext j
  rw [mem_members, Finset.mem_insert, mem_members]
  unfold bitAt
  by_cases hbyte : i / 8 = j / 8
  · rw [← hbyte, List.getElem?_set_self hlt, hb]
    simp only [bit_setBit]
    by_cases hbit : i % 8 = j % 8
    · have hij : j = i := by omega
      subst hij
      simp [Nat.mod_lt]
    · have hij : ¬ j = i := fun h => hbit (by rw [h])
      simp [hbit, hij]
  · rw [List.getElem?_set_ne hbyte]
    have hij : ¬ j = i := fun h => hbyte (by rw [h])
    simp [hij]

/-- A bitmap of a given length is its members. -/
theorem eq_of_members {bytes bytes' : List (BitVec 8)} (hlength : bytes.length = bytes'.length)
    (h : members bytes = members bytes') : bytes = bytes' := by
  apply List.ext_getElem hlength
  intro i hi hi'
  apply BitVec.eq_of_getLsbD_eq
  intro j hj
  have hbit : bitAt bytes (8 * i + j) = bitAt bytes' (8 * i + j) := by
    rw [Bool.eq_iff_iff, ← mem_members, ← mem_members, h]
  have hdiv : (8 * i + j) / 8 = i := by omega
  have hmod : (8 * i + j) % 8 = j := by omega
  simpa only [bitAt, hdiv, hmod, List.getElem?_eq_getElem hi, List.getElem?_eq_getElem hi',
    bit_eq_getLsbD] using hbit

end Bitmap

/-! ## Windows of a byte buffer -/

section Window

variable {α : Type}

/-- The elements at positions `start .. stop`. -/
def window (xs : List α) (start stop : Nat) : List α := (xs.take stop).drop start

/-- `xs` with the window `start .. stop` replaced by `ys`. -/
def splice (xs : List α) (start stop : Nat) (ys : List α) : List α :=
  xs.take start ++ ys ++ xs.drop stop

theorem getElem?_window (xs : List α) (start stop i : Nat) :
    (window xs start stop)[i]? = if start + i < stop then xs[start + i]? else none := by
  simp only [window, List.getElem?_drop, List.getElem?_take]

theorem length_window {xs : List α} {start stop : Nat} (h : stop ≤ xs.length) :
    (window xs start stop).length = stop - start := by
  simp [window, h]

theorem length_splice {xs ys : List α} {start stop : Nat} (h₁ : start ≤ stop)
    (h₂ : stop ≤ xs.length) (hy : ys.length = stop - start) :
    (splice xs start stop ys).length = xs.length := by
  simp only [splice, List.length_append, List.length_take, List.length_drop, hy]
  omega

theorem getElem?_splice {xs ys : List α} {start stop : Nat} (h₁ : start ≤ stop)
    (h₂ : stop ≤ xs.length) (hy : ys.length = stop - start) (i : Nat) :
    (splice xs start stop ys)[i]? =
      if start ≤ i ∧ i < stop then ys[i - start]? else xs[i]? := by
  have hs : (xs.take start).length = start := by simp; omega
  unfold splice
  rw [List.append_assoc, List.getElem?_append, hs]
  split
  · next h => rw [if_neg (by omega), List.getElem?_take_of_lt h]
  · next h =>
    rw [List.getElem?_append, hy]
    split
    · rw [if_pos (by omega)]
    · rw [if_neg (by omega), List.getElem?_drop]
      congr 1
      omega

/-- Reading back the window that was written. -/
theorem window_splice {xs ys : List α} {start stop : Nat} (h₁ : start ≤ stop)
    (h₂ : stop ≤ xs.length) (hy : ys.length = stop - start) :
    window (splice xs start stop ys) start stop = ys := by
  apply List.ext_getElem?
  intro i
  rw [getElem?_window, getElem?_splice h₁ h₂ hy]
  split
  · rw [if_pos (by omega)]
    congr 1
    omega
  · next h => rw [List.getElem?_eq_none (by omega)]

/-- A write to one window does not show in a window that does not overlap it. -/
theorem window_splice_of_disjoint {xs ys : List α} {start stop : Nat} (h₁ : start ≤ stop)
    (h₂ : stop ≤ xs.length) (hy : ys.length = stop - start) {from' to' : Nat}
    (hd : stop ≤ from' ∨ to' ≤ start) :
    window (splice xs start stop ys) from' to' = window xs from' to' := by
  apply List.ext_getElem?
  intro i
  rw [getElem?_window, getElem?_window, getElem?_splice h₁ h₂ hy]
  split
  · rw [if_neg (by omega)]
  · rfl

/-- A second write to a window replaces the first. -/
theorem splice_splice {xs ys zs : List α} {start stop : Nat} (h₁ : start ≤ stop)
    (h₂ : stop ≤ xs.length) (hy : ys.length = stop - start) :
    splice (splice xs start stop ys) start stop zs = splice xs start stop zs := by
  have hstart : (xs.take start).length = start := by
    rw [List.length_take]
    omega
  have hboth : (xs.take start ++ ys).length = stop := by
    rw [List.length_append, hstart, hy]
    omega
  unfold splice
  rw [List.append_assoc (xs.take start) ys, List.take_left' hstart, ← List.append_assoc,
    List.drop_left' hboth]

/-- A window inside the old buffer is not changed by growing the buffer. -/
theorem window_append {xs ys : List α} {start stop : Nat} (h : stop ≤ xs.length) :
    window (xs ++ ys) start stop = window xs start stop := by
  unfold window
  rw [List.take_append_of_le_length h]

/-- The window of exactly the growth. -/
theorem window_append_right (xs ys : List α) :
    window (xs ++ ys) xs.length (xs.length + ys.length) = ys := by
  unfold window
  rw [List.take_of_length_le (by simp), List.drop_left]

@[simp] theorem window_empty (xs : List α) (start : Nat) : window xs start start = [] := by
  unfold window
  rw [List.drop_eq_nil_iff]
  simp

end Window

end DoubleZero.Lib
