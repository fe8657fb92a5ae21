import Mathlib.Tactic

/-!
# Checked and saturating machine arithmetic

`checked_add`, `checked_sub` and `saturating_add` on machine words, with the lemmas that take them
back to natural numbers. Plain `+` and `-` on words wrap, as release builds do; where a client can
bound the operands, `toNat_add_of_lt` and `UInt64.toNat_sub_of_le` give the exact value.
-/

namespace DoubleZero.Lib

section Words64

variable {a b c : UInt64}

def checkedAdd (a b : UInt64) : Option UInt64 :=
  if a.toNat + b.toNat < 2 ^ 64 then some (a + b) else none

def checkedSub (a b : UInt64) : Option UInt64 :=
  if b ≤ a then some (a - b) else none

def saturatingAdd (a b : UInt64) : UInt64 :=
  UInt64.ofNat (min (a.toNat + b.toNat) (2 ^ 64 - 1))

theorem toNat_add_of_lt (h : a.toNat + b.toNat < 2 ^ 64) :
    (a + b).toNat = a.toNat + b.toNat := by
  rw [UInt64.toNat_add, Nat.mod_eq_of_lt h]

theorem toNat_sub_of_le (h : b ≤ a) : (a - b).toNat = a.toNat - b.toNat :=
  UInt64.toNat_sub_of_le a b h

/-- A wrapping sum is one exactly when nothing wraps. -/
theorem toNat_add_eq_iff :
    (a + b).toNat = a.toNat + b.toNat ↔ a.toNat + b.toNat < 2 ^ 64 :=
  ⟨fun h => h ▸ (a + b).toNat_lt, toNat_add_of_lt⟩

/-- A wrapping difference is one exactly when nothing wraps. -/
theorem toNat_sub_add_eq_iff : (a - b).toNat + b.toNat = a.toNat ↔ b ≤ a := by
  rw [UInt64.le_iff_toNat_le]
  constructor
  · intro h
    omega
  · intro h
    rw [toNat_sub_of_le (UInt64.le_iff_toNat_le.2 h)]
    omega

theorem toNat_add_sub_self (a b : UInt64) : (a + b - a).toNat = b.toNat := by
  rw [UInt64.add_comm, UInt64.add_sub_cancel]

theorem checkedAdd_eq_some :
    checkedAdd a b = some c ↔ a.toNat + b.toNat < 2 ^ 64 ∧ c.toNat = a.toNat + b.toNat := by
  unfold checkedAdd
  split
  · next h =>
    rw [Option.some.injEq]
    constructor
    · rintro rfl
      exact ⟨h, toNat_add_of_lt h⟩
    · rintro ⟨-, hc⟩
      exact UInt64.toNat_inj.1 (by rw [toNat_add_of_lt h, hc])
  · next h =>
    simp only [reduceCtorEq, false_iff, not_and]
    intro h'
    exact absurd h' h

theorem checkedSub_eq_some :
    checkedSub a b = some c ↔ b.toNat ≤ a.toNat ∧ c.toNat = a.toNat - b.toNat := by
  unfold checkedSub
  split
  · next h =>
    have hle : b.toNat ≤ a.toNat := UInt64.le_iff_toNat_le.1 h
    rw [Option.some.injEq]
    constructor
    · rintro rfl
      exact ⟨hle, toNat_sub_of_le h⟩
    · rintro ⟨-, hc⟩
      exact UInt64.toNat_inj.1 (by rw [toNat_sub_of_le h, hc])
  · next h =>
    simp only [reduceCtorEq, false_iff, not_and]
    intro h'
    exact absurd (UInt64.le_iff_toNat_le.2 h') h

theorem checkedSub_eq_none : checkedSub a b = none ↔ a.toNat < b.toNat := by
  unfold checkedSub
  rw [ite_eq_right_iff]
  simp only [reduceCtorEq, imp_false, UInt64.le_iff_toNat_le]
  omega

theorem toNat_saturatingAdd (a b : UInt64) :
    (saturatingAdd a b).toNat = min (a.toNat + b.toNat) (2 ^ 64 - 1) := by
  have h : min (a.toNat + b.toNat) (2 ^ 64 - 1) < 2 ^ 64 := by omega
  unfold saturatingAdd
  exact UInt64.toNat_ofNat_of_lt h

end Words64

/-- `u16::checked_add`. -/
def checkedAdd16 (a b : UInt16) : Option UInt16 :=
  if a.toNat + b.toNat < 2 ^ 16 then some (a + b) else none

theorem checkedAdd16_eq_some {a b c : UInt16} :
    checkedAdd16 a b = some c ↔ a.toNat + b.toNat < 2 ^ 16 ∧ c.toNat = a.toNat + b.toNat := by
  unfold checkedAdd16
  split
  · next h =>
    have hadd : (a + b).toNat = a.toNat + b.toNat := by
      rw [UInt16.toNat_add, Nat.mod_eq_of_lt h]
    rw [Option.some.injEq]
    constructor
    · rintro rfl
      exact ⟨h, hadd⟩
    · rintro ⟨-, hc⟩
      exact UInt16.toNat_inj.1 (by rw [hadd, hc])
  · next h =>
    simp only [reduceCtorEq, false_iff, not_and]
    intro h'
    exact absurd h' h

/-- `u32::checked_add`. -/
def checkedAdd32 (a b : UInt32) : Option UInt32 :=
  if a.toNat + b.toNat < 2 ^ 32 then some (a + b) else none

theorem checkedAdd32_eq_some {a b c : UInt32} :
    checkedAdd32 a b = some c ↔ a.toNat + b.toNat < 2 ^ 32 ∧ c.toNat = a.toNat + b.toNat := by
  unfold checkedAdd32
  split
  · next h =>
    have hadd : (a + b).toNat = a.toNat + b.toNat := by
      rw [UInt32.toNat_add, Nat.mod_eq_of_lt h]
    rw [Option.some.injEq]
    constructor
    · rintro rfl
      exact ⟨h, hadd⟩
    · rintro ⟨-, hc⟩
      exact UInt32.toNat_inj.1 (by rw [hadd, hc])
  · next h =>
    simp only [reduceCtorEq, false_iff, not_and]
    intro h'
    exact absurd h' h

end DoubleZero.Lib
