import DoubleZero.Lib.Borsh

/-!
# Plain old data

Records laid out in place. Every field has its bytes at a fixed offset of a block of fixed size, and
some bytes belong to no field. `Pod.read` takes the value off a block, `Pod.write` puts a value into
one and leaves the bytes between the fields alone. The laws are those of a lens: what was written is
read back, the last write wins, and writing back what was read changes nothing. The constructions
below carry them from the fields to whole records.
-/

namespace DoubleZero.Lib

open Borsh

structure Pod (α : Type) where
  size : Nat
  /-- The values a block can hold. -/
  Fits : α → Prop
  /-- Nothing where the bytes of a field spell no value of it. -/
  read : Bytes → Option α
  write : α → Bytes → Bytes
  length_write : ∀ {a raw}, raw.length = size → (write a raw).length = size
  read_write : ∀ {a raw}, raw.length = size → Fits a → read (write a raw) = some a
  write_write : ∀ {a b raw}, raw.length = size → write a (write b raw) = write a raw
  write_of_read : ∀ {a raw}, raw.length = size → read raw = some a → write a raw = raw
  fits_of_read : ∀ {a raw}, raw.length = size → read raw = some a → Fits a

namespace Pod

variable {α β : Type}

/-- A block of zeros, as allocation leaves it. -/
def zeros (P : Pod α) : Bytes := List.replicate P.size 0#8

/-- `a` is what a block of zeros spells. -/
def Zero (P : Pod α) (a : α) : Prop := P.read P.zeros = some a

instance [DecidableEq α] (P : Pod α) (a : α) : Decidable (P.Zero a) :=
  inferInstanceAs (Decidable (P.read P.zeros = some a))

@[simp] theorem length_zeros (P : Pod α) : P.zeros.length = P.size := List.length_replicate

/-- The block of `a` with nothing between its fields. -/
def bytes (P : Pod α) (a : α) : Bytes := P.write a P.zeros

@[simp] theorem length_bytes (P : Pod α) (a : α) : (P.bytes a).length = P.size :=
  P.length_write P.length_zeros

theorem read_bytes (P : Pod α) {a : α} (h : P.Fits a) : P.read (P.bytes a) = some a :=
  P.read_write P.length_zeros h

theorem write_bytes (P : Pod α) (a b : α) : P.write a (P.bytes b) = P.bytes a :=
  P.write_write P.length_zeros

/-! ## Fields -/

/-- A field whose bytes are a form of the value. -/
def fixed (size : Nat) (Fits : α → Prop) (toBytes : α → Bytes) (ofBytes : Bytes → α)
    (hlength : ∀ a, (toBytes a).length = size) (hof : ∀ {a}, Fits a → ofBytes (toBytes a) = a)
    (hto : ∀ {raw}, raw.length = size → Fits (ofBytes raw) ∧ toBytes (ofBytes raw) = raw) :
    Pod α where
  size := size
  Fits := Fits
  read raw := some (ofBytes raw)
  write a _ := toBytes a
  length_write _ := hlength _
  read_write _ hfits := by rw [hof hfits]
  write_write _ := rfl
  write_of_read hraw hread := by
    cases hread
    exact (hto hraw).2
  fits_of_read hraw hread := by
    cases hread
    exact (hto hraw).1

/-- A word, as the number its bytes spell, the lowest first. -/
def word (size : Nat) (toNat : α → Nat) (ofNat : Nat → α) (hof : ∀ a, ofNat (toNat a) = a)
    (hto : ∀ v < 256 ^ size, toNat (ofNat v) = v) : Pod α :=
  fixed size (fun a => toNat a < 256 ^ size) (fun a => toLE size (toNat a))
    (fun raw => ofNat (ofLE raw)) (fun _ => length_toLE _ _)
    (fun hfits => by rw [ofLE_toLE hfits, hof])
    (by
      rintro raw rfl
      rw [hto _ (ofLE_lt raw)]
      exact ⟨ofLE_lt raw, toLE_ofLE raw⟩)

/-- A number in the order it is read: the highest byte first. -/
def bigEndian (size : Nat) (toNat : α → Nat) (ofNat : Nat → α) (hof : ∀ a, ofNat (toNat a) = a)
    (hto : ∀ v < 256 ^ size, toNat (ofNat v) = v) : Pod α :=
  fixed size (fun a => toNat a < 256 ^ size) (fun a => (toLE size (toNat a)).reverse)
    (fun raw => ofNat (ofLE raw.reverse)) (fun a => by rw [List.length_reverse, length_toLE])
    (fun hfits => by rw [List.reverse_reverse, ofLE_toLE hfits, hof])
    (by
      rintro raw rfl
      have hlt := ofLE_lt raw.reverse
      have hback := toLE_ofLE raw.reverse
      rw [List.length_reverse] at hlt hback
      rw [hto _ hlt, hback, List.reverse_reverse]
      exact ⟨hlt, rfl⟩)

def u8 : Pod UInt8 := word 1 UInt8.toNat UInt8.ofNat (fun _ => UInt8.ofNat_toNat)
  fun _ hv => UInt8.toNat_ofNat_of_lt' hv

def u16 : Pod UInt16 := word 2 UInt16.toNat UInt16.ofNat (fun _ => UInt16.ofNat_toNat)
  fun _ hv => UInt16.toNat_ofNat_of_lt' hv

def u32 : Pod UInt32 := word 4 UInt32.toNat UInt32.ofNat (fun _ => UInt32.ofNat_toNat)
  fun _ hv => UInt32.toNat_ofNat_of_lt' hv

def u64 : Pod UInt64 := word 8 UInt64.toNat UInt64.ofNat (fun _ => UInt64.ofNat_toNat)
  fun _ hv => UInt64.toNat_ofNat_of_lt' hv

/-- A word of any number of bytes. -/
def bits (size : Nat) : Pod (BitVec (8 * size)) :=
  word size BitVec.toNat (BitVec.ofNat (8 * size)) (fun _ => by simp) fun v hv => by
    rw [BitVec.toNat_ofNat, ← pow_width, Nat.mod_eq_of_lt hv]

@[simp] theorem u8_fits (v : UInt8) : u8.Fits v := v.toNat_lt
@[simp] theorem u16_fits (v : UInt16) : u16.Fits v := v.toNat_lt
@[simp] theorem u32_fits (v : UInt32) : u32.Fits v := v.toNat_lt
@[simp] theorem u64_fits (v : UInt64) : u64.Fits v := v.toNat_lt

@[simp] theorem bits_fits {size : Nat} (v : BitVec (8 * size)) : (bits size).Fits v := by
  show v.toNat < 256 ^ size
  rw [pow_width]
  exact v.isLt

/-- Bytes that belong to no field. -/
def unused (size : Nat) : Pod Unit where
  size := size
  Fits _ := True
  read _ := some ()
  write _ raw := raw
  length_write hraw := hraw
  read_write _ _ := rfl
  write_write _ := rfl
  write_of_read _ _ := rfl
  fits_of_read _ _ := trivial

/-! ## Records -/

section

variable (P : Pod α) (Q : Pod β)

/-- One field after the other. -/
def pair : Pod (α × β) where
  size := P.size + Q.size
  Fits x := P.Fits x.1 ∧ Q.Fits x.2
  read raw := (P.read (raw.take P.size)).bind fun a =>
    (Q.read (raw.drop P.size)).map fun b => (a, b)
  write x raw := P.write x.1 (raw.take P.size) ++ Q.write x.2 (raw.drop P.size)
  length_write {x raw} hraw := by
    rw [List.length_append, P.length_write (by simp [hraw]), Q.length_write (by simp [hraw])]
  read_write {x raw} hraw hfits := by
    have hP : (raw.take P.size).length = P.size := by simp [hraw]
    have hQ : (raw.drop P.size).length = Q.size := by simp [hraw]
    rw [List.take_left' (P.length_write hP), List.drop_left' (P.length_write hP),
      P.read_write hP hfits.1, Q.read_write hQ hfits.2]
    rfl
  write_write {x y raw} hraw := by
    have hP : (raw.take P.size).length = P.size := by simp [hraw]
    have hQ : (raw.drop P.size).length = Q.size := by simp [hraw]
    rw [List.take_left' (P.length_write hP), List.drop_left' (P.length_write hP),
      P.write_write hP, Q.write_write hQ]
  write_of_read {x raw} hraw hread := by
    have hP : (raw.take P.size).length = P.size := by simp [hraw]
    have hQ : (raw.drop P.size).length = Q.size := by simp [hraw]
    obtain ⟨a, ha, b, hb, rfl⟩ := by simpa [Option.bind_eq_some_iff] using hread
    rw [P.write_of_read hP ha, Q.write_of_read hQ hb, List.take_append_drop]
  fits_of_read {x raw} hraw hread := by
    obtain ⟨a, ha, b, hb, rfl⟩ := by simpa [Option.bind_eq_some_iff] using hread
    exact ⟨P.fits_of_read (by simp [hraw]) ha, Q.fits_of_read (by simp [hraw]) hb⟩

/-- A record with the fields of another type, if they make one. -/
def iso (make : α → Option β) (fields : β → α)
    (hmake : ∀ a b, make a = some b ↔ fields b = a) : Pod β where
  size := P.size
  Fits b := P.Fits (fields b)
  read raw := (P.read raw).bind make
  write b := P.write (fields b)
  length_write := P.length_write
  read_write hraw hfits := by
    rw [P.read_write hraw hfits]
    exact (hmake _ _).2 rfl
  write_write := P.write_write
  write_of_read {b raw} hraw hread := by
    obtain ⟨a, ha, hb⟩ := Option.bind_eq_some_iff.1 hread
    rw [(hmake _ _).1 hb, P.write_of_read hraw ha]
  fits_of_read {b raw} hraw hread := by
    obtain ⟨a, ha, hb⟩ := Option.bind_eq_some_iff.1 hread
    rw [(hmake _ _).1 hb]
    exact P.fits_of_read hraw ha

/-- A field and `n` unused bytes after it. -/
def padded (n : Nat) : Pod α :=
  (P.pair (unused n)).iso (fun x => some x.1) (fun a => (a, ())) (by simp [Prod.ext_iff, eq_comm])

/-- A field and `n` unused bytes before it. -/
def preceded (n : Nat) : Pod α :=
  ((unused n).pair P).iso (fun x => some x.2) (fun a => ((), a)) (by simp [Prod.ext_iff, eq_comm])

end

section

variable {P : Pod α} {Q : Pod β} {a : α} {b : β}

@[simp] theorem pair_size : (P.pair Q).size = P.size + Q.size := rfl

@[simp] theorem pair_fits {x : α × β} : (P.pair Q).Fits x ↔ P.Fits x.1 ∧ Q.Fits x.2 := .rfl

@[simp] theorem iso_fits {make : α → Option β} {fields : β → α}
    {hmake : ∀ a b, make a = some b ↔ fields b = a} {b : β} :
    (P.iso make fields hmake).Fits b ↔ P.Fits (fields b) := .rfl

@[simp] theorem padded_fits {n : Nat} : (P.padded n).Fits a ↔ P.Fits a := and_iff_left trivial

@[simp] theorem preceded_fits {n : Nat} : (P.preceded n).Fits a ↔ P.Fits a := and_iff_right trivial

end

/-! ## Arrays -/

section

variable (P : Pod α)

def readMany : Nat → Bytes → Option (List α)
  | 0, _ => some []
  | n + 1, raw => (P.read (raw.take P.size)).bind fun a =>
    (readMany n (raw.drop P.size)).map fun as => a :: as

/-- Where values are missing, default ones are written. -/
def writeMany [Inhabited α] : Nat → List α → Bytes → Bytes
  | 0, _, raw => raw
  | n + 1, as, raw =>
    P.write (as.headD default) (raw.take P.size) ++ writeMany n as.tail (raw.drop P.size)

variable {P}

theorem readMany_eq_some {n : Nat} {raw : Bytes} {as : List α} :
    P.readMany (n + 1) raw = some as ↔ ∃ a as', P.read (raw.take P.size) = some a ∧
      P.readMany n (raw.drop P.size) = some as' ∧ as = a :: as' := by
  simp only [readMany, Option.bind_eq_some_iff, Option.map_eq_some_iff]
  constructor
  · rintro ⟨a, ha, as', has', rfl⟩
    exact ⟨a, as', ha, has', rfl⟩
  · rintro ⟨a, as', ha, has', rfl⟩
    exact ⟨a, ha, as', has', rfl⟩

theorem length_split {n : Nat} {raw : Bytes} (hraw : raw.length = (n + 1) * P.size) :
    (raw.take P.size).length = P.size ∧ (raw.drop P.size).length = n * P.size := by
  rw [Nat.succ_mul] at hraw
  rw [List.length_take, List.length_drop]
  omega

variable [Inhabited α]

theorem length_writeMany {n : Nat} {as : List α} {raw : Bytes} (hraw : raw.length = n * P.size) :
    (P.writeMany n as raw).length = n * P.size := by
  induction n generalizing as raw with
  | zero => exact hraw
  | succ n ih =>
    obtain ⟨htake, hdrop⟩ := length_split hraw
    rw [writeMany, List.length_append, P.length_write htake, ih hdrop, Nat.succ_mul, Nat.add_comm]

theorem readMany_writeMany {n : Nat} {as : List α} {raw : Bytes}
    (hraw : raw.length = n * P.size) (hlength : as.length = n) (hfits : ∀ a ∈ as, P.Fits a) :
    P.readMany n (P.writeMany n as raw) = some as := by
  induction n generalizing as raw with
  | zero => rw [List.length_eq_zero_iff.1 hlength]; rfl
  | succ n ih =>
    obtain ⟨a, as, rfl⟩ := List.exists_cons_of_length_eq_add_one hlength
    obtain ⟨htake, hdrop⟩ := length_split hraw
    have hwrite := P.length_write (a := a) htake
    rw [List.forall_mem_cons] at hfits
    rw [readMany_eq_some]
    refine ⟨a, as, ?_, ?_, rfl⟩
    · rw [writeMany, List.headD_cons, List.take_left' hwrite, P.read_write htake hfits.1]
    · rw [writeMany, List.headD_cons, List.drop_left' hwrite]
      exact ih hdrop (Nat.succ.inj hlength) hfits.2

theorem writeMany_writeMany {n : Nat} {as bs : List α} {raw : Bytes}
    (hraw : raw.length = n * P.size) :
    P.writeMany n as (P.writeMany n bs raw) = P.writeMany n as raw := by
  induction n generalizing as bs raw with
  | zero => rfl
  | succ n ih =>
    obtain ⟨htake, hdrop⟩ := length_split hraw
    have hwrite := P.length_write (a := bs.headD default) htake
    simp only [writeMany]
    rw [List.take_left' hwrite, List.drop_left' hwrite, P.write_write htake, ih hdrop]

theorem of_readMany {n : Nat} {raw : Bytes} {as : List α} (hraw : raw.length = n * P.size)
    (hread : P.readMany n raw = some as) :
    as.length = n ∧ (∀ a ∈ as, P.Fits a) ∧ P.writeMany n as raw = raw := by
  induction n generalizing raw as with
  | zero =>
    cases hread
    exact ⟨rfl, by simp, rfl⟩
  | succ n ih =>
    obtain ⟨a, as, ha, has, rfl⟩ := readMany_eq_some.1 hread
    obtain ⟨htake, hdrop⟩ := length_split hraw
    obtain ⟨hlength, hfits, hwrite⟩ := ih hdrop has
    refine ⟨by rw [List.length_cons, hlength], ?_, ?_⟩
    · exact List.forall_mem_cons.2 ⟨P.fits_of_read htake ha, hfits⟩
    · rw [writeMany, List.headD_cons, List.tail_cons, P.write_of_read htake ha, hwrite,
        List.take_append_drop]

variable (P)

/-- `n` values one after the other. -/
def array (n : Nat) : Pod (List α) where
  size := n * P.size
  Fits as := as.length = n ∧ ∀ a ∈ as, P.Fits a
  read := P.readMany n
  write := P.writeMany n
  length_write := length_writeMany
  read_write hraw hfits := readMany_writeMany hraw hfits.1 hfits.2
  write_write := writeMany_writeMany
  write_of_read hraw hread := (of_readMany hraw hread).2.2
  fits_of_read hraw hread := ⟨(of_readMany hraw hread).1, (of_readMany hraw hread).2.1⟩

variable {P}

@[simp] theorem array_fits {n : Nat} {as : List α} :
    (P.array n).Fits as ↔ as.length = n ∧ ∀ a ∈ as, P.Fits a := .rfl

end

end Pod

end DoubleZero.Lib
