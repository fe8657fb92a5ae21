import Mathlib.Tactic

/-!
# Borsh

A binary format: integers are little-endian words of their width, a sequence carries its length in
four bytes, an enumeration starts with a tag. A codec has a serializer, which fails on a sequence
too long to carry its length, and a reader, which takes what it reads off the front of its input.
The codec is exact when its reader accepts what its serializer writes, and nothing else. The
constructions below keep codecs exact, so that serializing and reading a whole slice are inverses
(`tryFromSlice_eq_ok`).
-/

namespace DoubleZero.Lib.Borsh

abbrev Bytes := List (BitVec 8)

/-- What is written, or why it can't be. -/
abbrev Written := Except String Bytes

abbrev Reader (α : Type) := StateT Bytes (Except String) α

structure Codec (α : Type) where
  /-- The values that can be written. -/
  Fits : α → Prop
  serialize : α → Written
  deserializeReader : Reader α

variable {α β τ : Type}

structure Codec.Exact (c : Codec α) : Prop where
  serialize_iff : ∀ {a}, (∃ bytes, c.serialize a = .ok bytes) ↔ c.Fits a
  read_iff : ∀ {input a rest}, c.deserializeReader.run input = .ok (a, rest) ↔
    ∃ bytes, c.serialize a = .ok bytes ∧ input = bytes ++ rest

/-- What was written is read back, whatever follows it. -/
theorem Codec.Exact.read_append {c : Codec α} (hc : c.Exact) {a : α} {bytes : Bytes}
    (h : c.serialize a = .ok bytes) (rest : Bytes) :
    c.deserializeReader.run (bytes ++ rest) = .ok (a, rest) :=
  hc.read_iff.2 ⟨bytes, h, rfl⟩

/-- `try_from_slice`. -/
def Codec.tryFromSlice (c : Codec α) (input : Bytes) : Except String α := do
  let (a, rest) ← c.deserializeReader.run input
  if rest.isEmpty then return a else throw "Not all bytes read"

theorem Codec.Exact.tryFromSlice_eq_ok {c : Codec α} (hc : c.Exact) {input : Bytes} {a : α} :
    c.tryFromSlice input = .ok a ↔ c.serialize a = .ok input := by
  have hread : c.tryFromSlice input = .ok a ↔ c.deserializeReader.run input = .ok (a, []) := by
    unfold Codec.tryFromSlice
    cases hrun : c.deserializeReader.run input with
    | error e => simp [bind, Except.bind]
    | ok x =>
      obtain ⟨a', rest⟩ := x
      cases rest with
      | nil => simp [bind, Except.bind, pure, Except.pure]
      | cons byte rest => simp [bind, Except.bind, throw, throwThe, MonadExceptOf.throw]
  rw [hread, hc.read_iff]
  simp

/-- Serializing and reading a whole slice undo each other, and a value has one form. -/
structure Codec.Inverse (c : Codec α) : Prop where
  roundTrip : ∀ a, c.Fits a → ∃ bytes, c.serialize a = .ok bytes ∧ c.tryFromSlice bytes = .ok a
  canonical : ∀ bytes a, c.tryFromSlice bytes = .ok a → c.serialize a = .ok bytes
  unique : ∀ bytes bytes' a, c.tryFromSlice bytes = .ok a → c.tryFromSlice bytes' = .ok a →
    bytes = bytes'
  noTrailing : ∀ bytes rest a a', c.tryFromSlice bytes = .ok a →
    c.tryFromSlice (bytes ++ rest) = .ok a' → rest = []

theorem Codec.Exact.inverse {c : Codec α} (hc : c.Exact) : c.Inverse where
  roundTrip a hfits := by
    obtain ⟨bytes, hbytes⟩ := hc.serialize_iff.2 hfits
    exact ⟨bytes, hbytes, hc.tryFromSlice_eq_ok.2 hbytes⟩
  canonical bytes a h := hc.tryFromSlice_eq_ok.1 h
  unique bytes bytes' a h h' := by
    rw [hc.tryFromSlice_eq_ok] at h h'
    exact Except.ok.inj (h.symm.trans h')
  noTrailing bytes rest a a' h h' := by
    rw [hc.tryFromSlice_eq_ok] at h h'
    -- both values are read off the same input, the first one before `rest`
    have hread := hc.read_append h rest
    have hread' := hc.read_append h' []
    rw [List.append_nil, hread] at hread'
    exact (Prod.mk.inj (Except.ok.inj hread')).2

/-- `to_writer` into a buffer: its beginning is overwritten, the rest stays. -/
def Codec.toWriter (c : Codec α) (buffer : Bytes) (a : α) : Written := do
  let bytes ← c.serialize a
  if bytes.length ≤ buffer.length then return bytes ++ buffer.drop bytes.length
  else throw "failed to write whole buffer"

/-- `deserialize`, which leaves the rest of its slice. -/
def Codec.deserialize (c : Codec α) (input : Bytes) : Except String α := do
  let (a, _) ← c.deserializeReader.run input
  return a

theorem Codec.toWriter_eq_ok {c : Codec α} {buffer out : Bytes} {a : α} :
    c.toWriter buffer a = .ok out ↔ ∃ bytes, c.serialize a = .ok bytes ∧
      bytes.length ≤ buffer.length ∧ out = bytes ++ buffer.drop bytes.length := by
  unfold Codec.toWriter
  cases c.serialize a with
  | error e => simp [bind, Except.bind]
  | ok bytes =>
    by_cases hle : bytes.length ≤ buffer.length
    · simp [bind, Except.bind, hle, pure, Except.pure, eq_comm]
    · simp [bind, Except.bind, hle, throw, throwThe, MonadExceptOf.throw]

theorem Codec.Exact.deserialize_toWriter {c : Codec α} (hc : c.Exact) {buffer out : Bytes} {a : α}
    (h : c.toWriter buffer a = .ok out) : c.deserialize out = .ok a := by
  obtain ⟨bytes, hbytes, -, rfl⟩ := Codec.toWriter_eq_ok.1 h
  rw [Codec.deserialize, hc.read_append hbytes]
  rfl

/-! ## Reading and writing one after the other -/

section

variable {x : Reader α} {f : α → Reader β} {g : α → β} {input rest : Bytes} {b b' : β}

theorem bind_eq_ok : (x >>= f).run input = .ok (b, rest) ↔
    ∃ a mid, x.run input = .ok (a, mid) ∧ (f a).run mid = .ok (b, rest) := by
  rw [StateT.run_bind]
  cases x.run input with
  | error e => simp [bind, Except.bind]
  | ok y =>
    obtain ⟨a, mid⟩ := y
    simp only [bind, Except.bind, Except.ok.injEq, Prod.mk.injEq]
    constructor
    · intro h
      exact ⟨a, mid, ⟨rfl, rfl⟩, h⟩
    · rintro ⟨_, _, ⟨rfl, rfl⟩, h⟩
      exact h

theorem pure_eq_ok : (pure b : Reader β).run input = .ok (b', rest) ↔ b = b' ∧ input = rest := by
  rw [StateT.run_pure]
  simp [pure, Except.pure]

theorem map_eq_ok : (g <$> x).run input = .ok (b, rest) ↔
    ∃ a, x.run input = .ok (a, rest) ∧ g a = b := by
  rw [map_eq_pure_bind, bind_eq_ok]
  constructor
  · rintro ⟨a, mid, hx, hb⟩
    obtain ⟨rfl, rfl⟩ := pure_eq_ok.1 hb
    exact ⟨a, hx, rfl⟩
  · rintro ⟨a, hx, rfl⟩
    exact ⟨a, rest, hx, pure_eq_ok.2 ⟨rfl, rfl⟩⟩

end

def concat : List Written → Written
  | [] => .ok []
  | w :: ws => do return (← w) ++ (← concat ws)

theorem concat_nil {bytes : Bytes} : concat [] = .ok bytes ↔ bytes = [] := by
  simp [concat, eq_comm]

theorem concat_cons {w : Written} {ws : List Written} {bytes : Bytes} :
    concat (w :: ws) = .ok bytes ↔
      ∃ b₁ b₂, w = .ok b₁ ∧ concat ws = .ok b₂ ∧ bytes = b₁ ++ b₂ := by
  cases w with
  | error e => simp [concat, bind, Except.bind]
  | ok b₁ =>
    cases hws : concat ws with
    | error e => simp [concat, hws, bind, Except.bind]
    | ok b₂ => simp [concat, hws, bind, Except.bind, pure, Except.pure, eq_comm]

theorem exists_concat {ws : List Written} :
    (∃ bytes, concat ws = .ok bytes) ↔ ∀ w ∈ ws, ∃ bytes, w = .ok bytes := by
  induction ws with
  | nil => simp [concat]
  | cons w ws ih =>
    simp only [concat_cons, List.forall_mem_cons, ← ih]
    constructor
    · rintro ⟨_, b₁, b₂, hw, hws, -⟩
      exact ⟨⟨b₁, hw⟩, b₂, hws⟩
    · rintro ⟨⟨b₁, hw⟩, b₂, hws⟩
      exact ⟨_, b₁, b₂, hw, hws, rfl⟩

theorem concat_singleton {w : Written} {bytes : Bytes} :
    concat [w] = .ok bytes ↔ w = .ok bytes := by
  simp [concat_cons, concat_nil]

/-! ## Words -/

/-- The `n` low bytes of a number, the lowest first. -/
def toLE : Nat → Nat → Bytes
  | 0, _ => []
  | n + 1, v => BitVec.ofNat 8 v :: toLE n (v / 256)

def ofLE : Bytes → Nat
  | [] => 0
  | byte :: bytes => byte.toNat + 256 * ofLE bytes

theorem length_toLE (n v : Nat) : (toLE n v).length = n := by
  induction n generalizing v with
  | zero => rfl
  | succ n ih => rw [toLE, List.length_cons, ih]

theorem ofLE_toLE {n v : Nat} (h : v < 256 ^ n) : ofLE (toLE n v) = v := by
  induction n generalizing v with
  | zero =>
    rw [pow_zero, Nat.lt_one_iff] at h
    rw [h]
    rfl
  | succ n ih =>
    have hdiv : v / 256 < 256 ^ n := by
      rw [pow_succ] at h
      exact Nat.div_lt_of_lt_mul (Nat.mul_comm _ _ ▸ h)
    rw [toLE, ofLE, ih hdiv, BitVec.toNat_ofNat]
    exact Nat.mod_add_div v 256

theorem ofLE_lt (bytes : Bytes) : ofLE bytes < 256 ^ bytes.length := by
  induction bytes with
  | nil => exact Nat.one_pos
  | cons byte bytes ih =>
    have hbyte : byte.toNat < 256 := byte.isLt
    rw [ofLE, List.length_cons, pow_succ]
    omega

theorem toLE_ofLE (bytes : Bytes) : toLE bytes.length (ofLE bytes) = bytes := by
  induction bytes with
  | nil => rfl
  | cons byte bytes ih =>
    have hbyte : byte.toNat < 256 := byte.isLt
    have hlow : BitVec.ofNat 8 (byte.toNat + 256 * ofLE bytes) = byte := by
      apply BitVec.eq_of_toNat_eq
      rw [BitVec.toNat_ofNat]
      omega
    have hhigh : (byte.toNat + 256 * ofLE bytes) / 256 = ofLE bytes := by omega
    rw [ofLE, List.length_cons, toLE, hlow, hhigh, ih]

/-- The next `n` bytes. -/
def readBytes (n : Nat) : Reader Bytes := fun input =>
  if n ≤ input.length then .ok (input.take n, input.drop n)
  else .error "Unexpected length of input"

theorem readBytes_eq_ok {n : Nat} {input bytes rest : Bytes} :
    (readBytes n).run input = .ok (bytes, rest) ↔ bytes.length = n ∧ input = bytes ++ rest := by
  have hrun : (readBytes n).run input = if n ≤ input.length then
      .ok (input.take n, input.drop n) else .error "Unexpected length of input" := rfl
  rw [hrun]
  constructor
  · intro h
    split at h
    · next hle =>
      obtain ⟨rfl, rfl⟩ := Prod.mk.inj (Except.ok.inj h)
      exact ⟨List.length_take_of_le hle, (List.take_append_drop n input).symm⟩
    · cases h
  · rintro ⟨rfl, rfl⟩
    rw [if_pos (by simp), List.take_left, List.drop_left]

/-- Values of a fixed number of bytes. -/
def Codec.fixed (width : Nat) (Fits : α → Prop) [DecidablePred Fits] (toBytes : α → Bytes)
    (ofBytes : Bytes → α) : Codec α where
  Fits := Fits
  serialize a := if Fits a then .ok (toBytes a) else .error "Out of range"
  deserializeReader := ofBytes <$> readBytes width

theorem Codec.fixed_exact {width : Nat} {Fits : α → Prop} [DecidablePred Fits]
    {toBytes : α → Bytes} {ofBytes : Bytes → α}
    (hof : ∀ a, Fits a → (toBytes a).length = width ∧ ofBytes (toBytes a) = a)
    (hto : ∀ bytes, bytes.length = width → Fits (ofBytes bytes) ∧ toBytes (ofBytes bytes) = bytes) :
    (Codec.fixed width Fits toBytes ofBytes).Exact where
  serialize_iff {a} := by
    unfold Codec.fixed
    dsimp only
    split <;> simp_all
  read_iff {input a rest} := by
    simp only [Codec.fixed, map_eq_ok, readBytes_eq_ok]
    constructor
    · rintro ⟨bytes, ⟨hlength, rfl⟩, rfl⟩
      obtain ⟨hfits, hbytes⟩ := hto bytes hlength
      exact ⟨bytes, by rw [if_pos hfits, hbytes], rfl⟩
    · rintro ⟨bytes, hbytes, rfl⟩
      split at hbytes
      · next hfits =>
        obtain rfl := Except.ok.inj hbytes
        exact ⟨_, ⟨(hof a hfits).1, rfl⟩, (hof a hfits).2⟩
      · cases hbytes

/-- A word, as the number its bytes spell, the lowest first. -/
def Codec.word (width : Nat) (toNat : α → Nat) (ofNat : Nat → α) : Codec α :=
  .fixed width (fun a => toNat a < 256 ^ width) (fun a => toLE width (toNat a))
    fun bytes => ofNat (ofLE bytes)

theorem Codec.word_exact {width : Nat} {toNat : α → Nat} {ofNat : Nat → α}
    (hof : ∀ a, ofNat (toNat a) = a) (hto : ∀ v < 256 ^ width, toNat (ofNat v) = v) :
    (Codec.word width toNat ofNat).Exact := by
  refine Codec.fixed_exact (fun a hfits => ⟨length_toLE _ _, ?_⟩) ?_
  · rw [ofLE_toLE hfits, hof]
  · rintro bytes rfl
    have hlt := ofLE_lt bytes
    rw [hto _ hlt]
    exact ⟨hlt, toLE_ofLE bytes⟩

/-- A number in the order it is read: the highest byte first. -/
def Codec.bigEndian (width : Nat) (toNat : α → Nat) (ofNat : Nat → α) : Codec α :=
  .fixed width (fun a => toNat a < 256 ^ width) (fun a => (toLE width (toNat a)).reverse)
    fun bytes => ofNat (ofLE bytes.reverse)

theorem Codec.bigEndian_exact {width : Nat} {toNat : α → Nat} {ofNat : Nat → α}
    (hof : ∀ a, ofNat (toNat a) = a) (hto : ∀ v < 256 ^ width, toNat (ofNat v) = v) :
    (Codec.bigEndian width toNat ofNat).Exact := by
  refine Codec.fixed_exact (fun a hfits => ⟨?_, ?_⟩) ?_
  · rw [List.length_reverse, length_toLE]
  · rw [List.reverse_reverse, ofLE_toLE hfits, hof]
  · rintro bytes rfl
    have hlt := ofLE_lt bytes.reverse
    have hback := toLE_ofLE bytes.reverse
    rw [List.length_reverse] at hlt hback
    rw [hto _ hlt, hback, List.reverse_reverse]
    exact ⟨hlt, rfl⟩

def u8 : Codec UInt8 := .word 1 UInt8.toNat UInt8.ofNat
def u16 : Codec UInt16 := .word 2 UInt16.toNat UInt16.ofNat
def u32 : Codec UInt32 := .word 4 UInt32.toNat UInt32.ofNat
def u64 : Codec UInt64 := .word 8 UInt64.toNat UInt64.ofNat

/-- An array of bytes, kept as the little-endian word they spell. -/
def byteArray (width : Nat) : Codec (BitVec (8 * width)) :=
  .word width BitVec.toNat (BitVec.ofNat (8 * width))

theorem u8_exact : u8.Exact :=
  Codec.word_exact (fun _ => UInt8.ofNat_toNat) fun _ hv => UInt8.toNat_ofNat_of_lt' hv

theorem u16_exact : u16.Exact :=
  Codec.word_exact (fun _ => UInt16.ofNat_toNat) fun _ hv => UInt16.toNat_ofNat_of_lt' hv

theorem u32_exact : u32.Exact :=
  Codec.word_exact (fun _ => UInt32.ofNat_toNat) fun _ hv => UInt32.toNat_ofNat_of_lt' hv

theorem u64_exact : u64.Exact :=
  Codec.word_exact (fun _ => UInt64.ofNat_toNat) fun _ hv => UInt64.toNat_ofNat_of_lt' hv

theorem pow_width (width : Nat) : 256 ^ width = 2 ^ (8 * width) := by
  rw [pow_mul]
  norm_num

theorem byteArray_exact (width : Nat) : (byteArray width).Exact := by
  refine Codec.word_exact (fun b => BitVec.ofNat_toNat ..|>.trans (by simp)) fun v hv => ?_
  rw [BitVec.toNat_ofNat, ← pow_width, Nat.mod_eq_of_lt hv]

@[simp] theorem u8_fits (v : UInt8) : u8.Fits v := v.toNat_lt
@[simp] theorem u16_fits (v : UInt16) : u16.Fits v := v.toNat_lt
@[simp] theorem u32_fits (v : UInt32) : u32.Fits v := v.toNat_lt
@[simp] theorem u64_fits (v : UInt64) : u64.Fits v := v.toNat_lt

@[simp] theorem byteArray_fits {width : Nat} (v : BitVec (8 * width)) :
    (byteArray width).Fits v := by
  unfold byteArray Codec.word Codec.fixed
  dsimp only
  rw [pow_width]
  exact v.isLt

/-! ## Records and sequences -/

section

variable {c : Codec α} {c' : Codec β}

def Codec.pair (c : Codec α) (c' : Codec β) : Codec (α × β) where
  Fits x := c.Fits x.1 ∧ c'.Fits x.2
  serialize x := concat [c.serialize x.1, c'.serialize x.2]
  deserializeReader := do
    let a ← c.deserializeReader
    let b ← c'.deserializeReader
    return (a, b)

@[simp] theorem Codec.pair_fits {x : α × β} : (c.pair c').Fits x ↔ c.Fits x.1 ∧ c'.Fits x.2 :=
  .rfl

theorem Codec.Exact.pair (hc : c.Exact) (hc' : c'.Exact) : (c.pair c').Exact where
  serialize_iff {x} := by
    simp [Codec.pair, exists_concat, hc.serialize_iff, hc'.serialize_iff]
  read_iff {input x rest} := by
    simp only [Codec.pair, bind_eq_ok, pure_eq_ok, hc.read_iff, hc'.read_iff, concat_cons,
      concat_nil]
    constructor
    · rintro ⟨a, _, ⟨b₁, h₁, rfl⟩, b, _, ⟨b₂, h₂, rfl⟩, rfl, rfl⟩
      exact ⟨b₁ ++ (b₂ ++ []), ⟨b₁, _, h₁, ⟨b₂, [], h₂, rfl, rfl⟩, rfl⟩, by simp⟩
    · rintro ⟨_, ⟨b₁, _, h₁, ⟨b₂, _, h₂, rfl, rfl⟩, rfl⟩, rfl⟩
      exact ⟨x.1, _, ⟨b₁, h₁, List.append_assoc ..⟩, x.2, rest, ⟨b₂, h₂, by simp⟩, rfl, rfl⟩

/-- A record with the fields of another type. -/
def Codec.iso (c : Codec α) (fields : β → α) (make : α → β) : Codec β where
  Fits b := c.Fits (fields b)
  serialize b := c.serialize (fields b)
  deserializeReader := make <$> c.deserializeReader

@[simp] theorem Codec.iso_fits {fields : β → α} {make : α → β} {b : β} :
    (c.iso fields make).Fits b ↔ c.Fits (fields b) := .rfl

theorem Codec.Exact.iso (hc : c.Exact) {fields : β → α} {make : α → β}
    (hmake : ∀ b, make (fields b) = b) (hfields : ∀ a, fields (make a) = a) :
    (c.iso fields make).Exact where
  serialize_iff := hc.serialize_iff
  read_iff {input b rest} := by
    simp only [Codec.iso, map_eq_ok, hc.read_iff]
    constructor
    · rintro ⟨a, hread, rfl⟩
      rwa [hfields]
    · intro hread
      exact ⟨fields b, hread, hmake b⟩

/-- Reads as many values as said. -/
def readMany (x : Reader α) : Nat → Reader (List α)
  | 0 => return []
  | n + 1 => do
    let a ← x
    let as ← readMany x n
    return a :: as

theorem readMany_eq_ok (hc : c.Exact) {n : Nat} {input rest : Bytes} {as : List α} :
    (readMany c.deserializeReader n).run input = .ok (as, rest) ↔
      as.length = n ∧ ∃ bytes, concat (as.map c.serialize) = .ok bytes ∧ input = bytes ++ rest := by
  induction n generalizing input rest as with
  | zero =>
    rw [readMany, pure_eq_ok, List.length_eq_zero_iff]
    constructor
    · rintro ⟨rfl, rfl⟩
      exact ⟨rfl, [], rfl, rfl⟩
    · rintro ⟨rfl, bytes, hbytes, rfl⟩
      exact ⟨rfl, by rw [concat_nil.1 hbytes, List.nil_append]⟩
  | succ n ih =>
    simp only [readMany, bind_eq_ok, pure_eq_ok, hc.read_iff, ih]
    constructor
    · rintro ⟨a, _, ⟨b₁, h₁, rfl⟩, as, _, ⟨hlength, b₂, h₂, rfl⟩, rfl, rfl⟩
      refine ⟨by rw [List.length_cons, hlength], b₁ ++ b₂, ?_, (List.append_assoc ..).symm⟩
      exact concat_cons.2 ⟨b₁, b₂, h₁, h₂, rfl⟩
    · rintro ⟨hlength, bytes, hbytes, rfl⟩
      obtain ⟨a, as, rfl⟩ := List.exists_cons_of_length_eq_add_one hlength
      obtain ⟨b₁, b₂, h₁, h₂, rfl⟩ := concat_cons.1 hbytes
      exact ⟨a, b₂ ++ rest, ⟨b₁, h₁, List.append_assoc ..⟩, as, rest,
        ⟨Nat.succ.inj hlength, b₂, h₂, rfl⟩, rfl, rfl⟩

/-- `Vec`. -/
def Codec.vec (c : Codec α) : Codec (List α) where
  Fits as := as.length < 2 ^ 32 ∧ ∀ a ∈ as, c.Fits a
  serialize as :=
    if as.length < 2 ^ 32 then
      concat (u32.serialize (UInt32.ofNat as.length) :: as.map c.serialize)
    else .error "invalid data"
  deserializeReader := do
    let length ← u32.deserializeReader
    readMany c.deserializeReader length.toNat

@[simp] theorem Codec.vec_fits {as : List α} :
    c.vec.Fits as ↔ as.length < 2 ^ 32 ∧ ∀ a ∈ as, c.Fits a := .rfl

theorem Codec.Exact.vec (hc : c.Exact) : c.vec.Exact where
  serialize_iff {as} := by
    unfold Codec.vec
    dsimp only
    split
    · next hlt =>
      simp only [exists_concat, List.forall_mem_cons, List.forall_mem_map,
        u32_exact.serialize_iff, hc.serialize_iff, u32_fits, hlt]
    · next hlt =>
      constructor
      · rintro ⟨_, herror⟩
        cases herror
      · intro hfits
        exact absurd hfits.1 hlt
  read_iff {input as rest} := by
    simp only [Codec.vec, bind_eq_ok, u32_exact.read_iff, readMany_eq_ok hc]
    constructor
    · rintro ⟨length, _, ⟨b₁, h₁, rfl⟩, hlength, b₂, h₂, rfl⟩
      have hlt : as.length < 2 ^ 32 := hlength ▸ length.toNat_lt
      have hsame : UInt32.ofNat as.length = length := by rw [hlength, UInt32.ofNat_toNat]
      refine ⟨b₁ ++ b₂, ?_, (List.append_assoc ..).symm⟩
      rw [if_pos hlt, hsame]
      exact concat_cons.2 ⟨b₁, b₂, h₁, h₂, rfl⟩
    · rintro ⟨bytes, hbytes, rfl⟩
      split at hbytes
      · next hlt =>
        obtain ⟨b₁, b₂, h₁, h₂, rfl⟩ := concat_cons.1 hbytes
        exact ⟨_, b₂ ++ rest, ⟨b₁, h₁, List.append_assoc ..⟩,
          (UInt32.toNat_ofNat_of_lt' hlt).symm, b₂, h₂, rfl⟩
      · cases hbytes

end

/-! ## Enumerations -/

/-- An enumeration: what each value is written as, the tag and the fields, and what is read after
each tag. -/
def Codec.tagged [DecidableEq τ] (tag : Codec τ) (Fits : α → Prop)
    (written : α → τ × List Written) (arms : List (τ × Reader α)) (unexpected : τ → String) :
    Codec α where
  Fits := Fits
  serialize a := concat (tag.serialize (written a).1 :: (written a).2)
  deserializeReader := do
    let t ← tag.deserializeReader
    match arms.lookup t with
    | some arm => arm
    | none => throw (unexpected t)

/-- The arm reads only what is written as its tag and fields. -/
def ReadsOnly (written : α → τ × List Written) (x : τ × Reader α) : Prop :=
  ∀ input a rest, x.2.run input = .ok (a, rest) →
    (written a).1 = x.1 ∧ ∃ bytes, concat (written a).2 = .ok bytes ∧ input = bytes ++ rest

/-- There is an arm for the tag of the value, and it reads the value from its fields. -/
def ReadsBack (written : α → τ × List Written) (arms : List (τ × Reader α)) (a : α) : Prop :=
  ∃ arm, ((written a).1, arm) ∈ arms ∧ ∀ bytes rest, concat (written a).2 = .ok bytes →
    arm.run (bytes ++ rest) = .ok (a, rest)

structure Arms (Fits : α → Prop) (written : α → τ × List Written) (arms : List (τ × Reader α)) :
    Prop where
  nodup : (arms.map Prod.fst).Nodup
  fits_iff : ∀ {a}, (∀ w ∈ (written a).2, ∃ bytes, w = .ok bytes) ↔ Fits a
  reads : ∀ a, ReadsBack written arms a
  only : ∀ x ∈ arms, ReadsOnly written x

theorem lookup_eq_some [DecidableEq τ] {arms : List (τ × β)} (hnodup : (arms.map Prod.fst).Nodup)
    {t : τ} {arm : β} : arms.lookup t = some arm ↔ (t, arm) ∈ arms := by
  induction arms with
  | nil => simp
  | cons x arms ih =>
    obtain ⟨t', arm'⟩ := x
    rw [List.map_cons, List.nodup_cons] at hnodup
    by_cases ht : t = t'
    · subst ht
      have hnot : (t, arm) ∉ arms := fun hmem =>
        hnodup.1 (List.mem_map.2 ⟨(t, arm), hmem, rfl⟩)
      simp [hnot, eq_comm]
    · have hbeq : (t == t') = false := beq_eq_false_iff_ne.2 ht
      simp [List.lookup_cons, hbeq, ht, ih hnodup.2]

theorem Codec.Exact.tagged [DecidableEq τ] {tag : Codec τ} {Fits : α → Prop}
    {written : α → τ × List Written} {arms : List (τ × Reader α)} {unexpected : τ → String}
    (htag : tag.Exact) (hfits : ∀ a, tag.Fits (written a).1) (harms : Arms Fits written arms) :
    (Codec.tagged tag Fits written arms unexpected).Exact where
  serialize_iff {a} := by
    simp only [Codec.tagged, exists_concat, List.forall_mem_cons, htag.serialize_iff, hfits,
      true_and, harms.fits_iff]
  read_iff {input a rest} := by
    simp only [Codec.tagged, bind_eq_ok, htag.read_iff, concat_cons]
    constructor
    · rintro ⟨t, _, ⟨b₁, h₁, rfl⟩, hrun⟩
      split at hrun
      · next arm hlookup =>
        obtain ⟨rfl, b₂, h₂, rfl⟩ := harms.only _ ((lookup_eq_some harms.nodup).1 hlookup) _ _ _
          hrun
        exact ⟨b₁ ++ b₂, ⟨b₁, b₂, h₁, h₂, rfl⟩, (List.append_assoc ..).symm⟩
      · cases hrun
    · rintro ⟨_, ⟨b₁, b₂, h₁, h₂, rfl⟩, rfl⟩
      obtain ⟨arm, hmem, hreads⟩ := harms.reads a
      refine ⟨_, b₂ ++ rest, ⟨b₁, h₁, List.append_assoc ..⟩, ?_⟩
      rw [(lookup_eq_some harms.nodup).2 hmem]
      exact hreads b₂ rest h₂

/-! ### Arms without a field, with one, two and three -/

section

variable {γ δ : Type} {c : Codec β} {c' : Codec γ} {c'' : Codec δ} {a : α} {input rest : Bytes}
  {written : α → τ × List Written} {arms : List (τ × Reader α)} {t : τ}

theorem pure_arm {v : α} : (return v : Reader α).run input = .ok (a, rest) ↔
    v = a ∧ ∃ bytes, concat [] = .ok bytes ∧ input = bytes ++ rest := by
  rw [pure_eq_ok]
  simp [concat_nil]

theorem map_arm (hc : c.Exact) {make : β → α} :
    (make <$> c.deserializeReader).run input = .ok (a, rest) ↔
      ∃ b, make b = a ∧ ∃ bytes, concat [c.serialize b] = .ok bytes ∧ input = bytes ++ rest := by
  simp only [map_eq_ok, hc.read_iff, concat_singleton]
  exact exists_congr fun b => and_comm

theorem two_arm (hc : c.Exact) (hc' : c'.Exact) {make : β → γ → α} :
    (do
      let b ← c.deserializeReader
      let b' ← c'.deserializeReader
      return make b b' : Reader α).run input = .ok (a, rest) ↔
      ∃ b b', make b b' = a ∧
        ∃ bytes, concat [c.serialize b, c'.serialize b'] = .ok bytes ∧ input = bytes ++ rest := by
  simp only [bind_eq_ok, pure_eq_ok, hc.read_iff, hc'.read_iff, concat_cons, concat_nil]
  constructor
  · rintro ⟨b, _, ⟨b₁, h₁, rfl⟩, b', _, ⟨b₂, h₂, rfl⟩, rfl, rfl⟩
    exact ⟨b, b', rfl, _, ⟨b₁, _, h₁, ⟨b₂, [], h₂, rfl, rfl⟩, rfl⟩, by simp⟩
  · rintro ⟨b, b', rfl, _, ⟨b₁, _, h₁, ⟨b₂, _, h₂, rfl, rfl⟩, rfl⟩, rfl⟩
    exact ⟨b, _, ⟨b₁, h₁, List.append_assoc ..⟩, b', rest, ⟨b₂, h₂, by simp⟩, rfl, rfl⟩

theorem three_arm (hc : c.Exact) (hc' : c'.Exact) (hc'' : c''.Exact) {make : β → γ → δ → α} :
    (do
      let b ← c.deserializeReader
      let b' ← c'.deserializeReader
      let b'' ← c''.deserializeReader
      return make b b' b'' : Reader α).run input = .ok (a, rest) ↔
      ∃ b b' b'', make b b' b'' = a ∧ ∃ bytes,
        concat [c.serialize b, c'.serialize b', c''.serialize b''] = .ok bytes ∧
          input = bytes ++ rest := by
  rw [bind_eq_ok]
  simp only [two_arm hc' hc'', hc.read_iff]
  constructor
  · rintro ⟨b, _, ⟨b₁, h₁, rfl⟩, b', b'', rfl, b₂, h₂, rfl⟩
    exact ⟨b, b', b'', rfl, b₁ ++ b₂, concat_cons.2 ⟨b₁, b₂, h₁, h₂, rfl⟩,
      (List.append_assoc ..).symm⟩
  · rintro ⟨b, b', b'', rfl, _, hbytes, rfl⟩
    obtain ⟨b₁, b₂, h₁, h₂, rfl⟩ := concat_cons.1 hbytes
    exact ⟨b, _, ⟨b₁, h₁, List.append_assoc ..⟩, b', b'', rfl, b₂, h₂, rfl⟩

theorem ReadsOnly.unit {v : α} (hw : written v = (t, [])) : ReadsOnly written (t, return v) := by
  intro input a rest hrun
  obtain ⟨rfl, hbytes⟩ := pure_arm.1 hrun
  rw [hw]
  exact ⟨rfl, hbytes⟩

theorem ReadsOnly.one (hc : c.Exact) {make : β → α}
    (hw : ∀ b, written (make b) = (t, [c.serialize b])) :
    ReadsOnly written (t, make <$> c.deserializeReader) := by
  intro input a rest hrun
  obtain ⟨b, rfl, hbytes⟩ := (map_arm hc).1 hrun
  rw [hw]
  exact ⟨rfl, hbytes⟩

theorem ReadsOnly.two (hc : c.Exact) (hc' : c'.Exact) {make : β → γ → α}
    (hw : ∀ b b', written (make b b') = (t, [c.serialize b, c'.serialize b'])) :
    ReadsOnly written (t, do
      let b ← c.deserializeReader
      let b' ← c'.deserializeReader
      return make b b') := by
  intro input a rest hrun
  obtain ⟨b, b', rfl, hbytes⟩ := (two_arm hc hc').1 hrun
  rw [hw]
  exact ⟨rfl, hbytes⟩

theorem ReadsOnly.three (hc : c.Exact) (hc' : c'.Exact) (hc'' : c''.Exact) {make : β → γ → δ → α}
    (hw : ∀ b b' b'', written (make b b' b'') =
      (t, [c.serialize b, c'.serialize b', c''.serialize b''])) :
    ReadsOnly written (t, do
      let b ← c.deserializeReader
      let b' ← c'.deserializeReader
      let b'' ← c''.deserializeReader
      return make b b' b'') := by
  intro input a rest hrun
  obtain ⟨b, b', b'', rfl, hbytes⟩ := (three_arm hc hc' hc'').1 hrun
  rw [hw]
  exact ⟨rfl, hbytes⟩

theorem ReadsBack.of_arm {ws : List Written} {arm : Reader α} (i : Nat) (hw : written a = (t, ws))
    (harm : arms[i]? = some (t, arm))
    (hread : ∀ bytes rest, concat ws = .ok bytes → arm.run (bytes ++ rest) = .ok (a, rest)) :
    ReadsBack written arms a := by
  unfold ReadsBack
  rw [hw]
  exact ⟨arm, List.mem_of_getElem? harm, hread⟩

theorem ReadsBack.unit {v : α} (i : Nat) (hw : written v = (t, []))
    (harm : arms[i]? = some (t, return v)) : ReadsBack written arms v :=
  .of_arm i hw harm fun bytes _ hbytes => pure_arm.2 ⟨rfl, bytes, hbytes, rfl⟩

theorem ReadsBack.one (hc : c.Exact) {make : β → α} {b : β} (i : Nat)
    (hw : written (make b) = (t, [c.serialize b]))
    (harm : arms[i]? = some (t, make <$> c.deserializeReader)) :
    ReadsBack written arms (make b) :=
  .of_arm i hw harm fun bytes _ hbytes => (map_arm hc).2 ⟨b, rfl, bytes, hbytes, rfl⟩

theorem ReadsBack.two (hc : c.Exact) (hc' : c'.Exact) {make : β → γ → α} {b : β} {b' : γ} (i : Nat)
    (hw : written (make b b') = (t, [c.serialize b, c'.serialize b']))
    (harm : arms[i]? = some (t, do
      let b ← c.deserializeReader
      let b' ← c'.deserializeReader
      return make b b')) : ReadsBack written arms (make b b') :=
  .of_arm i hw harm fun bytes _ hbytes => (two_arm hc hc').2 ⟨b, b', rfl, bytes, hbytes, rfl⟩

theorem ReadsBack.three (hc : c.Exact) (hc' : c'.Exact) (hc'' : c''.Exact) {make : β → γ → δ → α}
    {b : β} {b' : γ} {b'' : δ} (i : Nat)
    (hw : written (make b b' b'') = (t, [c.serialize b, c'.serialize b', c''.serialize b'']))
    (harm : arms[i]? = some (t, do
      let b ← c.deserializeReader
      let b' ← c'.deserializeReader
      let b'' ← c''.deserializeReader
      return make b b' b'')) : ReadsBack written arms (make b b' b'') :=
  .of_arm i hw harm fun bytes _ hbytes =>
    (three_arm hc hc' hc'').2 ⟨b, b', b'', rfl, bytes, hbytes, rfl⟩

end

/-! ### Lengths -/

/-- What is written has a length that the value tells. -/
def Codec.Length (c : Codec α) (len : α → Nat) : Prop :=
  ∀ {a bytes}, c.serialize a = .ok bytes → bytes.length = len a

section

variable {c : Codec α} {c' : Codec β} {len : α → Nat} {len' : β → Nat}

theorem Codec.fixed_length {width : Nat} {Fits : α → Prop} [DecidablePred Fits]
    {toBytes : α → Bytes} {ofBytes : Bytes → α} (h : ∀ a, (toBytes a).length = width) :
    (Codec.fixed width Fits toBytes ofBytes).Length fun _ => width := by
  intro a bytes hbytes
  simp only [Codec.fixed] at hbytes
  split at hbytes
  · obtain rfl := Except.ok.inj hbytes
    exact h a
  · cases hbytes

theorem Codec.word_length {width : Nat} {toNat : α → Nat} {ofNat : Nat → α} :
    (Codec.word width toNat ofNat).Length fun _ => width :=
  Codec.fixed_length fun _ => length_toLE _ _

theorem Codec.bigEndian_length {width : Nat} {toNat : α → Nat} {ofNat : Nat → α} :
    (Codec.bigEndian width toNat ofNat).Length fun _ => width :=
  Codec.fixed_length fun _ => by rw [List.length_reverse, length_toLE]

theorem Codec.Length.pair (h : c.Length len) (h' : c'.Length len') :
    (c.pair c').Length fun x => len x.1 + len' x.2 := by
  intro x bytes hbytes
  obtain ⟨b₁, b₂, h₁, h₂, rfl⟩ := concat_cons.1 hbytes
  rw [List.length_append, h h₁, h' (concat_singleton.1 h₂)]

theorem length_concat_map {n : Nat} (h : c.Length fun _ => n) {as : List α} {bytes : Bytes}
    (hbytes : concat (as.map c.serialize) = .ok bytes) : bytes.length = n * as.length := by
  induction as generalizing bytes with
  | nil => rw [concat_nil.1 hbytes, List.length_nil, List.length_nil, Nat.mul_zero]
  | cons a as ih =>
    obtain ⟨b₁, b₂, h₁, h₂, rfl⟩ := concat_cons.1 hbytes
    rw [List.length_append, h h₁, ih h₂, List.length_cons]
    ring

theorem Codec.Length.vec {n : Nat} (h : c.Length fun _ => n) :
    c.vec.Length fun as => 4 + n * as.length := by
  intro as bytes hbytes
  simp only [Codec.vec] at hbytes
  split at hbytes
  · obtain ⟨b₁, b₂, h₁, h₂, rfl⟩ := concat_cons.1 hbytes
    rw [List.length_append, Codec.word_length h₁, length_concat_map h h₂]
  · cases hbytes

end

/-! ### `bool` and `Option` -/

def bool : Codec Bool :=
  .tagged u8 (fun _ => True) (fun b => (if b then 1 else 0, []))
    [(0, return false), (1, return true)] fun byte => s!"Invalid bool representation: {byte}"

@[simp] theorem bool_fits (b : Bool) : bool.Fits b := trivial

theorem bool_exact : bool.Exact := by
  refine u8_exact.tagged (fun _ => u8_fits _) ⟨by decide, by simp, ?_, ?_⟩
  · rintro (_ | _)
    · exact .unit 0 rfl rfl
    · exact .unit 1 rfl rfl
  · simp only [List.forall_mem_cons]
    exact ⟨.unit rfl, .unit rfl, by simp⟩

def Codec.option (c : Codec α) : Codec (Option α) :=
  .tagged u8 (fun a => ∀ x ∈ a, c.Fits x)
    (fun a => match a with
      | none => (0, [])
      | some x => (1, [c.serialize x]))
    [(0, return none), (1, some <$> c.deserializeReader)] fun flag =>
      s!"Invalid Option representation: {flag}. The first byte must be 0 or 1"

@[simp] theorem Codec.option_fits {c : Codec α} {a : Option α} :
    c.option.Fits a ↔ ∀ x ∈ a, c.Fits x := .rfl

theorem Codec.Exact.option {c : Codec α} (hc : c.Exact) : c.option.Exact := by
  refine u8_exact.tagged (fun _ => u8_fits _) ⟨by simp, ?_, ?_, ?_⟩
  · rintro (_ | x)
    · simp
    · simp [hc.serialize_iff]
  · rintro (_ | x)
    · exact .unit 0 rfl rfl
    · exact .one hc 1 rfl rfl
  · simp only [List.forall_mem_cons]
    exact ⟨.unit rfl, .one hc fun _ => rfl, by simp⟩

end DoubleZero.Lib.Borsh
