import DoubleZero.Lib.Pod
import DoubleZero.Solana.Processor
import DoubleZero.Solana.Wire

/-!
# Accounts as bytes

`zero_copy` on the bytes themselves: a discriminator, the block of a value behind it, and whatever
follows. The rest of the development keeps an account as a value instead of its bytes. `image` says
which bytes those are, and the theorems below that both sides agree: the checked readers find on the
image of an account what is stored there, and only that, and what is initialised or overwritten in
place is the image of the new value.
-/

namespace DoubleZero.Solana

open DoubleZero.Lib DoubleZero.Lib.Borsh

/-- A key as its 32 bytes. -/
def Pubkey.pod : Pod Pubkey := .bigEndian 32 Pubkey.val Pubkey.mk (fun _ => rfl) fun _ _ => rfl

/-- How the values of a program's types look in memory: the name behind the discriminator and the
block after it. -/
class Imaged (D : Type) [ZeroCopySum D] where
  name : D → String
  block : D → Bytes
  /-- The values whose fields have room in the block. -/
  Fits : D → Prop
  length_block : ∀ d, DISCRIMINATOR_LEN + (block d).length = ZeroCopySum.len d

/-- `T: Pod + PrecomputedDiscriminator`, with the layout of its fields. -/
class LaidOut (D T : Type) [ZeroCopySum D] [Imaged D] [ZeroCopy D T] [Inhabited T] where
  pod : Pod T
  size_eq : pod.size = ZeroCopy.size D T
  zero : pod.Zero default
  block_wrap : ∀ t : T, Imaged.block (wrap t : D) = pod.bytes t
  fits_wrap : ∀ t : T, Imaged.Fits (wrap t : D) ↔ pod.Fits t
  name_eq : ∀ d : D, Imaged.name d = ZeroCopy.discriminator D T ↔ ∃ t : T, d = wrap t

variable (sha256 : String → Bytes) {D : Type} [ZeroCopySum D] [Imaged D]

/-- `discriminator_slice`, by the name. -/
def discriminatorSlice (name : String) : Bytes :=
  toLE DISCRIMINATOR_LEN (Discriminator.newSha2 sha256 name).toNat

@[simp] theorem length_discriminatorSlice (name : String) :
    (discriminatorSlice sha256 name).length = DISCRIMINATOR_LEN := length_toLE _ _

/-- The discriminators tell the types apart, and none is what an unused account has. -/
structure Discriminating (D : Type) [ZeroCopySum D] [Imaged D] : Prop where
  injective : ∀ d d' : D,
    discriminatorSlice sha256 (Imaged.name d) = discriminatorSlice sha256 (Imaged.name d') →
      Imaged.name d = Imaged.name d'
  nonzero : ∀ d : D,
    discriminatorSlice sha256 (Imaged.name d) ≠ List.replicate DISCRIMINATOR_LEN 0#8

namespace AccountData

/-- The bytes of an account the program can have; of other data nothing is said. -/
def image : AccountData D → Option Bytes
  | .zeroed len => some (List.replicate len 0#8)
  | .zeroCopy d remainingData =>
    some (discriminatorSlice sha256 (Imaged.name d) ++ Imaged.block d ++ remainingData)
  | _ => none

/-- What is stored has room where it is stored. -/
def Fits : AccountData D → Prop
  | .zeroCopy d _ => Imaged.Fits d
  | _ => True

theorem length_image {data : AccountData D} {bytes : Bytes} (h : data.image sha256 = some bytes) :
    bytes.length = data.dataLen := by
  cases data with
  | zeroed len => cases h; exact List.length_replicate
  | zeroCopy d remainingData =>
    cases h
    rw [List.length_append, List.length_append, length_discriminatorSlice, Imaged.length_block]
    rfl
  | _ => cases h

end AccountData

/-! ## The functions of `zero_copy` -/

section

variable (D) (T : Type) [ZeroCopy D T]

/-- `has_discriminator`. -/
def hasDiscriminator (data : Bytes) : Bool :=
  DISCRIMINATOR_LEN ≤ data.length ∧
    data.take DISCRIMINATOR_LEN = discriminatorSlice sha256 (ZeroCopy.discriminator D T)

/-- `RefSplit` and `RefMutSplit`: the three parts of the data of an account. -/
structure RefSplit where
  discriminator : Bytes
  muckedData : Bytes
  remainingData : Bytes

/-- The whole data again. -/
def RefSplit.data (split : RefSplit) : Bytes :=
  split.discriminator ++ split.muckedData ++ split.remainingData

/-- `try_new` of both. -/
def RefSplit.tryNew (data : Bytes) : Except ProgramError RefSplit :=
  if data.length < dataEnd D T then .error .accountDataTooSmall
  else
    let leftData := data.take (dataEnd D T)
    .ok ⟨leftData.take DISCRIMINATOR_LEN, leftData.drop DISCRIMINATOR_LEN,
      data.drop (dataEnd D T)⟩

variable [Inhabited T] [LaidOut D T]

/-- `checked_from_bytes_with_discriminator`. -/
def checkedFromBytesWithDiscriminator (data : Bytes) : Option (T × Bytes) :=
  if dataEnd D T ≤ data.length then
    let accountData := data.take (dataEnd D T)
    if hasDiscriminator sha256 D T accountData then
      ((LaidOut.pod D).read (accountData.drop DISCRIMINATOR_LEN)).map fun t =>
        (t, data.drop (dataEnd D T))
    else none
  else none

/-- `try_from_account_info` of both account wrappers, on data of an account with the right owner:
the parts through which the value is read and overwritten. -/
def tryFromAccountData (data : Bytes) : Except ProgramError RefSplit :=
  match RefSplit.tryNew D T data with
  | .ok split =>
    if hasDiscriminator sha256 D T split.discriminator then .ok split
    else .error .invalidAccountData
  | .error e => .error e

/-- `try_initialize`: the discriminator is written where there was none. -/
def tryInitializeData (data : Bytes) : Except ProgramError RefSplit :=
  match RefSplit.tryNew D T data with
  | .ok split =>
    if split.discriminator ≠ List.replicate DISCRIMINATOR_LEN 0#8 then .error .invalidAccountData
    else .ok { split with
      discriminator := discriminatorSlice sha256 (ZeroCopy.discriminator D T) }
  | .error e => .error e

end

/-- A value assigned through the view of it, and bytes after it changed. -/
def RefSplit.assign {T : Type} [ZeroCopy D T] [Inhabited T] [LaidOut D T] (split : RefSplit) (t : T)
    (remainingData : Bytes) : RefSplit :=
  ⟨split.discriminator, (LaidOut.pod D).write t split.muckedData, remainingData⟩

/-- `AccountInfo::resize` to a greater length. -/
def resizeData (data : Bytes) (newLen : Nat) : Except ProgramError Bytes :=
  if newLen - data.length ≤ MAX_PERMITTED_DATA_INCREASE then
    .ok (data ++ List.replicate (newLen - data.length) 0#8)
  else .error .invalidRealloc

section

variable {sha256} {D T : Type} [ZeroCopy D T]

theorem RefSplit.tryNew_eq_ok {data : Bytes} {split : RefSplit} :
    RefSplit.tryNew D T data = .ok split ↔
      data = split.data ∧ split.discriminator.length = DISCRIMINATOR_LEN ∧
        split.muckedData.length = ZeroCopy.size D T := by
  unfold RefSplit.tryNew RefSplit.data
  constructor
  · intro h
    split at h
    · cases h
    · next hlt =>
      cases h
      have hle := Nat.le_of_not_lt hlt
      refine ⟨?_, ?_, ?_⟩
      · rw [List.take_append_drop, List.take_append_drop]
      · simp only [dataEnd] at hle ⊢
        rw [List.length_take, List.length_take]
        omega
      · simp only [dataEnd] at hle ⊢
        rw [List.length_drop, List.length_take]
        omega
  · rintro ⟨rfl, hdisc, hmucked⟩
    have hleft : (split.discriminator ++ split.muckedData).length = dataEnd D T := by
      rw [List.length_append, hdisc, hmucked, dataEnd]
    rw [if_neg (by rw [List.length_append, hleft]; omega), List.take_left' hleft,
      List.drop_left' hleft]
    dsimp only
    rw [List.take_left' hdisc, List.drop_left' hdisc]

theorem hasDiscriminator_iff {data : Bytes} (h : data.length = DISCRIMINATOR_LEN) :
    hasDiscriminator sha256 D T data = true ↔
      data = discriminatorSlice sha256 (ZeroCopy.discriminator D T) := by
  rw [hasDiscriminator, decide_eq_true_iff, List.take_of_length_le h.le]
  simp [h]

theorem tryFromAccountData_eq_ok {data : Bytes} {split : RefSplit} :
    tryFromAccountData sha256 D T data = .ok split ↔
      data = split.data ∧ split.muckedData.length = ZeroCopy.size D T ∧
        split.discriminator = discriminatorSlice sha256 (ZeroCopy.discriminator D T) := by
  unfold tryFromAccountData
  cases hnew : RefSplit.tryNew D T data with
  | error e =>
    simp only [reduceCtorEq, false_iff]
    rintro ⟨hdata, hmucked, hdisc⟩
    have := RefSplit.tryNew_eq_ok.2 ⟨hdata, by rw [hdisc]; simp, hmucked⟩
    rw [hnew] at this
    cases this
  | ok split' =>
    obtain ⟨hdata', hdisc', hmucked'⟩ := RefSplit.tryNew_eq_ok.1 hnew
    constructor
    · intro h
      dsimp only at h
      split at h
      · next hhas =>
        cases h
        exact ⟨hdata', hmucked', (hasDiscriminator_iff hdisc').1 hhas⟩
      · cases h
    · rintro ⟨hdata, hmucked, hdisc⟩
      have hnew' := RefSplit.tryNew_eq_ok.2 ⟨hdata, by rw [hdisc]; simp, hmucked⟩
      cases hnew.symm.trans hnew'
      exact if_pos ((hasDiscriminator_iff hdisc').2 hdisc)

theorem tryInitializeData_eq_ok {data : Bytes} {split : RefSplit} :
    tryInitializeData sha256 D T data = .ok split ↔
      data = List.replicate DISCRIMINATOR_LEN 0#8 ++ split.muckedData ++ split.remainingData ∧
        split.muckedData.length = ZeroCopy.size D T ∧
        split.discriminator = discriminatorSlice sha256 (ZeroCopy.discriminator D T) := by
  unfold tryInitializeData
  constructor
  · intro h
    cases hnew : RefSplit.tryNew D T data with
    | error e => simp [hnew] at h
    | ok split' =>
      obtain ⟨hdata, -, hmucked⟩ := RefSplit.tryNew_eq_ok.1 hnew
      simp only [hnew] at h
      split at h
      · cases h
      · next hzero =>
        cases h
        rw [not_not] at hzero
        exact ⟨by rw [← hzero]; exact hdata, hmucked, rfl⟩
  · rintro ⟨hdata, hmucked, hdisc⟩
    have hnew : RefSplit.tryNew D T data = .ok { split with
        discriminator := List.replicate DISCRIMINATOR_LEN 0#8 } :=
      RefSplit.tryNew_eq_ok.2 ⟨hdata, List.length_replicate, hmucked⟩
    simp [hnew, ← hdisc]

end

section

variable {sha256} {T : Type} [ZeroCopy D T] [Inhabited T] [LaidOut D T]

/-- The reader of clients and the account wrappers agree. -/
theorem checkedFromBytes_eq_some {data remainingData : Bytes} {t : T} :
    checkedFromBytesWithDiscriminator sha256 D T data = some (t, remainingData) ↔
      ∃ split, tryFromAccountData sha256 D T data = .ok split ∧
        (LaidOut.pod D).read split.muckedData = some t ∧ split.remainingData = remainingData := by
  unfold checkedFromBytesWithDiscriminator
  constructor
  · intro h
    split at h
    · next hle =>
      dsimp only at h
      split at h
      · next hhas =>
        obtain ⟨t', hread, ht'⟩ := Option.map_eq_some_iff.1 h
        cases ht'
        rw [hasDiscriminator, decide_eq_true_iff] at hhas
        have hleft : (data.take (dataEnd D T)).length = DISCRIMINATOR_LEN + ZeroCopy.size D T := by
          rw [List.length_take, Nat.min_eq_left hle, dataEnd]
        refine ⟨⟨_, _, _⟩, tryFromAccountData_eq_ok.2 ⟨?_, ?_, hhas.2⟩, hread, rfl⟩
        · show data = _ ++ _ ++ _
          rw [List.take_append_drop, List.take_append_drop]
        · rw [List.length_drop, hleft, Nat.add_sub_cancel_left]
      · cases h
    · cases h
  · rintro ⟨split, hsplit, hread, rfl⟩
    obtain ⟨rfl, hmucked, hdisc⟩ := tryFromAccountData_eq_ok.1 hsplit
    have hlength : split.discriminator.length = DISCRIMINATOR_LEN := by rw [hdisc]; simp
    have hleft : (split.discriminator ++ split.muckedData).length = dataEnd D T := by
      rw [List.length_append, hlength, hmucked, dataEnd]
    have hhas : hasDiscriminator sha256 D T (split.discriminator ++ split.muckedData) = true := by
      rw [hasDiscriminator, decide_eq_true_iff, List.take_left' hlength, List.length_append]
      exact ⟨by omega, hdisc⟩
    rw [RefSplit.data, if_pos (by rw [List.length_append]; omega)]
    dsimp only
    rw [List.take_left' hleft, List.drop_left' hleft, if_pos hhas, List.drop_left' hlength, hread]
    rfl

end

/-! ## On images -/

section

variable {sha256} {T : Type} [ZeroCopy D T] [Inhabited T] [LaidOut D T]
variable {data : AccountData D} {bytes : Bytes} {split : RefSplit}

theorem LaidOut.name_wrap (t : T) :
    Imaged.name (wrap t : D) = ZeroCopy.discriminator D T := (LaidOut.name_eq _).2 ⟨t, rfl⟩

theorem LaidOut.length_bytes (t : T) :
    ((LaidOut.pod D).bytes t).length = ZeroCopy.size D T := by
  rw [Pod.length_bytes, LaidOut.size_eq]

theorem AccountData.image_wrap (t : T) (rem : Bytes) :
    (AccountData.zeroCopy (wrap t) rem : AccountData D).image sha256 =
      some (discriminatorSlice sha256 (ZeroCopy.discriminator D T) ++ (LaidOut.pod D).bytes t ++
        rem) := by
  rw [AccountData.image, LaidOut.name_wrap, LaidOut.block_wrap]

/-- No discriminator is found in zeros. -/
theorem Discriminating.ne_zeros (h : Discriminating sha256 D) (T : Type) [ZeroCopy D T]
    [Inhabited T] [LaidOut D T] {len : Nat} {rest : Bytes} :
    List.replicate len 0#8 ≠ discriminatorSlice sha256 (ZeroCopy.discriminator D T) ++ rest := by
  intro heq
  obtain ⟨-, hslice, -⟩ := List.replicate_eq_append_iff.1 heq
  rw [length_discriminatorSlice, ← LaidOut.name_wrap (default : T)] at hslice
  exact h.nonzero _ hslice

/-- Data with the discriminator of `T` holds a value of `T`. -/
theorem Discriminating.eq_wrap (h : Discriminating sha256 D) {d : D}
    (hslice : discriminatorSlice sha256 (Imaged.name d) =
      discriminatorSlice sha256 (ZeroCopy.discriminator D T)) : ∃ t : T, d = wrap t := by
  rw [← LaidOut.name_wrap (default : T)] at hslice
  rw [← LaidOut.name_eq, h.injective _ _ hslice, LaidOut.name_wrap]

/-- The account wrappers take what is stored, and nothing else. -/
theorem tryFromAccountData_image (h : Discriminating sha256 D)
    (himage : data.image sha256 = some bytes) :
    tryFromAccountData sha256 D T bytes = .ok split ↔
      ∃ (t : T) (rem : Bytes), data = .zeroCopy (wrap t) rem ∧
        split = ⟨discriminatorSlice sha256 (ZeroCopy.discriminator D T), (LaidOut.pod D).bytes t,
          rem⟩ := by
  rw [tryFromAccountData_eq_ok]
  constructor
  · rintro ⟨hbytes, hmucked, hdisc⟩
    rw [RefSplit.data, hdisc, List.append_assoc] at hbytes
    cases data with
    | zeroed len =>
      cases himage
      exact absurd hbytes (h.ne_zeros T)
    | zeroCopy d rem =>
      cases himage
      rw [List.append_assoc] at hbytes
      obtain ⟨hslice, hrest⟩ := List.append_inj hbytes (by simp)
      obtain ⟨t, rfl⟩ := h.eq_wrap hslice
      rw [LaidOut.block_wrap] at hrest
      obtain ⟨hblock, hrem⟩ := List.append_inj hrest (by rw [LaidOut.length_bytes, hmucked])
      refine ⟨t, rem, rfl, ?_⟩
      rw [← hdisc, hblock, hrem]
    | _ => cases himage
  · rintro ⟨t, rem, rfl, rfl⟩
    rw [AccountData.image_wrap] at himage
    exact ⟨(Option.some.inj himage).symm, LaidOut.length_bytes t, rfl⟩

/-- What a client reads off the bytes is what is stored, if the bytes of the fields spell it. -/
theorem checkedFromBytes_image (h : Discriminating sha256 D)
    (himage : data.image sha256 = some bytes) (hfits : data.Fits) {t : T} {rem : Bytes} :
    checkedFromBytesWithDiscriminator sha256 D T bytes = some (t, rem) ↔
      data = .zeroCopy (wrap t) rem := by
  rw [checkedFromBytes_eq_some]
  constructor
  · rintro ⟨split, hsplit, hread, hrem⟩
    obtain ⟨t', rem', hdata, rfl⟩ := (tryFromAccountData_image h himage).1 hsplit
    rw [hdata] at hfits
    rw [Pod.read_bytes _ ((LaidOut.fits_wrap t').1 hfits)] at hread
    cases hread
    rw [hdata, ← hrem]
  · rintro rfl
    exact ⟨_, (tryFromAccountData_image h himage).2 ⟨t, rem, rfl, rfl⟩,
      Pod.read_bytes _ ((LaidOut.fits_wrap t).1 hfits), rfl⟩

theorem checkedFromBytes_view (h : Discriminating sha256 D) {programId : Pubkey} {L : Ledger D}
    {k : Pubkey} (howner : (L k).owner = programId) (himage : (L k).data.image sha256 = some bytes)
    (hfits : (L k).data.Fits) :
    checkedFromBytesWithDiscriminator sha256 D T bytes = view programId L k := by
  apply Option.ext
  rintro ⟨t, rem⟩
  rw [checkedFromBytes_image h himage hfits, view_eq_some, and_iff_right howner]

/-- Assigning through the view is storing. -/
theorem assign_image (h : Discriminating sha256 D) (himage : data.image sha256 = some bytes)
    (hsplit : tryFromAccountData sha256 D T bytes = .ok split) (t : T) (rem : Bytes) :
    (AccountData.zeroCopy (wrap t) rem : AccountData D).image sha256 =
      some (split.assign (D := D) t rem).data := by
  obtain ⟨t', rem', -, rfl⟩ := (tryFromAccountData_image h himage).1 hsplit
  rw [AccountData.image_wrap, RefSplit.assign, Pod.write_bytes]
  rfl

/-- Only zeroed data long enough is initialised, and what is assigned then is stored. -/
theorem tryInitializeData_image (h : Discriminating sha256 D)
    (himage : data.image sha256 = some bytes) :
    tryInitializeData sha256 D T bytes = .ok split ↔
      ∃ len, data = .zeroed len ∧ dataEnd D T ≤ len ∧
        split = ⟨discriminatorSlice sha256 (ZeroCopy.discriminator D T),
          (LaidOut.pod D (T := T)).zeros, List.replicate (len - dataEnd D T) 0#8⟩ := by
  rw [tryInitializeData_eq_ok]
  constructor
  · rintro ⟨hbytes, hmucked, hdisc⟩
    rw [List.append_assoc] at hbytes
    cases data with
    | zeroed len =>
      cases himage
      obtain ⟨hlen, -, hrest⟩ := List.replicate_eq_append_iff.1 hbytes
      obtain ⟨hlen', hzeros, hrem⟩ := List.replicate_eq_append_iff.1 hrest.symm
      rw [List.length_replicate, List.length_append, hmucked] at hlen
      rw [hmucked, ← LaidOut.size_eq] at hzeros
      refine ⟨len, rfl, by rw [dataEnd]; omega, ?_⟩
      rw [← hdisc, Pod.zeros, ← hzeros, dataEnd, show len - (DISCRIMINATOR_LEN +
        ZeroCopy.size D T) = split.remainingData.length by omega, ← hrem]
    | zeroCopy d rem =>
      cases himage
      rw [List.append_assoc] at hbytes
      exact absurd (List.append_inj hbytes (by simp)).1 (h.nonzero d)
    | _ => cases himage
  · rintro ⟨len, rfl, hle, rfl⟩
    cases himage
    refine ⟨?_, by rw [Pod.length_zeros, LaidOut.size_eq], rfl⟩
    rw [Pod.zeros, LaidOut.size_eq, List.replicate_append_replicate,
      List.replicate_append_replicate, ← dataEnd, Nat.add_sub_cancel' hle]

theorem initialize_image (h : Discriminating sha256 D) (himage : data.image sha256 = some bytes)
    (hsplit : tryInitializeData sha256 D T bytes = .ok split) (t : T) (rem : Bytes) :
    (AccountData.zeroCopy (wrap t) rem : AccountData D).image sha256 =
      some (split.assign (D := D) t rem).data := by
  obtain ⟨len, -, -, rfl⟩ := (tryInitializeData_image h himage).1 hsplit
  rw [AccountData.image_wrap]
  rfl

/-- Growing the data of an account with a value grows what follows the value. -/
theorem resizeData_image {d : D} {rem bytes' : Bytes} {newLen : Nat}
    (himage : (AccountData.zeroCopy d rem).image sha256 = some bytes) :
    resizeData bytes newLen = .ok bytes' ↔
      newLen - (AccountData.zeroCopy d rem).dataLen ≤ MAX_PERMITTED_DATA_INCREASE ∧
        (AccountData.zeroCopy d (rem ++ List.replicate
          (newLen - (AccountData.zeroCopy d rem).dataLen) 0#8)).image sha256 = some bytes' := by
  rw [resizeData, AccountData.length_image sha256 himage]
  cases himage
  split
  · next hle => simp [AccountData.image, hle]
  · next hgt => simp [hgt]

end

/-! ## Runs -/

section

variable (D)

/-- What the program does to the bytes of an account it owns: a value is assigned to a new account,
or assigned again with the bytes after it, or the data grows. -/
inductive ImageStep : Bytes → Bytes → Prop
  | create {T : Type} [ZeroCopy D T] [Inhabited T] [LaidOut D T] {data : Bytes}
      {split : RefSplit} {t : T} (taken : tryInitializeData sha256 D T data = .ok split)
      (fits : Imaged.Fits (wrap t : D)) :
      ImageStep data (split.assign (D := D) t split.remainingData).data
  | assign {T : Type} [ZeroCopy D T] [Inhabited T] [LaidOut D T] {data remainingData : Bytes}
      {split : RefSplit} {t : T} (taken : tryFromAccountData sha256 D T data = .ok split)
      (fits : Imaged.Fits (wrap t : D))
      (length : remainingData.length = split.remainingData.length) :
      ImageStep data (split.assign (D := D) t remainingData).data
  | resize {data data' : Bytes} {newLen : Nat} (resized : resizeData data newLen = .ok data') :
      ImageStep data data'

variable {D}

/-- The same for an account kept as a value. -/
inductive DataStep : AccountData D → AccountData D → Prop
  | create {T : Type} [ZeroCopy D T] [Inhabited T] [LaidOut D T] {len : Nat} {t : T}
      (enough : dataEnd D T ≤ len) (fits : Imaged.Fits (wrap t : D)) :
      DataStep (.zeroed len) (.zeroCopy (wrap t) (List.replicate (len - dataEnd D T) 0#8))
  | assign {T : Type} [ZeroCopy D T] [Inhabited T] [LaidOut D T] {t t' : T} {rem rem' : Bytes}
      (fits : Imaged.Fits (wrap t' : D)) (length : rem'.length = rem.length) :
      DataStep (.zeroCopy (wrap t) rem) (.zeroCopy (wrap t') rem')
  | resizeZeroed {len newLen : Nat} (growth : newLen - len ≤ MAX_PERMITTED_DATA_INCREASE) :
      DataStep (.zeroed len) (.zeroed (len + (newLen - len)))
  | resize {d : D} {rem : Bytes} {newLen : Nat}
      (growth : newLen - (AccountData.zeroCopy d rem).dataLen ≤ MAX_PERMITTED_DATA_INCREASE) :
      DataStep (.zeroCopy d rem)
        (.zeroCopy d (rem ++ List.replicate (newLen - (AccountData.zeroCopy d rem).dataLen) 0#8))

variable {sha256} {data data' : AccountData D} {bytes bytes' : Bytes}

theorem ImageStep.simulated (h : Discriminating sha256 D) (himage : data.image sha256 = some bytes)
    (hstep : ImageStep sha256 D bytes bytes') :
    ∃ data', DataStep data data' ∧ data'.image sha256 = some bytes' := by
  cases hstep with
  | create taken fits =>
    obtain ⟨len, rfl, hle, rfl⟩ := (tryInitializeData_image h himage).1 taken
    exact ⟨_, .create hle fits, initialize_image h himage taken _ _⟩
  | assign taken fits length =>
    obtain ⟨t, rem, rfl, rfl⟩ := (tryFromAccountData_image h himage).1 taken
    exact ⟨_, .assign fits length, assign_image h himage taken _ _⟩
  | @resize _ _ newLen resized =>
    cases data with
    | zeroed len =>
      cases himage
      rw [resizeData, List.length_replicate] at resized
      split at resized
      · next hgrowth =>
        cases resized
        exact ⟨_, .resizeZeroed hgrowth, by rw [AccountData.image, List.replicate_append_replicate]⟩
      · cases resized
    | zeroCopy d rem =>
      obtain ⟨hgrowth, himage'⟩ := (resizeData_image himage).1 resized
      exact ⟨_, .resize hgrowth, himage'⟩
    | _ => cases himage

theorem DataStep.simulated (h : Discriminating sha256 D) (himage : data.image sha256 = some bytes)
    (hstep : DataStep data data') :
    ∃ bytes', ImageStep sha256 D bytes bytes' ∧ data'.image sha256 = some bytes' := by
  cases hstep with
  | create enough fits =>
    have htaken := (tryInitializeData_image h himage).2 ⟨_, rfl, enough, rfl⟩
    exact ⟨_, .create htaken fits, initialize_image h himage htaken _ _⟩
  | @assign _ _ _ _ t t' rem rem' fits length =>
    have htaken := (tryFromAccountData_image h himage).2 ⟨t, rem, rfl, rfl⟩
    exact ⟨_, .assign htaken fits length, assign_image h himage htaken _ _⟩
  | @resizeZeroed len newLen growth =>
    cases himage
    have hresized : resizeData (List.replicate len 0#8) newLen =
        .ok (List.replicate (len + (newLen - len)) 0#8) := by
      rw [resizeData, List.length_replicate, if_pos growth, List.replicate_append_replicate]
    exact ⟨_, .resize hresized, rfl⟩
  | resize growth => exact ⟨_, .resize ((resizeData_image himage).2 ⟨growth, rfl⟩), rfl⟩

theorem ImageStep.simulated_run (h : Discriminating sha256 D)
    (himage : data.image sha256 = some bytes)
    (hrun : Relation.ReflTransGen (ImageStep sha256 D) bytes bytes') :
    ∃ data', Relation.ReflTransGen DataStep data data' ∧ data'.image sha256 = some bytes' := by
  induction hrun with
  | refl => exact ⟨data, .refl, himage⟩
  | tail _ hstep ih =>
    obtain ⟨data₁, hdata₁, himage₁⟩ := ih
    obtain ⟨data', hstep', himage'⟩ := hstep.simulated h himage₁
    exact ⟨data', hdata₁.tail hstep', himage'⟩

theorem DataStep.simulated_run (h : Discriminating sha256 D)
    (himage : data.image sha256 = some bytes) (hrun : Relation.ReflTransGen DataStep data data') :
    ∃ bytes', Relation.ReflTransGen (ImageStep sha256 D) bytes bytes' ∧
      data'.image sha256 = some bytes' := by
  induction hrun with
  | refl => exact ⟨bytes, .refl, himage⟩
  | tail _ hstep ih =>
    obtain ⟨bytes₁, hbytes₁, himage₁⟩ := ih
    obtain ⟨bytes', hstep', himage'⟩ := hstep.simulated h himage₁
    exact ⟨bytes', hbytes₁.tail hstep', himage'⟩

theorem DataStep.fits_run (hfits : data.Fits) (hrun : Relation.ReflTransGen DataStep data data') :
    data'.Fits := by
  induction hrun with
  | refl => exact hfits
  | tail _ hstep ih =>
    cases hstep with
    | create _ fits => exact fits
    | assign fits _ => exact fits
    | resizeZeroed _ => exact ih
    | resize _ => exact ih

/-- `bytes` are the bytes of an account with this data, for the program and for clients. -/
structure Shows (sha256 : String → Bytes) (data : AccountData D) (bytes : Bytes) : Prop where
  image : data.image sha256 = some bytes
  read : ∀ (T : Type) [ZeroCopy D T] [Inhabited T] [LaidOut D T] (t : T) (rem : Bytes),
    checkedFromBytesWithDiscriminator sha256 D T bytes = some (t, rem) ↔
      data = .zeroCopy (wrap t) rem

theorem Shows.of_image (h : Discriminating sha256 D) (himage : data.image sha256 = some bytes)
    (hfits : data.Fits) : Shows sha256 data bytes :=
  ⟨himage, fun _ _ _ _ _ _ => checkedFromBytes_image h himage hfits⟩

/-- Working on the bytes of an account in place and replacing the value of an account have the same
runs. The padding never shows: what is read in the end is what was assigned last, as the type it was
created with and as no other. -/
theorem zeroCopy_runs (h : Discriminating sha256 D) (len : Nat) :
    (∀ bytes, Relation.ReflTransGen (ImageStep sha256 D) (List.replicate len 0#8) bytes →
      ∃ data : AccountData D, Relation.ReflTransGen DataStep (.zeroed len) data ∧
        Shows sha256 data bytes) ∧
    ∀ data : AccountData D, Relation.ReflTransGen DataStep (.zeroed len) data →
      ∃ bytes, Relation.ReflTransGen (ImageStep sha256 D) (List.replicate len 0#8) bytes ∧
        Shows sha256 data bytes := by
  have hzeroed : (AccountData.zeroed len : AccountData D).image sha256 =
      some (List.replicate len 0#8) := rfl
  have hfits : (AccountData.zeroed len : AccountData D).Fits := trivial
  constructor
  · intro bytes hrun
    obtain ⟨data, hdata, himage⟩ := ImageStep.simulated_run h hzeroed hrun
    exact ⟨data, hdata, .of_image h himage (DataStep.fits_run hfits hdata)⟩
  · intro data hrun
    obtain ⟨bytes, hbytes, himage⟩ := DataStep.simulated_run h hzeroed hrun
    exact ⟨bytes, hbytes, .of_image h himage (DataStep.fits_run hfits hrun)⟩

end

end DoubleZero.Solana
