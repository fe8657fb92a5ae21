import DoubleZero.Lib.Join
import DoubleZero.Passport.Effect

/-!
# Access modes as stored and as signed

A request keeps its access mode as bytes in a buffer of fixed size, whose rest stays zeroed. The
format says itself where it ends, so what stands behind it is never read. A validator signs the
access mode as text, in which the parts are told apart by a comma that no displayed key contains.
-/

namespace DoubleZero.Passport

open DoubleZero.Lib DoubleZero.Lib.Borsh DoubleZero.Solana

namespace AccessMode

/-- The keys in an access mode. -/
def keys (accessMode : AccessMode) : List Pubkey :=
  accessMode.attestation.validatorId :: accessMode.serviceKey ::
    match accessMode with
    | .solanaValidator _ => []
    | .solanaValidatorWithBackupIds _ backupIds => backupIds

/-- The backup IDs, if the access mode comes with any. -/
def backupIds? : AccessMode → Option (List Pubkey)
  | .solanaValidator _ => none
  | .solanaValidatorWithBackupIds _ backupIds => some backupIds

/-- The number of bytes in the encoding of an access mode. -/
def encodedLen : AccessMode → Nat
  | .solanaValidator _ => 129
  | .solanaValidatorWithBackupIds _ backupIds => 133 + 32 * backupIds.length

/-! ## Lengths -/

theorem pubkey_length : Pubkey.codec.Length fun _ => 32 := Codec.bigEndian_length

theorem attestation_length : SolanaValidatorAttestation.codec.Length fun _ => 128 := by
  have hsignature : (byteArray 64).Length fun _ => 64 := Codec.word_length
  intro attestation bytes hbytes
  exact Codec.Length.pair pubkey_length (Codec.Length.pair pubkey_length hsignature) hbytes

theorem backupIds_length : backupIdsCodec.Length fun backupIds => 4 + 32 * backupIds.length :=
  pubkey_length.vec

theorem codec_length : codec.Length encodedLen := by
  intro accessMode bytes hbytes
  obtain ⟨tag, fields, htag, hfields, rfl⟩ := concat_cons.1 hbytes
  have hone : tag.length = 1 := Codec.word_length htag
  cases accessMode with
  | solanaValidator attestation =>
    have hattestation := attestation_length (concat_singleton.1 hfields)
    rw [List.length_append, hone, hattestation]
    rfl
  | solanaValidatorWithBackupIds attestation backupIds =>
    obtain ⟨b₁, b₂, h₁, h₂, rfl⟩ := concat_cons.1 hfields
    have hattestation := attestation_length h₁
    have hbackup := backupIds_length (concat_singleton.1 h₂)
    dsimp only at hattestation hbackup
    rw [List.length_append, List.length_append, hone, hattestation, hbackup, encodedLen]
    omega

end AccessMode

/-! ## As stored -/

section

variable {accessMode : AccessMode} {buffer : Bytes}

theorem encodeAccessMode_eq_ok : AccessRequest.encodeAccessMode accessMode = .ok buffer ↔
    ∃ bytes, AccessMode.codec.serialize accessMode = .ok bytes ∧
      bytes.length ≤ REQUEST_ACCESS_MAX_DATA_SIZE ∧
      buffer = bytes ++ List.replicate (REQUEST_ACCESS_MAX_DATA_SIZE - bytes.length) 0#8 := by
  rw [AccessRequest.encodeAccessMode, Codec.toWriter_eq_ok, List.length_replicate]
  simp only [List.drop_replicate]

theorem encodeAccessMode_length (h : AccessRequest.encodeAccessMode accessMode = .ok buffer) :
    buffer.length = REQUEST_ACCESS_MAX_DATA_SIZE := by
  obtain ⟨bytes, -, hle, rfl⟩ := encodeAccessMode_eq_ok.1 h
  rw [List.length_append, List.length_replicate]
  omega

theorem checkedAccessMode_encoded (h : AccessRequest.encodeAccessMode accessMode = .ok buffer)
    {request : AccessRequest} (hbuffer : request.encodedAccessMode = buffer) :
    request.checkedAccessMode = some accessMode := by
  rw [AccessRequest.checkedAccessMode, hbuffer, toOption_eq_some]
  exact AccessMode.codec_exact.deserialize_toWriter h

theorem attestation_fits {attestation : SolanaValidatorAttestation}
    (hvalidator : attestation.validatorId.val < 256 ^ 32)
    (hservice : attestation.serviceKey.val < 256 ^ 32) :
    SolanaValidatorAttestation.codec.Fits attestation :=
  ⟨hvalidator, hservice, byteArray_fits _⟩

/-- An access mode whose keys are 32 bytes can be serialized, unless its backup IDs are too many to
count. -/
theorem accessMode_fits (hkeys : ∀ key ∈ accessMode.keys, key.val < 256 ^ 32) :
    AccessMode.codec.Fits accessMode ↔
      ∀ backupIds ∈ accessMode.backupIds?, backupIds.length < 2 ^ 32 := by
  cases accessMode with
  | solanaValidator attestation =>
    simp only [AccessMode.keys, List.forall_mem_cons] at hkeys
    obtain ⟨hvalidator, hservice, -⟩ := hkeys
    constructor
    · intro _ backupIds hbackup
      cases hbackup
    · exact fun _ => attestation_fits hvalidator hservice
  | solanaValidatorWithBackupIds attestation backupIds =>
    simp only [AccessMode.keys, List.forall_mem_cons] at hkeys
    obtain ⟨hvalidator, hservice, hids⟩ := hkeys
    constructor
    · rintro ⟨-, hlength, -⟩ _ hbackup
      obtain rfl := Option.some.inj hbackup
      exact hlength
    · exact fun h => ⟨attestation_fits hvalidator hservice, h backupIds rfl, hids⟩

/-- The write fails exactly when the encoding is longer than the buffer. -/
theorem encodeAccessMode_fails_iff (hkeys : ∀ key ∈ accessMode.keys, key.val < 256 ^ 32) :
    (¬∃ buffer, AccessRequest.encodeAccessMode accessMode = .ok buffer) ↔
      REQUEST_ACCESS_MAX_DATA_SIZE < accessMode.encodedLen := by
  rw [not_iff_comm, Nat.not_lt]
  constructor
  · intro hle
    -- an encoding this short has few backup IDs
    have hfits : AccessMode.codec.Fits accessMode := by
      rw [accessMode_fits hkeys]
      intro backupIds hbackup
      cases accessMode with
      | solanaValidator attestation => cases hbackup
      | solanaValidatorWithBackupIds attestation backupIds' =>
        obtain rfl := Option.some.inj hbackup
        simp only [AccessMode.encodedLen, REQUEST_ACCESS_MAX_DATA_SIZE] at hle
        omega
    obtain ⟨bytes, hbytes⟩ := AccessMode.codec_exact.serialize_iff.2 hfits
    have hlength := AccessMode.codec_length hbytes
    exact ⟨_, encodeAccessMode_eq_ok.2 ⟨bytes, hbytes, hlength ▸ hle, rfl⟩⟩
  · rintro ⟨buffer, hbuffer⟩
    obtain ⟨bytes, hbytes, hle, -⟩ := encodeAccessMode_eq_ok.1 hbuffer
    rwa [AccessMode.codec_length hbytes] at hle

/-- What `RequestAccess` stores. -/
theorem requestAccess_stored {rt : Runtime} {call : Call} {L L' : PassportLedger}
    (hdata : call.data = .requestAccess accessMode) (h : execute rt call L = .ok L') :
    ∃ request, view ID L' (rt.requestKey accessMode.serviceKey) =
        some ((request, []) : AccessRequest × List (BitVec 8)) ∧
      AccessRequest.encodeAccessMode accessMode = .ok request.encodedAccessMode := by
  obtain ⟨payer, deposit, L₁, request, hcreated, hencoded, rfl⟩ :=
    (execute_effect h).of_requestAccess hdata
  refine ⟨request, view_eq_some.2 ⟨?_, Ledger.write_data_self ..⟩, hencoded⟩
  rw [Ledger.write_owner, hcreated.account]

end

theorem storedAccessMode_decodes {accessMode : AccessMode}
    (hkeys : ∀ key ∈ accessMode.keys, key.val < 256 ^ 32) :
    ((¬∃ buffer, AccessRequest.encodeAccessMode accessMode = .ok buffer) ↔
        REQUEST_ACCESS_MAX_DATA_SIZE < accessMode.encodedLen) ∧
      (∀ bytes, AccessMode.codec.serialize accessMode = .ok bytes →
        bytes.length = accessMode.encodedLen) ∧
      (∀ buffer, AccessRequest.encodeAccessMode accessMode = .ok buffer →
        buffer.length = REQUEST_ACCESS_MAX_DATA_SIZE ∧
        (∃ bytes, AccessMode.codec.serialize accessMode = .ok bytes ∧
          buffer = bytes ++ List.replicate (REQUEST_ACCESS_MAX_DATA_SIZE - bytes.length) 0#8) ∧
        (∀ request : AccessRequest, request.encodedAccessMode = buffer →
          request.checkedAccessMode = some accessMode) ∧
        ∀ accessMode', AccessRequest.encodeAccessMode accessMode' = .ok buffer →
          accessMode' = accessMode) ∧
      ∀ (rt : Runtime) (call : Call) (L L' : PassportLedger),
        call.data = .requestAccess accessMode → execute rt call L = .ok L' →
        accessMode.encodedLen ≤ REQUEST_ACCESS_MAX_DATA_SIZE ∧
        ∃ request, view ID L' (rt.requestKey accessMode.serviceKey) =
            some ((request, []) : AccessRequest × List (BitVec 8)) ∧
          request.checkedAccessMode = some accessMode := by
  refine ⟨encodeAccessMode_fails_iff hkeys, fun bytes hbytes => AccessMode.codec_length hbytes,
    fun buffer hbuffer => ⟨encodeAccessMode_length hbuffer, ?_, ?_, ?_⟩, ?_⟩
  · obtain ⟨bytes, hbytes, -, heq⟩ := encodeAccessMode_eq_ok.1 hbuffer
    exact ⟨bytes, hbytes, heq⟩
  · exact fun request hrequest => checkedAccessMode_encoded hbuffer hrequest
  · intro accessMode' hbuffer'
    let request : AccessRequest := ⟨default, default, 0, buffer⟩
    have hread : request.checkedAccessMode = some accessMode :=
      checkedAccessMode_encoded hbuffer rfl
    have hread' : request.checkedAccessMode = some accessMode' :=
      checkedAccessMode_encoded hbuffer' rfl
    exact Option.some.inj (hread'.symm.trans hread)
  · intro rt call L L' hdata h
    obtain ⟨request, hview, hencoded⟩ := requestAccess_stored hdata h
    refine ⟨?_, request, hview, checkedAccessMode_encoded hencoded rfl⟩
    by_contra hlong
    exact (encodeAccessMode_fails_iff hkeys).2 (Nat.lt_of_not_le hlong) ⟨_, hencoded⟩

namespace Sample

def attestation : SolanaValidatorAttestation := ⟨⟨8⟩, ⟨14⟩, 77⟩

/-- The same, signed otherwise. -/
def resigned : SolanaValidatorAttestation := ⟨⟨8⟩, ⟨14⟩, 78⟩

/-- As many backup IDs as fit. -/
def backedUp : AccessMode :=
  .solanaValidatorWithBackupIds attestation (List.replicate 123 ⟨10⟩)

end Sample

theorem storedAccessMode_decodes_full :
    ∃ buffer, AccessRequest.encodeAccessMode Sample.backedUp = .ok buffer ∧
      ∀ request : AccessRequest, request.encodedAccessMode = buffer →
        request.checkedAccessMode = some Sample.backedUp := by
  have hkeys : ∀ key ∈ Sample.backedUp.keys, key.val < 256 ^ 32 := by decide +kernel
  have hdecodes := storedAccessMode_decodes hkeys
  have hfits : ¬REQUEST_ACCESS_MAX_DATA_SIZE < Sample.backedUp.encodedLen := by decide +kernel
  obtain ⟨buffer, hbuffer⟩ := not_not.1 (mt hdecodes.1.1 hfits)
  exact ⟨buffer, hbuffer, (hdecodes.2.2.1 buffer hbuffer).2.2.1⟩

/-! ## As signed -/

section

variable {display : Pubkey → String}

theorem toList_message (attestation : SolanaValidatorAttestation) :
    (AccessRequest.accessRequestMessage display (.solanaValidator attestation)).toList =
      "service_key=".toList ++ (display attestation.serviceKey).toList := by
  rw [AccessRequest.accessRequestMessage, String.toList_append]

theorem toList_message_backupIds (attestation : SolanaValidatorAttestation)
    (backupIds : List Pubkey) :
    (AccessRequest.accessRequestMessage display
      (.solanaValidatorWithBackupIds attestation backupIds)).toList =
      "service_key=".toList ++ ((display attestation.serviceKey).toList ++
        ',' :: ("backup_ids=".toList ++
          [','].intercalate (backupIds.map fun key => (display key).toList))) := by
  simp only [AccessRequest.accessRequestMessage, String.toList_append, String.toList_intercalate,
    List.map_map, List.append_assoc]
  rfl

theorem toList_display_injective (hinjective : Function.Injective display) :
    Function.Injective fun key => (display key).toList :=
  fun _ _ h => hinjective (String.toList_inj.1 h)

/-- The backup IDs are read off their joined text, none from none. -/
theorem backupIds_of_joined (hinjective : Function.Injective display)
    (hempty : ∀ key, display key ≠ "") (hcomma : ∀ key, ',' ∉ (display key).toList)
    {backupIds backupIds' : List Pubkey}
    (h : [','].intercalate (backupIds.map fun key => (display key).toList) =
      [','].intercalate (backupIds'.map fun key => (display key).toList)) :
    backupIds = backupIds' := by
  have hparts : ∀ keys : List Pubkey, ∀ part ∈ keys.map fun key => (display key).toList,
      part ≠ [] ∧ ',' ∉ part := by
    intro keys
    rw [List.forall_mem_map]
    exact fun key _ => ⟨fun hnil => hempty key (String.toList_eq_nil_iff.1 hnil), hcomma key⟩
  have hmaps := intercalate_inj (hparts backupIds) (hparts backupIds') h
  exact (toList_display_injective hinjective).list_map hmaps

end

theorem accessRequestMessage_unambiguous {display : Pubkey → String}
    (hinjective : Function.Injective display) (hempty : ∀ key, display key ≠ "")
    (hcomma : ∀ key, ',' ∉ (display key).toList) {a b : AccessMode}
    (h : AccessRequest.accessRequestMessage display a =
      AccessRequest.accessRequestMessage display b) :
    a.serviceKey = b.serviceKey ∧ a.backupIds? = b.backupIds? := by
  have hkey := toList_display_injective hinjective
  have hlist := congrArg String.toList h
  cases a with
  | solanaValidator attestation =>
    rw [toList_message] at hlist
    cases b with
    | solanaValidator attestation' =>
      rw [toList_message, List.append_cancel_left_eq] at hlist
      exact ⟨hkey hlist, rfl⟩
    | solanaValidatorWithBackupIds attestation' backupIds' =>
      rw [toList_message_backupIds, List.append_cancel_left_eq] at hlist
      exact absurd hlist (ne_append_cons (hcomma _))
  | solanaValidatorWithBackupIds attestation backupIds =>
    rw [toList_message_backupIds] at hlist
    cases b with
    | solanaValidator attestation' =>
      rw [toList_message, List.append_cancel_left_eq] at hlist
      exact absurd hlist.symm (ne_append_cons (hcomma _))
    | solanaValidatorWithBackupIds attestation' backupIds' =>
      rw [toList_message_backupIds, List.append_cancel_left_eq] at hlist
      obtain ⟨hservice, hrest⟩ := append_cons_inj (hcomma _) (hcomma _) hlist
      rw [List.append_cancel_left_eq] at hrest
      have hbackup := backupIds_of_joined hinjective hempty hcomma hrest
      exact ⟨hkey hservice, congrArg some hbackup⟩

/-- Keys are displayed in base 58. -/
example : toString ID = "dzpt2dM8g9qsLxpdddnVvKfjkCLVXd82jrrQVJigCPV" := by decide +kernel

/-- The signature is no part of what it signs. -/
theorem accessRequestMessage_unambiguous_resigned :
    (AccessMode.solanaValidatorWithBackupIds Sample.attestation [⟨10⟩, ⟨12⟩]).serviceKey =
        (AccessMode.solanaValidatorWithBackupIds Sample.resigned [⟨10⟩, ⟨12⟩]).serviceKey ∧
      (AccessMode.solanaValidatorWithBackupIds Sample.attestation [⟨10⟩, ⟨12⟩]).backupIds? =
        (AccessMode.solanaValidatorWithBackupIds Sample.resigned [⟨10⟩, ⟨12⟩]).backupIds? :=
  accessRequestMessage_unambiguous Pubkey.toString_injective Pubkey.toString_ne_empty
    (Pubkey.notMem_toString (by decide +kernel)) (by
      simp only [AccessRequest.accessRequestMessage, Sample.attestation, Sample.resigned])

end DoubleZero.Passport
