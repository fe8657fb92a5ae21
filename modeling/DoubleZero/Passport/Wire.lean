import DoubleZero.Passport.Instruction
import DoubleZero.Solana.Wire

/-!
# Passport instruction data as bytes

The hand-written codec of `passport/src/instruction/mod.rs` and the derived ones it nests, in the
form of the revenue program's: `written` for the serializer and `arms` for the reader.
-/

namespace DoubleZero.Passport

open DoubleZero.Lib.Borsh DoubleZero.Solana

/-! ## Nested data -/

namespace ProgramFlagConfiguration

def written : ProgramFlagConfiguration → UInt8 × List Written
  | .isPaused shouldPause => (0, [bool.serialize shouldPause])
  | .isRequestAccessPaused shouldPause => (1, [bool.serialize shouldPause])

def arms : List (UInt8 × Reader ProgramFlagConfiguration) :=
  [(0, isPaused <$> bool.deserializeReader), (1, isRequestAccessPaused <$> bool.deserializeReader)]

def codec : Codec ProgramFlagConfiguration := .tagged u8 (fun _ => True) written arms unexpectedTag

theorem codec_exact : codec.Exact := by
  refine u8_exact.tagged (fun _ => u8_fits _) ⟨by decide, ?_, ?_, ?_⟩
  · intro configuration
    cases configuration with
    | _ => simp [written, bool_exact.serialize_iff]
  · intro configuration
    cases configuration with
    | isPaused => exact .one bool_exact 0 rfl rfl
    | isRequestAccessPaused => exact .one bool_exact 1 rfl rfl
  · simp only [arms, List.forall_mem_cons]
    exact ⟨.one bool_exact fun _ => rfl, .one bool_exact fun _ => rfl, by simp⟩

end ProgramFlagConfiguration

namespace ProgramConfiguration

def Fits : ProgramConfiguration → Prop
  | .doubleZeroLedgerSentinel sentinelKey => Pubkey.codec.Fits sentinelKey
  | _ => True

def written : ProgramConfiguration → UInt8 × List Written
  | .flag configuration => (0, [ProgramFlagConfiguration.codec.serialize configuration])
  | .doubleZeroLedgerSentinel sentinelKey => (1, [Pubkey.codec.serialize sentinelKey])
  | .accessRequestDeposit requestDepositLamports requestFeeLamports =>
    (2, [u64.serialize requestDepositLamports, u64.serialize requestFeeLamports])
  | .solanaValidatorBackupIdsLimit limit => (3, [u16.serialize limit])

def arms : List (UInt8 × Reader ProgramConfiguration) :=
  [(0, flag <$> ProgramFlagConfiguration.codec.deserializeReader),
    (1, doubleZeroLedgerSentinel <$> Pubkey.codec.deserializeReader),
    (2, do
      let requestDepositLamports ← u64.deserializeReader
      let requestFeeLamports ← u64.deserializeReader
      return accessRequestDeposit requestDepositLamports requestFeeLamports),
    (3, solanaValidatorBackupIdsLimit <$> u16.deserializeReader)]

def codec : Codec ProgramConfiguration := .tagged u8 Fits written arms unexpectedTag

theorem codec_exact : codec.Exact := by
  have hflag := ProgramFlagConfiguration.codec_exact
  have hkey := Pubkey.codec_exact
  refine u8_exact.tagged (fun _ => u8_fits _) ⟨by decide, ?_, ?_, ?_⟩
  · intro setting
    cases setting with
    | flag =>
      simp only [written, Fits, List.forall_mem_singleton, hflag.serialize_iff]
      exact .rfl
    | _ =>
      simp [written, Fits, hkey.serialize_iff, u16_exact.serialize_iff, u64_exact.serialize_iff]
  · intro setting
    cases setting with
    | flag => exact .one hflag 0 rfl rfl
    | doubleZeroLedgerSentinel => exact .one hkey 1 rfl rfl
    | accessRequestDeposit => exact .two u64_exact u64_exact 2 rfl rfl
    | solanaValidatorBackupIdsLimit => exact .one u16_exact 3 rfl rfl
  · simp only [arms, List.forall_mem_cons]
    exact ⟨.one hflag fun _ => rfl, .one hkey fun _ => rfl,
      .two u64_exact u64_exact fun _ _ => rfl, .one u16_exact fun _ => rfl, by simp⟩

end ProgramConfiguration

namespace SolanaValidatorAttestation

def codec : Codec SolanaValidatorAttestation :=
  (Pubkey.codec.pair (Pubkey.codec.pair (byteArray 64))).iso
    (fun attestation =>
      (attestation.validatorId, attestation.serviceKey, attestation.ed25519Signature))
    fun (validatorId, serviceKey, ed25519Signature) => ⟨validatorId, serviceKey, ed25519Signature⟩

theorem codec_exact : codec.Exact :=
  (Pubkey.codec_exact.pair (Pubkey.codec_exact.pair (byteArray_exact 64))).iso (fun _ => rfl)
    fun _ => rfl

end SolanaValidatorAttestation

namespace AccessMode

def backupIdsCodec : Codec (List Pubkey) := Pubkey.codec.vec

def Fits : AccessMode → Prop
  | .solanaValidator attestation => SolanaValidatorAttestation.codec.Fits attestation
  | .solanaValidatorWithBackupIds attestation backupIds =>
    SolanaValidatorAttestation.codec.Fits attestation ∧ backupIdsCodec.Fits backupIds

def written : AccessMode → UInt8 × List Written
  | .solanaValidator attestation => (0, [SolanaValidatorAttestation.codec.serialize attestation])
  | .solanaValidatorWithBackupIds attestation backupIds =>
    (1, [SolanaValidatorAttestation.codec.serialize attestation,
      backupIdsCodec.serialize backupIds])

def arms : List (UInt8 × Reader AccessMode) :=
  [(0, solanaValidator <$> SolanaValidatorAttestation.codec.deserializeReader),
    (1, do
      let attestation ← SolanaValidatorAttestation.codec.deserializeReader
      let backupIds ← backupIdsCodec.deserializeReader
      return solanaValidatorWithBackupIds attestation backupIds)]

def codec : Codec AccessMode := .tagged u8 Fits written arms unexpectedTag

theorem backupIdsCodec_exact : backupIdsCodec.Exact := Pubkey.codec_exact.vec

theorem codec_exact : codec.Exact := by
  have hattestation := SolanaValidatorAttestation.codec_exact
  refine u8_exact.tagged (fun _ => u8_fits _) ⟨by decide, ?_, ?_, ?_⟩
  · intro accessMode
    cases accessMode with
    | _ =>
      simp [written, Fits, hattestation.serialize_iff, backupIdsCodec_exact.serialize_iff]
  · intro accessMode
    cases accessMode with
    | solanaValidator => exact .one hattestation 0 rfl rfl
    | solanaValidatorWithBackupIds => exact .two hattestation backupIdsCodec_exact 1 rfl rfl
  · simp only [arms, List.forall_mem_cons]
    exact ⟨.one hattestation fun _ => rfl, .two hattestation backupIdsCodec_exact fun _ _ => rfl,
      by simp⟩

end AccessMode

/-! ## Instruction data -/

namespace InstructionData

def INITIALIZE_PROGRAM : String := "dz::ix::initialize_program"
def SET_ADMIN : String := "dz::ix::set_admin"
def CONFIGURE_PROGRAM : String := "dz::ix::configure_program"
def REQUEST_ACCESS : String := "dz::ix::request_access"
def GRANT_ACCESS : String := "dz::ix::grant_access"
def DENY_ACCESS : String := "dz::ix::deny_access"

/-- In the order of the reader's arms. -/
def selectorNames : List String :=
  [INITIALIZE_PROGRAM, SET_ADMIN, CONFIGURE_PROGRAM, REQUEST_ACCESS, GRANT_ACCESS, DENY_ACCESS]

def Fits : InstructionData → Prop
  | .setAdmin adminKey => Pubkey.codec.Fits adminKey
  | .configureProgram setting => ProgramConfiguration.codec.Fits setting
  | .requestAccess accessMode => AccessMode.codec.Fits accessMode
  | _ => True

section

variable (sha256 : String → Bytes)

/-- A selector, as its name stands for it. -/
def selector (name : String) : Discriminator := .newSha2 sha256 name

/-- The arms of `serialize`. -/
def written : InstructionData → Discriminator × List Written
  | .initializeProgram => (selector sha256 INITIALIZE_PROGRAM, [])
  | .setAdmin key => (selector sha256 SET_ADMIN, [Pubkey.codec.serialize key])
  | .configureProgram setting =>
    (selector sha256 CONFIGURE_PROGRAM, [ProgramConfiguration.codec.serialize setting])
  | .requestAccess accessMode =>
    (selector sha256 REQUEST_ACCESS, [AccessMode.codec.serialize accessMode])
  | .grantAccess => (selector sha256 GRANT_ACCESS, [])
  | .denyAccess => (selector sha256 DENY_ACCESS, [])

/-- The arms of `deserialize_reader`. -/
def arms : List (Discriminator × Reader InstructionData) :=
  [(selector sha256 INITIALIZE_PROGRAM, return initializeProgram),
    (selector sha256 SET_ADMIN, setAdmin <$> Pubkey.codec.deserializeReader),
    (selector sha256 CONFIGURE_PROGRAM,
      configureProgram <$> ProgramConfiguration.codec.deserializeReader),
    (selector sha256 REQUEST_ACCESS, requestAccess <$> AccessMode.codec.deserializeReader),
    (selector sha256 GRANT_ACCESS, return grantAccess),
    (selector sha256 DENY_ACCESS, return denyAccess)]

def codec : Codec InstructionData :=
  .tagged Discriminator.codec Fits (written sha256) (arms sha256) invalidDiscriminator

end

theorem codec_exact {sha256 : String → Bytes}
    (hselectors : (selectorNames.map (Discriminator.newSha2 sha256)).Nodup) :
    (codec sha256).Exact := by
  have hkey := Pubkey.codec_exact
  have hsetting := ProgramConfiguration.codec_exact
  have hmode := AccessMode.codec_exact
  refine Discriminator.codec_exact.tagged (fun _ => Discriminator.codec_fits _)
    ⟨hselectors, ?_, ?_, ?_⟩
  · intro data
    cases data with
    | _ =>
      simp [written, Fits, hkey.serialize_iff, hsetting.serialize_iff, hmode.serialize_iff]
  · intro data
    cases data with
    | initializeProgram => exact .unit 0 rfl rfl
    | setAdmin => exact .one hkey 1 rfl rfl
    | configureProgram => exact .one hsetting 2 rfl rfl
    | requestAccess => exact .one hmode 3 rfl rfl
    | grantAccess => exact .unit 4 rfl rfl
    | denyAccess => exact .unit 5 rfl rfl
  · simp only [arms, List.forall_mem_cons]
    exact ⟨.unit rfl, .one hkey fun _ => rfl, .one hsetting fun _ => rfl,
      .one hmode fun _ => rfl, .unit rfl, .unit rfl, by simp⟩

end InstructionData

end DoubleZero.Passport
