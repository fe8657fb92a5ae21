import DoubleZero.Passport.Wire
import DoubleZero.Revenue.Wire

/-!
# The instruction codecs of both programs

Serializing and `try_from_slice` are inverses. What can't be serialized is a list too long for its
length to be written.
-/

namespace DoubleZero

open DoubleZero.Lib.Borsh DoubleZero.Solana DoubleZero.Revenue

theorem instructionData_inverse {sha256 : String → Bytes} {hash : Codec Hash}
    {proof : Codec MerkleProof} (hhash : hash.Exact) (hproof : proof.Exact)
    (hrevenue : (InstructionData.selectorNames.map (Discriminator.newSha2 sha256)).Nodup)
    (hpassport : (Passport.InstructionData.selectorNames.map
      (Discriminator.newSha2 sha256)).Nodup) :
    (InstructionData.codec sha256 hash proof).Inverse ∧
      (Passport.InstructionData.codec sha256).Inverse :=
  ⟨(InstructionData.codec_exact hhash hproof hrevenue).inverse,
    (Passport.InstructionData.codec_exact hpassport).inverse⟩

/-! ## With the digests of the names -/

namespace Sample

/-- The first eight bytes of the digests. -/
def digests : List (String × Nat) :=
  [("dz::ix::initialize_program", 0x1bb08fc7f9eaf034),
    ("dz::ix::migrate_program_accounts", 0x3783093d2d840233),
    ("dz::ix::set_admin", 0xea1627b97c78af90),
    ("dz::ix::configure_program", 0xb12420085b03ee35),
    ("dz::ix::initialize_journal", 0x5eccc4bad0e7ea08),
    ("dz::ix::initialize_distribution", 0x15e303b3ba680c1f),
    ("dz::ix::configure_distribution_debt", 0x4a324254155e009c),
    ("dz::ix::finalize_distribution_debt", 0x0a341d207707102d),
    ("dz::ix::configure_distribution_rewards", 0x61ac18584daeeae0),
    ("dz::ix::finalize_distribution_rewards", 0x508ace215be93a7b),
    ("dz::ix::distribute_rewards", 0xeff08a84834230ae),
    ("dz::ix::initialize_contributor_rewards", 0x41bb0e0a4e771eff),
    ("dz::ix::set_rewards_manager", 0x032268a8e03d49bf),
    ("dz::ix::configure_contributor_rewards", 0x7e839e8cde8449ed),
    ("dz::ix::verify_distribution_merkle_root", 0x33212f5dbec25959),
    ("dz::ix::initialize_solana_validator_deposit", 0x09af49b1ebce3065),
    ("dz::ix::pay_solana_validator_debt", 0xf1858bc4f612713b),
    ("dz::ix::enable_solana_validator_debt_write_off", 0x43d0b7ea0df19d27),
    ("dz::ix::write_off_solana_validator_debt", 0xa66a4396babe1c6d),
    ("dz::ix::initialize_swap_destination", 0xff8703fe61fd88cf),
    ("dz::ix::sweep_distribution_tokens::v1", 0xb0172a846ce44d57),
    ("dz::ix::withdraw_sol", 0x7a8428aa3d5dfdb3),
    ("dz::ix::set_distribution_economic_burn_rate", 0x8c757cc00c01a90d),
    ("dz::ix::withdraw_solana_validator_deposit", 0x23061f8aaacb765d),
    ("dz::ix::initialize_rewards_integration", 0x8aa678a418e9afac),
    ("dz::ix::collect_integration_rewards", 0xf3d2c364e2106993),
    ("dz::ix::request_access", 0xa2afe6ae892e946a),
    ("dz::ix::grant_access", 0x18a3774a6525db8f),
    ("dz::ix::deny_access", 0x296c50641d69a244)]

def sha256 (name : String) : Bytes := (toLE 8 ((digests.lookup name).getD 0)).reverse

/-- A hash as its 32 bytes. -/
def hashCodec : Codec Hash := .bigEndian 32 Hash.val Hash.mk

theorem hashCodec_exact : hashCodec.Exact :=
  Codec.bigEndian_exact (fun _ => rfl) fun _ _ => rfl

def proofCodec : Codec MerkleProof :=
  (u32.option.pair hashCodec.vec).iso (fun proof => (proof.leafIndex, proof.siblings))
    fun (leafIndex, siblings) => ⟨leafIndex, siblings⟩

theorem proofCodec_exact : proofCodec.Exact :=
  (u32_exact.option.pair hashCodec_exact.vec).iso (fun _ => rfl) fun _ => rfl

end Sample

open Sample

theorem instructionData_inverse_sample :
    (InstructionData.codec Sample.sha256 hashCodec proofCodec).Inverse ∧
      (Passport.InstructionData.codec Sample.sha256).Inverse :=
  instructionData_inverse hashCodec_exact proofCodec_exact (by decide +kernel) (by decide +kernel)

/-- Recipients too many for their count to be written. -/
def manyRecipients : InstructionData :=
  .configureContributorRewards (.recipients (List.replicate (2 ^ 32) (⟨1⟩, 10000)))

theorem instructionData_list_too_long :
    ¬ ∃ bytes,
      (InstructionData.codec Sample.sha256 hashCodec proofCodec).serialize manyRecipients =
        .ok bytes ∧
      (InstructionData.codec Sample.sha256 hashCodec proofCodec).tryFromSlice bytes =
        .ok manyRecipients := by
  rintro ⟨bytes, hbytes, -⟩
  have hexact : (InstructionData.codec Sample.sha256 hashCodec proofCodec).Exact :=
    InstructionData.codec_exact hashCodec_exact proofCodec_exact (by decide +kernel)
  have hlength : (List.replicate (2 ^ 32) ((⟨1⟩ : Pubkey), (10000 : UInt16))).length < 2 ^ 32 :=
    (hexact.serialize_iff.1 ⟨bytes, hbytes⟩).1
  rw [List.length_replicate] at hlength
  exact Nat.lt_irrefl _ hlength

end DoubleZero
