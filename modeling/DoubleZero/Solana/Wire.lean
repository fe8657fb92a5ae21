import DoubleZero.Lib.Borsh
import DoubleZero.Solana.Account

/-!
# Keys and discriminators as bytes

`solana_pubkey::Pubkey` and `program-tools::Discriminator`, as Borsh writes them: their bytes. The
hash behind a discriminator is a parameter.
-/

namespace DoubleZero.Solana

open DoubleZero.Lib.Borsh

namespace Pubkey

/-- The 32 bytes in the order in which the number is read. Larger numbers are not keys. -/
def codec : Codec Pubkey := .bigEndian 32 Pubkey.val Pubkey.mk

theorem codec_exact : codec.Exact :=
  Codec.bigEndian_exact (fun _ => rfl) fun _ _ => rfl

end Pubkey

/-- `Discriminator<DISCRIMINATOR_LEN>`, eight bytes. -/
abbrev Discriminator := BitVec 64

namespace Discriminator

def codec : Codec Discriminator := byteArray 8

theorem codec_exact : codec.Exact := byteArray_exact 8

@[simp] theorem codec_fits (d : Discriminator) : codec.Fits d := @byteArray_fits 8 d

/-- `new_sha2`: the first bytes of the SHA-256 digest of the name. -/
def newSha2 (sha256 : String → Bytes) (name : String) : Discriminator :=
  BitVec.ofNat 64 (ofLE ((sha256 name).take 8))

end Discriminator

/-- The message of a derived reader about a tag it doesn't know. -/
def unexpectedTag (tag : UInt8) : String := s!"Unexpected variant tag: {tag}"

/-- The message of the instruction readers about a selector they don't know. -/
def invalidDiscriminator (_ : Discriminator) : String := "Invalid discriminator"

end DoubleZero.Solana
