import CredentialVault.Crypto.Sha256

/-!
# Keyed digests and key derivation

`mac` is the keyed digest of a message. `extract` concentrates a secret under a salt, and `expand`
draws a key of 32 bytes from the result for a stated purpose.
-/

namespace CredentialVault.Hmac

/-- The size of a block of the digest. -/
def blockSize : Nat := 64

/-- The key filled up to a block; a longer key is replaced by its digest. -/
def blockKey (key : Bytes) : Bytes :=
  let short := if key.length ≤ blockSize then key else Sha256.digest key
  short ++ List.replicate (blockSize - short.length) 0

/-- The keyed digest of a message. -/
def mac (key message : Bytes) : Bytes :=
  let block := blockKey key
  Sha256.digest
    (block.map (· ^^^ 0x5c) ++ Sha256.digest (block.map (· ^^^ 0x36) ++ message))

/-- The concentrated form of a secret under a salt. -/
def extract (salt secret : Bytes) : Bytes :=
  mac salt secret

/-- The first 32 bytes that a concentrated secret yields for a purpose. -/
def expand (concentrated purpose : Bytes) : Bytes :=
  mac concentrated (purpose ++ [1])

end CredentialVault.Hmac
