import FileShare.Hash.Sha256

/-!
# Keyed digests

HMAC over SHA-256: the key, brought to the size of a block, is mixed into an
inner and an outer digest of the message.
-/

set_option autoImplicit false

namespace FileShare.Hmac

/-- The key as one block of 64 bytes: a longer key is replaced by its digest,
and zeros fill the rest. -/
def blockKey (key : Bytes) : Bytes :=
  let short := if key.length ≤ 64 then key else Sha256.digest key
  short ++ List.replicate (64 - short.length) 0

def digest (key message : Bytes) : Bytes :=
  let block := blockKey key
  let inner := Sha256.digest (block.map (· ^^^ 0x36) ++ message)
  Sha256.digest (block.map (· ^^^ 0x5c) ++ inner)

end FileShare.Hmac
