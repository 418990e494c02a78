import TicketGrant.Crypto.Sha256

/-!
# Keyed digests (HMAC with SHA-256)

Two digests are nested, each over the key mixed with a constant byte.
-/
namespace TicketGrant.Hmac

/-- The key as one block: a long key is digested first. -/
def block (key : Bytes) : Bytes :=
  let key := if key.length > 64 then Sha256.digest key else key
  key ++ List.replicate (64 - key.length) 0

/-- The keyed digest of a message, 32 bytes. -/
def digest (key message : Bytes) : Bytes :=
  let key := block key
  Sha256.digest (key.map (· ^^^ 0x5C) ++ Sha256.digest (key.map (· ^^^ 0x36) ++ message))

/-- A keyed digest has 32 bytes. -/
theorem length_digest (key message : Bytes) : (digest key message).length = 32 :=
  Sha256.length_digest _

end TicketGrant.Hmac
