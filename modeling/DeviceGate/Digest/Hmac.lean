import DeviceGate.Digest.Sha256
import DeviceGate.Text.Hex

/-!
The keyed digest HMAC-SHA256: the hash of the outer pad followed by the hash of the inner pad and
the message.  A key longer than a block is hashed first, a shorter one filled up with zeros.

* `Hmac.digest`: the 32 bytes; `Hmac.hexDigest`: the same as 64 lower-case hexadecimal digits.
-/

namespace DeviceGate.Digest.Hmac

/-- The key as one block of 64 bytes. -/
def keyBlock (key : List UInt8) : List UInt8 :=
  let short := if 64 < key.length then Sha256.digest key else key
  short ++ List.replicate (64 - short.length) 0

/-- The keyed digest of a message. -/
def digest (key message : List UInt8) : List UInt8 :=
  let block := keyBlock key
  let inner := Sha256.digest (block.map (· ^^^ 0x36) ++ message)
  Sha256.digest (block.map (· ^^^ 0x5c) ++ inner)

/-- The keyed digest in lower-case hexadecimal. -/
def hexDigest (key message : List UInt8) : String :=
  String.ofList (Text.Hex.encode (digest key message))

theorem length_digest (key message : List UInt8) : (digest key message).length = 32 :=
  Sha256.length_digest _

end DeviceGate.Digest.Hmac
