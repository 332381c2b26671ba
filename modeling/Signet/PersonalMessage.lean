import Signet.Digest.Keccak

/-! # Personal messages

Data that is signed as a personal message stands behind a prefix and its length
in decimal, so that it is never the pre-image of a transaction.
-/

namespace Signet.PersonalMessage

/-- What stands in front of every personal message. -/
def marker : Bytes :=
  0x19 :: Bytes.ofText "Ethereum Signed Message:\n"

/-- The data behind the prefix and its length. -/
def frame (data : Bytes) : Bytes :=
  marker ++ (Text.digits 10 data.length).map (fun c => UInt8.ofNat c.toNat) ++ data

/-- The digest that is signed for the data. -/
def digest (data : Bytes) : Hash :=
  Keccak.digest (frame data)

end Signet.PersonalMessage
