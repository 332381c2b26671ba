import Signet.Digest.Sha256

/-! # HMAC-SHA256

A key longer than a block is hashed first.  The two hashes of every message
start with a block made from the key alone, so a key is kept as the two states
that these blocks lead to.
-/

namespace Signet.Hmac

open Signet.Sha256

/-- A key, as the states after its inner and its outer block. -/
structure Key where
  inner : State
  outer : State
  deriving DecidableEq, Repr

/-- The block of a key: hashed where it is too long, zeros behind it. -/
def keyBlock (key : Bytes) : Bytes :=
  let k := if key.length > blockSize then Sha256.digest key else key
  k ++ Bytes.zeros (blockSize - k.length)

/-- Prepares a key. -/
def Key.ofBytes (key : Bytes) : Key :=
  let block := keyBlock key
  ⟨compress .initial (block.map (· ^^^ 0x36)), compress .initial (block.map (· ^^^ 0x5C))⟩

/-- The code of a message under a prepared key. -/
def Key.code (k : Key) (message : Bytes) : Bytes :=
  finish k.outer blockSize (finish k.inner blockSize message)

/-- The HMAC-SHA256 code of a message. -/
def code (key message : Bytes) : Bytes :=
  (Key.ofBytes key).code message

@[simp] theorem length_code (k : Key) (message : Bytes) : (k.code message).length = 32 :=
  length_finish ..

end Signet.Hmac
