import Signet.Cipher.Aes

/-! # Counter mode

The data is added to a keystream: the enciphered values of a 128 bit counter,
big-endian, that starts at the initial block and goes on from zero after its
greatest value.  Enciphering twice gives the data back.
-/

namespace Signet.CounterMode

/-- The bytes of a block. -/
def blockSize : Nat := 16

/-- The `blocks` blocks of the keystream from the counter value `counter` on. -/
def keystream (encipher : Bytes → Bytes) : Nat → Nat → Bytes
  | 0, _ => []
  | blocks + 1, counter =>
    encipher (Bytes.ofNatFixed blockSize counter) ++ keystream encipher blocks (counter + 1)

/-- Adds the keystream that starts at the block `start` to `data`. -/
def apply (encipher : Bytes → Bytes) (start data : Bytes) : Bytes :=
  List.zipWith (· ^^^ ·) data
    (keystream encipher (data.length / blockSize + 1) (Bytes.toNat start))

end Signet.CounterMode
