import Signet.FixedBytes

/-! # Keystores

A keystore is a secret key enciphered under a passphrase, with everything but
the passphrase that deciphering needs.
-/

namespace Signet

/-- The parameters of a key derivation: `n`, `r`, `p` of scrypt, `c` and `prf`
of PBKDF2. -/
structure KdfParams where
  /-- the length of the derived key -/
  dklen : Int
  salt : Bytes
  n : Option Int := none
  r : Option Int := none
  p : Option Int := none
  c : Option Int := none
  prf : Option String := none
  deriving DecidableEq, Repr

/-- The enciphered key and how it was enciphered. -/
structure KeystoreCrypto where
  cipher : String
  ciphertext : Bytes
  /-- the first block of the cipher's counter -/
  iv : Bytes
  kdf : String
  kdfParams : KdfParams
  mac : Bytes
  deriving DecidableEq, Repr

/-- A keystore file. -/
structure Keystore where
  version : Int
  id : Option String := none
  address : Option Address := none
  crypto : KeystoreCrypto
  deriving DecidableEq, Repr

end Signet
