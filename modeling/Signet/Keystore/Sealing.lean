import Signet.Keystore.Opening
import Signet.Keystore.Settings
import Signet.Signing.Argument

/-! # Making keystores

A secret key is enciphered under a key that scrypt derives.  The salt, the first
counter block and the id are not made here: they are given.
-/

namespace Signet

/-- What a new keystore needs of chance. -/
structure Seed where
  salt : Bytes
  iv : Bytes
  /-- the id, as text -/
  id : String
  deriving DecidableEq, Repr

namespace Keystore

/-- The frame of a new keystore, with nothing enciphered yet. -/
def frame (params : ScryptParams) (seed : Seed) : KeystoreCrypto where
  cipher := KeystoreCrypto.cipherName
  ciphertext := []
  iv := seed.iv
  kdf := "scrypt"
  kdfParams := {
    dklen := params.dklen
    salt := seed.salt
    n := some params.n
    r := some params.r
    p := some params.p }
  mac := []

/-- Enciphers a secret key. -/
def lock (C : Curve) (secret : SecretKey) (passphrase : Datum) (params : ScryptParams)
    (seed : Seed) : Logged Keystore := do
  let crypto := frame params seed
  let password ← passphrase.password
  let derived ← crypto.deriveKey password
  let ciphertext ← Cipher.transform (derived.take KeystoreCrypto.halfLength)
    secret.bytes.bytes seed.iv
  let mac := KeystoreCrypto.macOf derived ciphertext
  return {
    version := keystoreVersion
    id := some seed.id
    address := some (C.address secret)
    crypto := { crypto with ciphertext := ciphertext, mac := mac.bytes } }

/-- Enciphers a secret key of any kind. -/
def lockOf (C : Curve) (secret passphrase : Datum) (params : ScryptParams) (seed : Seed) :
    Logged Keystore := do
  let secret ← SecretKey.ofDatum secret
  lock C secret passphrase params seed

end Keystore
end Signet
