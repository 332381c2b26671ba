import Signet.Keystore.Derivation
import Signet.Keystore.Fields
import Signet.Signing.Recovery

/-! # Opening keystores

A keystore is opened in fixed steps: its version and cipher are looked at, the
key of the cipher is derived, the code over the second half of that key and the
ciphertext is compared, and only then is anything deciphered.  The secret must
be a secret key, and where the keystore names an address that is not zero it
must be that of the key.
-/

namespace Signet

namespace KeystoreCrypto

/-- The only cipher. -/
def cipherName : String := "aes-128-ctr"

/-- How many bytes of the derived key the cipher takes; the code takes as many
after them. -/
def halfLength : Nat := 16

/-- The code over a ciphertext. -/
def macOf (derived ciphertext : Bytes) : Hash :=
  Keccak.digest (derived.slice halfLength (2 * halfLength) ++ ciphertext)

/-- Deciphers the secret with a derived key: too short a key and a wrong code
are refused before anything is deciphered. -/
def decipher (c : KeystoreCrypto) (derived : Bytes) : Except Error SecretKey := do
  if derived.length < 2 * halfLength then throw (.keystore (.shortKey derived.length))
  else if (macOf derived c.ciphertext).bytes ≠ c.mac then throw .passphrase
  else
    let secret ← Cipher.transform (derived.take halfLength) c.ciphertext c.iv
    (SecretKey.ofBytes secret).mapError .secretKey

end KeystoreCrypto

namespace Keystore

/-- Refuses other versions and ciphers. -/
def checkKind (k : Keystore) : Except Error Unit :=
  if k.version ≠ keystoreVersion then .error (.keystore (.version k.version))
  else if k.crypto.cipher ≠ KeystoreCrypto.cipherName then
    .error (.unsupportedCipher k.crypto.cipher)
  else .ok ()

/-- Compares the address that a keystore names with that of its key. -/
def checkAddress (k : Keystore) (address : Address) : Logged Unit :=
  match k.address with
  | none => pure ()
  | some a =>
    if a.isZero ∨ a = address then pure ()
    else do
      Logged.write .warning ("keystore address " ++ a.hex ++ " does not match its key")
      Logged.fail (.addressMismatch a address)

/-- The secret key of a keystore. -/
def unlock (C : Curve) (k : Keystore) (passphrase : Datum) : Logged SecretKey := do
  k.checkKind
  let password ← passphrase.password
  let derived ← k.crypto.deriveKey password
  let secret ← k.crypto.decipher derived
  k.checkAddress (C.address secret)
  return secret

/-- The secret key of a keystore that comes as text or bytes. -/
def unlockContent (C : Curve) (content passphrase : Datum) : Logged SecretKey := do
  unlock C (← parse content) passphrase

/-- The secret key of a value: of a keystore, or of one that comes as text or
bytes. -/
def unlockOf (C : Curve) (d passphrase : Datum) : Logged SecretKey :=
  match d with
  | .keystore k => unlock C k passphrase
  | content => unlockContent C content passphrase

end Keystore
end Signet
