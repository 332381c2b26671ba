import Signet.Cipher.Aes
import Signet.Cipher.CounterMode
import Signet.Datum.Conversion
import Signet.Kdf.Pbkdf2
import Signet.Kdf.Scrypt
import Signet.Logged

/-! # Keys from passphrases

A passphrase is stretched by scrypt or PBKDF2, as the keystore says, and the
first half of the result is the key of a cipher in counter mode.  Parameters
that a primitive does not take make it fail, in the order in which it looks at
them; a length that is not positive gives an empty key, and one that no memory
holds none at all.
-/

namespace Signet

/-- The first cost that scrypt does not take. -/
def Scrypt.costCeiling : Nat := 1 <<< 32

/-- The greatest product that limits the parallel cost for a block size `r`. -/
def Scrypt.parallelLimit (r : Int) : Int :=
  Int.fdiv (0xFFFFFFFF * 32) (128 * r)

/-- Stretches a password by scrypt: `n` must be a power of two below `2 ^ 32`,
`r` not zero, `p` within its limit, and neither negative. -/
def Scrypt.stretch (password salt : Bytes) (n r p dklen : Int) : Except Error Bytes :=
  if n ≤ 0 ∨ n ≠ (1 <<< n.toNat.log2 : Nat) ∨ (Scrypt.costCeiling : Int) ≤ n then .error .internalCrypto
  else if r = 0 then .error .divisionByZero
  else if parallelLimit r < p ∨ r < 0 ∨ p < 0 then .error .internalCrypto
  else if Datum.memoryCeiling ≤ dklen then .error .memory
  else .ok (derive password salt n.toNat r.toNat p.toNat dklen.toNat)

/-- Stretches a password by PBKDF2 with `c` rounds. -/
def Pbkdf2.stretch (password salt : Bytes) (c dklen : Int) : Except Error Bytes :=
  if dklen ≤ 0 then .ok []
  else if c ≤ 0 then .error .internalCrypto
  else if Datum.memoryCeiling ≤ dklen then .error .memory
  else .ok (derive password salt c.toNat dklen.toNat)

namespace KeystoreCrypto

/-- The pseudo-random function that PBKDF2 is used with. -/
def prfName : String := "hmac-sha256"

/-- The key that a password is stretched to. -/
def stretch (c : KeystoreCrypto) (password : Bytes) : Except Error Bytes :=
  let params := c.kdfParams
  if c.kdf = "scrypt" then
    match params.n, params.r, params.p with
    | some n, some r, some p => Scrypt.stretch password params.salt n r p params.dklen
    | _, _, _ => .error (.keystore .scryptParams)
  else if c.kdf = "pbkdf2" then
    if params.prf ≠ some prfName then .error (.unsupportedPrf (params.prf.getD noneText))
    else
      match params.c with
      | some count => Pbkdf2.stretch password params.salt count params.dklen
      | none => .error (.keystore .iterationCount)
  else .error (.unsupportedKdf c.kdf)

/-- Derives the key of a keystore from a password. -/
def deriveKey (c : KeystoreCrypto) (password : Bytes) : Logged Bytes := do
  Logged.write .debug ("deriving keystore key with " ++ c.kdf)
  c.stretch password

end KeystoreCrypto

/-- The password of a passphrase: text in UTF-8, any other value as its
bytes.  Text with a lone surrogate has no form in UTF-8 and so no password, but
it is no `Datum` either. -/
def Datum.password (d : Datum) : Except Error Bytes :=
  match d with
  | .text s => .ok (Bytes.ofText s)
  | d => d.rawBytes

namespace Cipher

/-- Enciphers or deciphers data in counter mode.  The first counter block must
have the size of a block, and the key one of the sizes of the cipher. -/
def transform (key data iv : Bytes) : Except Error Bytes :=
  if iv.length ≠ CounterMode.blockSize then .error (.keystore (.ivLength iv.length))
  else
    match Aes.Key.ofBytes? key with
    | some k => .ok (CounterMode.apply (Aes.encipher k) iv data)
    | none => .error .internalCrypto

/-- The bytes of an argument of a cipher; one that refuses to be bytes makes the
cipher fail. -/
def argument (d : Datum) : Except Error Bytes :=
  d.rawBytes.mapError fun e => if e.refuses then .internalCrypto else e

/-- `transform` for arguments of any kind. -/
def transformOf (key data iv : Datum) : Except Error Bytes := do
  let n ← iv.size
  if n ≠ CounterMode.blockSize then throw (.keystore (.ivLength n))
  else
    let key ← argument key
    let iv ← argument iv
    if (Aes.Key.ofBytes? key).isNone then throw .internalCrypto
    transform key (← argument data) iv

end Cipher
end Signet
