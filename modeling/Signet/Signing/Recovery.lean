import Signet.Digest.Keccak
import Signet.Error

/-! # Recovering a signer

The public key behind a signature is recovered from `r`, `s`, the oddness of
the signing point and the digest.  The scalars must lie in `[1, groupOrder)`
and `r` must be the coordinate of a point, which the Euler test tells; only then
is the curve asked.  An address is the last twenty bytes of the digest of a
public key.
-/

namespace Signet

namespace PublicKey

/-- The address of a public key. -/
def address (k : PublicKey) : Address :=
  ⟨(Keccak.digest k.bytes).bytes.drop 12, by
    rw [List.length_drop, FixedBytes.length_bytes]⟩

end PublicKey

namespace Curve

variable (C : Curve)

/-- The address of a secret key. -/
def address (k : SecretKey) : Address :=
  PublicKey.address (C.publicKey k)

/-- Refuses scalars outside `[1, groupOrder)`. -/
def checkScalars (r s : Nat) : Except Error Unit :=
  if 0 < r ∧ r < Secp256k1.groupOrder ∧ 0 < s ∧ s < Secp256k1.groupOrder then .ok ()
  else .error (.component .scalarRange)

/-- Refuses an `r` that is the coordinate of no point. -/
def checkPoint (r : Nat) : Except Error Unit :=
  if Secp256k1.eulerTest r = 1 then .ok () else .error (.recovery .notOnCurve)

/-- Asks the curve for the public key. -/
def askPublicKey (r s : Nat) (odd : Bool) (digest : Hash) : Except Error PublicKey :=
  match C.recover r s odd digest with
  | some k => .ok k
  | none => .error (.recovery .failed)

/-- The public key that a signature over `digest` leads back to. -/
def recoverKey (r s : Nat) (odd : Bool) (digest : Hash) : Except Error PublicKey := do
  checkScalars r s
  checkPoint r
  C.askPublicKey r s odd digest

/-- An integer as a scalar of 256 bits. -/
def scalarOfInt (n : Int) : Except Error Nat :=
  if 0 ≤ n ∧ n < uint256Ceiling then .ok n.toNat else .error .overflow

/-- The address that a signature over `digest` leads back to. -/
def recoverAddress (r s : Int) (odd : Bool) (digest : Hash) : Except Error Address := do
  let r ← scalarOfInt r
  let s ← scalarOfInt s
  return PublicKey.address (← C.recoverKey r s odd digest)

/-- The signature of a secret over a digest. -/
def signDigest (k : SecretKey) (digest : Hash) : Except Error RecoverableSignature :=
  match C.sign k digest with
  | some sig => .ok sig
  | none => .error .internalCrypto

end Curve

/-! ## The `v` of hashes and messages -/

/-- What is added to the recovery id where no chain is told. -/
def legacyOffset : Nat := 27

/-- The recovery id of a `v` that tells no chain: the id itself, or 27 more. -/
def recoveryIdOfLegacyV (v : Int) : Except Error Nat :=
  if v = 0 ∨ v = legacyOffset then .ok 0
  else if v = 1 ∨ v = legacyOffset + 1 then .ok 1
  else .error (.writing v (.component (.invalidV v)))

namespace Curve

variable (C : Curve)

/-- Signs a digest; `v` is the recovery id and 27. -/
def signHash (k : SecretKey) (digest : Hash) : Except Error Signature := do
  let sig ← C.signDigest k digest
  (Signature.ofInts (sig.recoveryId + legacyOffset : Nat) sig.r sig.s).mapError .component

/-- The address that signed a digest. -/
def recoverHash (digest : Hash) (sig : Signature) : Except Error Address := do
  let id ← recoveryIdOfLegacyV sig.v
  C.recoverAddress sig.r sig.s (id == 1) digest

end Curve
end Signet
