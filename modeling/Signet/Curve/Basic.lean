import Signet.Curve.Nonce
import Signet.Curve.Secp256k1

/-! # Recoverable signatures

`Curve` holds what signing needs of a curve library: the public key of a
secret, a signature over a digest with the id that tells which of two points
signed, and the public key that a signature leads back to.  `secp256k1` is the
curve in use.  Its nonces are seeded with the secret and the digest reduced
modulo the group order, and of the two values of `s` it takes the lower.
-/

namespace Signet

/-- A 64 byte public key: both coordinates. -/
abbrev PublicKey := FixedBytes 64

/-- Why a byte string is no secret key. -/
inductive SecretKeyError
  | length (actual : Nat)
  | range
  deriving DecidableEq, Repr

/-- The text of a secret key error. -/
def SecretKeyError.message : SecretKeyError → String
  | .length n => s!"invalid secret key length {n}"
  | .range => "secret key is not a valid secp256k1 scalar"

/-- A secret key: 32 bytes that write a number in `[1, groupOrder)`. -/
structure SecretKey where
  /-- the bytes -/
  bytes : FixedBytes 32
  pos : 0 < bytes.bytes.toNat
  lt : bytes.bytes.toNat < Secp256k1.groupOrder
  deriving DecidableEq, Repr

namespace SecretKey

/-- The number that a secret key is. -/
def toNat (k : SecretKey) : Nat :=
  k.bytes.bytes.toNat

/-- A byte string as a secret key. -/
def ofBytes (b : Bytes) : Except SecretKeyError SecretKey :=
  if hl : b.length = 32 then
    if h : 0 < b.toNat ∧ b.toNat < Secp256k1.groupOrder then .ok ⟨⟨b, hl⟩, h.1, h.2⟩
    else .error .range
  else .error (.length b.length)

end SecretKey

/-- A signature with the id of the signing point. -/
structure RecoverableSignature where
  r : Nat
  s : Nat
  recoveryId : Nat
  deriving DecidableEq, Repr

/-- What signing needs of a curve library. -/
structure Curve where
  /-- the public key of a secret -/
  publicKey : SecretKey → PublicKey
  /-- a signature over a digest, unless the library fails -/
  sign : SecretKey → Hash → Option RecoverableSignature
  /-- the public key that `r`, `s` and the oddness of the signing point lead back
  to, unless it is the point at infinity -/
  recover : (r s : Nat) → (odd : Bool) → Hash → Option PublicKey

namespace Secp256k1

/-- The public key with the coordinates `x` and `y`. -/
def encodePoint (x y : Nat) : PublicKey :=
  ⟨Bytes.ofNatFixed 32 x ++ Bytes.ofNatFixed 32 y, by simp⟩

/-- The public key of a secret. -/
def publicKeyOf (k : SecretKey) : PublicKey :=
  match (generator.multiple k.toNat).toAffine? with
  | some (x, y) => encodePoint x y
  | none => encodePoint 0 0

/-- The signature over `digest` with the nonce `nonce`, where the nonce gives
one. -/
def signWith? (k : SecretKey) (digest : Hash) (nonce : Nat) : Option RecoverableSignature :=
  if nonce = 0 ∨ groupOrder ≤ nonce then none
  else
    match (generator.multiple nonce).toAffine? with
    | none => none
    | some (x, y) =>
      let r := x % groupOrder
      let z := digest.bytes.toNat % groupOrder
      let s := inverse nonce groupOrder * ((z + r * k.toNat) % groupOrder) % groupOrder
      if r = 0 ∨ s = 0 then none
      else
        let high := if groupOrder ≤ x then 2 else 0
        if 2 * s > groupOrder then some ⟨r, groupOrder - s, high + (y + 1) % 2⟩
        else some ⟨r, s, high + y % 2⟩

/-- The first signature that one of the next `attempts` nonces gives. -/
def signFrom? (k : SecretKey) (digest : Hash) : Nat → NonceStream →
    Option RecoverableSignature
  | 0, _ => none
  | attempts + 1, g =>
    let (nonce, g) := g.next
    match signWith? k digest nonce.toNat with
    | some sig => some sig
    | none => signFrom? k digest attempts g

/-- How many nonces are tried. -/
def attempts : Nat := 128

/-- What the nonces of a signature are seeded with: the secret and the digest,
which is reduced modulo the group order. -/
def nonceSeed (k : SecretKey) (digest : Hash) : Bytes :=
  k.bytes.bytes ++ Bytes.ofNatFixed 32 (digest.bytes.toNat % groupOrder)

/-- The signature of a secret over a digest. -/
def signDigest? (k : SecretKey) (digest : Hash) : Option RecoverableSignature :=
  signFrom? k digest attempts (.ofSeed (nonceSeed k digest))

/-- The public key that a signature over `digest` leads back to. -/
def recoverKey? (r s : Nat) (odd : Bool) (digest : Hash) : Option PublicKey := do
  let point ← liftX? r odd
  let i := inverse r groupOrder
  let z := digest.bytes.toNat % groupOrder
  let u := (groupOrder - z * i % groupOrder) % groupOrder
  let w := s * i % groupOrder
  let (x, y) ← ((point.multiple w).add (generator.multiple u)).toAffine?
  return encodePoint x y

end Secp256k1

/-- The curve in use. -/
def secp256k1 : Curve where
  publicKey := Secp256k1.publicKeyOf
  sign := Secp256k1.signDigest?
  recover := Secp256k1.recoverKey?

end Signet
