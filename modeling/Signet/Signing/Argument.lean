import Signet.Checksum
import Signet.Datum.Dump
import Signet.Datum.Hexadecimal
import Signet.Datum.Rlp
import Signet.PersonalMessage
import Signet.Transaction.Signing
import Signet.Transaction.Validation

/-! # Signing with arguments of any kind

The operations on keys, digests, signatures and transactions for arguments of
any kind: each argument is read in the order in which the operation looks at
it, and the first that does not do decides the failure.
-/

namespace Signet

/-- The secret key of a value with 32 parts. -/
def SecretKey.ofDatum (d : Datum) : Except Error SecretKey := do
  let n ← d.size
  if n ≠ 32 then throw (.secretKey (.length n))
  else (SecretKey.ofBytes (← d.rawBytes)).mapError .secretKey

/-- The first integer that needs more than a signature's component has. -/
def Datum.toWord (d : Datum) : Except Error Nat := do
  Curve.scalarOfInt (← d.toInteger)

/-- The digest of a value with 32 parts; text of that length is read as
hexadecimal. -/
def Hash.ofDigest (d : Datum) : Except Error Hash := do
  let n ← d.size
  if n ≠ 32 then throw (.length (.digest n)) else Hash.ofDatum d

/-- A digest whose bytes are taken as they are; a value that refuses to be
bytes fails as `refusal`. -/
def Hash.ofRawDigest (refusal : Error) (d : Datum) : Except Error Hash :=
  match d.rawBytes with
  | .ok b => (FixedBytes.ofBytes 32 false b).mapError .length
  | .error e => .error (if e.refuses then refusal else e)

/-- The Keccak-256 digest of byte strings, one after the other. -/
def Datum.keccak (parts : List Datum) : Except Error Hash := do
  return Keccak.digest (← parts.mapM Datum.rawBytes).flatten

/-- The address of a public key of 64 bytes. -/
def PublicKey.addressOfDatum (d : Datum) : Except Error Address := do
  let n ← d.size
  if n ≠ 64 then throw (.length (.publicKey n))
  else return ⟨(Keccak.digest (← d.rawBytes)).bytes.drop 12, by
    rw [List.length_drop, FixedBytes.length_bytes]⟩

/-- A signature whose components may be of any kind. -/
structure LooseSignature where
  v : Datum
  r : Datum
  s : Datum
  deriving Repr

namespace LooseSignature

/-- The components that a value has as a signature. -/
def ofDatum (d : Datum) : Except Error LooseSignature :=
  match d, Transaction.componentsOf d with
  | .null, _ | _, none => .error .noAttribute
  | _, some (v, r, s) => .ok ⟨v, r, s⟩

/-- A signature with components of any kind. -/
def ofSignature (sig : Signature) : LooseSignature :=
  ⟨.hexNumber sig.v, .hexNumber sig.r, .hexNumber sig.s⟩

/-- The value of it. -/
def toDatum (sig : LooseSignature) : Datum :=
  .signature sig.v sig.r sig.s

/-- The 65 byte form. -/
def toBytes (sig : LooseSignature) : Except Error Bytes := do
  if ← sig.v.isAbove 0xFF then
    let n ← sig.v.toInteger
    throw (.writing n (.component (.wideV n.toNat)))
  let word (d : Datum) : Except Error Bytes :=
    match d.index? with
    | some n => do return Bytes.ofNatFixed 32 (← Curve.scalarOfInt n)
    | none => throw .noAttribute
  let r ← word sig.r
  let s ← word sig.s
  return r ++ s ++ (← Datum.bytesOfItems [sig.v])

/-- The hexadecimal text of the 65 byte form. -/
def hex (sig : LooseSignature) : Except Error String :=
  sig.toBytes.map Hex.ofBytes

/-- Whether all components equal zero. -/
def isZero (sig : LooseSignature) : Bool :=
  sig.v.eq (.int 0) && sig.r.eq (.int 0) && sig.s.eq (.int 0)

end LooseSignature

namespace Signature

/-- The signature of a value with 65 parts: `r`, `s` and `v`. -/
def ofByteDatum (d : Datum) : Except Failure Signature := do
  let n ← d.size
  if n ≠ byteLength then throw (.error (.length (.signature n)))
  else
    match d.asByteString?, d with
    | some b, _ => (ofBytes b).mapError fun e => .error (.length e)
    | none, .list items | none, .tuple items =>
      let r ← Datum.bytesOfItems (items.take 32)
      let s ← Datum.bytesOfItems ((items.drop 32).take 32)
      (ofEntries [("v", (items.drop 64).headD .null), ("r", .int (Bytes.toNat r)),
        ("s", .int (Bytes.toNat s))]).toExcept
    | none, .dict _ => throw (.error .noEntry)
    | none, _ => throw (.error (.kind .other))

/-- The signature that a hexadecimal text writes. -/
def ofHexText (s : String) : Except Error Signature := do
  let b ← (Hex.readBytes s.toList).mapError .hex
  (ofBytes b).mapError .length

/-- The signature that an object describes, or one as it is. -/
def looseOfDatum : Datum → Check LooseSignature
  | .signature v r s => .ok ⟨v, r, s⟩
  | d => (Check.object ofEntries d).map LooseSignature.ofSignature

end Signature

namespace Curve

variable (C : Curve)

/-- The public key of a secret of any kind. -/
def publicKeyOf (secret : Datum) : Except Error PublicKey := do
  return C.publicKey (← SecretKey.ofDatum secret)

/-- The address of a secret of any kind. -/
def addressOf (secret : Datum) : Except Error Address := do
  return C.address (← SecretKey.ofDatum secret)

/-- Signs a digest of any kind, whose bytes are taken as they are. -/
def signRaw (secret digest : Datum) : Except Error RecoverableSignature := do
  let k ← SecretKey.ofDatum secret
  let n ← digest.size
  if n ≠ 32 then throw (.length (.digest n))
  else C.signDigest k (← Hash.ofRawDigest .internalCrypto digest)

/-- Recovers a public key from arguments of any kind. -/
def recoverRaw (r s recoveryId digest : Datum) : Except Error PublicKey := do
  let r ← r.toWord
  let s ← s.toWord
  if !(recoveryId.eq (.int 0) || recoveryId.eq (.int 1)) then
    throw (.component (.recoveryId (← recoveryId.display)))
  checkScalars r s
  let n ← digest.size
  if n ≠ 32 then throw (.length (.digest n))
  checkPoint r
  let id ← Datum.bytesOfItems [recoveryId]
  let digest ← Hash.ofRawDigest (.recovery .failed) digest
  C.askPublicKey r s (id == [1]) digest

/-- Signs a digest of any kind. -/
def signHashOf (secret digest : Datum) : Except Error Signature := do
  let digest ← Hash.ofDigest digest
  C.signHash (← SecretKey.ofDatum secret) digest

/-- Signs data of any kind as a personal message. -/
def signMessageOf (secret data : Datum) : Except Error Signature := do
  let digest := PersonalMessage.digest (← data.rawBytes)
  C.signHash (← SecretKey.ofDatum secret) digest

/-- The address that signed a digest which `digest` gives. -/
def recoverLoose (digest : Except Error Hash) (sig : LooseSignature) : Except Error Address := do
  let id ← recoveryIdOfLegacyV (← sig.v.toInteger)
  let digest ← digest
  let r ← sig.r.toInteger
  let _ ← scalarOfInt r
  let s ← sig.s.toInteger
  C.recoverAddress r s (id == 1) digest

/-- The address that signed a digest of any kind. -/
def recoverHashOf (digest signature : Datum) : Except Error Address := do
  C.recoverLoose (Hash.ofDigest digest) (← LooseSignature.ofDatum signature)

/-- The address that signed data of any kind as a personal message. -/
def recoverMessageOf (data signature : Datum) : Except Error Address := do
  let digest := PersonalMessage.digest (← data.rawBytes)
  C.recoverLoose (.ok digest) (← LooseSignature.ofDatum signature)

/-- Signs a transaction that comes as a value of any kind. -/
def signTransactionOf (secret tx : Datum) : Except Error Transaction := do
  let k ← SecretKey.ofDatum secret
  match tx with
  | .transaction tx => tx.sign C k
  | _ => throw .noAttribute

/-- The address that signed a transaction that comes as a value of any kind. -/
def recoverTransactionOf (tx : Datum) : Except Failure Address :=
  match tx with
  | .transaction tx => tx.recover C
  | _ => throw (.error .noAttribute)

end Curve
end Signet
