import Signet.Signing.Argument

/-! # Private keys

A secret key with its public key and its address.  The `verify` operations tell
whether this key signed; they take a refusal, an argument of the wrong kind or
any failure that this library declares for a no, and let other failures through.
-/

namespace Signet

/-- A secret key and what follows from it. -/
structure PrivateKey where
  secret : SecretKey
  publicKey : PublicKey
  address : Address
  deriving DecidableEq, Repr

namespace PrivateKey

/-- The private key of a secret. -/
def ofSecret (C : Curve) (k : SecretKey) : PrivateKey :=
  ⟨k, C.publicKey k, C.address k⟩

/-- The private key of a value of any kind, whose bytes are taken as they are. -/
def ofDatum (C : Curve) (d : Datum) : Except Error PrivateKey := do
  let k ← (SecretKey.ofBytes (← d.rawBytes)).mapError .secretKey
  return ofSecret C k

/-- The private key of a hexadecimal text. -/
def ofHex (C : Curve) (d : Datum) : Except Error PrivateKey := do
  let b ← d.readHexBytes
  let k ← (SecretKey.ofBytes b).mapError .secretKey
  return ofSecret C k

/-- The first of the candidates that is a secret key, and the candidates after it. -/
def ofCandidates (C : Curve) : List Bytes → Option (PrivateKey × List Bytes)
  | [] => none
  | b :: r =>
    match SecretKey.ofBytes b with
    | .ok k => some (ofSecret C k, r)
    | .error _ => ofCandidates C r

/-- The secret as a value. -/
def datum (k : PrivateKey) : Datum := .bytes k.secret.bytes.bytes

/-- The text of a private key; it does not tell the secret. -/
def shown (k : PrivateKey) : String :=
  callText "PrivateKey" [("address", k.address.hex)]

/-- The signature that a value is or writes: one, its text or its bytes. -/
def signatureOf (d : Datum) : Except Error LooseSignature :=
  match d with
  | .signature v r s => .ok ⟨v, r, s⟩
  | .text s => (Signature.ofHexText s).map LooseSignature.ofSignature
  | d =>
    match d.asByteString? with
    | some b => ((Signature.ofBytes b).mapError .length).map LooseSignature.ofSignature
    | none => throw (.kind (.signature d.kindName))

/-- Whether a failed verification is a no. -/
def isRejection : Failure → Bool
  | .error e => e.isDeclared || e.refuses || e.isKind
  | _ => true

/-- Whether the recovered address is that of the key. -/
def verdict (k : PrivateKey) (rejects : Failure → Bool) (recovered : Except Failure Address) :
    Except Failure Bool :=
  match recovered with
  | .ok a => .ok (a == k.address)
  | .error e => if rejects e then .ok false else .error e

/-- Whether this key made `signature` over a digest. -/
def verifyHash (C : Curve) (k : PrivateKey) (digest signature : Datum) : Except Failure Bool :=
  k.verdict isRejection do
    let sig ← signatureOf signature
    C.recoverLoose (Hash.ofDigest digest) sig

/-- Whether this key made `signature` over data as a personal message. -/
def verifyMessage (C : Curve) (k : PrivateKey) (data signature : Datum) : Except Failure Bool :=
  k.verdict isRejection do
    let sig ← signatureOf signature
    let digest := PersonalMessage.digest (← data.rawBytes)
    C.recoverLoose (.ok digest) sig

/-- Whether a failed verification of a transaction is a no; a value that is no
transaction is one. -/
def rejectsTransaction (e : Failure) : Bool :=
  isRejection e || e == .error .noAttribute

/-- Whether this key signed a transaction. -/
def verifyTransaction (C : Curve) (k : PrivateKey) (tx : Datum) : Except Failure Bool :=
  k.verdict rejectsTransaction (C.recoverTransactionOf tx)

/-- Whether a key is unequal to a value that is no key: a fixed byte string says
that it is not. -/
def differsFrom (d : Datum) : Bool :=
  !d.isFixed

/-- The number of elements of the set of a key and a value that is no key. -/
def setSizeWith (d : Datum) : Except Error Nat :=
  match d.hashKey? with
  | some _ => .ok 2
  | none => .error (.kind .other)

end PrivateKey
end Signet
