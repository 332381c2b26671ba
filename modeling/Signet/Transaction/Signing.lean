import Signet.Signing.Recovery
import Signet.Transaction.Wire
import Signet.Validation.Check

/-! # Signing transactions

The `v` of a signed transaction is the recovery id for the typed envelopes; for
a legacy transaction it is the recovery id and 27 where no chain is told, and
the recovery id, 35 and twice the chain id where one is.  `recoveryId` inverts
that, and recovery signs the pre-image of the chain that the signature tells,
not of the one that stands on the transaction.
-/

namespace Signet
namespace Transaction

/-- The digest that is signed. -/
def signingHash (tx : Transaction) : Except Error Hash :=
  tx.signingPreImage.map Keccak.digest

/-- The digest of the wire form. -/
def hash (tx : Transaction) : Except Error Hash :=
  tx.encode.map Keccak.digest

/-- Whether a transaction is a legacy one. -/
def isLegacy (tx : Transaction) : Bool :=
  tx.ty = 0

/-- The `v` of a signature with the recovery id `id`. -/
def signatureV (tx : Transaction) (id : Nat) : Int :=
  if tx.isLegacy then
    if tx.chainId.getD 0 ≠ 0 then id + replayOffset + 2 * tx.chainId.getD 0
    else id + legacyOffset
  else id

/-- Signs a transaction: a copy with the signature and the signer's address.
A transaction that names another sender is refused. -/
def sign (C : Curve) (k : SecretKey) (tx : Transaction) : Except Error Transaction := do
  let address := C.address k
  match tx.sender with
  | some a => if a ≠ address then throw (.signer a address)
  | none => pure ()
  let sig ← C.signDigest k (← tx.signingHash)
  return { tx with
    sender := some address
    v := some (tx.signatureV sig.recoveryId)
    r := some sig.r
    s := some sig.s }

/-- A component of a signature, or the fault of it. -/
def checkComponent (name : String) (n : Int) : Check Signature.Component :=
  Check.under (.field name) <|
    match h : Signature.component n with
    | .ok k => .ok ⟨k, Signature.component_lt h⟩
    | .error e => .fault (.refused (.component e))

/-- The signature on a transaction, where all three of its fields are set; its
components are checked again. -/
def signature? (tx : Transaction) : Except Failure (Option Signature) :=
  match tx.v, tx.r, tx.s with
  | some v, some r, some s =>
    ((fun v r s => some (Signature.ofComponents v r s))
      <$> checkComponent "v" v <*> checkComponent "r" r <*> checkComponent "s" s).toExcept
  | _, _, _ => .ok none

/-- The recovery id that the `v` of a typed transaction tells; it tells no
chain. -/
def recoveryIdOfTypedV (v : Nat) : Except Error (Nat × Option Nat) :=
  if 1 < v then .error (.component (.typedV v)) else .ok (v, none)

/-- The recovery id and the chain id that the `v` of a legacy transaction
tells. -/
def recoveryIdOfUntypedV (v : Nat) : Except Error (Nat × Option Nat) :=
  if replayOffset ≤ v then .ok ((v - replayOffset) % 2, some ((v - replayOffset) / 2))
  else (recoveryIdOfLegacyV v).map fun id => (id, none)

/-- The recovery id and the chain id that the `v` of a signature tells.  A chain
id on the transaction may not be another one. -/
def recoveryIdOfV (tx : Transaction) (v : Nat) : Except Error (Nat × Option Nat) :=
  if tx.isLegacy then
    match recoveryIdOfUntypedV v, tx.chainId with
    | .ok (_, some told), some c =>
      if c ≠ told then .error (.writing c (.chainIdMismatch c told))
      else recoveryIdOfUntypedV v
    | outcome, _ => outcome
  else recoveryIdOfTypedV v

/-- The recovery id of the signature on a transaction, and the chain id that
the signature tells. -/
def recoveryId (tx : Transaction) : Except Failure (Nat × Option Nat) := do
  match ← tx.signature? with
  | some sig =>
    if sig.isZero then throw (.error .missingSignature) else tx.recoveryIdOfV sig.v
  | none => throw (.error .missingSignature)

/-- The transaction whose pre-image was signed: a legacy one is for the chain
that the signature tells. -/
def asSigned (tx : Transaction) (chainId : Option Nat) : Transaction :=
  if tx.isLegacy then { tx with chainId := chainId.map fun c => (c : Int) } else tx

/-- The address that signed a transaction. -/
def recover (C : Curve) (tx : Transaction) : Except Failure Address := do
  let (id, chainId) ← tx.recoveryId
  let tx := tx.asSigned chainId
  match tx.r, tx.s with
  | some r, some s =>
    let digest ← tx.signingHash
    C.recoverAddress r s (id == 1) digest
  | _, _ => throw (.error .missingSignature)

end Transaction
end Signet
