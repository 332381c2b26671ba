import Signet.Error
import Signet.Rlp.Reading
import Signet.Transaction.Field

/-! # The wire form of a transaction

A legacy transaction is an RLP list; the other types are a type byte and an RLP
list.  In the list, an unset integer is zero, an unset recipient the empty
string and an unset access list the empty list; the signature stands at the
end.  The signed pre-image is the same list without the signature; a legacy
transaction for a chain other than zero adds the chain id and two zeros.
-/

namespace Signet

open Rlp

/-- The byte string of an item, with a proof that it has `n` bytes. -/
def Rlp.Item.asFixed (x : Item) (n : Nat) : Except DecodeError (FixedBytes n) :=
  match x with
  | .list _ => .error .notString
  | .bytes b =>
    if h : b.length = n then .ok ⟨b, h⟩ else .error (.wrongLength n b.length)

namespace Envelope

/-- What stands before the list: the type byte, none for a legacy transaction. -/
def typePrefix : Envelope → Bytes
  | .legacy => []
  | .accessList => [1]
  | .dynamicFee => [2]

open Transaction (Field)

/-- The fields that are signed, in the order of the wire. -/
def signedFields : Envelope → List Field
  | .legacy => [.nonce, .gasPrice, .gasLimit, .recipient, .value, .data]
  | .accessList =>
    [.chainId, .nonce, .gasPrice, .gasLimit, .recipient, .value, .data, .accessList]
  | .dynamicFee =>
    [.chainId, .nonce, .maxPriorityFeePerGas, .maxFeePerGas, .gasLimit, .recipient, .value,
     .data, .accessList]

end Envelope

/-- The fields of a signature, in the order of the wire. -/
def Transaction.signatureFields : List Transaction.Field :=
  [.v, .r, .s]

/-- An access tuple as an item. -/
def AccessTuple.toItem (a : AccessTuple) : Item :=
  .list [.bytes a.address.bytes, .list (a.storageKeys.map fun k => .bytes k.bytes)]

/-- The access tuple that an item writes. -/
def AccessTuple.ofItem (x : Item) : Except DecodeError AccessTuple := do
  match ← x.asList (some 2) with
  | [address, keys] =>
    let address ← address.asFixed 20
    let keys ← (← keys.asList none).mapM fun k => k.asFixed 32
    return ⟨address, keys⟩
  | xs => throw (.wrongCount 2 xs.length)

namespace Transaction

/-! ## Writing -/

/-- What stands for a field on the wire. -/
inductive WireValue
  | integer (i : Int)
  | bytes (b : Bytes)
  | accessList (l : List AccessTuple)
  deriving DecidableEq, Repr

/-- An integer as an item; a negative one has none. -/
def integerItem (i : Int) : Except Error Item :=
  if 0 ≤ i then .ok (.ofNat i.toNat)
  else .error (.writing i (.rlpEncoding (.negative (Numeral.decimal i))))

/-- The item of what stands for a field. -/
def WireValue.item : WireValue → Except Error Item
  | .integer i => integerItem i
  | .bytes b => .ok (.bytes b)
  | .accessList l => .ok (.list (l.map AccessTuple.toItem))

/-- What stands for a field on the wire: an unset integer is zero, and whatever
else is unset is empty. -/
def wireValue (tx : Transaction) (f : Field) : WireValue :=
  let integer (n : Option Int) : WireValue := .integer (n.getD 0)
  let address (a : Option Address) : WireValue := .bytes ((a.map (·.bytes)).getD [])
  match f with
  | .ty => .integer tx.ty
  | .sender => address tx.sender
  | .recipient => address tx.recipient
  | .nonce => integer tx.nonce
  | .gasLimit => integer tx.gasLimit
  | .gasPrice => integer tx.gasPrice
  | .maxPriorityFeePerGas => integer tx.maxPriorityFeePerGas
  | .maxFeePerGas => integer tx.maxFeePerGas
  | .value => integer tx.value
  | .data => .bytes tx.data
  | .chainId => integer tx.chainId
  | .accessList => .accessList (tx.accessList.getD [])
  | .v => integer tx.v
  | .r => integer tx.r
  | .s => integer tx.s

/-- The items of fields, or the first error among them. -/
def collect : List (Except Error Item) → Except Error (List Item)
  | [] => .ok []
  | .error e :: _ => .error e
  | .ok x :: r => (collect r).map (x :: ·)

/-- The RLP list of what stands for fields. -/
def encodeValues (values : List WireValue) : Except Error Bytes :=
  (collect (values.map WireValue.item)).map encodeList

/-- The error of a type number without an envelope. -/
def unsupported (tx : Transaction) : Error :=
  .writing tx.ty (.unsupportedType tx.ty)

/-- The wire form. -/
def encode (tx : Transaction) : Except Error Bytes :=
  match tx.envelope? with
  | some e =>
    (encodeValues ((e.signedFields ++ signatureFields).map tx.wireValue)).map (e.typePrefix ++ ·)
  | none => .error (if 0 ≤ tx.ty ∧ tx.ty < 256 then tx.unsupported else .range)

/-- What a legacy transaction for the chain `chainId` adds to the signed fields,
where that is not zero. -/
def replayValues (e : Envelope) (chainId : Int) : List WireValue :=
  if e = .legacy ∧ chainId ≠ 0 then [.integer chainId, .integer 0, .integer 0] else []

/-- The bytes whose digest is signed. -/
def signingPreImage (tx : Transaction) : Except Error Bytes :=
  match tx.envelope? with
  | some e =>
    (encodeValues (e.signedFields.map tx.wireValue ++ replayValues e (tx.chainId.getD 0))).map
      (e.typePrefix ++ ·)
  | none => .error tx.unsupported

/-! ## Reading -/

/-- The value of `v` from which on it tells a chain id. -/
def replayOffset : Nat := 35

/-- An integer field, which is set. -/
def integerField (x : Item) : Except DecodeError (Option Int) :=
  x.asNat.map fun n => some (n : Int)

/-- The recipient: twenty bytes, or none at all. -/
def recipientField (x : Item) : Except DecodeError (Option Address) := do
  let b ← x.asBytes none
  if b.isEmpty then return none else return some (← x.asFixed 20)

/-- The access list. -/
def accessListField (x : Item) : Except DecodeError (Option (List AccessTuple)) := do
  return some (← (← x.asList none).mapM AccessTuple.ofItem)

/-- The signature fields of a transaction; all zeros count as unset. -/
def signatureOfItems (typed : Bool) (v r s : Item) : Except Error (Option (Nat × Nat × Nat)) := do
  let v ← v.asNat.mapError .rlpDecoding
  let r ← r.asNat.mapError .rlpDecoding
  let s ← s.asNat.mapError .rlpDecoding
  if uint256Ceiling ≤ r ∨ uint256Ceiling ≤ s then throw (.component .wideScalar)
  else if typed ∧ 0xFF < v then throw (.writing v (.component (.wideV v)))
  else if v = 0 ∧ r = 0 ∧ s = 0 then return none
  else return some (v, r, s)

/-- A transaction with the signature that was read. -/
def withSignature (tx : Transaction) : Option (Nat × Nat × Nat) → Transaction
  | none => tx
  | some (v, r, s) => { tx with v := some v, r := some r, s := some s }

/-- The chain id that the `v` of a legacy signature tells. -/
def chainIdOfSignature : Option (Nat × Nat × Nat) → Option Int
  | some (v, _, _) => if replayOffset ≤ v then some ((v - replayOffset) / 2 : Nat) else none
  | none => none

/-- Reads the fields of a legacy transaction. -/
def ofLegacyItems : List Item → Except Error Transaction
  | [nonce, gasPrice, gasLimit, recipient, value, data, v, r, s] => do
    let signature ← signatureOfItems false v r s
    let tx ← (do
      let nonce ← integerField nonce
      let gasPrice ← integerField gasPrice
      let gasLimit ← integerField gasLimit
      let recipient ← recipientField recipient
      let value ← integerField value
      let data ← data.asBytes none
      return { nonce, gasPrice, gasLimit, recipient, value, data,
               chainId := chainIdOfSignature signature : Transaction }).mapError .rlpDecoding
    return tx.withSignature signature
  | xs => .error (.rlpDecoding (.wrongCount 9 xs.length))

/-- Reads the fields of an access list transaction. -/
def ofAccessListItems : List Item → Except Error Transaction
  | [chainId, nonce, gasPrice, gasLimit, recipient, value, data, accessList, v, r, s] => do
    let tx ← (do
      let chainId ← integerField chainId
      let nonce ← integerField nonce
      let gasPrice ← integerField gasPrice
      let gasLimit ← integerField gasLimit
      let recipient ← recipientField recipient
      let value ← integerField value
      let data ← data.asBytes none
      let accessList ← accessListField accessList
      return { ty := 1, chainId, nonce, gasPrice, gasLimit, recipient, value, data,
               accessList : Transaction }).mapError .rlpDecoding
    return tx.withSignature (← signatureOfItems true v r s)
  | xs => .error (.rlpDecoding (.wrongCount 11 xs.length))

/-- Reads the fields of a dynamic fee transaction. -/
def ofDynamicFeeItems : List Item → Except Error Transaction
  | [chainId, nonce, tip, cap, gasLimit, recipient, value, data, accessList, v, r, s] => do
    let tx ← (do
      let chainId ← integerField chainId
      let nonce ← integerField nonce
      let maxPriorityFeePerGas ← integerField tip
      let maxFeePerGas ← integerField cap
      let gasLimit ← integerField gasLimit
      let recipient ← recipientField recipient
      let value ← integerField value
      let data ← data.asBytes none
      let accessList ← accessListField accessList
      return { ty := 2, chainId, nonce, maxPriorityFeePerGas, maxFeePerGas, gasLimit, recipient,
               value, data, accessList : Transaction }).mapError .rlpDecoding
    return tx.withSignature (← signatureOfItems true v r s)
  | xs => .error (.rlpDecoding (.wrongCount 12 xs.length))

/-- Reads the list that `item` gives with `f`: the transaction, and how many
bytes the list took. -/
def decodeList (f : List Item → Except Error Transaction) (count : Nat)
    (item : Except Error (Item × Nat)) : Except Error (Transaction × Nat) := do
  let (x, n) ← item
  let items ← (x.asList (some count)).mapError .rlpDecoding
  return (← f items, n)

/-- The item at the start of `b`, and how many bytes it took. -/
def firstItem (b : Bytes) : Except Error (Item × Nat) :=
  (decodeItem b).mapError .rlpDecoding

/-- Reads the transaction at the start of `b`: the transaction, and how many
bytes it took. -/
def decode (b : Bytes) : Except Error (Transaction × Nat) :=
  match b with
  | [] => .error (.rlpDecoding .emptyTransaction)
  | first :: rest =>
    if 0xC0 ≤ first then decodeList ofLegacyItems 9 (firstItem b)
    else if first = 1 then
      (decodeList ofAccessListItems 11 (firstItem rest)).map fun p => (p.1, p.2 + 1)
    else if first = 2 then
      (decodeList ofDynamicFeeItems 12 (firstItem rest)).map fun p => (p.1, p.2 + 1)
    else .error (.unsupportedType first.toNat)

end Transaction
end Signet
