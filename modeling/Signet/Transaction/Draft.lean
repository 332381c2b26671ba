import Signet.Signing.Argument

/-! # Transactions with fields of any kind

A draft is a transaction some of whose fields were replaced without validation
by values of any kind.  Nothing is refused until a field is used, and then the
first field that does not do decides the failure: integers are taken from what
has an integer part, byte strings from what has bytes, and comparisons are
those of values.  A draft without such fields behaves as its transaction.
-/

namespace Signet

/-- Whether a value counts as set: zero and what is empty do not. -/
def Datum.isTruthy : Datum → Bool
  | .null => false
  | .float x => !x.isInt 0
  | .unsigned _ n => n != 0
  | .text s => !s.isEmpty
  | .list items | .tuple items => !items.isEmpty
  | .dict entries => !entries.isEmpty
  | d =>
    match d.asInt?, d.asByteString? with
    | some i, _ => i != 0
    | none, some b => !b.isEmpty
    | none, none => true

open Transaction (Field WireValue)

/-- A transaction with the fields that were replaced without validation. -/
structure Draft where
  tx : Transaction
  loose : List (Field × Datum) := []
  deriving Repr

namespace Draft

/-- The value of a field. -/
def get (d : Draft) (f : Field) : Datum :=
  (d.loose.lookup f).getD (d.tx.get f)

/-- The draft after fields were set to valid values, which `tx` holds. -/
def settle (d : Draft) (fields : List Field) (tx : Transaction) : Draft :=
  ⟨tx, d.loose.filter fun e => e.1 ∉ fields⟩

/-- Puts a value into a field as it is. -/
def replace (d : Draft) (f : Field) (x : Datum) : Draft :=
  { d with loose := (f, x) :: d.loose.filter fun e => e.1 ≠ f }

/-- Whether all fields of two drafts are equal. -/
def eq (d e : Draft) : Bool :=
  if d.loose.isEmpty && e.loose.isEmpty then d.tx == e.tx
  else Field.all.all fun f => (d.get f).eq (e.get f)

/-! ## The wire form -/

/-- Whether the type equals the number of an envelope. -/
def isOf (d : Draft) (e : Envelope) : Bool :=
  (d.get .ty).eq (.int e.code)

/-- The envelope. -/
def envelope? (d : Draft) : Option Envelope :=
  [Envelope.legacy, .accessList, .dynamicFee].find? d.isOf

/-- What stands before the list. -/
def typePrefix (d : Draft) : Except Error Bytes :=
  if d.isOf .legacy then .ok [] else Datum.bytesOfItems [d.get .ty]

/-- The failure of a type without an envelope. -/
def unsupported {α : Type} (d : Draft) : Except Error α := do
  throw (.unsupportedForm (← (d.get .ty).display))

/-- The access tuples of a list that holds nothing else. -/
def accessTuples : List Datum → Except Error (List AccessTuple)
  | [] => .ok []
  | .accessTuple a :: rest => (accessTuples rest).map (a :: ·)
  | _ :: _ => .error .noAttribute

/-- What stands for a field on the wire. -/
def wireValue (d : Draft) (f : Field) : Except Error WireValue :=
  let x := d.get f
  match f, x with
  | .sender, .null | .recipient, .null => .ok (.bytes [])
  | .sender, x | .recipient, x | .data, x => x.rawBytes.map .bytes
  | .accessList, .null => .ok (.accessList [])
  | .accessList, x => do return .accessList (← accessTuples (← x.parts))
  | _, .null => .ok (.integer 0)
  | _, x => x.toInteger.map .integer

/-- What stands for fields on the wire, in order. -/
def wireValues (d : Draft) (fields : List Field) : Except Error (List WireValue) :=
  fields.mapM d.wireValue

/-- The wire form. -/
def encode (d : Draft) : Except Error Bytes := do
  if d.loose.isEmpty then d.tx.encode
  else
    let head ← d.typePrefix
    let some e := d.envelope? | d.unsupported
    return head ++
      (← Transaction.encodeValues (← d.wireValues (e.signedFields ++ Transaction.signatureFields)))

/-- What the chain id adds to the signed fields of a legacy transaction. -/
def replayValues (d : Draft) (e : Envelope) : Except Error (List WireValue) := do
  if e = .legacy ∧ (d.get .chainId).isTruthy then
    return [.integer (← (d.get .chainId).toInteger), .integer 0, .integer 0]
  else return []

/-- The bytes whose digest is signed. -/
def signingPreImage (d : Draft) : Except Error Bytes := do
  if d.loose.isEmpty then d.tx.signingPreImage
  else
    let some e := d.envelope? | d.unsupported
    let values ← d.wireValues e.signedFields
    let values := values ++ (← d.replayValues e)
    return (← d.typePrefix) ++ (← Transaction.encodeValues values)

/-- The digest of the wire form. -/
def hash (d : Draft) : Except Error Hash :=
  d.encode.map Keccak.digest

/-- The digest that is signed. -/
def signingHash (d : Draft) : Except Error Hash :=
  d.signingPreImage.map Keccak.digest

/-! ## Text and JSON -/

mutual

/-- The JSON form of a value in the place of an access list: numbers stay what
they are, byte strings are read as UTF-8, and models become dictionaries. -/
def plainJson : Datum → Except Error Datum
  | .list items => do return .list (← plainJsonAll items)
  | .tuple items => do return .list (← plainJsonAll items)
  | .dict entries => do return .dict (← plainJsonEntries entries)
  | .unsigned .. | .blockNumber _ => .error .serialization
  | d =>
    match d.dump? ⟨true, true, true⟩, d.asInt?, d.asByteString? with
    | some x, _, _ => x
    | none, some i, _ => .ok (match d with | .bool b => .bool b | _ => .int i)
    | none, none, some b =>
      match String.fromUTF8? ⟨b.toArray⟩ with
      | some s => .ok (.text s)
      | none => .error .serialization
    | none, none, none => .ok d

/-- The JSON forms of values in order. -/
def plainJsonAll : List Datum → Except Error (List Datum)
  | [] => .ok []
  | x :: r => do return (← plainJson x) :: (← plainJsonAll r)

/-- The JSON forms of the entries of a dictionary in order. -/
def plainJsonEntries : List (String × Datum) → Except Error (List (String × Datum))
  | [] => .ok []
  | (name, x) :: r => do return (name, ← plainJson x) :: (← plainJsonEntries r)

end

/-- The JSON form of an item of an access list.  What has members, but not those
of an access tuple, is taken for one that leaves all of them out. -/
def itemJson : Datum → Except Error Datum
  | .number _ | .hexNumber _ | .hexBytes _ | .keystoreHex _ | .address _ | .hash _
  | .keystoreAddress _ | .blockNumber _ | .signature .. | .transaction _ => .ok (.dict [])
  | d => plainJson d

/-- The JSON form of a field. -/
def fieldJson (d : Draft) (f : Field) : Except Error Datum :=
  match f, d.get f with
  | .ty, x =>
    match x.toInteger with
    | .ok i => .ok (.text (Hex.ofInt i))
    | .error _ => .error .serialization
  | _, .null => .ok .null
  | .accessList, .list items => do return .list (← items.mapM itemJson)
  | .accessList, x => plainJson x
  | _, x => x.display.map .text

/-- The JSON form. -/
def toJson (d : Draft) : Except Error Datum := do
  let style : DumpStyle := ⟨true, true, true⟩
  if d.loose.isEmpty then d.tx.dump style
  else
    let fields ← Field.all.mapM fun f => do
      return (⟨f.name, f.jsonName, ← d.fieldJson f⟩ : DumpField)
    return .dict (style.entries fields)

/-- The text of a draft. -/
def shown (d : Draft) : Except Error String := do
  let texts ← Field.all.mapM fun f => do
    match f, d.loose.lookup f with
    | .ty, none => return (f.name, ← d.tx.typeText)
    | f, _ => return (f.name, ← (d.get f).shown)
  return callText "Transaction" texts

/-! ## Signing and recovering -/

/-- The `v` of a signature with the recovery id `id`. -/
def signatureV (d : Draft) (id : Nat) : Except Error Int := do
  if !d.isOf .legacy then return id
  else if (d.get .chainId).isTruthy then
    return id + Transaction.replayOffset + 2 * (← (d.get .chainId).toInteger)
  else return id + legacyOffset

/-- Signs a draft: a copy with the signature and the signer's address. -/
def sign (C : Curve) (k : SecretKey) (d : Draft) : Except Error Draft := do
  if d.loose.isEmpty then return ⟨← d.tx.sign C k, []⟩
  else
    let address := C.address k
    let sender := d.get .sender
    if !sender.isNull && sender.ne (.address address) then
      throw (.signerText (← sender.display) address)
    let sig ← C.signDigest k (← d.signingHash)
    let v ← d.signatureV sig.recoveryId
    return d.settle [.sender, .v, .r, .s]
      { d.tx with sender := some address, v := some v, r := some sig.r, s := some sig.s }

/-- The signature on a draft, where all three of its fields are set. -/
def signature? (d : Draft) : Except Failure (Option Signature) :=
  match d.get .v, d.get .r, d.get .s with
  | .null, _, _ | _, .null, _ | _, _, .null => .ok none
  | v, r, s => ((Signature.ofEntries [("v", v), ("r", r), ("s", s)]).map some).toExcept

/-- The recovery id and the chain id that the `v` of a signature tells. -/
def recoveryIdOfV (d : Draft) (v : Nat) : Except Error (Nat × Option Nat) := do
  if (d.get .ty).ne (.int 0) then Transaction.recoveryIdOfTypedV v
  else
    let (id, told) ← Transaction.recoveryIdOfUntypedV v
    match told with
    | none => return (id, none)
    | some c =>
      let own := d.get .chainId
      if !own.isNull && own.ne (.int c) then
        let n ← own.toInteger
        throw (.writing n (.chainIdMismatch n c))
      else return (id, some c)

/-- The recovery id of the signature on a draft, and the chain id that the
signature tells. -/
def recoveryId (d : Draft) : Except Failure (Nat × Option Nat) := do
  if d.loose.isEmpty then d.tx.recoveryId
  else
    match ← d.signature? with
    | some sig =>
      if sig.isZero then throw (.error .missingSignature) else d.recoveryIdOfV sig.v
    | none => throw (.error .missingSignature)

/-- The address that signed a draft. -/
def recover (C : Curve) (d : Draft) : Except Failure Address := do
  if d.loose.isEmpty then d.tx.recover C
  else
    let (id, chainId) ← d.recoveryId
    let signed :=
      if d.isOf .legacy then
        d.settle [.chainId] { d.tx with chainId := chainId.map fun c => (c : Int) }
      else d
    let digest ← signed.signingHash
    let r ← (signed.get .r).toInteger
    let s ← (signed.get .s).toInteger
    C.recoverAddress r s (id == 1) digest

/-! ## The access list -/

/-- The access list with one tuple more, which `tuple` gives; only a list can
take it. -/
def append (d : Draft) (tuple : Except Failure AccessTuple) : Except Failure Datum := do
  match d.get .accessList with
  | .list items => return .list (items ++ [.accessTuple (← tuple)])
  | .buffer _ => do
    let _ ← tuple
    throw (.error (.kind .other))
  | _ => throw (.error .noAttribute)

/-- The access list with one storage key more, which `key` gives, in the tuple
at a place; negative places count from the end. -/
def appendKey (d : Draft) (place : Int) (key : Except Error Hash) : Except Error Datum := do
  let change (items : List Datum) : Except Error (List Datum) := do
    let i := if place < 0 then place + items.length else place
    if i < 0 ∨ (items.length : Int) ≤ i then throw .noPlace
    match items[i.toNat]? with
    | some (.accessTuple a) =>
      return items.set i.toNat
        (.accessTuple { a with storageKeys := a.storageKeys ++ [← key] })
    | _ => throw .noAttribute
  match d.get .accessList with
  | .list items => return .list (← change items)
  | .tuple items => return .tuple (← change items)
  | .dict _ => throw .noEntry
  | x =>
    match x, x.asByteString? with
    | .text _, _ | _, some _ => do
      let _ ← change (← x.parts)
      throw .noAttribute
    | _, _ => throw (.kind .other)

/-- The access tuples of a value that is a list of them, or nothing. -/
def typedAccessList? : Datum → Option (Option (List AccessTuple))
  | .null => some none
  | .list items =>
    match accessTuples items with
    | .ok l => some (some l)
    | .error _ => none
  | _ => none

/-- The draft with an access list. -/
def withAccessList (d : Draft) (x : Datum) : Draft :=
  match typedAccessList? x with
  | some l => d.settle [.accessList] { d.tx with accessList := l }
  | none => d.replace .accessList x

end Draft
end Signet
