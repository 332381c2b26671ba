import Signet.Datum.Equality
import Signet.Datum.Rlp
import Signet.Transaction.Wire

/-! # Reading RLP from values of any kind

A byte string is read byte by byte, and so is a list, whose parts need to be
bytes only where they are looked at: a prefix is compared with the bounds of
the forms, length bytes are read as an integer, and a payload has to be bytes as
a whole.  A prefix that is a floating point number tells a length of its kind,
which no payload can be cut out by.  A dictionary has names but no places;
whatever else is not empty has no bytes to read.
-/

namespace Signet
namespace Datum

open Rlp

/-- What RLP is read from. -/
inductive Source
  | bytes (b : Bytes)
  | parts (items : List Datum)
  deriving Repr

/-- What a value offers to read RLP from. -/
def source (d : Datum) : Except Error Source :=
  match d with
  | .list items | .tuple items => .ok (.parts items)
  | .text "" | .dict [] => .ok (.bytes [])
  | .dict _ => .error .noEntry
  | d =>
    match d.asByteString? with
    | some b => .ok (.bytes b)
    | none => .error (.kind .other)

/-- Reads the length behind a prefix that announces `count` length parts. -/
def readLongHeader (isList : Bool) (count : Nat) (rest : List Datum) : Except Error Header := do
  if hasFewer rest count then throw (.rlpDecoding .truncatedLength)
  if (rest.head?.map (·.eq (.int 0))).getD false then throw (.rlpDecoding .zeroLedLength)
  let length := Bytes.toNat (← bytesOfItems (rest.take count))
  if length < longPayload then throw (.rlpDecoding .longFormOfShort)
  else return ⟨isList, 1 + count, length⟩

/-- Reads the prefix at the start of the parts of a list, where it is an integer. -/
def readIntHeader : List Datum → Except Error Header
  | [] => .error (.rlpDecoding .empty)
  | first :: rest => do
    let within (h : Header) : Except Error Header :=
      (h.within (first :: rest)).mapError .rlpDecoding
    if ← first.isBelow 0x80 then return ⟨false, 0, 1⟩
    let some i := first.asInt? | throw (.kind .other)
    let n := i.toNat
    if n = 0x81 then
      match rest with
      | [] => throw (.rlpDecoding .truncatedString)
      | x :: _ =>
        if ← x.isBelow 0x80 then throw (.rlpDecoding .prefixedByte) else return ⟨false, 1, 1⟩
    else if n < 0x80 + longPayload then within ⟨false, 1, n - 0x80⟩
    else if n < 0xC0 then within (← readLongHeader false (n - 0xB7) rest)
    else if n < 0xC0 + longPayload then within ⟨true, 1, n - 0xC0⟩
    else within (← readLongHeader true (n - 0xF7) rest)

/-- Reads the prefix `x`, which is not below `0x80`; `rest` is what follows it. -/
def readFloatHeader (x : Binary64) (rest : List Datum) : Except Error (Bool × Binary64) := do
  let size : Rat := ((rest.length + 1 : Nat) : Rat)
  let short (isList : Bool) (length : Rat) : Except Error (Bool × Binary64) :=
    let shown := Binary64.ofRat (decide (length < 0)) length.abs
    if size < 1 + length then .error (.rlpDecoding (.overrunForm shown.text rest.length))
    else .ok (isList, shown)
  let long (count : Rat) : Except Error (Bool × Binary64) :=
    if size < 1 + count then .error (.rlpDecoding .truncatedLength)
    else if (rest.head?.map (·.eq (.int 0))).getD false then .error (.rlpDecoding .zeroLedLength)
    else .error (.kind .other)
  match x.toRat?, rest with
  | none, _ => throw (.rlpDecoding .truncatedLength)
  | some q, rest =>
    if q = 0x81 then
      match rest with
      | [] => throw (.rlpDecoding .truncatedString)
      | y :: _ => if ← y.isBelow 0x80 then throw (.rlpDecoding .prefixedByte) else short false 1
    else if q ≤ 0xB7 then short false (q - 0x80)
    else if q ≤ 0xBF then long (q - 0xB7)
    else if q ≤ 0xF7 then short true (q - 0xC0)
    else long (q - 0xF7)

/-- What a prefix tells, by its kind. -/
inductive PartHeader
  | exact (h : Header)
  /-- a prefix that is a floating point number -/
  | float (isList : Bool) (length : Binary64)
  deriving Repr

/-- Whether the item is a list, where its payload starts and how long it is. -/
def PartHeader.toDatum : PartHeader → Datum
  | .exact h => .tuple [.bool h.isList, .int h.offset, .int h.length]
  | .float isList length => .tuple [.bool isList, .int 1, .float length]

/-- Reads the prefix of the item at the start of the parts of a list. -/
def readHeader (items : List Datum) : Except Error PartHeader :=
  match items with
  | .float x :: rest =>
    if x.isBelow 0x80 then .ok (.exact ⟨false, 0, 1⟩)
    else (readFloatHeader x rest).map fun h => .float h.1 h.2
  | items => (readIntHeader items).map .exact

/-- Reads the item at the start of the parts of a list: the item, and how many
parts it took. -/
def readItem (items : List Datum) : Except Error (Item × Nat) := do
  let .exact h ← readHeader items | throw (.kind .other)
  let payload ← bytesOfItems ((items.drop h.offset).take h.length)
  if h.isList then
    return (.list (← (decodeAllAt 1 payload).mapError .rlpDecoding), h.size)
  else return (.bytes payload, h.size)

/-- Reads items until the parts of a list end. -/
def readItems : List Datum → Except Error (List Item)
  | [] => .ok []
  | first :: rest =>
    match readItem (first :: rest) with
    | .error e => .error e
    | .ok (x, n) => (readItems (rest.drop (n - 1))).map (x :: ·)
termination_by items => items.length
decreasing_by simp only [List.length_drop, List.length_cons]; omega

/-- The prefix of the item at the start of a value. -/
def decodeHeader (d : Datum) : Except Error PartHeader := do
  match ← d.source with
  | .bytes b => ((Rlp.readHeader b).mapError .rlpDecoding).map .exact
  | .parts items => readHeader items

/-- The item at the start of a value, and how much of the value it took. -/
def decodeItem (d : Datum) : Except Error (Item × Nat) := do
  match ← d.source with
  | .bytes b => (Rlp.decodeItem b).mapError .rlpDecoding
  | .parts items => readItem items

/-- The items of a value; the names of a dictionary cannot be cut up. -/
def decodeAll (d : Datum) : Except Error (List Item) := do
  match d with
  | .dict (_ :: _) => throw (.kind .other)
  | d =>
    match ← d.source with
    | .bytes b => (Rlp.decodeAll b).mapError .rlpDecoding
    | .parts items => readItems items

/-- The one item of a value. -/
def decode (d : Datum) : Except Error Item := do
  let (x, n) ← d.decodeItem
  let size ← d.size
  if n = size then return x else throw (.rlpDecoding (.trailing (size - n)))

end Datum

namespace Transaction

/-- The refusal of a value as the type byte of a transaction. -/
def refuseType (d : Datum) : Except Error (Transaction × Nat) := do
  throw (.unsupportedForm (← d.display))

/-- The transaction at the start of the parts of a list, and how many parts it
took. -/
def ofParts : List Datum → Except Error (Transaction × Nat)
  | [] => .error (.rlpDecoding .emptyTransaction)
  | first :: rest => do
    if !(← first.isBelow 0xC0) then
      decodeList ofLegacyItems 9 (Datum.readItem (first :: rest))
    else if first.eq (.int 1) then
      (decodeList ofAccessListItems 11 (Datum.readItem rest)).map fun p => (p.1, p.2 + 1)
    else if first.eq (.int 2) then
      (decodeList ofDynamicFeeItems 12 (Datum.readItem rest)).map fun p => (p.1, p.2 + 1)
    else refuseType first

/-- The transaction at the start of a value, and how much of the value it
took. -/
def ofEncoded (d : Datum) : Except Error (Transaction × Nat) := do
  match ← d.source with
  | .bytes b => decode b
  | .parts items => ofParts items

/-- Whether the encoding of a transaction is the part of a value that it was
read from; a list of bytes is no byte string. -/
def isEncodedBy (tx : Transaction) (d : Datum) (size : Nat) : Except Error Bool := do
  let encoded ← tx.encode
  return (d.asByteString?.map fun b => encoded == b.take size).getD false

end Transaction
end Signet
