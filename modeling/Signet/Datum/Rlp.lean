import Signet.Datum.Conversion
import Signet.Datum.Dump
import Signet.Rlp.Reading

/-! # Encoding values of any kind

Text is encoded as its UTF-8 form, a truth value as one byte or none, an
integer as its shortest byte string, a byte string as it is, and a list or tuple
as the list of its items.  Negative integers and all other kinds have no
encoding.
-/

namespace Signet
namespace Datum

open Rlp

/-- The full name of a datum's kind, as the text of an encoding error has it. -/
def className (d : Datum) : String :=
  let module :=
    match d with
    | .signature .. | .accessTuple _ | .blockNumber _ =>
      "ethereum_signing.base_types.composite_types."
    | .transaction _ => "ethereum_signing.transactions."
    | .keystore _ => "ethereum_signing.keystore."
    | _ => ""
  "<class '" ++ module ++ d.kindName ++ "'>"

/-- An integer as an item; a negative one is shown as its kind writes it. -/
def itemOfInt (d : Datum) (n : Int) : Except Error Item :=
  if 0 ≤ n then .ok (.ofNat n.toNat)
  else do throw (.rlpEncoding (.negative (← d.display)))

mutual

/-- The item that a value stands for. -/
def toItem : Datum → Except Error Item
  | .text s => .ok (.bytes (Bytes.ofText s))
  | .bool b => .ok (.bytes (if b then [1] else []))
  | .unsigned _ n => .ok (.ofNat n)
  | .list items => do return .list (← toItems items)
  | .tuple items => do return .list (← toItems items)
  | d =>
    match d.asInt?, d.asByteString? with
    | some n, _ => itemOfInt d n
    | none, some b => .ok (.bytes b)
    | none, none => .error (.rlpEncoding (.unsupported d.className))

/-- The items that values stand for, in order. -/
def toItems : List Datum → Except Error (List Item)
  | [] => .ok []
  | x :: r => do return (← toItem x) :: (← toItems r)

end

/-- How many lists may stand inside one another in a value that is encoded. -/
def encodingDepth : Nat := 246

/-- Refuses items that lie too deep in lists. -/
def checkDepth (xs : List Item) : Except Error (List Item) :=
  if encodingDepth < Item.depthAll xs then .error .tooDeep else .ok xs

/-- The encoding of a value. -/
def encode (d : Datum) : Except Error Bytes := do
  return encodeAll (← checkDepth [← d.toItem])

/-- The values that a value which has parts gives one after the other: the
items of a list, the characters of a text, the bytes of a byte string, the
names in a dictionary and the members of a model. -/
def parts (d : Datum) : Except Error (List Datum) :=
  match d with
  | .list items | .tuple items => .ok items
  | .text s => .ok (s.toList.map fun c => .text (String.singleton c))
  | .dict entries => .ok (entries.map fun e => .text e.1)
  | d =>
    match d.asByteString?, d.members? with
    | some b, _ => .ok (b.map fun x => .int x.toNat)
    | none, some items => .ok items
    | none, none => .error (.kind .other)

/-- The encodings of the parts of a value, one after the other. -/
def encodeParts (d : Datum) : Except Error Bytes := do
  return encodeAll (← checkDepth (← toItems (← d.parts)))

/-- The parts of a value, encoded as a list. -/
def encodeSequence (d : Datum) : Except Error Bytes := do
  return encodeList (← checkDepth (← toItems (← d.parts)))

/-- A byte string, encoded.  A value of one part that is below `0x80` is taken
for its own encoding, whatever holds it. -/
def encodeByteString (d : Datum) : Except Error Datum :=
  match d.asByteString?, d with
  | some b, _ => .ok (.bytes (encodeBytes b))
  | none, .list [x] | none, .tuple [x] => do
    if ← x.isBelow 0x80 then return d else throw (.kind .other)
  | none, .dict [_] => .error .noEntry
  | none, _ => .error (.kind .other)

/-- An item as a value. -/
def ofItem : Item → Datum
  | .bytes b => .bytes b
  | .list xs => .list (xs.map ofItem)

/-- A value as a byte string, of `length` bytes where a length is given. -/
def asString (d : Datum) (length : Option Int) : Except Error Bytes :=
  match d.asBytes?, length with
  | none, _ => .error (.rlpDecoding .notString)
  | some b, none => .ok b
  | some b, some n =>
    if (b.length : Int) = n then .ok b else .error (.rlpDecoding (.wrongLength n b.length))

/-- A value as the integer that its bytes write. -/
def asUnsigned (d : Datum) : Except Error Nat :=
  match d.asBytes? with
  | some b => ((Item.bytes b).asNat).mapError .rlpDecoding
  | none => .error (.rlpDecoding .notInteger)

/-- A value as a list, with `length` parts where a length is given. -/
def asSequence (d : Datum) (length : Option Int) : Except Error Datum :=
  match d.asBytes?, length with
  | some _, _ => .error (.rlpDecoding .notList)
  | none, none => .ok d
  | none, some n => do
    let m ← d.size
    if (m : Int) = n then return d else throw (.rlpDecoding (.wrongCount n m))

end Datum
end Signet
