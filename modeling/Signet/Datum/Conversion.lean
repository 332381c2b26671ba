import Signet.Datum.Text

/-! # Byte strings and integers from values of any kind

`rawBytes` gives the bytes a value holds as it is: an integer stands for that
many zero bytes, and text has none.  `toBytes` reads text as hexadecimal with
blanks anywhere and takes no integers, `toFixedBytes` takes integers too, and
`toNumber` reads integers.  The constructors of the byte types and of block
numbers are built on these.
-/

namespace Signet
namespace Datum

/-- The first integer beyond those that tell a size. -/
def indexCeiling : Int := (1 <<< 63 : Nat)

/-- What a byte string takes beside its bytes. -/
def byteStringOverhead : Int := 33

/-- The length from which on a byte string takes more memory than there is.  How much there
is differs between machines: this is the model's bound. -/
def memoryCeiling : Int := (1 <<< 40 : Nat)

/-- As many zero bytes as `n` says. -/
def zerosOf (n : Int) : Except Error Bytes :=
  if n < -indexCeiling ∨ indexCeiling - byteStringOverhead ≤ n then .error .overflow
  else if n < 0 then .error .range
  else if memoryCeiling ≤ n then .error .memory
  else .ok (Bytes.zeros n.toNat)

/-- A value that stands for an integer in a list of bytes or a count. -/
def index? : Datum → Option Int
  | .unsigned _ n => some n
  | d => d.asInt?

/-- Whether a value is a number below `n`. -/
def isBelow (d : Datum) (n : Int) : Except Error Bool :=
  match d with
  | .float x => .ok (x.isBelow n)
  | d =>
    match d.asInt? with
    | some i => .ok (decide (i < n))
    | none => .error (.kind .other)

/-- Whether a value is a number above `n`. -/
def isAbove (d : Datum) (n : Int) : Except Error Bool :=
  match d with
  | .float x => .ok (x.isAbove n)
  | d =>
    match d.asInt? with
    | some i => .ok (decide (n < i))
    | none => .error (.kind .other)

/-- An integer of an unsigned type. -/
def unsignedOfInt (type : UnsignedType) (i : Int) : Except Error Datum :=
  if type.admits i then .ok (.unsigned type i.toNat) else .error .overflow

/-- The bytes that a list of integers spells. -/
def bytesOfItems : List Datum → Except Error Bytes
  | [] => .ok []
  | x :: r =>
    match x.index? with
    | none => .error (.kind .other)
    | some i =>
      if 0 ≤ i ∧ i < 256 then do return UInt8.ofNat i.toNat :: (← bytesOfItems r)
      else .error .range

/-- The bytes of a value as it is. -/
def rawBytes (d : Datum) : Except Error Bytes :=
  match d.asByteString?, d with
  | some b, _ => .ok b
  | _, .list items | _, .tuple items => bytesOfItems items
  | _, .dict [] => .ok []
  | _, d =>
    match d.index? with
    | some n => zerosOf n
    | none => .error (.kind .other)

/-- The bytes of a byte string, a list of integers or hexadecimal text. -/
def toBytes (d : Datum) : Except Error Bytes :=
  match d with
  | .null => .error (.kind .noneAsBytes)
  | .list items => bytesOfItems items
  | .text s => (Hex.readSpacedBytes s.toList).mapError .hex
  | d =>
    match d.asByteString? with
    | some b => .ok b
    | none => .error (.kind (.bytes d.kindName))

/-- The integer that a text writes: hexadecimal where `0x` follows the minus
signs in front, decimal otherwise. -/
def numberOfText (s : String) : Except Error Int :=
  let t := Text.strip s.toList
  if Hex.hasPrefix (t.dropWhile (· = '-')) then (Hex.readNumber t).mapError .hex
  else match Numeral.read? .decimal t with
    | some n => .ok n
    | none => .error .numeral

/-- The integer of an integer, a text or a byte string. -/
def toNumber (d : Datum) : Except Error Int :=
  match d.asInt?, d, d.asByteString? with
  | some i, _, _ => .ok i
  | _, .text s, _ => numberOfText s
  | _, _, some b => .ok (Bytes.toNat b)
  | _, d, _ => .error (.kind (.number d.kindName))

/-- The integer part of a number, or the integer that a text or a byte string
writes in decimal. -/
def toInteger (d : Datum) : Except Error Int :=
  match d with
  | .unsigned _ n => .ok n
  | .float .nan => .error .numeral
  | .float x =>
    match x.truncate? with
    | some i => .ok i
    | none => .error .overflow
  | .text s =>
    match Numeral.read? .decimal s.toList with
    | some i => .ok i
    | none => .error .numeral
  | d =>
    match d.asInt?, d.asByteString? with
    | some i, _ => .ok i
    | _, some b =>
      match Numeral.readBytes? .decimal b with
      | some i => .ok i
      | none => .error .numeral
    | _, _ => .error (.kind .other)

/-- The number of parts of a value that has parts. -/
def size (d : Datum) : Except Error Nat :=
  match d with
  | .text s => .ok s.length
  | .list items | .tuple items => .ok items.length
  | .dict entries => .ok entries.length
  | d =>
    match d.asByteString? with
    | some b => .ok b.length
    | none => .error (.kind .other)

end Datum

/-- `n` bytes from a value. -/
def FixedBytes.ofDatum (n : Nat) (leftPadding : Bool) (d : Datum) :
    Except Error (FixedBytes n) :=
  match d.asInt? with
  | some i => (FixedBytes.ofInt n i).mapError .length
  | none => do (FixedBytes.ofBytes n leftPadding (← d.toBytes)).mapError .length

/-- Why a value has no form of `size` bytes, where no byte string has that size:
an integer cannot be that long, a byte string is longer than a negative size,
and padding up to a great one takes too much. -/
def Datum.refuseSize (d : Datum) (size : Int) (leftPadding : Bool) : Except Error Bytes :=
  let tooWide := size < -indexCeiling ∨ indexCeiling - byteStringOverhead ≤ size
  match d.asInt? with
  | some _ =>
    if tooWide then .error (.length (.integerTooWide size))
    else .error (if size < 0 then .range else .memory)
  | none => do
    let b ← d.toBytes
    if size < 0 then throw (.length (.tooLong b.length size))
    else if !leftPadding then throw (.length (.tooShort b.length size))
    else throw (if tooWide then .overflow else .memory)

/-- `size` bytes from an integer or from what `toBytes` takes. -/
def Datum.toFixedBytes (d : Datum) (size : Int) (leftPadding : Bool) : Except Error Bytes :=
  if 0 ≤ size ∧ size < memoryCeiling then
    (FixedBytes.ofDatum size.toNat leftPadding d).map (·.bytes)
  else d.refuseSize size leftPadding

/-- The address of a value: an integer, or exactly twenty bytes. -/
def Address.ofDatum (d : Datum) : Except Error Address :=
  FixedBytes.ofDatum 20 false d

/-- The digest of a value: an integer, or up to 32 bytes, padded on the left. -/
def Hash.ofDatum (d : Datum) : Except Error Hash :=
  FixedBytes.ofDatum 32 true d

namespace BlockNumber

/-- Whether the first two characters behind the minus signs in front of a text
are `0x`, in either case. -/
def isHexText (s : List Char) : Bool :=
  ((s.dropWhile (· = '-')).take 2).map Char.toLower = ['0', 'x']

/-- The integer that a text without blanks around it writes. -/
def numberOfText (s : List Char) : Except Error Int :=
  if isHexText s then (Hex.readNumber s).mapError .hex
  else match Numeral.read? .decimal s with
    | some n => .ok n
    | none => .error .numeral

/-- The block of an integer that is shown in decimal. -/
def ofDecimal (n : Int) : Except Error BlockNumber :=
  match (ofInt n (Numeral.decimal n)).mapError .blockNumber with
  | .error e => .error (if n < 0 then .writing n e else e)
  | .ok b => .ok b

/-- The block number of a value: a tag, a text or an integer that is no truth
value. -/
def ofDatum (d : Datum) : Except Error BlockNumber :=
  match d with
  | .blockNumber n => .ok n
  | .text s =>
    match BlockTag.ofText? (Text.strip s.toList) with
    | some t => .ok (.tag t)
    | none => do ofDecimal (← numberOfText (Text.strip s.toList))
  | .int n | .number n => ofDecimal n
  | .hexNumber n => (ofInt n (Hex.ofInt n)).mapError .blockNumber
  | d => .error (.kind (.blockNumber d.kindName))

end BlockNumber

/-- The types whose values are shown in hexadecimal. -/
inductive HexKind
  | bytes
  | keystoreHex
  | address
  | keystoreAddress
  | hash
  /-- integers -/
  | number
  deriving DecidableEq, Repr

namespace HexKind

/-- What a value of the type is. -/
def Value : HexKind → Type
  | .bytes | .keystoreHex => Bytes
  | .address | .keystoreAddress => Address
  | .hash => Hash
  | .number => Int

/-- Whether a value of the type is a byte string. -/
def holdsBytes : HexKind → Bool
  | .number => false
  | _ => true

/-- A value of the type as a datum. -/
def datum : (k : HexKind) → k.Value → Datum
  | .bytes, b => .hexBytes b
  | .keystoreHex, b => .keystoreHex b
  | .address, a => .address a
  | .keystoreAddress, a => .keystoreAddress a
  | .hash, h => .hash h
  | .number, n => .hexNumber n

/-- The value of the type that is constructed from a datum. -/
def construct : (k : HexKind) → Datum → Except Error k.Value
  | .bytes, d | .keystoreHex, d => d.toBytes
  | .address, d | .keystoreAddress, d => Address.ofDatum d
  | .hash, d => Hash.ofDatum d
  | .number, d => d.toNumber

end HexKind

end Signet
