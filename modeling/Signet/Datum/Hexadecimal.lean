import Signet.Datum.Equality

/-! # Hexadecimal text as a value of any kind

The readers of hexadecimal text look at the parts of what they are given: its
first part, its second, and those behind a prefix.  Values other than text have
parts too, so a list may carry a prefix, though only text and, for integers,
byte strings can be read in the end.  A dictionary has names but no places.
-/

namespace Signet
namespace Datum

/-- A value without its first `n` parts. -/
def dropParts (n : Nat) : Datum → Datum
  | .text s => .text (String.ofList (s.toList.drop n))
  | .list items => .list (items.drop n)
  | .tuple items => .tuple (items.drop n)
  | d => d

/-- The texts that stand somewhere in the letters `xX` of the two prefixes. -/
def prefixLetters : List String := ["", "x", "X", "xX"]

/-- Whether a value is such a text. -/
def isPrefixLetter : Datum → Except Error Bool
  | .text s => .ok (prefixLetters.contains s)
  | _ => .error (.kind .other)

/-- Whether a value starts with `0x` or `0X`. -/
def hasHexPrefix (d : Datum) : Except Error Bool :=
  match d with
  | .text s => .ok (Hex.hasPrefix s.toList)
  | .list (x :: y :: _) | .tuple (x :: y :: _) =>
    if x.eq (.text "0") then y.isPrefixLetter else .ok false
  | .dict (_ :: _ :: _) => .error .noEntry
  | d => d.size.map fun _ => false

/-- A value without its `0x` or `0X`. -/
def withoutHexPrefix (d : Datum) : Except Error Datum := do
  if ← d.hasHexPrefix then return d.dropParts 2 else return d

/-- Whether a value starts with a minus sign and has more parts. -/
def hasMinus (d : Datum) : Except Error Bool :=
  match d with
  | .list (x :: _ :: _) | .tuple (x :: _ :: _) => .ok (x.eq (.text "-"))
  | .dict (_ :: _ :: _) => .error .noEntry
  | d => d.size.map fun _ => false

/-- The integer that a text or a byte string writes in hexadecimal. -/
def readHexInteger (d : Datum) : Except Error Int :=
  match d with
  | .text s => (Hex.readNumber s.toList).mapError .hex
  | d => do
    let digits ← (if ← d.hasMinus then d.dropParts 1 else d).withoutHexPrefix
    if (← digits.size) = 0 then throw (.hex .noDigits)
    match digits.asByteString? with
    | none => throw (.kind .other)
    | some b =>
      match Numeral.readBytes? .hexadecimal b with
      | some n => return n
      | none => throw (.hexBytes (← digits.shown))

/-- The bytes that a text writes in hexadecimal.  What equals the lone digit zero
is one zero byte, as a digest of zeros does. -/
def readHexBytes (d : Datum) : Except Error Bytes :=
  match d with
  | .text s => (Hex.readBytes s.toList).mapError .hex
  | d => do
    let digits ← d.withoutHexPrefix
    if digits.eq (.text "0") then return [0]
    else if (← digits.size) % 2 ≠ 0 then throw (.hex .oddLength)
    else throw (.kind .other)

end Datum
end Signet
