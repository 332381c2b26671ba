import Signet.Bytes
import Signet.Numeral
import Signet.Text.Quoted

/-! # Hexadecimal text

Integers are written `0x` and lower case digits without leading zeros, with a
minus sign in front where they are negative; byte strings are written `0x` and
two digits a byte.  Readers take `0x` or `0X` or no prefix at all.
-/

namespace Signet.Hex

open Signet.Text

/-- Why a text is no hexadecimal integer or byte string. -/
inductive Error
  /-- nothing follows the prefix -/
  | noDigits
  /-- the text, less a minus sign, is no hexadecimal integer -/
  | notNumber (text : String)
  /-- an odd number of characters follows the prefix -/
  | oddLength
  /-- the characters are no pairs of digits -/
  | notBytes
  deriving DecidableEq, Repr

/-- Whether a text starts with `0x` or `0X`. -/
def hasPrefix : List Char → Bool
  | '0' :: 'x' :: _ => true
  | '0' :: 'X' :: _ => true
  | _ => false

/-- A text without its `0x` or `0X`; without either it stays as it is. -/
def removePrefix : List Char → List Char
  | '0' :: 'x' :: rest => rest
  | '0' :: 'X' :: rest => rest
  | s => s

/-- `0x` and the digits of `n`. -/
def ofNat (n : Nat) : String :=
  String.ofList ('0' :: 'x' :: digits 16 n)

/-- The prefixed form of an integer. -/
def ofInt (n : Int) : String :=
  let ds := digits 16 n.natAbs
  String.ofList (if n < 0 then '-' :: '0' :: 'x' :: ds else '0' :: 'x' :: ds)

/-- Reads a prefixed or bare integer: one minus sign is taken off, then a
prefix, and what is left is a base sixteen numeral with all its freedoms. -/
def readNumber (s : List Char) : Except Error Int :=
  let (negative, rest) : Bool × List Char :=
    match s with
    | '-' :: c :: r => (true, c :: r)
    | s => (false, s)
  let ds := removePrefix rest
  if ds.isEmpty then .error .noDigits
  else match Numeral.read? .hexadecimal ds with
    | some n => .ok (if negative then -n else n)
    | none => .error (.notNumber (String.ofList rest))

/-- The two digits of a byte. -/
def byteDigits (x : UInt8) : List Char :=
  [digitChar (x.toNat / 16), digitChar (x.toNat % 16)]

/-- Two digits a byte, without a prefix. -/
def bareBytes (b : Bytes) : List Char :=
  b.flatMap byteDigits

/-- A byte string as text, without a prefix. -/
def bare (b : Bytes) : String :=
  String.ofList (bareBytes b)

/-- A byte string as text. -/
def ofBytes (b : Bytes) : String :=
  String.ofList ('0' :: 'x' :: bareBytes b)

/-- Pairs of digits, between which ASCII blanks may stand. -/
def readPairs? : List Char → Option Bytes
  | [] => some []
  | [c] => if isAsciiBlank c then some [] else none
  | c :: d :: rest =>
    if isAsciiBlank c then readPairs? (d :: rest)
    else do
      let hi ← digit? 16 c
      let lo ← digit? 16 d
      return UInt8.ofNat (hi * 16 + lo) :: (← readPairs? rest)

/-- Reads a prefixed or bare byte string.  A lone `0` is one zero byte. -/
def readBytes (s : List Char) : Except Error Bytes :=
  let ds := removePrefix s
  if ds = ['0'] then .ok [0]
  else if ds.length % 2 ≠ 0 then .error .oddLength
  else match readPairs? ds with
    | some b => .ok b
    | none => .error .notBytes

/-- Reads a byte string written with blanks anywhere. -/
def readSpacedBytes (s : List Char) : Except Error Bytes :=
  readBytes (removeBlanks s)

end Signet.Hex
