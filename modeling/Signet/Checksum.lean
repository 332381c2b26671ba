import Signet.Datum.Conversion
import Signet.Digest.Keccak

/-! # Checksummed addresses

The letters of an address in hexadecimal carry a checksum in their case: a
letter is upper case where the digit at its place in the Keccak-256 digest of
the lower case text is eight or more.
-/

namespace Signet

/-- The byte string of a text that holds ASCII only. -/
def asciiBytes (s : List Char) : Bytes :=
  s.map fun c => UInt8.ofNat c.toNat

/-- Whether the digit at place `i` of a digest is eight or more. -/
def highDigit (digest : Bytes) (i : Nat) : Bool :=
  let x := (digest.drop (i / 2)).headD 0
  if i % 2 = 0 then 0x80 ≤ x else 0x08 ≤ x % 16

/-- The digits of an address with the case that the digest tells. -/
def checksumDigits (digest : Bytes) : Nat → List Char → List Char
  | _, [] => []
  | i, c :: r => (if highDigit digest i then c.toUpper else c) :: checksumDigits digest (i + 1) r

/-- An address as text with its checksum. -/
def Address.checksum (a : Address) : String :=
  let digits := Hex.bareBytes a.bytes
  String.ofList
    ('0' :: 'x' :: checksumDigits (Keccak.digest (asciiBytes digits)).bytes 0 digits)

/-- The address of a value as text with its checksum. -/
def Datum.checksum (d : Datum) : Except Error String := do
  return (← Address.ofDatum d).checksum

end Signet
