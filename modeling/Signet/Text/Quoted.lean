import Signet.Text.Digit
import Signet.Text.Printable

/-! # Quoted text

A quoted text stands between single quotes, or between double quotes where it
holds a single quote and no double quote.  The backslash and the quote in use
are escaped by a backslash; tab, line feed and carriage return have letters;
any other character that is not printable is written by its code point in
hexadecimal, with the shortest of two, four or eight digits.
-/

namespace Signet.Text

/-- The quote that goes around a text in which the characters of `s` occur. -/
def quoteFor (s : List Char) : Char :=
  if s.contains '\'' && !s.contains '"' then '"' else '\''

/-- A code point as an escape of two, four or eight hexadecimal digits. -/
def codePointEscape (n : Nat) : List Char :=
  if n < 0x100 then '\\' :: 'x' :: hexPadded 2 n
  else if n < 0x10000 then '\\' :: 'u' :: hexPadded 4 n
  else '\\' :: 'U' :: hexPadded 8 n

/-- One character between the quotes `quote`. -/
def quotedChar (quote c : Char) : List Char :=
  if c = quote ∨ c = '\\' then ['\\', c]
  else if c = '\n' then ['\\', 'n']
  else if c = '\r' then ['\\', 'r']
  else if c = '\t' then ['\\', 't']
  else if isPrintable c then [c]
  else codePointEscape c.toNat

/-- A text between quotes. -/
def quoted (s : String) : String :=
  let q := quoteFor s.toList
  String.ofList (q :: s.toList.flatMap (quotedChar q) ++ [q])

/-- A byte string between quotes: bytes outside printable ASCII as two
hexadecimal digits, under the letter `b`. -/
def quotedBytes (b : List UInt8) : String :=
  let cs := b.map fun x => Char.ofNat x.toNat
  let q := quoteFor cs
  let char (c : Char) : List Char :=
    if c.toNat < 0x80 then quotedChar q c else codePointEscape c.toNat
  String.ofList ('b' :: q :: cs.flatMap char ++ [q])

end Signet.Text
