/-! # Digits

The digits of a numeral are the ASCII digits and letters and, for the values
zero to nine, every Unicode decimal digit.  A Unicode block of decimal digits
is ten characters in a row, so a table of the zeros holds all of them.
-/

namespace Signet.Text

/-- The code points of the Unicode decimal digits of value zero, ASCII's own
left out. -/
def wideZeros : List Nat :=
  [0x660, 0x6F0, 0x7C0, 0x966, 0x9E6, 0xA66, 0xAE6, 0xB66, 0xBE6, 0xC66, 0xCE6, 0xD66,
   0xDE6, 0xE50, 0xED0, 0xF20, 0x1040, 0x1090, 0x17E0, 0x1810, 0x1946, 0x19D0, 0x1A80,
   0x1A90, 0x1B50, 0x1BB0, 0x1C40, 0x1C50, 0xA620, 0xA8D0, 0xA900, 0xA9D0, 0xA9F0,
   0xAA50, 0xABF0, 0xFF10, 0x104A0, 0x10D30, 0x11066, 0x110F0, 0x11136, 0x111D0,
   0x112F0, 0x11450, 0x114D0, 0x11650, 0x116C0, 0x11730, 0x118E0, 0x11950, 0x11C50,
   0x11D50, 0x11DA0, 0x16A60, 0x16AC0, 0x16B50, 0x1D7CE, 0x1D7D8, 0x1D7E2, 0x1D7EC,
   0x1D7F6, 0x1E140, 0x1E2F0, 0x1E950, 0x1FBF0]

/-- The value of a Unicode decimal digit outside ASCII. -/
def wideDigit? (c : Char) : Option Nat :=
  (wideZeros.find? fun z => z ≤ c.toNat && c.toNat < z + 10).map (c.toNat - ·)

/-- The value of an ASCII digit or letter, letters counting on from ten. -/
def asciiDigit? (c : Char) : Option Nat :=
  if '0' ≤ c ∧ c ≤ '9' then some (c.toNat - 48)
  else if 'a' ≤ c ∧ c ≤ 'z' then some (c.toNat - 87)
  else if 'A' ≤ c ∧ c ≤ 'Z' then some (c.toNat - 55)
  else none

/-- The value of `c` as an ASCII digit of base `base`. -/
def digit? (base : Nat) (c : Char) : Option Nat :=
  (asciiDigit? c).filter (· < base)

/-- The digit of value `n`, lower case from ten on. -/
def digitChar (n : Nat) : Char :=
  Nat.digitChar n

/-- The digits of `n` in base `base`, most significant first, in front of
`rest`; at most `fuel` of them. -/
def pushDigits (base : Nat) : Nat → Nat → List Char → List Char
  | 0, _, rest => rest
  | fuel + 1, n, rest =>
    let rest := digitChar (n % base) :: rest
    if n / base = 0 then rest else pushDigits base fuel (n / base) rest

/-- `n` in base `base`, without leading zeros; zero is one digit. -/
def digits (base n : Nat) : List Char :=
  pushDigits base (n.log2 + 1) n []

/-- `n` in base sixteen, with zeros in front up to `size` digits. -/
def hexPadded (size n : Nat) : List Char :=
  let ds := digits 16 n
  List.replicate (size - ds.length) '0' ++ ds

end Signet.Text
