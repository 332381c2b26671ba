import Signet.Text.Blank
import Signet.Text.Digit

/-! # Integers as text

An integer is written as blanks, at most one sign, an optional base mark and
digits, and blanks again.  A single underscore may stand between two digits,
and right after a base mark.  Unicode decimal digits and blanks count like
their ASCII fellows.  Three readers share the grammar and differ in the base
marks: base ten has none, base sixteen takes `0x`, and a literal takes `0x`,
`0o` or `0b` and is decimal otherwise, where only zero may start with a zero.

Decimal text is limited to `decimalLimit` digits, in both directions.
-/

namespace Signet.Numeral

open Signet.Text

/-- How the base of a numeral is told. -/
inductive Form
  /-- base ten, no mark -/
  | decimal
  /-- base sixteen, with or without `0x` -/
  | hexadecimal
  /-- the mark tells the base; without one it is ten -/
  | literal
  deriving DecidableEq, Repr

/-- The most digits that decimal text may have. -/
def decimalLimit : Nat := 4300

/-- `c` as a character of ASCII: a Unicode decimal digit as the digit of its
value, a Unicode blank as a space; any other character outside ASCII becomes a
question mark, which no numeral holds. -/
def asciiForm (c : Char) : Char :=
  if c.toNat < 0x80 then c
  else if isWideBlank c then ' '
  else match wideDigit? c with
    | some d => digitChar d
    | none => '?'

/-- The values of one or more digits, between which single underscores may
stand. -/
def digitRun? (base : Nat) : List Char → Option (List Nat)
  | [] => none
  | [c] => (digit? base c).map fun d => [d]
  | c :: '_' :: rest => do
    let d ← digit? base c
    return d :: (← digitRun? base rest)
  | c :: rest => do
    let d ← digit? base c
    return d :: (← digitRun? base rest)

/-- The number that the digits `ds` write in base `base`. -/
def ofDigits (base : Nat) (ds : List Nat) : Nat :=
  ds.foldl (fun n d => n * base + d) 0

/-- The base that a mark `0x`, `0o` or `0b` names, by its letter. -/
def markedBase? : Char → Option Nat
  | 'x' | 'X' => some 16
  | 'o' | 'O' => some 8
  | 'b' | 'B' => some 2
  | _ => none

/-- The rest of a text after a base mark, less the underscore that may follow
the mark. -/
def afterMark : List Char → List Char
  | '_' :: rest => rest
  | rest => rest

/-- Splits the base mark off the digits: the base and what follows the mark. -/
def splitMark (form : Form) (s : List Char) : Nat × List Char :=
  match form, s with
  | .hexadecimal, '0' :: c :: rest =>
    if markedBase? c = some 16 then (16, afterMark rest) else (16, s)
  | .hexadecimal, _ => (16, s)
  | .literal, '0' :: c :: rest =>
    match markedBase? c with
    | some base => (base, afterMark rest)
    | none => (10, s)
  | _, _ => (10, s)

/-- The sign in front of a text, `true` for minus, and the rest. -/
def splitSign : List Char → Bool × List Char
  | '-' :: rest => (true, rest)
  | '+' :: rest => (false, rest)
  | s => (false, s)

/-- Reads an unsigned numeral that stands alone. -/
def readNat? (form : Form) (s : List Char) : Option Nat := do
  let (base, rest) := splitMark form s
  let ds ← digitRun? base rest
  let n := ofDigits base ds
  if base = 10 ∧ ds.length > decimalLimit then none
  else if form = .literal ∧ base = 10 ∧ rest.head? = some '0' ∧ n ≠ 0 then none
  else some n

/-- The integer that a text writes, or nothing. -/
def read? (form : Form) (s : List Char) : Option Int :=
  let (negative, rest) := splitSign (trim isNumeralBlank (s.map asciiForm))
  (readNat? form rest).map fun n => if negative then -(n : Int) else n

/-- The integer that a byte string writes in ASCII, or nothing. -/
def readBytes? (form : Form) (b : List UInt8) : Option Int :=
  if b.all (· < 0x80) then read? form (b.map fun x => Char.ofNat x.toNat) else none

/-- `n` in decimal, with a minus sign where it is negative. -/
def decimal (n : Int) : String :=
  let ds := digits 10 n.natAbs
  String.ofList (if n < 0 then '-' :: ds else ds)

/-- Whether `n` has few enough digits to be written in decimal. -/
def isWritable (n : Int) : Bool :=
  n.natAbs < Nat.pow 10 decimalLimit

/-- `n` in decimal, or nothing where it has too many digits. -/
def decimal? (n : Int) : Option String :=
  if isWritable n then some (decimal n) else none

end Signet.Numeral
