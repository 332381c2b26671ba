import Signet.Numeral
import Signet.Validation.Check

/-! # Integer fields as text

The text of an integer field is read more freely than a numeral.  Blanks may
stand around it and a plus sign in front of it.  Zeros in front of the number
do not count, nor do the underscores behind the first of them, and such zeros
may even stand in front of the minus sign.  A fraction of zeros does not count
either, nor do single underscores further on.  What is left is an integer in
plain decimal digits.

Length is judged twice.  A text that starts, just as it stands, with an integer
of too many characters is refused as too long, whatever follows.  Where this
shows only in what is left of a text, that text is no integer.
-/

namespace Signet
namespace Check

/-- A text without the plus sign in front; a minus sign may not follow one. -/
def dropPlus? : List Char → Option (List Char)
  | '+' :: '-' :: _ => none
  | '+' :: rest => some rest
  | s => some s

/-- A character that may stand between the zeros in front of a number. -/
def isFiller (c : Char) : Bool :=
  c = '0' || c = '_'

/-- A text without the zeros in front, and the underscores behind the first of
them.  One zero stays where nothing or a point follows, and then no underscore
may stand before that. -/
def dropZeros? (s : List Char) : Option (List Char) :=
  match s.takeWhile isFiller, s.dropWhile isFiller with
  | [], rest => some rest
  | '0' :: zeros, rest =>
    if rest.isEmpty || rest.head? = some '.' then
      if zeros.getLast? = some '_' then none else some ('0' :: rest)
    else some rest
  | _, _ => none

/-- The sign of a number, `true` for minus, and what stands behind it and the
zeros in front. -/
def splitZeros? (s : List Char) : Option (Bool × List Char) :=
  match s with
  | '-' :: rest => (dropZeros? rest).map fun r => (true, r)
  | s =>
    match dropZeros? s with
    | some ('-' :: rest) => some (true, rest)
    | some rest => some (false, rest)
    | none => none

/-- A text without a fraction of zeros. -/
def dropZeroFraction (s : List Char) : List Char :=
  match s.dropWhile (· ≠ '.') with
  | '.' :: '0' :: zeros => if zeros.all (· = '0') then s.takeWhile (· ≠ '.') else s
  | _ => s

/-- Whether two underscores stand side by side. -/
def hasDoubleUnderscore : List Char → Bool
  | '_' :: '_' :: _ => true
  | _ :: rest => hasDoubleUnderscore rest
  | [] => false

/-- A text without its underscores, as long as none stands at the end or beside
another. -/
def dropUnderscores (s : List Char) : List Char :=
  if s.getLast? = some '_' || hasDoubleUnderscore s then s else s.filter (· ≠ '_')

/-- Whether a number with so many digits is too long; a minus sign counts as one
more. -/
def isTooLong (negative : Bool) (digits : List Char) : Bool :=
  Numeral.decimalLimit < digits.length + (if negative then 1 else 0)

/-- Whether a text starts with an integer that is too long.  A zero in front is an
integer of its own. -/
def startsTooLong (s : List Char) : Bool :=
  let (negative, rest) :=
    match s with
    | '-' :: rest => (true, rest)
    | s => (false, s)
  let digits := rest.takeWhile Char.isDigit
  digits.head? ≠ some '0' && isTooLong negative digits

/-- The integer that decimal digits write; only zero starts with a zero. -/
def ofPlainDigits? (negative : Bool) (s : List Char) : Option Int :=
  if s.isEmpty || !s.all Char.isDigit || (s.head? = some '0' && s ≠ ['0']) ||
      isTooLong negative s then
    none
  else
    let n : Int := Numeral.ofDigits 10 (s.map fun c => c.toNat - '0'.toNat)
    some (if negative then -n else n)

/-- The integer that is left of a text without what does not count. -/
def ofLooseText? (s : List Char) : Option Int := do
  let s ← dropPlus? (Text.trim Text.isNumeralBlank s)
  let (negative, rest) ← splitZeros? s
  ofPlainDigits? negative (dropUnderscores (dropZeroFraction rest))

/-- An integer field from text. -/
def intOfText (s : List Char) : Check Int :=
  if startsTooLong s then fault .intParsingSize
  else
    match ofLooseText? s with
    | some n => .ok n
    | none => fault .intParsing

end Check
end Signet
