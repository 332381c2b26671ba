import Signet.Json.Basic

/-! # Reading JSON

A reader takes a value off the front of a text and gives it with the rest.
Reading is strict: no comments, no trailing commas, no zeros in front of an
integer, no control characters and no lone surrogates in a text.  It admits
`NaN`, `Infinity` and `-Infinity`, and limits the length of integers and the
nesting of arrays and objects that are not empty.
-/

namespace Signet.Json

/-- The blanks between the parts of a JSON text. -/
def isSpace (c : Char) : Bool :=
  c = ' ' || c = '\t' || c = '\n' || c = '\r'

/-- A text without the blanks in front. -/
def skipSpace (s : List Char) : List Char :=
  s.dropWhile isSpace

/-! ## Texts -/

/-- The number that four hexadecimal digits write. -/
def codeUnit? (a b c d : Char) : Option Nat := do
  let a ← Text.digit? 16 a
  let b ← Text.digit? 16 b
  let c ← Text.digit? 16 c
  let d ← Text.digit? 16 d
  return ((a * 16 + b) * 16 + c) * 16 + d

/-- Whether a code unit is the first half of a pair. -/
def isHighSurrogate (u : Nat) : Bool :=
  0xD800 ≤ u && u < 0xDC00

/-- Whether a code unit is the second half of a pair. -/
def isLowSurrogate (u : Nat) : Bool :=
  0xDC00 ≤ u && u < 0xE000

/-- The character of a pair of code units. -/
def charOfPair (high low : Nat) : Char :=
  Char.ofNat (0x10000 + (high - 0xD800) * 0x400 + (low - 0xDC00))

/-- The character that a letter behind a backslash stands for. -/
def escaped? : Char → Option Char
  | '"' => some '"'
  | '\\' => some '\\'
  | '/' => some '/'
  | 'b' => some '\x08'
  | 'f' => some '\x0c'
  | 'n' => some '\n'
  | 'r' => some '\r'
  | 't' => some '\t'
  | _ => none

/-- The characters up to the closing quotation mark, and the rest behind it. -/
def textBody? : List Char → Option (List Char × List Char)
  | [] => none
  | '"' :: rest => some ([], rest)
  | '\\' :: 'u' :: a :: b :: c :: d :: rest =>
    match codeUnit? a b c d with
    | none => none
    | some u =>
      if isHighSurrogate u then
        match rest with
        | '\\' :: 'u' :: e :: f :: g :: h :: rest =>
          match codeUnit? e f g h with
          | none => none
          | some l =>
            if isLowSurrogate l then
              (textBody? rest).map fun p => (charOfPair u l :: p.1, p.2)
            else none
        | _ => none
      else if isLowSurrogate u then none
      else (textBody? rest).map fun p => (Char.ofNat u :: p.1, p.2)
  | '\\' :: c :: rest =>
    match escaped? c with
    | none => none
    | some c => (textBody? rest).map fun p => (c :: p.1, p.2)
  | c :: rest =>
    if c.toNat < 0x20 then none
    else (textBody? rest).map fun p => (c :: p.1, p.2)

/-! ## Numbers -/

/-- Whether a character is an ASCII digit. -/
def isDigit (c : Char) : Bool :=
  '0' ≤ c && c ≤ '9'

/-- The digits in front of a text, and the rest. -/
def spanDigits (s : List Char) : List Char × List Char :=
  (s.takeWhile isDigit, s.dropWhile isDigit)

/-- The number that ASCII digits write. -/
def natOfDigits (ds : List Char) : Nat :=
  Numeral.ofDigits 10 (ds.map fun c => c.toNat - '0'.toNat)

/-- The digits of an integer: at least one, and no zero in front of others. -/
def isWhole : List Char → Bool
  | [] => false
  | ['0'] => true
  | c :: _ => c ≠ '0'

/-- The digits behind a decimal point, where there is one, and the rest. -/
def fraction? : List Char → Option (Option (List Char) × List Char)
  | '.' :: rest =>
    let (ds, rest) := spanDigits rest
    if ds.isEmpty then none else some (some ds, rest)
  | s => some (none, s)

/-- The exponent, where there is one, and the rest. -/
def exponent? (s : List Char) : Option (Option Int × List Char) :=
  let read (rest : List Char) : Option (Option Int × List Char) :=
    let (negative, rest) := Numeral.splitSign rest
    let (ds, rest) := spanDigits rest
    if ds.isEmpty then none
    else
      let n : Int := natOfDigits ds
      some (some (if negative then -n else n), rest)
  match s with
  | 'e' :: rest => read rest
  | 'E' :: rest => read rest
  | s => some (none, s)

/-- The sign in front of a number, `true` for minus, and the rest. -/
def splitMinus : List Char → Bool × List Char
  | '-' :: rest => (true, rest)
  | s => (false, s)

/-- A number, and the rest.  The integer part, with its sign, is limited in
length. -/
def number? (s : List Char) : Option (Json × List Char) := do
  let (negative, rest) := splitMinus s
  let (whole, rest) := spanDigits rest
  if !isWhole whole then none
  if Numeral.decimalLimit < whole.length + (if negative then 1 else 0) then none
  let (fraction, rest) ← fraction? rest
  let (exponent, rest) ← exponent? rest
  match fraction, exponent with
  | none, none =>
    let n : Int := natOfDigits whole
    return (.int (if negative then -n else n), rest)
  | _, _ =>
    let ds := fraction.getD []
    return (.float (Binary64.ofDecimal negative (natOfDigits (whole ++ ds))
      (exponent.getD 0 - ds.length)), rest)

/-! ## Values -/

/-- The values that are written as words. -/
def words : List (List Char × Json) :=
  [("null".toList, .null), ("true".toList, .bool true), ("false".toList, .bool false),
   ("NaN".toList, .float .nan), ("Infinity".toList, .float (.infinity false)),
   ("-Infinity".toList, .float (.infinity true))]

/-- A word in front of a text as its value, and the rest. -/
def word? (s : List Char) : Option (Json × List Char) :=
  words.findSome? fun w => if w.1.isPrefixOf s then some (w.2, s.drop w.1.length) else none

mutual

/-- A value, and the rest.  `depth` is how many arrays and objects that are not
empty may lie in each other. -/
def value? : Nat → Nat → List Char → Option (Json × List Char)
  | 0, _, _ => none
  | fuel + 1, depth, s =>
    match skipSpace s with
    | '"' :: rest => (textBody? rest).map fun p => (.text (String.ofList p.1), p.2)
    | '[' :: rest =>
      match skipSpace rest, depth with
      | ']' :: rest, _ => some (.array [], rest)
      | _, 0 => none
      | rest, depth + 1 => (items? fuel depth rest).map fun p => (.array p.1, p.2)
    | '\x7b' :: rest =>
      match skipSpace rest, depth with
      | '\x7d' :: rest, _ => some (.object [], rest)
      | _, 0 => none
      | rest, depth + 1 => (members? fuel depth rest).map fun p => (.object p.1, p.2)
    | s => (word? s).or (number? s)

/-- The values of an array up to its end, at least one, and the rest. -/
def items? : Nat → Nat → List Char → Option (List Json × List Char)
  | 0, _, _ => none
  | fuel + 1, depth, s => do
    let (x, rest) ← value? fuel depth s
    match skipSpace rest with
    | ',' :: rest =>
      let (xs, rest) ← items? fuel depth rest
      return (x :: xs, rest)
    | ']' :: rest => return ([x], rest)
    | _ => none

/-- The members of an object up to its end, at least one, and the rest. -/
def members? : Nat → Nat → List Char → Option (List (String × Json) × List Char)
  | 0, _, _ => none
  | fuel + 1, depth, s =>
    match skipSpace s with
    | '"' :: rest => do
      let (name, rest) ← textBody? rest
      match skipSpace rest with
      | ':' :: rest =>
        let (x, rest) ← value? fuel depth rest
        match skipSpace rest with
        | ',' :: rest =>
          let (ms, rest) ← members? fuel depth rest
          return ((String.ofList name, x) :: ms, rest)
        | '\x7d' :: rest => return ([(String.ofList name, x)], rest)
        | _ => none
      | _ => none
    | _ => none

end

/-- The value that a whole text writes.  A value takes at most two calls for
every character. -/
def parse? (depth : Nat) (s : List Char) : Option Json :=
  match value? (2 * s.length + 2) depth s with
  | some (x, rest) => if (skipSpace rest).isEmpty then some x else none
  | none => none

end Signet.Json
