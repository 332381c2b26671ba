import Signet.Numeral

/-! # Double precision numbers

A finite number is a sign, a mantissa below `2 ^ 53` and a power of two.  All
arithmetic on them here is exact: a decimal literal becomes the nearest number,
ties going to the even mantissa, and a number is written with the fewest digits
that lead back to it, the nearest of those, a tie going to the even digit.
-/

namespace Signet

/-- A double precision number. -/
inductive Binary64
  /-- the number `± mantissa * 2 ^ exponent` -/
  | finite (negative : Bool) (mantissa : Nat) (exponent : Int)
  | infinity (negative : Bool)
  | nan
  deriving DecidableEq, Repr

namespace Binary64

/-- The least exponent of a number. -/
def minExponent : Int := -1074

/-- The greatest exponent of a number. -/
def maxExponent : Int := 971

/-- The first mantissa that is too wide. -/
def mantissaCeiling : Nat := 1 <<< 53

/-- `base ^ e` for any integer `e`. -/
def power (base : Nat) (e : Int) : Rat :=
  if 0 ≤ e then (Nat.pow base e.toNat : Rat) else 1 / (Nat.pow base (-e).toNat : Rat)

/-- The integer nearest to `x`, a tie going to the even one. -/
def roundEven (x : Rat) : Int :=
  let n := x.floor
  let rest := x - n
  if rest < 1 / 2 then n
  else if 1 / 2 < rest then n + 1
  else if n % 2 = 0 then n else n + 1

/-- The number nearest to `x`, of the sign `negative`; `x` is not negative. -/
def ofRat (negative : Bool) (x : Rat) : Binary64 :=
  if x = 0 then .finite negative 0 0
  else
    let log : Int := (x.num.natAbs.log2 : Int) - x.den.log2
    let e := max (log - 53) minExponent
    let e := if (x / power 2 e).floor < mantissaCeiling then e else e + 1
    let m := (roundEven (x / power 2 e)).toNat
    let (m, e) := if m = mantissaCeiling then (1 <<< 52, e + 1) else (m, e)
    if maxExponent < e then .infinity negative else .finite negative m e

/-- The number nearest to `digits * 10 ^ exponent`.  Beyond four hundred places
it is infinite or zero whatever the digits are. -/
def ofDecimal (negative : Bool) (digits : Nat) (exponent : Int) : Binary64 :=
  let places := (Text.digits 10 digits).length + exponent
  if digits = 0 ∨ places < -400 then .finite negative 0 0
  else if 400 < places then .infinity negative
  else ofRat negative (digits * power 10 exponent)

/-- The value of a finite number. -/
def toRat? : Binary64 → Option Rat
  | .finite negative m e =>
    let x := (m : Rat) * power 2 e
    some (if negative then -x else x)
  | _ => none

/-- The integer part of a finite number. -/
def truncate? (x : Binary64) : Option Int :=
  x.toRat?.map fun q => if q < 0 then -((-q).floor) else q.floor

/-- Whether a number is an integer. -/
def isIntegral (x : Binary64) : Bool :=
  match x.toRat? with
  | some q => q.den = 1
  | none => false

/-- Whether a number is the integer `i`. -/
def isInt (x : Binary64) (i : Int) : Bool :=
  x.toRat? = some (i : Rat)

/-- Whether a number is below the integer `i`. -/
def isBelow (x : Binary64) (i : Int) : Bool :=
  match x with
  | .nan => false
  | .infinity negative => negative
  | x => (x.toRat?.map fun q => decide (q < (i : Rat))).getD false

/-- Whether a number is above the integer `i`. -/
def isAbove (x : Binary64) (i : Int) : Bool :=
  match x with
  | .nan => false
  | .infinity negative => !negative
  | x => (x.toRat?.map fun q => decide ((i : Rat) < q)).getD false

/-- Whether two numbers are equal: the zeros are, and nothing equals `nan`. -/
def equals (x y : Binary64) : Bool :=
  match x, y with
  | .infinity a, .infinity b => a == b
  | .finite .., .finite .. => x.toRat? = y.toRat?
  | _, _ => false

/-! ## Shortest text -/

/-- How a number is written in decimal: its digits, and the place of the
decimal point behind the start of them. -/
structure Decimal where
  digits : List Char
  point : Int
  deriving DecidableEq, Repr

/-- The power of ten just above `x`: `10 ^ (n - 1) ≤ x < 10 ^ n`; `x` is
positive and at least `10 ^ -fuel`. -/
def magnitude : Nat → Rat → Int
  | 0, _ => 0
  | fuel + 1, x =>
    if 1 ≤ x then (Text.digits 10 x.floor.toNat).length
    else magnitude fuel (x * 10) - 1

/-- The ends of the interval of values that round to the number `m * 2 ^ e`. -/
def roundingInterval (m : Nat) (e : Int) : Rat × Rat :=
  let unit := power 2 e
  let below := if m = 1 <<< 52 ∧ minExponent < e then unit / 4 else unit / 2
  (m * unit - below, m * unit + unit / 2)

/-- The decimal of `count` digits nearest to `x`, among the two neighbours of
`x`, that `accepts` takes; of two as near it is the even one. -/
def nearestOfCount (x : Rat) (top : Int) (accepts : Rat → Bool) (count : Nat) :
    Option (Nat × Int) :=
  let place := top - count
  let unit := power 10 place
  let n := (x / unit).floor.toNat
  let low := accepts (n * unit)
  let high := accepts ((n + 1 : Nat) * unit)
  if low && (!high || roundEven (x / unit) = n) then some (n, place)
  else if high then some (n + 1, place)
  else none

/-- The digits of a positive number: the fewest that lead back to it. -/
def shortest (m : Nat) (e : Int) : Decimal :=
  let x := (m : Rat) * power 2 e
  let (low, high) := roundingInterval m e
  let accepts (q : Rat) : Bool :=
    if m % 2 = 0 then decide (low ≤ q) && decide (q ≤ high)
    else decide (low < q) && decide (q < high)
  let top := magnitude 400 x
  match ((List.range 17).map (· + 1)).findSome? (nearestOfCount x top accepts) with
  | some (n, place) =>
    let ds := Text.digits 10 n
    ⟨((ds.reverse.dropWhile (· = '0')).reverse), place + ds.length⟩
  | none => ⟨['0'], 1⟩

/-- A decimal as text: positional up to sixteen places before the point and
four zeros after it, else with an exponent of at least two digits. -/
def Decimal.text (d : Decimal) : List Char :=
  let n := (d.digits.length : Int)
  if d.point ≤ -4 ∨ 16 < d.point then
    let e := d.point - 1
    let ds := Text.digits 10 e.natAbs
    let fraction := match d.digits.drop 1 with
      | [] => []
      | rest => '.' :: rest
    d.digits.take 1 ++ fraction ++ ['e', if e < 0 then '-' else '+'] ++
      List.replicate (2 - ds.length) '0' ++ ds
  else if d.point ≤ 0 then
    '0' :: '.' :: List.replicate (-d.point).toNat '0' ++ d.digits
  else if n ≤ d.point then
    d.digits ++ List.replicate (d.point - n).toNat '0' ++ ['.', '0']
  else d.digits.take d.point.toNat ++ '.' :: d.digits.drop d.point.toNat

/-- A number as text. -/
def text : Binary64 → String
  | .nan => "nan"
  | .infinity negative => if negative then "-inf" else "inf"
  | .finite negative m e =>
    let ds := if m = 0 then ['0', '.', '0'] else (shortest m e).text
    String.ofList (if negative then '-' :: ds else ds)

end Binary64
end Signet
