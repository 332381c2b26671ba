import Signet.FixedBytes

/-! # The curve secp256k1

The points `(x, y)` with `y² = x³ + 7` over the field of `fieldOrder` elements,
and the point at infinity, form a group of `groupOrder` elements.  Points are
kept in Jacobian coordinates `(X, Y, Z)`, which stand for `(X / Z², Y / Z³)`,
so that only the last step of a computation divides.
-/

namespace Signet.Secp256k1

/-- The number of elements of the field. -/
def fieldOrder : Nat :=
  0xFFFFFFFFFFFFFFFFFFFFFFFFFFFFFFFFFFFFFFFFFFFFFFFFFFFFFFFEFFFFFC2F

/-- The number of points. -/
def groupOrder : Nat :=
  0xFFFFFFFFFFFFFFFFFFFFFFFFFFFFFFFEBAAEDCE6AF48A03BBFD25E8CD0364141

/-- The constant of the curve's equation. -/
def constant : Nat := 7

/-- `b ^ e` modulo `m`, from the `bits` low bits of the exponent `e`. -/
def powFrom (b e m : Nat) : Nat → Nat → Nat
  | 0, acc => acc
  | bits + 1, acc =>
    let squared := acc * acc % m
    powFrom b e m bits (if e.testBit bits then squared * b % m else squared)

/-- `b ^ e` modulo `m`. -/
def powMod (b e m : Nat) : Nat :=
  powFrom (b % m) e m (e.log2 + 1) (1 % m)

/-- Subtraction in the field. -/
def sub (a b : Nat) : Nat :=
  (a + (fieldOrder - b % fieldOrder)) % fieldOrder

/-- Multiplication in the field. -/
def mul (a b : Nat) : Nat :=
  a * b % fieldOrder

/-- The inverse of `a` modulo the prime `m`. -/
def inverse (a m : Nat) : Nat :=
  powMod a (m - 2) m

/-- A point in Jacobian coordinates; it is the point at infinity where `z` is
zero. -/
structure Point where
  x : Nat
  y : Nat
  z : Nat
  deriving DecidableEq, Repr

namespace Point

/-- The point at infinity. -/
def infinity : Point := ⟨1, 1, 0⟩

/-- The point `(x, y)`. -/
def ofAffine (x y : Nat) : Point := ⟨x, y, 1⟩

/-- The coordinates of a point, or nothing at infinity. -/
def toAffine? (p : Point) : Option (Nat × Nat) :=
  if p.z = 0 then none
  else
    let i := inverse p.z fieldOrder
    let i2 := mul i i
    some (mul p.x i2, mul p.y (mul i2 i))

/-- The sum of a point and itself. -/
def double (p : Point) : Point :=
  if p.z = 0 ∨ p.y = 0 then infinity
  else
    let a := mul p.x p.x
    let b := mul p.y p.y
    let c := mul b b
    let d := mul 2 (sub (sub (mul (p.x + b) (p.x + b)) a) c)
    let e := 3 * a
    let x := sub (mul e e) (2 * d)
    ⟨x, sub (mul e (sub d x)) (8 * c), mul (2 * p.y) p.z⟩

/-- The sum of two points. -/
def add (p q : Point) : Point :=
  if p.z = 0 then q
  else if q.z = 0 then p
  else
    let zp := mul p.z p.z
    let zq := mul q.z q.z
    let u := mul p.x zq
    let w := mul q.x zp
    let s := mul p.y (mul zq q.z)
    let t := mul q.y (mul zp p.z)
    if u = w then
      if s = t then double p else infinity
    else
      let h := sub w u
      let k := sub t s
      let h2 := mul h h
      let h3 := mul h2 h
      let v := mul u h2
      let x := sub (sub (mul k k) h3) (2 * v)
      ⟨x, sub (mul k (sub v x)) (mul s h3), mul (mul p.z q.z) h⟩

/-- Adds to the doubled `acc` the multiple of `p` by the `bits` low bits of `k`. -/
def multipleFrom (p : Point) (k : Nat) : Nat → Point → Point
  | 0, acc => acc
  | bits + 1, acc =>
    let doubled := acc.double
    multipleFrom p k bits (if k.testBit bits then doubled.add p else doubled)

/-- The sum of `k` points `p`. -/
def multiple (p : Point) (k : Nat) : Point :=
  multipleFrom p k (k.log2 + 1) infinity

end Point

/-- The point that generates the group. -/
def generator : Point :=
  .ofAffine 0x79BE667EF9DCBBAC55A06295CE870B07029BFCDB2DCE28D959F2815B16F81798
    0x483ADA7726A3C4655DA4FBFC0E1108A8FD17B448A68554199C47D08FFB10D4B8

/-- The right side of the curve's equation. -/
def rightSide (x : Nat) : Nat :=
  (mul (mul x x) x + constant) % fieldOrder

/-- The point with the coordinate `x` whose `y` is odd or even as asked. -/
def liftX? (x : Nat) (odd : Bool) : Option Point :=
  let y := powMod (rightSide x) ((fieldOrder + 1) / 4) fieldOrder
  if mul y y = rightSide x then
    some (.ofAffine x (if (y % 2 == 1) == odd then y else fieldOrder - y))
  else none

/-- The Euler test of the right side at `r`: one where it is a nonzero square,
`fieldOrder - 1` where it is no square, and zero where it is zero. -/
def eulerTest (r : Nat) : Nat :=
  powMod (powMod r 3 fieldOrder + constant) ((fieldOrder - 1) / 2) fieldOrder

end Signet.Secp256k1
