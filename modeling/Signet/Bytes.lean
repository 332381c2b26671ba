/-! # Byte strings and the integers they write

A byte string is a list of bytes.  Integers are written big-endian: `toNat`
reads a byte string as an integer, `ofNatFixed` writes an integer into a given
number of bytes and drops what does not fit, and `ofNat` takes the fewest bytes
that hold the integer, none for zero.
-/

namespace Signet

/-- A byte string. -/
abbrev Bytes := List UInt8

namespace Bytes

/-- The integer a byte string writes, most significant byte first. -/
def toNat (b : Bytes) : Nat :=
  b.foldl (fun n x => n * 256 + x.toNat) 0

/-- Puts the `size` low bytes of `n` in front of `rest`. -/
def pushFixed : Nat → Nat → Bytes → Bytes
  | 0, _, rest => rest
  | size + 1, n, rest => pushFixed size (n / 256) (UInt8.ofNat (n % 256) :: rest)

/-- The `size` low bytes of `n`, most significant first. -/
def ofNatFixed (size n : Nat) : Bytes :=
  pushFixed size n []

/-- How many bytes `n` needs; zero needs none. -/
def width (n : Nat) : Nat :=
  if n = 0 then 0 else n.log2 / 8 + 1

/-- The first integer that does not fit into `size` bytes. -/
def ceiling (size : Nat) : Nat :=
  1 <<< (8 * size)

/-- The shortest byte string that writes `n`. -/
def ofNat (n : Nat) : Bytes :=
  ofNatFixed (width n) n

/-- `count` zero bytes. -/
def zeros (count : Nat) : Bytes :=
  List.replicate count 0

/-- `b` with zero bytes put in front until it has `size` bytes. -/
def padLeft (size : Nat) (b : Bytes) : Bytes :=
  zeros (size - b.length) ++ b

/-- Whether every byte is zero. -/
def isZero (b : Bytes) : Bool :=
  b.all (· == 0)

/-- The UTF-8 form of a text. -/
def ofText (s : String) : Bytes :=
  s.toUTF8.toList

/-- The bytes `start`, …, `stop - 1`, as far as there are that many. -/
def slice (b : Bytes) (start stop : Nat) : Bytes :=
  (b.drop start).take (stop - start)

@[simp] theorem ceiling_zero : ceiling 0 = 1 := rfl

theorem ceiling_succ (size : Nat) : ceiling (size + 1) = 256 * ceiling size := by
  rw [ceiling, ceiling, Nat.one_shiftLeft, Nat.one_shiftLeft, Nat.mul_succ, Nat.pow_add,
    Nat.mul_comm]

theorem ceiling_pos (size : Nat) : 0 < ceiling size := by
  rw [ceiling, Nat.one_shiftLeft]
  exact Nat.two_pow_pos _

theorem ceiling_mono {m n : Nat} (h : m ≤ n) : ceiling m ≤ ceiling n := by
  rw [ceiling, ceiling, Nat.one_shiftLeft, Nat.one_shiftLeft]
  exact Nat.pow_le_pow_right (by decide) (Nat.mul_le_mul_left 8 h)

@[simp] theorem toNat_nil : toNat [] = 0 := rfl

theorem foldl_eq (b : Bytes) (n : Nat) :
    b.foldl (fun n x => n * 256 + x.toNat) n = n * ceiling b.length + toNat b := by
  induction b generalizing n with
  | nil =>
    rw [List.foldl_nil, List.length_nil, ceiling_zero, Nat.mul_one, toNat_nil, Nat.add_zero]
  | cons x r ih =>
    have h : toNat (x :: r) = x.toNat * ceiling r.length + toNat r := by
      rw [toNat, List.foldl_cons, ih, Nat.zero_mul, Nat.zero_add]
    rw [List.foldl_cons, ih, h, List.length_cons, ceiling_succ, Nat.add_mul, Nat.mul_assoc,
      Nat.add_assoc]

/-- The first byte weighs as much as the first integer that the bytes after it
cannot hold. -/
theorem toNat_cons (x : UInt8) (r : Bytes) :
    toNat (x :: r) = x.toNat * ceiling r.length + toNat r := by
  rw [toNat, List.foldl_cons, foldl_eq, Nat.zero_mul, Nat.zero_add]

theorem toNat_append (a b : Bytes) :
    toNat (a ++ b) = toNat a * ceiling b.length + toNat b := by
  rw [toNat, List.foldl_append, foldl_eq, ← toNat]

theorem toNat_lt (b : Bytes) : toNat b < ceiling b.length := by
  induction b with
  | nil => simp
  | cons x r ih =>
    rw [toNat_cons, List.length_cons, ceiling_succ]
    have hx : x.toNat < 256 := x.toNat_lt
    calc x.toNat * ceiling r.length + toNat r
        < x.toNat * ceiling r.length + ceiling r.length := Nat.add_lt_add_left ih _
      _ = (x.toNat + 1) * ceiling r.length := by rw [Nat.add_mul, Nat.one_mul]
      _ ≤ 256 * ceiling r.length := Nat.mul_le_mul_right _ hx

theorem pushFixed_eq (size n : Nat) (rest : Bytes) :
    pushFixed size n rest = ofNatFixed size n ++ rest := by
  induction size generalizing n rest with
  | zero => rfl
  | succ size ih =>
    rw [ofNatFixed, pushFixed, pushFixed, ih, ih (n / 256) [_], List.append_assoc]
    rfl

/-- One more byte holds the digit of weight one; the bytes before it hold the
rest of the integer. -/
theorem ofNatFixed_succ (size n : Nat) :
    ofNatFixed (size + 1) n = ofNatFixed size (n / 256) ++ [UInt8.ofNat (n % 256)] := by
  rw [ofNatFixed, pushFixed, pushFixed_eq]

@[simp] theorem length_ofNatFixed (size n : Nat) : (ofNatFixed size n).length = size := by
  induction size generalizing n with
  | zero => rfl
  | succ size ih => rw [ofNatFixed_succ, List.length_append, ih]; rfl

/-- Reading what was written gives the integer back up to the bytes there was
room for. -/
theorem toNat_ofNatFixed (size n : Nat) : toNat (ofNatFixed size n) = n % ceiling size := by
  induction size generalizing n with
  | zero => simp [ofNatFixed, pushFixed, Nat.mod_one]
  | succ size ih =>
    rw [ofNatFixed_succ, toNat_append, ih, ceiling_succ]
    have hd : (UInt8.ofNat (n % 256)).toNat = n % 256 := by
      rw [UInt8.toNat_ofNat']; omega
    rw [toNat_cons, hd]
    simp only [List.length_cons, List.length_nil, ceiling_succ, ceiling_zero, Nat.mul_one,
      toNat_nil, Nat.add_zero]
    rw [Nat.mod_mul, Nat.mul_comm]
    omega

@[simp] theorem length_zeros (count : Nat) : (zeros count).length = count :=
  List.length_replicate

theorem length_padLeft (size : Nat) (b : Bytes) : (padLeft size b).length = max size b.length := by
  rw [padLeft, List.length_append, length_zeros]; omega

theorem toNat_zeros (count : Nat) : toNat (zeros count) = 0 := by
  induction count with
  | zero => rfl
  | succ n ih =>
    rw [zeros, List.replicate_succ, toNat_cons, ← zeros, ih]
    simp

/-- Zero bytes in front do not change the integer. -/
theorem toNat_padLeft (size : Nat) (b : Bytes) : toNat (padLeft size b) = toNat b := by
  rw [padLeft, toNat_append, toNat_zeros, Nat.zero_mul, Nat.zero_add]

end Bytes
end Signet
