import Signet.Hex

/-! # Byte strings of a fixed length

`FixedBytes n` is a byte string with a proof that it has `n` bytes.  Account
addresses have 20 and digests 32.  An integer becomes a fixed byte string in
two's complement where it is negative; a shorter byte string is padded on the
left where the type allows it, and refused otherwise.
-/

namespace Signet

/-- Why a value has no fixed length form, or a byte string not the length that
its reader wants. -/
inductive LengthError
  | integerTooWide (size : Int)
  | tooLong (actual : Nat) (size : Int)
  | tooShort (actual : Nat) (size : Int)
  | signature (actual : Nat)
  | digest (actual : Nat)
  | publicKey (actual : Nat)
  deriving DecidableEq, Repr

/-- The text of a length error. -/
def LengthError.message : LengthError → String
  | .integerTooWide size => s!"integer does not fit in {size} bytes"
  | .tooLong a size => s!"input is too large for fixed size bytes: {a} > {size}"
  | .tooShort a size => s!"input is too small for fixed size bytes: {a} < {size}"
  | .signature a => s!"invalid signature length {a}"
  | .digest a => s!"invalid digest length {a}"
  | .publicKey a => s!"invalid public key length {a}"

/-- A byte string of `n` bytes. -/
structure FixedBytes (n : Nat) where
  /-- the bytes -/
  bytes : Bytes
  length_bytes : bytes.length = n
  deriving DecidableEq, Repr

/-- A 20 byte account address. -/
abbrev Address := FixedBytes 20

/-- A 32 byte digest. -/
abbrev Hash := FixedBytes 32

namespace Bytes

/-- The integer `i` in `size` bytes, in two's complement where it is negative.
Where there are no bytes, zero and minus one are both the empty string. -/
def ofInt (size : Nat) (i : Int) : Except LengthError Bytes :=
  if 0 ≤ i then
    if i.toNat < ceiling size then .ok (ofNatFixed size i.toNat)
    else .error (.integerTooWide size)
  else if 2 * (-(i + 1)).toNat < ceiling size then
    .ok (ofNatFixed size (ceiling size - (-i).toNat))
  else .error (.integerTooWide size)

/-- `b` as a byte string of `size` bytes, padded on the left where it is shorter
and padding is allowed. -/
def fit (size : Nat) (leftPadding : Bool) (b : Bytes) : Except LengthError Bytes :=
  if b.length > size then .error (.tooLong b.length size)
  else if b.length < size then
    if leftPadding then .ok (padLeft size b) else .error (.tooShort b.length size)
  else .ok b

theorem length_of_ofInt {size : Nat} {i : Int} {b : Bytes} (h : ofInt size i = .ok b) :
    b.length = size := by
  unfold ofInt at h
  split at h <;> split at h <;> cases h <;> exact length_ofNatFixed ..

theorem length_of_fit {size : Nat} {p : Bool} {b c : Bytes} (h : fit size p b = .ok c) :
    c.length = size := by
  unfold fit at h
  split at h
  · cases h
  split at h
  · split at h
    · cases h
      rw [length_padLeft]; omega
    · cases h
  · cases h
    omega

end Bytes

namespace FixedBytes

variable {n : Nat}

theorem ext {a b : FixedBytes n} (h : a.bytes = b.bytes) : a = b := by
  cases a; cases b; cases h; rfl

/-- Whether every byte is zero. -/
def isZero (a : FixedBytes n) : Bool :=
  a.bytes.isZero

/-- The prefixed hexadecimal text. -/
def hex (a : FixedBytes n) : String :=
  Hex.ofBytes a.bytes

/-- The fixed byte string that writes the low bytes of `k`. -/
def ofNat (n k : Nat) : FixedBytes n :=
  ⟨Bytes.ofNatFixed n k, Bytes.length_ofNatFixed n k⟩

/-- The fixed byte string of an integer. -/
def ofInt (n : Nat) (i : Int) : Except LengthError (FixedBytes n) :=
  match h : Bytes.ofInt n i with
  | .error e => .error e
  | .ok b => .ok ⟨b, Bytes.length_of_ofInt h⟩

/-- The fixed byte string of a byte string. -/
def ofBytes (n : Nat) (leftPadding : Bool) (b : Bytes) : Except LengthError (FixedBytes n) :=
  match h : Bytes.fit n leftPadding b with
  | .error e => .error e
  | .ok c => .ok ⟨c, Bytes.length_of_fit h⟩

end FixedBytes

/-- Twenty zero bytes. -/
def Address.zero : Address := FixedBytes.ofNat 20 0

/-- Thirty-two zero bytes. -/
def Hash.zero : Hash := FixedBytes.ofNat 32 0

end Signet
