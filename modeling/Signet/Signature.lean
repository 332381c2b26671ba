import Signet.FixedBytes

/-! # Signatures

A recoverable signature is three integers below `2 ^ 256`.  Its 65 byte form is
`r`, `s` and one byte for `v`; a signature whose `v` needs more has none.
-/

namespace Signet

/-- The first integer that does not fit into 32 bytes. -/
def uint256Ceiling : Nat := Bytes.ceiling 32

/-- What is wrong with a component of a signature. -/
inductive ComponentError
  /-- negative, or too wide for 32 bytes -/
  | range (value : Int)
  | wideV (v : Nat)
  | wideScalar
  | invalidV (v : Int)
  | typedV (v : Int)
  /-- no recovery id; the text is how the value is shown -/
  | recoveryId (shown : String)
  | scalarRange
  deriving DecidableEq, Repr

/-- The text of a component error. -/
def ComponentError.message : ComponentError → String
  | .range value => "signature component out of range: " ++ Hex.ofInt value
  | .wideV v => "v does not fit in one byte: " ++ Numeral.decimal v
  | .wideScalar => "r and s must fit in 32 bytes"
  | .invalidV v => "invalid v value " ++ Numeral.decimal v
  | .typedV v => "invalid v value " ++ Numeral.decimal v ++ " for a typed transaction"
  | .recoveryId shown => "invalid recovery id " ++ shown
  | .scalarRange => "r and s must be in the range [1, n)"

/-- A signature `(v, r, s)`. -/
structure Signature where
  v : Nat
  r : Nat
  s : Nat
  v_lt : v < uint256Ceiling
  r_lt : r < uint256Ceiling
  s_lt : s < uint256Ceiling
  deriving DecidableEq, Repr

namespace Signature

/-- The signature of zeros, which marks an unsigned payload. -/
def zero : Signature := ⟨0, 0, 0, by decide, by decide, by decide⟩

/-- An integer that can be a component. -/
abbrev Component := { n : Nat // n < uint256Ceiling }

/-- The component zero. -/
def zeroComponent : Component := ⟨0, by decide⟩

/-- The signature of three components. -/
def ofComponents (v r s : Component) : Signature :=
  ⟨v.val, r.val, s.val, v.property, r.property, s.property⟩

/-- Whether all components are zero. -/
def isZero (sig : Signature) : Bool :=
  sig.v = 0 && sig.r = 0 && sig.s = 0

/-- The number of bytes of the byte form. -/
def byteLength : Nat := 65

/-- An integer as a component. -/
def component (n : Int) : Except ComponentError Nat :=
  if 0 ≤ n ∧ n < uint256Ceiling then .ok n.toNat else .error (.range n)

/-- The 65 byte form. -/
def toBytes (sig : Signature) : Except ComponentError Bytes :=
  if sig.v > 0xFF then .error (.wideV sig.v)
  else .ok (Bytes.ofNatFixed 32 sig.r ++ Bytes.ofNatFixed 32 sig.s ++ [UInt8.ofNat sig.v])

theorem lt_ceiling_of_slice (b : Bytes) {i j : Nat} (h : j - i ≤ 32) :
    (b.slice i j).toNat < uint256Ceiling := by
  refine Nat.lt_of_lt_of_le (Bytes.toNat_lt _) ?_
  refine Bytes.ceiling_mono ?_
  rw [Bytes.slice, List.length_take]
  omega

/-- Reads the 65 byte form. -/
def ofBytes (b : Bytes) : Except LengthError Signature :=
  if b.length = byteLength then
    .ok {
      v := (b.slice 64 65).toNat
      r := (b.slice 0 32).toNat
      s := (b.slice 32 64).toNat
      v_lt := lt_ceiling_of_slice b (by decide)
      r_lt := lt_ceiling_of_slice b (by decide)
      s_lt := lt_ceiling_of_slice b (by decide) }
  else .error (.signature b.length)

theorem component_lt {n : Int} {k : Nat} (h : component n = .ok k) : k < uint256Ceiling := by
  unfold component at h
  split at h
  · cases h
    omega
  · cases h

/-- A signature from three integers. -/
def ofInts (v r s : Int) : Except ComponentError Signature :=
  match hv : component v, hr : component r, hs : component s with
  | .ok v, .ok r, .ok s => .ok ⟨v, r, s, component_lt hv, component_lt hr, component_lt hs⟩
  | .error e, _, _ => .error e
  | _, .error e, _ => .error e
  | _, _, .error e => .error e

end Signature
end Signet
