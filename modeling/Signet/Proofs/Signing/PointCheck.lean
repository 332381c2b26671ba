import Signet.Proofs.Datum.Failures
import Signet.Proofs.Signing.Recovery
import Signet.Signing.Argument

/-! # The check of `r` before the curve is asked

Recovery of a public key from arguments of any kind first makes words of `r` and `s`,
and looks at the recovery id, the range of the scalars and the size of the digest.  Then
it refuses an `r` that is the coordinate of no point, by the Euler test, and only after
that is the curve asked.  Nothing behind the test ends in the same refusal
(`askRaw_failsOnly`), so that the refusal means what its text says
(`recoverRaw_refuses_off_curve`).
-/

namespace Signet

open Secp256k1

/-- The sum that the Euler test raises fits into a word: the field ends more than seven
below the first integer that does not. -/
theorem Secp256k1.cube_add_constant_lt (r : Nat) :
    powMod r 3 fieldOrder + constant < uint256Ceiling := by
  have hreduced : powMod r 3 fieldOrder < fieldOrder := powMod_lt (by decide) r 3
  have hroom : fieldOrder + constant ≤ uint256Ceiling := by decide
  omega

namespace Curve

variable (C : Curve)

/-- What is left of a recovery when the coordinate is that of a point. -/
def askRaw (r s : Nat) (recoveryId digest : Datum) : Except Error PublicKey := do
  let id ← Datum.bytesOfItems [recoveryId]
  let digest ← Hash.ofRawDigest (.recovery .failed) digest
  C.askPublicKey r s (id == [1]) digest

/-- Nothing behind the test refuses the coordinate. -/
theorem askRaw_failsOnly (r s : Nat) (recoveryId digest : Datum) :
    FailsOnly (· ≠ .recovery .notOnCurve) (C.askRaw r s recoveryId digest) := by
  have hargument {e : Error} (h : e.IsArgument) : e ≠ .recovery .notOnCurve := by
    rintro rfl
    rcases h with h | h <;> cases h
  refine FailsOnly.bind ?id fun id _ => FailsOnly.bind ?digest fun hash _ => ?ask
  case id => exact (Datum.bytesOfItems_failsOnly _).mono fun _ => hargument
  case digest =>
    unfold Hash.ofRawDigest
    split
    · exact failsOnly_mapError (fun _ => nofun) _
    next e he =>
      refine failsOnly_error.mpr ?_
      split
      · exact nofun
      · rcases digest.rawBytes_failsOnly e he with h | rfl | rfl
        · exact hargument h
        · exact nofun
        · exact nofun
  case ask =>
    unfold askPublicKey
    split
    · exact failsOnly_ok _
    · exact failsOnly_error.mpr nofun

variable {r s : Nat} {a b recoveryId digest : Datum}

/-- With scalars in range, a recovery id and a digest of 32 parts, recovery comes to the
test. -/
theorem recoverRaw_eq (hr : a.toWord = .ok r) (hs : b.toWord = .ok s)
    (hrange : 0 < r ∧ r < groupOrder ∧ 0 < s ∧ s < groupOrder)
    (hid : (recoveryId.eq (.int 0) || recoveryId.eq (.int 1)) = true)
    (hsize : digest.size = .ok 32) :
    C.recoverRaw a b recoveryId digest = (do
      checkPoint r
      C.askRaw r s recoveryId digest) := by
  have hscalars : checkScalars r s = .ok () := if_pos hrange
  unfold recoverRaw
  simp only [hr, hs, ok_bind, hid, Bool.not_true, Bool.false_eq_true, if_false, hscalars, hsize,
    ne_eq, not_true_eq_false]
  rfl

/-- **The check of `r` is exact.**  The order of the field is a prime, the sum that the
Euler test raises fits into a word, and the test is never zero, and one exactly for the
coordinates of points: where `y² = r³ + 7` has a solution in the field.  So recovery from
scalars in range, a recovery id and a digest of 32 parts is refused for an `r` off the
curve exactly where it has none. -/
theorem recoverRaw_refuses_off_curve (hr : a.toWord = .ok r) (hs : b.toWord = .ok s)
    (hrange : 0 < r ∧ r < groupOrder ∧ 0 < s ∧ s < groupOrder)
    (hid : (recoveryId.eq (.int 0) || recoveryId.eq (.int 1)) = true)
    (hsize : digest.size = .ok 32) :
    Nat.Prime fieldOrder ∧
    powMod r 3 fieldOrder + constant < uint256Ceiling ∧
    eulerTest r ≠ 0 ∧
    (eulerTest r = 1 ↔ ∃ y : ZMod fieldOrder, y ^ 2 = (r : ZMod fieldOrder) ^ 3 + 7) ∧
    (C.recoverRaw a b recoveryId digest = .error (.recovery .notOnCurve) ↔
      ¬ ∃ y : ZMod fieldOrder, y ^ 2 = (r : ZMod fieldOrder) ^ 3 + 7) ∧
    (Error.recovery .notOnCurve).label = "RecoveryFailedError" ∧
    (Error.recovery .notOnCurve).message? =
      some "r is not the x-coordinate of a point on the secp256k1 curve" := by
  have htest : eulerTest r = 1 ↔ ∃ y : ZMod fieldOrder, y ^ 2 = (r : ZMod fieldOrder) ^ 3 + 7 :=
    eulerTest_eq_one_iff.trans onCurve_iff_exists_sq
  refine ⟨fieldOrder_prime, cube_add_constant_lt r, eulerTest_ne_zero r, htest, ?_, rfl, rfl⟩
  rw [← htest, C.recoverRaw_eq hr hs hrange hid hsize, bind_eq_error_iff, checkPoint]
  split
  next hpoint =>
    refine iff_of_false ?_ (not_not_intro hpoint)
    -- the test has passed, and what comes after it fails otherwise
    rintro (h | ⟨-, -, h⟩)
    · cases h
    · exact C.askRaw_failsOnly r s recoveryId digest _ h rfl
  next hoff => exact iff_of_true (Or.inl rfl) hoff

/-- No point has the first coordinate five, and recovery is refused for that; one has the
first coordinate one, and the test passes it. -/
theorem recoverRaw_refuses_five :
    secp256k1.recoverRaw (.unsigned .bits256 5) (.unsigned .bits256 1) (.int 0)
        (.bytes (Bytes.zeros 32)) = .error (.recovery .notOnCurve) ∧
      secp256k1.recoverRaw (.unsigned .bits256 1) (.unsigned .bits256 1) (.int 0)
        (.bytes (Bytes.zeros 32)) ≠ .error (.recovery .notOnCurve) := by
  have hfive : (Datum.unsigned .bits256 5).toWord = .ok 5 := rfl
  have hone : (Datum.unsigned .bits256 1).toWord = .ok 1 := rfl
  have hid : ((Datum.int 0).eq (.int 0) || (Datum.int 0).eq (.int 1)) = true := rfl
  have hsize : (Datum.bytes (Bytes.zeros 32)).size = .ok 32 := rfl
  constructor
  · obtain ⟨-, -, -, htest, hrefused, -⟩ :=
      recoverRaw_refuses_off_curve secp256k1 hfive hone (by decide) hid hsize
    have hoff : eulerTest 5 ≠ 1 := by decide +kernel
    exact hrefused.mpr fun h => hoff (htest.mpr h)
  · obtain ⟨-, -, -, htest, hrefused, -⟩ :=
      recoverRaw_refuses_off_curve secp256k1 hone hone (by decide) hid hsize
    have hpoint : eulerTest 1 = 1 := by decide +kernel
    exact fun h => hrefused.mp h (htest.mp hpoint)

end Curve
end Signet
