import Signet.Proofs.Curve.EulerTest
import Signet.Proofs.Outcome
import Signet.Signing.Recovery

/-! # Recovery leads back to the signer

`Curve.Lawful` is what is relied on of a curve library: every key signs every
digest, with scalars in range and an id from which the library leads back to the
public key, and the library answers for coordinates of points only.  The second of
these holds of the curve in use (`onCurve_of_recoverKey?`).

Between the two, this library puts checks of its own: the range of the scalars and
the Euler test.  A signature passes them, so that the address recovered from it is
that of its key (`Lawful.recoverAddress_of_sign`).
-/

namespace Signet

/-- A signature with both scalars in `[1, groupOrder)` and the recovery id zero or
one. -/
structure RecoverableSignature.InRange (sig : RecoverableSignature) : Prop where
  r_pos : 0 < sig.r
  r_lt : sig.r < Secp256k1.groupOrder
  s_pos : 0 < sig.s
  s_lt : sig.s < Secp256k1.groupOrder
  recoveryId_le : sig.recoveryId ≤ 1

namespace RecoverableSignature.InRange

variable {sig : RecoverableSignature}

theorem groupOrder_lt_ceiling : Secp256k1.groupOrder < uint256Ceiling := by
  decide

theorem r_lt_ceiling (h : sig.InRange) : sig.r < uint256Ceiling :=
  Nat.lt_trans h.r_lt groupOrder_lt_ceiling

theorem s_lt_ceiling (h : sig.InRange) : sig.s < uint256Ceiling :=
  Nat.lt_trans h.s_lt groupOrder_lt_ceiling

end RecoverableSignature.InRange

namespace Curve

/-- **What is relied on of a curve library.** -/
structure Lawful (C : Curve) : Prop where
  /-- Every key signs every digest, and recovery leads back to its public key. -/
  sign : ∀ k digest, ∃ sig, C.sign k digest = some sig ∧ sig.InRange ∧
    C.recover sig.r sig.s (sig.recoveryId == 1) digest = some (C.publicKey k)
  /-- Recovery answers only where `r` is the coordinate of a point. -/
  onCurve : ∀ {r s odd digest key}, C.recover r s odd digest = some key → Secp256k1.OnCurve r

/-! ## The checks before the curve is asked -/

theorem checkScalars_of_inRange {sig : RecoverableSignature} (h : sig.InRange) :
    checkScalars sig.r sig.s = .ok () :=
  if_pos ⟨h.r_pos, h.r_lt, h.s_pos, h.s_lt⟩

theorem checkPoint_eq_ok_iff {r : Nat} : checkPoint r = .ok () ↔ Secp256k1.OnCurve r := by
  rw [← Secp256k1.eulerTest_eq_one_iff, checkPoint]
  split <;> simp_all

theorem scalarOfInt_natCast {n : Nat} (h : n < uint256Ceiling) : scalarOfInt n = .ok n := by
  rw [scalarOfInt, if_pos ⟨Int.natCast_nonneg n, Int.ofNat_lt.mpr h⟩, Int.toNat_natCast]

variable {C : Curve} {k : SecretKey} {digest : Hash} {sig : RecoverableSignature}

/-- The public key behind a signature of a key is that of the key. -/
theorem Lawful.recoverKey_of_sign (hC : C.Lawful) (h : C.sign k digest = some sig) :
    C.recoverKey sig.r sig.s (sig.recoveryId == 1) digest = .ok (C.publicKey k) := by
  obtain ⟨sig', hsig, hrange, hrecover⟩ := hC.sign k digest
  rw [h] at hsig
  cases hsig
  have hpoint : checkPoint sig.r = .ok () := checkPoint_eq_ok_iff.mpr (hC.onCurve hrecover)
  have hask : C.askPublicKey sig.r sig.s (sig.recoveryId == 1) digest = .ok (C.publicKey k) := by
    rw [askPublicKey, hrecover]
  rw [recoverKey, checkScalars_of_inRange hrange, hpoint]
  exact hask

theorem Lawful.inRange_of_sign (hC : C.Lawful) (h : C.sign k digest = some sig) :
    sig.InRange := by
  obtain ⟨sig', hsig, hrange, -⟩ := hC.sign k digest
  rw [h] at hsig
  cases hsig
  exact hrange

/-- **The address recovered from a signature of a key is that of the key.** -/
theorem Lawful.recoverAddress_of_sign (hC : C.Lawful) (h : C.sign k digest = some sig) :
    C.recoverAddress sig.r sig.s (sig.recoveryId == 1) digest = .ok (C.address k) := by
  have hrange := hC.inRange_of_sign h
  rw [recoverAddress, scalarOfInt_natCast hrange.r_lt_ceiling,
    scalarOfInt_natCast hrange.s_lt_ceiling]
  simp only [ok_bind, hC.recoverKey_of_sign h]
  rfl

theorem signDigest_eq_ok_iff : C.signDigest k digest = .ok sig ↔ C.sign k digest = some sig := by
  unfold signDigest
  cases C.sign k digest <;> simp

/-! ## Libraries that are lawful -/

/-- The curve in use leads back only from coordinates of points. -/
theorem onCurve_of_recoverKey? {r s : Nat} {odd : Bool} {digest : Hash} {key : PublicKey}
    (h : secp256k1.recover r s odd digest = some key) : Secp256k1.OnCurve r := by
  obtain ⟨point, hpoint, -⟩ := Option.bind_eq_some_iff.mp h
  unfold Secp256k1.liftX? at hpoint
  simp only at hpoint
  split at hpoint
  next hsquare => exact ⟨_, hsquare⟩
  · cases hpoint

/-- A library that has one signature on record, and answers with it. -/
def ofRecord (key : PublicKey) (sig : RecoverableSignature) : Curve where
  publicKey _ := key
  sign _ _ := some sig
  recover r s odd _ :=
    if r = sig.r ∧ s = sig.s ∧ odd = (sig.recoveryId == 1) then some key else none

theorem lawful_ofRecord {key : PublicKey} (hrange : sig.InRange)
    (hpoint : Secp256k1.eulerTest sig.r = 1) : (ofRecord key sig).Lawful where
  sign _ _ := ⟨sig, rfl, hrange, if_pos ⟨rfl, rfl, rfl⟩⟩
  onCurve {r s odd digest key'} h := by
    unfold ofRecord at h
    simp only at h
    split at h
    next hrecord =>
      rw [hrecord.1]
      exact Secp256k1.eulerTest_eq_one_iff.mp hpoint
    · cases h

end Curve

/-- The secret of which every byte is one. -/
def SecretKey.ofOnes : SecretKey :=
  ⟨⟨List.replicate 32 1, rfl⟩, by decide, by decide⟩

/-- The public key of `SecretKey.ofOnes`. -/
def PublicKey.ofOnes : PublicKey :=
  Secp256k1.encodePoint 0x1b84c5567b126440995d3ed5aaba0565d71e1834604819ff9c17f5e9d5dd078f
    0x70beaf8f588b541507fed6a642c5ab42dfdf8120a7f639de5122d47a69a8e8d1

end Signet
