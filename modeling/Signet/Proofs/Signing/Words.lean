import Signet.Proofs.Signing.Recovery

/-! # The scalars of a signature have 32 bytes

`Curve.SignsWords` says so of a curve library, and the curve in use is one of these
(`signsWords_secp256k1`): whatever nonce gives the signature, its scalars are below the
group order.
-/

namespace Signet

/-- The scalars of every signature have 32 bytes. -/
def Curve.SignsWords (C : Curve) : Prop :=
  ∀ k digest sig, C.sign k digest = some sig → sig.r < uint256Ceiling ∧ sig.s < uint256Ceiling

namespace Secp256k1

variable {k : SecretKey} {digest : Hash} {sig : RecoverableSignature}

/-- The first signature that `sign` makes with one of the next nonces. -/
def firstSignature (sign : Nat → Option RecoverableSignature) :
    Nat → NonceStream → Option RecoverableSignature
  | 0, _ => none
  | attempts + 1, g =>
    let (nonce, g) := g.next
    match sign nonce.toNat with
    | some sig => some sig
    | none => firstSignature sign attempts g

/-- Signing tries the nonces in turn.  Both sides are the same recursion; comparing them
step by step would compute the nonces of a seed that is not known. -/
theorem signFrom?_eq (k : SecretKey) (digest : Hash) :
    signFrom? k digest = firstSignature (signWith? k digest) := by
  delta signFrom? firstSignature
  delta signFrom?._f firstSignature._f
  rfl

theorem exists_of_firstSignature {sign : Nat → Option RecoverableSignature} {attempts : Nat}
    {g : NonceStream} (h : firstSignature sign attempts g = some sig) :
    ∃ nonce, sign nonce = some sig := by
  induction attempts generalizing g with
  | zero => cases h
  | succ attempts ih =>
    rw [firstSignature] at h
    generalize g.next = step at h
    obtain ⟨nonce, rest⟩ := step
    cases hsign : sign nonce.toNat with
    | some sig' =>
      simp only [hsign] at h
      exact ⟨nonce.toNat, hsign.trans h⟩
    | none =>
      simp only [hsign] at h
      exact ih h

/-- A signature is made with one nonce. -/
theorem exists_of_signDigest? (h : signDigest? k digest = some sig) :
    ∃ nonce, signWith? k digest nonce = some sig := by
  rw [signDigest?, signFrom?_eq] at h
  exact exists_of_firstSignature h

theorem words_of_signWith? {nonce : Nat} (h : signWith? k digest nonce = some sig) :
    sig.r < uint256Ceiling ∧ sig.s < uint256Ceiling := by
  have horder : groupOrder < uint256Ceiling := RecoverableSignature.InRange.groupOrder_lt_ceiling
  have hmod : ∀ n, n % groupOrder < uint256Ceiling := fun n =>
    Nat.lt_trans (Nat.mod_lt n (by decide)) horder
  unfold signWith? at h
  split at h
  · cases h
  split at h
  · cases h
  simp only at h
  split at h
  · cases h
  · split at h
    · cases h
      exact ⟨hmod _, Nat.lt_of_le_of_lt (Nat.sub_le ..) horder⟩
    · cases h
      exact ⟨hmod _, hmod _⟩

end Secp256k1

/-- **The curve in use signs with scalars of 32 bytes.** -/
theorem signsWords_secp256k1 : secp256k1.SignsWords := by
  intro k digest sig h
  dsimp only [secp256k1] at h
  obtain ⟨nonce, hnonce⟩ := Secp256k1.exists_of_signDigest? h
  exact Secp256k1.words_of_signWith? hnonce

end Signet
