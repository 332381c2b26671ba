import Signet.Proofs.Transaction.Fields
import Signet.Proofs.Transaction.Signed

/-! # Signing what is signed

Signing writes four fields, the sender and the signature, and of what stands in them it
asks only whether the sender is another one.  The digest, `v`, and all that is copied come
from the other fields (`signingHash_eq`, `signatureV_eq`, `signedBy_eq`).  So two
transactions that differ in the four fields alone, both without another sender, are signed
to the same outcome (`sign_congr`).

What signing gives is such a transaction.  It is signed to itself by the same key, and by
no key with another address (`sign_of_signed`).
-/

namespace Signet
namespace Transaction

variable {a b tx t : Transaction} {C : Curve} {k : SecretKey}

/-- The fields that signing writes. -/
def writtenFields : List Field :=
  .sender :: signatureFields

/-- Two transactions agree in all that signing does not write. -/
def SameUnsigned (a b : Transaction) : Prop :=
  ∀ f ∉ writtenFields, a.get f = b.get f

/-- New values in the fields that signing writes leave the others as they are. -/
theorem sameUnsigned_update (tx : Transaction) (sender : Option Address) (v r s : Option Int) :
    SameUnsigned { tx with sender, v, r, s } tx := by
  intro f hf
  cases f with
  | sender | v | r | s => exact absurd (by decide) hf
  | _ => rfl

namespace SameUnsigned

/-- One of the two is the other one with four fields of its own. -/
theorem eq_update (h : a.SameUnsigned b) :
    a = { b with sender := a.sender, v := a.v, r := a.r, s := a.s } := by
  refine ext_get fun f => ?_
  by_cases hf : f ∈ writtenFields
  · simp only [writtenFields, signatureFields, List.mem_cons, List.not_mem_nil, or_false] at hf
    rcases hf with rfl | rfl | rfl | rfl <;> rfl
  · exact (h f hf).trans (sameUnsigned_update b _ _ _ _ f hf).symm

theorem signatureV_eq (h : a.SameUnsigned b) (id : Nat) : a.signatureV id = b.signatureV id := by
  rw [h.eq_update]
  rfl

/-- **The digest is of the other fields**, for every type: a type that has no envelope is
refused with its number. -/
theorem signingHash_eq (h : a.SameUnsigned b) : a.signingHash = b.signingHash := by
  have hty : a.envelope? = b.envelope? := by
    rw [h.eq_update]
    rfl
  cases hb : b.envelope? with
  | none =>
    have hunsupported : a.unsupported = b.unsupported := by
      rw [h.eq_update]
      rfl
    simp only [signingHash, signingPreImage, hty, hb, hunsupported]
  | some e =>
    have hcontent : SameContent e a b := by
      rw [h.eq_update]
      constructor <;> intros <;> rfl
    exact signingHash_congr (hty.trans hb) hb hcontent

/-- A signature makes the same transaction of both. -/
theorem signedBy_eq (h : a.SameUnsigned b) (C : Curve) (k : SecretKey)
    (sig : RecoverableSignature) : a.signedBy C k sig = b.signedBy C k sig := by
  have hv := h.signatureV_eq sig.recoveryId
  rw [signedBy, signedBy, hv, h.eq_update]

end SameUnsigned

/-! ## Which sender is let through -/

/-- Without another sender the digest is signed, and the signature written. -/
theorem sign_of_own_sender (h : ∀ x ∈ tx.sender, x = C.address k) :
    tx.sign C k = (do
      let sig ← C.signDigest k (← tx.signingHash)
      return tx.signedBy C k sig) := by
  unfold sign
  cases hs : tx.sender with
  | none => rfl
  | some x =>
    simp only [h x hs, ne_eq, not_true_eq_false, if_false]
    rfl

/-- With another sender nothing is signed. -/
theorem sign_of_other_sender {x : Address} (hs : tx.sender = some x) (h : x ≠ C.address k) :
    tx.sign C k = .error (.signer x (C.address k)) := by
  unfold sign
  simp only [hs, ne_eq, h, not_false_eq_true, if_true]
  rfl

/-- **What stood in the four fields does not matter**, but for another sender: signing has
the same outcome, also where it fails. -/
theorem sign_congr (h : a.SameUnsigned b) (ha : ∀ x ∈ a.sender, x = C.address k)
    (hb : ∀ x ∈ b.sender, x = C.address k) : a.sign C k = b.sign C k := by
  rw [sign_of_own_sender ha, sign_of_own_sender hb, h.signingHash_eq]
  simp only [h.signedBy_eq]

/-! ## What signing gives -/

/-- **What is signed is done.**  Signing keeps all fields but the sender and the
signature.  What it gives is signed by the same key to itself, and refused to every key
with another address.  And it is given for every transaction with those fields, whatever
signature stands on it, with the signer as its sender or with none. -/
theorem sign_of_signed (h : tx.sign C k = .ok t) :
    (∀ f, f ∉ [Field.sender, .v, .r, .s] → t.get f = tx.get f) ∧
    t.sign C k = .ok t ∧
    (∀ k', C.address k' ≠ C.address k →
      t.sign C k' = .error (.signer (C.address k) (C.address k'))) ∧
    (∀ u : Transaction, (∀ f, f ∉ [Field.sender, .v, .r, .s] → u.get f = tx.get f) →
      (∀ x ∈ u.sender, x = C.address k) → u.sign C k = .ok t) := by
  obtain ⟨hsender, digest, sig, -, -, rfl⟩ := sign_eq_ok_iff.mp h
  have hkept : (tx.signedBy C k sig).SameUnsigned tx := sameUnsigned_update tx _ _ _ _
  have hsigner : (tx.signedBy C k sig).sender = some (C.address k) := rfl
  -- what was signed is one of the transactions that are signed to it
  have hsame (u : Transaction) (hu : u.SameUnsigned tx) (hx : ∀ x ∈ u.sender, x = C.address k) :
      u.sign C k = .ok (tx.signedBy C k sig) :=
    (sign_congr hu hx hsender).trans h
  refine ⟨hkept, hsame _ hkept ?_, fun k' hk' => ?_, hsame⟩
  · intro x hx
    exact Option.some.inj (hx.symm.trans hsigner)
  · exact sign_of_other_sender hsigner hk'.symm

/-- The keys of secp256k1, with one signature for whatever is signed: that of
`SecretKey.ofOnes` over the transfer for the chain 5. -/
def transferCurve : Curve :=
  { secp256k1 with sign := fun _ _ => some transferSignatureFive }

/-- A secret key with another address than `SecretKey.ofOnes`. -/
def otherSecret : SecretKey :=
  ⟨⟨List.replicate 32 2, rfl⟩, by decide, by decide⟩

/-- The transfer for the chain 5 is signed once: again by the same key it stays as it is,
the other key is refused, and a signature that stood on it before is replaced. -/
theorem sign_of_signed_five :
    ∃ t, (transfer (some 5)).sign transferCurve .ofOnes = .ok t ∧
      t.Carries 46 transferSignatureFive ∧
      t.sign transferCurve .ofOnes = .ok t ∧
      t.sign transferCurve otherSecret =
        .error (.signer (transferCurve.address .ofOnes) (transferCurve.address otherSecret)) ∧
      (signedTransfer (some 5) 27 transferSignature).sign transferCurve .ofOnes = .ok t := by
  obtain ⟨digest, hdigest⟩ := exists_signingHash (valid_transfer (nonNegative_natCast 5))
  have hsigned : (transfer (some 5)).sign transferCurve .ofOnes =
      .ok ((transfer (some 5)).signedBy transferCurve .ofOnes transferSignatureFive) :=
    sign_eq_ok_iff.mpr ⟨nofun, digest, transferSignatureFive, hdigest, rfl, rfl⟩
  have hother : transferCurve.address otherSecret ≠ transferCurve.address .ofOnes := by
    decide +kernel
  obtain ⟨-, hagain, hrefused, hsame⟩ := sign_of_signed hsigned
  have hreplaced : (signedTransfer (some 5) 27 transferSignature).SameUnsigned (transfer (some 5)) :=
    sameUnsigned_update (transfer (some 5)) none _ _ _
  exact ⟨_, hsigned, ⟨rfl, rfl, rfl⟩, hagain, hrefused _ hother, hsame _ hreplaced nofun⟩

end Transaction
end Signet
