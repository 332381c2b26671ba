import Signet.Proofs.Transaction.Signed

/-! # The wire never changes the signer

What a receiver has of a transaction is not what was sent: unset integers have become
zeros, the sender and the fields of other envelopes are gone, and a legacy transaction has
the chain that its `v` tells in place of the one it named.  None of this shows in recovery.
The receiver reads the same recovery id and the same chain (`recoveryId_received`), and
looks at the same pre-image, since a legacy transaction stands there for the chain that is
told, whatever it names (`signingHash_asSigned_received`).  So the curve is asked the same
question on both sides (`recover_received_eq`).

Nor is there a signer whom the wire keeps back.  It has no room for the `v` of a typed
transaction that needs more than one byte, but recovery takes none above one
(`v_le_of_recoveryId`).
-/

namespace Signet
namespace Transaction

open Rlp

variable {tx : Transaction} {e : Envelope} {id : Nat} {told : Option Nat}

/-! ## The recovery id -/

/-- A transaction whose recovery id is read carries a signature that is not zero, and is
not taken for one without. -/
theorem exists_carries_of_recoveryId (h : tx.recoveryId = .ok (id, told)) :
    id ≤ 1 ∧ ∃ sig : Signature, tx.Carries sig.v ⟨sig.r, sig.s, id⟩ ∧ sig.isZero = false ∧
      ¬ tx.Unsigned ∧ tx.Tells id sig.v told := by
  obtain ⟨hid, sig, hv, hr, hs, hzero, htells⟩ := recoveryId_eq_ok_iff.mp h
  refine ⟨hid, sig, ⟨hv, hr, hs⟩, hzero, ?_, htells⟩
  rintro ⟨hv0, hr0, hs0⟩
  rw [hv, Option.getD_some, Int.natCast_eq_zero] at hv0
  rw [hr, Option.getD_some, Int.natCast_eq_zero] at hr0
  rw [hs, Option.getD_some, Int.natCast_eq_zero] at hs0
  rw [Signature.isZero, hv0, hr0, hs0] at hzero
  cases hzero

/-- **A receiver reads the same recovery id**, and is told the same chain. -/
theorem recoveryId_received (he : tx.envelope? = some e) (h : tx.recoveryId = .ok (id, told)) :
    (tx.received e).recoveryId = .ok (id, told) := by
  obtain ⟨hid, sig, hcarries, hzero, hset, htells⟩ := exists_carries_of_recoveryId h
  have hreceived := carries_received hcarries hset e
  exact recoveryId_eq_ok_iff.mpr ⟨hid, sig, hreceived.v, hreceived.r, hreceived.s, hzero,
    tells_received he hcarries hset hid htells⟩

/-- The `v` of a typed transaction whose recovery id is read is small enough for the wire. -/
theorem v_le_of_recoveryId (he : tx.envelope? = some e) (h : tx.recoveryId = .ok (id, told)) :
    e = .legacy ∨ tx.v.getD 0 ≤ 0xFF := by
  obtain ⟨hid, sig, hcarries, -, -, htells⟩ := exists_carries_of_recoveryId h
  cases hl : tx.isLegacy with
  | true => exact Or.inl ((isLegacy_iff_eq he).mp hl)
  | false =>
    obtain ⟨hv, -⟩ := htells.of_typed hl
    rw [hcarries.v, Option.getD_some]
    exact Or.inr (by omega)

/-! ## The pre-image -/

/-- Once both stand for the chain that is told, a receiver has the content that was sent. -/
theorem sameContent_asSigned_received (he : tx.envelope? = some e) (told : Option Nat) :
    SameContent e ((tx.received e).asSigned told) (tx.asSigned told) := by
  have hcontent := sameContent_received tx e
  have hl := isLegacy_received he
  by_cases hlegacy : tx.isLegacy = true
  · rw [asSigned, asSigned, if_pos (hl.trans hlegacy), if_pos hlegacy]
    exact { hcontent with chainId := rfl }
  · have hne : e ≠ .legacy := fun heq => hlegacy ((isLegacy_iff_eq he).mpr heq)
    have hchain : (tx.received e).chainId.getD 0 = tx.chainId.getD 0 := by
      rw [chainId_received_of_typed hne, Option.getD_some]
    rw [asSigned, asSigned, if_neg (hl ▸ hlegacy), if_neg hlegacy]
    exact { hcontent with chainId := hchain }

theorem signingHash_asSigned_received (he : tx.envelope? = some e) (told : Option Nat) :
    ((tx.received e).asSigned told).signingHash = (tx.asSigned told).signingHash :=
  signingHash_congr ((envelope_asSigned told).trans (envelope_received tx e))
    ((envelope_asSigned told).trans he) (sameContent_asSigned_received he told)

/-! ## Recovery -/

/-- **The curve is asked the same question on both sides of the wire**, so that a receiver
recovers what the sender does, and fails where the sender fails. -/
theorem recover_received_eq (C : Curve) (he : tx.envelope? = some e)
    (h : tx.recoveryId = .ok (id, told)) : (tx.received e).recover C = tx.recover C := by
  obtain ⟨-, sig, hcarries, -, hset, -⟩ := exists_carries_of_recoveryId h
  have hreceived := carries_received hcarries hset e
  rw [recover_of_recoveryId C h hcarries.r hcarries.s,
    recover_of_recoveryId C (recoveryId_received he h) hreceived.r hreceived.s,
    signingHash_asSigned_received he]

/-- Where an address is recovered, the recovery id is read. -/
theorem exists_recoveryId_of_recover {C : Curve} {a : Address} (h : tx.recover C = .ok a) :
    ∃ id told, tx.recoveryId = .ok (id, told) := by
  obtain ⟨⟨id, told⟩, hid, -⟩ := bind_eq_ok_iff.mp h
  exact ⟨id, told, hid⟩

theorem sender_received (tx : Transaction) (e : Envelope) : (tx.received e).sender = none := by
  cases e <;> rfl

/-- **The wire never changes the signer.**  If an address is recovered from a valid
transaction, whoever signed it and under whichever convention for `v`, its wire form with
anything behind it is read, and the same address is recovered from what is read, which
names no sender.  The bound on the length is that of `decodeItem`; no prefix tells a length
of more than eight bytes. -/
theorem recover_decode_encode (C : Curve) (tx : Transaction) (a : Address) (h : tx.Valid)
    (ha : tx.recover C = .ok a) :
    ∃ w, tx.encode = .ok w ∧ (w.length < payloadCeiling → ∀ u, ∃ d,
      decode (w ++ u) = .ok (d, w.length) ∧ d.sender = none ∧ d.recoveryId = tx.recoveryId ∧
        d.recover C = .ok a) := by
  obtain ⟨e, he⟩ := exists_envelope h
  obtain ⟨id, told, hid⟩ := exists_recoveryId_of_recover ha
  refine ⟨_, encode_of_valid h he, fun hlen u => ⟨tx.received e, ?_, sender_received tx e, ?_, ?_⟩⟩
  · rw [decode_items tx e u hlen, read_items h (v_le_of_recoveryId he hid)]
    rfl
  · rw [recoveryId_received he hid, hid]
  · rw [recover_received_eq C he hid, ha]

/-- The transfer for no chain with its signature, a bare recovery id for `v`, a sender who
did not sign it and a fee of another envelope. -/
def bareTransfer : Transaction :=
  { signedTransfer none 0 transferSignature with
    sender := some Address.zero
    maxFeePerGas := some 1 }

theorem valid_bareTransfer : bareTransfer.Valid :=
  { valid_transfer nonNegative_none with
    maxFeePerGas := nonNegative_natCast 1
    v := nonNegative_natCast 0
    r := fitsWord_natCast inRange_transferSignature.r_lt_ceiling
    s := fitsWord_natCast inRange_transferSignature.s_lt_ceiling }

/-- The receiver of `bareTransfer`, to whom another byte comes behind it, recovers the
signer. -/
theorem recover_decode_encode_bare :
    bareTransfer.Valid ∧
    bareTransfer.recover (.ofRecord .ofOnes transferSignature) =
      .ok (Curve.address (.ofRecord .ofOnes transferSignature) .ofOnes) ∧
    ∃ w d, bareTransfer.encode = .ok w ∧ decode (w ++ [0xFF]) = .ok (d, 110) ∧ d.sender = none ∧
      d.recover (.ofRecord .ofOnes transferSignature) =
        .ok (Curve.address (.ofRecord .ofOnes transferSignature) .ofOnes) := by
  obtain ⟨digest, hdigest⟩ := exists_signingHash valid_bareTransfer
  have hcontent : SameContent .legacy (bareTransfer.asSigned none) bareTransfer := by
    constructor <;> intros <;> rfl
  obtain ⟨-, hrecover⟩ := recover_of_carries (k := .ofOnes) (v := 0)
    lawful_transferSignature rfl rfl hcontent hdigest rfl ⟨rfl, rfl, rfl⟩ (by decide) (.bare rfl)
  obtain ⟨w, hw, hread⟩ := recover_decode_encode _ _ _ valid_bareTransfer hrecover
  have hsize : bareTransfer.encode.map List.length = .ok 110 := by
    decide +kernel
  rw [hw] at hsize
  have hlen : w.length = 110 := Except.ok.inj hsize
  obtain ⟨d, hd, hnone, -, hsigner⟩ := hread (by rw [hlen]; decide) [0xFF]
  rw [hlen] at hd
  exact ⟨valid_bareTransfer, hrecover, w, d, hw, hd, hnone, hsigner⟩

end Transaction
end Signet
