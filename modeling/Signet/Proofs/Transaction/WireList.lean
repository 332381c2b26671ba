import Signet.Proofs.Transaction.Validity
import Signet.Proofs.Transaction.WireItem

/-! # The list of a transaction on the wire

On the wire a transaction is the list of the items of its fields (`items`).
Every envelope has a reader of its own (`Envelope.read`), and each of them is the
inverse of writing: what it reads has exactly the items it was read from
(`items_of_read`), and from the items of a valid transaction it reads what the
wire keeps of it (`read_items`).

What the wire keeps is `received`: the sender and the fields of other envelopes
are gone, an unset integer has become zero, and a signature of zeros has become
none.  A legacy transaction has the chain id that its signature tells.
-/

namespace Signet

open Rlp

namespace Envelope

/-- All fields on the wire, in order. -/
def fields (e : Envelope) : List Transaction.Field :=
  e.signedFields ++ Transaction.signatureFields

/-- Reads the list behind the type byte. -/
def read : Envelope → List Item → Except Error Transaction
  | .legacy => Transaction.ofLegacyItems
  | .accessList => Transaction.ofAccessListItems
  | .dynamicFee => Transaction.ofDynamicFeeItems

end Envelope

namespace Transaction

/-! ## What the wire keeps -/

/-- The item of what stands for a field, where that is no negative integer. -/
def WireValue.toItem : WireValue → Item
  | .integer i => .ofNat i.toNat
  | .bytes b => .bytes b
  | .accessList l => .list (l.map AccessTuple.toItem)

/-- The items of a transaction on the wire of an envelope. -/
def items (tx : Transaction) (e : Envelope) : List Item :=
  e.fields.map fun f => (tx.wireValue f).toItem

/-- An integer field behind the wire: an unset one is zero. -/
def folded (n : Option Int) : Option Int :=
  some (n.getD 0)

/-- Whether the signature on a transaction is all zeros, or as good as that. -/
def Unsigned (tx : Transaction) : Prop :=
  tx.v.getD 0 = 0 ∧ tx.r.getD 0 = 0 ∧ tx.s.getD 0 = 0

instance (tx : Transaction) : Decidable tx.Unsigned :=
  inferInstanceAs (Decidable (_ ∧ _ ∧ _))

/-- A field of the signature behind the wire. -/
def foldedSignature (tx : Transaction) (n : Option Int) : Option Int :=
  if tx.Unsigned then none else folded n

/-- The chain id that the signature of a legacy transaction tells. -/
def toldChainId (tx : Transaction) : Option Int :=
  if ¬ tx.Unsigned ∧ 35 ≤ tx.v.getD 0 then some ((tx.v.getD 0 - 35) / 2) else none

/-- **What the receiver of a transaction has.** -/
def received (tx : Transaction) : Envelope → Transaction
  | .legacy =>
    { ty := 0
      nonce := folded tx.nonce
      gasPrice := folded tx.gasPrice
      gasLimit := folded tx.gasLimit
      recipient := tx.recipient
      value := folded tx.value
      data := tx.data
      chainId := tx.toldChainId
      v := tx.foldedSignature tx.v
      r := tx.foldedSignature tx.r
      s := tx.foldedSignature tx.s }
  | .accessList =>
    { ty := 1
      chainId := folded tx.chainId
      nonce := folded tx.nonce
      gasPrice := folded tx.gasPrice
      gasLimit := folded tx.gasLimit
      recipient := tx.recipient
      value := folded tx.value
      data := tx.data
      accessList := some (tx.accessList.getD [])
      v := tx.foldedSignature tx.v
      r := tx.foldedSignature tx.r
      s := tx.foldedSignature tx.s }
  | .dynamicFee =>
    { ty := 2
      chainId := folded tx.chainId
      nonce := folded tx.nonce
      maxPriorityFeePerGas := folded tx.maxPriorityFeePerGas
      maxFeePerGas := folded tx.maxFeePerGas
      gasLimit := folded tx.gasLimit
      recipient := tx.recipient
      value := folded tx.value
      data := tx.data
      accessList := some (tx.accessList.getD [])
      v := tx.foldedSignature tx.v
      r := tx.foldedSignature tx.r
      s := tx.foldedSignature tx.s }

/-- An unset integer or one that is not negative goes through the wire as zero or
as it is. -/
theorem some_toNat_getD {n : Option Int} (h : NonNegative n) :
    some (((n.getD 0).toNat : Nat) : Int) = folded n := by
  rw [Int.toNat_of_nonneg h.getD, folded]

/-! ## Reading the items -/

section

variable {tx : Transaction} {v r s : Nat}

/-- A transaction without a signature gets the items of the one that was read:
all zeros, which are kept as none, are written as zeros again. -/
theorem items_withSignature (e : Envelope) (hv : tx.v = none) (hr : tx.r = none)
    (hs : tx.s = none) :
    (tx.withSignature (signatureOf v r s)).items e =
      (e.signedFields.map fun f => (tx.wireValue f).toItem) ++
        [.ofNat v, .ofNat r, .ofNat s] := by
  by_cases hz : v = 0 ∧ r = 0 ∧ s = 0
  · obtain ⟨rfl, rfl, rfl⟩ := hz
    cases e <;>
      simp [items, Envelope.fields, Envelope.signedFields, signatureFields, signatureOf,
        withSignature, wireValue, WireValue.toItem, hv, hr, hs]
  · rw [signatureOf, if_neg hz]
    cases e <;>
      simp [items, Envelope.fields, Envelope.signedFields, signatureFields, withSignature,
        wireValue, WireValue.toItem]

theorem valid_withSignature (h : tx.Valid) (hr : r < uint256Ceiling) (hs : s < uint256Ceiling) :
    (tx.withSignature (signatureOf v r s)).Valid := by
  unfold signatureOf
  split
  · exact h
  · exact { h with
      v := nonNegative_natCast v
      r := fitsWord_natCast hr
      s := fitsWord_natCast hs }

theorem getD_v_withSignature (hv : tx.v = none) :
    (tx.withSignature (signatureOf v r s)).v.getD 0 = v := by
  unfold signatureOf
  split
  next hz =>
    rw [withSignature, hv, hz.1]
    rfl
  · rfl

end

theorem envelope?_withSignature (tx : Transaction) (sig : Option (Nat × Nat × Nat)) :
    (tx.withSignature sig).envelope? = tx.envelope? := by
  cases sig <;> rfl

theorem nonNegative_chainIdOfSignature (sig : Option (Nat × Nat × Nat)) :
    NonNegative (chainIdOfSignature sig) := by
  cases sig with
  | none => exact nonNegative_none
  | some p =>
    rw [chainIdOfSignature]
    split
    · exact nonNegative_natCast _
    · exact nonNegative_none

/-- What the three readers have in common: a valid transaction without a signature
gets the signature that was read, and has the items of its fields and of that. -/
theorem items_of_signatureOfItems {e : Envelope} {tx : Transaction} {typed : Bool}
    {x y z : Item} {sig : Option (Nat × Nat × Nat)} (hsig : signatureOfItems typed x y z = .ok sig)
    (htyped : e = .legacy ∨ typed = true) (h : tx.Valid) (he : tx.envelope? = some e)
    (hv : tx.v = none) (hr : tx.r = none) (hs : tx.s = none) :
    (tx.withSignature sig).Valid ∧ (tx.withSignature sig).envelope? = some e ∧
      (tx.withSignature sig).items e =
        (e.signedFields.map fun f => (tx.wireValue f).toItem) ++ [x, y, z] ∧
      (e = .legacy ∨ (tx.withSignature sig).v.getD 0 ≤ 0xFF) := by
  obtain ⟨v, r, s, rfl, rfl, rfl, hr256, hs256, hbyte, rfl⟩ := signatureOfItems_eq_ok_iff.mp hsig
  refine ⟨valid_withSignature h hr256 hs256, ?_, items_withSignature e hv hr hs, ?_⟩
  · rw [envelope?_withSignature, he]
  · rw [getD_v_withSignature hv]
    exact htyped.imp_right fun ht => Int.ofNat_le.mpr (hbyte ht)

/-- **What is read has the items it was read from**, is valid, and of the
envelope that was read; the `v` of a typed one fits into one byte. -/
theorem items_of_read {e : Envelope} {xs : List Item} {t : Transaction} (h : e.read xs = .ok t) :
    t.Valid ∧ t.envelope? = some e ∧ t.items e = xs ∧ (e = .legacy ∨ t.v.getD 0 ≤ 0xFF) := by
  cases e with
  | legacy =>
    change ofLegacyItems xs = .ok t at h
    unfold ofLegacyItems at h
    split at h
    · simp only [bind_eq_ok_iff, mapError_eq_ok_iff, integerField_eq_ok_iff,
        recipientField_eq_ok_iff, Item.asBytes_eq_ok_iff] at h
      obtain ⟨sig, hsig, tx, ⟨_, ⟨nonce, rfl, rfl⟩, _, ⟨gasPrice, rfl, rfl⟩,
        _, ⟨gasLimit, rfl, rfl⟩, recipient, rfl, _, ⟨value, rfl, rfl⟩, data, rfl, htx⟩, ht⟩ := h
      cases htx
      cases ht
      refine items_of_signatureOfItems hsig (Or.inl rfl) ?_ rfl rfl rfl rfl
      constructor <;> simp [envelope?, Envelope.ofCode?, nonNegative_chainIdOfSignature]
    · cases h
  | accessList =>
    change ofAccessListItems xs = .ok t at h
    unfold ofAccessListItems at h
    split at h
    · simp only [bind_eq_ok_iff, mapError_eq_ok_iff, integerField_eq_ok_iff,
        recipientField_eq_ok_iff, Item.asBytes_eq_ok_iff, accessListField_eq_ok_iff] at h
      obtain ⟨tx, ⟨_, ⟨chainId, rfl, rfl⟩, _, ⟨nonce, rfl, rfl⟩, _, ⟨gasPrice, rfl, rfl⟩,
        _, ⟨gasLimit, rfl, rfl⟩, recipient, rfl, _, ⟨value, rfl, rfl⟩, data, rfl,
        _, ⟨accessList, rfl, rfl⟩, htx⟩, sig, hsig, ht⟩ := h
      cases htx
      cases ht
      refine items_of_signatureOfItems hsig (Or.inr rfl) ?_ rfl rfl rfl rfl
      constructor <;> simp [envelope?, Envelope.ofCode?]
    · cases h
  | dynamicFee =>
    change ofDynamicFeeItems xs = .ok t at h
    unfold ofDynamicFeeItems at h
    split at h
    · simp only [bind_eq_ok_iff, mapError_eq_ok_iff, integerField_eq_ok_iff,
        recipientField_eq_ok_iff, Item.asBytes_eq_ok_iff, accessListField_eq_ok_iff] at h
      obtain ⟨tx, ⟨_, ⟨chainId, rfl, rfl⟩, _, ⟨nonce, rfl, rfl⟩, _, ⟨tip, rfl, rfl⟩,
        _, ⟨cap, rfl, rfl⟩, _, ⟨gasLimit, rfl, rfl⟩, recipient, rfl, _, ⟨value, rfl, rfl⟩,
        data, rfl, _, ⟨accessList, rfl, rfl⟩, htx⟩, sig, hsig, ht⟩ := h
      cases htx
      cases ht
      refine items_of_signatureOfItems hsig (Or.inr rfl) ?_ rfl rfl rfl rfl
      constructor <;> simp [envelope?, Envelope.ofCode?]
    · cases h

/-! ## Reading what was written -/

section

variable {tx : Transaction}

theorem integerField_ofNat_getD {n : Option Int} (h : NonNegative n) :
    integerField (.ofNat (n.getD 0).toNat) = .ok (folded n) :=
  integerField_eq_ok_iff.mpr ⟨_, rfl, (some_toNat_getD h).symm⟩

/-- The signature of a valid transaction is read as three integers, or as none. -/
theorem signatureOfItems_items {typed : Bool} (h : tx.Valid)
    (hv : typed = true → tx.v.getD 0 ≤ 0xFF) :
    signatureOfItems typed (.ofNat (tx.v.getD 0).toNat) (.ofNat (tx.r.getD 0).toNat)
        (.ofNat (tx.s.getD 0).toNat) =
      .ok (signatureOf (tx.v.getD 0).toNat (tx.r.getD 0).toNat (tx.s.getD 0).toNat) := by
  rw [signatureOfItems_eq_ok_iff]
  refine ⟨_, _, _, rfl, rfl, rfl, h.r.toNat_getD_lt, h.s.toNat_getD_lt, fun ht => ?_, rfl⟩
  have := hv ht
  omega

theorem toNat_eq_zero_iff (h : tx.Valid) :
    ((tx.v.getD 0).toNat = 0 ∧ (tx.r.getD 0).toNat = 0 ∧ (tx.s.getD 0).toNat = 0) ↔
      tx.Unsigned := by
  have hv := h.v.getD
  have hr := h.r.nonNegative.getD
  have hs := h.s.nonNegative.getD
  unfold Unsigned
  omega

/-- The signature that was read is put where none was. -/
theorem withSignature_items {base : Transaction} (h : tx.Valid) (hv : base.v = none)
    (hr : base.r = none) (hs : base.s = none) :
    base.withSignature
        (signatureOf (tx.v.getD 0).toNat (tx.r.getD 0).toNat (tx.s.getD 0).toNat) =
      { base with
        v := tx.foldedSignature tx.v
        r := tx.foldedSignature tx.r
        s := tx.foldedSignature tx.s } := by
  unfold signatureOf foldedSignature
  by_cases hz : tx.Unsigned
  · rw [if_pos ((toNat_eq_zero_iff h).mpr hz), if_pos hz, if_pos hz, if_pos hz]
    cases base
    cases hv
    cases hr
    cases hs
    rfl
  · rw [if_neg (mt (toNat_eq_zero_iff h).mp hz), if_neg hz, if_neg hz, if_neg hz, withSignature,
      some_toNat_getD h.v, some_toNat_getD h.r.nonNegative, some_toNat_getD h.s.nonNegative]

theorem chainIdOfSignature_items (h : tx.Valid) :
    chainIdOfSignature
        (signatureOf (tx.v.getD 0).toNat (tx.r.getD 0).toNat (tx.s.getD 0).toNat) =
      tx.toldChainId := by
  have hv := h.v.getD
  unfold signatureOf toldChainId
  by_cases hz : tx.Unsigned
  · rw [if_pos ((toNat_eq_zero_iff h).mpr hz), if_neg fun hn => hn.1 hz]
    rfl
  · rw [if_neg (mt (toNat_eq_zero_iff h).mp hz), chainIdOfSignature]
    by_cases hlow : 35 ≤ tx.v.getD 0
    · rw [if_pos (by unfold replayOffset; omega), if_pos ⟨hz, hlow⟩]
      unfold replayOffset
      congr 1
      omega
    · rw [if_neg (by unfold replayOffset; omega), if_neg fun hn => hlow hn.2]

/-- **What is written is read as what the wire keeps of it**, unless the `v` of a
typed transaction needs more than one byte. -/
theorem read_items {e : Envelope} (h : tx.Valid) (hv : e = .legacy ∨ tx.v.getD 0 ≤ 0xFF) :
    e.read (tx.items e) = .ok (tx.received e) := by
  have hrecipient : recipientField (tx.wireValue .recipient).toItem = .ok tx.recipient :=
    recipientField_eq_ok_iff.mpr rfl
  have haccess : accessListField (tx.wireValue .accessList).toItem =
      .ok (some (tx.accessList.getD [])) := accessListField_eq_ok_iff.mpr ⟨_, rfl, rfl⟩
  have hdata : (tx.wireValue .data).toItem.asBytes none = .ok tx.data := rfl
  cases e with
  | legacy =>
    -- here the signature is read before the fields, since it tells the chain id
    have hsig := signatureOfItems_items h (fun ht : false = true => nomatch ht)
    change ofLegacyItems [.ofNat _, .ofNat _, .ofNat _, (tx.wireValue .recipient).toItem, .ofNat _,
      (tx.wireValue .data).toItem, .ofNat _, .ofNat _, .ofNat _] = _
    unfold ofLegacyItems
    simp only [hsig, hrecipient, hdata, ok_bind, integerField_ofNat_getD h.nonce,
      integerField_ofNat_getD h.gasPrice, integerField_ofNat_getD h.gasLimit,
      integerField_ofNat_getD h.value]
    exact congrArg Except.ok ((withSignature_items h rfl rfl rfl).trans
      (by rw [chainIdOfSignature_items h]; rfl))
  | accessList =>
    have hsig := signatureOfItems_items h fun _ : true = true => hv.resolve_left (by decide)
    change ofAccessListItems [.ofNat _, .ofNat _, .ofNat _, .ofNat _,
      (tx.wireValue .recipient).toItem, .ofNat _, (tx.wireValue .data).toItem,
      (tx.wireValue .accessList).toItem, .ofNat _, .ofNat _, .ofNat _] = _
    unfold ofAccessListItems
    simp only [hrecipient, hdata, haccess, ok_bind, integerField_ofNat_getD h.chainId,
      integerField_ofNat_getD h.nonce, integerField_ofNat_getD h.gasPrice,
      integerField_ofNat_getD h.gasLimit, integerField_ofNat_getD h.value]
    exact bind_eq_ok_iff.mpr ⟨_, rfl, bind_eq_ok_iff.mpr
      ⟨_, hsig, congrArg Except.ok (withSignature_items h rfl rfl rfl)⟩⟩
  | dynamicFee =>
    have hsig := signatureOfItems_items h fun _ : true = true => hv.resolve_left (by decide)
    change ofDynamicFeeItems [.ofNat _, .ofNat _, .ofNat _, .ofNat _, .ofNat _,
      (tx.wireValue .recipient).toItem, .ofNat _, (tx.wireValue .data).toItem,
      (tx.wireValue .accessList).toItem, .ofNat _, .ofNat _, .ofNat _] = _
    unfold ofDynamicFeeItems
    simp only [hrecipient, hdata, haccess, ok_bind, integerField_ofNat_getD h.chainId,
      integerField_ofNat_getD h.nonce, integerField_ofNat_getD h.maxPriorityFeePerGas,
      integerField_ofNat_getD h.maxFeePerGas, integerField_ofNat_getD h.gasLimit,
      integerField_ofNat_getD h.value]
    exact bind_eq_ok_iff.mpr ⟨_, rfl, bind_eq_ok_iff.mpr
      ⟨_, hsig, congrArg Except.ok (withSignature_items h rfl rfl rfl)⟩⟩

end

end Transaction
end Signet
