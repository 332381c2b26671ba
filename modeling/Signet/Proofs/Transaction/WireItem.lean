import Signet.Proofs.Rlp.Canonical
import Signet.Transaction.Wire

/-! # Items and the fields they write

Every view of an item that the reader of a transaction uses accepts exactly what
the writer of that field writes: an integer has no zero byte in front, a
recipient is twenty bytes or none, an access tuple is a pair of an address and a
list of digests.  The one choice that is made in reading is that of the
signature: zeros in all three places are no signature.
-/

namespace Signet

open Rlp

namespace Rlp.Item

theorem asNat_eq_ok_iff {x : Item} {n : Nat} : x.asNat = .ok n ↔ x = .ofNat n := by
  cases x with
  | list xs => simp [asNat, ofNat]
  | bytes b =>
    rw [asNat, ofNat, Item.bytes.injEq, Bytes.eq_ofNat_iff]
    split
    next h => simp [h]
    next h => simp [h]

theorem asBytes_eq_ok_iff {x : Item} {b : Bytes} : x.asBytes none = .ok b ↔ x = .bytes b := by
  cases x <;> simp [asBytes]

theorem asFixed_eq_ok_iff {x : Item} {n : Nat} {a : FixedBytes n} :
    x.asFixed n = .ok a ↔ x = .bytes a.bytes := by
  cases x with
  | list xs => simp [asFixed]
  | bytes b =>
    rw [asFixed, Item.bytes.injEq]
    split
    next h =>
      constructor
      · intro ha
        cases ha
        rfl
      · rintro rfl
        rfl
    next h =>
      constructor
      · intro ha
        cases ha
      · rintro rfl
        exact absurd a.length_bytes h

theorem asList_eq_ok_iff {x : Item} {xs : List Item} : x.asList none = .ok xs ↔ x = .list xs := by
  cases x <;> simp [asList]

theorem asList_some_eq_ok_iff {x : Item} {n : Nat} {xs : List Item} :
    x.asList (some n) = .ok xs ↔ x = .list xs ∧ xs.length = n := by
  cases x with
  | bytes b => simp [asList]
  | list ys =>
    rw [asList, Item.list.injEq]
    constructor
    · intro h
      split at h
      next hn =>
        cases h
        exact ⟨rfl, hn⟩
      · cases h
    · rintro ⟨rfl, hn⟩
      exact if_pos hn

end Rlp.Item

/-- **An access tuple is read exactly from its own item.** -/
theorem AccessTuple.ofItem_eq_ok_iff {x : Item} {a : AccessTuple} :
    AccessTuple.ofItem x = .ok a ↔ x = a.toItem := by
  unfold AccessTuple.ofItem AccessTuple.toItem
  rw [bind_eq_ok_iff]
  constructor
  · rintro ⟨xs, hxs, h⟩
    obtain ⟨rfl, -⟩ := Item.asList_some_eq_ok_iff.mp hxs
    split at h
    next address keys =>
      obtain ⟨b, hb, h⟩ := bind_eq_ok_iff.mp h
      obtain ⟨ks, hks, h⟩ := bind_eq_ok_iff.mp h
      obtain ⟨hs, hhs, h⟩ := bind_eq_ok_iff.mp h
      cases h
      rw [Item.asFixed_eq_ok_iff] at hb
      rw [Item.asList_eq_ok_iff] at hks
      rw [mapM_eq_ok_iff fun _ _ => Item.asFixed_eq_ok_iff] at hhs
      rw [hb, hks, hhs]
    · cases h
  · rintro rfl
    refine ⟨_, Item.asList_some_eq_ok_iff.mpr ⟨rfl, rfl⟩, ?_⟩
    refine bind_eq_ok_iff.mpr ⟨a.address, Item.asFixed_eq_ok_iff.mpr rfl, ?_⟩
    refine bind_eq_ok_iff.mpr ⟨_, Item.asList_eq_ok_iff.mpr rfl, ?_⟩
    exact bind_eq_ok_iff.mpr
      ⟨a.storageKeys, (mapM_eq_ok_iff fun _ _ => Item.asFixed_eq_ok_iff).mpr rfl, rfl⟩

namespace Transaction

theorem integerField_eq_ok_iff {x : Item} {n : Option Int} :
    integerField x = .ok n ↔ ∃ k : Nat, x = .ofNat k ∧ n = some (k : Int) := by
  unfold integerField
  rw [map_eq_ok_iff]
  constructor
  · rintro ⟨i, hi, rfl⟩
    obtain ⟨k, hk, hki⟩ := bind_eq_ok_iff.mp hi
    cases hki
    exact ⟨k, Item.asNat_eq_ok_iff.mp hk, rfl⟩
  · rintro ⟨k, rfl, rfl⟩
    exact ⟨k, bind_eq_ok_iff.mpr ⟨k, Item.asNat_eq_ok_iff.mpr rfl, rfl⟩, rfl⟩

theorem recipientField_eq_ok_iff {x : Item} {a : Option Address} :
    recipientField x = .ok a ↔ x = .bytes ((a.map (·.bytes)).getD []) := by
  unfold recipientField
  rw [bind_eq_ok_iff]
  constructor
  · rintro ⟨b, hb, h⟩
    rw [Item.asBytes_eq_ok_iff] at hb
    split at h
    next hempty =>
      cases h
      rw [hb, List.isEmpty_iff.mp hempty]
      rfl
    · obtain ⟨c, hc, h⟩ := bind_eq_ok_iff.mp h
      cases h
      exact Item.asFixed_eq_ok_iff.mp hc
  · rintro rfl
    refine ⟨_, Item.asBytes_eq_ok_iff.mpr rfl, ?_⟩
    cases a with
    | none => rfl
    | some c =>
      have hne : ¬ c.bytes.isEmpty = true := by
        rw [List.isEmpty_iff]
        intro h0
        have hlen := c.length_bytes
        rw [h0] at hlen
        cases hlen
      simp only [Option.map_some, Option.getD_some]
      rw [if_neg hne]
      exact bind_eq_ok_iff.mpr ⟨c, Item.asFixed_eq_ok_iff.mpr rfl, rfl⟩

theorem accessListField_eq_ok_iff {x : Item} {l : Option (List AccessTuple)} :
    accessListField x = .ok l ↔ ∃ as, x = .list (as.map AccessTuple.toItem) ∧ l = some as := by
  unfold accessListField
  rw [bind_eq_ok_iff]
  constructor
  · rintro ⟨xs, hxs, h⟩
    obtain ⟨as, has, h⟩ := bind_eq_ok_iff.mp h
    cases h
    rw [mapM_eq_ok_iff fun _ _ => AccessTuple.ofItem_eq_ok_iff] at has
    exact ⟨as, has ▸ Item.asList_eq_ok_iff.mp hxs, rfl⟩
  · rintro ⟨as, rfl, rfl⟩
    refine ⟨_, Item.asList_eq_ok_iff.mpr rfl, ?_⟩
    exact bind_eq_ok_iff.mpr
      ⟨as, (mapM_eq_ok_iff fun _ _ => AccessTuple.ofItem_eq_ok_iff).mpr rfl, rfl⟩

/-- What three integers are as a signature: all zeros are none. -/
def signatureOf (v r s : Nat) : Option (Nat × Nat × Nat) :=
  if v = 0 ∧ r = 0 ∧ s = 0 then none else some (v, r, s)

/-- **A signature is read from three integers**, of which `r` and `s` fit into 32
bytes, and `v` fits into one byte if the transaction is typed. -/
theorem signatureOfItems_eq_ok_iff {typed : Bool} {x y z : Item}
    {sig : Option (Nat × Nat × Nat)} :
    signatureOfItems typed x y z = .ok sig ↔
      ∃ v r s, x = .ofNat v ∧ y = .ofNat r ∧ z = .ofNat s ∧ r < uint256Ceiling ∧
        s < uint256Ceiling ∧ (typed = true → v ≤ 0xFF) ∧ sig = signatureOf v r s := by
  unfold signatureOfItems signatureOf
  constructor
  · intro h
    obtain ⟨v, hv, h⟩ := bind_eq_ok_iff.mp h
    obtain ⟨r, hr, h⟩ := bind_eq_ok_iff.mp h
    obtain ⟨s, hs, h⟩ := bind_eq_ok_iff.mp h
    rw [mapError_eq_ok_iff, Item.asNat_eq_ok_iff] at hv hr hs
    split at h
    · cases h
    next hwide =>
    split at h
    · cases h
    next hv256 =>
    refine ⟨v, r, s, hv, hr, hs, by omega, by omega, fun ht => ?_, ?_⟩
    · exact Nat.not_lt.mp fun hlt => hv256 ⟨ht, hlt⟩
    · split at h
      next hz => rw [if_pos hz]; exact (Except.ok.inj h).symm
      next hz => rw [if_neg hz]; exact (Except.ok.inj h).symm
  · rintro ⟨v, r, s, rfl, rfl, rfl, hr, hs, hv, rfl⟩
    have hread : ∀ n, (Item.ofNat n).asNat.mapError Error.rlpDecoding = .ok n := fun n => by
      rw [mapError_eq_ok_iff, Item.asNat_eq_ok_iff]
    rw [hread, hread, hread]
    simp only [ok_bind]
    rw [if_neg (by omega), if_neg fun h => absurd (hv h.1) (by omega)]
    split <;> rfl

end Transaction
end Signet
