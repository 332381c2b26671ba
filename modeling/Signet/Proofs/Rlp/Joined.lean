import Signet.Proofs.Rlp.Value

/-! # Joined encodings split in one way

Encodings that stand one after the other, without a frame around them, are read back item by
item: the reader accepts exactly the joined encodings of items that are not nested too deep
and not too long for a prefix (`decodeAll_eq_ok_iff`).  Where such a stream ends does not
depend on what follows it, so behind one that was read the reader starts anew
(`decodeAll_append`).  The depth counts the lists of an item itself, since no list
stands around the stream.
-/

namespace Signet
namespace Rlp

variable {a b : Bytes} {xs : List Item}

/-- **A byte string is read as items exactly where it is their joined encodings.** -/
theorem decodeAll_eq_ok_iff :
    decodeAll b = .ok xs ↔ b = encodeAll xs ∧ Item.depthAll xs ≤ maxDepth ∧ ∀ x ∈ xs, x.Fits := by
  constructor
  · intro h
    obtain ⟨hb, hd, hf⟩ := encodeAll_of_decodeAllAt (Nat.zero_le _) h
    exact ⟨hb, Nat.le_trans (Nat.le_add_left ..) hd, hf⟩
  · rintro ⟨rfl, hd, hf⟩
    have h := decodeAllAt_encodeAll 0 xs [] (Nat.le_trans (Nat.le_of_eq (Nat.zero_add _)) hd) hf
    rwa [List.append_nil, decodeAllAt_nil, Except.map, List.append_nil] at h

/-- **Behind a stream that is read the next one is read on its own.** -/
theorem decodeAll_append (h : decodeAll a = .ok xs) :
    decodeAll (a ++ b) = (decodeAll b).map (xs ++ ·) := by
  obtain ⟨rfl, hd, hf⟩ := decodeAll_eq_ok_iff.mp h
  exact decodeAllAt_encodeAll 0 xs b (Nat.le_trans (Nat.le_of_eq (Nat.zero_add _)) hd) hf

end Rlp

namespace Datum

open Rlp

theorem decodeAll_bytes (b : Bytes) :
    decodeAll (.bytes b) = (Rlp.decodeAll b).mapError .rlpDecoding := rfl

/-- Items that are not nested too deep have joined encodings. -/
theorem encodeParts_ofItem {xs : List Item} (h : Item.depthAll xs ≤ encodingDepth) :
    encodeParts (.list (xs.map ofItem)) = .ok (encodeAll xs) := by
  have hitems : toItems (xs.map ofItem) = .ok xs := by
    obtain ⟨hencodable, hnorm⟩ := normAll_map_ofItem xs
    exact (toItems_eq_ok_iff _ _).mpr ⟨hencodable, hnorm.symm⟩
  rw [encodeParts, parts, ok_bind, hitems, ok_bind, checkDepth_eq_ok_iff.mpr ⟨h, rfl⟩]
  rfl

/-- **Joined encodings split in one way.**  What is read as items to the end is their joined
encodings, and none of the items is nested too deep; what stands behind it is read on its
own, with its items behind the others, and fails exactly if it fails alone.  And all items
that are nested at most `maxDepth` lists deep are read back from their joined encodings. -/
theorem decodeAll_splits (a b : Bytes) :
    (∀ xs, decodeAll (.bytes a) = .ok xs →
      encodeParts (.list (xs.map ofItem)) = .ok a ∧ (∀ x ∈ xs, x.depth ≤ maxDepth) ∧
      decodeAll (.bytes (a ++ b)) = (decodeAll (.bytes b)).map (xs ++ ·)) ∧
    ∀ xs : List Item, (∀ x ∈ xs, x.depth ≤ maxDepth ∧ x.encode.length < payloadCeiling) →
      ∃ e, encodeParts (.list (xs.map ofItem)) = .ok e ∧ decodeAll (.bytes e) = .ok xs := by
  have hwrite : ∀ xs : List Item, Item.depthAll xs ≤ maxDepth →
      encodeParts (.list (xs.map ofItem)) = .ok (encodeAll xs) :=
    fun xs h => encodeParts_ofItem (Nat.le_trans h (by decide))
  constructor
  · intro xs hxs
    have hread := mapError_eq_ok_iff.mp hxs
    obtain ⟨ha, hd, -⟩ := decodeAll_eq_ok_iff.mp hread
    refine ⟨ha ▸ hwrite xs hd, Item.depthAll_le_iff.mp hd, ?_⟩
    rw [decodeAll_bytes, decodeAll_bytes, decodeAll_append hread, map_mapError]
  · intro xs hxs
    have hd : Item.depthAll xs ≤ maxDepth := Item.depthAll_le_iff.mpr fun x hx => (hxs x hx).1
    have hf : ∀ x ∈ xs, x.Fits := fun x hx => fits_of_length_lt (hxs x hx).2
    refine ⟨encodeAll xs, hwrite xs hd, ?_⟩
    rw [decodeAll_bytes, decodeAll_eq_ok_iff.mpr ⟨rfl, hd, hf⟩, mapError_ok]

/-- A list and a byte of its own, and behind them a byte that needs a prefix. -/
theorem decodeAll_splits_two :
    decodeAll (.bytes ([0xC1, 0x80, 0x05] ++ [0x81, 0x80])) =
      .ok [.list [.bytes []], .bytes [0x05], .bytes [0x80]] := by
  obtain ⟨a, ha, hreada⟩ :=
    (decodeAll_splits [] []).2 [.list [.bytes []], .bytes [0x05]] (by decide)
  obtain ⟨b, hb, hreadb⟩ := (decodeAll_splits [] []).2 [.bytes [0x80]] (by decide)
  obtain rfl : a = [0xC1, 0x80, 0x05] :=
    Except.ok.inj (ha.symm.trans (encodeParts_ofItem (by decide)))
  obtain rfl : b = [0x81, 0x80] :=
    Except.ok.inj (hb.symm.trans (encodeParts_ofItem (by decide)))
  rw [((decodeAll_splits _ _).1 _ hreada).2.2, hreadb]
  rfl

end Datum
end Signet
