import Signet.Datum.Reading
import Signet.Proofs.Rlp.Canonical

/-! # Values and the items they stand for

Which values have an encoding is a property of their leaves (`isEncodable`), and
the item that a value stands for is computed from the value alone (`norm`): text
by its UTF-8 form, a truth value by one byte or none, an integer by its shortest
byte string, a list or tuple item by item.  `encode` writes that item and nothing
else (`encode_eq_ok_iff`).

Two statements close the circle.  What is encoded is decoded to the item it
stands for, in a stream with anything behind it (`decodeItem_encode_append`); and
reading is strict: on any byte string it fails with an error of its own, or it
returns an item whose encoding is what it took (`decodeItem_total_strict`).
-/

namespace Signet
namespace Datum

open Rlp

mutual

/-- Whether a value has an encoding: no leaf is a negative integer or of a kind
without encoding. -/
def isEncodable : Datum → Bool
  | .list items | .tuple items => areEncodable items
  | .int i | .number i | .hexNumber i => 0 ≤ i
  | .text _ | .bool _ | .unsigned .. => true
  | .bytes _ | .buffer _ | .hexBytes _ | .keystoreHex _ => true
  | .address _ | .keystoreAddress _ | .hash _ => true
  | _ => false

/-- Whether all of the values have an encoding. -/
def areEncodable : List Datum → Bool
  | [] => true
  | x :: r => x.isEncodable && areEncodable r

end

mutual

/-- The item that a value stands for; a leaf without encoding stands for the
empty string. -/
def norm : Datum → Item
  | .list items | .tuple items => .list (normAll items)
  | .text s => .bytes (Bytes.ofText s)
  | .bool true => .bytes [1]
  | .bool false => .bytes []
  | .int i | .number i | .hexNumber i => .bytes (Bytes.ofNat i.toNat)
  | .unsigned _ n => .bytes (Bytes.ofNat n)
  | .bytes b | .buffer b | .hexBytes b | .keystoreHex b => .bytes b
  | .address a | .keystoreAddress a => .bytes a.bytes
  | .hash h => .bytes h.bytes
  | _ => .bytes []

/-- The items that values stand for, in order. -/
def normAll : List Datum → List Item
  | [] => []
  | x :: r => x.norm :: normAll r

end

/-! ## Encoding writes the item of a value -/

theorem itemOfInt_eq_ok_iff {d : Datum} {n : Int} {x : Item} :
    itemOfInt d n = .ok x ↔ 0 ≤ n ∧ x = .bytes (Bytes.ofNat n.toNat) := by
  unfold itemOfInt
  by_cases hn : 0 ≤ n
  · rw [if_pos hn]
    exact ⟨fun h => ⟨hn, (Except.ok.inj h).symm⟩, fun h => congrArg Except.ok h.2.symm⟩
  · rw [if_neg hn]
    constructor
    · intro h
      obtain ⟨s, -, hs⟩ := bind_eq_ok_iff.mp h
      cases hs
    · exact fun h => absurd h.1 hn

mutual

/-- A value is turned into an item exactly if it has an encoding, and then into
the item it stands for. -/
theorem toItem_eq_ok_iff : ∀ (d : Datum) (x : Item),
    d.toItem = .ok x ↔ d.isEncodable = true ∧ x = d.norm
  | .list items, x | .tuple items, x => by
    rw [toItem, isEncodable, norm, bind_eq_ok_iff]
    constructor
    · rintro ⟨xs, hxs, hx⟩
      obtain ⟨he, rfl⟩ := (toItems_eq_ok_iff items xs).mp hxs
      exact ⟨he, (Except.ok.inj hx).symm⟩
    · rintro ⟨he, rfl⟩
      exact ⟨_, (toItems_eq_ok_iff items _).mpr ⟨he, rfl⟩, rfl⟩
  | .int i, x | .number i, x | .hexNumber i, x => by
    simp [toItem, asInt?, itemOfInt_eq_ok_iff, isEncodable, norm]
  | .bool b, x => by
    cases b <;> simp [toItem, isEncodable, norm, eq_comm]
  | .text s, x | .unsigned _ n, x | .bytes b, x | .buffer b, x | .hexBytes b, x
  | .keystoreHex b, x | .address a, x | .keystoreAddress a, x | .hash h, x => by
    simp [toItem, asInt?, asByteString?, asBytes?, isEncodable, norm, Item.ofNat, eq_comm]
  | .null, x | .float _, x | .blockNumber _, x | .dict _, x | .signature .., x
  | .accessTuple _, x | .transaction _, x | .keystore _, x => by
    simp [toItem, asInt?, asByteString?, asBytes?, isEncodable]

theorem toItems_eq_ok_iff : ∀ (ds : List Datum) (xs : List Item),
    toItems ds = .ok xs ↔ areEncodable ds = true ∧ xs = normAll ds
  | [], xs => by simp [toItems, areEncodable, normAll, eq_comm]
  | d :: r, xs => by
    rw [toItems, areEncodable, normAll, bind_eq_ok_iff]
    constructor
    · rintro ⟨x, hx, h⟩
      obtain ⟨ys, hys, hxs⟩ := bind_eq_ok_iff.mp h
      obtain ⟨hd, rfl⟩ := (toItem_eq_ok_iff d x).mp hx
      obtain ⟨hr, rfl⟩ := (toItems_eq_ok_iff r ys).mp hys
      exact ⟨by rw [hd, hr]; rfl, (Except.ok.inj hxs).symm⟩
    · rintro ⟨he, rfl⟩
      obtain ⟨hd, hr⟩ := Bool.and_eq_true_iff.mp he
      refine ⟨_, (toItem_eq_ok_iff d _).mpr ⟨hd, rfl⟩, ?_⟩
      exact bind_eq_ok_iff.mpr ⟨_, (toItems_eq_ok_iff r _).mpr ⟨hr, rfl⟩, rfl⟩

end

theorem checkDepth_eq_ok_iff {xs ys : List Item} :
    checkDepth xs = .ok ys ↔ Item.depthAll xs ≤ encodingDepth ∧ ys = xs := by
  unfold checkDepth
  split
  next h => simp [Nat.not_le.mpr h]
  next h => simp [Nat.not_lt.mp h, eq_comm]

/-- **A value is encoded exactly if it has an encoding and is not nested too
deep, and then by the encoding of the item it stands for.** -/
theorem encode_eq_ok_iff {d : Datum} {e : Bytes} :
    d.encode = .ok e ↔
      d.isEncodable = true ∧ d.norm.depth ≤ encodingDepth ∧ e = d.norm.encode := by
  have hdepth : Item.depthAll [d.norm] = d.norm.depth := by
    rw [Item.depthAll, Item.depthAll, Nat.max_zero]
  unfold encode
  rw [bind_eq_ok_iff]
  constructor
  · rintro ⟨x, hx, h⟩
    obtain ⟨xs, hxs, he⟩ := bind_eq_ok_iff.mp h
    obtain ⟨hd, rfl⟩ := (toItem_eq_ok_iff d x).mp hx
    obtain ⟨hn, rfl⟩ := checkDepth_eq_ok_iff.mp hxs
    cases he
    exact ⟨hd, hdepth ▸ hn, by rw [encodeAll_cons, encodeAll_nil, List.append_nil]⟩
  · rintro ⟨hd, hn, rfl⟩
    refine ⟨d.norm, (toItem_eq_ok_iff d _).mpr ⟨hd, rfl⟩, ?_⟩
    refine bind_eq_ok_iff.mpr ⟨_, checkDepth_eq_ok_iff.mpr ⟨hdepth.symm ▸ hn, rfl⟩, ?_⟩
    rw [encodeAll_cons, encodeAll_nil, List.append_nil]
    rfl

/-! ## An item as a value -/

mutual

theorem norm_ofItem : ∀ x : Item, (ofItem x).isEncodable = true ∧ (ofItem x).norm = x
  | .bytes b => by simp [ofItem, isEncodable, norm]
  | .list xs => by
    have h := normAll_map_ofItem xs
    rw [ofItem, isEncodable, norm, h.2]
    exact ⟨h.1, rfl⟩

theorem normAll_map_ofItem : ∀ xs : List Item,
    areEncodable (xs.map ofItem) = true ∧ normAll (xs.map ofItem) = xs
  | [] => ⟨rfl, rfl⟩
  | x :: r => by
    have hx := norm_ofItem x
    have hr := normAll_map_ofItem r
    rw [List.map_cons, areEncodable, normAll, hx.1, hx.2, hr.1, hr.2]
    exact ⟨rfl, rfl⟩

end

theorem encode_ofItem {x : Item} (h : x.depth ≤ maxDepth) : (ofItem x).encode = .ok x.encode := by
  have hx := norm_ofItem x
  rw [encode_eq_ok_iff, hx.2]
  exact ⟨hx.1, Nat.le_trans h (by decide), rfl⟩

theorem decodeItem_bytes (b : Bytes) :
    decodeItem (.bytes b) = (Rlp.decodeItem b).mapError .rlpDecoding := rfl

theorem decode_bytes (b : Bytes) : decode (.bytes b) = (Rlp.decode b).mapError .rlpDecoding := by
  unfold decode Rlp.decode
  rw [decodeItem_bytes]
  cases Rlp.decodeItem b with
  | error e => rfl
  | ok r =>
    obtain ⟨x, n⟩ := r
    by_cases hn : n = b.length
    · simp [size, asByteString?, asBytes?, hn, pure, Except.pure]
    · simp [size, asByteString?, asBytes?, hn, throw, throwThe,
        MonadExceptOf.throw]

/-! ## The circle closes -/

/-- **Round trip in a stream.**  A value that is nested at most `maxDepth` lists
deep has an encoding exactly if its leaves do, and the encoding, with anything
behind it, is read as the item that the value stands for; nothing behind it is
touched. -/
theorem decodeItem_encode_append (d : Datum) (hd : d.norm.depth ≤ maxDepth) :
    ((∃ e, d.encode = .ok e) ↔ d.isEncodable = true) ∧
    ∀ e, d.encode = .ok e → e.length < payloadCeiling →
      (∀ t, decodeItem (.bytes (e ++ t)) = .ok (d.norm, e.length)) ∧
      decode (.bytes e) = .ok d.norm := by
  refine ⟨⟨?_, ?_⟩, ?_⟩
  · rintro ⟨e, he⟩
    exact (encode_eq_ok_iff.mp he).1
  · intro h
    exact ⟨_, encode_eq_ok_iff.mpr ⟨h, Nat.le_trans hd (by decide), rfl⟩⟩
  · intro e he hlen
    obtain ⟨-, -, rfl⟩ := encode_eq_ok_iff.mp he
    have hf : d.norm.Fits := fits_of_length_lt hlen
    refine ⟨fun t => ?_, ?_⟩
    · rw [decodeItem_bytes, mapError_eq_ok_iff]
      exact decodeItem_eq_ok_iff.mpr ⟨t, rfl, rfl, hd, hf⟩
    · rw [decode_bytes, mapError_eq_ok_iff]
      exact decode_eq_ok_iff.mpr ⟨rfl, hd, hf⟩

/-- A list in a tuple, a truth value, a zero and a byte that needs a prefix. -/
theorem decodeItem_encode_append_nested :
    decodeItem (.bytes ([0xC5, 0xC1, 0x01, 0x80, 0x81, 0x80] ++ [0xFF])) =
      .ok (.list [.list [.bytes [1]], .bytes [], .bytes [0x80]], 6) :=
  have h := decodeItem_encode_append
    (.tuple [.list [.bool true], .int 0, .bytes [0x80]]) (by decide)
  (h.2 [0xC5, 0xC1, 0x01, 0x80, 0x81, 0x80] (encode_eq_ok_iff.mpr (by decide)) (by decide)).1 [0xFF]

/-- **Reading is strict and total.**  On any byte string the reader fails with an
error of its own kind, or it returns an item whose encoding is what it took: at
least one byte and no more than there are.  Inside lists it advances in the same
way at every depth.  So exactly the encodings are read, where a prefix can tell the
length, as it can in any byte string of fewer than `payloadCeiling` bytes; and no two byte
strings are read as the same item. -/
theorem decodeItem_total_strict (b : Bytes) :
    ((∃ e, decodeItem (.bytes b) = .error (.rlpDecoding e)) ∨
      ∃ x n, decodeItem (.bytes b) = .ok (x, n) ∧ 1 ≤ n ∧ n ≤ b.length ∧ x.depth ≤ maxDepth ∧
        (ofItem x).encode = .ok (b.take n)) ∧
    (∀ depth x n, decodeItemAt depth b = .ok (x, n) → 1 ≤ n ∧ n ≤ b.length) ∧
    ((∃ x, decode (.bytes b) = .ok x) ↔
      ∃ x, x.depth ≤ maxDepth ∧ x.Fits ∧ (ofItem x).encode = .ok b) ∧
    (b.length < payloadCeiling → ((∃ x, decode (.bytes b) = .ok x) ↔
      ∃ x, x.depth ≤ maxDepth ∧ (ofItem x).encode = .ok b)) ∧
    ∀ c x, decode (.bytes b) = .ok x → decode (.bytes c) = .ok x → b = c := by
  have hread : ∀ c x, decode (.bytes c) = .ok x ↔ c = x.encode ∧ x.depth ≤ maxDepth ∧ x.Fits := by
    intro c x
    rw [decode_bytes, mapError_eq_ok_iff, decode_eq_ok_iff]
  have hexact : (∃ x, decode (.bytes b) = .ok x) ↔
      ∃ x, x.depth ≤ maxDepth ∧ x.Fits ∧ (ofItem x).encode = .ok b := by
    constructor
    · rintro ⟨x, hx⟩
      obtain ⟨rfl, hd, hf⟩ := (hread b x).mp hx
      exact ⟨x, hd, hf, encode_ofItem hd⟩
    · rintro ⟨x, hd, hf, he⟩
      rw [encode_ofItem hd] at he
      exact ⟨x, (hread b x).mpr ⟨(Except.ok.inj he).symm, hd, hf⟩⟩
  refine ⟨?_, fun depth x n => bounds_of_decodeItemAt, hexact, fun hlen => ?_, ?_⟩
  · rw [decodeItem_bytes]
    cases h : Rlp.decodeItem b with
    | error e => exact Or.inl ⟨e, rfl⟩
    | ok r =>
      obtain ⟨x, n⟩ := r
      obtain ⟨h1, h2⟩ := bounds_of_decodeItemAt h
      obtain ⟨t, rfl, rfl, hd, -⟩ := decodeItem_eq_ok_iff.mp h
      exact Or.inr ⟨x, _, rfl, h1, h2, hd, by rw [List.take_left, encode_ofItem hd]⟩
  · rw [hexact]
    constructor
    · rintro ⟨x, hd, -, he⟩
      exact ⟨x, hd, he⟩
    · rintro ⟨x, hd, he⟩
      refine ⟨x, hd, fits_of_length_lt ?_, he⟩
      rw [encode_ofItem hd] at he
      rw [Except.ok.inj he]
      exact hlen
  · intro c x hb hc
    rw [((hread b x).mp hb).1, ((hread c x).mp hc).1]

/-- A short list is read, as the encoding of an item. -/
theorem decodeItem_total_strict_list : ∃ x, decode (.bytes [0xC2, 0x01, 0x80]) = .ok x :=
  ((decodeItem_total_strict [0xC2, 0x01, 0x80]).2.2.2.1 (by decide)).mpr
    ⟨.list [.bytes [0x01], .bytes []], by decide, encode_ofItem (by decide)⟩

end Datum
end Signet
