import Signet.Proofs.Transaction.WireList
import Signet.Transaction.Signing

/-! # The wire form of a transaction

The wire form is the list of the items of a transaction behind the type byte of
its envelope (`encode_of_valid`).  Its first byte tells the envelopes apart, so
that reading finds the reader of the list (`decode_append`), and nothing but a
list behind a type byte is read (`exists_of_decode`).

Two statements follow.  A valid transaction that was written, with anything
behind it, is read as what the wire keeps of it, unless the `v` of a typed one
needs more than one byte (`decode_encode_append`).  And reading is canonical: the
transaction that was read is written as the bytes it was read from
(`decode_canonical`).
-/

namespace Signet
namespace Transaction

open Rlp

/-! ## Writing -/

theorem item_integer_getD {n : Option Int} (h : NonNegative n) :
    (WireValue.integer (n.getD 0)).item = .ok (WireValue.integer (n.getD 0)).toItem := by
  rw [WireValue.item, integerItem, if_pos h.getD, WireValue.toItem]

/-- Every field of a valid transaction has an item. -/
theorem item_wireValue {tx : Transaction} (h : tx.Valid) {f : Field} (hf : f ≠ .ty) :
    (tx.wireValue f).item = .ok (tx.wireValue f).toItem := by
  cases f with
  | ty => exact absurd rfl hf
  | sender | recipient | data | accessList => rfl
  | nonce => exact item_integer_getD h.nonce
  | gasLimit => exact item_integer_getD h.gasLimit
  | gasPrice => exact item_integer_getD h.gasPrice
  | maxPriorityFeePerGas => exact item_integer_getD h.maxPriorityFeePerGas
  | maxFeePerGas => exact item_integer_getD h.maxFeePerGas
  | value => exact item_integer_getD h.value
  | chainId => exact item_integer_getD h.chainId
  | v => exact item_integer_getD h.v
  | r => exact item_integer_getD h.r.nonNegative
  | s => exact item_integer_getD h.s.nonNegative

/-- A list of which every value has an item is encoded as the list of the items. -/
theorem encodeValues_eq_ok {ws : List WireValue} (h : ∀ w ∈ ws, w.item = .ok w.toItem) :
    encodeValues ws = .ok (encodeList (ws.map WireValue.toItem)) := by
  have hcollect : collect (ws.map WireValue.item) = .ok (ws.map WireValue.toItem) := by
    induction ws with
    | nil => rfl
    | cons w r ih =>
      rw [List.map_cons, h w (List.mem_cons_self ..), collect,
        ih fun y hy => h y (List.mem_cons_of_mem _ hy)]
      rfl
  rw [encodeValues, hcollect]
  rfl

theorem ne_ty_of_mem_fields {e : Envelope} {f : Field} (h : f ∈ e.fields) : f ≠ .ty := by
  have hall : ∀ f ∈ e.fields, f ≠ .ty := by
    cases e <;> decide
  exact hall f h

/-- **A valid transaction has a wire form**: the list of its items behind the
type byte of its envelope. -/
theorem encode_of_valid {tx : Transaction} {e : Envelope} (h : tx.Valid)
    (he : tx.envelope? = some e) :
    tx.encode = .ok (e.typePrefix ++ encodeList (tx.items e)) := by
  have hitem : ∀ w ∈ e.fields.map tx.wireValue, w.item = .ok w.toItem := by
    intro w hw
    obtain ⟨f, hf, rfl⟩ := List.mem_map.mp hw
    exact item_wireValue h (ne_ty_of_mem_fields hf)
  unfold encode
  rw [he]
  show (encodeValues (e.fields.map tx.wireValue)).map (e.typePrefix ++ ·) = _
  rw [encodeValues_eq_ok hitem, List.map_map]
  rfl

/-! ## The size of the list -/

theorem depth_ofTuple (a : AccessTuple) : a.toItem.depth = 2 := by
  have hkeys : Item.depthAll (a.storageKeys.map fun k => .bytes k.bytes) = 0 := by
    rw [← Nat.le_zero, Item.depthAll_le_iff]
    intro x hx
    obtain ⟨k, -, rfl⟩ := List.mem_map.mp hx
    exact Nat.le_refl 0
  simp [AccessTuple.toItem, Item.depth, Item.depthAll, hkeys]

theorem depth_toItem_le (w : WireValue) : w.toItem.depth ≤ 3 := by
  cases w with
  | integer i => simp [WireValue.toItem, Item.ofNat, Item.depth]
  | bytes b => simp [WireValue.toItem, Item.depth]
  | accessList l =>
    rw [WireValue.toItem, Item.depth]
    refine Nat.succ_le_succ (Item.depthAll_le_iff.mpr fun x hx => ?_)
    obtain ⟨a, -, rfl⟩ := List.mem_map.mp hx
    exact Nat.le_of_eq (depth_ofTuple a)

/-- A list of what stands for fields is nested far less deep than is allowed. -/
theorem depth_map_toItem_le (ws : List WireValue) :
    (Item.list (ws.map WireValue.toItem)).depth ≤ maxDepth := by
  rw [Item.depth]
  refine Nat.le_trans (Nat.succ_le_succ (Item.depthAll_le_iff.mpr fun x hx => ?_))
    (by decide : 3 + 1 ≤ maxDepth)
  obtain ⟨w, -, rfl⟩ := List.mem_map.mp hx
  exact depth_toItem_le w

theorem depth_items_le (tx : Transaction) (e : Envelope) :
    (Item.list (tx.items e)).depth ≤ maxDepth := by
  have h := depth_map_toItem_le (e.fields.map tx.wireValue)
  rwa [List.map_map] at h

theorem length_items (tx : Transaction) (e : Envelope) :
    (tx.items e).length = e.fields.length :=
  List.length_map ..

/-! ## Reading -/

/-- A list with anything behind it is read by the reader of the list. -/
theorem decodeList_encodeList {f : List Item → Except Error Transaction} {count : Nat}
    {xs : List Item} (u : Bytes) (hd : (Item.list xs).depth ≤ maxDepth)
    (hf : (Item.list xs).Fits) (hlen : xs.length = count) :
    decodeList f count (firstItem (encodeList xs ++ u)) =
      (f xs).map fun t => (t, (encodeList xs).length) := by
  have hitem : firstItem (encodeList xs ++ u) = .ok (.list xs, (encodeList xs).length) :=
    mapError_eq_ok_iff.mpr (decodeItem_eq_ok_iff.mpr ⟨u, rfl, rfl, hd, hf⟩)
  have hlist : (Item.list xs).asList (some count) = .ok xs :=
    Item.asList_some_eq_ok_iff.mpr ⟨rfl, hlen⟩
  simp only [decodeList, hitem, ok_bind, hlist, mapError_ok]
  cases f xs <;> rfl

/-- Behind a type byte there is one byte more. -/
theorem map_decodeList_encodeList {f : List Item → Except Error Transaction} {count : Nat}
    {xs : List Item} (c : UInt8) (u : Bytes) (hd : (Item.list xs).depth ≤ maxDepth)
    (hf : (Item.list xs).Fits) (hlen : xs.length = count) :
    (decodeList f count (firstItem (encodeList xs ++ u))).map (fun p => (p.1, p.2 + 1)) =
      (f xs).map fun t => (t, (c :: encodeList xs).length) := by
  rw [decodeList_encodeList u hd hf hlen]
  cases f xs <;> rfl

theorem exists_of_decodeList {f : List Item → Except Error Transaction} {count n : Nat}
    {b : Bytes} {t : Transaction} (h : decodeList f count (firstItem b) = .ok (t, n)) :
    ∃ xs u, b = encodeList xs ++ u ∧ n = (encodeList xs).length ∧
      (Item.list xs).depth ≤ maxDepth ∧ (Item.list xs).Fits ∧ f xs = .ok t := by
  obtain ⟨⟨x, m⟩, hx, h⟩ := bind_eq_ok_iff.mp h
  obtain ⟨xs, hxs, h⟩ := bind_eq_ok_iff.mp h
  obtain ⟨t', ht, h⟩ := bind_eq_ok_iff.mp h
  cases h
  rw [firstItem, mapError_eq_ok_iff, decodeItem_eq_ok_iff] at hx
  obtain ⟨u, hb, hn, hd, hf⟩ := hx
  rw [mapError_eq_ok_iff, Item.asList_some_eq_ok_iff] at hxs
  obtain ⟨rfl, -⟩ := hxs
  exact ⟨xs, u, hb, hn, hd, hf, ht⟩

/-- **The first byte finds the reader.**  A list behind a type byte, with anything
behind it, is read by the reader of the envelope. -/
theorem decode_append {e : Envelope} {xs : List Item} (u : Bytes)
    (hd : (Item.list xs).depth ≤ maxDepth) (hf : (Item.list xs).Fits)
    (hlen : xs.length = e.fields.length) :
    decode (e.typePrefix ++ encodeList xs ++ u) =
      (e.read xs).map fun t => (t, (e.typePrefix ++ encodeList xs).length) := by
  cases e with
  | legacy =>
    -- the first byte of a list is above every type byte
    obtain ⟨first, rest, hcons, hlow, -, -⟩ := exists_cons_of_withPrefix 0xC0 u (by decide) hf
    have hb : encodeList xs ++ u = first :: rest := hcons
    have hge : (0xC0 : UInt8) ≤ first := hlow
    have hlist : decodeList ofLegacyItems 9 (firstItem (encodeList xs ++ u)) =
        (ofLegacyItems xs).map fun t => (t, (encodeList xs).length) :=
      decodeList_encodeList u hd hf hlen
    rw [show Envelope.typePrefix .legacy = [] from rfl, List.nil_append]
    rw [hb] at hlist ⊢
    rw [decode, if_pos hge]
    exact hlist
  | accessList =>
    show decode (1 :: (encodeList xs ++ u)) = _
    rw [decode, if_neg (by decide), if_pos rfl]
    exact map_decodeList_encodeList 1 u hd hf hlen
  | dynamicFee =>
    show decode (2 :: (encodeList xs ++ u)) = _
    rw [decode, if_neg (by decide), if_neg (by decide), if_pos rfl]
    exact map_decodeList_encodeList 2 u hd hf hlen

/-- Nothing but a list behind a type byte is read. -/
theorem exists_of_decode {b : Bytes} {t : Transaction} {n : Nat} (h : decode b = .ok (t, n)) :
    ∃ e xs u, b = e.typePrefix ++ encodeList xs ++ u ∧
      n = (e.typePrefix ++ encodeList xs).length ∧ (Item.list xs).depth ≤ maxDepth ∧
      (Item.list xs).Fits ∧ Envelope.read e xs = .ok t := by
  unfold decode at h
  split at h
  · cases h
  next first rest =>
  split at h
  · obtain ⟨xs, u, hb, hn, hd, hf, ht⟩ := exists_of_decodeList h
    exact ⟨.legacy, xs, u, hb, hn, hd, hf, ht⟩
  split at h
  next hone =>
    obtain ⟨⟨t', m⟩, hm, heq⟩ := map_eq_ok_iff.mp h
    cases heq
    obtain ⟨xs, u, rfl, rfl, hd, hf, ht⟩ := exists_of_decodeList hm
    exact ⟨.accessList, xs, u, by rw [hone]; rfl, rfl, hd, hf, ht⟩
  split at h
  next htwo =>
    obtain ⟨⟨t', m⟩, hm, heq⟩ := map_eq_ok_iff.mp h
    cases heq
    obtain ⟨xs, u, rfl, rfl, hd, hf, ht⟩ := exists_of_decodeList hm
    exact ⟨.dynamicFee, xs, u, by rw [htwo]; rfl, rfl, hd, hf, ht⟩
  · cases h

/-- What was read as a transaction is what the transaction is written as. -/
theorem encode_of_decode {b : Bytes} {t : Transaction} {n : Nat} (h : decode b = .ok (t, n)) :
    0 < n ∧ n ≤ b.length ∧ t.encode = .ok (b.take n) ∧ t.Valid ∧
      ∀ u, decode (b.take n ++ u) = .ok (t, n) := by
  obtain ⟨e, xs, u, rfl, rfl, hd, hf, ht⟩ := exists_of_decode h
  obtain ⟨hvalid, henv, hitems, -⟩ := items_of_read ht
  have hpos : 0 < (encodeList xs).length := framed_pos (l := true) hf
  have hlen : xs.length = e.fields.length := by rw [← hitems, length_items]
  rw [List.take_left]
  refine ⟨?_, ?_, ?_, hvalid, fun u' => ?_⟩
  · rw [List.length_append]
    omega
  · simp only [List.length_append]
    omega
  · rw [encode_of_valid hvalid henv, hitems]
  · rw [decode_append u' hd hf hlen, ht]
    rfl

theorem exists_envelope {tx : Transaction} (h : tx.Valid) : ∃ e, tx.envelope? = some e :=
  Option.isSome_iff_exists.mp h.envelope

/-- The wire form of a valid transaction is read by the reader of its envelope. -/
theorem decode_items (tx : Transaction) (e : Envelope) (u : Bytes)
    (h : (e.typePrefix ++ encodeList (tx.items e)).length < payloadCeiling) :
    decode (e.typePrefix ++ encodeList (tx.items e) ++ u) =
      (e.read (tx.items e)).map fun t =>
        (t, (e.typePrefix ++ encodeList (tx.items e)).length) := by
  refine decode_append u (depth_items_le tx e) (fits_of_length_lt ?_) (length_items tx e)
  rw [List.length_append] at h
  exact Nat.lt_of_le_of_lt (Nat.le_add_left ..) h

/-- The item of an integer field tells the integer. -/
theorem getD_eq_of_toItem_eq {m n : Option Int} (hm : NonNegative m) (hn : NonNegative n)
    (h : (WireValue.integer (m.getD 0)).toItem = (WireValue.integer (n.getD 0)).toItem) :
    m.getD 0 = n.getD 0 := by
  have hnat : (m.getD 0).toNat = (n.getD 0).toNat := Bytes.ofNat_injective (Item.bytes.inj h)
  have h0m := hm.getD
  have h0n := hn.getD
  omega

/-- The `v` of a transaction is found again in its items. -/
theorem getD_v_of_items_eq {tx t : Transaction} {e : Envelope} (h : tx.Valid) (ht : t.Valid)
    (heq : t.items e = tx.items e) : t.v.getD 0 = tx.v.getD 0 := by
  have hfield : (t.wireValue .v).toItem = (tx.wireValue .v).toItem :=
    List.map_inj_left.mp heq .v (by cases e <;> decide)
  exact getD_eq_of_toItem_eq ht.v h.v hfield

/-! ## Main statements -/

/-- **Round trip.**  Every valid transaction, and so every one that a validation
accepts (`valid_of_ofEntries`), has a wire form.  With anything behind it the wire
form is read exactly if the transaction is a legacy one or its `v` fits into one
byte; then what is read is what the wire keeps of the transaction, and nothing
behind the wire form is touched. -/
theorem decode_encode_append (tx : Transaction) (h : tx.Valid) :
    ∃ e w, tx.envelope? = some e ∧ tx.encode = .ok w ∧
      (w.length < payloadCeiling → ∀ u,
        ((∃ p, decode (w ++ u) = .ok p) ↔ e = .legacy ∨ tx.v.getD 0 ≤ 0xFF) ∧
        ∀ p, decode (w ++ u) = .ok p → p = (tx.received e, w.length)) := by
  obtain ⟨e, he⟩ := exists_envelope h
  refine ⟨e, _, he, encode_of_valid h he, fun hlen u => ?_⟩
  rw [decode_items tx e u hlen]
  -- what is read has the items that were written, and so the same `v`
  have hread : ∀ t, e.read (tx.items e) = .ok t → e = .legacy ∨ tx.v.getD 0 ≤ 0xFF := by
    intro t ht
    obtain ⟨hvalid, -, hitems, hv⟩ := items_of_read ht
    rwa [getD_v_of_items_eq h hvalid hitems] at hv
  constructor
  · constructor
    · rintro ⟨p, hp⟩
      obtain ⟨t, ht, -⟩ := map_eq_ok_iff.mp hp
      exact hread t ht
    · intro hv
      exact ⟨_, map_eq_ok_iff.mpr ⟨_, read_items h hv, rfl⟩⟩
  · intro p hp
    obtain ⟨t, ht, rfl⟩ := map_eq_ok_iff.mp hp
    rw [read_items h (hread t ht)] at ht
    rw [Except.ok.inj ht]

/-- A legacy transaction of which only the signature is set is read with zeros, and
with the chain id that the signature tells. -/
theorem decode_encode_append_legacy :
    decode ([0xC9, 0x80, 0x80, 0x80, 0x80, 0x80, 0x80, 0x25, 0x01, 0x02] ++ [0xFF]) =
      .ok ({ nonce := some 0, gasPrice := some 0, gasLimit := some 0, value := some 0,
             chainId := some 1, v := some 37, r := some 1, s := some 2 }, 10) := by
  have haccepted : ofEntries [("v", .int 37), ("r", .int 1), ("s", .int 2)] =
      .ok { v := some 37, r := some 1, s := some 2 } := by
    rfl
  obtain ⟨e, w, he, hw, hread⟩ := decode_encode_append _ (valid_of_ofEntries haccepted)
  obtain rfl : Envelope.legacy = e := Option.some.inj he
  obtain rfl : [0xC9, 0x80, 0x80, 0x80, 0x80, 0x80, 0x80, 0x25, 0x01, 0x02] = w :=
    Except.ok.inj hw
  obtain ⟨p, hp⟩ := (hread (by decide) [0xFF]).1.mpr (Or.inl rfl)
  rw [hp, (hread (by decide) [0xFF]).2 p hp]
  rfl

/-- **Reading is canonical.**  The transaction that was read is written as the
bytes it was read from, and those bytes are read as that transaction whatever
follows them.  So the hash of the transaction is that of the bytes, and bytes that
differ are never read as the same transaction. -/
theorem decode_canonical (b : Bytes) (t : Transaction) (n : Nat) (h : decode b = .ok (t, n)) :
    0 < n ∧ n ≤ b.length ∧ t.encode = .ok (b.take n) ∧
      (∀ u, decode (b.take n ++ u) = .ok (t, n)) ∧
      t.hash = .ok (Keccak.digest (b.take n)) ∧
      ∀ c m, decode c = .ok (t, m) → c.take m = b.take n := by
  obtain ⟨hpos, hle, hencode, -, hstable⟩ := encode_of_decode h
  refine ⟨hpos, hle, hencode, hstable, ?_, ?_⟩
  · rw [hash, hencode]
    rfl
  · intro c m hc
    obtain ⟨-, -, hcode, -, -⟩ := encode_of_decode hc
    rw [hencode] at hcode
    exact (Except.ok.inj hcode).symm

/-- The wire form of the empty transaction is read, and written again. -/
theorem decode_canonical_empty :
    ∃ t, decode [0xC9, 0x80, 0x80, 0x80, 0x80, 0x80, 0x80, 0x80, 0x80, 0x80, 0xFF] = .ok (t, 10) ∧
      t.encode = .ok [0xC9, 0x80, 0x80, 0x80, 0x80, 0x80, 0x80, 0x80, 0x80, 0x80] := by
  have hread : decode [0xC9, 0x80, 0x80, 0x80, 0x80, 0x80, 0x80, 0x80, 0x80, 0x80, 0xFF] =
      .ok (received {} .legacy, 10) := by
    have h := decode_items {} .legacy [0xFF] (by decide)
    rw [read_items valid_empty (Or.inl rfl)] at h
    exact h
  exact ⟨_, hread, (decode_canonical _ _ _ hread).2.2.1⟩

end Transaction
end Signet
