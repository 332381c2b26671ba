import Signet.Proofs.Rlp.Prefix
import Signet.Rlp.Reading

/-! # Reading RLP is the inverse of writing it

`decodeItem` accepts exactly the byte strings that start with the encoding of
an item that is not nested too deep and not too long for a prefix, and returns
that item and the length of its encoding (`decodeItem_eq_ok_iff`).  One direction
is the round trip, with any bytes behind the item; the other says that the reader
is strict at every level: what it accepts is what the writer writes.  Lists of
items behave alike, and what stands behind them is read on its own
(`decodeAllAt_encodeAll`).
-/

namespace Signet.Rlp

namespace Item

/-- Whether an item is a list. -/
def isList : Item → Bool
  | .bytes _ => false
  | .list _ => true

/-- What stands behind the prefix of an item. -/
def payload : Item → Bytes
  | .bytes b => b
  | .list xs => encodeAll xs

/-- Whether a prefix can tell the length of an item. -/
def Fits (x : Item) : Prop :=
  x.payload.length < payloadCeiling

theorem depthAll_le_iff {xs : List Item} {n : Nat} : depthAll xs ≤ n ↔ ∀ x ∈ xs, x.depth ≤ n := by
  induction xs with
  | nil => simp [depthAll]
  | cons x r ih => rw [depthAll, Nat.max_le, ih, List.forall_mem_cons]

end Item

theorem encode_eq_framed (x : Item) : x.encode = framed x.isList x.payload := by
  cases x <;> rfl

theorem fits_of_length_lt {x : Item} (h : x.encode.length < payloadCeiling) : x.Fits := by
  rw [encode_eq_framed] at h
  exact Nat.lt_of_le_of_lt (length_le_framed ..) h

theorem length_encode_le {x : Item} {xs : List Item} (h : x ∈ xs) :
    x.encode.length ≤ (encodeAll xs).length := by
  induction xs with
  | nil => cases h
  | cons y r ih =>
    rw [encodeAll_cons, List.length_append]
    rcases List.mem_cons.mp h with rfl | h
    · omega
    · have := ih h
      omega

/-- The items of a list that fits do so too. -/
theorem fits_of_mem {x : Item} {xs : List Item} (hl : (Item.list xs).Fits) (h : x ∈ xs) :
    x.Fits :=
  fits_of_length_lt (Nat.lt_of_le_of_lt (length_encode_le h) hl)

/-! ## One step of reading -/

theorem decodeItemAt_of_readHeader {depth : Nat} {b : Bytes} {h : Header}
    (hr : readHeader b = .ok h) :
    decodeItemAt depth b =
      if h.isList then
        if maxDepth ≤ depth then .error .tooDeep
        else (decodeAllAt (depth + 1) (h.payload b)).map fun xs => (.list xs, h.size)
      else .ok (.bytes (h.payload b), h.size) := by
  rw [decodeItemAt]
  split
  next e he => rw [hr] at he; cases he
  next g hg =>
    rw [hr] at hg
    cases hg
    by_cases hl : h.isList = true
    · rw [dif_pos hl, if_pos hl]
      by_cases hd : maxDepth ≤ depth
      · rw [if_pos hd, if_pos hd]
      · rw [if_neg hd, if_neg hd]
        cases decodeAllAt (depth + 1) (h.payload b) <;> rfl
    · rw [dif_neg hl, if_neg hl]

theorem decodeItemAt_of_error {depth : Nat} {b : Bytes} {e : DecodeError}
    (hr : readHeader b = .error e) : decodeItemAt depth b = .error e := by
  rw [decodeItemAt]
  split
  next e' he =>
    rw [hr] at he
    cases he
    rfl
  next h hh => rw [hr] at hh; cases hh

@[simp] theorem decodeAllAt_nil (depth : Nat) : decodeAllAt depth [] = .ok [] := by
  rw [decodeAllAt]

/-- **The loop over the items of a list advances by what each of them took.** -/
theorem decodeAllAt_of_decodeItemAt {depth : Nat} {b : Bytes} {x : Item} {n : Nat}
    (h : decodeItemAt depth b = .ok (x, n)) (hn : 1 ≤ n) (hb : n ≤ b.length) :
    decodeAllAt depth b = (decodeAllAt depth (b.drop n)).map (x :: ·) := by
  cases b with
  | nil => exact absurd (Nat.le_trans hn hb) (by simp)
  | cons first rest =>
    obtain ⟨m, rfl⟩ : ∃ m, n = m + 1 := ⟨n - 1, by omega⟩
    rw [decodeAllAt, h]
    simp only [Nat.add_sub_cancel, List.drop_succ_cons]
    cases decodeAllAt depth (rest.drop m) <;> rfl

theorem decodeAllAt_of_error {depth : Nat} {b : Bytes} {e : DecodeError}
    (h : decodeItemAt depth b = .error e) (hb : b ≠ []) : decodeAllAt depth b = .error e := by
  cases b with
  | nil => exact absurd rfl hb
  | cons first rest =>
    rw [decodeAllAt, h]

/-- An item that was read took at least one byte, and no more than there were. -/
theorem bounds_of_decodeItemAt {depth : Nat} {b : Bytes} {x : Item} {n : Nat}
    (h : decodeItemAt depth b = .ok (x, n)) : 1 ≤ n ∧ n ≤ b.length := by
  cases hr : readHeader b with
  | error e =>
    rw [decodeItemAt_of_error hr] at h
    cases h
  | ok g =>
    have hb := bounds_of_readHeader hr
    suffices hn : n = g.size by
      rw [hn]
      exact ⟨hb.1, hb.2.1⟩
    rw [decodeItemAt_of_readHeader hr] at h
    split at h
    · split at h
      · cases h
      · obtain ⟨xs, -, hx⟩ := map_eq_ok_iff.mp h
        exact (congrArg Prod.snd hx).symm
    · exact (congrArg Prod.snd (Except.ok.inj h)).symm

/-! ## What was written is read back -/

mutual

/-- **Round trip.**  The encoding of an item is read as that item, whatever
follows it. -/
theorem decodeItemAt_encode (depth : Nat) : ∀ (x : Item) (t : Bytes),
    depth + x.depth ≤ maxDepth → x.Fits →
      decodeItemAt depth (x.encode ++ t) = .ok (x, x.encode.length)
  | .bytes b, t, _, hf => by
    rw [encode_eq_framed, decodeItemAt_of_readHeader (readHeader_framed t hf), isList_frameHeader,
      payload_frameHeader, size_frameHeader]
    rfl
  | .list xs, t, hd, hf => by
    rw [Item.depth] at hd
    -- the items fill the payload, and the loop over them stops at its end
    have hall : decodeAllAt (depth + 1) (encodeAll xs) = .ok xs := by
      have h := decodeAllAt_encodeAll (depth + 1) xs [] (by omega)
        fun x hx => fits_of_mem hf hx
      rwa [List.append_nil, decodeAllAt_nil, Except.map, List.append_nil] at h
    rw [encode_eq_framed, decodeItemAt_of_readHeader (readHeader_framed t hf), isList_frameHeader,
      payload_frameHeader, size_frameHeader]
    simp only [Item.isList, Item.payload, if_true]
    rw [if_neg (by omega), hall]
    rfl

/-- The encodings of items are read as those items, and what follows them on its
own. -/
theorem decodeAllAt_encodeAll (depth : Nat) : ∀ (xs : List Item) (t : Bytes),
    depth + Item.depthAll xs ≤ maxDepth → (∀ x ∈ xs, x.Fits) →
      decodeAllAt depth (encodeAll xs ++ t) = (decodeAllAt depth t).map (xs ++ ·)
  | [], t, _, _ => by
    rw [encodeAll_nil, List.nil_append]
    cases decodeAllAt depth t <;> rfl
  | x :: r, t, hd, hf => by
    rw [Item.depthAll] at hd
    have hx := decodeItemAt_encode depth x (encodeAll r ++ t) (by omega)
      (hf x (List.mem_cons_self ..))
    have hr := decodeAllAt_encodeAll depth r t (by omega)
      fun y hy => hf y (List.mem_cons_of_mem _ hy)
    have hb := bounds_of_decodeItemAt hx
    rw [encodeAll_cons, List.append_assoc, decodeAllAt_of_decodeItemAt hx hb.1 hb.2,
      List.drop_left, hr]
    cases decodeAllAt depth t <;> rfl

end

/-! ## What is read was written -/

mutual

/-- **Strictness.**  What is read as an item starts with its encoding. -/
theorem encode_of_decodeItemAt {depth : Nat} {b : Bytes} {x : Item} {n : Nat}
    (hdepth : depth ≤ maxDepth) (h : decodeItemAt depth b = .ok (x, n)) :
    ∃ t, b = x.encode ++ t ∧ n = x.encode.length ∧ depth + x.depth ≤ maxDepth ∧ x.Fits := by
  cases hr : readHeader b with
  | error e =>
    rw [decodeItemAt_of_error hr] at h
    cases h
  | ok g =>
    obtain ⟨l, p, t, hb, hp, hg⟩ := readHeader_eq_ok_iff.mp hr
    have hpayload : g.payload b = p := by rw [hb, hg, payload_frameHeader]
    have hsize : g.size = (framed l p).length := by rw [hg, size_frameHeader]
    have hlist : g.isList = l := by rw [hg, isList_frameHeader]
    rw [decodeItemAt_of_readHeader hr, hpayload, hsize, hlist] at h
    cases l with
    | false =>
      cases h
      exact ⟨t, hb, rfl, hdepth, hp⟩
    | true =>
      rw [if_pos rfl] at h
      split at h
      · cases h
      next hd =>
      obtain ⟨xs, hxs, hx⟩ := map_eq_ok_iff.mp h
      -- a payload is shorter than what it was read from, which is why this ends
      have hlt : p.length < b.length := hpayload ▸ length_payload_lt hr hlist
      obtain ⟨rfl, hall, -⟩ := encodeAll_of_decodeAllAt (by omega) hxs
      cases hx
      refine ⟨t, hb, rfl, ?_, hp⟩
      rw [Item.depth]
      omega
termination_by (b.length, 0)
decreasing_by exact Prod.Lex.left _ _ hlt

/-- What is read as items to the end is their encodings. -/
theorem encodeAll_of_decodeAllAt {depth : Nat} {b : Bytes} {xs : List Item}
    (hdepth : depth ≤ maxDepth) (h : decodeAllAt depth b = .ok xs) :
    b = encodeAll xs ∧ depth + Item.depthAll xs ≤ maxDepth ∧ ∀ x ∈ xs, x.Fits := by
  by_cases hb : b = []
  · rw [hb, decodeAllAt_nil] at h
    cases h
    exact ⟨hb, hdepth, fun _ hx => absurd hx (List.not_mem_nil)⟩
  cases hi : decodeItemAt depth b with
  | error e =>
    rw [decodeAllAt_of_error hi hb] at h
    cases h
  | ok r =>
    obtain ⟨x, n⟩ := r
    have hbounds := bounds_of_decodeItemAt hi
    rw [decodeAllAt_of_decodeItemAt hi hbounds.1 hbounds.2] at h
    obtain ⟨ys, hys, hxs⟩ := map_eq_ok_iff.mp h
    obtain ⟨t, ht, hn, hd, hf⟩ := encode_of_decodeItemAt hdepth hi
    have hlt : (b.drop n).length < b.length := by
      rw [List.length_drop]
      omega
    obtain ⟨hrest, hds, hfs⟩ := encodeAll_of_decodeAllAt hdepth hys
    subst hxs
    refine ⟨?_, ?_, ?_⟩
    · rw [ht, hn, List.drop_left] at hrest
      rw [ht, hrest, encodeAll_cons]
    · rw [Item.depthAll]
      omega
    · intro y hy
      rcases List.mem_cons.mp hy with rfl | hy
      · exact hf
      · exact hfs y hy
termination_by (b.length, 1)
decreasing_by
  · exact Prod.Lex.right _ (by decide)
  · exact Prod.Lex.left _ _ hlt

end

/-! ## Both directions -/

/-- **An item is read exactly where its encoding stands.** -/
theorem decodeItem_eq_ok_iff {b : Bytes} {x : Item} {n : Nat} :
    decodeItem b = .ok (x, n) ↔
      ∃ t, b = x.encode ++ t ∧ n = x.encode.length ∧ x.depth ≤ maxDepth ∧ x.Fits := by
  constructor
  · intro h
    obtain ⟨t, hb, hn, hd, hf⟩ := encode_of_decodeItemAt (Nat.zero_le _) h
    exact ⟨t, hb, hn, by omega, hf⟩
  · rintro ⟨t, rfl, rfl, hd, hf⟩
    exact decodeItemAt_encode 0 x t (by omega) hf

/-- **A byte string is read as one item exactly where it is the encoding of the
item.** -/
theorem decode_eq_ok_iff {b : Bytes} {x : Item} :
    decode b = .ok x ↔ b = x.encode ∧ x.depth ≤ maxDepth ∧ x.Fits := by
  unfold decode
  rw [bind_eq_ok_iff]
  constructor
  · rintro ⟨⟨y, n⟩, hy, h⟩
    simp only at h
    split at h
    next hn =>
      cases h
      obtain ⟨t, rfl, rfl, hd, hf⟩ := decodeItem_eq_ok_iff.mp hy
      have ht : t = [] := by
        rw [List.length_append] at hn
        exact List.length_eq_zero_iff.mp (by omega)
      exact ⟨by rw [ht, List.append_nil], hd, hf⟩
    · cases h
  · rintro ⟨rfl, hd, hf⟩
    refine ⟨(x, x.encode.length), ?_, ?_⟩
    · exact decodeItem_eq_ok_iff.mpr ⟨[], (List.append_nil _).symm, rfl, hd, hf⟩
    · exact if_pos rfl

/-- Lists that are encoded alike have the same items. -/
theorem encodeList_injective {xs ys : List Item} (hdx : (Item.list xs).depth ≤ maxDepth)
    (hdy : (Item.list ys).depth ≤ maxDepth) (hfx : (Item.list xs).Fits)
    (hfy : (Item.list ys).Fits) (h : encodeList xs = encodeList ys) : xs = ys := by
  have hx : decode (encodeList xs) = .ok (.list xs) := decode_eq_ok_iff.mpr ⟨rfl, hdx, hfx⟩
  have hy : decode (encodeList ys) = .ok (.list ys) := decode_eq_ok_iff.mpr ⟨rfl, hdy, hfy⟩
  rw [h, hy] at hx
  exact (Item.list.inj (Except.ok.inj hx)).symm

end Signet.Rlp
