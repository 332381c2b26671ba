import Signet.Proofs.Failures
import Signet.Proofs.Text.Digits
import Signet.Proofs.Transaction.WireForm

/-! # What is refused as a transaction

Every byte string is read as a valid transaction or refused, and nearly always with
one of three causes (`Error.IsRefusal`): it is no RLP of the right shape, its type is
not known, or its signature has a component that is too wide.  The integers that the
text of such a cause quotes are short enough to be written.

One cause is none of these.  The text about a `v` that does not fit into one byte
quotes `v`, and a `v` of more than `Numeral.decimalLimit` digits cannot be written, so
that the refusal fails for its own text (`decode_eq_error_numeral_iff`): this happens
exactly on the wire forms of typed transactions with such a `v`.
-/

namespace Signet

/-! ## Causes and the integers they quote -/

/-- Whether a fault of RLP quotes no declared length that is too long for a prefix. -/
def Rlp.DecodeError.Quotable : Rlp.DecodeError → Prop
  | .overrun declared _ => declared < Rlp.payloadCeiling
  | _ => True

/-- Whether a cause refuses a byte string as a transaction, with a text that can be
written. -/
def Error.IsRefusal : Error → Prop
  | .rlpDecoding e => e.Quotable
  | .unsupportedType ty => Numeral.isWritable ty
  | .component (.wideV v) => Numeral.isWritable v
  | .component .wideScalar => True
  | _ => False

/-- What reading a transaction fails with: a refusal, or the text of a refusal that is
too long. -/
def Error.IsRefusalOrNumeral (e : Error) : Prop :=
  e.IsRefusal ∨ e = .numeral

/-- A failure whose text quotes an integer is that failure, or the integer is too long. -/
theorem Error.isRefusalOrNumeral_writing {n : Int} {e : Error}
    (h : Numeral.isWritable n = true → e.IsRefusal) : (e.writing n).IsRefusalOrNumeral := by
  unfold Error.writing
  split
  next hw => exact Or.inl (h hw)
  · exact Or.inr rfl

/-! ## Faults of RLP -/

namespace Rlp

theorem length_lt_of_readLongHeader {l : Bool} {c : Nat} {rest : Bytes} {h : Header}
    (hc : c ≤ 8) (hr : readLongHeader l c rest = .ok h) : h.length < payloadCeiling := by
  obtain ⟨n, -, -, hwidth, -, rfl⟩ := readLongHeader_eq_ok_iff.mp hr
  exact Bytes.width_le_iff.mp (hwidth ▸ hc)

theorem quotable_within {α : Type} {h : Header} (xs : List α) (hl : h.length < payloadCeiling) :
    FailsOnly DecodeError.Quotable (h.within xs) := by
  unfold Header.within
  split
  · exact failsOnly_error.mpr hl
  · exact failsOnly_ok h

theorem quotable_readLongHeader (l : Bool) (c : Nat) (rest : Bytes) :
    FailsOnly DecodeError.Quotable (readLongHeader l c rest) := by
  unfold readLongHeader
  simp only
  split
  · exact failsOnly_error.mpr trivial
  split
  · exact failsOnly_error.mpr trivial
  split
  · exact failsOnly_error.mpr trivial
  · exact failsOnly_ok _

/-- A prefix has at most eight length bytes. -/
theorem quotable_longHeader {l : Bool} {c : Nat} (hc : c ≤ 8) (rest b : Bytes) :
    FailsOnly DecodeError.Quotable (do (← readLongHeader l c rest).within b) :=
  (quotable_readLongHeader l c rest).bind fun _ hr =>
    quotable_within b (length_lt_of_readLongHeader hc hr)

theorem quotable_readHeader (b : Bytes) : FailsOnly DecodeError.Quotable (readHeader b) := by
  have hshort : ∀ n, n < 256 → n < payloadCeiling := fun n hn =>
    Nat.lt_trans hn (by decide : 256 < payloadCeiling)
  cases b with
  | nil => exact failsOnly_error.mpr trivial
  | cons first rest =>
    have hbyte : first.toNat < 256 := first.toNat_lt
    simp only [readHeader]
    split
    · exact failsOnly_ok _
    split
    · split
      · exact failsOnly_error.mpr trivial
      split
      · exact failsOnly_error.mpr trivial
      · exact failsOnly_ok _
    split
    · exact quotable_within _ (hshort (first.toNat - 0x80) (by omega))
    split
    next hlow =>
      refine quotable_longHeader ?_ rest _
      omega
    split
    · exact quotable_within _ (hshort (first.toNat - 0xC0) (by omega))
    · refine quotable_longHeader ?_ rest _
      omega

mutual

/-- **No length that is too long for a prefix is ever quoted.** -/
theorem quotable_decodeItemAt (depth : Nat) (b : Bytes) :
    FailsOnly DecodeError.Quotable (decodeItemAt depth b) := by
  cases hr : readHeader b with
  | error e =>
    rw [decodeItemAt_of_error hr]
    exact failsOnly_error.mpr (quotable_readHeader b e hr)
  | ok g =>
    rw [decodeItemAt_of_readHeader hr]
    split
    next hlist =>
      split
      · exact failsOnly_error.mpr trivial
      · have hlt : (g.payload b).length < b.length := length_payload_lt hr hlist
        exact (quotable_decodeAllAt (depth + 1) (g.payload b)).map _
    · exact failsOnly_ok _
termination_by (b.length, 0)
decreasing_by exact Prod.Lex.left _ _ hlt

theorem quotable_decodeAllAt (depth : Nat) (b : Bytes) :
    FailsOnly DecodeError.Quotable (decodeAllAt depth b) := by
  by_cases hb : b = []
  · rw [hb, decodeAllAt_nil]
    exact failsOnly_ok _
  cases hi : decodeItemAt depth b with
  | error e =>
    rw [decodeAllAt_of_error hi hb]
    exact failsOnly_error.mpr (quotable_decodeItemAt depth b e hi)
  | ok r =>
    obtain ⟨x, n⟩ := r
    have hbounds := bounds_of_decodeItemAt hi
    have hlt : (b.drop n).length < b.length := by
      rw [List.length_drop]
      omega
    rw [decodeAllAt_of_decodeItemAt hi hbounds.1 hbounds.2]
    exact (quotable_decodeAllAt depth (b.drop n)).map _
termination_by (b.length, 1)
decreasing_by
  · exact Prod.Lex.right _ (by decide)
  · exact Prod.Lex.left _ _ hlt

end

theorem quotable_decodeItem (b : Bytes) : FailsOnly DecodeError.Quotable (decodeItem b) :=
  quotable_decodeItemAt 0 b

namespace Item

theorem quotable_asNat (x : Item) : FailsOnly DecodeError.Quotable x.asNat := by
  cases x with
  | list xs => exact failsOnly_error.mpr trivial
  | bytes b =>
    rw [asNat]
    split
    · exact failsOnly_error.mpr trivial
    · exact failsOnly_ok _

theorem quotable_asBytes (x : Item) (n : Option Nat) :
    FailsOnly DecodeError.Quotable (x.asBytes n) := by
  unfold asBytes
  split
  · exact failsOnly_error.mpr trivial
  split
  · split
    · exact failsOnly_ok _
    · exact failsOnly_error.mpr trivial
  · exact failsOnly_ok _

theorem quotable_asFixed (x : Item) (n : Nat) : FailsOnly DecodeError.Quotable (x.asFixed n) := by
  unfold asFixed
  split
  · exact failsOnly_error.mpr trivial
  split
  · exact failsOnly_ok _
  · exact failsOnly_error.mpr trivial

theorem quotable_asList (x : Item) (n : Option Nat) :
    FailsOnly DecodeError.Quotable (x.asList n) := by
  unfold asList
  split
  · exact failsOnly_error.mpr trivial
  split
  · split
    · exact failsOnly_ok _
    · exact failsOnly_error.mpr trivial
  · exact failsOnly_ok _

end Item
end Rlp

open Rlp

theorem AccessTuple.quotable_ofItem (x : Item) :
    FailsOnly DecodeError.Quotable (AccessTuple.ofItem x) := by
  unfold AccessTuple.ofItem
  refine (x.quotable_asList _).bind fun xs _ => ?_
  split
  next address keys _ =>
    refine (address.quotable_asFixed 20).bind fun a _ => ?_
    refine (keys.quotable_asList none).bind fun ks _ => ?_
    refine (FailsOnly.mapM (fun k => Item.quotable_asFixed k 32) ks).bind fun hs _ => ?_
    exact failsOnly_pure _
  · exact failsOnly_throw.mpr trivial

namespace Transaction

theorem quotable_integerField (x : Item) : FailsOnly DecodeError.Quotable (integerField x) :=
  (x.quotable_asNat.bind fun _ _ => failsOnly_pure _).map _

theorem quotable_recipientField (x : Item) :
    FailsOnly DecodeError.Quotable (recipientField x) := by
  unfold recipientField
  refine (x.quotable_asBytes none).bind fun b _ => ?_
  split
  · exact failsOnly_pure _
  · exact (x.quotable_asFixed 20).bind fun _ _ => failsOnly_pure _

theorem quotable_accessListField (x : Item) :
    FailsOnly DecodeError.Quotable (accessListField x) := by
  unfold accessListField
  refine (x.quotable_asList none).bind fun xs _ => ?_
  exact (FailsOnly.mapM AccessTuple.quotable_ofItem xs).bind fun _ _ => failsOnly_pure _

/-! ## The reader of every envelope -/

/-- A fault of RLP refuses. -/
theorem isRefusalOrNumeral_mapError {α : Type} {x : Except DecodeError α}
    (h : FailsOnly DecodeError.Quotable x) :
    FailsOnly Error.IsRefusalOrNumeral (x.mapError .rlpDecoding) :=
  h.mapError fun _ he => Or.inl he

theorem failsOnly_signatureOfItems (typed : Bool) (v r s : Item) :
    FailsOnly Error.IsRefusalOrNumeral (signatureOfItems typed v r s) := by
  unfold signatureOfItems
  refine (isRefusalOrNumeral_mapError v.quotable_asNat).bind fun v _ => ?_
  refine (isRefusalOrNumeral_mapError r.quotable_asNat).bind fun r _ => ?_
  refine (isRefusalOrNumeral_mapError s.quotable_asNat).bind fun s _ => ?_
  split
  · exact failsOnly_throw.mpr (Or.inl trivial)
  split
  · exact failsOnly_throw.mpr (Error.isRefusalOrNumeral_writing id)
  split
  · exact failsOnly_pure _
  · exact failsOnly_pure _

/-- Every reader fails only with a refusal, or with the text of one that is too long. -/
theorem failsOnly_read (e : Envelope) (xs : List Item) :
    FailsOnly Error.IsRefusalOrNumeral (e.read xs) := by
  have hcount : ∀ n m, FailsOnly Error.IsRefusalOrNumeral
      (.error (.rlpDecoding (.wrongCount n m)) : Except Error Transaction) := fun n m =>
    failsOnly_error.mpr (Or.inl trivial)
  cases e with
  | legacy =>
    show FailsOnly _ (ofLegacyItems xs)
    unfold ofLegacyItems
    split
    next nonce gasPrice gasLimit recipient value data v r s =>
      refine (failsOnly_signatureOfItems false v r s).bind fun sig _ => ?_
      refine (isRefusalOrNumeral_mapError ?_).bind fun tx _ => failsOnly_pure _
      refine (quotable_integerField nonce).bind fun _ _ => ?_
      refine (quotable_integerField gasPrice).bind fun _ _ => ?_
      refine (quotable_integerField gasLimit).bind fun _ _ => ?_
      refine (quotable_recipientField recipient).bind fun _ _ => ?_
      refine (quotable_integerField value).bind fun _ _ => ?_
      exact (data.quotable_asBytes none).bind fun _ _ => failsOnly_pure _
    · exact hcount _ _
  | accessList =>
    show FailsOnly _ (ofAccessListItems xs)
    unfold ofAccessListItems
    split
    next chainId nonce gasPrice gasLimit recipient value data accessList v r s =>
      refine (isRefusalOrNumeral_mapError ?_).bind fun tx _ =>
        (failsOnly_signatureOfItems true v r s).bind fun sig _ => failsOnly_pure _
      refine (quotable_integerField chainId).bind fun _ _ => ?_
      refine (quotable_integerField nonce).bind fun _ _ => ?_
      refine (quotable_integerField gasPrice).bind fun _ _ => ?_
      refine (quotable_integerField gasLimit).bind fun _ _ => ?_
      refine (quotable_recipientField recipient).bind fun _ _ => ?_
      refine (quotable_integerField value).bind fun _ _ => ?_
      refine (data.quotable_asBytes none).bind fun _ _ => ?_
      exact (quotable_accessListField accessList).bind fun _ _ => failsOnly_pure _
    · exact hcount _ _
  | dynamicFee =>
    show FailsOnly _ (ofDynamicFeeItems xs)
    unfold ofDynamicFeeItems
    split
    next chainId nonce tip cap gasLimit recipient value data accessList v r s =>
      refine (isRefusalOrNumeral_mapError ?_).bind fun tx _ =>
        (failsOnly_signatureOfItems true v r s).bind fun sig _ => failsOnly_pure _
      refine (quotable_integerField chainId).bind fun _ _ => ?_
      refine (quotable_integerField nonce).bind fun _ _ => ?_
      refine (quotable_integerField tip).bind fun _ _ => ?_
      refine (quotable_integerField cap).bind fun _ _ => ?_
      refine (quotable_integerField gasLimit).bind fun _ _ => ?_
      refine (quotable_recipientField recipient).bind fun _ _ => ?_
      refine (quotable_integerField value).bind fun _ _ => ?_
      refine (data.quotable_asBytes none).bind fun _ _ => ?_
      exact (quotable_accessListField accessList).bind fun _ _ => failsOnly_pure _
    · exact hcount _ _

theorem failsOnly_decodeList (e : Envelope) (count : Nat) (b : Bytes) :
    FailsOnly Error.IsRefusalOrNumeral (decodeList e.read count (firstItem b)) := by
  refine (isRefusalOrNumeral_mapError (quotable_decodeItem b)).bind fun p _ => ?_
  refine (isRefusalOrNumeral_mapError (p.1.quotable_asList _)).bind fun xs _ => ?_
  exact (failsOnly_read e xs).bind fun t _ => failsOnly_pure _

/-- **Reading a transaction fails only with a refusal**, or with the text of one that
is too long to be written. -/
theorem failsOnly_decode (b : Bytes) : FailsOnly Error.IsRefusalOrNumeral (decode b) := by
  unfold decode
  split
  · exact failsOnly_error.mpr (Or.inl trivial)
  next first rest =>
  split
  · exact failsOnly_decodeList .legacy 9 _
  split
  · exact (failsOnly_decodeList .accessList 11 rest).map _
  split
  · exact (failsOnly_decodeList .dynamicFee 12 rest).map _
  · have hbyte : first.toNat < 256 := first.toNat_lt
    refine failsOnly_error.mpr (Or.inl (Numeral.isWritable_of_lt_pow (k := 3) (by decide) ?_))
    rw [Int.natAbs_natCast]
    exact Nat.lt_trans hbyte (by decide)

/-! ## The text of a refusal that is too long -/

theorem mapError_ne_numeral {α : Type} (x : Except DecodeError α) :
    x.mapError Error.rlpDecoding ≠ .error .numeral := by
  intro h
  obtain ⟨e, -, he⟩ := mapError_eq_error_iff.mp h
  cases he

/-- A signature is refused with too long a text exactly if it stands on a typed
transaction, and nothing is wrong with it but a `v` that cannot be written. -/
theorem signatureOfItems_eq_error_numeral_iff {typed : Bool} {x y z : Item} :
    signatureOfItems typed x y z = .error .numeral ↔
      typed = true ∧ ∃ v r s : Nat, x = .ofNat v ∧ y = .ofNat r ∧ z = .ofNat s ∧
        r < uint256Ceiling ∧ s < uint256Ceiling ∧ ¬ Numeral.isWritable v = true := by
  constructor
  · intro h
    obtain ⟨v, hv, h⟩ := (bind_eq_error_iff.mp h).resolve_left (mapError_ne_numeral _)
    obtain ⟨r, hr, h⟩ := (bind_eq_error_iff.mp h).resolve_left (mapError_ne_numeral _)
    obtain ⟨s, hs, h⟩ := (bind_eq_error_iff.mp h).resolve_left (mapError_ne_numeral _)
    rw [mapError_eq_ok_iff, Item.asNat_eq_ok_iff] at hv hr hs
    split at h
    · cases h
    next hwide =>
    split at h
    next hbyte =>
      refine ⟨hbyte.1, v, r, s, hv, hr, hs, by omega, by omega, fun hw => ?_⟩
      rw [Error.writing, if_pos hw] at h
      cases h
    split at h <;> cases h
  · rintro ⟨rfl, v, r, s, rfl, rfl, rfl, hr, hs, hv⟩
    have hread : ∀ n, (Item.ofNat n).asNat.mapError Error.rlpDecoding = .ok n := fun n => by
      rw [mapError_eq_ok_iff, Item.asNat_eq_ok_iff]
    have hlarge : 0xFF < v := by
      refine Nat.lt_of_not_le fun hle => hv ?_
      refine Numeral.isWritable_of_lt_pow (k := 3) (by decide) ?_
      rw [Int.natAbs_natCast]
      exact Nat.lt_of_le_of_lt hle (by decide)
    unfold signatureOfItems
    rw [hread, hread, hread]
    simp only [ok_bind]
    rw [if_neg (by omega), if_pos ⟨trivial, hlarge⟩, Error.writing, if_neg hv]
    rfl

/-- **A typed transaction is read in two parts**: the signed fields, and then the
signature, which is put onto them. -/
theorem exists_read_append {e : Envelope} (he : e ≠ .legacy) {ys : List Item}
    (hlen : ys.length = e.signedFields.length) :
    ∃ fields : Except DecodeError Transaction, ∀ x y z,
      e.read (ys ++ [x, y, z]) = (do
        let tx ← fields.mapError .rlpDecoding
        return tx.withSignature (← signatureOfItems true x y z)) := by
  cases e with
  | legacy => exact absurd rfl he
  | accessList =>
    match ys, hlen with
    | [_, _, _, _, _, _, _, _], _ =>
      exact ⟨_, fun x y z => rfl⟩
  | dynamicFee =>
    match ys, hlen with
    | [_, _, _, _, _, _, _, _, _], _ =>
      exact ⟨_, fun x y z => rfl⟩

/-- The items of the signed fields, and behind them those of a signature. -/
theorem items_withSignature_some (t : Transaction) (e : Envelope) (v r s : Nat) :
    (t.withSignature (some (v, r, s))).items e =
      (e.signedFields.map fun f => (t.wireValue f).toItem) ++ [.ofNat v, .ofNat r, .ofNat s] := by
  cases e <;> rfl

theorem valid_withSignature_some {t : Transaction} {v r s : Nat} (h : t.Valid)
    (hr : r < uint256Ceiling) (hs : s < uint256Ceiling) :
    (t.withSignature (some (v, r, s))).Valid :=
  { h with
    v := nonNegative_natCast v
    r := fitsWord_natCast hr
    s := fitsWord_natCast hs }

theorem ofLegacyItems_ne_numeral (xs : List Item) : ofLegacyItems xs ≠ .error .numeral := by
  intro h
  unfold ofLegacyItems at h
  split at h
  · rcases bind_eq_error_iff.mp h with h | ⟨sig, -, h⟩
    · cases (signatureOfItems_eq_error_numeral_iff.mp h).1
    · obtain ⟨tx, -, h⟩ := (bind_eq_error_iff.mp h).resolve_left (mapError_ne_numeral _)
      cases h
  · cases h

/-- The last three places of a list. -/
theorem exists_append_three {α : Type} {xs : List α} {n : Nat} (h : xs.length = n + 3) :
    ∃ ys x y z, xs = ys ++ [x, y, z] ∧ ys.length = n := by
  have hlast : (xs.drop n).length = 3 := by
    rw [List.length_drop]
    omega
  match hdrop : xs.drop n, hlast with
  | [x, y, z], _ =>
    refine ⟨xs.take n, x, y, z, ?_, ?_⟩
    · rw [← hdrop, List.take_append_drop]
    · rw [List.length_take]
      omega

theorem items_eq_append (tx : Transaction) (e : Envelope) :
    tx.items e = (e.signedFields.map fun f => (tx.wireValue f).toItem) ++
      [.ofNat (tx.v.getD 0).toNat, .ofNat (tx.r.getD 0).toNat, .ofNat (tx.s.getD 0).toNat] :=
  List.map_append

/-- **The reader of an envelope writes too long a text exactly on the items of a
valid typed transaction with a `v` that cannot be written.** -/
theorem read_eq_error_numeral_iff {e : Envelope} {xs : List Item}
    (hlen : xs.length = e.fields.length) :
    e.read xs = .error .numeral ↔
      e ≠ .legacy ∧ ∃ tx : Transaction, tx.Valid ∧ tx.envelope? = some e ∧ tx.items e = xs ∧
        ¬ Numeral.isWritable (tx.v.getD 0) = true := by
  constructor
  · intro h
    have he : e ≠ .legacy := by
      rintro rfl
      exact ofLegacyItems_ne_numeral xs h
    -- the signature takes the last three places
    obtain ⟨ys, x, y, z, rfl, hys⟩ := exists_append_three (hlen.trans List.length_append)
    obtain ⟨fields, hread⟩ := exists_read_append he hys
    rw [hread] at h
    obtain ⟨tx, htx, h⟩ := (bind_eq_error_iff.mp h).resolve_left (mapError_ne_numeral _)
    have hsig : signatureOfItems true x y z = .error .numeral := by
      rcases bind_eq_error_iff.mp h with h | ⟨sig, -, h⟩
      · exact h
      · cases h
    obtain ⟨-, v, r, s, rfl, rfl, rfl, hr, hs, hv⟩ :=
      signatureOfItems_eq_error_numeral_iff.mp hsig
    -- with zeros for a signature, the same fields are read
    have hzero : e.read (ys ++ [.ofNat 0, .ofNat 0, .ofNat 0]) = .ok tx := by
      rw [hread, htx]
      rfl
    obtain ⟨hvalid, henv, hitems, -⟩ := items_of_read hzero
    refine ⟨he, tx.withSignature (some (v, r, s)), valid_withSignature_some hvalid hr hs, ?_, ?_,
      hv⟩
    · rw [envelope?_withSignature, henv]
    · rw [items_eq_append] at hitems
      rw [items_withSignature_some, (List.append_inj hitems (by rw [List.length_map, hys])).1]
  · rintro ⟨he, tx, hvalid, -, rfl, hv⟩
    have hr := hvalid.r.toNat_getD_lt
    have hs := hvalid.s.toNat_getD_lt
    have hfields : (e.signedFields.map fun f => (tx.wireValue f).toItem).length =
        e.signedFields.length := List.length_map ..
    obtain ⟨fields, hread⟩ := exists_read_append he hfields
    -- with zero for `v`, the same fields are read
    have hbyte : ((0 : Nat) : Int) ≤ 0xFF := by decide
    have hzero := read_items (e := e) (valid_withSignature_some (v := 0) hvalid hr hs)
      (Or.inr hbyte)
    rw [items_withSignature_some, hread] at hzero
    obtain ⟨base, hbase, -⟩ := bind_eq_ok_iff.mp hzero
    have hsig : signatureOfItems true (.ofNat (tx.v.getD 0).toNat) (.ofNat (tx.r.getD 0).toNat)
        (.ofNat (tx.s.getD 0).toNat) = .error .numeral := by
      refine signatureOfItems_eq_error_numeral_iff.mpr ⟨rfl, _, _, _, rfl, rfl, rfl, hr, hs, ?_⟩
      rwa [Int.toNat_of_nonneg hvalid.v.getD]
    rw [items_eq_append, hread, hbase]
    simp only [ok_bind, hsig, error_bind]

/-! ## Main statements -/

/-- A list behind a type byte that its reader refuses for anything but RLP is there in
full. -/
theorem decodeList_eq_error_numeral {f : List Item → Except Error Transaction} {count : Nat}
    {b : Bytes} (h : decodeList f count (firstItem b) = .error .numeral) :
    ∃ xs u, b = encodeList xs ++ u ∧ (Item.list xs).depth ≤ maxDepth ∧ (Item.list xs).Fits ∧
      xs.length = count ∧ f xs = .error .numeral := by
  obtain ⟨⟨x, n⟩, hx, hlist⟩ := (bind_eq_error_iff.mp h).resolve_left (mapError_ne_numeral _)
  obtain ⟨xs, hxs, hitems⟩ := (bind_eq_error_iff.mp hlist).resolve_left (mapError_ne_numeral _)
  rw [firstItem, mapError_eq_ok_iff, decodeItem_eq_ok_iff] at hx
  rw [mapError_eq_ok_iff, Item.asList_some_eq_ok_iff] at hxs
  obtain ⟨u, hb, -, hd, hf⟩ := hx
  obtain ⟨rfl, hcount⟩ := hxs
  refine ⟨xs, u, hb, hd, hf, hcount, ?_⟩
  rcases bind_eq_error_iff.mp hitems with h | ⟨t, -, h⟩
  · exact h
  · cases h

/-- **Where the text of a refusal is too long**: on the wire forms of typed
transactions, with anything behind them, whose `v` cannot be written. -/
theorem decode_eq_error_numeral_iff {b : Bytes} :
    decode b = .error .numeral ↔
      ∃ (e : Envelope) (tx : Transaction) (u : Bytes), e ≠ .legacy ∧ tx.Valid ∧
        tx.envelope? = some e ∧ ¬ Numeral.isWritable (tx.v.getD 0) = true ∧
        (Item.list (tx.items e)).Fits ∧ b = e.typePrefix ++ encodeList (tx.items e) ++ u := by
  constructor
  · intro h
    obtain ⟨e, xs, u, rfl, hf, hlen, hread⟩ : ∃ e xs u,
        b = Envelope.typePrefix e ++ encodeList xs ++ u ∧ (Item.list xs).Fits ∧
          xs.length = e.fields.length ∧ e.read xs = .error .numeral := by
      unfold decode at h
      split at h
      · cases h
      next first rest =>
      split at h
      · obtain ⟨xs, u, hb, -, hf, hlen, hread⟩ := decodeList_eq_error_numeral h
        exact ⟨.legacy, xs, u, hb, hf, hlen, hread⟩
      split at h
      next hone =>
        obtain ⟨xs, u, rfl, -, hf, hlen, hread⟩ :=
          decodeList_eq_error_numeral (map_eq_error_iff.mp h)
        exact ⟨.accessList, xs, u, by rw [hone]; rfl, hf, hlen, hread⟩
      split at h
      next htwo =>
        obtain ⟨xs, u, rfl, -, hf, hlen, hread⟩ :=
          decodeList_eq_error_numeral (map_eq_error_iff.mp h)
        exact ⟨.dynamicFee, xs, u, by rw [htwo]; rfl, hf, hlen, hread⟩
      · cases h
    obtain ⟨he, tx, hvalid, henv, rfl, hv⟩ := (read_eq_error_numeral_iff hlen).mp hread
    exact ⟨e, tx, u, he, hvalid, henv, hv, hf, rfl⟩
  · rintro ⟨e, tx, u, he, hvalid, henv, hv, hf, rfl⟩
    rw [decode_append u (depth_items_le tx e) hf (length_items tx e),
      (read_eq_error_numeral_iff (length_items tx e)).mpr ⟨he, tx, hvalid, henv, rfl, hv⟩]
    rfl

/-- **Every byte string is read or refused.**  What is read is a valid transaction.
What is not is refused, for one of the three causes of `Error.IsRefusal` and with a
text that can be written, unless it is the wire form of a typed transaction with
a `v` of more digits than can be written: there, and only there, it is the text of the
refusal that fails. -/
theorem decode_total (b : Bytes) :
    ((∃ t n, decode b = .ok (t, n) ∧ t.Valid ∧ t.encode = .ok (b.take n)) ∨
      (∃ e, decode b = .error e ∧ e.IsRefusal) ∨ decode b = .error .numeral) ∧
    (decode b = .error .numeral ↔
      ∃ (e : Envelope) (tx : Transaction) (w u : Bytes), e ≠ .legacy ∧ tx.Valid ∧
        tx.envelope? = some e ∧ ¬ Numeral.isWritable (tx.v.getD 0) = true ∧
        (Item.list (tx.items e)).Fits ∧ tx.encode = .ok w ∧ b = w ++ u) := by
  constructor
  · cases h : decode b with
    | ok p =>
      obtain ⟨t, n⟩ := p
      obtain ⟨-, -, hencode, hvalid, -⟩ := encode_of_decode h
      exact Or.inl ⟨t, n, rfl, hvalid, hencode⟩
    | error e =>
      rcases failsOnly_decode b e h with he | rfl
      · exact Or.inr (Or.inl ⟨e, rfl, he⟩)
      · exact Or.inr (Or.inr rfl)
  · rw [decode_eq_error_numeral_iff]
    constructor
    · rintro ⟨e, tx, u, he, hvalid, henv, hv, hf, rfl⟩
      exact ⟨e, tx, _, u, he, hvalid, henv, hv, hf, encode_of_valid hvalid henv, rfl⟩
    · rintro ⟨e, tx, w, u, he, hvalid, henv, hv, hf, hencode, rfl⟩
      rw [encode_of_valid hvalid henv] at hencode
      cases hencode
      exact ⟨e, tx, u, he, hvalid, henv, hv, hf, rfl⟩

/-- An access list transaction with a `v` of one digit more than can be written. -/
def overlongV : Transaction :=
  { ty := 1, v := some ((Nat.pow 10 Numeral.decimalLimit : Nat) : Int) }

/-- The wire form of a transaction whose `v` cannot be written is neither read nor
refused. -/
theorem decode_overlongV :
    decode ([1] ++ encodeList (overlongV.items .accessList)) = .error .numeral ∧
      ¬ (∃ t n, decode ([1] ++ encodeList (overlongV.items .accessList)) = .ok (t, n)) ∧
      ¬ Error.numeral.IsRefusal := by
  have hvalid : overlongV.Valid :=
    { valid_empty with
      envelope := rfl
      v := nonNegative_natCast _ }
  have hv : ¬ Numeral.isWritable (overlongV.v.getD 0) = true := by
    decide +kernel
  have hwidth : (Bytes.ofNat (overlongV.v.getD 0).toNat).length ≤ 1786 := by
    rw [Bytes.length_ofNat, Bytes.width_le_iff]
    decide +kernel
  have hceiling : 1805 < payloadCeiling := by decide
  have hf : (Item.list (overlongV.items .accessList)).Fits := by
    show (encodeAll (overlongV.items .accessList)).length < payloadCeiling
    have hframe : ((Item.ofNat (overlongV.v.getD 0).toNat).encode).length ≤ 1795 := by
      rw [encode_eq_framed]
      exact Nat.le_trans (length_framed_le (Nat.lt_of_le_of_lt hwidth (by omega)))
        (Nat.add_le_add_right hwidth 9)
    have hfields : (encodeAll ((Envelope.signedFields .accessList).map fun f =>
        (overlongV.wireValue f).toItem)).length = 8 := rfl
    have hscalars : (encodeAll [.ofNat (overlongV.r.getD 0).toNat,
        .ofNat (overlongV.s.getD 0).toNat]).length = 2 := rfl
    rw [items_eq_append, encodeAll_append, List.length_append, hfields, encodeAll_cons,
      List.length_append, hscalars]
    omega
  have h := decode_eq_error_numeral_iff.mpr
    ⟨.accessList, overlongV, [], by decide, hvalid, rfl, hv, hf, rfl⟩
  rw [List.append_nil] at h
  refine ⟨h, ?_, id⟩
  rintro ⟨t, n, hread⟩
  rw [show decode ([1] ++ _) = _ from h] at hread
  cases hread

end Transaction
end Signet
