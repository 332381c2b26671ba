import Signet.Proofs.Transaction.WireForm

/-! # What a signature commits to

The signed pre-image is the list of the signed fields behind the type byte of the
envelope; a legacy transaction for a chain other than zero adds the chain id and
two zeros (`preImageValues`).

`SameContent` says that two transactions agree on every field of their envelope,
with unset fields counted as what they are on the wire.  Transactions that agree
have the same pre-image (`signingPreImage_congr`), and nothing else has: the type
byte tells the envelopes apart, the number of items tells whether a chain id was
added, and every item tells the value it stands for (`signingPreImage_eq_iff`).
-/

namespace Signet

open Rlp

theorem AccessTuple.toItem_injective {a b : AccessTuple} (h : a.toItem = b.toItem) : a = b := by
  have ha : AccessTuple.ofItem a.toItem = .ok a := AccessTuple.ofItem_eq_ok_iff.mpr rfl
  have hb : AccessTuple.ofItem a.toItem = .ok b := AccessTuple.ofItem_eq_ok_iff.mpr h
  rw [ha] at hb
  exact Except.ok.inj hb

namespace Envelope

/-- The envelope that the first byte of a wire form tells. -/
def ofFirstByte? (first : UInt8) : Option Envelope :=
  if 0xC0 ≤ first then some .legacy
  else if first = 1 then some .accessList
  else if first = 2 then some .dynamicFee
  else none

/-- No list starts with a type byte, so the first byte tells the envelope. -/
theorem ofFirstByte?_append (e : Envelope) {xs : List Item} (h : (Item.list xs).Fits) :
    (e.typePrefix ++ encodeList xs).head?.bind ofFirstByte? = some e := by
  cases e with
  | legacy =>
    obtain ⟨first, rest, hcons, hlow, -, -⟩ := exists_cons_of_withPrefix 0xC0 [] (by decide) h
    rw [List.append_nil] at hcons
    have hlist : encodeList xs = first :: rest := hcons
    rw [hlist]
    exact if_pos hlow
  | accessList => rfl
  | dynamicFee => rfl

/-- **The type byte tells the envelopes apart.** -/
theorem eq_of_append_eq {e f : Envelope} {xs ys : List Item} (hx : (Item.list xs).Fits)
    (hy : (Item.list ys).Fits)
    (h : e.typePrefix ++ encodeList xs = f.typePrefix ++ encodeList ys) : e = f := by
  have he := ofFirstByte?_append e hx
  rw [h, ofFirstByte?_append f hy] at he
  exact (Option.some.inj he).symm

end Envelope

namespace Transaction

/-! ## The content that is signed -/

/-- **Agreement on the fields of an envelope.**  An unset integer counts as zero,
an unset recipient as the empty string and an unset access list as the empty one;
the sender, the signature and the fields of other envelopes do not count. -/
structure SameContent (e : Envelope) (a b : Transaction) : Prop where
  nonce : a.nonce.getD 0 = b.nonce.getD 0
  gasLimit : a.gasLimit.getD 0 = b.gasLimit.getD 0
  recipient : (a.recipient.map (·.bytes)).getD [] = (b.recipient.map (·.bytes)).getD []
  value : a.value.getD 0 = b.value.getD 0
  data : a.data = b.data
  chainId : a.chainId.getD 0 = b.chainId.getD 0
  gasPrice : e ≠ .dynamicFee → a.gasPrice.getD 0 = b.gasPrice.getD 0
  maxPriorityFeePerGas : e = .dynamicFee →
    a.maxPriorityFeePerGas.getD 0 = b.maxPriorityFeePerGas.getD 0
  maxFeePerGas : e = .dynamicFee → a.maxFeePerGas.getD 0 = b.maxFeePerGas.getD 0
  accessList : e ≠ .legacy → a.accessList.getD [] = b.accessList.getD []

/-- The values in the list of the pre-image. -/
def preImageValues (tx : Transaction) (e : Envelope) : List WireValue :=
  e.signedFields.map tx.wireValue ++ replayValues e (tx.chainId.getD 0)

/-- What is added for a chain tells the chain. -/
theorem replayValues_legacy_inj {m n : Int}
    (h : replayValues .legacy m = replayValues .legacy n) : m = n := by
  unfold replayValues at h
  by_cases hm : m = 0 <;> by_cases hn : n = 0 <;> simp_all

/-- **The values in the pre-image are the content that is signed.** -/
theorem preImageValues_eq_iff {a b : Transaction} {e : Envelope} :
    a.preImageValues e = b.preImageValues e ↔ SameContent e a b := by
  constructor
  · intro h
    -- one envelope has one number of fields, so what is added for a chain is what is left
    obtain ⟨hfields, hreplay⟩ := List.append_inj h (by simp)
    have hfield : ∀ f ∈ e.signedFields, a.wireValue f = b.wireValue f :=
      List.map_inj_left.mp hfields
    cases e with
    | legacy =>
      simp only [Envelope.signedFields, wireValue, List.mem_cons, List.not_mem_nil, or_false,
        forall_eq_or_imp, forall_eq, WireValue.integer.injEq, WireValue.bytes.injEq] at hfield
      obtain ⟨hnonce, hprice, hlimit, hto, hvalue, hdata⟩ := hfield
      have hother : Envelope.legacy ≠ .dynamicFee := by decide
      exact ⟨hnonce, hlimit, hto, hvalue, hdata, replayValues_legacy_inj hreplay,
        fun _ => hprice, fun h => absurd h hother, fun h => absurd h hother, fun h => absurd rfl h⟩
    | accessList =>
      simp only [Envelope.signedFields, wireValue, List.mem_cons, List.not_mem_nil, or_false,
        forall_eq_or_imp, forall_eq, WireValue.integer.injEq, WireValue.bytes.injEq,
        WireValue.accessList.injEq] at hfield
      obtain ⟨hchain, hnonce, hprice, hlimit, hto, hvalue, hdata, haccess⟩ := hfield
      have hother : Envelope.accessList ≠ .dynamicFee := by decide
      exact ⟨hnonce, hlimit, hto, hvalue, hdata, hchain, fun _ => hprice,
        fun h => absurd h hother, fun h => absurd h hother, fun _ => haccess⟩
    | dynamicFee =>
      simp only [Envelope.signedFields, wireValue, List.mem_cons, List.not_mem_nil, or_false,
        forall_eq_or_imp, forall_eq, WireValue.integer.injEq, WireValue.bytes.injEq,
        WireValue.accessList.injEq] at hfield
      obtain ⟨hchain, hnonce, htip, hcap, hlimit, hto, hvalue, hdata, haccess⟩ := hfield
      exact ⟨hnonce, hlimit, hto, hvalue, hdata, hchain, fun h => absurd rfl h, fun _ => htip,
        fun _ => hcap, fun _ => haccess⟩
  · rintro ⟨hnonce, hlimit, hto, hvalue, hdata, hchain, hprice, htip, hcap, haccess⟩
    unfold preImageValues
    cases e <;>
      simp_all [Envelope.signedFields, wireValue]

/-- Transactions with the same content have the same pre-image, or fail alike. -/
theorem signingPreImage_congr {a b : Transaction} {e : Envelope} (ha : a.envelope? = some e)
    (hb : b.envelope? = some e) (h : SameContent e a b) :
    a.signingPreImage = b.signingPreImage := by
  have hvalues := preImageValues_eq_iff.mpr h
  unfold preImageValues at hvalues
  unfold signingPreImage
  rw [ha, hb]
  simp only [hvalues]

/-! ## The pre-image of a valid transaction -/

/-- The items in the list of the pre-image. -/
def preImageItems (tx : Transaction) (e : Envelope) : List Item :=
  (tx.preImageValues e).map WireValue.toItem

theorem item_of_mem_replayValues {e : Envelope} {c : Int} (hc : 0 ≤ c) {w : WireValue}
    (h : w ∈ replayValues e c) : w.item = .ok w.toItem := by
  unfold replayValues at h
  split at h
  · simp only [List.mem_cons, List.not_mem_nil, or_false] at h
    rcases h with rfl | rfl | rfl
    · rw [WireValue.item, integerItem, if_pos hc, WireValue.toItem]
    · rfl
    · rfl
  · cases h

/-- **A valid transaction has a pre-image**: the list of the signed items behind the
type byte. -/
theorem signingPreImage_of_valid {tx : Transaction} {e : Envelope} (h : tx.Valid)
    (he : tx.envelope? = some e) :
    tx.signingPreImage = .ok (e.typePrefix ++ encodeList (tx.preImageItems e)) := by
  have hitem : ∀ w ∈ tx.preImageValues e, w.item = .ok w.toItem := by
    intro w hw
    rcases List.mem_append.mp hw with hw | hw
    · obtain ⟨f, hf, rfl⟩ := List.mem_map.mp hw
      exact item_wireValue h (ne_ty_of_mem_fields (List.mem_append_left _ hf))
    · exact item_of_mem_replayValues h.chainId.getD hw
  unfold signingPreImage
  rw [he]
  show (encodeValues (tx.preImageValues e)).map (e.typePrefix ++ ·) = _
  rw [encodeValues_eq_ok hitem]
  rfl

/-! ## The pre-image tells the content -/

/-- The item of a field tells what stands for the field. -/
theorem wireValue_eq_of_toItem_eq {a b : Transaction} (ha : a.Valid) (hb : b.Valid) {f : Field}
    (hf : f ≠ .ty) (h : (a.wireValue f).toItem = (b.wireValue f).toItem) :
    a.wireValue f = b.wireValue f := by
  have integer : ∀ {m n : Option Int}, NonNegative m → NonNegative n →
      (WireValue.integer (m.getD 0)).toItem = (WireValue.integer (n.getD 0)).toItem →
      WireValue.integer (m.getD 0) = .integer (n.getD 0) :=
    fun hm hn h => congrArg WireValue.integer (getD_eq_of_toItem_eq hm hn h)
  cases f with
  | ty => exact absurd rfl hf
  | sender | recipient | data => exact congrArg WireValue.bytes (Item.bytes.inj h)
  | accessList =>
    have hmap := Item.list.inj h
    rw [List.map_inj_right fun _ _ => AccessTuple.toItem_injective] at hmap
    exact congrArg WireValue.accessList hmap
  | nonce => exact integer ha.nonce hb.nonce h
  | gasLimit => exact integer ha.gasLimit hb.gasLimit h
  | gasPrice => exact integer ha.gasPrice hb.gasPrice h
  | maxPriorityFeePerGas => exact integer ha.maxPriorityFeePerGas hb.maxPriorityFeePerGas h
  | maxFeePerGas => exact integer ha.maxFeePerGas hb.maxFeePerGas h
  | value => exact integer ha.value hb.value h
  | chainId => exact integer ha.chainId hb.chainId h
  | v => exact integer ha.v hb.v h
  | r => exact integer ha.r.nonNegative hb.r.nonNegative h
  | s => exact integer ha.s.nonNegative hb.s.nonNegative h

/-- What is added for a chain is found again in its items. -/
theorem replayValues_eq_of_items_eq {e : Envelope} {m n : Option Int} (hm : NonNegative m)
    (hn : NonNegative n)
    (h : (replayValues e (m.getD 0)).map WireValue.toItem =
      (replayValues e (n.getD 0)).map WireValue.toItem) :
    replayValues e (m.getD 0) = replayValues e (n.getD 0) := by
  unfold replayValues at h ⊢
  by_cases hpm : e = .legacy ∧ m.getD 0 ≠ 0
  · by_cases hpn : e = .legacy ∧ n.getD 0 ≠ 0
    · rw [if_pos hpm, if_pos hpn] at h
      rw [if_pos hpm, if_pos hpn, getD_eq_of_toItem_eq hm hn (List.cons.inj h).1]
    · rw [if_pos hpm, if_neg hpn] at h
      cases h
  · by_cases hpn : e = .legacy ∧ n.getD 0 ≠ 0
    · rw [if_neg hpm, if_pos hpn] at h
      cases h
    · rw [if_neg hpm, if_neg hpn]

theorem preImageValues_eq_of_items_eq {a b : Transaction} {e : Envelope} (ha : a.Valid)
    (hb : b.Valid) (h : a.preImageItems e = b.preImageItems e) :
    a.preImageValues e = b.preImageValues e := by
  unfold preImageItems preImageValues at h
  rw [List.map_append, List.map_append, List.map_map, List.map_map] at h
  obtain ⟨hfields, hreplay⟩ := List.append_inj h (by simp)
  have hvalues : e.signedFields.map a.wireValue = e.signedFields.map b.wireValue := by
    refine List.map_inj_left.mpr fun f hf => ?_
    exact wireValue_eq_of_toItem_eq ha hb (ne_ty_of_mem_fields (List.mem_append_left _ hf))
      (List.map_inj_left.mp hfields f hf)
  unfold preImageValues
  rw [hvalues, replayValues_eq_of_items_eq ha.chainId hb.chainId hreplay]

/-- **The pre-image commits to exactly the signed content.**  Two valid
transactions have pre-images, and these are equal exactly if the transactions are
of the same envelope and agree on every field of it.  For a legacy transaction no
chain id and the chain id zero are the same.  From `payloadCeiling` bytes on no
prefix tells a length, so up to there equal pre-images tell the content. -/
theorem signingPreImage_eq_iff (a b : Transaction) (ha : a.Valid) (hb : b.Valid) :
    ∃ e f p q, a.envelope? = some e ∧ b.envelope? = some f ∧
      a.signingPreImage = .ok p ∧ b.signingPreImage = .ok q ∧
      (e = f ∧ SameContent e a b → p = q) ∧
      (p.length < payloadCeiling → (p = q ↔ e = f ∧ SameContent e a b)) := by
  obtain ⟨e, he⟩ := exists_envelope ha
  obtain ⟨f, hf⟩ := exists_envelope hb
  have hp := signingPreImage_of_valid ha he
  have hq := signingPreImage_of_valid hb hf
  have hsame : e = f ∧ SameContent e a b →
      e.typePrefix ++ encodeList (a.preImageItems e) =
        f.typePrefix ++ encodeList (b.preImageItems f) := by
    rintro ⟨rfl, h⟩
    rw [signingPreImage_congr he hf h, hq] at hp
    exact (Except.ok.inj hp).symm
  refine ⟨e, f, _, _, he, hf, hp, hq, hsame, fun hlen => ⟨fun heq => ?_, hsame⟩⟩
  have hfits : ∀ {g : Envelope} {xs : List Item},
      (g.typePrefix ++ encodeList xs).length < payloadCeiling → (Item.list xs).Fits := by
    intro g xs h
    rw [List.length_append] at h
    exact fits_of_length_lt (Nat.lt_of_le_of_lt (Nat.le_add_left ..) h)
  have hfa : (Item.list (a.preImageItems e)).Fits := hfits hlen
  have hfb : (Item.list (b.preImageItems f)).Fits := hfits (heq ▸ hlen)
  -- the type byte tells the envelope, and the same list stands behind it
  obtain rfl := Envelope.eq_of_append_eq hfa hfb heq
  have hitems : a.preImageItems e = b.preImageItems e :=
    encodeList_injective (depth_map_toItem_le _) (depth_map_toItem_le _) hfa hfb
      (List.append_cancel_left heq)
  exact ⟨rfl, preImageValues_eq_iff.mp (preImageValues_eq_of_items_eq ha hb hitems)⟩

/-- A legacy transaction for chain one does not share its pre-image with the one for
no chain, which that for chain zero does, whatever signature it carries. -/
theorem signingPreImage_eq_iff_replay :
    (∃ p q, signingPreImage { nonce := some 9 } = .ok p ∧
      signingPreImage { nonce := some 9, chainId := some 1 } = .ok q ∧ p ≠ q) ∧
    ∃ p, signingPreImage { nonce := some 9 } = .ok p ∧
      signingPreImage { nonce := some 9, chainId := some 0, v := some 27 } = .ok p := by
  have hnone : ofEntries [("nonce", .int 9)] = .ok { nonce := some 9 } := rfl
  have hone : ofEntries [("nonce", .int 9), ("chainId", .int 1)] =
      .ok { nonce := some 9, chainId := some 1 } := rfl
  have hzero : ofEntries [("nonce", .int 9), ("chainId", .int 0), ("v", .int 27)] =
      .ok { nonce := some 9, chainId := some 0, v := some 27 } := rfl
  constructor
  · obtain ⟨e, f, p, q, he, -, hp, hq, -, hiff⟩ :=
      signingPreImage_eq_iff _ _ (valid_of_ofEntries hnone) (valid_of_ofEntries hone)
    have hlen : p.length < payloadCeiling := by
      obtain rfl : [0xC6, 0x09, 0x80, 0x80, 0x80, 0x80, 0x80] = p := Except.ok.inj hp
      decide
    refine ⟨p, q, hp, hq, fun heq => ?_⟩
    exact absurd ((hiff hlen).mp heq).2.chainId (by decide)
  · obtain ⟨e, f, p, q, he, hf, hp, hq, hsame, -⟩ :=
      signingPreImage_eq_iff _ _ (valid_of_ofEntries hnone) (valid_of_ofEntries hzero)
    obtain rfl : Envelope.legacy = e := Option.some.inj he
    obtain rfl : Envelope.legacy = f := Option.some.inj hf
    have heq : p = q := hsame ⟨rfl, by constructor <;> simp⟩
    exact ⟨p, hp, heq ▸ hq⟩

end Transaction
end Signet
