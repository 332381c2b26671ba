import Signet.Proofs.Datum.HexText
import Signet.Proofs.Signing.Verification
import Signet.Proofs.Text.Digits

/-! # The forms of a signature

A signature goes from its signer to a verifier as a value, as 65 bytes or as their
hexadecimal text (`Signature.Form`), and with 27 in front of its recovery id or without.
The two scalars have a fixed width in the bytes, so that both are read back whatever they
start with (`ofBytes_byteForm`), and every form is looked at as the same signature
(`signatureOf_of_form`).  A `v` tells its recovery id both ways (`recoverLoose_of_carries`).

So what is signed is recovered, and verified, in every form (`travels_of_sign`).
-/

namespace Signet

/-! ## Byte strings as digests -/

/-- What has 32 bytes for parts is the digest with these bytes. -/
theorem Hash.ofDigest_of_toBytes {d : Datum} {h : Hash} (hint : d.asInt? = none)
    (hsize : d.size = .ok h.bytes.length) (hbytes : d.toBytes = .ok h.bytes) :
    Hash.ofDigest d = .ok h := by
  rw [Hash.ofDigest, hsize, h.length_bytes, ok_bind, if_neg (by decide)]
  exact FixedBytes.ofDatum_of_toBytes true hint hbytes

theorem Hash.ofDigest_of_asByteString? {d : Datum} {h : Hash}
    (hd : d.asByteString? = some h.bytes) : Hash.ofDigest d = .ok h := by
  obtain ⟨hint, hsize, -, hbytes⟩ := Datum.of_asByteString? hd
  exact ofDigest_of_toBytes hint hsize hbytes

/-! ## The byte form -/

/-- What stands between two byte strings is found by the lengths. -/
theorem Bytes.slice_append {a b c : Bytes} {m n : Nat} (ha : a.length = m)
    (hb : m + b.length = n) : (a ++ b ++ c).slice m n = b := by
  have hlength : n - m = b.length := by omega
  rw [slice, hlength, List.append_assoc, ← ha, List.drop_left, List.take_left]

theorem Bytes.toNat_singleton (x : UInt8) : toNat [x] = x.toNat := by
  rw [toNat_cons, toNat_nil, List.length_nil, ceiling_zero, Nat.mul_one, Nat.add_zero]

namespace Signature

variable {sig : Signature}

theorem ext {a b : Signature} (hv : a.v = b.v) (hr : a.r = b.r) (hs : a.s = b.s) : a = b := by
  cases a
  cases b
  cases hv
  cases hr
  cases hs
  rfl

/-- Three integers that are components make a signature. -/
theorem ofInts_eq_ok {v r s : Int} {v' r' s' : Nat} (hv : component v = .ok v')
    (hr : component r = .ok r') (hs : component s = .ok s') :
    ofInts v r s = .ok ⟨v', r', s', component_lt hv, component_lt hr, component_lt hs⟩ := by
  unfold ofInts
  split
  next v₁ r₁ s₁ hv₁ hr₁ hs₁ =>
    obtain rfl := Except.ok.inj (hv.symm.trans hv₁)
    obtain rfl := Except.ok.inj (hr.symm.trans hr₁)
    obtain rfl := Except.ok.inj (hs.symm.trans hs₁)
    rfl
  next hv₁ => cases hv.symm.trans hv₁
  next hr₁ _ => cases hr.symm.trans hr₁
  next hs₁ _ _ => cases hs.symm.trans hs₁

theorem ofInts_natCast (sig : Signature) : ofInts sig.v sig.r sig.s = .ok sig :=
  ofInts_eq_ok (component_eq_ok_iff.mpr ⟨rfl, sig.v_lt⟩) (component_eq_ok_iff.mpr ⟨rfl, sig.r_lt⟩)
    (component_eq_ok_iff.mpr ⟨rfl, sig.s_lt⟩)

/-- Both scalars in 32 bytes, and one byte for `v`. -/
def byteForm (sig : Signature) : Bytes :=
  Bytes.ofNatFixed 32 sig.r ++ Bytes.ofNatFixed 32 sig.s ++ [UInt8.ofNat sig.v]

theorem length_byteForm (sig : Signature) : sig.byteForm.length = byteLength := by
  rw [byteForm, List.length_append, List.length_append, Bytes.length_ofNatFixed,
    Bytes.length_ofNatFixed]
  rfl

theorem toBytes_eq_byteForm (hv : sig.v ≤ 0xFF) : sig.toBytes = .ok sig.byteForm := by
  rw [toBytes, if_neg (by omega)]
  rfl

/-- A signature whose components are looked at one by one has the same bytes. -/
theorem toBytes_ofSignature (hv : sig.v ≤ 0xFF) :
    (LooseSignature.ofSignature sig).toBytes = .ok sig.byteForm := by
  have hnarrow : ¬ (0xFF : Int) < sig.v := by omega
  have habove : (Datum.hexNumber sig.v).isAbove 0xFF = .ok false :=
    congrArg Except.ok (decide_eq_false hnarrow)
  have hlast : Datum.bytesOfItems [.hexNumber sig.v] = .ok [UInt8.ofNat sig.v] := by
    rw [Datum.bytesOfItems]
    exact if_pos ⟨Int.natCast_nonneg _, by omega⟩
  simp only [LooseSignature.toBytes, LooseSignature.ofSignature, habove, ok_bind,
    Bool.false_eq_true, if_false, Datum.index?, Datum.asInt?,
    Curve.scalarOfInt_natCast sig.r_lt, Curve.scalarOfInt_natCast sig.s_lt, hlast]
  rfl

theorem toNat_ofNatFixed_of_lt {n : Nat} (h : n < uint256Ceiling) :
    (Bytes.ofNatFixed 32 n).toNat = n := by
  rw [Bytes.toNat_ofNatFixed]
  exact Nat.mod_eq_of_lt h

/-- **The bytes are read back**, whatever bytes the scalars start with. -/
theorem ofBytes_byteForm (hv : sig.v ≤ 0xFF) : ofBytes sig.byteForm = .ok sig := by
  -- the width of the parts is fixed, so each is found whatever the others hold
  have hr : sig.byteForm.slice 0 32 = Bytes.ofNatFixed 32 sig.r := by
    have hsplit : sig.byteForm = [] ++ Bytes.ofNatFixed 32 sig.r ++
        (Bytes.ofNatFixed 32 sig.s ++ [UInt8.ofNat sig.v]) := by
      rw [byteForm, List.nil_append, List.append_assoc]
    rw [hsplit]
    exact Bytes.slice_append rfl (by rw [Bytes.length_ofNatFixed])
  have hs : sig.byteForm.slice 32 64 = Bytes.ofNatFixed 32 sig.s :=
    Bytes.slice_append (Bytes.length_ofNatFixed ..) (by rw [Bytes.length_ofNatFixed])
  have hlast : sig.byteForm.slice 64 65 = [UInt8.ofNat sig.v] := by
    rw [← List.append_nil sig.byteForm, byteForm]
    refine Bytes.slice_append ?_ rfl
    rw [List.length_append, Bytes.length_ofNatFixed, Bytes.length_ofNatFixed]
  have hbyte : Bytes.toNat [UInt8.ofNat sig.v] = sig.v := by
    rw [Bytes.toNat_singleton]
    exact UInt8.toNat_ofNat_of_lt (show sig.v < 256 by omega)
  rw [ofBytes, if_pos sig.length_byteForm]
  refine congrArg Except.ok (ext ?_ ?_ ?_)
  · simp only [hlast, hbyte]
  · simp only [hr, toNat_ofNatFixed_of_lt sig.r_lt]
  · simp only [hs, toNat_ofNatFixed_of_lt sig.s_lt]

/-- **The text of the bytes is read back.** -/
theorem ofHexText_byteForm (hv : sig.v ≤ 0xFF) :
    ofHexText (Hex.ofBytes sig.byteForm) = .ok sig := by
  have hread : Hex.readBytes (Hex.ofBytes sig.byteForm).toList = .ok sig.byteForm := by
    rw [Hex.ofBytes, String.toList_ofList]
    exact Hex.readBytes_of_removePrefix rfl
  rw [ofHexText, hread, mapError_ok, ok_bind, ofBytes_byteForm hv, mapError_ok]

/-- A byte string of any kind with the bytes is read back. -/
theorem ofByteDatum_byteForm (hv : sig.v ≤ 0xFF) {d : Datum}
    (h : d.asByteString? = some sig.byteForm) : ofByteDatum d = .ok sig := by
  obtain ⟨-, hsize, -⟩ := Datum.of_asByteString? h
  simp only [ofByteDatum, hsize, sig.length_byteForm, h, ofBytes_byteForm hv]
  rfl

/-! ## The forms -/

/-- The same signature with `v` lowered by 27. -/
def lowered (sig : Signature) : Signature :=
  { sig with
    v := sig.v - legacyOffset
    v_lt := Nat.lt_of_le_of_lt (Nat.sub_le ..) sig.v_lt }

/-- The values that a signature is handed over as: itself, its bytes, as a byte string of
any kind, and their hexadecimal text. -/
inductive Form (sig : Signature) : Datum → Prop
  | value : Form sig (LooseSignature.ofSignature sig).toDatum
  | bytes {d : Datum} (h : d.asByteString? = some sig.byteForm) : Form sig d
  | text : Form sig (.text (Hex.ofBytes sig.byteForm))

end Signature

/-- **Every form is looked at as the same signature.** -/
theorem PrivateKey.signatureOf_of_form {sig : Signature} (hv : sig.v ≤ 0xFF) {form : Datum}
    (h : sig.Form form) : signatureOf form = .ok (.ofSignature sig) := by
  cases h with
  | value => rfl
  | bytes hd =>
    unfold signatureOf
    split
    · cases hd
    · cases hd
    · rw [hd]
      simp only [Signature.ofBytes_byteForm hv]
      rfl
  | text =>
    rw [signatureOf, Signature.ofHexText_byteForm hv]
    rfl

/-! ## Recovery from what was signed -/

/-- A signature of the curve with a `v` that tells its recovery id, with 27 in front of it
or without. -/
structure Signature.Carries (sig : Signature) (made : RecoverableSignature) : Prop where
  v : sig.v = made.recoveryId ∨ sig.v = legacyOffset + made.recoveryId
  r : sig.r = made.r
  s : sig.s = made.s

variable {C : Curve} {k : SecretKey} {digest : Hash} {made : RecoverableSignature}
  {sig : Signature}

/-- **Recovery leads to the signer**, whichever way `v` tells the recovery id. -/
theorem Curve.Lawful.recoverLoose_of_carries (hC : C.Lawful) (hsign : C.sign k digest = some made)
    (h : sig.Carries made) :
    C.recoverLoose (.ok digest) (.ofSignature sig) = .ok (C.address k) := by
  have hid : recoveryIdOfLegacyV sig.v = .ok made.recoveryId :=
    Transaction.recoveryIdOfLegacyV_eq_ok_iff.mpr ⟨(hC.inRange_of_sign hsign).recoveryId_le, h.v⟩
  have hkey := hC.recoverKey_of_sign hsign
  rw [← h.r, ← h.s] at hkey
  have hinteger : (Datum.hexNumber sig.v).toInteger = .ok (sig.v : Int) := rfl
  simp only [Curve.recoverLoose_eq, LooseSignature.ofSignature, hinteger, ok_bind, hid,
    LooseSignature.toWord_hexNumber sig.r_lt, LooseSignature.toWord_hexNumber sig.s_lt, hkey]
  rfl

/-- What is made of a signature of the curve: 27 stands in front of the recovery id. -/
def RecoverableSignature.InRange.signature (h : made.InRange) : Signature where
  v := legacyOffset + made.recoveryId
  r := made.r
  s := made.s
  v_lt := by
    have hid := h.recoveryId_le
    have hroom : legacyOffset + 1 < uint256Ceiling := by decide
    omega
  r_lt := h.r_lt_ceiling
  s_lt := h.s_lt_ceiling

namespace Curve.Lawful

/-- **Signing a digest** gives the signature of the curve, with 27 in front of its recovery
id. -/
theorem signHash_of_sign (hC : C.Lawful) (hsign : C.sign k digest = some made) :
    C.signHash k digest = .ok (hC.inRange_of_sign hsign).signature := by
  have hints := (hC.inRange_of_sign hsign).signature.ofInts_natCast
  have hv : ((made.recoveryId + legacyOffset : Nat) : Int) =
      (hC.inRange_of_sign hsign).signature.v :=
    congrArg Int.ofNat (Nat.add_comm ..)
  have hr : (made.r : Int) = (hC.inRange_of_sign hsign).signature.r := rfl
  have hs : (made.s : Int) = (hC.inRange_of_sign hsign).signature.s := rfl
  rw [signHash, signDigest_eq_ok_iff.mpr hsign, ok_bind, hv, hr, hs, hints, mapError_ok]

end Curve.Lawful

namespace Signature

/-- What holds of a signature that travels, as `recover` and `verify` look at it: it has 65
bytes, which are read back from every byte string and from their hexadecimal text; its
address is recovered; and every form of it is verified by the keys with that address, and
by no others. -/
structure Travels (recover : Datum → Except Error Address)
    (verify : PrivateKey → Datum → Except Failure Bool) (a : Address) (sig : Signature) : Prop where
  length : sig.byteForm.length = byteLength
  toBytes : sig.toBytes = .ok sig.byteForm ∧
    (LooseSignature.ofSignature sig).toBytes = .ok sig.byteForm
  ofBytes : ∀ d : Datum, d.asByteString? = some sig.byteForm → ofByteDatum d = .ok sig
  ofHexText : ofHexText (Hex.ofBytes sig.byteForm) = .ok sig
  recovers : recover (LooseSignature.ofSignature sig).toDatum = .ok a
  verifies : ∀ form, sig.Form form → ∀ key : PrivateKey, key.address = a →
    verify key form = .ok true
  refuses : ∀ form, sig.Form form → ∀ key : PrivateKey, key.address ≠ a →
    verify key form = .ok false

variable {recover : Datum → Except Error Address}
  {verify : PrivateKey → Datum → Except Failure Bool} {a : Address}

/-- A signature with a short `v` travels as far as its recovery goes. -/
theorem travels_of_recoverLoose (hv : sig.v ≤ 0xFF)
    (h : C.recoverLoose (.ok digest) (.ofSignature sig) = .ok a)
    (hrecover : ∀ sig : LooseSignature, recover sig.toDatum = C.recoverLoose (.ok digest) sig)
    (hverify : ∀ key form, verify key form =
      key.verdict PrivateKey.isRejection (PrivateKey.recovered C (.ok digest) form)) :
    sig.Travels recover verify a := by
  have hverdict {form : Datum} (hform : sig.Form form) (key : PrivateKey) :
      verify key form = .ok (a == key.address) := by
    have hrecovered : PrivateKey.recovered C (.ok digest) form = .ok a :=
      (PrivateKey.recovered_eq_ok_iff C).mpr ⟨_, PrivateKey.signatureOf_of_form hv hform, h⟩
    rw [hverify, hrecovered]
    rfl
  exact {
    length := sig.length_byteForm
    toBytes := ⟨toBytes_eq_byteForm hv, toBytes_ofSignature hv⟩
    ofBytes := fun d hd => ofByteDatum_byteForm hv hd
    ofHexText := ofHexText_byteForm hv
    recovers := (hrecover _).trans h
    verifies := by
      intro form hform key hkey
      rw [hverdict hform, hkey, beq_self_eq_true]
    refuses := by
      intro form hform key hkey
      rw [hverdict hform, beq_eq_false_iff_ne.mpr hkey.symm] }

/-- What is made of a signature of the curve travels, as it is and with a lower `v`. -/
theorem travels_signature (hC : C.Lawful) (hsign : C.sign k digest = some made)
    (hrecover : ∀ sig : LooseSignature, recover sig.toDatum = C.recoverLoose (.ok digest) sig)
    (hverify : ∀ key form, verify key form =
      key.verdict PrivateKey.isRejection (PrivateKey.recovered C (.ok digest) form)) :
    (hC.inRange_of_sign hsign).signature.Travels recover verify (C.address k) ∧
      (hC.inRange_of_sign hsign).signature.lowered.Travels recover verify (C.address k) := by
  have hid := (hC.inRange_of_sign hsign).recoveryId_le
  have hoffset : legacyOffset = 27 := rfl
  have hcarries : (hC.inRange_of_sign hsign).signature.Carries made := ⟨Or.inr rfl, rfl, rfl⟩
  have hlowered : (hC.inRange_of_sign hsign).signature.lowered.Carries made :=
    ⟨Or.inl (Nat.add_sub_cancel_left ..), rfl, rfl⟩
  have hv : (hC.inRange_of_sign hsign).signature.v = legacyOffset + made.recoveryId := rfl
  have hlower : (hC.inRange_of_sign hsign).signature.lowered.v = made.recoveryId :=
    Nat.add_sub_cancel_left ..
  exact ⟨travels_of_recoverLoose (by omega) (hC.recoverLoose_of_carries hsign hcarries) hrecover
      hverify,
    travels_of_recoverLoose (by omega) (hC.recoverLoose_of_carries hsign hlowered) hrecover hverify⟩

/-- **Signatures hold in every form they travel in.**  Every key signs every byte string of
32 bytes as a digest, and every byte string as a message.  The signature, with the `v` that
signing writes and with the one that is lower by 27, travels: as a value, as bytes and as
text it leads to the address of the key, so that verification says yes for a key with that
address and no for every other. -/
theorem travels_of_sign (hC : C.Lawful) {secret : Datum} (hk : SecretKey.ofDatum secret = .ok k) :
    (∀ (d : Datum) (digest : Hash), d.asByteString? = some digest.bytes →
      ∃ sig, C.signHashOf secret d = .ok sig ∧ sig.lowered.v + legacyOffset = sig.v ∧
        sig.Travels (C.recoverHashOf d) (PrivateKey.verifyHash C · d) (C.address k) ∧
        sig.lowered.Travels (C.recoverHashOf d) (PrivateKey.verifyHash C · d) (C.address k)) ∧
    (∀ (d : Datum) (b : Bytes), d.asByteString? = some b →
      ∃ sig, C.signMessageOf secret d = .ok sig ∧ sig.lowered.v + legacyOffset = sig.v ∧
        sig.Travels (C.recoverMessageOf d) (PrivateKey.verifyMessage C · d) (C.address k) ∧
        sig.lowered.Travels (C.recoverMessageOf d) (PrivateKey.verifyMessage C · d)
          (C.address k)) := by
  have hlower {made : RecoverableSignature} (h : made.InRange) :
      h.signature.lowered.v + legacyOffset = h.signature.v := by
    show legacyOffset + made.recoveryId - legacyOffset + legacyOffset =
      legacyOffset + made.recoveryId
    omega
  constructor
  · intro d digest hd
    have hdigest := Hash.ofDigest_of_asByteString? hd
    obtain ⟨made, hsign, -⟩ := hC.sign k digest
    have hsigned : C.signHashOf secret d = .ok (hC.inRange_of_sign hsign).signature := by
      rw [Curve.signHashOf, hdigest, ok_bind, hk, ok_bind, hC.signHash_of_sign hsign]
    have hrecover (sig : LooseSignature) :
        C.recoverHashOf d sig.toDatum = C.recoverLoose (.ok digest) sig := by
      rw [Curve.recoverHashOf, hdigest]
      rfl
    have hverify (key : PrivateKey) (form : Datum) : key.verifyHash C d form =
        key.verdict PrivateKey.isRejection (PrivateKey.recovered C (.ok digest) form) := by
      rw [PrivateKey.verifyHash_eq, hdigest]
    exact ⟨_, hsigned, hlower _, travels_signature hC hsign hrecover hverify⟩
  · intro d b hd
    obtain ⟨-, -, hraw, -⟩ := Datum.of_asByteString? hd
    obtain ⟨made, hsign, -⟩ := hC.sign k (PersonalMessage.digest b)
    have hsigned : C.signMessageOf secret d = .ok (hC.inRange_of_sign hsign).signature := by
      rw [Curve.signMessageOf, hraw, ok_bind, hk, ok_bind, hC.signHash_of_sign hsign]
    have hrecover (sig : LooseSignature) : C.recoverMessageOf d sig.toDatum =
        C.recoverLoose (.ok (PersonalMessage.digest b)) sig := by
      rw [Curve.recoverMessageOf, hraw]
      rfl
    exact ⟨_, hsigned, hlower _, travels_signature hC hsign hrecover fun key form =>
      PrivateKey.verifyMessage_of_ok C key hraw⟩

/-- A digest of which `SecretKey.ofOnes` makes a signature with two short scalars. -/
def shortDigest : Bytes :=
  Bytes.zeros 30 ++ [0xB4, 0x46]

/-- The signature of `SecretKey.ofOnes` over `shortDigest`: both scalars start with a zero
byte. -/
def shortSignature : RecoverableSignature where
  r := 0x004b217a359bbe72df466981b582482c95133e764c963a0aeffcbdcf02e769c7
  s := 0x00d15974398f36cfa34e06565e8197b746af1a08fd134aa8372ef654feddd99c
  recoveryId := 1

/-- A signature with short scalars verifies as the text of its bytes: over a digest that is
a mutable byte string, by its own key, and by no key with another address. -/
theorem travels_of_sign_shortSignature :
    ∃ sig, (Curve.ofRecord .ofOnes shortSignature).signHashOf
        (.bytes SecretKey.ofOnes.bytes.bytes) (.buffer shortDigest) = .ok sig ∧
      sig.byteForm = 0 :: Bytes.ofNatFixed 31 shortSignature.r ++
        0 :: Bytes.ofNatFixed 31 shortSignature.s ++ [28] ∧
      sig.lowered.byteForm = 0 :: Bytes.ofNatFixed 31 shortSignature.r ++
        0 :: Bytes.ofNatFixed 31 shortSignature.s ++ [1] ∧
      (PrivateKey.ofSecret (.ofRecord .ofOnes shortSignature) .ofOnes).verifyHash
        (.ofRecord .ofOnes shortSignature) (.buffer shortDigest)
        (.text (Hex.ofBytes sig.lowered.byteForm)) = .ok true ∧
      ∀ key : PrivateKey, key.address ≠ Curve.address (.ofRecord .ofOnes shortSignature) .ofOnes →
        key.verifyHash (.ofRecord .ofOnes shortSignature) (.buffer shortDigest)
          (.bytes sig.byteForm) = .ok false := by
  have hrange : shortSignature.InRange := by
    constructor <;> decide
  have hpoint : Secp256k1.eulerTest shortSignature.r = 1 := by
    decide +kernel
  have hC : (Curve.ofRecord .ofOnes shortSignature).Lawful := Curve.lawful_ofRecord hrange hpoint
  have hk : SecretKey.ofDatum (.bytes SecretKey.ofOnes.bytes.bytes) = .ok .ofOnes := by
    decide +kernel
  obtain ⟨hhash, -⟩ := travels_of_sign hC hk
  obtain ⟨sig, hsigned, -, htravels, hlowered⟩ :=
    hhash (.buffer shortDigest) ⟨shortDigest, rfl⟩ rfl
  have hforms : ((Curve.ofRecord .ofOnes shortSignature).signHashOf
      (.bytes SecretKey.ofOnes.bytes.bytes) (.buffer shortDigest)).map
        (fun sig => (sig.byteForm, sig.lowered.byteForm)) =
      .ok (0 :: Bytes.ofNatFixed 31 shortSignature.r ++
          0 :: Bytes.ofNatFixed 31 shortSignature.s ++ [28],
        0 :: Bytes.ofNatFixed 31 shortSignature.r ++
          0 :: Bytes.ofNatFixed 31 shortSignature.s ++ [1]) := by
    decide +kernel
  rw [hsigned] at hforms
  obtain ⟨hform, hlower⟩ := Prod.mk.inj (Except.ok.inj hforms)
  exact ⟨sig, hsigned, hform, hlower, hlowered.verifies _ .text _ rfl,
    htravels.refuses _ (.bytes rfl)⟩

end Signature
end Signet
