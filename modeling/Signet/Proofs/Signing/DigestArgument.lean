import Signet.Proofs.Datum.SpacedText
import Signet.Proofs.Signing.Forms

/-! # What an argument is as a digest

An argument for a digest must have 32 parts.  The parts of a byte string or of a list of
bytes are its bytes (`Datum.size_of_toBytes`), so that 32 bytes are taken as they are, and
fewer or more are refused for their number.  The parts of a text are its characters, though
it is read as hexadecimal after that.  A text of 32 characters has no more than 16 bytes to
read (`Hex.length_le_of_readSpacedBytes`): whenever a text is taken it is filled up with
zeros, and no text that writes 32 bytes is ever taken.  `DigestOf` lists what can become of
an argument, and `digest_of_argument` says that signing and recovering abide by it.
-/

namespace Signet

/-! ## Lengths -/

namespace Hex

open Text

theorem length_removePrefix_le (s : List Char) : (removePrefix s).length ≤ s.length := by
  unfold removePrefix
  split <;> simp
  · omega
  · omega

/-- **Every byte takes two characters**, but for the lone zero. -/
theorem length_le_of_readBytes {s : List Char} {b : Bytes} (h : readBytes s = .ok b) :
    2 * b.length ≤ s.length + 1 := by
  have hprefix := length_removePrefix_le s
  rcases readBytes_eq_ok_iff.mp h with ⟨hzero, rfl⟩ | ⟨-, -, hpairs⟩
  · rw [hzero, List.length_singleton] at hprefix
    rw [List.length_singleton]
    omega
  · have hdigits := (removeBlanks_of_readPairs? hpairs).2.1
    have hdropped : (removeBlanks (removePrefix s)).length ≤ (removePrefix s).length :=
      List.length_filter_le ..
    omega

theorem length_le_of_readSpacedBytes {s : List Char} {b : Bytes} (h : readSpacedBytes s = .ok b) :
    2 * b.length ≤ s.length + 1 :=
  Nat.le_trans (length_le_of_readBytes h) (Nat.succ_le_succ (List.length_filter_le ..))

end Hex

namespace Datum

/-- Whether a value is a text. -/
def isText : Datum → Bool
  | .text _ => true
  | _ => false

variable {d : Datum} {b : Bytes}

theorem length_of_bytesOfItems {items : List Datum} (h : bytesOfItems items = .ok b) :
    b.length = items.length := by
  induction items generalizing b with
  | nil =>
    cases h
    rfl
  | cons x r ih =>
    rw [bytesOfItems] at h
    split at h
    · cases h
    split at h
    · obtain ⟨c, hc, h⟩ := bind_eq_ok_iff.mp h
      cases h
      rw [List.length_cons, List.length_cons, ih hc]
    · cases h

/-- The parts of a value that is no text are its bytes. -/
theorem size_of_toBytes (hd : d.isText = false) (h : d.toBytes = .ok b) :
    d.asInt? = none ∧ d.size = .ok b.length := by
  cases d with
  | text s => cases hd
  | list items => exact ⟨rfl, congrArg Except.ok (length_of_bytesOfItems h).symm⟩
  | bytes c | buffer c | hexBytes c | keystoreHex c | address c | hash c | keystoreAddress c =>
    cases h
    exact ⟨rfl, rfl⟩
  | _ => cases h

end Datum

/-! ## Digests -/

/-- What becomes of an argument for a digest. -/
inductive DigestOf : Datum → Except Error Hash → Prop
  /-- 32 bytes are the digest as they are -/
  | bytes {d : Datum} {h : Hash} (hd : d.isText = false) (hb : d.toBytes = .ok h.bytes) :
      DigestOf d (.ok h)
  /-- fewer bytes, or more, are refused for their number -/
  | wrongLength {d : Datum} {b : Bytes} (hd : d.isText = false) (hb : d.toBytes = .ok b)
      (hlength : b.length ≠ 32) : DigestOf d (.error (.length (.digest b.length)))
  /-- what has no bytes is refused -/
  | noBytes {d : Datum} {e e' : Error} (hd : d.isText = false) (hb : d.toBytes = .error e) :
      DigestOf d (.error e')
  /-- a text is refused for the number of its characters -/
  | textLength {s : String} (hs : s.length ≠ 32) :
      DigestOf (.text s) (.error (.length (.digest s.length)))
  /-- a text without bytes is refused as such -/
  | textNoBytes {s : String} {e : Error} (hs : s.length = 32)
      (hb : (Datum.text s).toBytes = .error e) : DigestOf (.text s) (.error e)
  /-- the bytes of a text, 16 at most, are filled up with zeros in front -/
  | padded {s : String} {b : Bytes} {h : Hash} (hs : s.length = 32)
      (hb : (Datum.text s).toBytes = .ok b) (hshort : b.length ≤ 16)
      (hh : h.bytes = Bytes.zeros (32 - b.length) ++ b) : DigestOf (.text s) (.ok h)

theorem length_le_of_toBytes_text {s : String} {b : Bytes}
    (h : (Datum.text s).toBytes = .ok b) : 2 * b.length ≤ s.length + 1 := by
  rw [Datum.toBytes, mapError_eq_ok_iff] at h
  have := Hex.length_le_of_readSpacedBytes h
  rwa [String.length_toList] at this

theorem digestOf_text (s : String) : DigestOf (.text s) (Hash.ofDigest (.text s)) := by
  have hsize : (Datum.text s).size = .ok s.length := rfl
  rw [Hash.ofDigest, hsize, ok_bind]
  by_cases hs : s.length = 32
  · rw [if_neg (not_not_intro hs)]
    cases hb : (Datum.text s).toBytes with
    | error e =>
      rw [Hash.ofDatum, FixedBytes.ofDatum_eq true rfl, hb, error_bind]
      exact .textNoBytes hs hb
    | ok b =>
      have hlength := length_le_of_toBytes_text hb
      rw [Hash.ofDatum, FixedBytes.ofDatum_eq true rfl, hb, ok_bind,
        FixedBytes.ofBytes_of_length_lt (by omega), mapError_ok]
      exact .padded hs hb (by omega) rfl
  · rw [if_pos hs]
    exact .textLength hs

/-- An integer has no parts. -/
theorem Datum.size_of_asInt? {d : Datum} {i : Int} (h : d.asInt? = some i) :
    d.size = .error (.kind .other) := by
  cases d with
  | bool | int | number | hexNumber => rfl
  | _ => cases h

/-- What has no bytes makes no digest, whatever it has for parts. -/
theorem Hash.ofDigest_of_toBytes_error {d : Datum} {e : Error} (h : d.toBytes = .error e) :
    ∃ e', ofDigest d = .error e' := by
  rw [ofDigest]
  cases hsize : d.size with
  | error e' => exact ⟨e', rfl⟩
  | ok n =>
    rw [ok_bind]
    by_cases hn : n = 32
    · rw [if_neg (not_not_intro hn)]
      cases hint : d.asInt? with
      | some i => cases (Datum.size_of_asInt? hint).symm.trans hsize
      | none =>
        -- 32 parts but no bytes: a tuple, a dictionary, a list with something else in it
        refine ⟨e, ?_⟩
        rw [ofDatum, FixedBytes.ofDatum_eq true hint, h, error_bind]
    · rw [if_pos hn]
      exact ⟨_, rfl⟩

theorem digestOf_of_not_text {d : Datum} (hd : d.isText = false) : DigestOf d (Hash.ofDigest d) := by
  cases hb : d.toBytes with
  | ok b =>
    obtain ⟨hint, hsize⟩ := Datum.size_of_toBytes hd hb
    by_cases hlength : b.length = 32
    · have hdigest : Hash.ofDigest d = .ok ⟨b, hlength⟩ :=
        Hash.ofDigest_of_toBytes hint hsize hb
      rw [hdigest]
      exact .bytes hd hb
    · rw [Hash.ofDigest, hsize, ok_bind, if_pos hlength]
      exact .wrongLength hd hb hlength
  | error e =>
    obtain ⟨e', h⟩ := Hash.ofDigest_of_toBytes_error hb
    rw [h]
    exact .noBytes hd hb

/-- **Reading an argument as a digest ends as `DigestOf` says.** -/
theorem digestOf_ofDigest (d : Datum) : DigestOf d (Hash.ofDigest d) := by
  by_cases hd : d.isText = false
  · exact digestOf_of_not_text hd
  · cases d with
    | text s => exact digestOf_text s
    | _ => exact absurd rfl hd

/-- A text that writes 32 bytes is refused for the number of its characters. -/
theorem Hash.ofDigest_of_text {s : String} {b : Bytes} (h : (Datum.text s).toBytes = .ok b)
    (hb : b.length = 32) : ofDigest (.text s) = .error (.length (.digest s.length)) := by
  have hlong := length_le_of_toBytes_text h
  have hsize : (Datum.text s).size = .ok s.length := rfl
  rw [ofDigest, hsize, ok_bind, if_pos (by omega)]
  rfl

/-! ## Signing and recovering -/

namespace Curve

variable (C : Curve)

/-- Signing and recovering take `h` for what the argument `d` says. -/
structure WorksOn (d : Datum) (h : Hash) : Prop where
  sign : ∀ secret, C.signHashOf secret d = do C.signHash (← SecretKey.ofDatum secret) h
  recover : ∀ signature, C.recoverHashOf d signature = do
    C.recoverLoose (.ok h) (← LooseSignature.ofDatum signature)

/-- Signing refuses the argument `d`, and so does recovering, as soon as it has found a
recovery id in the signature. -/
structure Refuses (d : Datum) (e : Error) : Prop where
  sign : ∀ secret, C.signHashOf secret d = .error e
  recover : ∀ signature, ∃ e', C.recoverHashOf d signature = .error e' ∧
    ∀ sig v id, LooseSignature.ofDatum signature = .ok sig → sig.v.toInteger = .ok v →
      recoveryIdOfLegacyV v = .ok id → e' = e

/-- What signing and recovering do with an argument by the outcome of reading it. -/
def Treats (d : Datum) : Except Error Hash → Prop
  | .ok h => C.WorksOn d h
  | .error e => C.Refuses d e

variable {C}

/-- No address is recovered from what is no digest. -/
theorem recoverLoose_error (e : Error) (sig : LooseSignature) :
    ∃ e', C.recoverLoose (.error e) sig = .error e' ∧
      ∀ v id, sig.v.toInteger = .ok v → recoveryIdOfLegacyV v = .ok id → e' = e := by
  rw [recoverLoose]
  cases hv : sig.v.toInteger with
  | error e' =>
    refine ⟨e', rfl, ?_⟩
    intro v id h
    cases h
  | ok v =>
    rw [ok_bind]
    cases hid : recoveryIdOfLegacyV v with
    | error e' =>
      refine ⟨e', rfl, ?_⟩
      intro v' id h h'
      obtain rfl := Except.ok.inj h
      cases hid.symm.trans h'
    | ok id => exact ⟨e, rfl, fun v id _ _ => rfl⟩

theorem refuses_of_error {d : Datum} {e : Error} (h : Hash.ofDigest d = .error e) :
    C.Refuses d e where
  sign := by
    intro secret
    rw [signHashOf, h, error_bind]
  recover := by
    intro signature
    rw [recoverHashOf, h]
    cases hsig : LooseSignature.ofDatum signature with
    | error e' =>
      refine ⟨e', rfl, ?_⟩
      intro sig v id h
      cases h
    | ok sig =>
      obtain ⟨e', he, hsame⟩ := recoverLoose_error (C := C) e sig
      refine ⟨e', he, ?_⟩
      intro sig' v id h hv hid
      obtain rfl := Except.ok.inj h
      exact hsame v id hv hid

theorem treats_ofDigest (d : Datum) : C.Treats d (Hash.ofDigest d) := by
  cases h : Hash.ofDigest d with
  | error e => exact refuses_of_error h
  | ok digest =>
    exact {
      sign := by
        intro secret
        rw [signHashOf, h, ok_bind]
      recover := by
        intro signature
        rw [recoverHashOf, h] }

end Curve

/-- **A digest is what an argument denotes, but for text.**  Signing and recovering work on
the 32 bytes of an argument that is no text, and refuse it if it has fewer or more.  A text
they take is one of 32 characters, whose 16 bytes at most are filled up with zeros, and the
texts of 32 bytes are refused, all of them, for the number of their characters. -/
theorem digest_of_argument (C : Curve) (d : Datum) :
    (∃ outcome, DigestOf d outcome ∧ C.Treats d outcome) ∧
    ∀ s b, d = .text s → d.toBytes = .ok b → b.length = 32 →
      C.Refuses d (.length (.digest s.length)) := by
  refine ⟨⟨_, digestOf_ofDigest d, Curve.treats_ofDigest d⟩, ?_⟩
  rintro s b rfl hb hlength
  exact Curve.refuses_of_error (Hash.ofDigest_of_text hb hlength)

/-- The signature of `SecretKey.ofOnes` over 16 twos behind 16 zeros. -/
def paddedSignature : RecoverableSignature where
  r := 0xa58c92b0da453fd57ef8080046b27ad8a5858518498c7b4630b53b28ce1ffb62
  s := 0x3c2102b16118101c3bfaea40ea4e564f9c49f9a8597e366385f4a9e585eefa0c
  recoveryId := 0

/-- The text of 16 bytes is signed, as the digest with 16 zeros in front of them, and the
text of 32 bytes is refused. -/
theorem digest_of_text_padded :
    (Datum.text "02020202020202020202020202020202").toBytes = .ok (List.replicate 16 2) ∧
    (∃ sig, (Curve.ofRecord .ofOnes paddedSignature).signHashOf
        (.bytes SecretKey.ofOnes.bytes.bytes)
        (.text "02020202020202020202020202020202") = .ok sig ∧
      (Curve.ofRecord .ofOnes paddedSignature).signHashOf
        (.bytes SecretKey.ofOnes.bytes.bytes)
        (.bytes (Bytes.zeros 16 ++ List.replicate 16 2)) = .ok sig) ∧
    (Datum.text (Hex.ofBytes (List.replicate 32 2))).toBytes = .ok (List.replicate 32 2) ∧
    (Curve.ofRecord .ofOnes paddedSignature).signHashOf
      (.bytes SecretKey.ofOnes.bytes.bytes)
      (.text (Hex.ofBytes (List.replicate 32 2))) = .error (.length (.digest 66)) := by
  have hbytes : (Datum.text "02020202020202020202020202020202").toBytes =
      .ok (List.replicate 16 2) := by
    decide +kernel
  have hdigest : Hash.ofDigest (.text "02020202020202020202020202020202") =
      Hash.ofDigest (.bytes (Bytes.zeros 16 ++ List.replicate 16 2)) := by
    decide +kernel
  have hv : ((Curve.ofRecord .ofOnes paddedSignature).signHashOf
      (.bytes SecretKey.ofOnes.bytes.bytes)
      (.text "02020202020202020202020202020202")).map (·.v) = .ok 27 := by
    decide +kernel
  obtain ⟨sig, hsig, -⟩ := map_eq_ok_iff.mp hv
  have hlong : (Datum.text (Hex.ofBytes (List.replicate 32 2))).toBytes =
      .ok (List.replicate 32 2) :=
    Datum.toBytes_ofBytes _
  refine ⟨hbytes, ⟨sig, hsig, ?_⟩, hlong, ?_⟩
  · rw [Curve.signHashOf, ← hdigest]
    exact hsig
  · exact (Curve.refuses_of_error (Hash.ofDigest_of_text hlong rfl)).sign _

end Signet
