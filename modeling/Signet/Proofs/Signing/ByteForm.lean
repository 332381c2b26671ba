import Signet.Proofs.Signing.Forms
import Signet.Proofs.Transaction.JsonForm

/-! # Signatures and strings of 65 bytes

Every string of 65 bytes is the byte form of a signature (`Signature.ofBytes_eq_ok_iff`): its
parts have 32, 32 and one byte, and a part is read as an integer that writes it again.  So the
checks of a signature, whose components have 256 bits, never refuse what was read
(`Signature.ofEntries_parts`).  Byte forms and the signatures whose `v` is one byte correspond
one to one (`Signature.byteForm_exact`).
-/

namespace Signet

namespace Bytes

variable {b : Bytes} {i j k : Nat}

/-- A byte string is written again from the integer that it writes, at its own size. -/
theorem ofNatFixed_toNat {size : Nat} (h : b.length = size) : ofNatFixed size b.toNat = b := by
  refine eq_of_toNat_eq (by rw [length_ofNatFixed, h]) ?_
  rw [toNat_ofNatFixed, ← h, Nat.mod_eq_of_lt (toNat_lt b)]

theorem length_slice (h : j ≤ b.length) : (b.slice i j).length = j - i := by
  rw [slice, List.length_take, List.length_drop]
  omega

/-- Neighbouring parts are one part. -/
theorem slice_append_slice (hij : i ≤ j) (hjk : j ≤ k) :
    b.slice i j ++ b.slice j k = b.slice i k := by
  have hlength : k - i = (j - i) + (k - j) := by omega
  have hplace : j = i + (j - i) := by omega
  rw [slice, slice, slice, hlength, List.take_add, List.drop_drop, ← hplace]

theorem slice_zero (h : b.length = k) : b.slice 0 k = b := by
  rw [slice, List.drop_zero, Nat.sub_zero, ← h, List.take_length]

end Bytes

namespace Signature

variable {sig : Signature} {b : Bytes} {d : Datum}

/-- The signature whose parts a byte string has is written as that byte string. -/
theorem byteForm_of_ofBytes (h : ofBytes b = .ok sig) : sig.v ≤ 0xFF ∧ sig.byteForm = b := by
  unfold ofBytes at h
  split at h
  next hlength =>
    have hsize : b.length = 65 := hlength
    have hr : (b.slice 0 32).length = 32 := Bytes.length_slice (by omega)
    have hs : (b.slice 32 64).length = 32 := Bytes.length_slice (by omega)
    have hv : (b.slice 64 65).length = 1 := Bytes.length_slice (by omega)
    obtain ⟨x, hx⟩ := List.length_eq_one_iff.mp hv
    have hbyte : (b.slice 64 65).toNat = x.toNat := by
      rw [hx, Bytes.toNat_singleton]
    have hlast : [UInt8.ofNat (b.slice 64 65).toNat] = b.slice 64 65 := by
      rw [hbyte, UInt8.ofNat_toNat, hx]
    cases h
    refine ⟨?_, ?_⟩
    · show (b.slice 64 65).toNat ≤ 0xFF
      have hlt := x.toNat_lt
      omega
    · show Bytes.ofNatFixed 32 (b.slice 0 32).toNat ++ Bytes.ofNatFixed 32 (b.slice 32 64).toNat ++
        [UInt8.ofNat (b.slice 64 65).toNat] = b
      rw [Bytes.ofNatFixed_toNat hr, Bytes.ofNatFixed_toNat hs, hlast,
        Bytes.slice_append_slice (by decide) (by decide),
        Bytes.slice_append_slice (by decide) (by decide), Bytes.slice_zero hsize]
  · cases h

/-- **A byte string is read as the signature that has it as its byte form**, if any. -/
theorem ofBytes_eq_ok_iff : ofBytes b = .ok sig ↔ sig.v ≤ 0xFF ∧ sig.byteForm = b := by
  constructor
  · exact byteForm_of_ofBytes
  · rintro ⟨hv, rfl⟩
    exact ofBytes_byteForm hv

theorem toBytes_eq_ok_iff : sig.toBytes = .ok b ↔ sig.v ≤ 0xFF ∧ sig.byteForm = b := by
  by_cases hv : sig.v ≤ 0xFF
  · rw [toBytes_eq_byteForm hv, Except.ok.injEq]
    exact (and_iff_right hv).symm
  · rw [toBytes, if_pos (by omega)]
    constructor
    · intro h
      cases h
    · rintro ⟨hbyte, -⟩
      exact absurd hbyte hv

theorem exists_of_length (h : b.length = byteLength) : ∃ sig, ofBytes b = .ok sig := by
  rw [ofBytes, if_pos h]
  exact ⟨_, rfl⟩

/-- A byte string of any kind is read by its bytes. -/
theorem ofByteDatum_of_asByteString? (hd : d.asByteString? = some b) :
    ofByteDatum d = (ofBytes b).mapError fun e => .error (.length e) := by
  obtain ⟨-, hsize, -, -⟩ := Datum.of_asByteString? hd
  have hread : ofByteDatum d =
      if b.length ≠ byteLength then .error (.error (.length (.signature b.length)))
      else (ofBytes b).mapError fun e => .error (.length e) := by
    simp only [ofByteDatum, hsize, hd]
    rfl
  rw [hread]
  by_cases hlength : b.length = byteLength
  · rw [if_neg (not_not_intro hlength)]
  · rw [if_pos hlength, ofBytes, if_neg hlength]
    rfl

/-- A signature whose `v` needs more than a byte has no byte form. -/
theorem toBytes_ofSignature_of_wide (hv : 0xFF < sig.v) :
    (LooseSignature.ofSignature sig).toBytes = .error (.component (.wideV sig.v)) := by
  have hwide : (0xFF : Int) < sig.v := by omega
  have habove : (Datum.hexNumber sig.v).isAbove 0xFF = .ok true :=
    congrArg Except.ok (decide_eq_true hwide)
  have hwritable : Numeral.isWritable sig.v = true := by
    refine Numeral.isWritable_of_lt_pow (k := 78) (by decide) ?_
    rw [Int.natAbs_natCast]
    exact Nat.lt_trans sig.v_lt (by decide)
  have hinteger : (Datum.hexNumber sig.v).toInteger = .ok (sig.v : Int) := rfl
  rw [LooseSignature.toBytes]
  simp only [LooseSignature.ofSignature, habove, ok_bind, if_true, hinteger]
  rw [Int.toNat_natCast, Error.writing, if_pos hwritable]
  rfl

/-- The parts of a byte string, by the names of the components that they are. -/
def parts (b : Bytes) : List (String × Datum) :=
  [("v", .int (b.slice 64 65).toNat), ("r", .int (b.slice 0 32).toNat),
    ("s", .int (b.slice 32 64).toNat)]

/-- **No part of a byte string is refused as a component.** -/
theorem ofEntries_parts (h : ofBytes b = .ok sig) : (ofEntries (parts b)).toExcept = .ok sig := by
  have hparts : sig.v = (b.slice 64 65).toNat ∧ sig.r = (b.slice 0 32).toNat ∧
      sig.s = (b.slice 32 64).toNat := by
    unfold ofBytes at h
    split at h
    · cases h
      exact ⟨rfl, rfl, rfl⟩
    · cases h
  obtain ⟨hv, hr, hs⟩ := hparts
  have hcomponents : ofEntries (parts b) = .ok sig := by
    rw [parts, ← hv, ← hr, ← hs]
    exact ofEntries_of_components (componentOf_natCast rfl sig.v_lt)
      (componentOf_natCast rfl sig.r_lt) (componentOf_natCast rfl sig.s_lt)
  rw [hcomponents]
  rfl

/-- **Signatures and their byte forms.**  A signature has a byte form, and a hexadecimal text
of it, exactly if its `v` is one byte; the form has 65 bytes and is read back from a byte string
of any kind, and from the text.  A byte string is read exactly if it has 65 bytes, none of its
parts is refused as a component, and it is the byte form of what is read.  So byte forms and
the signatures that have one correspond. -/
theorem byteForm_exact :
    (∀ sig : Signature,
      (sig.v ≤ 0xFF → ∃ b t, (LooseSignature.ofSignature sig).toBytes = .ok b ∧
        b.length = byteLength ∧ (∀ d : Datum, d.asByteString? = some b → ofByteDatum d = .ok sig) ∧
        (LooseSignature.ofSignature sig).hex = .ok t ∧ ofHexText t = .ok sig) ∧
      (0xFF < sig.v →
        (LooseSignature.ofSignature sig).toBytes = .error (.component (.wideV sig.v)) ∧
        (LooseSignature.ofSignature sig).hex = .error (.component (.wideV sig.v)))) ∧
    (∀ (d : Datum) (b : Bytes), d.asByteString? = some b →
      (b.length = byteLength → ∃ sig, ofByteDatum d = .ok sig ∧
        (ofEntries (parts b)).toExcept = .ok sig ∧
        (LooseSignature.ofSignature sig).toBytes = .ok b) ∧
      (b.length ≠ byteLength → ofByteDatum d = .error (.error (.length (.signature b.length))))) ∧
    ∀ (sig : Signature) (b : Bytes), sig.toBytes = .ok b ↔ ofBytes b = .ok sig := by
  refine ⟨fun sig => ⟨fun hv => ?_, fun hv => ?_⟩, fun d b hd => ⟨?_, ?_⟩, ?_⟩
  · have hbytes := toBytes_ofSignature hv
    have hhex : (LooseSignature.ofSignature sig).hex = .ok (Hex.ofBytes sig.byteForm) := by
      rw [LooseSignature.hex, hbytes]
      rfl
    exact ⟨sig.byteForm, _, hbytes, sig.length_byteForm, fun d hd => ofByteDatum_byteForm hv hd,
      hhex, ofHexText_byteForm hv⟩
  · have hbytes := toBytes_ofSignature_of_wide hv
    refine ⟨hbytes, ?_⟩
    rw [LooseSignature.hex, hbytes]
    rfl
  · intro hlength
    obtain ⟨sig, hsig⟩ := exists_of_length hlength
    obtain ⟨hv, rfl⟩ := ofBytes_eq_ok_iff.mp hsig
    exact ⟨sig, ofByteDatum_byteForm hv hd, ofEntries_parts hsig, toBytes_ofSignature hv⟩
  · intro hlength
    rw [ofByteDatum_of_asByteString? hd, ofBytes, if_neg hlength]
    rfl
  · intro sig b
    rw [toBytes_eq_ok_iff, ofBytes_eq_ok_iff]

end Signature
end Signet
