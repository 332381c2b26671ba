import Signet.Proofs.Bytes.Shortest
import Signet.Proofs.Rlp.Value

/-! # Integers and the byte strings they are encoded as

An integer is encoded as its shortest byte string, and a byte string is read as an integer
unless a zero byte leads it.  The byte strings that none leads are exactly the shortest ones
(`Bytes.eq_ofNat_iff`), so that the two are inverse to one another: a byte string is read as
`n` exactly if it is the shortest that writes `n` (`asUnsigned_eq_ok_iff`).  What stands
around the bytes (nothing, a short prefix or a long one) plays no part in that, since the
encoding of an integer is that of its byte string (`encode_of_index?`).
-/

namespace Signet

/-- No byte string that writes an integer has fewer bytes than its shortest one. -/
theorem Bytes.length_ofNat_le {c : Bytes} {n : Nat} (h : Bytes.toNat c = n) :
    (Bytes.ofNat n).length ≤ c.length := by
  have hlt := Bytes.toNat_lt c
  rw [h] at hlt
  rw [Bytes.length_ofNat]
  exact Bytes.width_le_iff.mpr hlt

/-- No zero byte leads a byte string exactly if it is empty or starts with another byte. -/
theorem Bytes.head?_ne_zero_iff {b : Bytes} :
    b.head? ≠ some 0 ↔ b = [] ∨ ∃ x r, b = x :: r ∧ x ≠ 0 := by
  cases b with
  | nil => simp
  | cons x r => simp

namespace Datum

open Rlp

variable {d : Datum} {b : Bytes} {n : Nat}

/-! ## Writing -/

/-- An integer of any kind, truth values included, stands for its shortest byte string. -/
theorem norm_of_index? (h : d.index? = some (n : Int)) :
    d.isEncodable = true ∧ d.norm = .bytes (Bytes.ofNat n) := by
  cases d with
  | unsigned type m =>
    obtain rfl : m = n := Int.ofNat.inj (Option.some.inj h)
    exact ⟨rfl, rfl⟩
  | bool t =>
    cases t with
    | true =>
      obtain rfl : 1 = n := Int.ofNat.inj (Option.some.inj h)
      exact ⟨rfl, congrArg Item.bytes (show [1] = Bytes.ofNat 1 by decide)⟩
    | false =>
      obtain rfl : 0 = n := Int.ofNat.inj (Option.some.inj h)
      exact ⟨rfl, congrArg Item.bytes (show [] = Bytes.ofNat 0 by decide)⟩
  | int i | number i | hexNumber i =>
    obtain rfl : i = n := Option.some.inj h
    exact ⟨decide_eq_true (Int.natCast_nonneg n), rfl⟩
  | _ => cases h

/-- **An integer is encoded as its shortest byte string is.** -/
theorem encode_of_index? (h : d.index? = some (n : Int)) :
    d.encode = .ok (encodeBytes (Bytes.ofNat n)) := by
  obtain ⟨hencodable, hnorm⟩ := norm_of_index? h
  rw [encode_eq_ok_iff, hnorm]
  exact ⟨hencodable, Nat.zero_le _, rfl⟩

theorem encodeByteString_of_asBytes? (h : d.asBytes? = some b) :
    d.encodeByteString = .ok (.bytes (encodeBytes b)) := by
  cases d <;> cases h <;> rfl

/-! ## Reading -/

theorem asUnsigned_of_asBytes? (h : d.asBytes? = some b) :
    d.asUnsigned = if b.head? = some 0 then .error (.rlpDecoding .zeroLedInteger)
      else .ok (Bytes.toNat b) := by
  rw [asUnsigned, h]
  by_cases hzero : b.head? = some 0
  · simp only [Item.asNat, if_pos hzero, mapError_error]
  · simp only [Item.asNat, if_neg hzero, mapError_ok]

/-- **A byte string is read as an integer exactly if it is the shortest one of it.** -/
theorem asUnsigned_eq_ok_iff (h : d.asBytes? = some b) :
    d.asUnsigned = .ok n ↔ b = Bytes.ofNat n := by
  rw [asUnsigned_of_asBytes? h, Bytes.eq_ofNat_iff]
  by_cases hzero : b.head? = some 0
  · rw [if_pos hzero]
    exact ⟨nofun, fun hb => absurd hzero hb.2⟩
  · rw [if_neg hzero]
    exact ⟨fun hok => ⟨Except.ok.inj hok, hzero⟩, fun hb => congrArg Except.ok hb.1⟩

/-- **Integers and their byte strings correspond.**  Every integer that is not negative, of
any kind, has an encoding, and one that a prefix can tell is decoded to a byte string that is
read as the integer.  A byte string of any kind is read as an integer exactly if it is empty
or starts with a byte that is not zero, and is refused for that byte otherwise; what it is
read as has the encoding of the byte string, and no shorter byte string writes it. -/
theorem asUnsigned_exact :
    (∀ (d : Datum) (n : Nat), d.index? = some (n : Int) →
      ∃ e, d.encode = .ok e ∧ (e.length < payloadCeiling →
        ∃ x, decode (.bytes e) = .ok x ∧ (ofItem x).asUnsigned = .ok n)) ∧
    ∀ (d : Datum) (b : Bytes), d.asBytes? = some b →
      ((∃ n, d.asUnsigned = .ok n) ↔ b = [] ∨ ∃ x r, b = x :: r ∧ x ≠ 0) ∧
      (b.head? = some 0 → d.asUnsigned = .error (.rlpDecoding .zeroLedInteger)) ∧
      ∀ n, d.asUnsigned = .ok n →
        Bytes.toNat b = n ∧ (∀ c, Bytes.toNat c = n → b.length ≤ c.length) ∧
        ∃ e, (Datum.unsigned .unbounded n).encode = .ok e ∧
          d.encodeByteString = .ok (.bytes e) := by
  constructor
  · intro d n hd
    obtain ⟨-, hnorm⟩ := norm_of_index? hd
    have hdepth : d.norm.depth ≤ maxDepth := by
      rw [hnorm]
      exact Nat.zero_le _
    have hencode := encode_of_index? hd
    refine ⟨_, hencode, fun hlength => ⟨d.norm, ?_, ?_⟩⟩
    · exact ((decodeItem_encode_append d hdepth).2 _ hencode hlength).2
    · rw [hnorm, ofItem]
      exact (asUnsigned_eq_ok_iff rfl).mpr rfl
  · intro d b hd
    have hread := asUnsigned_of_asBytes? hd
    refine ⟨?_, fun hzero => by rw [hread, if_pos hzero], ?_⟩
    · rw [← Bytes.head?_ne_zero_iff]
      constructor
      · rintro ⟨n, hn⟩
        exact (Bytes.eq_ofNat_iff.mp ((asUnsigned_eq_ok_iff hd).mp hn)).2
      · intro hhead
        exact ⟨Bytes.toNat b, by rw [hread, if_neg hhead]⟩
    · intro n hn
      obtain rfl := (asUnsigned_eq_ok_iff hd).mp hn
      exact ⟨Bytes.toNat_ofNat n, fun c hc => Bytes.length_ofNat_le hc, _, encode_of_index? rfl,
        encodeByteString_of_asBytes? hd⟩

/-- An integer of 56 bytes, whose encoding has a long prefix, is read back; behind a zero
byte no integer is read. -/
theorem asUnsigned_exact_long :
    (∃ e x, (Datum.int (Bytes.ceiling 55)).encode = .ok e ∧ decode (.bytes e) = .ok x ∧
      (ofItem x).asUnsigned = .ok (Bytes.ceiling 55)) ∧
    (Datum.bytes [0x00, 0x7F]).asUnsigned = .error (.rlpDecoding .zeroLedInteger) := by
  refine ⟨?_, (asUnsigned_exact.2 (.bytes [0x00, 0x7F]) [0x00, 0x7F] rfl).2.1 rfl⟩
  obtain ⟨e, he, hread⟩ := asUnsigned_exact.1 (.int (Bytes.ceiling 55)) (Bytes.ceiling 55) rfl
  obtain rfl := Except.ok.inj ((encode_of_index? rfl).symm.trans he)
  obtain ⟨x, hx, hn⟩ := hread (by decide)
  exact ⟨_, x, he, hx, hn⟩

end Datum
end Signet
