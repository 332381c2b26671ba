import Signet.Datum.Equality
import Signet.Proofs.Bytes.Shortest
import Signet.Proofs.Datum.HexText

/-! # Integers and byte strings at a fixed size

`size` bytes hold an integer if it is below `ceiling size`, and a negative one if it is not
below minus the weight of the highest bit (`Bytes.HoldsInt`).  The two ranges overlap: what is
written is the integer modulo `ceiling size` (`Bytes.ofInt_of_holdsInt`), so that integers
which are congruent have the same bytes.  A byte string keeps the integer that it writes, and
is padded in front where that is allowed (`Bytes.fit_of_fits`).

`Datum.toFixedBytes` does this at every size that memory holds, and nothing at the larger ones
(`toFixedBytes_exact`).
-/

namespace Signet

/-! ## Byte strings of a size -/

namespace Bytes

variable {size : Nat} {i : Int} {b c : Bytes}

/-- The weight of the highest bit of `size` bytes, which tells the sign in two's complement. -/
def signWeight (size : Nat) : Nat :=
  1 <<< (8 * size - 1)

/-- Whether `size` bytes hold an integer, in two's complement where it is negative. -/
def HoldsInt (size : Nat) (i : Int) : Prop :=
  -(signWeight size : Int) ≤ i ∧ i < (ceiling size : Int)

instance : Decidable (HoldsInt size i) :=
  inferInstanceAs (Decidable (_ ∧ _))

theorem ceiling_eq_two_mul (h : 1 ≤ size) : ceiling size = 2 * signWeight size := by
  rw [ceiling, signWeight, Nat.one_shiftLeft, Nat.one_shiftLeft, ← Nat.pow_succ']
  congr 1
  omega

theorem holdsInt_zero (size : Nat) : HoldsInt size 0 := by
  have hpos := ceiling_pos size
  constructor <;> omega

theorem holdsInt_of_nonneg (h : 0 ≤ i) : HoldsInt size i ↔ i.toNat < ceiling size := by
  rw [HoldsInt]
  omega

theorem holdsInt_of_neg (h : i < 0) :
    HoldsInt size i ↔ 2 * (-(i + 1)).toNat < ceiling size := by
  rw [HoldsInt]
  by_cases hsize : 1 ≤ size
  · have hweight := ceiling_eq_two_mul hsize
    omega
  · obtain rfl : size = 0 := by omega
    have hweight : signWeight 0 = 1 := rfl
    rw [ceiling_zero, hweight]
    omega

/-- What a negative integer is written as is the integer that is congruent to it. -/
theorem toNat_twosComplement (h : i < 0) (hi : HoldsInt size i) :
    (toNat (ofNatFixed size (ceiling size - (-i).toNat)) : Int) = i % ceiling size := by
  have hroom := (holdsInt_of_neg h).mp hi
  have hle : (-i).toNat ≤ ceiling size := by omega
  have hcast : ((ceiling size - (-i).toNat : Nat) : Int) = i + ceiling size := by omega
  rw [toNat_ofNatFixed, Int.natCast_emod, hcast, Int.add_emod_right]

/-- **An integer that `size` bytes hold is written modulo their ceiling**, in as many bytes. -/
theorem ofInt_of_holdsInt (h : HoldsInt size i) :
    ∃ b, ofInt size i = .ok b ∧ b.length = size ∧ (toNat b : Int) = i % ceiling size := by
  by_cases hneg : i < 0
  · refine ⟨_, ?_, length_ofNatFixed .., toNat_twosComplement hneg h⟩
    rw [ofInt, if_neg (by omega), if_pos ((holdsInt_of_neg hneg).mp h)]
  · have hnonneg : 0 ≤ i := by omega
    refine ⟨_, ?_, length_ofNatFixed size i.toNat, ?_⟩
    · rw [ofInt, if_pos hnonneg, if_pos ((holdsInt_of_nonneg hnonneg).mp h)]
    · rw [toNat_ofNatFixed, Int.natCast_emod, Int.toNat_of_nonneg hnonneg]

theorem ofInt_of_not_holdsInt (h : ¬ HoldsInt size i) :
    ofInt size i = .error (.integerTooWide size) := by
  unfold ofInt
  split
  next hnonneg => rw [if_neg fun hroom => h ((holdsInt_of_nonneg hnonneg).mpr hroom)]
  next hneg => rw [if_neg fun hroom => h ((holdsInt_of_neg (by omega)).mpr hroom)]

/-- Whether a byte string has a form of `size` bytes: it has the size, or it may be padded up
to it. -/
def Fits (size : Nat) (leftPadding : Bool) (b : Bytes) : Prop :=
  b.length = size ∨ b.length < size ∧ leftPadding = true

variable {leftPadding : Bool}

/-- **A byte string that fits keeps the integer that it writes.** -/
theorem fit_of_fits (h : Fits size leftPadding b) :
    ∃ c, fit size leftPadding b = .ok c ∧ c.length = size ∧ toNat c = toNat b := by
  rcases h with hlength | ⟨hlt, rfl⟩
  · refine ⟨b, ?_, hlength, rfl⟩
    rw [fit, if_neg (by omega), if_neg (by omega)]
  · refine ⟨padLeft size b, ?_, ?_, toNat_padLeft size b⟩
    · rw [fit, if_neg (by omega), if_pos hlt, if_pos rfl]
    · rw [length_padLeft]
      omega

theorem fit_of_not_fits (h : ¬ Fits size leftPadding b) :
    fit size leftPadding b = .error
      (if b.length > size then .tooLong b.length size else .tooShort b.length size) := by
  rw [Fits, not_or] at h
  unfold fit
  split
  · rfl
  · have hlt : b.length < size := by omega
    rw [if_pos hlt, if_neg fun hpad => h.2 ⟨hlt, hpad⟩]

end Bytes

/-! ## Values at a size -/

namespace FixedBytes

variable {n : Nat}

theorem map_bytes_ofInt (n : Nat) (i : Int) :
    (ofInt n i).map (·.bytes) = Bytes.ofInt n i := by
  unfold ofInt
  split
  next h => exact h.symm
  next h => exact h.symm

theorem map_bytes_ofBytes (n : Nat) (leftPadding : Bool) (b : Bytes) :
    (ofBytes n leftPadding b).map (·.bytes) = Bytes.fit n leftPadding b := by
  unfold ofBytes
  split
  next h => exact h.symm
  next h => exact h.symm

end FixedBytes

namespace Datum

variable {size : Int} {leftPadding : Bool} {d : Datum}

theorem toFixedBytes_eq (hpos : 0 ≤ size) (hsize : size < memoryCeiling) :
    d.toFixedBytes size leftPadding =
      (FixedBytes.ofDatum size.toNat leftPadding d).map (·.bytes) :=
  if_pos ⟨hpos, hsize⟩

theorem toFixedBytes_of_le (h : memoryCeiling ≤ size) :
    d.toFixedBytes size leftPadding = d.refuseSize size leftPadding :=
  if_neg (by omega)

theorem toFixedBytes_of_asInt? (hpos : 0 ≤ size) (hsize : size < memoryCeiling) {i : Int}
    (hd : d.asInt? = some i) :
    d.toFixedBytes size leftPadding = (Bytes.ofInt size.toNat i).mapError .length := by
  rw [toFixedBytes_eq hpos hsize, FixedBytes.ofDatum, hd]
  simp only [map_mapError, FixedBytes.map_bytes_ofInt]

theorem toFixedBytes_of_asByteString? (hpos : 0 ≤ size) (hsize : size < memoryCeiling)
    {b : Bytes} (hd : d.asByteString? = some b) :
    d.toFixedBytes size leftPadding = (Bytes.fit size.toNat leftPadding b).mapError .length := by
  obtain ⟨hint, -, -, hbytes⟩ := of_asByteString? hd
  rw [toFixedBytes_eq hpos hsize, FixedBytes.ofDatum_eq leftPadding hint, hbytes, ok_bind,
    map_mapError, FixedBytes.map_bytes_ofBytes]

/-- The failure of an integer at a size that memory does not hold. -/
def integerRefusal (size : Int) : Error :=
  if indexCeiling - byteStringOverhead ≤ size then .length (.integerTooWide size) else .memory

/-- The failure of a byte string at a size that memory does not hold. -/
def bytesRefusal (size : Int) (leftPadding : Bool) (b : Bytes) : Error :=
  if leftPadding = false then .length (.tooShort b.length size)
  else if indexCeiling - byteStringOverhead ≤ size then .overflow
  else .memory

/-- Sizes that memory does not hold are not negative, and not too low for an index. -/
theorem not_low_of_memoryCeiling_le (h : memoryCeiling ≤ size) :
    ¬ size < 0 ∧ ¬ size < -indexCeiling := by
  have hmemory : 0 ≤ memoryCeiling := by decide
  have hindex : 0 ≤ indexCeiling := by decide
  omega

theorem refuseSize_of_asInt? (h : memoryCeiling ≤ size) {i : Int} (hd : d.asInt? = some i) :
    d.refuseSize size leftPadding = .error (integerRefusal size) := by
  obtain ⟨hnonneg, hlow⟩ := not_low_of_memoryCeiling_le h
  rw [refuseSize, hd]
  simp only [hnonneg, hlow, false_or, if_false, integerRefusal]
  split <;> rfl

theorem refuseSize_of_toBytes (h : memoryCeiling ≤ size) (hint : d.asInt? = none) {b : Bytes}
    (hbytes : d.toBytes = .ok b) :
    d.refuseSize size leftPadding = .error (bytesRefusal size leftPadding b) := by
  obtain ⟨hnonneg, hlow⟩ := not_low_of_memoryCeiling_le h
  rw [refuseSize, hint, hbytes]
  simp only [ok_bind, hnonneg, hlow, false_or, if_false, bytesRefusal]
  cases leftPadding with
  | false => rfl
  | true => rfl

theorem refuseSize_ne_ok (h : memoryCeiling ≤ size) (d : Datum) (b : Bytes) :
    d.refuseSize size leftPadding ≠ .ok b := by
  cases hint : d.asInt? with
  | some i =>
    rw [refuseSize_of_asInt? h hint]
    nofun
  | none =>
    cases hbytes : d.toBytes with
    | ok c =>
      rw [refuseSize_of_toBytes h hint hbytes]
      nofun
    | error e =>
      rw [refuseSize, hint, hbytes]
      nofun

/-- Whatever is made of a value has the size that was asked for. -/
theorem length_of_toFixedBytes (hpos : 0 ≤ size) {b : Bytes}
    (h : d.toFixedBytes size leftPadding = .ok b) : (b.length : Int) = size := by
  by_cases hsize : size < memoryCeiling
  · rw [toFixedBytes_eq hpos hsize] at h
    obtain ⟨a, -, rfl⟩ := map_eq_ok_iff.mp h
    rw [a.length_bytes, Int.toNat_of_nonneg hpos]
  · have hbeyond : memoryCeiling ≤ size := by omega
    rw [toFixedBytes_of_le hbeyond] at h
    exact absurd h (refuseSize_ne_ok hbeyond d b)

/-- How integers and byte strings are written in `size` bytes, where memory holds so many. -/
structure WritesAt (size : Int) (leftPadding : Bool) : Prop where
  /-- an integer that the bytes hold is written modulo their ceiling -/
  int_of_holds : ∀ (d : Datum) (i : Int), d.asInt? = some i → Bytes.HoldsInt size.toNat i →
    ∃ b, d.toFixedBytes size leftPadding = .ok b ∧ (b.length : Int) = size ∧
      (b.toNat : Int) = i % Bytes.ceiling size.toNat
  /-- any other integer is refused -/
  int_of_not_holds : ∀ (d : Datum) (i : Int), d.asInt? = some i → ¬ Bytes.HoldsInt size.toNat i →
    d.toFixedBytes size leftPadding = .error (.length (.integerTooWide size))
  /-- a byte string that fits keeps its integer -/
  bytes_of_fits : ∀ (d : Datum) (b : Bytes), d.asByteString? = some b →
    Bytes.Fits size.toNat leftPadding b →
    ∃ c, d.toFixedBytes size leftPadding = .ok c ∧ (c.length : Int) = size ∧ c.toNat = b.toNat
  /-- any other byte string is refused -/
  bytes_of_not_fits : ∀ (d : Datum) (b : Bytes), d.asByteString? = some b →
    ¬ Bytes.Fits size.toNat leftPadding b →
    d.toFixedBytes size leftPadding = .error (.length
      (if size < b.length then .tooLong b.length size else .tooShort b.length size))

theorem writesAt (hpos : 0 ≤ size) (hsize : size < memoryCeiling) (leftPadding : Bool) :
    WritesAt size leftPadding where
  int_of_holds := by
    intro d i hd hi
    obtain ⟨b, hwrite, hlength, hvalue⟩ := Bytes.ofInt_of_holdsInt hi
    rw [toFixedBytes_of_asInt? hpos hsize hd, hwrite]
    exact ⟨b, rfl, by omega, hvalue⟩
  int_of_not_holds := by
    intro d i hd hi
    rw [toFixedBytes_of_asInt? hpos hsize hd, Bytes.ofInt_of_not_holdsInt hi, mapError_error,
      Int.toNat_of_nonneg hpos]
  bytes_of_fits := by
    intro d b hd hb
    obtain ⟨c, hfit, hlength, hvalue⟩ := Bytes.fit_of_fits hb
    rw [toFixedBytes_of_asByteString? hpos hsize hd, hfit]
    exact ⟨c, rfl, by omega, hvalue⟩
  bytes_of_not_fits := by
    intro d b hd hb
    rw [toFixedBytes_of_asByteString? hpos hsize hd, Bytes.fit_of_not_fits hb, mapError_error,
      Int.toNat_of_nonneg hpos]
    congr 2
    by_cases h : size < b.length
    · rw [if_pos h, if_pos (by omega)]
    · rw [if_neg h, if_neg (by omega)]

end Datum

namespace FixedBytes

variable {n : Nat} {leftPadding : Bool} {d e : Datum} {a b : FixedBytes n}

theorem ofDatum_of_asInt? {i : Int} (hd : d.asInt? = some i) :
    ofDatum n leftPadding d = (ofInt n i).mapError .length := by
  rw [ofDatum, hd]

/-- A byte string has no other bytes at a fixed size than its own, unless it has fewer. -/
theorem eq_or_length_lt_of_ofDatum {c : Bytes} (hd : d.asByteString? = some c)
    (h : ofDatum n leftPadding d = .ok a) : c = a.bytes ∨ c.length < n := by
  obtain ⟨hint, -, -, hbytes⟩ := Datum.of_asByteString? hd
  by_cases hlt : c.length < n
  · exact Or.inr hlt
  left
  by_cases hlength : c.length = n
  · have hself : ofDatum n leftPadding d = .ok ⟨c, hlength⟩ :=
      ofDatum_of_toBytes leftPadding hint hbytes
    rw [← Except.ok.inj (hself.symm.trans h)]
  · have hfit : ¬ Bytes.Fits n leftPadding c := by
      rw [Bytes.Fits]
      omega
    rw [ofDatum_eq leftPadding hint, hbytes, ok_bind, mapError_eq_ok_iff] at h
    have hmap := map_bytes_ofBytes n leftPadding c
    rw [h, Bytes.fit_of_not_fits hfit] at hmap
    cases hmap

/-- What is made of an integer writes it modulo the ceiling of its bytes. -/
theorem toNat_of_ofDatum {i : Int} (hd : d.asInt? = some i)
    (h : ofDatum n leftPadding d = .ok a) :
    (a.bytes.toNat : Int) = i % Bytes.ceiling n := by
  rw [ofDatum_of_asInt? hd, mapError_eq_ok_iff] at h
  have hbytes : Bytes.ofInt n i = .ok a.bytes := by
    rw [← map_bytes_ofInt, h]
    rfl
  by_cases hi : Bytes.HoldsInt n i
  · obtain ⟨c, hwrite, -, hvalue⟩ := Bytes.ofInt_of_holdsInt hi
    rw [hwrite] at hbytes
    rwa [Except.ok.inj hbytes] at hvalue
  · rw [Bytes.ofInt_of_not_holdsInt hi] at hbytes
    cases hbytes

/-- **Integers have the same form exactly if they are congruent.** -/
theorem eq_iff_of_asInt? {i j : Int} (hd : d.asInt? = some i) (he : e.asInt? = some j)
    (ha : ofDatum n leftPadding d = .ok a) (hb : ofDatum n leftPadding e = .ok b) :
    a = b ↔ i % Bytes.ceiling n = j % Bytes.ceiling n := by
  have hi := toNat_of_ofDatum hd ha
  have hj := toNat_of_ofDatum he hb
  constructor
  · rintro rfl
    exact hi.symm.trans hj
  · intro h
    refine ext (Bytes.eq_of_toNat_eq (a.length_bytes.trans b.length_bytes.symm) ?_)
    exact Int.ofNat.inj (hi.trans (h.trans hj.symm))

end FixedBytes

namespace Datum

variable {size : Int}

/-- The bytes of an address or a digest are those of a value at its size. -/
theorem toFixedBytes_eq_ok_iff {n : Nat} (hn : (n : Int) < memoryCeiling) (leftPadding : Bool)
    (d : Datum) (b : Bytes) :
    d.toFixedBytes n leftPadding = .ok b ↔
      ∃ a, FixedBytes.ofDatum n leftPadding d = .ok a ∧ a.bytes = b := by
  rw [toFixedBytes_eq (Int.natCast_nonneg n) hn, Int.toNat_natCast, map_eq_ok_iff]

theorem eq_hash_iff (h k : Hash) : (Datum.hash h).eq (.hash k) = true ↔ h = k := by
  have heq : (Datum.hash h).eq (.hash k) = (h.bytes == k.bytes) := rfl
  rw [heq, beq_iff_eq]
  exact ⟨FixedBytes.ext, congrArg _⟩

/-- **Values at a fixed size.**  At every size that memory holds, exactly the integers that
the bytes hold are written, modulo the ceiling of the bytes, and exactly the byte strings that
fit, with the integer that they write; at a larger size every integer and byte string is
refused.  Whatever is written has the size asked for.  Addresses and digests are what is
written in 20 and in 32 bytes, and the digests of integers are equal exactly if these are
congruent. -/
theorem toFixedBytes_exact (hsize : 1 ≤ size) (leftPadding : Bool) :
    (size < memoryCeiling → WritesAt size leftPadding) ∧
    (memoryCeiling ≤ size →
      (∀ (d : Datum) (i : Int), d.asInt? = some i →
        d.toFixedBytes size leftPadding = .error (integerRefusal size)) ∧
      ∀ (d : Datum) (b : Bytes), d.asByteString? = some b →
        d.toFixedBytes size leftPadding = .error (bytesRefusal size leftPadding b)) ∧
    (∀ (d : Datum) (b : Bytes), d.toFixedBytes size leftPadding = .ok b →
      (b.length : Int) = size) ∧
    (∀ (d : Datum) (b : Bytes), d.toFixedBytes 20 false = .ok b ↔
      ∃ a, Address.ofDatum d = .ok a ∧ a.bytes = b) ∧
    (∀ (d : Datum) (b : Bytes), d.toFixedBytes 32 true = .ok b ↔
      ∃ h, Hash.ofDatum d = .ok h ∧ h.bytes = b) ∧
    ∀ (d e : Datum) (i j : Int) (h k : Hash), d.asInt? = some i → e.asInt? = some j →
      Hash.ofDatum d = .ok h → Hash.ofDatum e = .ok k →
      ((Datum.hash h).eq (.hash k) = true ↔ i % Bytes.ceiling 32 = j % Bytes.ceiling 32) := by
  have hpos : 0 ≤ size := by omega
  have htwenty : ((20 : Nat) : Int) < memoryCeiling := by decide
  have hthirtyTwo : ((32 : Nat) : Int) < memoryCeiling := by decide
  refine ⟨fun h => writesAt hpos h leftPadding, fun h => ⟨?_, ?_⟩,
    fun d b => length_of_toFixedBytes hpos, toFixedBytes_eq_ok_iff htwenty false,
    toFixedBytes_eq_ok_iff hthirtyTwo true, ?_⟩
  · intro d i hd
    rw [toFixedBytes_of_le h, refuseSize_of_asInt? h hd]
  · intro d b hd
    obtain ⟨hint, -, -, hbytes⟩ := of_asByteString? hd
    rw [toFixedBytes_of_le h, refuseSize_of_toBytes h hint hbytes]
  · intro d e i j h k hd he hh hk
    rw [eq_hash_iff]
    exact FixedBytes.eq_iff_of_asInt? hd he hh hk

/-- The lowest integer of 32 bytes is written as their sign bit, and the one below it is
refused. -/
theorem toFixedBytes_exact_lowest :
    (1 : Int) ≤ 32 ∧ (32 : Int) < memoryCeiling ∧
      (∃ b, (Datum.int (-(Bytes.signWeight 32 : Int))).toFixedBytes 32 true = .ok b ∧
        (b.length : Int) = 32 ∧ b.toNat = Bytes.signWeight 32) ∧
      (Datum.int (-(Bytes.signWeight 32 : Int) - 1)).toFixedBytes 32 true =
        .error (.length (.integerTooWide 32)) := by
  have hmemory : (32 : Int) < memoryCeiling := by decide
  have hexact : WritesAt 32 true := (toFixedBytes_exact (by decide) true).1 hmemory
  refine ⟨by decide, hmemory, ?_, ?_⟩
  · obtain ⟨b, hwrite, hlength, hvalue⟩ :=
      hexact.int_of_holds (.int (-(Bytes.signWeight 32 : Int))) _ rfl (by decide)
    refine ⟨b, hwrite, hlength, Int.ofNat.inj (hvalue.trans ?_)⟩
    decide
  · exact hexact.int_of_not_holds _ _ rfl (by decide)

/-- A size that no byte string has is refused for every integer, though its bytes would hold
zero. -/
theorem toFixedBytes_zero_oversized :
    1 ≤ indexCeiling ∧ Bytes.HoldsInt indexCeiling.toNat 0 ∧
      (Datum.int 0).toFixedBytes indexCeiling false =
        .error (.length (.integerTooWide indexCeiling)) := by
  have hbeyond : memoryCeiling ≤ indexCeiling := by decide
  refine ⟨by decide, Bytes.holdsInt_zero _, ?_⟩
  rw [toFixedBytes_of_le hbeyond, refuseSize_of_asInt? hbeyond rfl, integerRefusal,
    if_pos (by decide)]

end Datum
end Signet
