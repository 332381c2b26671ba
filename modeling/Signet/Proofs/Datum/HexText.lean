import Signet.Datum.Conversion
import Signet.Proofs.Datum.HexInteger
import Signet.Proofs.Text.Digits

/-! # Hexadecimal text is read back

Integers, byte strings and byte strings of a fixed length are read from the hexadecimal
text that they are written as, the readers' freedoms notwithstanding: the digits hold no
blank, no sign, no underscore and no base mark, so that nothing of what is written is taken
for one.  An integer is written in a documented form (`Hex.plain_ofInt`), a byte string in
pairs of digits (`Hex.readPairs?_bareBytes`).
-/

namespace Signet

open Text

/-! ## Digits -/

namespace Hex

/-- The digits of a number are hexadecimal digits. -/
theorem isSome_of_mem_digits {n : Nat} : ∀ c ∈ digits 16 n, (digit? 16 c).isSome = true :=
  forall_mem_digits (by decide) fun d hd => by rw [digit?_digitChar hd, Option.isSome_some]

/-- The values of the digits of a number write it. -/
theorem valueOf_digits (n : Nat) : Numeral.valueOf (digits 16 n) = n := by
  rw [Numeral.valueOf, Numeral.ofDigits, List.foldl_map]
  refine foldl_pushDigits (by decide) (fun d hd => ?_) Nat.lt_log2_self
  rw [digit?_digitChar hd, Option.getD_some]

/-- A digit is no blank. -/
theorem isBlank_of_isSome {c : Char} (h : (digit? 16 c).isSome = true) : isBlank c = false := by
  obtain ⟨d, hd⟩ := Option.isSome_iff_exists.mp h
  exact isBlank_of_digit? hd

/-- Digits have no blanks to remove. -/
theorem removeBlanks_of_digits {ds : List Char} (h : ∀ c ∈ ds, (digit? 16 c).isSome = true) :
    removeBlanks ds = ds :=
  List.filter_eq_self.mpr fun c hc => by rw [isBlank_of_isSome (h c hc)]; rfl

/-! ## Integers -/

/-- The hexadecimal form of an integer is a documented one. -/
theorem plain_ofInt (i : Int) : Plain (ofInt i).toList i := by
  refine ⟨⟨decide (i < 0), ['0', 'x'], by decide⟩, digits 16 i.natAbs, ?_, ?_,
    isSome_of_mem_digits, ?_⟩
  · rw [ofInt, String.toList_ofList]
    by_cases hneg : i < 0 <;> simp [Front.text, hneg]
  · exact List.length_pos_iff.mp (length_digits_pos (by decide) _)
  · rw [valueOf_digits]
    by_cases hneg : i < 0
    · simp only [Front.signed, hneg, decide_true, if_true]
      omega
    · simp only [Front.signed, hneg, decide_false, Bool.false_eq_true, if_false]
      omega

/-- **An integer is read from its hexadecimal form.** -/
theorem readNumber_ofInt (i : Int) : readNumber (ofInt i).toList = .ok i :=
  readNumber_of_plain (plain_ofInt i)

/-! ## Bytes as digits -/

theorem div_lt_sixteen (x : UInt8) : x.toNat / 16 < 16 := by
  have := x.toNat_lt
  omega

theorem mod_lt_sixteen (x : UInt8) : x.toNat % 16 < 16 :=
  Nat.mod_lt _ (by decide)

theorem bareBytes_cons (x : UInt8) (b : Bytes) :
    bareBytes (x :: b) = digitChar (x.toNat / 16) :: digitChar (x.toNat % 16) :: bareBytes b :=
  rfl

theorem isSome_of_mem_bareBytes {b : Bytes} : ∀ c ∈ bareBytes b, (digit? 16 c).isSome = true := by
  intro c hc
  obtain ⟨x, -, hx⟩ := List.mem_flatMap.mp hc
  have hall : ∀ c ∈ byteDigits x, (digit? 16 c).isSome = true := by
    simp [byteDigits, digit?_digitChar (div_lt_sixteen x), digit?_digitChar (mod_lt_sixteen x)]
  exact hall c hx

theorem length_bareBytes (b : Bytes) : (bareBytes b).length = 2 * b.length := by
  induction b with
  | nil => rfl
  | cons x r ih =>
    rw [bareBytes_cons, List.length_cons, List.length_cons, List.length_cons, ih]
    omega

/-- **The digits of bytes are read as those bytes.** -/
theorem readPairs?_bareBytes (b : Bytes) : readPairs? (bareBytes b) = some b := by
  induction b with
  | nil => rfl
  | cons x r ih =>
    have hdigit := digit?_digitChar (div_lt_sixteen x)
    have hblank := (Bool.or_eq_false_iff.mp (digit_bare hdigit).1).1
    have hx : UInt8.ofNat (x.toNat / 16 * 16 + x.toNat % 16) = x := by
      rw [Nat.div_add_mod', UInt8.ofNat_toNat]
    rw [bareBytes_cons, readPairs?, hblank, hdigit, digit?_digitChar (mod_lt_sixteen x), ih]
    show some (UInt8.ofNat (x.toNat / 16 * 16 + x.toNat % 16) :: r) = some (x :: r)
    rw [hx]

/-- The digits of bytes are read behind a prefix, and without one. -/
theorem readBytes_of_removePrefix {s : List Char} {b : Bytes} (h : removePrefix s = bareBytes b) :
    readBytes s = .ok b := by
  have heven : (bareBytes b).length % 2 = 0 := by
    rw [length_bareBytes]
    omega
  have hsingle : bareBytes b ≠ ['0'] := by
    intro h
    rw [h] at heven
    cases heven
  rw [readBytes, h]
  rw [if_neg hsingle, if_neg (Decidable.not_not.mpr heven), readPairs?_bareBytes]

/-- **A byte string is read from its bare hexadecimal form.** -/
theorem readSpacedBytes_bareBytes (b : Bytes) : readSpacedBytes (bareBytes b) = .ok b := by
  rw [readSpacedBytes, removeBlanks_of_digits isSome_of_mem_bareBytes]
  exact readBytes_of_removePrefix
    (removePrefix_of_hasPrefix (hasPrefix_of_digits isSome_of_mem_bareBytes))

/-- **A byte string is read from its hexadecimal form.** -/
theorem readSpacedBytes_ofBytes (b : Bytes) : readSpacedBytes (ofBytes b).toList = .ok b := by
  have hblank : removeBlanks ('0' :: 'x' :: bareBytes b) = '0' :: 'x' :: bareBytes b := by
    rw [removeBlanks_cons_of_not_blank (by decide), removeBlanks_cons_of_not_blank (by decide),
      removeBlanks_of_digits isSome_of_mem_bareBytes]
  rw [ofBytes, String.toList_ofList, readSpacedBytes, hblank]
  exact readBytes_of_removePrefix rfl

end Hex

namespace Datum

/-- A prefix and digits, with a minus sign in front or without, are read in base sixteen:
there are no blanks to strip, and the prefix stands behind the sign. -/
theorem numberOfText_of_digits {s : String} {ds : List Char}
    (hds : ∀ c ∈ ds, (digit? 16 c).isSome = true)
    (hs : s.toList = '0' :: 'x' :: ds ∨ s.toList = '-' :: '0' :: 'x' :: ds) :
    numberOfText s = (Hex.readNumber s.toList).mapError .hex := by
  have hblank : ∀ c ∈ ds, isBlank c = false := fun c hc => Hex.isBlank_of_isSome (hds c hc)
  have hmark : isBlank '-' = false ∧ isBlank '0' = false ∧ isBlank 'x' = false := by decide
  have hstrip : strip s.toList = s.toList := by
    refine trim_eq_self ?_
    rcases hs with hs | hs <;> rw [hs] <;> simp only [List.forall_mem_cons]
    · exact ⟨hmark.2.1, hmark.2.2, hblank⟩
    · exact ⟨hmark.1, hmark.2.1, hmark.2.2, hblank⟩
  have hprefix : Hex.hasPrefix (s.toList.dropWhile (· = '-')) = true := by
    rcases hs with hs | hs <;> rw [hs] <;> rfl
  rw [numberOfText]
  simp only [hstrip, hprefix, if_true]

/-- **An integer is read from the text that it is shown as.** -/
theorem numberOfText_ofInt (i : Int) : numberOfText (Hex.ofInt i) = .ok i := by
  have hform : (Hex.ofInt i).toList = '0' :: 'x' :: digits 16 i.natAbs ∨
      (Hex.ofInt i).toList = '-' :: '0' :: 'x' :: digits 16 i.natAbs := by
    rw [Hex.ofInt, String.toList_ofList]
    split
    · exact Or.inr rfl
    · exact Or.inl rfl
  rw [numberOfText_of_digits Hex.isSome_of_mem_digits hform, Hex.readNumber_ofInt, mapError_ok]

/-! ## Byte strings -/

/-- A byte string of any kind has its bytes, however it is read. -/
theorem of_asByteString? {d : Datum} {b : Bytes} (h : d.asByteString? = some b) :
    d.asInt? = none ∧ d.size = .ok b.length ∧ d.rawBytes = .ok b ∧ d.toBytes = .ok b := by
  cases d <;> cases h <;> exact ⟨rfl, rfl, rfl, rfl⟩

/-- **A byte string is read from the text that it is shown as.** -/
theorem toBytes_ofBytes (b : Bytes) : (Datum.text (Hex.ofBytes b)).toBytes = .ok b := by
  rw [toBytes, Hex.readSpacedBytes_ofBytes, mapError_ok]

/-- **A byte string is read from its text without a prefix.** -/
theorem toBytes_bare (b : Bytes) : (Datum.text (Hex.bare b)).toBytes = .ok b := by
  rw [toBytes, Hex.bare, String.toList_ofList, Hex.readSpacedBytes_bareBytes, mapError_ok]

end Datum

namespace FixedBytes

variable {n : Nat}

theorem ofBytes_of_fit {leftPadding : Bool} {b c : Bytes}
    (h : Bytes.fit n leftPadding b = .ok c) :
    ofBytes n leftPadding b = .ok ⟨c, Bytes.length_of_fit h⟩ := by
  unfold ofBytes
  split
  next e he => cases he.symm.trans h
  next c' hc =>
    obtain rfl := Except.ok.inj (hc.symm.trans h)
    rfl

/-- A byte string of the right length stays as it is, whether padding is allowed or not. -/
theorem ofBytes_bytes (leftPadding : Bool) (a : FixedBytes n) :
    ofBytes n leftPadding a.bytes = .ok a := by
  have hlength := a.length_bytes
  refine ofBytes_of_fit ?_
  rw [Bytes.fit, if_neg (by omega), if_neg (by omega)]

/-- A byte string that is shorter is filled up with zeros in front. -/
theorem ofBytes_of_length_lt {b : Bytes} (h : b.length < n) :
    ofBytes n true b = .ok ⟨Bytes.padLeft n b, by rw [Bytes.length_padLeft]; omega⟩ := by
  refine ofBytes_of_fit ?_
  rw [Bytes.fit, if_neg (by omega), if_pos h, if_pos rfl]

/-- What is no integer is read by its bytes. -/
theorem ofDatum_eq (leftPadding : Bool) {d : Datum} (hint : d.asInt? = none) :
    ofDatum n leftPadding d =
      d.toBytes >>= fun b => (ofBytes n leftPadding b).mapError .length := by
  rw [ofDatum, hint]

/-- A byte string of the right length is read from every value with its bytes. -/
theorem ofDatum_of_toBytes (leftPadding : Bool) {a : FixedBytes n} {d : Datum}
    (hint : d.asInt? = none) (h : d.toBytes = .ok a.bytes) :
    ofDatum n leftPadding d = .ok a := by
  rw [ofDatum_eq leftPadding hint, h, ok_bind, ofBytes_bytes, mapError_ok]

/-- **A byte string of a fixed length is read from the text that it is shown as.** -/
theorem ofDatum_hex (leftPadding : Bool) (a : FixedBytes n) :
    ofDatum n leftPadding (.text a.hex) = .ok a :=
  ofDatum_of_toBytes leftPadding rfl (Datum.toBytes_ofBytes a.bytes)

end FixedBytes
end Signet
