import Signet.Datum.Hexadecimal
import Signet.Proofs.Datum.HexText

/-! # Hexadecimal forms agree with the integers they write

The hexadecimal form of an integer is a minus sign where it is negative, `0x`, and lower case
digits without a zero in front of others (`IsForm`).  The form of a byte string has two
digits a byte, zeros in front included.  Either is read back (`hexForms_exact`), and the two
agree: two digits weigh as much as one byte, so that the form of a byte string, read as an
integer, is the integer that the bytes write (`valueOf_bareBytes`).
-/

namespace Signet

open Text

namespace Hex

/-- The digits that forms are written with. -/
def lowerDigits : List Char :=
  ['0', '1', '2', '3', '4', '5', '6', '7', '8', '9', 'a', 'b', 'c', 'd', 'e', 'f']

/-- The hexadecimal form of an integer: a minus sign exactly if it is negative, the prefix,
and one or more lower case digits; zero is one digit, and no other integer starts with a
zero. -/
def IsForm (n : Int) (s : List Char) : Prop :=
  ∃ ds, s = (if n < 0 then ['-'] else []) ++ '0' :: 'x' :: ds ∧ ds ≠ [] ∧
    (∀ c ∈ ds, c ∈ lowerDigits) ∧ (ds.head? = some '0' ↔ n = 0) ∧ (n = 0 → ds = ['0'])

/-! ## Integers -/

theorem digitChar_mem_lowerDigits {n : Nat} (h : n < 16) : digitChar n ∈ lowerDigits := by
  have hall : ∀ n < 16, digitChar n ∈ lowerDigits := by decide
  exact hall n h

/-- **Only zero starts with a zero.** -/
theorem head?_digits_eq_zero_iff {n : Nat} : (digits 16 n).head? = some '0' ↔ n = 0 := by
  by_cases h0 : n = 0
  · subst h0
    exact ⟨fun _ => rfl, fun _ => rfl⟩
  · obtain ⟨d, r, hcons, hd, hd0⟩ :=
      exists_cons_pushDigits [] (by decide : 2 ≤ 16) (Nat.lt_log2_self (n := n)) h0
    have hall : ∀ d < 16, d ≠ 0 → digitChar d ≠ '0' := by decide
    rw [digits, hcons, List.head?_cons]
    exact ⟨fun h => absurd (Option.some.inj h) (hall d hd hd0), fun h => absurd h h0⟩

/-- **An integer is written in its form.** -/
theorem isForm_ofInt (n : Int) : IsForm n (ofInt n).toList := by
  refine ⟨digits 16 n.natAbs, ?_, ?_, ?_, ?_, ?_⟩
  · rw [ofInt, String.toList_ofList]
    split <;> rfl
  · exact List.length_pos_iff.mp (length_digits_pos (by decide) _)
  · exact forall_mem_digits (by decide) fun _ => digitChar_mem_lowerDigits
  · rw [head?_digits_eq_zero_iff, Int.natAbs_eq_zero]
  · rintro rfl
    rfl

/-! ## Byte strings -/

/-- Two digits behind a number weigh as much as the byte that they write. -/
theorem foldl_bareBytes (b : Bytes) (n : Nat) :
    (bareBytes b).foldl (fun m c => m * 16 + (digit? 16 c).getD 0) n =
      b.foldl (fun m x => m * 256 + x.toNat) n := by
  induction b generalizing n with
  | nil => rfl
  | cons x r ih =>
    have hx : x.toNat / 16 * 16 + x.toNat % 16 = x.toNat := Nat.div_add_mod' ..
    have hstep : (n * 16 + x.toNat / 16) * 16 + x.toNat % 16 = n * 256 + x.toNat := by omega
    rw [bareBytes_cons, List.foldl_cons, List.foldl_cons, List.foldl_cons,
      digit?_digitChar (div_lt_sixteen x), digit?_digitChar (mod_lt_sixteen x),
      Option.getD_some, Option.getD_some, hstep, ih]

/-- **The digits of a byte string write the integer that the bytes write.** -/
theorem valueOf_bareBytes (b : Bytes) : Numeral.valueOf (bareBytes b) = Bytes.toNat b := by
  rw [Numeral.valueOf, Numeral.ofDigits, List.foldl_map]
  exact foldl_bareBytes b 0

/-- The form of a byte string is that of an integer too, unless it has no digits. -/
theorem plain_ofBytes {b : Bytes} (h : b ≠ []) : Plain (ofBytes b).toList (Bytes.toNat b) := by
  refine ⟨⟨false, ['0', 'x'], by decide⟩, bareBytes b, ?_, ?_, isSome_of_mem_bareBytes, ?_⟩
  · rw [ofBytes, String.toList_ofList]
    rfl
  · obtain ⟨x, r, rfl⟩ := List.exists_cons_of_ne_nil h
    rw [bareBytes_cons]
    exact List.cons_ne_nil _ _
  · rw [valueOf_bareBytes]
    rfl

end Hex

namespace Datum

open Hex

/-- **Hexadecimal forms are read back, and agree.**  Every integer is written in its form and
read from it; every byte string is read from its form; and the form of a byte string that is
not empty, read as an integer, is the integer that the bytes write, so that bytes and their
form are one number. -/
theorem hexForms_exact :
    (∀ n : Int, IsForm n (Hex.ofInt n).toList ∧
      (Datum.text (Hex.ofInt n)).readHexInteger = .ok n) ∧
    (∀ b : Bytes, (Datum.text (Hex.ofBytes b)).readHexBytes = .ok b) ∧
    ∀ b : Bytes, b ≠ [] →
      (Datum.text (Hex.ofBytes b)).readHexInteger = .ok (Bytes.toNat b) ∧
      (Datum.text (Hex.ofBytes b)).toNumber = .ok (Bytes.toNat b) ∧
      (Datum.bytes b).toNumber = .ok (Bytes.toNat b) := by
  refine ⟨fun n => ⟨isForm_ofInt n, ?_⟩, fun b => ?_, fun b hb => ?_⟩
  · exact mapError_eq_ok_iff.mpr (readNumber_ofInt n)
  · have hform : removePrefix (Hex.ofBytes b).toList = bareBytes b := by
      rw [Hex.ofBytes, String.toList_ofList]
      rfl
    exact mapError_eq_ok_iff.mpr (readBytes_of_removePrefix hform)
  · have hread := readNumber_of_plain (plain_ofBytes hb)
    have hform : (Hex.ofBytes b).toList = '0' :: 'x' :: bareBytes b := by
      rw [Hex.ofBytes, String.toList_ofList]
    refine ⟨mapError_eq_ok_iff.mpr hread, ?_, rfl⟩
    show numberOfText (Hex.ofBytes b) = _
    rw [numberOfText_of_digits isSome_of_mem_bareBytes (Or.inl hform), hread, mapError_ok]

/-- A byte string with zeros in front is the same number as its form. -/
theorem hexForms_exact_zeros :
    (Datum.text "0x00ff").toNumber = .ok 255 ∧ (Datum.bytes [0, 0xFF]).toNumber = .ok 255 :=
  have h := hexForms_exact.2.2 [0, 0xFF] (by decide)
  ⟨h.2.1, h.2.2⟩

end Datum
end Signet
