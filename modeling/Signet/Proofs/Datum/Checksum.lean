import Mathlib
import Signet.Checksum
import Signet.Proofs.Datum.HexText
import Signet.Proofs.Text.LetterCase

/-! # Checksummed addresses are stable

The case of the letters of an address is told by a digest of its digits, and the digits that
are digested are those in lower case, so that the case they are given in plays no part.  In
lower case the checksummed text is the plain one (`Address.toLower_checksum`), and a reader
takes texts that differ in case for the same address (`Address.ofDatum_of_toLower_eq`).
Therefore the checksummed text, and any text with its digits in another case, has the address
it was made of, and its checksum is itself (`Datum.checksum_stable`).
-/

namespace Signet

open Text

/-! ## The rule for the letters -/

/-- A character, in upper case where the digit beside it is eight or more. -/
def casedBy (c digit : Char) : Char :=
  if 8 ≤ (digit? 16 digit).getD 0 then c.toUpper else c

/-- Two places on, the digits are those of the next byte. -/
theorem highDigit_cons (x : UInt8) (digest : Bytes) (i : Nat) :
    highDigit (x :: digest) (i + 2) = highDigit digest i := by
  have hhalf : (i + 2) / 2 = i / 2 + 1 := by omega
  have hparity : (i + 2) % 2 = i % 2 := by omega
  rw [highDigit, highDigit, hhalf, hparity, List.drop_succ_cons]

theorem checksumDigits_cons (x : UInt8) (digest : Bytes) (i : Nat) (ds : List Char) :
    checksumDigits (x :: digest) (i + 2) ds = checksumDigits digest i ds := by
  induction ds generalizing i with
  | nil => rfl
  | cons c r ih =>
    rw [checksumDigits, checksumDigits, highDigit_cons, ih (i + 1)]

/-- The high and the low digit of a byte, each of them eight or more. -/
theorem highDigit_byte (x : UInt8) (digest : Bytes) :
    highDigit (x :: digest) 0 = decide (8 ≤ x.toNat / 16) ∧
      highDigit (x :: digest) 1 = decide (8 ≤ x.toNat % 16) := by
  have hhigh : 0x80 ≤ x ↔ 8 ≤ x.toNat / 16 := by
    have h80 : (0x80 : UInt8).toNat = 128 := rfl
    rw [UInt8.le_iff_toNat_le, h80]
    omega
  have hlow : 0x08 ≤ x % 16 ↔ 8 ≤ x.toNat % 16 := by
    have h8 : (0x08 : UInt8).toNat = 8 := rfl
    have h16 : (16 : UInt8).toNat = 16 := rfl
    rw [UInt8.le_iff_toNat_le, UInt8.toNat_mod, h8, h16]
  exact ⟨decide_eq_decide.mpr hhigh, decide_eq_decide.mpr hlow⟩

/-- **Each letter has the case that the digit of the digest at its place tells.** -/
theorem checksumDigits_eq_zipWith {digest : Bytes} {ds : List Char}
    (h : ds.length ≤ 2 * digest.length) :
    checksumDigits digest 0 ds = List.zipWith casedBy ds (Hex.bareBytes digest) := by
  induction digest generalizing ds with
  | nil =>
    obtain rfl := List.eq_nil_of_length_eq_zero (Nat.le_zero.mp h)
    rfl
  | cons x digest ih =>
    obtain ⟨hhigh, hlow⟩ := highDigit_byte x digest
    have hfirst (c : Char) : (if highDigit (x :: digest) 0 = true then c.toUpper else c) =
        casedBy c (digitChar (x.toNat / 16)) := by
      simp only [casedBy, hhigh, Hex.digit?_digitChar (Hex.div_lt_sixteen x), Option.getD_some,
        decide_eq_true_eq]
    have hsecond (c : Char) : (if highDigit (x :: digest) 1 = true then c.toUpper else c) =
        casedBy c (digitChar (x.toNat % 16)) := by
      simp only [casedBy, hlow, Hex.digit?_digitChar (Hex.mod_lt_sixteen x), Option.getD_some,
        decide_eq_true_eq]
    match ds with
    | [] => rfl
    | [c] =>
      rw [checksumDigits, checksumDigits, hfirst]
      rfl
    | c :: d :: r =>
      have hrest : r.length ≤ 2 * digest.length := by
        simp only [List.length_cons] at h
        omega
      rw [checksumDigits, checksumDigits, hfirst, hsecond, checksumDigits_cons, ih hrest]
      rfl

/-- The case of letters is lost in lower case. -/
theorem map_toLower_checksumDigits (digest : Bytes) (i : Nat) (ds : List Char) :
    (checksumDigits digest i ds).map Char.toLower = ds.map Char.toLower := by
  induction ds generalizing i with
  | nil => rfl
  | cons c r ih =>
    rw [checksumDigits, List.map_cons, List.map_cons, ih]
    split
    · rw [Char.toLower_toUpper_eq_toLower]
    · rfl

/-- The digits of a byte string are written in lower case. -/
theorem Hex.map_toLower_bareBytes (b : Bytes) :
    (bareBytes b).map Char.toLower = bareBytes b := by
  have hall : ∀ n < 16, (digitChar n).toLower = digitChar n := by decide
  induction b with
  | nil => rfl
  | cons x r ih =>
    rw [bareBytes_cons, List.map_cons, List.map_cons, ih, hall _ (div_lt_sixteen x),
      hall _ (mod_lt_sixteen x)]

namespace Address

variable {a b : Address}

/-- The digits of an address, each letter in the case that its digest tells. -/
def casedDigits (a : Address) : List Char :=
  let digits := Hex.bareBytes a.bytes
  checksumDigits (Keccak.digest (asciiBytes digits)).bytes 0 digits

theorem checksum_eq (a : Address) : a.checksum = String.ofList ('0' :: 'x' :: a.casedDigits) :=
  rfl

theorem casedDigits_eq_zipWith (a : Address) :
    a.casedDigits = List.zipWith casedBy (Hex.bareBytes a.bytes)
      (Hex.bareBytes (Keccak.digest (asciiBytes (Hex.bareBytes a.bytes))).bytes) := by
  apply checksumDigits_eq_zipWith
  rw [Hex.length_bareBytes, a.length_bytes, FixedBytes.length_bytes]
  decide

/-- **In whatever case its digits are, in lower case they are the plain ones of the address.** -/
theorem toLower_recased (a : Address) {f : Char → Char} (hf : ∀ c, (f c).toLower = c.toLower) :
    (String.ofList ('0' :: 'x' :: a.casedDigits.map f)).toLower = a.hex := by
  have hdigits : (a.casedDigits.map f).map Char.toLower = Hex.bareBytes a.bytes := by
    have hcomp : Char.toLower ∘ f = Char.toLower := funext hf
    rw [List.map_map, hcomp, casedDigits, map_toLower_checksumDigits, Hex.map_toLower_bareBytes]
  apply String.toList_inj.mp
  rw [String.toLower, String.toList_map, String.toList_ofList, FixedBytes.hex, Hex.ofBytes,
    String.toList_ofList, List.map_cons, List.map_cons, hdigits]
  rfl

/-- **In lower case the checksummed text is the plain text of the address.** -/
theorem toLower_checksum (a : Address) : a.checksum.toLower = a.hex := by
  have h := toLower_recased a (f := id) fun _ => rfl
  rwa [List.map_id] at h

/-- A text is read as an address in any case of its letters. -/
theorem ofDatum_text_toLower (t : String) :
    Address.ofDatum (.text t.toLower) = Address.ofDatum (.text t) := by
  have hbytes : (Datum.text t.toLower).toBytes = (Datum.text t).toBytes := by
    rw [Datum.toBytes, Datum.toBytes, String.toLower, String.toList_map,
      Hex.readSpacedBytes_map_toLower]
  rw [Address.ofDatum, FixedBytes.ofDatum_eq false rfl, hbytes,
    Address.ofDatum, FixedBytes.ofDatum_eq false rfl]

/-- **A text that is in lower case the plain text of an address is read as that address.** -/
theorem ofDatum_of_toLower_eq {t : String} (h : t.toLower = a.hex) :
    Address.ofDatum (.text t) = .ok a := by
  rw [← ofDatum_text_toLower, h]
  exact FixedBytes.ofDatum_hex false a

/-- Addresses with the same checksummed text are the same. -/
theorem checksum_injective (h : a.checksum = b.checksum) : a = b := by
  have hhex : a.checksum.toLower = b.hex := by rw [h, toLower_checksum]
  have ha := ofDatum_of_toLower_eq (toLower_checksum a)
  rw [ofDatum_of_toLower_eq hhex] at ha
  exact (Except.ok.inj ha).symm

end Address

namespace Datum

theorem checksum_of_ofDatum {d : Datum} {a : Address} (h : Address.ofDatum d = .ok a) :
    d.checksum = .ok a.checksum := by
  rw [checksum, h]
  rfl

/-- **Checksummed addresses are stable and faithful.**  The text of a value that is an address
has its digits, each letter in the case that the digest of the plain digits tells.  It is read
as the address again, and is in lower case the plain text of it; and it is its own checksummed
text, and that of its digits in upper or in lower case.  Two values have the same checksummed
text exactly if they are the same address. -/
theorem checksum_stable {d : Datum} {a : Address} (h : Address.ofDatum d = .ok a) :
    ∃ (c : String) (digits : List Char), d.checksum = .ok c ∧
      c = String.ofList ('0' :: 'x' :: digits) ∧
      digits = List.zipWith casedBy (Hex.bareBytes a.bytes)
        (Hex.bareBytes (Keccak.digest (asciiBytes (Hex.bareBytes a.bytes))).bytes) ∧
      Address.ofDatum (.text c) = .ok a ∧ c.toLower = a.hex ∧
      (Datum.text c).checksum = .ok c ∧
      (Datum.text (String.ofList ('0' :: 'x' :: digits.map Char.toUpper))).checksum = .ok c ∧
      (Datum.text (String.ofList ('0' :: 'x' :: digits.map Char.toLower))).checksum = .ok c ∧
      ∀ (e : Datum) (b : Address), Address.ofDatum e = .ok b → (e.checksum = d.checksum ↔ b = a) := by
  have hplain := Address.toLower_checksum a
  have hstable (t : String) (ht : t.toLower = a.hex) :
      (Datum.text t).checksum = .ok a.checksum :=
    checksum_of_ofDatum (Address.ofDatum_of_toLower_eq ht)
  refine ⟨a.checksum, a.casedDigits, checksum_of_ofDatum h, a.checksum_eq,
    a.casedDigits_eq_zipWith, Address.ofDatum_of_toLower_eq hplain, hplain, hstable _ hplain,
    hstable _ (a.toLower_recased Char.toLower_toUpper_eq_toLower),
    hstable _ (a.toLower_recased Char.toLower_toLower_eq_toLower), ?_⟩
  intro e b he
  rw [checksum_of_ofDatum he, checksum_of_ofDatum h]
  constructor
  · intro heq
    exact Address.checksum_injective (Except.ok.inj heq)
  · rintro rfl
    rfl

/-- An address in capital letters and with blanks in it has the text of its bytes, which is
its own. -/
theorem checksum_stable_capital :
    ∃ c, (Datum.text "0X 5AAEB605 3F3E94C9 B9A09F33 669435E7 EF1BEAED").checksum = .ok c ∧
      (Datum.text c).checksum = .ok c ∧
      (Datum.int 0x5aaeb6053f3e94c9b9a09f33669435e7ef1beaed).checksum = .ok c := by
  have htext : Address.ofDatum (.text "0X 5AAEB605 3F3E94C9 B9A09F33 669435E7 EF1BEAED") =
      .ok (FixedBytes.ofNat 20 0x5aaeb6053f3e94c9b9a09f33669435e7ef1beaed) := by
    decide
  obtain ⟨c, -, hc, -, -, -, -, hstable, -, -, hsame⟩ := checksum_stable htext
  have hint : Address.ofDatum (.int 0x5aaeb6053f3e94c9b9a09f33669435e7ef1beaed) =
      .ok (FixedBytes.ofNat 20 0x5aaeb6053f3e94c9b9a09f33669435e7ef1beaed) := by
    decide
  exact ⟨c, hc, hstable, ((hsame _ _ hint).mpr rfl).trans hc⟩

end Datum
end Signet
