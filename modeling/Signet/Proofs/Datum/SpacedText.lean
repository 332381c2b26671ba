import Mathlib.Logic.Relation
import Signet.Proofs.Datum.HexInteger
import Signet.Proofs.Datum.ShownText

/-! # Hexadecimal text with blanks in it

Two readers take byte strings from hexadecimal text.  One drops all blanks first
(`Hex.readSpacedBytes`); the other counts them as characters, so that there must be an even
number, and passes over those of ASCII between two bytes (`Hex.readBytes`).  Dropping blanks
might make a prefix, a lone zero or an even number of characters where there was none.  But
what the second reader accepts holds nothing but digits and the blanks it passed over, so
the first one finds the same digits there (`readSpacedBytes_of_readBytes`).

The texts that the first reader cannot tell apart are those that putting blanks in and taking
blanks out leads to from one another (`removeBlanks_eq_iff`).
-/

namespace Signet

open Text

/-! ## Putting blanks in and taking them out -/

namespace Text

variable {s t : List Char}

/-- Every text is its other characters with blanks put into them. -/
theorem spaced_removeBlanks (s : List Char) : Spaced (removeBlanks s) s := by
  induction s with
  | nil => exact .nil
  | cons c r ih =>
    cases hc : isBlank c with
    | true => exact removeBlanks_cons_of_blank hc r ▸ .blank hc ih
    | false => exact removeBlanks_cons_of_not_blank hc r ▸ .keep c ih

/-- **Two texts have the same characters but for blanks exactly if one becomes the other by
putting blanks in and taking blanks out.** -/
theorem removeBlanks_eq_iff :
    removeBlanks s = removeBlanks t ↔ Relation.EqvGen Spaced s t := by
  constructor
  · intro h
    have hs : Relation.EqvGen Spaced s (removeBlanks s) :=
      (Relation.EqvGen.rel _ _ (spaced_removeBlanks s)).symm
    have ht : Relation.EqvGen Spaced (removeBlanks t) t := .rel _ _ (spaced_removeBlanks t)
    exact hs.trans _ _ _ (h ▸ ht)
  · intro h
    induction h with
    | rel s t h => exact h.removeBlanks_eq.symm
    | refl s => rfl
    | symm s t _ ih => exact ih.symm
    | trans s t u _ _ ih ih' => exact ih.trans ih'

end Text

/-! ## The reader that passes over blanks -/

namespace Hex

variable {s : List Char} {b : Bytes}

theorem isBlank_of_isAsciiBlank {c : Char} (h : isAsciiBlank c = true) : isBlank c = true := by
  rw [isBlank, isNumeralBlank, h]
  rfl

/-- **What is read as pairs of digits is digits once its blanks are gone**, two of them a
byte, and they are read as the same bytes. -/
theorem removeBlanks_of_readPairs? (h : readPairs? s = some b) :
    (∀ c ∈ removeBlanks s, (digit? 16 c).isSome = true) ∧
      (removeBlanks s).length = 2 * b.length ∧ readPairs? (removeBlanks s) = some b := by
  fun_induction readPairs? s generalizing b with
  | case1 =>
    cases h
    exact ⟨nofun, rfl, rfl⟩
  | case2 c hc =>
    cases h
    rw [removeBlanks_cons_of_blank (isBlank_of_isAsciiBlank hc)]
    exact ⟨nofun, rfl, rfl⟩
  | case3 => cases h
  | case4 c d rest hc ih =>
    rw [removeBlanks_cons_of_blank (isBlank_of_isAsciiBlank hc)]
    exact ih h
  | case5 c d rest hc ih =>
    obtain ⟨hi, hhi, h⟩ := Option.bind_eq_some_iff.mp h
    obtain ⟨lo, hlo, h⟩ := Option.bind_eq_some_iff.mp h
    obtain ⟨r, hr, h⟩ := Option.bind_eq_some_iff.mp h
    cases h
    obtain ⟨hdigits, hlength, hread⟩ := ih hr
    rw [removeBlanks_cons_of_not_blank (isBlank_of_digit? hhi),
      removeBlanks_cons_of_not_blank (isBlank_of_digit? hlo)]
    refine ⟨?_, ?_, ?_⟩
    · rw [List.forall_mem_cons, List.forall_mem_cons, hhi, hlo]
      exact ⟨rfl, rfl, hdigits⟩
    · rw [List.length_cons, List.length_cons, List.length_cons, hlength]
      omega
    · rw [readPairs?, if_neg hc, hhi, hlo, hread]
      rfl

/-- A byte string is a lone zero, or an even number of characters that are pairs of digits. -/
theorem readBytes_eq_ok_iff :
    readBytes s = .ok b ↔
      (removePrefix s = ['0'] ∧ b = [0]) ∨
      (removePrefix s ≠ ['0'] ∧ (removePrefix s).length % 2 = 0 ∧
        readPairs? (removePrefix s) = some b) := by
  rw [readBytes]
  by_cases hzero : removePrefix s = ['0']
  · simp [hzero, eq_comm]
  by_cases hodd : (removePrefix s).length % 2 ≠ 0
  · simp [hzero, hodd]
  · rw [if_neg hzero, if_neg hodd]
    cases readPairs? (removePrefix s) <;> simp [hzero, Decidable.not_not.mp hodd]

/-- Dropping blanks neither makes nor breaks a prefix where all else is digits. -/
theorem removePrefix_removeBlanks
    (h : ∀ c ∈ removeBlanks (removePrefix s), (digit? 16 c).isSome = true) :
    removePrefix (removeBlanks s) = removeBlanks (removePrefix s) := by
  have hmark : isBlank '0' = false ∧ isBlank 'x' = false ∧ isBlank 'X' = false := by decide
  cases hprefix : hasPrefix s with
  | false =>
    rw [removePrefix_of_hasPrefix hprefix] at h ⊢
    exact removePrefix_of_hasPrefix (hasPrefix_of_digits h)
  | true =>
    unfold hasPrefix at hprefix
    split at hprefix
    · rw [removeBlanks_cons_of_not_blank hmark.1, removeBlanks_cons_of_not_blank hmark.2.1]
      rfl
    · rw [removeBlanks_cons_of_not_blank hmark.1, removeBlanks_cons_of_not_blank hmark.2.2]
      rfl
    · cases hprefix

/-- **A byte string that is read with its blanks is read without them.** -/
theorem readSpacedBytes_of_readBytes (h : readBytes s = .ok b) : readSpacedBytes s = .ok b := by
  rw [readSpacedBytes, readBytes_eq_ok_iff]
  rcases readBytes_eq_ok_iff.mp h with ⟨hzero, rfl⟩ | ⟨-, -, hpairs⟩
  · have hlone : removeBlanks (removePrefix s) = ['0'] := by
      rw [hzero, removeBlanks_cons_of_not_blank (by decide)]
      rfl
    have hdigits : ∀ c ∈ removeBlanks (removePrefix s), (digit? 16 c).isSome = true := by
      rw [hlone]
      exact List.forall_mem_singleton.mpr (by decide)
    exact Or.inl ⟨(removePrefix_removeBlanks hdigits).trans hlone, rfl⟩
  · obtain ⟨hdigits, hlength, hread⟩ := removeBlanks_of_readPairs? hpairs
    have heven : (removeBlanks (removePrefix s)).length % 2 = 0 := by omega
    rw [removePrefix_removeBlanks hdigits]
    refine Or.inr ⟨fun hzero => ?_, heven, hread⟩
    rw [hzero] at heven
    cases heven

end Hex

namespace Datum

/-- **The readers of hexadecimal text do not disagree.**  A text that is read as a byte string
with its blanks in place is read as the same byte string by the reader that drops them; and
that reader has one outcome, success or failure, for all texts that putting blanks in and
taking blanks out leads to from one another. -/
theorem toBytes_ignores_blanks (s : String) :
    (∀ b, (Datum.text s).readHexBytes = .ok b → (Datum.text s).toBytes = .ok b) ∧
    ∀ t : String, Relation.EqvGen Spaced s.toList t.toList →
      (Datum.text t).toBytes = (Datum.text s).toBytes := by
  constructor
  · intro b h
    have hread : Hex.readBytes s.toList = .ok b := mapError_eq_ok_iff.mp h
    exact mapError_eq_ok_iff.mpr (Hex.readSpacedBytes_of_readBytes hread)
  · intro t h
    rw [toBytes, toBytes, Hex.readSpacedBytes, Hex.readSpacedBytes, removeBlanks_eq_iff.mpr h]

/-- Both readers take blanks between two bytes and behind them; inside the prefix and inside
a byte only the one that drops them does. -/
theorem toBytes_ignores_blanks_moved :
    (Datum.text "0x12 AB ").toBytes = .ok [0x12, 0xAB] ∧
      (Datum.text "0 x1 2AB").toBytes = .ok [0x12, 0xAB] := by
  have hread : (Datum.text "0x12 AB ").toBytes = .ok [0x12, 0xAB] :=
    (toBytes_ignores_blanks _).1 _ rfl
  refine ⟨hread, ?_⟩
  rw [(toBytes_ignores_blanks "0x12 AB ").2 _ (removeBlanks_eq_iff.mp (by decide)), hread]

end Datum
end Signet
