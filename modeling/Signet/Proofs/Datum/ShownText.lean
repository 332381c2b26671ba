import Signet.Datum.Equality
import Signet.Proofs.Datum.HexText

/-! # What is shown in hexadecimal is read back

Six types show their values in hexadecimal, with a prefix or without, at any length or at a
fixed one, and integers with a sign (`HexKind`).  Each of them reads the text of a value as
that value (`construct_text`).  Byte strings are read without regard to blanks, so blanks
put anywhere into their text do not matter (`construct_congr`).
-/

namespace Signet

open Text

/-! ## Blanks anywhere -/

namespace Text

/-- A text, and the same text with blanks put anywhere into it. -/
inductive Spaced : List Char → List Char → Prop
  | nil : Spaced [] []
  | keep (c : Char) {s t : List Char} (h : Spaced s t) : Spaced (c :: s) (c :: t)
  | blank {c : Char} {s t : List Char} (hc : isBlank c = true) (h : Spaced s t) :
      Spaced s (c :: t)

/-- Blanks that are put into a text go when all blanks do. -/
theorem Spaced.removeBlanks_eq {s t : List Char} (h : Spaced s t) :
    removeBlanks t = removeBlanks s := by
  induction h with
  | nil => rfl
  | keep c _ ih =>
    cases hc : isBlank c with
    | true => rw [removeBlanks_cons_of_blank hc, removeBlanks_cons_of_blank hc, ih]
    | false => rw [removeBlanks_cons_of_not_blank hc, removeBlanks_cons_of_not_blank hc, ih]
  | blank hc _ ih => rw [removeBlanks_cons_of_blank hc, ih]

end Text

namespace HexKind

variable {k : HexKind}

/-- **A byte string is read from a text without regard to its blanks.** -/
theorem construct_congr (hk : k.holdsBytes = true) {s t : String}
    (h : removeBlanks t.toList = removeBlanks s.toList) :
    k.construct (.text t) = k.construct (.text s) := by
  have hbytes : (Datum.text t).toBytes = (Datum.text s).toBytes := by
    rw [Datum.toBytes, Datum.toBytes, Hex.readSpacedBytes, Hex.readSpacedBytes, h]
  have hfixed (n : Nat) (leftPadding : Bool) :
      FixedBytes.ofDatum n leftPadding (.text t) = FixedBytes.ofDatum n leftPadding (.text s) := by
    rw [FixedBytes.ofDatum_eq leftPadding rfl, FixedBytes.ofDatum_eq leftPadding rfl, hbytes]
  cases k with
  | bytes | keystoreHex => exact hbytes
  | address | keystoreAddress => exact hfixed 20 false
  | hash => exact hfixed 32 true
  | number => cases hk

/-- The text that a value of the type is shown as. -/
def text : (k : HexKind) → k.Value → String
  | .bytes, b => Hex.ofBytes b
  | .keystoreHex, b => Hex.bare b
  | .address, a => a.hex
  | .keystoreAddress, a => Hex.bare a.bytes
  | .hash, h => h.hex
  | .number, n => Hex.ofInt n

theorem display_datum (k : HexKind) (x : k.Value) : (k.datum x).display = .ok (k.text x) := by
  cases k <;> rfl

/-- **The text of a value is read as that value.** -/
theorem construct_text (k : HexKind) (x : k.Value) : k.construct (.text (k.text x)) = .ok x := by
  cases k with
  | bytes => exact Datum.toBytes_ofBytes x
  | keystoreHex => exact Datum.toBytes_bare x
  | address => exact FixedBytes.ofDatum_hex false x
  | keystoreAddress =>
    exact FixedBytes.ofDatum_of_toBytes false rfl (Datum.toBytes_bare (FixedBytes.bytes x))
  | hash => exact FixedBytes.ofDatum_hex true x
  | number => exact Datum.numberOfText_ofInt x

/-- A value equals itself. -/
theorem eq_datum_self (k : HexKind) (x : k.Value) : (k.datum x).eq (k.datum x) = true := by
  cases k with
  | bytes | keystoreHex => exact beq_self_eq_true (show Bytes from x)
  | address | keystoreAddress | hash => exact beq_self_eq_true (FixedBytes.bytes x)
  | number => exact beq_self_eq_true (show Int from x)

/-- **Texts lose nothing.**  A value of a type that is shown in hexadecimal is constructed
from its text, and equals itself; for the byte strings among them also from its text with
blanks put anywhere into it.  No other value of the type has that text. -/
theorem construct_display (k : HexKind) (x : k.Value) :
    ∃ t, (k.datum x).display = .ok t ∧ k.construct (.text t) = .ok x ∧
      (k.datum x).eq (k.datum x) = true ∧
      (k.holdsBytes = true → ∀ t' : String, Spaced t.toList t'.toList →
        k.construct (.text t') = .ok x) ∧
      ∀ y : k.Value, (k.datum y).display = .ok t → y = x := by
  have hread := construct_text k x
  refine ⟨k.text x, display_datum k x, hread, eq_datum_self k x, ?_, ?_⟩
  · intro hk t' hspaced
    rw [construct_congr hk hspaced.removeBlanks_eq, hread]
  · intro y hy
    have htext : k.text y = k.text x := Except.ok.inj ((display_datum k y).symm.trans hy)
    have hy := construct_text k y
    rw [htext, hread] at hy
    exact (Except.ok.inj hy).symm

end HexKind
end Signet
