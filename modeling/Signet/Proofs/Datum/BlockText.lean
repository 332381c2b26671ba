import Signet.Datum.Equality
import Signet.Proofs.Datum.HexText
import Signet.Proofs.Failures
import Signet.Proofs.Text.LetterCase

/-! # Block numbers as text

A block is read from a tag, in letters of any case, or from a number.  For the number the
reader has a test of its own on what stands behind the minus signs, which tells hexadecimal
from decimal text as the reader of numbers does (`BlockNumber.isHexText_eq`), and no tag is a
number (`BlockTag.numberOfText_ne_ok`).  So a text is a block number exactly if it is a number
in the range of one (`BlockNumber.ofText_exact`), and every block is read from its text.
-/

namespace Signet

open Text

/-! ## Numerals and tags -/

theorem Text.toNat_le_of_digit?_ten {c : Char} {d : Nat} (h : digit? 10 c = some d) :
    c.toNat ≤ 57 := by
  obtain ⟨hc, hd⟩ := Option.filter_eq_some_iff.mp h
  have hsmall : d < 10 := of_decide_eq_true hd
  rw [asciiDigit?_eq] at hc
  split at hc
  · omega
  split at hc
  · cases hc
    omega
  split at hc
  · cases hc
    omega
  · cases hc

/-- A decimal numeral has a digit. -/
theorem Numeral.exists_digit_of_read? {s : List Char} {n : Int} (h : read? .decimal s = some n) :
    ∃ c ∈ s, (digit? 10 (asciiForm c)).isSome = true := by
  obtain ⟨sign, rest, hsign, hsplit⟩ := exists_sign (trim isNumeralBlank (s.map asciiForm))
  rw [read?, hsplit] at h
  obtain ⟨m, hm, -⟩ := Option.map_eq_some_iff.mp h
  have hmark : splitMark .decimal rest = (10, rest) := by
    cases rest <;> rfl
  obtain ⟨k, hk, -⟩ := Option.bind_eq_some_iff.mp hm
  rw [readNat?, hmark] at hk
  obtain ⟨ds, hds, -⟩ := Option.bind_eq_some_iff.mp hk
  obtain ⟨c, r, d, rfl, hc⟩ := (digitRun?_eq_some_iff.mp hds).exists_cons
  obtain ⟨before, after, htext, -, -⟩ := exists_eq_append_trim isNumeralBlank (s.map asciiForm)
  have hmem : c ∈ s.map asciiForm := by
    rw [htext, hsign]
    simp
  obtain ⟨c', hc', rfl⟩ := List.mem_map.mp hmem
  exact ⟨c', hc', by rw [hc]; rfl⟩

namespace BlockTag

/-- **A text names the tag that it is in lower case.** -/
theorem ofText?_eq_some_iff {s : List Char} {t : BlockTag} :
    ofText? s = some t ↔ s.map Char.toLower = t.text.toList := by
  constructor
  · intro h
    unfold ofText? at h
    have hfound := List.find?_some h
    exact (of_decide_eq_true hfound).symm
  · intro h
    rw [ofText?, h]
    cases t <;> decide

theorem letter_of_mem {t : BlockTag} {c : Char} (h : c ∈ t.text.toList) :
    97 ≤ c.toNat ∧ c.toNat ≤ 122 := by
  have hall : t.text.toList.all (fun c => 97 ≤ c.toNat ∧ c.toNat ≤ 122) = true := by
    cases t <;> rfl
  exact of_decide_eq_true (List.all_eq_true.mp hall c h)

/-- A text in letters is no number, hexadecimal or decimal. -/
theorem numberOfText_ne_ok {s : String} {t : BlockTag}
    (h : (strip s.toList).map Char.toLower = t.text.toList) (n : Int) :
    Datum.numberOfText s ≠ .ok n := by
  -- every character of the text is a letter, in lower case or not
  have hletters : ∀ c ∈ strip s.toList, 65 ≤ c.toNat ∧ c.toNat ≤ 122 := by
    intro c hc
    have hmem : c.toLower ∈ t.text.toList := h ▸ List.mem_map_of_mem hc
    have hlower := letter_of_mem hmem
    rw [toNat_toLower] at hlower
    split at hlower <;> omega
  have hunmarked : Hex.hasPrefix ((strip s.toList).dropWhile (· = '-')) = false := by
    unfold Hex.hasPrefix
    have hzero (r : List Char) : (strip s.toList).dropWhile (· = '-') ≠ '0' :: r := by
      intro heq
      have hmem : '0' ∈ strip s.toList :=
        (List.dropWhile_sublist _).subset (heq ▸ List.mem_cons_self ..)
      exact absurd (hletters _ hmem).1 (by decide)
    split
    next r heq => exact absurd heq (hzero _)
    next r heq => exact absurd heq (hzero _)
    · rfl
  have hdecimal : Numeral.read? .decimal (strip s.toList) = none := by
    rw [Option.eq_none_iff_forall_not_mem]
    intro m hm
    obtain ⟨c, hc, hdigit⟩ := Numeral.exists_digit_of_read? hm
    obtain ⟨hlow, hhigh⟩ := hletters c hc
    rw [Numeral.asciiForm, if_pos (by omega)] at hdigit
    obtain ⟨d, hd⟩ := Option.isSome_iff_exists.mp hdigit
    have := toNat_le_of_digit?_ten hd
    omega
  intro h
  rw [Datum.numberOfText] at h
  simp only [hunmarked, hdecimal] at h
  cases h

end BlockTag

namespace BlockNumber

theorem hasPrefix_cons_cons (c d : Char) (r : List Char) :
    Hex.hasPrefix (c :: d :: r) = true ↔ c = '0' ∧ (d = 'x' ∨ d = 'X') := by
  unfold Hex.hasPrefix
  split <;> simp_all

/-- **The two tests for hexadecimal text agree.** -/
theorem isHexText_eq (s : List Char) :
    isHexText s = Hex.hasPrefix (s.dropWhile (· = '-')) := by
  unfold isHexText
  generalize s.dropWhile (· = '-') = r
  match r with
  | [] => rfl
  | [c] =>
    unfold Hex.hasPrefix
    simp
  | c :: d :: r =>
    rw [Bool.eq_iff_iff, hasPrefix_cons_cons, decide_eq_true_iff]
    simp [toLower_eq_iff, toLower_eq_x_iff]

/-- **A text without a tag is read as the number that it writes.** -/
theorem numberOfText_strip (s : String) :
    numberOfText (strip s.toList) = Datum.numberOfText s := by
  rw [numberOfText, Datum.numberOfText, isHexText_eq]

theorem ofInt_natCast {k : Nat} (shown : String) (h : k < 1 <<< 63) :
    ofInt k shown = .ok (.number k h) := by
  rw [ofInt, if_neg (by omega)]
  exact dif_pos h

/-- **An integer is a block exactly in the range of block numbers.** -/
theorem ofDecimal_eq_ok_iff {n : Int} {x : BlockNumber} :
    ofDecimal n = .ok x ↔ ∃ (k : Nat) (h : k < 1 <<< 63), n = k ∧ x = .number k h := by
  constructor
  · intro h
    unfold ofDecimal ofInt at h
    split at h
    · cases h
    next b hb =>
      cases h
      have hok := mapError_eq_ok_iff.mp hb
      split at hok
      · cases hok
      split at hok
      next hlt =>
        cases hok
        exact ⟨n.toNat, hlt, by omega, rfl⟩
      · cases hok
  · rintro ⟨k, hlt, rfl, rfl⟩
    rw [ofDecimal, ofInt_natCast _ hlt]
    rfl

/-- Whether a cause refuses a value for what it is. -/
def RefusesValue (e : Error) : Prop :=
  e.label = "ValueError"

theorem ofDecimal_failsOnly (n : Int) : FailsOnly RefusesValue (ofDecimal n) := by
  unfold ofDecimal
  split
  next e he =>
    obtain ⟨b, -, rfl⟩ := mapError_eq_error_iff.mp he
    rw [failsOnly_error, Error.writing]
    repeat' split
    all_goals rfl
  · exact failsOnly_ok _

theorem numberOfText_failsOnly (s : List Char) : FailsOnly RefusesValue (numberOfText s) := by
  unfold numberOfText
  split
  · refine failsOnly_mapError (fun e => ?_) _
    rfl
  split
  · exact failsOnly_ok _
  · exact failsOnly_error.mpr rfl

/-- **Every text that is no block number is refused for its value.** -/
theorem ofDatum_text_failsOnly (s : String) : FailsOnly RefusesValue (ofDatum (.text s)) := by
  unfold ofDatum
  simp only
  split
  · exact failsOnly_ok _
  · exact (numberOfText_failsOnly _).bind fun n _ => ofDecimal_failsOnly n

theorem ofDatum_text_of_tag {s : String} {t : BlockTag}
    (h : BlockTag.ofText? (strip s.toList) = some t) : ofDatum (.text s) = .ok (.tag t) := by
  rw [ofDatum, h]

/-- A text without a tag is read as a number. -/
theorem ofDatum_text_of_no_tag {s : String} (h : BlockTag.ofText? (strip s.toList) = none) :
    ofDatum (.text s) = Datum.numberOfText s >>= ofDecimal := by
  rw [ofDatum, h, numberOfText_strip]

variable {s : String}

/-- **A text is a tag exactly if it is one in lower case, less the blanks around it.** -/
theorem ofDatum_text_eq_tag_iff {t : BlockTag} :
    ofDatum (.text s) = .ok (.tag t) ↔ (strip s.toList).map Char.toLower = t.text.toList := by
  rw [← BlockTag.ofText?_eq_some_iff]
  refine ⟨fun h => ?_, ofDatum_text_of_tag⟩
  cases htag : BlockTag.ofText? (strip s.toList) with
  | some t' =>
    rw [ofDatum_text_of_tag htag] at h
    cases h
    rfl
  | none =>
    rw [ofDatum_text_of_no_tag htag] at h
    obtain ⟨n, -, hn⟩ := bind_eq_ok_iff.mp h
    obtain ⟨k, hlt, -, hx⟩ := ofDecimal_eq_ok_iff.mp hn
    cases hx

/-- **A text is a numbered block exactly if it is a number in the range of block numbers.** -/
theorem ofDatum_text_eq_number_iff {n : Nat} :
    (∃ h, ofDatum (.text s) = .ok (.number n h)) ↔
      Datum.numberOfText s = .ok n ∧ n < 1 <<< 63 := by
  cases htag : BlockTag.ofText? (strip s.toList) with
  | some t =>
    rw [ofDatum_text_of_tag htag]
    have hlower := BlockTag.ofText?_eq_some_iff.mp htag
    constructor
    · rintro ⟨h, ⟨⟩⟩
    · rintro ⟨h, -⟩
      exact absurd h (BlockTag.numberOfText_ne_ok hlower n)
  | none =>
    rw [ofDatum_text_of_no_tag htag]
    constructor
    · rintro ⟨hlt, h⟩
      obtain ⟨m, hm, hn⟩ := bind_eq_ok_iff.mp h
      obtain ⟨k, hk, rfl, hx⟩ := ofDecimal_eq_ok_iff.mp hn
      cases hx
      exact ⟨hm, hlt⟩
    · rintro ⟨h, hlt⟩
      refine ⟨hlt, ?_⟩
      rw [h, ok_bind]
      exact ofDecimal_eq_ok_iff.mpr ⟨n, hlt, rfl, rfl⟩

/-- **A block is read from its text.** -/
theorem ofDatum_text_text (x : BlockNumber) : ofDatum (.text x.text) = .ok x := by
  cases x with
  | tag t =>
    refine ofDatum_text_eq_tag_iff.mpr ?_
    cases t <;> decide
  | number n h =>
    have htext : (number n h).text = Hex.ofInt n := by
      rw [text, Hex.ofNat, Hex.ofInt, if_neg (by omega)]
      rfl
    have hread : Datum.numberOfText (number n h).text = .ok n := by
      rw [htext, Datum.numberOfText_ofInt]
    obtain ⟨h', hx⟩ := ofDatum_text_eq_number_iff.mpr ⟨hread, h⟩
    exact hx

/-- **Block numbers and their texts.**  A text is the tag that it is in lower case, less the
blanks around it; it is the numbered block of a number exactly if the reader of numbers reads
that number, and it is in range; and every other text is refused for its value.  A block is
read from its text and equals what is read, and blocks have the same text exactly if they are
equal. -/
theorem ofText_exact :
    (∀ s : String,
      (∀ t, ofDatum (.text s) = .ok (.tag t) ↔
        (strip s.toList).map Char.toLower = t.text.toList) ∧
      (∀ n : Nat, (∃ h, ofDatum (.text s) = .ok (.number n h)) ↔
        (Datum.text s).toNumber = .ok n ∧ n < 1 <<< 63) ∧
      ∀ e, ofDatum (.text s) = .error e → e.label = "ValueError") ∧
    ∀ x : BlockNumber, ∃ t y, (Datum.blockNumber x).display = .ok t ∧
      ofDatum (.text t) = .ok y ∧ (Datum.blockNumber y).eq (.blockNumber x) = true ∧
      ∀ z : BlockNumber, (Datum.blockNumber z).display = .ok t ↔
        (Datum.blockNumber x).eq (.blockNumber z) = true := by
  refine ⟨fun s => ⟨fun t => ofDatum_text_eq_tag_iff, fun n => ofDatum_text_eq_number_iff,
    ofDatum_text_failsOnly s⟩, fun x => ?_⟩
  have heq (a b : BlockNumber) : (Datum.blockNumber a).eq (.blockNumber b) = (a == b) := rfl
  refine ⟨x.text, x, rfl, ofDatum_text_text x, by rw [heq, beq_self_eq_true], fun z => ?_⟩
  rw [heq, beq_iff_eq]
  constructor
  · intro h
    have htext : z.text = x.text := Except.ok.inj h
    have hz := ofDatum_text_text z
    rw [htext, ofDatum_text_text] at hz
    exact Except.ok.inj hz
  · rintro rfl
    rfl

end BlockNumber
end Signet
