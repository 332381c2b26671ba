import Signet.Datum.Hexadecimal
import Signet.Proofs.Outcome
import Signet.Proofs.Text.NumeralGrammar

/-! # The language of hexadecimal integers

A hexadecimal integer is documented as a minus sign or none, a prefix or none, and one or
more digits (`Hex.Plain`).  What the reader takes in addition (`Hex.Loose`) is told by what
it leaves behind the sign and the prefix: that is read as a numeral of base sixteen, which
may have blanks, a sign and a prefix of its own, underscores, and digits outside ASCII.
No other text is read, and no text is both (`readHexInteger_language`).
-/

namespace Signet
namespace Hex

open Text

/-! ## Sign and prefix -/

/-- The prefixes of a hexadecimal text, and none. -/
def prefixes : List (List Char) := [[], ['0', 'x'], ['0', 'X']]

/-- What stands in front of the digits of an integer: a minus sign or none, and a prefix or
none. -/
structure Front where
  negative : Bool
  mark : List Char
  mark_mem : mark ∈ prefixes

namespace Front

/-- The sign and the prefix as they stand in a text. -/
def text (f : Front) : List Char :=
  (if f.negative then ['-'] else []) ++ f.mark

/-- A number behind the sign. -/
def signed (f : Front) (n : Int) : Int :=
  if f.negative then -n else n

/-- Whether all of the sign and the prefix in front of `body` belongs to `f`: no prefix is
left in `body`, and no minus sign that something follows. -/
structure Ends (f : Front) (body : List Char) : Prop where
  sign : f.negative = true ↔ ∃ c r, f.text ++ body = '-' :: c :: r
  mark : f.mark = [] → hasPrefix body = false

end Front

theorem removePrefix_of_hasPrefix {s : List Char} (h : hasPrefix s = false) :
    removePrefix s = s := by
  unfold removePrefix
  split
  · cases h
  · cases h
  · rfl

theorem exists_prefix (s : List Char) :
    ∃ mark ∈ prefixes, ∃ body, s = mark ++ body ∧ (mark = [] → hasPrefix body = false) := by
  cases h : hasPrefix s with
  | false => exact ⟨[], by simp [prefixes], s, rfl, fun _ => h⟩
  | true =>
    unfold hasPrefix at h
    split at h
    · exact ⟨['0', 'x'], by simp [prefixes], _, rfl, nofun⟩
    · exact ⟨['0', 'X'], by simp [prefixes], _, rfl, nofun⟩
    · cases h

/-- Splits a minus sign off a text, if something follows it. -/
def splitMinus : List Char → Bool × List Char
  | '-' :: c :: r => (true, c :: r)
  | s => (false, s)

/-- What the sign and the prefix leave of a text. -/
def afterFront (s : List Char) : List Char :=
  removePrefix (splitMinus s).2

/-- Every text has a sign and a prefix, or none, that leave neither behind them. -/
theorem exists_front (s : List Char) : ∃ (f : Front) (body : List Char),
    s = f.text ++ body ∧ f.Ends body := by
  by_cases h : ∃ c r, s = '-' :: c :: r
  · obtain ⟨c, r, rfl⟩ := h
    obtain ⟨mark, hmark, body, hbody, hends⟩ := exists_prefix (c :: r)
    refine ⟨⟨true, mark, hmark⟩, body, ?_, ⟨fun _ => ⟨c, r, ?_⟩, fun _ => rfl⟩, hends⟩ <;>
      simp [Front.text, ← hbody]
  · obtain ⟨mark, hmark, body, rfl, hends⟩ := exists_prefix s
    exact ⟨⟨false, mark, hmark⟩, body, rfl, ⟨nofun, fun h' => absurd h' h⟩, hends⟩

variable {f : Front} {body s : List Char}

theorem splitMinus_text (h : f.Ends body) :
    splitMinus (f.text ++ body) = (f.negative, f.mark ++ body) := by
  cases hf : f.negative with
  | true =>
    obtain ⟨c, r, hs⟩ := h.sign.mp hf
    have hrest : f.mark ++ body = c :: r := by simpa [Front.text, hf] using hs
    rw [hs, hrest]
    rfl
  | false =>
    unfold splitMinus
    split
    next c r hs => exact absurd (h.sign.mpr ⟨c, r, hs⟩) (by simp [hf])
    · simp [Front.text, hf]

theorem removePrefix_mark (h : f.Ends body) : removePrefix (f.mark ++ body) = body := by
  have hmem := f.mark_mem
  simp only [prefixes, List.mem_cons, List.not_mem_nil, or_false] at hmem
  rcases hmem with hmark | hmark | hmark
  · rw [hmark, List.nil_append, removePrefix_of_hasPrefix (h.mark hmark)]
  · rw [hmark]
    rfl
  · rw [hmark]
    rfl

/-- The sign and the prefix of a text leave one rest. -/
theorem afterFront_text (h : f.Ends body) : afterFront (f.text ++ body) = body := by
  rw [afterFront, splitMinus_text h, removePrefix_mark h]

/-- What is behind the sign and the prefix is read as a numeral of its own. -/
theorem readNumber_text (h : f.Ends body) : readNumber (f.text ++ body) =
    if body.isEmpty then .error .noDigits
    else match Numeral.read? .hexadecimal body with
      | some n => .ok (f.signed n)
      | none => .error (.notNumber (String.ofList (f.mark ++ body))) := by
  have hread (s : List Char) : readNumber s =
      if (removePrefix (splitMinus s).2).isEmpty then .error .noDigits
      else match Numeral.read? .hexadecimal (removePrefix (splitMinus s).2) with
        | some n => .ok (if (splitMinus s).1 then -n else n)
        | none => .error (.notNumber (String.ofList (splitMinus s).2)) := by
    rfl
  rw [hread, splitMinus_text h]
  simp only [removePrefix_mark h]
  rfl

/-- **An integer is a sign and a prefix, and a numeral behind them.** -/
theorem readNumber_eq_ok_iff {n : Int} : readNumber s = .ok n ↔
    ∃ (f : Front) (body : List Char) (m : Int), s = f.text ++ body ∧ f.Ends body ∧
      Numeral.read? .hexadecimal body = some m ∧ n = f.signed m := by
  constructor
  · intro h
    obtain ⟨f, body, rfl, hends⟩ := exists_front s
    rw [readNumber_text hends] at h
    split at h
    · cases h
    split at h
    next m hm =>
      cases h
      exact ⟨f, body, m, rfl, hends, hm, rfl⟩
    · cases h
  · rintro ⟨f, body, m, rfl, hends, hm, rfl⟩
    have hne : ¬ body.isEmpty = true := by
      intro hempty
      have hnil : Numeral.read? .hexadecimal [] = none := by decide
      rw [List.isEmpty_iff.mp hempty, hnil] at hm
      cases hm
    rw [readNumber_text hends, if_neg hne, hm]

/-! ## The documented texts -/

/-- The documented form of an integer: a minus sign or none, a prefix or none, and one or
more digits. -/
def Plain (s : List Char) (n : Int) : Prop :=
  ∃ (f : Front) (ds : List Char), s = f.text ++ ds ∧ ds ≠ [] ∧
    (∀ c ∈ ds, (digit? 16 c).isSome = true) ∧ n = f.signed (Numeral.valueOf ds)

/-- Whether the numeral in `body` is more than digits: it has blanks around it, a sign, a
prefix, an underscore, or a character outside ASCII. -/
def Freed (p : Numeral.Parts) (body : List Char) : Prop :=
  p.before ≠ [] ∨ p.sign ≠ .none ∨ p.mark ≠ [] ∨ '_' ∈ p.digits ∨ p.after ≠ [] ∨
    ∃ c ∈ body, 0x80 ≤ c.toNat

/-- What is read beyond the documented form: the sign and the prefix leave a numeral that is
more than digits. -/
def Loose (s : List Char) (n : Int) : Prop :=
  ∃ (f : Front) (body : List Char) (p : Numeral.Parts) (m : Int), s = f.text ++ body ∧
    f.Ends body ∧ body.map Numeral.asciiForm = p.text ∧ p.Writes m ∧ Freed p body ∧
    n = f.signed m

variable {ds : List Char} {n m : Int} {p : Numeral.Parts}

/-- Digits hold no prefix. -/
theorem hasPrefix_of_digits (h : ∀ c ∈ ds, (digit? 16 c).isSome = true) :
    hasPrefix ds = false := by
  unfold hasPrefix
  split
  · exact absurd (h 'x' (by simp)) (by decide)
  · exact absurd (h 'X' (by simp)) (by decide)
  · rfl

/-- In front of digits all of the sign and the prefix is split off. -/
theorem Front.ends_of_digits (f : Front) (hne : ds ≠ [])
    (h : ∀ c ∈ ds, (digit? 16 c).isSome = true) : f.Ends ds := by
  have hprefix := hasPrefix_of_digits h
  obtain ⟨c, r, rfl⟩ := List.exists_cons_of_ne_nil hne
  have hc : c ≠ '-' := by
    rintro rfl
    exact absurd (h '-' (by simp)) (by decide)
  have hmark : ∀ mark ∈ prefixes, ∃ c' r', mark ++ c :: r = c' :: r' ∧ c' ≠ '-' := by
    simp [prefixes, hc]
  obtain ⟨c', r', hrest, hc'⟩ := hmark f.mark f.mark_mem
  refine ⟨?_, fun _ => hprefix⟩
  cases hf : f.negative <;> simp [Front.text, hf, hrest, hc']

theorem readNumber_of_plain (h : Plain s n) : readNumber s = .ok n := by
  obtain ⟨f, ds, rfl, hne, hds, rfl⟩ := h
  exact readNumber_eq_ok_iff.mpr
    ⟨f, ds, _, rfl, f.ends_of_digits hne hds, Numeral.read?_of_digits hne hds, rfl⟩

/-- The documented form leaves digits behind its sign and its prefix. -/
theorem isSome_of_plain (h : Plain s n) : ∀ c ∈ afterFront s, (digit? 16 c).isSome = true := by
  obtain ⟨f, ds, rfl, hne, hds, -⟩ := h
  rwa [afterFront_text (f.ends_of_digits hne hds)]

/-! ## Digits, and more than digits -/

theorem not_blank_of_isSome {c : Char} (h : (digit? 16 c).isSome = true) :
    isNumeralBlank c = false := by
  obtain ⟨d, hd⟩ := Option.isSome_iff_exists.mp h
  exact (digit_bare hd).1

/-- A numeral that is more than digits holds a character that is no digit. -/
theorem not_freed_of_digits (htext : body.map Numeral.asciiForm = p.text) (hp : p.Writes m)
    (h : ∀ c ∈ body, (digit? 16 c).isSome = true) : ¬ Freed p body := by
  have hdigit : ∀ c ∈ p.before ++ (p.sign.text ++ (p.mark ++ p.digits) ++ p.after),
      (digit? 16 c).isSome = true := by
    rw [← Numeral.Parts.text, ← htext, Numeral.map_asciiForm_of_digits h]
    exact h
  simp only [List.forall_mem_append] at hdigit
  obtain ⟨hbefore, ⟨hsign, hmark, hdigits⟩, hafter⟩ := hdigit
  rintro (hne | hne | hne | hmem | hne | ⟨c, hc, hwide⟩)
  · obtain ⟨c, hc⟩ := List.exists_mem_of_ne_nil _ hne
    exact absurd (hp.before c hc) (by simp [not_blank_of_isSome (hbefore c hc)])
  · cases hs : p.sign with
    | none => exact hne hs
    | plus => cases hsign '+' (by simp [hs, Numeral.Sign.text])
    | minus => cases hsign '-' (by simp [hs, Numeral.Sign.text])
  · have hletter : ∀ mark ∈ Numeral.marks, mark ≠ [] → 'x' ∈ mark ∨ 'X' ∈ mark := by decide
    rcases hletter p.mark hp.mark hne with hx | hX
    · cases hmark 'x' hx
    · cases hmark 'X' hX
  · cases hdigits '_' hmem
  · obtain ⟨c, hc⟩ := List.exists_mem_of_ne_nil _ hne
    exact absurd (hp.after c hc) (by simp [not_blank_of_isSome (hafter c hc)])
  · obtain ⟨d, hd⟩ := Option.isSome_iff_exists.mp (h c hc)
    have hascii := (toNat_of_digit? hd).2
    omega

/-- A numeral without freedoms is its digits. -/
theorem digits_of_not_freed (htext : body.map Numeral.asciiForm = p.text) (hp : p.Writes m)
    (h : ¬ Freed p body) :
    body ≠ [] ∧ (∀ c ∈ body, (digit? 16 c).isSome = true) ∧ m = Numeral.valueOf body := by
  simp only [Freed, not_or, not_exists, not_and, Nat.not_le, Decidable.not_not] at h
  obtain ⟨hbefore, hsign, hmark, hunderscore, hafter, hascii⟩ := h
  obtain ⟨ds, hds, rfl⟩ := hp.digits
  have hbody : body = p.digits := by
    have hmap : body.map Numeral.asciiForm = body :=
      (List.map_congr_left fun c hc => if_pos (hascii c hc)).trans (List.map_id _)
    rw [← hmap, htext, Numeral.Parts.text, hbefore, hsign, hmark, hafter]
    simp [Numeral.Sign.text]
  subst hbody
  have hdigits : ∀ c ∈ p.digits, (digit? 16 c).isSome = true := by
    intro c hc
    rcases hds.digit_of_mem c hc with rfl | ⟨d, hd⟩
    · exact absurd hc hunderscore
    · rw [hd]
      rfl
  have hne : p.digits ≠ [] := by
    obtain ⟨c, r, -, hcons, -⟩ := hds.exists_cons
    rw [hcons]
    exact List.cons_ne_nil c r
  refine ⟨hne, hdigits, ?_⟩
  -- a run is read in one way only
  have hrun := Numeral.digitRun?_eq_some_iff.mpr (Numeral.digitRun_of_digits hne hdigits)
  rw [Numeral.digitRun?_eq_some_iff.mpr hds] at hrun
  rw [Option.some.inj hrun, hsign]
  rfl

/-- **The integers that are read** are those in the documented form, and those whose sign
and prefix leave a numeral that is more than digits. -/
theorem readNumber_eq_ok_iff_plain_or_loose :
    readNumber s = .ok n ↔ Plain s n ∨ Loose s n := by
  constructor
  · intro h
    obtain ⟨f, body, m, rfl, hends, hm, rfl⟩ := readNumber_eq_ok_iff.mp h
    obtain ⟨p, htext, hp⟩ := Numeral.read?_eq_some_iff.mp hm
    by_cases hfreed : Freed p body
    · exact Or.inr ⟨f, body, p, m, rfl, hends, htext, hp, hfreed, rfl⟩
    · obtain ⟨hne, hdigits, rfl⟩ := digits_of_not_freed htext hp hfreed
      exact Or.inl ⟨f, body, rfl, hne, hdigits, rfl⟩
  · rintro (h | ⟨f, body, p, m, rfl, hends, htext, hp, -, rfl⟩)
    · exact readNumber_of_plain h
    · exact readNumber_eq_ok_iff.mpr
        ⟨f, body, m, rfl, hends, Numeral.read?_eq_some_iff.mpr ⟨p, htext, hp⟩, rfl⟩

/-- No text is in the documented form and beyond it. -/
theorem not_loose_of_plain (h : Plain s n) : ¬ Loose s m := by
  rintro ⟨f, body, p, k, rfl, hends, htext, hp, hfreed, -⟩
  have hdigits := isSome_of_plain h
  rw [afterFront_text hends] at hdigits
  exact not_freed_of_digits htext hp hdigits hfreed

end Hex

namespace Datum

open Hex

/-- **The language of hexadecimal integers.**  A text is read as an integer exactly if it is
in the documented form and writes that integer, or its sign and its prefix leave a numeral
that is more than digits; it is never both.  Every other text is refused as a value. -/
theorem readHexInteger_language (s : String) :
    (∀ n, (Datum.text s).readHexInteger = .ok n ↔ Plain s.toList n ∨ Loose s.toList n) ∧
    (∀ n m, ¬ (Plain s.toList n ∧ Loose s.toList m)) ∧
    ((∃ e, (Datum.text s).readHexInteger = .error e ∧ e.label = "ValueError") ↔
      ∀ n, ¬ Plain s.toList n ∧ ¬ Loose s.toList n) := by
  have hok (n : Int) :
      (Datum.text s).readHexInteger = .ok n ↔ Plain s.toList n ∨ Loose s.toList n := by
    rw [← readNumber_eq_ok_iff_plain_or_loose]
    exact mapError_eq_ok_iff
  refine ⟨hok, fun n m h => not_loose_of_plain h.1 h.2, ?_⟩
  simp only [← not_or, ← hok]
  constructor
  · rintro ⟨e, he, -⟩ n hn
    exact nomatch he.symm.trans hn
  · intro h
    cases hread : readNumber s.toList with
    | ok n => exact absurd (congrArg (Except.mapError Error.hex) hread) (h n)
    | error e => exact ⟨.hex e, congrArg (Except.mapError Error.hex) hread, rfl⟩

/-- Two minus signs are no documented form, but are read: each turns the sign. -/
theorem readHexInteger_two_signs :
    (Datum.text "--5").readHexInteger = .ok 5 ∧ ¬ ∃ n, Plain "--5".toList n := by
  refine ⟨rfl, ?_⟩
  rintro ⟨n, h⟩
  exact absurd (isSome_of_plain h '-' (by decide)) (by decide)

end Datum
end Signet
