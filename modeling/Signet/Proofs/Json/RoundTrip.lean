import Signet.Json.Printer
import Signet.Proofs.Text.Digits

/-! # What the JSON writer writes the reader reads

A text is read back character by character (`textBody?_escaped`), an integer through its
digits (`number?_decimal`), and a value by induction over its arrays and objects
(`value?_print`): with anything behind it that a number cannot go on with, and with two
calls for every character.  Numbers with a fraction are left out, and so are integers of
more digits than the reader takes and values nested deeper than it goes.
-/

namespace Signet.Json

open Text

/-! ## Texts -/

theorem codeUnit?_control {n : Nat} (h : n < 0x20) :
    codeUnit? '0' '0' (digitChar (n / 16)) (digitChar (n % 16)) = some n := by
  have hall : ∀ n < 0x20,
      codeUnit? '0' '0' (digitChar (n / 16)) (digitChar (n % 16)) = some n := by decide
  exact hall n h

/-- A control character is read from the number that it is written as. -/
theorem textBody?_control {c : Char} (h : c.toNat < 0x20) (s : List Char) :
    textBody? ('\\' :: 'u' :: '0' :: '0' :: digitChar (c.toNat / 16) ::
      digitChar (c.toNat % 16) :: s) = (textBody? s).map fun p => (c :: p.1, p.2) := by
  have hhigh : isHighSurrogate c.toNat = false := by
    rw [isHighSurrogate, decide_eq_false (by omega), Bool.false_and]
  have hlow : isLowSurrogate c.toNat = false := by
    rw [isLowSurrogate, decide_eq_false (by omega), Bool.false_and]
  rw [textBody?, codeUnit?_control h]
  simp only [hhigh, hlow, Bool.false_eq_true, if_false, Char.ofNat_toNat]

/-- A character that needs no escape is read as it is. -/
theorem textBody?_plain {c : Char} (hquote : c ≠ '"') (hslash : c ≠ '\\')
    (h : ¬ c.toNat < 0x20) (s : List Char) :
    textBody? (c :: s) = (textBody? s).map fun p => (c :: p.1, p.2) := by
  rw [textBody?.eq_def]
  split
  next hs => cases hs
  next hs => exact absurd (List.cons.inj hs).1 hquote
  next hs => exact absurd (List.cons.inj hs).1 hslash
  next hs => exact absurd (List.cons.inj hs).1 hslash
  next hs =>
    obtain ⟨rfl, rfl⟩ := List.cons.inj hs
    exact if_neg h

/-- **Every character is read from what it is written as.** -/
theorem textBody?_escapedChar (c : Char) (s : List Char) :
    textBody? (escapedChar c ++ s) = (textBody? s).map fun p => (c :: p.1, p.2) := by
  unfold escapedChar
  split
  next h => subst h; rfl
  split
  next h => subst h; rfl
  split
  next h => subst h; rfl
  split
  next h => subst h; rfl
  split
  next h => subst h; rfl
  split
  next h => subst h; rfl
  split
  next h => subst h; rfl
  split
  next h => exact textBody?_control h s
  next hquote hslash _ _ _ _ _ h => exact textBody?_plain hquote hslash h s

/-- **A text is read back up to its closing quotation mark.** -/
theorem textBody?_escaped (s rest : List Char) :
    textBody? (s.flatMap escapedChar ++ '"' :: rest) = some (s, rest) := by
  induction s with
  | nil => rfl
  | cons c s ih =>
    rw [List.flatMap_cons, List.append_assoc, textBody?_escapedChar, ih]
    rfl

theorem printText_append (s : String) (rest : List Char) :
    printText s ++ rest = '"' :: (s.toList.flatMap escapedChar ++ '"' :: rest) := by
  rw [printText, List.cons_append, List.cons_append, List.append_assoc]
  rfl

/-! ## Numbers -/

/-- The text `rest` does not go on with a number that stands in front of it. -/
def EndsNumber (rest : List Char) : Prop :=
  ∀ c ∈ rest.head?, isDigit c = false ∧ c ≠ '.' ∧ c ≠ 'e' ∧ c ≠ 'E'

theorem endsNumber_nil : EndsNumber [] := fun _ h => nomatch h

theorem endsNumber_cons {c : Char} (rest : List Char)
    (h : isDigit c = false ∧ c ≠ '.' ∧ c ≠ 'e' ∧ c ≠ 'E') : EndsNumber (c :: rest) := by
  intro d hd
  obtain rfl : c = d := Option.some.inj hd
  exact h

variable {rest : List Char}

theorem spanDigits_append {ds : List Char} (hds : ∀ c ∈ ds, isDigit c = true)
    (h : EndsNumber rest) : spanDigits (ds ++ rest) = (ds, rest) := by
  have htake : rest.takeWhile isDigit = [] := by
    cases rest with
    | nil => rfl
    | cons c r => rw [List.takeWhile_cons, (h c rfl).1, if_neg Bool.false_ne_true]
  have hdrop : rest.dropWhile isDigit = rest := by
    cases rest with
    | nil => rfl
    | cons c r => rw [List.dropWhile_cons, (h c rfl).1, if_neg Bool.false_ne_true]
  rw [spanDigits, List.takeWhile_append_of_pos hds, List.dropWhile_append_of_pos hds, htake,
    hdrop, List.append_nil]

theorem fraction?_of_endsNumber (h : EndsNumber rest) : fraction? rest = some (none, rest) := by
  unfold fraction?
  split
  next => exact absurd rfl (h _ rfl).2.1
  next => rfl

theorem exponent?_of_endsNumber (h : EndsNumber rest) : exponent? rest = some (none, rest) := by
  unfold exponent?
  simp only
  split
  next => exact absurd rfl (h _ rfl).2.2.1
  next => exact absurd rfl (h _ rfl).2.2.2
  next => rfl

/-- How many characters the reader takes an integer from. -/
def IsShort (i : Int) : Prop :=
  (Numeral.decimal i).toList.length ≤ Numeral.decimalLimit

theorem toList_decimal (i : Int) : (Numeral.decimal i).toList =
    if i < 0 then '-' :: digits 10 i.natAbs else digits 10 i.natAbs := by
  rw [Numeral.decimal, String.toList_ofList]

theorem isShort_of_natAbs_lt {i : Int} {k : Nat} (hk : 0 < k) (h : i.natAbs < Nat.pow 10 k)
    (hlimit : k + 1 ≤ Numeral.decimalLimit) : IsShort i := by
  have hlength := (length_digits_le_iff (by decide) hk).mpr h
  rw [IsShort, toList_decimal]
  split
  · rw [List.length_cons]
    omega
  · omega

/-- The first digit of a number, and the others. -/
theorem exists_cons_digits (n : Nat) : ∃ c r, digits 10 n = c :: r ∧ isDigit c = true := by
  have hwhole := isWhole_digits n
  cases hds : digits 10 n with
  | nil =>
    rw [hds] at hwhole
    cases hwhole
  | cons c r => exact ⟨c, r, rfl, isDigit_of_mem_digits c (by rw [hds]; exact List.mem_cons_self)⟩

/-- Digits that end at `rest` are read as an integer. -/
theorem number?_of_whole {s ds : List Char} {negative : Bool}
    (hs : splitMinus s = (negative, ds ++ rest)) (hds : ∀ c ∈ ds, isDigit c = true)
    (hwhole : isWhole ds = true)
    (hlimit : ds.length + (if negative then 1 else 0) ≤ Numeral.decimalLimit)
    (h : EndsNumber rest) :
    number? s = some (.int (if negative then -natOfDigits ds else natOfDigits ds), rest) := by
  rw [number?, hs]
  simp only [spanDigits_append hds h, hwhole, fraction?_of_endsNumber h, Bool.not_true,
    Bool.false_eq_true, if_false, Nat.not_lt.mpr hlimit, exponent?_of_endsNumber h,
    Option.bind_eq_bind, Option.bind_some]
  rfl

/-- **An integer is read back from its digits.** -/
theorem number?_decimal {i : Int} (hshort : IsShort i) (h : EndsNumber rest) :
    number? ((Numeral.decimal i).toList ++ rest) = some (.int i, rest) := by
  have hdigits := isDigit_of_mem_digits (n := i.natAbs)
  have hwhole := isWhole_digits i.natAbs
  rw [IsShort, toList_decimal] at hshort
  rw [toList_decimal]
  by_cases hneg : i < 0
  · rw [if_pos hneg, List.length_cons] at hshort
    have hsplit : splitMinus ('-' :: (digits 10 i.natAbs ++ rest)) =
        (true, digits 10 i.natAbs ++ rest) := rfl
    rw [if_pos hneg, List.cons_append, number?_of_whole hsplit hdigits hwhole hshort h,
      natOfDigits_digits, if_pos rfl, Int.ofNat_natAbs_of_nonpos (Int.le_of_lt hneg), Int.neg_neg]
  · rw [if_neg hneg] at hshort
    have hsplit : splitMinus (digits 10 i.natAbs ++ rest) = (false, digits 10 i.natAbs ++ rest) := by
      obtain ⟨c, r, hcons, hc⟩ := exists_cons_digits i.natAbs
      rw [hcons, List.cons_append]
      unfold splitMinus
      split
      next hs =>
        obtain ⟨rfl, -⟩ := List.cons.inj hs
        cases hc
      next => rfl
    rw [if_neg hneg, number?_of_whole hsplit hdigits hwhole hshort h, natOfDigits_digits,
      if_neg Bool.false_ne_true, Int.natAbs_of_nonneg (Int.not_lt.mp hneg)]

/-! ## Values -/

/-- The values that are read back within a nesting of `depth`. -/
inductive Readable : Nat → Json → Prop
  | null {depth : Nat} : Readable depth .null
  | bool {depth : Nat} (b : Bool) : Readable depth (.bool b)
  | int {depth : Nat} {i : Int} (h : IsShort i) : Readable depth (.int i)
  | text {depth : Nat} (s : String) : Readable depth (.text s)
  | emptyArray {depth : Nat} : Readable depth (.array [])
  | emptyObject {depth : Nat} : Readable depth (.object [])
  | array {depth : Nat} {items : List Json} (h : ∀ x ∈ items, Readable depth x) :
    Readable (depth + 1) (.array items)
  | object {depth : Nat} {members : List (String × Json)}
    (h : ∀ m ∈ members, Readable depth m.2) : Readable (depth + 1) (.object members)

/-- No blank and no end of an array: what the texts of values start with. -/
def Starts (c : Char) : Prop :=
  isSpace c = false ∧ c ≠ ']'

theorem isDigit_ne {c d : Char} (hc : isDigit c = true) (hd : isDigit d = false) : c ≠ d := by
  rintro rfl
  rw [hc] at hd
  cases hd

theorem starts_of_isDigit {c : Char} (h : isDigit c = true) : Starts c := by
  refine ⟨?_, isDigit_ne h rfl⟩
  rw [isSpace, decide_eq_false (isDigit_ne h rfl), decide_eq_false (isDigit_ne h rfl),
    decide_eq_false (isDigit_ne h rfl), decide_eq_false (isDigit_ne h rfl)]
  rfl

/-- The first character of an integer. -/
theorem exists_cons_decimal (i : Int) : ∃ c r, (Numeral.decimal i).toList = c :: r ∧
    (c = '-' ∨ isDigit c = true) := by
  obtain ⟨c, r, hcons, hc⟩ := exists_cons_digits i.natAbs
  rw [toList_decimal]
  split
  · exact ⟨_, _, rfl, .inl rfl⟩
  · exact ⟨c, r, hcons, .inr hc⟩

theorem exists_cons_print {depth : Nat} {x : Json} (h : Readable depth x) :
    ∃ c r, x.print = c :: r ∧ Starts c := by
  cases h with
  | null => exact ⟨'n', "ull".toList, rfl, rfl, by decide⟩
  | bool b =>
    cases b
    · exact ⟨'f', "alse".toList, rfl, rfl, by decide⟩
    · exact ⟨'t', "rue".toList, rfl, rfl, by decide⟩
  | @int _ i h =>
    obtain ⟨c, r, hcons, rfl | hc⟩ := exists_cons_decimal i
    · exact ⟨'-', r, hcons, rfl, by decide⟩
    · exact ⟨c, r, hcons, starts_of_isDigit hc⟩
  | text s => exact ⟨_, _, rfl, rfl, by decide⟩
  | emptyArray => exact ⟨_, _, rfl, rfl, by decide⟩
  | emptyObject => exact ⟨_, _, rfl, rfl, by decide⟩
  | array h => exact ⟨_, _, rfl, rfl, by decide⟩
  | object h => exact ⟨_, _, rfl, rfl, by decide⟩

theorem skipSpace_of_starts {c : Char} (r : List Char) (h : Starts c) :
    skipSpace (c :: r) = c :: r := by
  rw [skipSpace, List.dropWhile_cons, h.1, if_neg Bool.false_ne_true]

theorem value?_word_or_number {c : Char} (fuel depth : Nat) (r : List Char) (h : Starts c)
    (hquote : c ≠ '"') (harray : c ≠ '[') (hobject : c ≠ '\x7b') :
    value? (fuel + 1) depth (c :: r) = (word? (c :: r)).or (number? (c :: r)) := by
  rw [value?, skipSpace_of_starts r h]
  split
  next hs => exact absurd (List.cons.inj hs).1 hquote
  next hs => exact absurd (List.cons.inj hs).1 harray
  next hs => exact absurd (List.cons.inj hs).1 hobject
  next => rfl

/-- No word starts with a digit, or with a digit behind a minus sign. -/
theorem word?_of_isDigit {c : Char} (h : isDigit c = true) (r : List Char) :
    word? (c :: r) = none ∧ word? ('-' :: c :: r) = none := by
  have hne {d : Char} (hd : isDigit d = false) : ¬ d = c := (isDigit_ne h hd).symm
  constructor
  · simp [word?, words, hne (d := 'n') rfl, hne (d := 't') rfl,
      hne (d := 'f') rfl, hne (d := 'N') rfl, hne (d := 'I') rfl, hne (d := '-') rfl]
  · simp [word?, words, hne (d := 'I') rfl]

theorem value?_null (fuel depth : Nat) (rest : List Char) :
    value? (fuel + 1) depth (print .null ++ rest) = some (.null, rest) := rfl

theorem value?_bool (fuel depth : Nat) (b : Bool) (rest : List Char) :
    value? (fuel + 1) depth (print (.bool b) ++ rest) = some (.bool b, rest) := by
  cases b <;> rfl

theorem value?_text (fuel depth : Nat) (s : String) (rest : List Char) :
    value? (fuel + 1) depth (print (.text s) ++ rest) = some (.text s, rest) := by
  rw [print, printText_append, value?, skipSpace_of_starts _ ⟨rfl, by decide⟩]
  simp only [textBody?_escaped, Option.map_some, String.ofList_toList]

theorem value?_int (fuel depth : Nat) {i : Int} (hshort : IsShort i) (h : EndsNumber rest) :
    value? (fuel + 1) depth (print (.int i) ++ rest) = some (.int i, rest) := by
  have hnumber := number?_decimal hshort h
  obtain ⟨d, ds, hdigits, hd⟩ := exists_cons_digits i.natAbs
  rw [print]
  rw [toList_decimal, hdigits] at hnumber ⊢
  split at hnumber
  next hneg =>
    rw [if_pos hneg]
    rw [List.cons_append, List.cons_append] at hnumber ⊢
    rw [value?_word_or_number fuel depth _ ⟨rfl, by decide⟩ (by decide) (by decide) (by decide),
      (word?_of_isDigit hd _).2, hnumber, Option.none_or]
  next hneg =>
    rw [if_neg hneg]
    rw [List.cons_append] at hnumber ⊢
    rw [value?_word_or_number fuel depth _ (starts_of_isDigit hd) (isDigit_ne hd rfl)
      (isDigit_ne hd rfl) (isDigit_ne hd rfl), (word?_of_isDigit hd _).1, hnumber,
      Option.none_or]

/-! ## Arrays and objects -/

theorem endsNumber_comma (rest : List Char) : EndsNumber (',' :: rest) :=
  endsNumber_cons rest (by decide)

theorem endsNumber_bracket (rest : List Char) : EndsNumber (']' :: rest) :=
  endsNumber_cons rest (by decide)

theorem endsNumber_brace (rest : List Char) : EndsNumber ('\x7d' :: rest) :=
  endsNumber_cons rest (by decide)

/-- A value is read back with `depth` levels of nesting left, whatever stands behind it,
with two calls for every character. -/
def ReadsBack (depth : Nat) (x : Json) : Prop :=
  ∀ rest fuel, EndsNumber rest → 2 * x.print.length ≤ fuel →
    value? fuel depth (x.print ++ rest) = some (x, rest)

section Steps

variable {fuel depth : Nat} {x : Json} {s t rest : List Char}

theorem items?_last (hx : value? fuel depth s = some (x, ']' :: rest)) :
    items? (fuel + 1) depth s = some ([x], rest) := by
  rw [items?, hx]
  rfl

theorem items?_more {xs : List Json} (hx : value? fuel depth s = some (x, ',' :: t))
    (ht : items? fuel depth t = some (xs, rest)) :
    items? (fuel + 1) depth s = some (x :: xs, rest) := by
  rw [items?, hx]
  show ((items? fuel depth t).bind fun p => some (x :: p.1, p.2)) = _
  rw [ht]
  rfl

variable {name : String}

theorem members?_last (hx : value? fuel depth s = some (x, '\x7d' :: rest)) :
    members? (fuel + 1) depth (printText name ++ ':' :: s) = some ([(name, x)], rest) := by
  have hcolon : skipSpace (':' :: s) = ':' :: s := rfl
  rw [printText_append, members?, skipSpace_of_starts _ ⟨rfl, by decide⟩]
  simp only [textBody?_escaped, Option.bind_eq_bind, Option.bind_some, hcolon, hx,
    String.ofList_toList]
  rfl

theorem members?_more {ms : List (String × Json)}
    (hx : value? fuel depth s = some (x, ',' :: t))
    (ht : members? fuel depth t = some (ms, rest)) :
    members? (fuel + 1) depth (printText name ++ ':' :: s) = some ((name, x) :: ms, rest) := by
  have hcolon : skipSpace (':' :: s) = ':' :: s := rfl
  have hcomma : skipSpace (',' :: t) = ',' :: t := rfl
  rw [printText_append, members?, skipSpace_of_starts _ ⟨rfl, by decide⟩]
  simp only [textBody?_escaped, Option.bind_eq_bind, Option.bind_some, hcolon, hx, hcomma, ht,
    String.ofList_toList]
  rfl

end Steps

theorem items?_printItems {depth fuel : Nat} {items : List Json}
    (h : ∀ x ∈ items, ReadsBack depth x) (hne : items ≠ [])
    (hfuel : 2 * (printItems items).length + 1 ≤ fuel) (rest : List Char) :
    items? fuel depth (printItems items ++ ']' :: rest) = some (items, rest) := by
  induction items generalizing fuel with
  | nil => exact absurd rfl hne
  | cons x r ih =>
    obtain ⟨fuel, rfl⟩ : ∃ n, fuel = n + 1 := ⟨fuel - 1, by omega⟩
    have hx : ReadsBack depth x := h x List.mem_cons_self
    cases r with
    | nil =>
      have hlast : 2 * x.print.length + 1 ≤ fuel + 1 := hfuel
      exact items?_last (hx _ _ (endsNumber_bracket rest) (by omega))
    | cons y r =>
      -- the call for the list that is left has a comma's worth of fuel over
      have hcons : printItems (x :: y :: r) = x.print ++ ',' :: printItems (y :: r) := rfl
      have hr (z : Json) (hz : z ∈ y :: r) : ReadsBack depth z := h z (List.mem_cons_of_mem x hz)
      rw [hcons, List.length_append, List.length_cons] at hfuel
      rw [hcons, List.append_assoc, List.cons_append]
      exact items?_more (hx _ _ (endsNumber_comma _) (by omega))
        (ih hr (List.cons_ne_nil y r) (by omega))

theorem members?_printMembers {depth fuel : Nat} {members : List (String × Json)}
    (h : ∀ m ∈ members, ReadsBack depth m.2) (hne : members ≠ [])
    (hfuel : 2 * (printMembers members).length + 1 ≤ fuel) (rest : List Char) :
    members? fuel depth (printMembers members ++ '\x7d' :: rest) = some (members, rest) := by
  induction members generalizing fuel with
  | nil => exact absurd rfl hne
  | cons m r ih =>
    obtain ⟨name, x⟩ := m
    obtain ⟨fuel, rfl⟩ : ∃ n, fuel = n + 1 := ⟨fuel - 1, by omega⟩
    have hx : ReadsBack depth x := h (name, x) List.mem_cons_self
    cases r with
    | nil =>
      have hcons : printMembers [(name, x)] = printText name ++ ':' :: x.print := rfl
      rw [hcons, List.length_append, List.length_cons] at hfuel
      rw [hcons, List.append_assoc, List.cons_append]
      exact members?_last (hx _ _ (endsNumber_brace rest) (by omega))
    | cons m r =>
      have hcons : printMembers ((name, x) :: m :: r) =
          printText name ++ ':' :: (x.print ++ ',' :: printMembers (m :: r)) := by
        rw [printMembers, List.append_assoc]
        rfl
        exact List.cons_ne_nil m r
      have hr (z : String × Json) (hz : z ∈ m :: r) : ReadsBack depth z.2 :=
        h z (List.mem_cons_of_mem _ hz)
      rw [hcons, List.length_append, List.length_cons, List.length_append, List.length_cons]
        at hfuel
      rw [hcons, List.append_assoc, List.cons_append, List.append_assoc, List.cons_append]
      exact members?_more (hx _ _ (endsNumber_comma _) (by omega))
        (ih hr (List.cons_ne_nil m r) (by omega))

/-- The text of a value has a character, so that there is a call for it. -/
theorem readsBack_of_succ {depth : Nat} {x : Json} (hx : Readable depth x)
    (h : ∀ rest fuel, EndsNumber rest → 2 * x.print.length ≤ fuel + 1 →
      value? (fuel + 1) depth (x.print ++ rest) = some (x, rest)) : ReadsBack depth x := by
  intro rest fuel hrest hfuel
  obtain ⟨c, r, hcons, -⟩ := exists_cons_print hx
  have hpos : 0 < x.print.length := by
    rw [hcons]
    exact Nat.succ_pos r.length
  obtain ⟨fuel, rfl⟩ : ∃ n, fuel = n + 1 := ⟨fuel - 1, by omega⟩
  exact h rest fuel hrest hfuel

theorem exists_cons_printItems {depth : Nat} {x : Json} (h : Readable depth x) (r : List Json) :
    ∃ c s, printItems (x :: r) = c :: s ∧ Starts c := by
  obtain ⟨c, s, hcons, hc⟩ := exists_cons_print h
  cases r with
  | nil => exact ⟨c, s, hcons, hc⟩
  | cons y r =>
    have happend : printItems (x :: y :: r) = x.print ++ ',' :: printItems (y :: r) := rfl
    exact ⟨c, s ++ ',' :: printItems (y :: r), by rw [happend, hcons, List.cons_append], hc⟩

theorem exists_cons_printMembers (m : String × Json) (r : List (String × Json)) :
    ∃ s, printMembers (m :: r) = '"' :: s := by
  cases r with
  | nil => exact ⟨_, rfl⟩
  | cons y r => exact ⟨_, rfl⟩

theorem value?_array {fuel depth : Nat} {items : List Json} {s rest : List Char} {c : Char}
    (hc : Starts c) (h : items? fuel depth (c :: s) = some (items, rest)) :
    value? (fuel + 1) (depth + 1) ('[' :: c :: s) = some (.array items, rest) := by
  rw [value?, skipSpace_of_starts _ ⟨rfl, by decide⟩]
  simp only [skipSpace_of_starts s hc]
  split
  next hs => exact absurd (List.cons.inj hs).1 hc.2
  next hzero _ => cases hzero
  next hdepth _ =>
    cases hdepth
    rw [h]
    rfl

theorem value?_object {fuel depth : Nat} {members : List (String × Json)} {s rest : List Char}
    (h : members? fuel depth ('"' :: s) = some (members, rest)) :
    value? (fuel + 1) (depth + 1) ('\x7b' :: '"' :: s) = some (.object members, rest) := by
  rw [value?, skipSpace_of_starts _ ⟨rfl, by decide⟩]
  simp only [skipSpace_of_starts s (c := '"') ⟨rfl, by decide⟩]
  show (members? fuel depth ('"' :: s)).map _ = _
  rw [h]
  rfl

theorem readsBack_array {depth : Nat} {items : List Json}
    (h : ∀ x ∈ items, Readable depth x) (ih : ∀ x ∈ items, ReadsBack depth x) :
    ReadsBack (depth + 1) (.array items) := by
  cases items with
  | nil => exact readsBack_of_succ .emptyArray fun _ _ _ _ => rfl
  | cons x r =>
    refine readsBack_of_succ (.array h) fun rest fuel _ hfuel => ?_
    rw [print, List.length_append, List.length_cons, List.length_singleton] at hfuel
    have hroom : 2 * (printItems (x :: r)).length + 1 ≤ fuel := by omega
    have hitems := items?_printItems ih (List.cons_ne_nil x r) hroom rest
    obtain ⟨c, s, hcons, hc⟩ := exists_cons_printItems (h x List.mem_cons_self) r
    rw [print, List.cons_append, List.cons_append, List.append_assoc]
    rw [hcons] at hitems ⊢
    exact value?_array hc hitems

theorem readsBack_object {depth : Nat} {members : List (String × Json)}
    (h : ∀ m ∈ members, Readable depth m.2) (ih : ∀ m ∈ members, ReadsBack depth m.2) :
    ReadsBack (depth + 1) (.object members) := by
  cases members with
  | nil => exact readsBack_of_succ .emptyObject fun _ _ _ _ => rfl
  | cons m r =>
    refine readsBack_of_succ (.object h) fun rest fuel _ hfuel => ?_
    rw [print, List.length_append, List.length_cons, List.length_singleton] at hfuel
    have hroom : 2 * (printMembers (m :: r)).length + 1 ≤ fuel := by omega
    have hmembers := members?_printMembers ih (List.cons_ne_nil m r) hroom rest
    obtain ⟨s, hcons⟩ := exists_cons_printMembers m r
    rw [print, List.cons_append, List.cons_append, List.append_assoc]
    rw [hcons] at hmembers ⊢
    exact value?_object hmembers

/-- **A value is read back from its text**: by induction on how it is nested. -/
theorem readsBack_of_readable {depth : Nat} {x : Json} (h : Readable depth x) :
    ReadsBack depth x := by
  induction h with
  | null => exact readsBack_of_succ .null fun rest fuel _ _ => value?_null fuel _ rest
  | bool b => exact readsBack_of_succ (.bool b) fun rest fuel _ _ => value?_bool fuel _ b rest
  | int h => exact readsBack_of_succ (.int h) fun _ fuel hrest _ => value?_int fuel _ h hrest
  | text s => exact readsBack_of_succ (.text s) fun rest fuel _ _ => value?_text fuel _ s rest
  | emptyArray => exact readsBack_of_succ .emptyArray fun _ _ _ _ => rfl
  | emptyObject => exact readsBack_of_succ .emptyObject fun _ _ _ _ => rfl
  | array h ih => exact readsBack_array h ih
  | object h ih => exact readsBack_object h ih

/-- **A text that was written is read back.** -/
theorem parse?_print {depth : Nat} {x : Json} (h : Readable depth x) :
    parse? depth x.print = some x := by
  have hread := readsBack_of_readable h [] (2 * x.print.length + 2) endsNumber_nil (by omega)
  rw [List.append_nil] at hread
  rw [parse?, hread]
  rfl

end Signet.Json
