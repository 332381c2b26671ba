import Signet.Numeral

/-! # The grammar of numerals

A numeral of base sixteen is put together from parts (`Numeral.Parts`): blanks, at most one
sign, at most one base mark, digits between which single underscores may stand, and blanks
again.  A reader takes exactly the texts whose ASCII form is put together so, and reads the
number that the parts write (`read?_eq_some_iff`).
-/

namespace Signet

namespace Text

/-! ## Trimming -/

section Trim

variable {p : Char → Bool} {a b s : List Char}

theorem dropWhile_append (ha : ∀ c ∈ a, p c = true) (hs : ∀ c ∈ s, p c = false) :
    (a ++ s).dropWhile p = s := by
  rw [List.dropWhile_append_of_pos ha]
  cases s with
  | nil => rfl
  | cons c r => exact List.dropWhile_cons_of_neg (by simp [hs c (List.mem_cons_self ..)])

/-- What stands between characters to trim is left, if there are none in it. -/
theorem trim_append (ha : ∀ c ∈ a, p c = true) (hb : ∀ c ∈ b, p c = true)
    (hs : ∀ c ∈ s, p c = false) : trim p (a ++ (s ++ b)) = s := by
  have hback : ∀ c ∈ b.reverse, p c = true := fun c hc => hb c (List.mem_reverse.mp hc)
  cases s with
  | nil =>
    have hall : ∀ c ∈ a ++ b, p c = true := fun c hc => (List.mem_append.mp hc).elim (ha c) (hb c)
    have hnone : (a ++ b).dropWhile p = [] := by
      simpa using dropWhile_append (s := []) hall (fun _ hc => nomatch hc)
    rw [List.nil_append, trim, hnone]
    rfl
  | cons c r =>
    have hfront : (a ++ (c :: r ++ b)).dropWhile p = c :: r ++ b := by
      rw [List.dropWhile_append_of_pos ha, List.cons_append,
        List.dropWhile_cons_of_neg (by simp [hs c (List.mem_cons_self ..)])]
    rw [trim, hfront, List.reverse_append,
      dropWhile_append hback fun c hc => hs c (List.mem_reverse.mp hc), List.reverse_reverse]

/-- A text without characters to trim stays as it is. -/
theorem trim_eq_self (hs : ∀ c ∈ s, p c = false) : trim p s = s := by
  simpa using trim_append (a := []) (b := []) nofun nofun hs

/-- A text is what is left of it between characters that were trimmed. -/
theorem exists_eq_append_trim (p : Char → Bool) (s : List Char) :
    ∃ a b, s = a ++ (trim p s ++ b) ∧ (∀ c ∈ a, p c = true) ∧ ∀ c ∈ b, p c = true := by
  have htake (s : List Char) : ∀ c ∈ s.takeWhile p, p c = true :=
    List.all_eq_true.mp List.all_takeWhile
  have hback : s.dropWhile p =
      trim p s ++ ((s.dropWhile p).reverse.takeWhile p).reverse := by
    rw [trim, ← List.reverse_append, List.takeWhile_append_dropWhile, List.reverse_reverse]
  refine ⟨s.takeWhile p, ((s.dropWhile p).reverse.takeWhile p).reverse, ?_, htake s, ?_⟩
  · rw [← hback, List.takeWhile_append_dropWhile]
  · exact fun c hc => htake _ c (List.mem_reverse.mp hc)

end Trim

/-! ## Digits -/

section Digit

variable {base d : Nat} {c : Char}

/-- The value of a digit or a letter by its code point. -/
theorem asciiDigit?_eq (c : Char) :
    asciiDigit? c =
      if 48 ≤ c.toNat ∧ c.toNat ≤ 57 then some (c.toNat - 48)
      else if 97 ≤ c.toNat ∧ c.toNat ≤ 122 then some (c.toNat - 87)
      else if 65 ≤ c.toNat ∧ c.toNat ≤ 90 then some (c.toNat - 55)
      else none := by
  have h0 : '0'.toNat = 48 := rfl
  have h9 : '9'.toNat = 57 := rfl
  have ha : 'a'.toNat = 97 := rfl
  have hz : 'z'.toNat = 122 := rfl
  have hA : 'A'.toNat = 65 := rfl
  have hZ : 'Z'.toNat = 90 := rfl
  have hle (a b : Char) : a ≤ b ↔ a.toNat ≤ b.toNat := UInt32.le_iff_toNat_le
  simp only [asciiDigit?, hle, h0, h9, ha, hz, hA, hZ]

theorem toNat_of_digit? (h : digit? base c = some d) : 48 ≤ c.toNat ∧ c.toNat ≤ 122 := by
  obtain ⟨hc, -⟩ := Option.filter_eq_some_iff.mp h
  rw [asciiDigit?_eq] at hc
  split at hc
  · omega
  split at hc
  · omega
  split at hc
  · omega
  · cases hc

/-- No blank stands between the digits and the letters of ASCII. -/
theorem isNumeralBlank_of_bounds (hlow : 48 ≤ c.toNat) (hhigh : c.toNat ≤ 122) :
    isNumeralBlank c = false := by
  simp [isNumeralBlank, isAsciiBlank, isWideBlank]
  omega

theorem isBlank_of_bounds (hlow : 48 ≤ c.toNat) (hhigh : c.toNat ≤ 122) : isBlank c = false := by
  rw [isBlank, isNumeralBlank_of_bounds hlow hhigh]
  simp
  omega

/-- A digit is no blank, no sign and no underscore. -/
theorem digit_bare (h : digit? base c = some d) :
    isNumeralBlank c = false ∧ c ≠ '-' ∧ c ≠ '+' ∧ c ≠ '_' := by
  obtain ⟨hlow, hhigh⟩ := toNat_of_digit? h
  refine ⟨isNumeralBlank_of_bounds hlow hhigh, ?_, ?_, ?_⟩
  · rintro rfl
    exact absurd hlow (by decide)
  · rintro rfl
    exact absurd hlow (by decide)
  · rintro rfl
    cases h

/-- A digit is none of the blanks that are dropped inside a text either. -/
theorem isBlank_of_digit? (h : digit? base c = some d) : isBlank c = false :=
  isBlank_of_bounds (toNat_of_digit? h).1 (toNat_of_digit? h).2

end Digit
end Text

namespace Numeral

open Text

/-- Digits of a base, between which single underscores may stand, and their values. -/
inductive DigitRun (base : Nat) : List Char → List Nat → Prop
  | last {c : Char} {d : Nat} (h : digit? base c = some d) : DigitRun base [c] [d]
  | next {c : Char} {d : Nat} {r : List Char} {ds : List Nat} (h : digit? base c = some d)
      (hr : DigitRun base r ds) : DigitRun base (c :: r) (d :: ds)
  | joined {c : Char} {d : Nat} {r : List Char} {ds : List Nat} (h : digit? base c = some d)
      (hr : DigitRun base r ds) : DigitRun base (c :: '_' :: r) (d :: ds)

namespace DigitRun

variable {base : Nat} {s : List Char} {ds : List Nat}

/-- A run of digits starts with a digit. -/
theorem exists_cons (h : DigitRun base s ds) : ∃ c r d, s = c :: r ∧ digit? base c = some d := by
  cases h with
  | last h | next h _ | joined h _ => exact ⟨_, _, _, rfl, h⟩

/-- A run holds digits and underscores. -/
theorem digit_of_mem (h : DigitRun base s ds) :
    ∀ c ∈ s, c = '_' ∨ ∃ d, digit? base c = some d := by
  induction h with
  | last h =>
    intro c hc
    rw [List.mem_singleton.mp hc]
    exact Or.inr ⟨_, h⟩
  | next h _ ih =>
    intro c hc
    rcases List.mem_cons.mp hc with rfl | hc
    · exact Or.inr ⟨_, h⟩
    · exact ih c hc
  | joined h _ ih =>
    intro c hc
    rcases List.mem_cons.mp hc with rfl | hc
    · exact Or.inr ⟨_, h⟩
    rcases List.mem_cons.mp hc with rfl | hc
    · exact Or.inl rfl
    · exact ih c hc

end DigitRun

/-- **The digits that are read are those of a run.** -/
theorem digitRun?_eq_some_iff {base : Nat} {s : List Char} {ds : List Nat} :
    digitRun? base s = some ds ↔ DigitRun base s ds := by
  constructor
  · intro h
    fun_induction digitRun? base s generalizing ds with
    | case1 => cases h
    | case2 c =>
      obtain ⟨d, hd, rfl⟩ := Option.map_eq_some_iff.mp h
      exact .last hd
    | case3 c rest ih =>
      obtain ⟨d, hd, h⟩ := Option.bind_eq_some_iff.mp h
      obtain ⟨ds', hrest, h⟩ := Option.bind_eq_some_iff.mp h
      cases h
      exact .joined hd (ih hrest)
    | case4 c rest _ _ ih =>
      obtain ⟨d, hd, h⟩ := Option.bind_eq_some_iff.mp h
      obtain ⟨ds', hrest, h⟩ := Option.bind_eq_some_iff.mp h
      cases h
      exact .next hd (ih hrest)
  · intro h
    induction h with
    | last h => simp [digitRun?, h]
    | next h hr ih =>
      obtain ⟨c, r, d, rfl, hc⟩ := hr.exists_cons
      rw [digitRun?]
      · simp [h, ih]
      · simp
      · intro r' heq
        obtain ⟨-, -, -, hunderscore⟩ := digit_bare hc
        exact hunderscore (List.cons.inj heq).1
    | joined h _ ih => simp [digitRun?, h, ih]

/-- Digits without underscores are a run. -/
theorem digitRun_of_digits {base : Nat} {s : List Char} (hne : s ≠ [])
    (h : ∀ c ∈ s, (digit? base c).isSome = true) :
    DigitRun base s (s.map fun c => (digit? base c).getD 0) := by
  induction s with
  | nil => exact absurd rfl hne
  | cons c r ih =>
    obtain ⟨hc, hr⟩ := List.forall_mem_cons.mp h
    have hd : digit? base c = some ((digit? base c).getD 0) := by
      obtain ⟨d, hd⟩ := Option.isSome_iff_exists.mp hc
      rw [hd, Option.getD_some]
    cases r with
    | nil => exact .last hd
    | cons c' r => exact .next hd (ih (fun h => nomatch h) hr)

/-! ## Signs and marks -/

/-- The sign of a numeral, if it has one. -/
inductive Sign
  | none
  | plus
  | minus
  deriving DecidableEq, Repr

namespace Sign

/-- The sign as it stands in a text. -/
def text : Sign → List Char
  | none => []
  | plus => ['+']
  | minus => ['-']

/-- A number behind the sign. -/
def signed : Sign → Nat → Int
  | minus, n => -n
  | _, n => n

end Sign

/-- The base marks of base sixteen, and none; an underscore may follow a mark. -/
def marks : List (List Char) :=
  [[], ['0', 'x'], ['0', 'X'], ['0', 'x', '_'], ['0', 'X', '_']]

theorem markedBase?_eq_sixteen_iff {c : Char} : markedBase? c = some 16 ↔ c = 'x' ∨ c = 'X' := by
  unfold markedBase?
  split <;> simp_all

/-- What the mark is split off from is the mark and the rest. -/
theorem exists_mark (s : List Char) :
    ∃ mark ∈ marks, ∃ rest, s = mark ++ rest ∧ splitMark .hexadecimal s = (16, rest) := by
  unfold splitMark
  split
  next c rest =>
    split
    next hc =>
      rcases markedBase?_eq_sixteen_iff.mp hc with rfl | rfl
      · unfold afterMark
        split
        · exact ⟨['0', 'x', '_'], by simp [marks], _, rfl, rfl⟩
        · exact ⟨['0', 'x'], by simp [marks], _, rfl, rfl⟩
      · unfold afterMark
        split
        · exact ⟨['0', 'X', '_'], by simp [marks], _, rfl, rfl⟩
        · exact ⟨['0', 'X'], by simp [marks], _, rfl, rfl⟩
    · exact ⟨[], by simp [marks], _, rfl, rfl⟩
  · exact ⟨[], by simp [marks], _, rfl, rfl⟩
  next heq => cases heq
  next hform _ _ => exact absurd rfl hform

/-- A text without letters of a mark has no mark. -/
theorem splitMark_of_forall {s : List Char} (h : ∀ c ∈ s, markedBase? c ≠ some 16) :
    splitMark .hexadecimal s = (16, s) := by
  unfold splitMark
  split
  next c _ _ => exact if_neg (h c (by simp))
  · rfl
  next heq => cases heq
  next hform _ _ => exact absurd rfl hform

/-- The sign is split off from what is none itself. -/
theorem splitSign_append (sign : Sign) {s : List Char} (h : ∀ c ∈ s, c ≠ '-' ∧ c ≠ '+') :
    splitSign (sign.text ++ s) = (decide (sign = .minus), s) := by
  cases sign with
  | plus => rfl
  | minus => rfl
  | none =>
    rw [Sign.text, List.nil_append]
    unfold splitSign
    split
    next r => exact absurd rfl (h '-' (List.mem_cons_self ..)).1
    next r => exact absurd rfl (h '+' (List.mem_cons_self ..)).2
    · rfl

theorem exists_sign (s : List Char) :
    ∃ (sign : Sign) (rest : List Char), s = sign.text ++ rest ∧
      splitSign s = (decide (sign = .minus), rest) := by
  unfold splitSign
  split
  · exact ⟨.minus, _, rfl, rfl⟩
  · exact ⟨.plus, _, rfl, rfl⟩
  · exact ⟨.none, _, rfl, rfl⟩

section Grammar

variable {mark s : List Char} {ds : List Nat}

/-- A mark and a run hold no blank and no sign. -/
theorem bare_of_mem_append (hmark : mark ∈ marks) (hs : DigitRun 16 s ds) :
    ∀ c ∈ mark ++ s, isNumeralBlank c = false ∧ c ≠ '-' ∧ c ≠ '+' := by
  have hmarks : ∀ mark ∈ marks, ∀ c ∈ mark, isNumeralBlank c = false ∧ c ≠ '-' ∧ c ≠ '+' := by
    have : (marks.all fun mark => mark.all fun c =>
        decide (isNumeralBlank c = false ∧ c ≠ '-' ∧ c ≠ '+')) = true := by
      decide
    simpa only [List.all_eq_true, decide_eq_true_eq] using this
  intro c hc
  rcases List.mem_append.mp hc with hc | hc
  · exact hmarks mark hmark c hc
  rcases hs.digit_of_mem c hc with rfl | ⟨d, hd⟩
  · decide
  · obtain ⟨hblank, hminus, hplus, -⟩ := digit_bare hd
    exact ⟨hblank, hminus, hplus⟩

/-- A mark in front of a run is split off from it. -/
theorem splitMark_append (hmark : mark ∈ marks) (hs : DigitRun 16 s ds) :
    splitMark .hexadecimal (mark ++ s) = (16, s) := by
  have hafter : afterMark s = s := by
    obtain ⟨c, r, d, rfl, hc⟩ := hs.exists_cons
    obtain ⟨-, -, -, hunderscore⟩ := digit_bare hc
    unfold afterMark
    split
    next h => exact absurd (List.cons.inj h).1 hunderscore
    · rfl
  simp only [marks, List.mem_cons, List.not_mem_nil, or_false] at hmark
  rcases hmark with rfl | rfl | rfl | rfl | rfl
  · refine splitMark_of_forall fun c hc => ?_
    rcases hs.digit_of_mem c hc with rfl | ⟨d, hd⟩
    · decide
    intro hletter
    rcases markedBase?_eq_sixteen_iff.mp hletter with rfl | rfl <;> cases hd
  · exact congrArg (Prod.mk 16) hafter
  · exact congrArg (Prod.mk 16) hafter
  · rfl
  · rfl

/-- **An unsigned numeral is a mark and a run of digits.** -/
theorem readNat?_eq_some_iff {n : Nat} :
    readNat? .hexadecimal s = some n ↔
      ∃ mark ∈ marks, ∃ digits ds, s = mark ++ digits ∧ DigitRun 16 digits ds ∧
        n = ofDigits 16 ds := by
  constructor
  · intro h
    obtain ⟨mark, hmark, digits, rfl, hsplit⟩ := exists_mark s
    rw [readNat?, hsplit] at h
    obtain ⟨ds, hds, h⟩ := Option.bind_eq_some_iff.mp h
    cases h
    exact ⟨mark, hmark, digits, ds, rfl, digitRun?_eq_some_iff.mp hds, rfl⟩
  · rintro ⟨mark, hmark, digits, ds, rfl, hds, rfl⟩
    rw [readNat?, splitMark_append hmark hds]
    simp [digitRun?_eq_some_iff.mpr hds]

/-! ## Numerals -/

/-- The parts that a numeral is put together from. -/
structure Parts where
  before : List Char
  sign : Sign
  mark : List Char
  digits : List Char
  after : List Char

namespace Parts

/-- The parts one after the other. -/
def text (p : Parts) : List Char :=
  p.before ++ (p.sign.text ++ (p.mark ++ p.digits) ++ p.after)

/-- Whether the parts are those of a numeral of base sixteen that writes `n`. -/
structure Writes (p : Parts) (n : Int) : Prop where
  before : ∀ c ∈ p.before, isNumeralBlank c = true
  mark : p.mark ∈ marks
  digits : ∃ ds, DigitRun 16 p.digits ds ∧ n = p.sign.signed (ofDigits 16 ds)
  after : ∀ c ∈ p.after, isNumeralBlank c = true

end Parts

/-- **A text is read as a numeral exactly if its ASCII form is put together from the parts
of one.** -/
theorem read?_eq_some_iff {n : Int} :
    read? .hexadecimal s = some n ↔
      ∃ p : Parts, s.map asciiForm = p.text ∧ p.Writes n := by
  constructor
  · intro h
    obtain ⟨before, after, htext, hbefore, hafter⟩ :=
      exists_eq_append_trim isNumeralBlank (s.map asciiForm)
    obtain ⟨sign, rest, hsign, hsplit⟩ := exists_sign (trim isNumeralBlank (s.map asciiForm))
    rw [read?, hsplit] at h
    obtain ⟨m, hm, rfl⟩ := Option.map_eq_some_iff.mp h
    obtain ⟨k, hk, hm⟩ := Option.bind_eq_some_iff.mp hm
    cases hm
    obtain ⟨mark, hmark, digits, ds, rfl, hds, rfl⟩ := readNat?_eq_some_iff.mp hk
    refine ⟨⟨before, sign, mark, digits, after⟩, ?_, hbefore, hmark, ⟨ds, hds, ?_⟩, hafter⟩
    · rw [htext, hsign]
      rfl
    · cases sign <;> simp [Sign.signed]
  · rintro ⟨⟨before, sign, mark, digits, after⟩, htext, hbefore, hmark, ⟨ds, hds, rfl⟩, hafter⟩
    have hbare := bare_of_mem_append hmark hds
    have hsigned : ∀ c ∈ sign.text ++ (mark ++ digits), isNumeralBlank c = false := by
      intro c hc
      rcases List.mem_append.mp hc with hc | hc
      · cases sign <;> simp [Sign.text] at hc <;> subst hc <;> decide
      · exact (hbare c hc).1
    have htrim : trim isNumeralBlank (s.map asciiForm) = sign.text ++ (mark ++ digits) := by
      rw [htext]
      exact trim_append hbefore hafter hsigned
    have hnat : readNat? .hexadecimal (mark ++ digits) = some (ofDigits 16 ds) :=
      readNat?_eq_some_iff.mpr ⟨mark, hmark, digits, ds, rfl, hds, rfl⟩
    rw [read?, htrim, splitSign_append sign fun c hc => (hbare c hc).2]
    simp only [hnat]
    cases sign <;> rfl

end Grammar

/-! ## Digits alone -/

/-- The number that digits of base sixteen write. -/
def valueOf (ds : List Char) : Nat :=
  ofDigits 16 (ds.map fun c => (digit? 16 c).getD 0)

variable {ds : List Char}

/-- Digits are characters of ASCII. -/
theorem map_asciiForm_of_digits (h : ∀ c ∈ ds, (digit? 16 c).isSome = true) :
    ds.map asciiForm = ds := by
  refine (List.map_congr_left fun c hc => ?_).trans (List.map_id _)
  obtain ⟨d, hd⟩ := Option.isSome_iff_exists.mp (h c hc)
  have hascii := (toNat_of_digit? hd).2
  exact if_pos (by omega)

/-- **Digits are read as the number that they write.** -/
theorem read?_of_digits (hne : ds ≠ []) (h : ∀ c ∈ ds, (digit? 16 c).isSome = true) :
    read? .hexadecimal ds = some (valueOf ds : Int) :=
  read?_eq_some_iff.mpr ⟨⟨[], .none, [], ds, []⟩,
    by simp [Parts.text, Sign.text, map_asciiForm_of_digits h],
    ⟨nofun, by simp [marks], ⟨_, digitRun_of_digits hne h, rfl⟩, nofun⟩⟩

end Numeral
end Signet
