import Signet.Hex
import Signet.Proofs.Text.NumeralGrammar

/-! # Letters of either case

Lower case is one equation on code points (`Text.toNat_toLower`): the capital letters of ASCII
move up by 32, and nothing else moves.  No blank and no mark is a letter but the `x` of a
prefix, which either case of it is taken for, and digits have the same value in either case
(`Text.asciiDigit?_toLower`).  So the readers of hexadecimal byte strings have one outcome,
success or failure, for a text and its lower case (`Hex.readSpacedBytes_map_toLower`).
-/

namespace Signet

namespace Text

/-- Only the capital letters of ASCII have another character in lower case. -/
theorem toNat_toLower (c : Char) :
    c.toLower.toNat = if 65 ≤ c.toNat ∧ c.toNat ≤ 90 then c.toNat + 32 else c.toNat := by
  have hA : 'A'.val.toNat = 65 := rfl
  have hZ : 'Z'.val.toNat = 90 := rfl
  have hstep : ('a'.val - 'A'.val).toNat = 32 := rfl
  have hval : c.toNat = c.val.toNat := rfl
  unfold Char.toLower
  simp only [ge_iff_le, UInt32.le_iff_toNat_le, hA, hZ, hval]
  split
  · show (c.val + ('a'.val - 'A'.val)).toNat = _
    rw [UInt32.toNat_add, hstep]
    omega
  · rfl

/-- A character that is no letter is in lower case what it is, and nothing else is. -/
theorem toLower_eq_iff {c d : Char} (hd : d.toNat < 65) : c.toLower = d ↔ c = d := by
  rw [← Char.toNat_inj, ← Char.toNat_inj, toNat_toLower]
  split <;> omega

theorem toLower_eq_x_iff {c : Char} : c.toLower = 'x' ↔ c = 'x' ∨ c = 'X' := by
  have hx : 'x'.toNat = 120 := rfl
  have hX : 'X'.toNat = 88 := rfl
  rw [← Char.toNat_inj, ← Char.toNat_inj, ← Char.toNat_inj, toNat_toLower, hx, hX]
  split <;> omega

theorem toLower_ne_X (c : Char) : c.toLower ≠ 'X' := by
  have hX : 'X'.toNat = 88 := rfl
  rw [Ne, ← Char.toNat_inj, toNat_toLower, hX]
  split <;> omega

/-! ## Digits and blanks -/

/-- **A digit has one value in either case.** -/
theorem asciiDigit?_toLower (c : Char) : asciiDigit? c.toLower = asciiDigit? c := by
  rw [asciiDigit?_eq, asciiDigit?_eq, toNat_toLower]
  by_cases hcapital : 65 ≤ c.toNat ∧ c.toNat ≤ 90
  · rw [if_pos hcapital, if_neg (by omega), if_pos (by omega), if_neg (by omega),
      if_neg (by omega), if_pos hcapital]
    exact congrArg some (by omega)
  · rw [if_neg hcapital]

theorem digit?_toLower (base : Nat) (c : Char) : digit? base c.toLower = digit? base c := by
  rw [digit?, digit?, asciiDigit?_toLower]

/-- No letter is a blank. -/
theorem isAsciiBlank_toLower (c : Char) : isAsciiBlank c.toLower = isAsciiBlank c := by
  rw [isAsciiBlank, isAsciiBlank, toNat_toLower, Bool.eq_iff_iff]
  simp only [Bool.or_eq_true, Bool.and_eq_true, decide_eq_true_eq, beq_iff_eq]
  split <;> omega

theorem isBlank_toLower (c : Char) : isBlank c.toLower = isBlank c := by
  by_cases hcapital : 65 ≤ c.toNat ∧ c.toNat ≤ 90
  · have hlower : c.toLower.toNat = c.toNat + 32 := by rw [toNat_toLower, if_pos hcapital]
    rw [isBlank_of_bounds (c := c) (by omega) (by omega), isBlank_of_bounds (by omega) (by omega)]
  · have hsame : c.toLower = c := by
      rw [← Char.toNat_inj, toNat_toLower, if_neg hcapital]
    rw [hsame]

theorem removeBlanks_map_toLower (s : List Char) :
    removeBlanks (s.map Char.toLower) = (removeBlanks s).map Char.toLower := by
  have hblank : (fun c => !isBlank c) ∘ Char.toLower = fun c => !isBlank c := by
    funext c
    exact congrArg not (isBlank_toLower c)
  rw [removeBlanks, List.filter_map, hblank, removeBlanks]

end Text

/-! ## The readers -/

namespace Hex

open Text

theorem removePrefix_cons_cons (a b : Char) (r : List Char) :
    removePrefix (a :: b :: r) = if a = '0' ∧ (b = 'x' ∨ b = 'X') then r else a :: b :: r := by
  unfold removePrefix
  split
  next rest heq => cases heq; rfl
  next rest heq => cases heq; rfl
  next hlower hupper =>
    rw [if_neg]
    rintro ⟨rfl, rfl | rfl⟩
    · exact hlower r rfl
    · exact hupper r rfl

/-- A prefix is one in either case. -/
theorem removePrefix_map_toLower (s : List Char) :
    removePrefix (s.map Char.toLower) = (removePrefix s).map Char.toLower := by
  match s with
  | [] => rfl
  | [c] => rw [List.map_cons, List.map_nil, removePrefix, removePrefix] <;> simp
  | a :: b :: r =>
    have hmark : b.toLower = 'x' ∨ b.toLower = 'X' ↔ b = 'x' ∨ b = 'X' := by
      rw [toLower_eq_x_iff, or_iff_left (toLower_ne_X b)]
    have hmarked : a.toLower = '0' ∧ (b.toLower = 'x' ∨ b.toLower = 'X') ↔
        a = '0' ∧ (b = 'x' ∨ b = 'X') :=
      and_congr (toLower_eq_iff (by decide)) hmark
    rw [List.map_cons, List.map_cons, removePrefix_cons_cons, removePrefix_cons_cons]
    by_cases h : a = '0' ∧ (b = 'x' ∨ b = 'X')
    · rw [if_pos h, if_pos (hmarked.mpr h)]
    · rw [if_neg h, if_neg (fun h' => h (hmarked.mp h'))]
      rfl

/-- **Pairs of digits are read alike in either case.** -/
theorem readPairs?_map_toLower (s : List Char) :
    readPairs? (s.map Char.toLower) = readPairs? s := by
  fun_induction readPairs? s with
  | case1 => rfl
  | case2 c hc =>
    rw [List.map_cons, List.map_nil, readPairs?, isAsciiBlank_toLower, if_pos hc]
  | case3 c hc =>
    rw [List.map_cons, List.map_nil, readPairs?, isAsciiBlank_toLower, if_neg hc]
  | case4 c d rest hc ih =>
    rw [List.map_cons, List.map_cons, readPairs?, isAsciiBlank_toLower, if_pos hc]
    exact ih
  | case5 c d rest hc ih =>
    rw [List.map_cons, List.map_cons, readPairs?, isAsciiBlank_toLower, if_neg hc,
      digit?_toLower, digit?_toLower, ih]

theorem readBytes_map_toLower (s : List Char) :
    readBytes (s.map Char.toLower) = readBytes s := by
  have hzero (ds : List Char) : ds.map Char.toLower = ['0'] ↔ ds = ['0'] := by
    constructor
    · intro h
      obtain ⟨c, r, rfl, hc, hr⟩ := List.map_eq_cons_iff.mp h
      rw [(toLower_eq_iff (by decide)).mp hc, List.map_eq_nil_iff.mp hr]
    · rintro rfl
      rfl
  rw [readBytes, readBytes, removePrefix_map_toLower, readPairs?_map_toLower, List.length_map]
  by_cases h : removePrefix s = ['0']
  · rw [if_pos h, if_pos ((hzero _).mpr h)]
  · rw [if_neg h, if_neg (fun h' => h ((hzero _).mp h'))]

/-- **A byte string is read alike from a text in either case.** -/
theorem readSpacedBytes_map_toLower (s : List Char) :
    readSpacedBytes (s.map Char.toLower) = readSpacedBytes s := by
  rw [readSpacedBytes, removeBlanks_map_toLower, readBytes_map_toLower, readSpacedBytes]

end Hex
end Signet
