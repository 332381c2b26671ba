import Signet.Proofs.Json.RoundTrip
import Signet.Proofs.Validation.Accepted
import Signet.Validation.Field

/-! # What the reader gives can be written and read again

The JSON reader limits how many characters an integer may have, so all integers of a value
that it gives are short (`shortIntegers_parse?`); numbers with a fraction and texts may be
anything.  An integer field takes an integer from any of these, and each way has a limit of
its own, which is no wider.  So what an integer field takes from a value that was read is
short too (`isShort_of_int`).
-/

namespace Signet
namespace Json

open Text

/-! ## Short integers -/

/-- An integer of few digits, the sign counted as one, is short. -/
theorem isShort_natOfDigits {ds : List Char} {negative : Bool}
    (hdigit : ∀ c ∈ ds, c.toNat - '0'.toNat < 10) (hpos : 0 < ds.length)
    (hlimit : ds.length + (if negative then 1 else 0) ≤ Numeral.decimalLimit) :
    IsShort (if negative then -(natOfDigits ds : Int) else natOfDigits ds) := by
  have hlength : (digits 10 (natOfDigits ds)).length ≤ ds.length :=
    (length_digits_le_iff (by decide) hpos).mpr (natOfDigits_lt hdigit)
  cases negative with
  | false =>
    have hnonneg : ¬ (natOfDigits ds : Int) < 0 := by omega
    rw [if_neg Bool.false_ne_true] at hlimit
    rw [if_neg Bool.false_ne_true, IsShort, toList_decimal, if_neg hnonneg, Int.natAbs_natCast]
    omega
  | true =>
    rw [if_pos rfl] at hlimit
    rw [if_pos rfl, IsShort, toList_decimal, Int.natAbs_neg, Int.natAbs_natCast]
    -- zero behind a minus is written without it
    split
    · rw [List.length_cons]
      omega
    · omega

/-- The values all of whose integers are short. -/
inductive ShortIntegers : Json → Prop
  | null : ShortIntegers .null
  | bool (b : Bool) : ShortIntegers (.bool b)
  | int {i : Int} (h : IsShort i) : ShortIntegers (.int i)
  | float (x : Binary64) : ShortIntegers (.float x)
  | text (s : String) : ShortIntegers (.text s)
  | array {items : List Json} (h : ∀ x ∈ items, ShortIntegers x) : ShortIntegers (.array items)
  | object {members : List (String × Json)} (h : ∀ m ∈ members, ShortIntegers m.2) :
    ShortIntegers (.object members)

/-! ## Reading -/

variable {fuel depth : Nat} {s rest : List Char} {x : Json}

theorem lt_ten_of_isDigit {c : Char} (h : isDigit c = true) : c.toNat - '0'.toNat < 10 := by
  have hle : c.toNat ≤ '9'.toNat := (of_decide_eq_true (Bool.and_eq_true_iff.mp h).2 : c ≤ '9')
  have hnine : '9'.toNat = '0'.toNat + 9 := rfl
  omega

/-- A number that is read is a short integer, or none. -/
theorem shortIntegers_number? (h : number? s = some (x, rest)) : ShortIntegers x := by
  obtain ⟨negative, t, hsign⟩ : ∃ negative t, splitMinus s = (negative, t) := ⟨_, _, rfl⟩
  rw [number?, hsign] at h
  simp only [spanDigits, Option.bind_eq_bind, Option.pure_def] at h
  by_cases hwhole : isWhole (t.takeWhile isDigit) = true
  · by_cases hlong :
      Numeral.decimalLimit < (t.takeWhile isDigit).length + (if negative then 1 else 0)
    · simp only [hlong, if_true, Option.bind_none, ite_self] at h
      cases h
    · simp only [hwhole, hlong, Bool.not_true, Bool.false_eq_true, if_false] at h
      obtain ⟨fraction, -, h⟩ := Option.bind_eq_some_iff.mp h
      obtain ⟨exponent, -, h⟩ := Option.bind_eq_some_iff.mp h
      split at h
      · cases h
        refine .int (isShort_natOfDigits ?digits ?nonempty (Nat.not_lt.mp hlong))
        case digits =>
          intro c hc
          exact lt_ten_of_isDigit (List.all_eq_true.mp List.all_takeWhile c hc)
        case nonempty =>
          refine List.length_pos_iff.mpr fun hnil => ?_
          rw [hnil] at hwhole
          cases hwhole
      · cases h
        exact .float _
  · simp only [hwhole, Bool.not_false, if_true, Option.bind_none] at h
    cases h

/-- The values that are written as words hold no integer. -/
theorem shortIntegers_word? (h : word? s = some (x, rest)) : ShortIntegers x := by
  have hwords : ∀ w ∈ words, ShortIntegers w.2 := by
    intro w hw
    simp only [words, List.mem_cons, List.not_mem_nil, or_false] at hw
    rcases hw with rfl | rfl | rfl | rfl | rfl | rfl
    · exact .null
    · exact .bool true
    · exact .bool false
    · exact .float _
    · exact .float _
    · exact .float _
  obtain ⟨w, hw, hx⟩ := List.exists_of_findSome?_eq_some h
  split at hx
  · cases hx
    exact hwords w hw
  · cases hx

/-- What all readers give with so much fuel has short integers. -/
structure ReadsShort (fuel : Nat) : Prop where
  value : ∀ {depth s x rest}, value? fuel depth s = some (x, rest) → ShortIntegers x
  items : ∀ {depth s xs rest}, items? fuel depth s = some (xs, rest) → ∀ x ∈ xs, ShortIntegers x
  members : ∀ {depth s ms rest}, members? fuel depth s = some (ms, rest) →
    ∀ m ∈ ms, ShortIntegers m.2

theorem readsShort_zero : ReadsShort 0 where
  value h := by cases h
  items h := by cases h
  members h := by cases h

theorem shortIntegers_value?_succ (ih : ReadsShort fuel)
    (h : value? (fuel + 1) depth s = some (x, rest)) : ShortIntegers x := by
  rw [value?] at h
  split at h
  · obtain ⟨p, -, hp⟩ := Option.map_eq_some_iff.mp h
    cases hp
    exact .text _
  · split at h
    · cases h
      exact .array (List.forall_mem_nil _)
    · cases h
    · obtain ⟨p, hread, hp⟩ := Option.map_eq_some_iff.mp h
      cases hp
      exact .array (ih.items hread)
  · split at h
    · cases h
      exact .object (List.forall_mem_nil _)
    · cases h
    · obtain ⟨p, hread, hp⟩ := Option.map_eq_some_iff.mp h
      cases hp
      exact .object (ih.members hread)
  · rcases Option.or_eq_some_iff.mp h with hword | ⟨-, hnumber⟩
    · exact shortIntegers_word? hword
    · exact shortIntegers_number? hnumber

theorem shortIntegers_items?_succ (ih : ReadsShort fuel) {xs : List Json}
    (h : items? (fuel + 1) depth s = some (xs, rest)) : ∀ x ∈ xs, ShortIntegers x := by
  rw [items?] at h
  obtain ⟨⟨y, t⟩, hvalue, h⟩ := Option.bind_eq_some_iff.mp h
  have hy := ih.value hvalue
  simp only at h
  split at h
  · obtain ⟨⟨ys, u⟩, hitems, h⟩ := Option.bind_eq_some_iff.mp h
    cases h
    exact List.forall_mem_cons.mpr ⟨hy, ih.items hitems⟩
  · cases h
    exact List.forall_mem_singleton.mpr hy
  · cases h

theorem shortIntegers_members?_succ (ih : ReadsShort fuel) {ms : List (String × Json)}
    (h : members? (fuel + 1) depth s = some (ms, rest)) : ∀ m ∈ ms, ShortIntegers m.2 := by
  rw [members?] at h
  split at h
  · obtain ⟨⟨name, t⟩, -, h⟩ := Option.bind_eq_some_iff.mp h
    simp only at h
    split at h
    · obtain ⟨⟨y, u⟩, hvalue, h⟩ := Option.bind_eq_some_iff.mp h
      have hy := ih.value hvalue
      simp only at h
      split at h
      · obtain ⟨⟨ys, w⟩, hmembers, h⟩ := Option.bind_eq_some_iff.mp h
        cases h
        exact List.forall_mem_cons.mpr ⟨hy, ih.members hmembers⟩
      · cases h
        exact List.forall_mem_singleton.mpr hy
      · cases h
    · cases h
  · cases h

theorem readsShort (fuel : Nat) : ReadsShort fuel := by
  -- the three readers call each other with one less fuel, so they go together
  induction fuel with
  | zero => exact readsShort_zero
  | succ fuel ih =>
    exact ⟨shortIntegers_value?_succ ih, shortIntegers_items?_succ ih,
      shortIntegers_members?_succ ih⟩

/-- **All integers of a value that is read are short.** -/
theorem shortIntegers_parse? (h : parse? depth s = some x) : ShortIntegers x := by
  rw [parse?] at h
  split at h
  next y t hread =>
    split at h
    · cases h
      exact (readsShort _).value hread
    · cases h
  · cases h

end Json

/-! ## Integer fields -/

namespace Check

open Json

variable {i : Int}

/-- What a number without a fraction gives is short: it stays below a bound. -/
theorem isShort_of_intOfFloat {x : Binary64} (h : intOfFloat x = .ok i) : IsShort i := by
  unfold intOfFloat at h
  split at h
  · cases h
  · split at h
    · cases h
    · split at h
      next hbound =>
        cases h
        have hpow : floatBound < Nat.pow 10 19 := by decide
        exact isShort_of_natAbs_lt (by decide) (Nat.lt_trans hbound hpow) (by decide)
      · cases h

/-- What plain digits give is short: too many of them are refused. -/
theorem isShort_of_ofPlainDigits? {negative : Bool} {s : List Char}
    (h : ofPlainDigits? negative s = some i) : IsShort i := by
  unfold ofPlainDigits? at h
  split at h
  · cases h
  next hplain =>
    simp only [Bool.or_eq_true, not_or] at hplain
    obtain ⟨⟨⟨hempty, hdigit⟩, -⟩, hshort⟩ := hplain
    cases h
    refine isShort_natOfDigits ?digits ?nonempty ?short
    case digits =>
      intro c hc
      have hall : s.all Char.isDigit = true := by simpa using hdigit
      exact lt_ten_of_isDigit (List.all_eq_true.mp hall c hc)
    case nonempty => exact List.length_pos_iff.mpr fun hnil => hempty (by rw [hnil]; rfl)
    case short => exact Nat.not_lt.mp fun hlong => hshort (decide_eq_true hlong)

theorem isShort_of_intOfText {s : List Char} (h : intOfText s = .ok i) : IsShort i := by
  unfold intOfText at h
  split at h
  · cases h
  · split at h
    next n hn =>
      cases h
      unfold ofLooseText? at hn
      obtain ⟨t, -, hn⟩ := Option.bind_eq_some_iff.mp hn
      obtain ⟨p, -, hn⟩ := Option.bind_eq_some_iff.mp hn
      exact isShort_of_ofPlainDigits? hn
    · cases h

/-- **What an integer field takes from a value that was read is short.** -/
theorem isShort_of_int {x : Json} (hx : ShortIntegers x) (h : int x.toDatum = .ok i) :
    IsShort i := by
  cases hx with
  | null => cases h
  | bool b =>
    cases b
    · cases h
      exact isShort_of_natAbs_lt Nat.one_pos (by decide) (by decide)
    · cases h
      exact isShort_of_natAbs_lt Nat.one_pos (by decide) (by decide)
  | int hi =>
    cases h
    exact hi
  | float x => exact isShort_of_intOfFloat h
  | text s => exact isShort_of_intOfText h
  | array => cases h
  | object => cases h

end Check
end Signet
