import Mathlib.Data.Int.Bitwise
import Signet.Keystore.Settings
import Signet.Proofs.Validation.Accepted

/-! # Which costs are accepted

A cost has to pass a bound and a test on its bits.  The test alone says of an integer of any
sign, in two's complement, that it is zero or a power of two (`land_sub_one_eq_zero_iff`):
zero shares no bit with minus one, and two negative numbers share all their bits from some
place on.  The bound takes off zero, and one with it, so that together the two leave the
powers of two from two on (`passes_iff`), of any size.  The validation looks at the bound
first, and at the bits of what is left only (`cost_eq`).
-/

namespace Signet
namespace ScryptParams

variable {n : Int}

/-- The costs that scrypt is meant for: two, four, eight and so on. -/
def IsPower (n : Int) : Prop :=
  ∃ k, 1 ≤ k ∧ n = (Nat.pow 2 k : Nat)

/-! ## The test on the bits -/

/-- On a positive integer the test says that it is a power of two. -/
theorem isSingleBit_iff {m : Nat} (h : m ≠ 0) : isSingleBit m = true ↔ ∃ k, m = Nat.pow 2 k := by
  rw [isSingleBit, decide_eq_true_iff]
  exact Nat.and_sub_one_eq_zero_iff_isPowerOfTwo h

/-- **An integer shares no bit with the one before it exactly if it is zero or a power of
two.** -/
theorem land_sub_one_eq_zero_iff : n.land (n - 1) = 0 ↔ n = 0 ∨ ∃ k, n = (Nat.pow 2 k : Nat) := by
  rcases n with m | m
  · by_cases hm : m = 0
    · subst hm
      have hzero : (Int.ofNat 0).land (Int.negSucc 0) = 0 := by simp [Int.land, Nat.ldiff]
      exact ⟨fun _ => Or.inl rfl, fun _ => hzero⟩
    · have hbefore : Int.ofNat m - 1 = Int.ofNat (m - 1) := by
        simp only [Int.ofNat_eq_natCast]
        omega
      have hbits : (Int.ofNat m).land (Int.ofNat (m - 1)) = 0 ↔ isSingleBit m = true := by
        rw [isSingleBit, decide_eq_true_iff]
        exact Int.natCast_eq_zero
      rw [hbefore, hbits, isSingleBit_iff hm]
      constructor
      · rintro ⟨k, hk⟩
        exact Or.inr ⟨k, congrArg Int.ofNat hk⟩
      · rintro (hzero | ⟨k, hk⟩)
        · exact absurd (Int.ofNat.inj hzero) hm
        · exact ⟨k, Int.ofNat.inj hk⟩
  · -- the bits that two negative integers share make a negative integer
    have hbefore : Int.negSucc m - 1 = Int.negSucc (m + 1) := rfl
    rw [hbefore, Int.land]
    constructor
    · intro h
      cases h
    · rintro (h | ⟨k, h⟩) <;> cases h

/-- **The bound and the test on the bits leave the powers of two from two on.** -/
theorem passes_iff : (1 < n ∧ n.land (n - 1) = 0) ↔ IsPower n := by
  rw [land_sub_one_eq_zero_iff]
  constructor
  · rintro ⟨hbound, hzero | ⟨k, rfl⟩⟩
    · omega
    · refine ⟨k, ?_, rfl⟩
      by_contra hk
      obtain rfl : k = 0 := by omega
      exact absurd hbound (by decide)
  · rintro ⟨k, hk, rfl⟩
    have htwo : 2 ^ 1 ≤ 2 ^ k := Nat.pow_le_pow_right (by decide) hk
    have hpow : Nat.pow 2 k = 2 ^ k := rfl
    exact ⟨by omega, Or.inr ⟨k, rfl⟩⟩

/-- The test, made on what passed the bound, is the one on all integers. -/
theorem isSingleBit_toNat_iff (h : 1 < n) : isSingleBit n.toNat = true ↔ IsPower n := by
  have hcast : (n.toNat : Int) = n := Int.toNat_of_nonneg (by omega)
  rw [isSingleBit_iff (by omega), ← passes_iff, land_sub_one_eq_zero_iff]
  constructor
  · rintro ⟨k, hk⟩
    exact ⟨h, Or.inr ⟨k, by rw [← hk, hcast]⟩⟩
  · rintro ⟨-, hzero | ⟨k, hk⟩⟩
    · omega
    · exact ⟨k, by rw [hk, Int.toNat_natCast]⟩

/-! ## The validation -/

/-- What the validation makes of a cost: the bound is looked at first. -/
theorem cost_eq {d : Datum} (hd : Check.int d = .ok n) :
    (n ≤ 1 ∧ cost d = Check.fault .greaterThan) ∨
    (IsPower n ∧ cost d = .ok n.toNat) ∨
    (1 < n ∧ ¬ IsPower n ∧
      cost d = Check.fault (.refused (.writing n (.scryptCost n)))) := by
  have hcost : cost d = (if ((1 : Nat) : Int) < n then Check.ok n.toNat
      else Check.fault .greaterThan).andThen fun m =>
        if isSingleBit m then .ok m
        else .fault (.refused (.writing m (.scryptCost m))) := by
    rw [cost, Check.above, hd]
    rfl
  by_cases hbound : n ≤ 1
  · rw [if_neg (by omega)] at hcost
    exact Or.inl ⟨hbound, hcost⟩
  · have hcast : (n.toNat : Int) = n := Int.toNat_of_nonneg (by omega)
    have hbits := isSingleBit_toNat_iff (n := n) (by omega)
    rw [if_pos (by omega)] at hcost
    by_cases hpower : IsPower n
    · refine Or.inr (Or.inl ⟨hpower, ?_⟩)
      rw [hcost, Check.andThen, if_pos (hbits.mpr hpower)]
    · refine Or.inr (Or.inr ⟨by omega, hpower, ?_⟩)
      rw [hcost, Check.andThen, if_neg (fun h => hpower (hbits.mp h)), hcast]

/-- The parameters beside the cost that an object describes. -/
structure Beside (entries : List (String × Datum)) (p r dklen : Nat) : Prop where
  p : Check.withDefault entries "p" [] 1 (Check.atLeast 1) = .ok p
  r : Check.withDefault entries "r" [] 8 (Check.atLeast 1) = .ok r
  dklen : Check.withDefault entries "dklen" [] 32 (Check.atLeast 32) = .ok dklen

section

variable {entries : List (String × Datum)} {d : Datum} {p r dklen : Nat}

/-- Where the other parameters are in order, the cost alone decides. -/
theorem ofDatum_eq (hentry : Datum.lookup? "n" entries = some d)
    (hbeside : Beside entries p r dklen) :
    ofDatum (.dict entries) =
      ((cost d).under (.field "n")).map fun m => ⟨m, p, r, dklen⟩ := by
  have hfield : Check.withDefault entries "n" [] (1 <<< 18) cost =
      (cost d).under (.field "n") := by
    rw [Check.withDefault, Check.firstEntry?, List.findSome?_cons, hentry]
    rfl
  show ofEntries entries = _
  rw [ofEntries, hfield, hbeside.p, hbeside.r, hbeside.dklen]
  cases (cost d).under (.field "n") <;> rfl

/-- The validation of an object with a cost, in three cases. -/
theorem ofDatum_cases (hentry : Datum.lookup? "n" entries = some d) (hd : Check.int d = .ok n)
    (hbeside : Beside entries p r dklen) :
    (n ≤ 1 ∧ ofDatum (.dict entries) = .faults [⟨[.field "n"], .greaterThan⟩]) ∨
    (IsPower n ∧ ofDatum (.dict entries) = .ok ⟨n.toNat, p, r, dklen⟩) ∨
    (1 < n ∧ ¬ IsPower n ∧ ofDatum (.dict entries) =
      .faults [⟨[.field "n"], .refused (.writing n (.scryptCost n))⟩]) := by
  rw [ofDatum_eq hentry hbeside]
  rcases cost_eq hd with ⟨hbound, hcost⟩ | ⟨hpower, hcost⟩ | ⟨hbound, hpower, hcost⟩
  · rw [hcost]
    exact Or.inl ⟨hbound, rfl⟩
  · rw [hcost]
    exact Or.inr (Or.inl ⟨hpower, rfl⟩)
  · rw [hcost]
    exact Or.inr (Or.inr ⟨hbound, hpower, rfl⟩)

/-- **The check of a cost is exact.**  Of an object whose other parameters are in order, and
whose cost is an integer, the parameters are accepted exactly if the cost is a power of two
from two on, however large, and then as they stand.  Every other integer is refused: up to
one for the bound, above it for its bits.  On all integers, negative ones and zero included,
the bound and the test on the bits hold together exactly for those powers. -/
theorem ofDatum_cost_exact (hentry : Datum.lookup? "n" entries = some d)
    (hd : Check.int d = .ok n) (hbeside : Beside entries p r dklen) :
    ((∃ s, ofDatum (.dict entries) = .ok s) ↔ IsPower n) ∧
    (∀ s, ofDatum (.dict entries) = .ok s → s = ⟨n.toNat, p, r, dklen⟩) ∧
    (n ≤ 1 → ofDatum (.dict entries) = .faults [⟨[.field "n"], .greaterThan⟩]) ∧
    (1 < n → ¬ IsPower n → ofDatum (.dict entries) =
      .faults [⟨[.field "n"], .refused (.writing n (.scryptCost n))⟩]) ∧
    ((1 < n ∧ n.land (n - 1) = 0) ↔ IsPower n) := by
  have habove : IsPower n → 1 < n := fun h => (passes_iff.mpr h).1
  have hrefused {fs : List Fault} (h : ofDatum (.dict entries) = .faults fs) (s : ScryptParams) :
      ofDatum (.dict entries) ≠ .ok s := by
    rw [h]
    exact nofun
  rcases ofDatum_cases hentry hd hbeside with ⟨hbound, hall⟩ | ⟨hpower, hall⟩ | ⟨hbound, hno, hall⟩
  · have hno : ¬ IsPower n := fun h => absurd (habove h) (by omega)
    refine ⟨⟨fun ⟨s, hs⟩ => absurd hs (hrefused hall s), fun h => absurd h hno⟩,
      fun s hs => absurd hs (hrefused hall s), fun _ => hall, fun h => by omega, passes_iff⟩
  · have hbound := habove hpower
    refine ⟨⟨fun _ => hpower, fun _ => ⟨_, hall⟩⟩, ?_, fun h => by omega,
      fun _ h => absurd hpower h, passes_iff⟩
    intro s hs
    exact Check.ok.inj (hs.symm.trans hall)
  · refine ⟨⟨fun ⟨s, hs⟩ => absurd hs (hrefused hall s), fun h => absurd h hno⟩,
      fun s hs => absurd hs (hrefused hall s), fun h => by omega, fun _ _ => hall, passes_iff⟩

/-- A power of two that no machine word holds is a cost, with the other parameters left out. -/
theorem ofDatum_cost_exact_wide :
    ∃ s, ofDatum (.dict [("n", .int (Nat.pow 2 100 : Nat))]) = .ok s := by
  have hbeside : Beside [("n", .int (Nat.pow 2 100 : Nat))] 1 8 32 := ⟨rfl, rfl, rfl⟩
  exact (ofDatum_cost_exact rfl rfl hbeside).1.mpr ⟨100, by decide, rfl⟩

end

end ScryptParams
end Signet
