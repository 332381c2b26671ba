import Signet.Hex
import Signet.Json.Parser
import Signet.Proofs.Outcome

/-! # Digits that were written are read back

The digits of a number write that number in their base (`foldl_pushDigits`), do not start
with a zero where there are others (`exists_cons_pushDigits`), and are exactly as many as
the powers of the base say, so that a greater number has no fewer (`length_digits_mono`).

The decimal digits of a number write that number (`natOfDigits_digits`) and have no zero in
front of others (`isWhole_digits`).  An integer of few digits can be written in decimal at
all (`isWritable_of_lt_pow`).
-/

namespace Signet

open Text

/-! ## Digits in any base -/

namespace Text

variable {base fuel n : Nat} {rest : List Char}

/-- Room for the digits of `n` leaves room for those in front of the last. -/
theorem div_lt_pow (hbase : 2 ≤ base) (h : n < Nat.pow 2 (fuel + 1)) :
    n / base < Nat.pow 2 fuel := by
  have hsucc : Nat.pow 2 (fuel + 1) = Nat.pow 2 fuel * 2 := rfl
  have hhalf : n / base ≤ n / 2 := Nat.div_le_div_left hbase (by decide)
  omega

/-- **Digits write their number**: those of `n` in front of others stand for `n`, as long as
there is room for all of them and `value` tells each digit. -/
theorem foldl_pushDigits {value : Char → Nat} (hbase : 2 ≤ base)
    (hvalue : ∀ d < base, value (digitChar d) = d) (h : n < Nat.pow 2 fuel) :
    (pushDigits base fuel n rest).foldl (fun m c => m * base + value c) 0 =
      rest.foldl (fun m c => m * base + value c) n := by
  induction fuel generalizing n rest with
  | zero =>
    obtain rfl : n = 0 := Nat.lt_one_iff.mp h
    rfl
  | succ fuel ih =>
    have hmod : n % base < base := Nat.mod_lt n (by omega)
    have hn : n / base * base + n % base = n := Nat.div_add_mod' n base
    rw [pushDigits]
    split
    next h0 =>
      rw [h0] at hn
      rw [List.foldl_cons, hvalue _ hmod, Nat.zero_mul, Nat.zero_add]
      rw [Nat.zero_mul, Nat.zero_add] at hn
      rw [hn]
    -- the digits in front are pushed before the last one, which already stands behind them
    next =>
      rw [ih (div_lt_pow hbase h), List.foldl_cons, hvalue _ hmod, hn]

/-- What holds of every digit of the base holds of all digits of a number. -/
theorem forall_mem_pushDigits {P : Char → Prop} (hbase : 2 ≤ base)
    (hdigit : ∀ d < base, P (digitChar d)) (hrest : ∀ c ∈ rest, P c) :
    ∀ c ∈ pushDigits base fuel n rest, P c := by
  induction fuel generalizing n rest with
  | zero => exact hrest
  | succ fuel ih =>
    have hcons : ∀ c ∈ digitChar (n % base) :: rest, P c := by
      intro c hc
      rcases List.mem_cons.mp hc with rfl | hc
      · exact hdigit _ (Nat.mod_lt n (by omega))
      · exact hrest c hc
    rw [pushDigits]
    split
    · exact hcons
    · exact ih hcons

theorem forall_mem_digits {P : Char → Prop} (hbase : 2 ≤ base)
    (hdigit : ∀ d < base, P (digitChar d)) : ∀ c ∈ digits base n, P c :=
  forall_mem_pushDigits hbase hdigit fun _ h => nomatch h

/-- The first digit of a number that is not zero is not zero. -/
theorem exists_cons_pushDigits (rest : List Char) (hbase : 2 ≤ base) (h : n < Nat.pow 2 fuel)
    (h0 : n ≠ 0) : ∃ d r, pushDigits base fuel n rest = digitChar d :: r ∧ d < base ∧ d ≠ 0 := by
  induction fuel generalizing n rest with
  | zero => exact absurd (Nat.lt_one_iff.mp h) h0
  | succ fuel ih =>
    rw [pushDigits]
    split
    next hlast =>
      have hn : n / base * base + n % base = n := Nat.div_add_mod' n base
      refine ⟨_, _, rfl, Nat.mod_lt n (by omega), fun hmod => h0 ?_⟩
      rw [← hn, hlast, hmod, Nat.zero_mul]
    next hmore => exact ih _ (div_lt_pow hbase h) hmore

/-- The digits of a number start with one of the base. -/
theorem exists_digits_eq_cons (hbase : 2 ≤ base) (n : Nat) :
    ∃ d r, digits base n = digitChar d :: r ∧ d < base := by
  by_cases h0 : n = 0
  · subst h0
    refine ⟨0, [], ?_, by omega⟩
    rw [digits, Nat.log2_zero, pushDigits, Nat.zero_mod, Nat.zero_div, if_pos rfl]
  · obtain ⟨d, r, hcons, hd, -⟩ := exists_cons_pushDigits [] hbase (Nat.lt_log2_self (n := n)) h0
    exact ⟨d, r, hcons, hd⟩

/-- A number below a power of the base has no more digits than that. -/
theorem length_pushDigits_le {k : Nat} (rest : List Char) (hk : 0 < k) (h : n < Nat.pow base k) :
    (pushDigits base fuel n rest).length ≤ rest.length + k := by
  induction fuel generalizing n k rest with
  | zero => exact Nat.le_add_right ..
  | succ fuel ih =>
    rw [pushDigits]
    split
    · rw [List.length_cons]
      omega
    next hmore =>
      match k, hk with
      | 1, _ =>
        have hlt : n < base := Nat.pow_one base ▸ h
        exact absurd (Nat.div_eq_of_lt hlt) hmore
      | k + 2, _ =>
        have hdiv : n / base < Nat.pow base (k + 1) := by
          refine Nat.div_lt_of_lt_mul ?_
          rw [Nat.mul_comm]
          exact h
        have := ih (digitChar (n % base) :: rest) (Nat.succ_pos k) hdiv
        rw [List.length_cons] at this
        omega

/-- The digits of a number in front of others leave the number below the power of the base
that they reach. -/
theorem succ_mul_pow_le_pow_length_pushDigits (rest : List Char) (hbase : 2 ≤ base)
    (h : n < Nat.pow 2 fuel) :
    (n + 1) * Nat.pow base rest.length ≤ Nat.pow base (pushDigits base fuel n rest).length := by
  induction fuel generalizing n rest with
  | zero =>
    obtain rfl : n = 0 := Nat.lt_one_iff.mp h
    exact Nat.le_of_eq (Nat.one_mul _)
  | succ fuel ih =>
    have hsucc : Nat.pow base (rest.length + 1) = base * Nat.pow base rest.length :=
      Nat.mul_comm _ _
    have hle : n + 1 ≤ (n / base + 1) * base := by
      have := Nat.lt_mul_div_succ n (b := base) (by omega)
      rw [Nat.mul_comm]
      exact this
    rw [pushDigits]
    split
    next hlast =>
      rw [hlast, Nat.zero_add, Nat.one_mul] at hle
      rw [List.length_cons, hsucc]
      exact Nat.mul_le_mul_right _ hle
    next =>
      have hstep := ih (digitChar (n % base) :: rest) (div_lt_pow hbase h)
      rw [List.length_cons, hsucc, ← Nat.mul_assoc] at hstep
      exact Nat.le_trans (Nat.mul_le_mul_right _ hle) hstep

theorem lt_pow_length_digits (hbase : 2 ≤ base) (n : Nat) :
    n < Nat.pow base (digits base n).length := by
  have h := succ_mul_pow_le_pow_length_pushDigits [] hbase (Nat.lt_log2_self (n := n))
  have hone : Nat.pow base ([] : List Char).length = 1 := rfl
  rw [hone, Nat.mul_one] at h
  exact h

/-- **A number has at most `k` digits exactly when it is below the `k`th power of the
base.** -/
theorem length_digits_le_iff {k : Nat} (hbase : 2 ≤ base) (hk : 0 < k) :
    (digits base n).length ≤ k ↔ n < Nat.pow base k := by
  constructor
  · intro h
    exact Nat.lt_of_lt_of_le (lt_pow_length_digits hbase n)
      (Nat.pow_le_pow_right (by omega) h)
  · intro h
    exact Nat.le_trans (length_pushDigits_le [] hk h) (Nat.le_of_eq (Nat.zero_add k))

theorem length_digits_pos (hbase : 2 ≤ base) (n : Nat) : 0 < (digits base n).length := by
  obtain ⟨d, r, hcons, -⟩ := exists_digits_eq_cons hbase n
  rw [hcons]
  exact Nat.succ_pos _

/-- **A greater number has no fewer digits.** -/
theorem length_digits_mono (hbase : 2 ≤ base) {m n : Nat} (h : m ≤ n) :
    (digits base m).length ≤ (digits base n).length :=
  (length_digits_le_iff hbase (length_digits_pos hbase n)).mpr
    (Nat.lt_of_le_of_lt h (lt_pow_length_digits hbase n))

end Text

/-! ## Decimal digits -/

namespace Json

theorem isDigit_digitChar {n : Nat} (h : n < 10) : isDigit (digitChar n) = true := by
  have hall : ∀ n < 10, isDigit (digitChar n) = true := by decide
  exact hall n h

theorem toNat_digitChar {n : Nat} (h : n < 10) : (digitChar n).toNat - '0'.toNat = n := by
  have hall : ∀ n < 10, (digitChar n).toNat - '0'.toNat = n := by decide
  exact hall n h

theorem digitChar_ne_zero {n : Nat} (h : n < 10) (h0 : n ≠ 0) : digitChar n ≠ '0' := by
  have hall : ∀ n < 10, n ≠ 0 → digitChar n ≠ '0' := by decide
  exact hall n h h0

/-- The number that digits write, behind digits that write `n`. -/
def digitsFrom (n : Nat) (ds : List Char) : Nat :=
  ds.foldl (fun n c => n * 10 + (c.toNat - '0'.toNat)) n

theorem natOfDigits_eq (ds : List Char) : natOfDigits ds = digitsFrom 0 ds := by
  rw [natOfDigits, Numeral.ofDigits, List.foldl_map, digitsFrom]

/-- **The digits of a number write it.** -/
theorem natOfDigits_digits (n : Nat) : natOfDigits (digits 10 n) = n := by
  rw [natOfDigits_eq]
  exact foldl_pushDigits (by decide) (fun _ => toNat_digitChar) Nat.lt_log2_self

/-- Digits behind a number leave all of them below the power of ten that they reach. -/
theorem digitsFrom_lt {ds : List Char} (h : ∀ c ∈ ds, c.toNat - '0'.toNat < 10) (n : Nat) :
    digitsFrom n ds < (n + 1) * Nat.pow 10 ds.length := by
  induction ds generalizing n with
  | nil => exact Nat.lt_of_lt_of_eq (Nat.lt_succ_self n) (Nat.mul_one _).symm
  | cons c r ih =>
    obtain ⟨hc, hr⟩ := List.forall_mem_cons.mp h
    have hstep : n * 10 + (c.toNat - '0'.toNat) + 1 ≤ (n + 1) * 10 := by omega
    have hpow : Nat.pow 10 (r.length + 1) = 10 * Nat.pow 10 r.length := Nat.mul_comm _ _
    have hnext := ih hr (n * 10 + (c.toNat - '0'.toNat))
    rw [List.length_cons, hpow, ← Nat.mul_assoc]
    exact Nat.lt_of_lt_of_le hnext (Nat.mul_le_mul_right _ hstep)

/-- **Digits write a number below the power of ten that they reach.** -/
theorem natOfDigits_lt {ds : List Char} (h : ∀ c ∈ ds, c.toNat - '0'.toNat < 10) :
    natOfDigits ds < Nat.pow 10 ds.length := by
  have hlt := digitsFrom_lt h 0
  rw [natOfDigits_eq]
  rwa [Nat.zero_add, Nat.one_mul] at hlt

theorem isDigit_of_mem_digits {n : Nat} : ∀ c ∈ digits 10 n, isDigit c = true :=
  forall_mem_digits (by decide) fun _ => isDigit_digitChar

/-- **No zero stands in front of the digits of a number.** -/
theorem isWhole_digits (n : Nat) : isWhole (digits 10 n) = true := by
  by_cases h0 : n = 0
  · subst h0
    rfl
  · obtain ⟨d, r, hcons, hd, hd0⟩ :=
      exists_cons_pushDigits [] (by decide : 2 ≤ 10) (Nat.lt_log2_self (n := n)) h0
    rw [digits, hcons]
    unfold isWhole
    split
    next h => cases h
    next h => rfl
    next h =>
      cases h
      exact decide_eq_true (digitChar_ne_zero hd hd0)

end Json

/-! ## Hexadecimal digits -/

namespace Hex

theorem digit?_digitChar {n : Nat} (h : n < 16) : digit? 16 (digitChar n) = some n := by
  have hall : ∀ n < 16, digit? 16 (digitChar n) = some n := by decide
  exact hall n h

end Hex

/-! ## Integers that can be written in decimal -/

namespace Numeral

theorem isWritable_iff {n : Int} : isWritable n = true ↔ n.natAbs < Nat.pow 10 decimalLimit := by
  unfold isWritable
  exact decide_eq_true_iff

theorem pow_ten_mono {k m : Nat} (h : k ≤ m) : Nat.pow 10 k ≤ Nat.pow 10 m :=
  Nat.pow_le_pow_right (by decide) h

/-- An integer of a few digits can be written. -/
theorem isWritable_of_lt_pow {n : Int} {k : Nat} (hk : k ≤ decimalLimit)
    (h : n.natAbs < Nat.pow 10 k) : isWritable n = true :=
  isWritable_iff.mpr (Nat.lt_of_lt_of_le h (pow_ten_mono hk))

end Numeral

end Signet
