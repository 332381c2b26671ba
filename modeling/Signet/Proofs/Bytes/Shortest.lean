import Signet.Bytes

/-! # Integers and their shortest byte strings

A byte string writes an integer, and zero bytes in front change nothing.  The
byte strings that do not start with a zero byte are the shortest ones, and they
correspond one to one to the integers: `ofNat` writes them, `toNat` reads them
(`eq_ofNat_iff`).  An integer needs at most `k` bytes exactly when it is below
`ceiling k` (`width_le_iff`).
-/

namespace Signet.Bytes

/-! ## The number of bytes -/

/-- **An integer needs at most `k` bytes exactly when it is below `ceiling k`.** -/
theorem width_le_iff {n k : Nat} : width n ≤ k ↔ n < ceiling k := by
  unfold width
  by_cases hn : n = 0
  · rw [if_pos hn, hn]
    exact ⟨fun _ => ceiling_pos k, fun _ => Nat.zero_le k⟩
  · rw [if_neg hn]
    have hlow : 2 ^ n.log2 ≤ n := Nat.log2_self_le hn
    have hhigh : n < 2 ^ (n.log2 + 1) := Nat.lt_log2_self
    rw [ceiling, Nat.one_shiftLeft]
    constructor
    · intro h
      exact Nat.lt_of_lt_of_le hhigh (Nat.pow_le_pow_right (by decide) (by omega))
    · intro h
      have hlt : n.log2 < 8 * k :=
        (Nat.pow_lt_pow_iff_right (by decide)).mp (Nat.lt_of_le_of_lt hlow h)
      omega

theorem lt_ceiling_width (n : Nat) : n < ceiling (width n) :=
  width_le_iff.mp (Nat.le_refl _)

@[simp] theorem length_ofNat (n : Nat) : (ofNat n).length = width n :=
  length_ofNatFixed ..

/-- Reading what was written gives the integer back. -/
@[simp] theorem toNat_ofNat (n : Nat) : toNat (ofNat n) = n := by
  rw [ofNat, toNat_ofNatFixed, Nat.mod_eq_of_lt (lt_ceiling_width n)]

/-! ## Shortest byte strings -/

/-- The first byte is the quotient by the weight of the bytes after it. -/
theorem toNat_cons_div (x : UInt8) (r : Bytes) : toNat (x :: r) / ceiling r.length = x.toNat := by
  rw [toNat_cons, Nat.mul_comm, Nat.mul_add_div (ceiling_pos _),
    Nat.div_eq_of_lt (toNat_lt r), Nat.add_zero]

/-- Byte strings of one length that write the same integer are equal. -/
theorem eq_of_toNat_eq {a b : Bytes} (hl : a.length = b.length) (h : toNat a = toNat b) :
    a = b := by
  induction a generalizing b with
  | nil => exact (List.length_eq_zero_iff.mp hl.symm).symm
  | cons x r ih =>
    cases b with
    | nil => cases hl
    | cons y s =>
      have hlen : r.length = s.length := Nat.succ.inj hl
      have hx : x.toNat = y.toNat := by
        rw [← toNat_cons_div x r, h, hlen, toNat_cons_div]
      rw [toNat_cons, toNat_cons, hlen, hx] at h
      rw [UInt8.toNat_inj.mp hx, ih hlen (Nat.add_left_cancel h)]

/-- A byte string that does not start with a zero byte has as many bytes as its
integer needs. -/
theorem width_toNat {b : Bytes} (h : b.head? ≠ some 0) : width (toNat b) = b.length := by
  apply Nat.le_antisymm
  · exact width_le_iff.mpr (toNat_lt b)
  · cases b with
    | nil => exact Nat.zero_le _
    | cons x r =>
      have hx : x.toNat ≠ 0 := by
        intro h0
        exact h (congrArg some (UInt8.toNat_inj.mp h0))
      have hge : ceiling r.length ≤ toNat (x :: r) := by
        rw [toNat_cons]
        exact Nat.le_trans (Nat.le_mul_of_pos_left _ (Nat.pos_of_ne_zero hx)) (Nat.le_add_right ..)
      have hnot : ¬ width (toNat (x :: r)) ≤ r.length := fun hw =>
        Nat.not_lt.mpr hge (width_le_iff.mp hw)
      rw [List.length_cons]
      omega

theorem ofNat_toNat {b : Bytes} (h : b.head? ≠ some 0) : ofNat (toNat b) = b :=
  eq_of_toNat_eq (by rw [length_ofNat, width_toNat h]) (toNat_ofNat _)

theorem head?_ofNat (n : Nat) : (ofNat n).head? ≠ some 0 := by
  intro h
  cases hb : ofNat n with
  | nil => rw [hb] at h; cases h
  | cons x r =>
    rw [hb, List.head?_cons] at h
    have hx : x = 0 := Option.some.inj h
    -- behind a zero byte the integer would fit into fewer bytes than it needs
    have hn : n = toNat r := by
      rw [← toNat_ofNat n, hb, toNat_cons, hx, UInt8.toNat_zero, Nat.zero_mul, Nat.zero_add]
    have hlen : r.length + 1 = width n := by
      rw [← length_ofNat, hb, List.length_cons]
    have hle : width n ≤ r.length := width_le_iff.mpr (hn ▸ toNat_lt r)
    omega

/-- **The shortest byte string of an integer is the one that writes it and does
not start with a zero byte.** -/
theorem eq_ofNat_iff {b : Bytes} {n : Nat} : b = ofNat n ↔ toNat b = n ∧ b.head? ≠ some 0 := by
  constructor
  · rintro rfl
    exact ⟨toNat_ofNat n, head?_ofNat n⟩
  · rintro ⟨rfl, h⟩
    exact (ofNat_toNat h).symm

theorem ofNat_injective {m n : Nat} (h : ofNat m = ofNat n) : m = n := by
  rw [← toNat_ofNat m, h, toNat_ofNat]

end Signet.Bytes
