import Mathlib.Data.List.Prime
import Mathlib.NumberTheory.LucasPrimality
import Mathlib.Tactic.NormNum.Prime
import Mathlib.Tactic.Ring
import Signet.Curve.Secp256k1

/-! # The field of the curve is a prime field

`powMod` squares and multiplies its way through the bits of the exponent, and
computes the power (`natCast_powMod`).  So an evaluation of it tells the order of
an element, and Lucas's test can be run: a number `p` is prime if an element has
the order `p - 1`.

A `PrimeProof` is such an element with the prime factors of `p - 1`.  A list of
them in which every factor is known from before proves the numbers in it prime
(`prime_of_verify`); `fieldOrderProofs` does it for the order of the field
(`fieldOrder_prime`).
-/

namespace Signet.Secp256k1

/-! ## Powers -/

/-- The loop through the low bits of the exponent: every bit squares what was
computed for the bits above it, and multiplies if it is set. -/
theorem natCast_powFrom (b e m bits acc : ℕ) :
    (powFrom b e m bits acc : ZMod m) = (acc : ZMod m) ^ 2 ^ bits * (b : ZMod m) ^ (e % 2 ^ bits) := by
  induction bits generalizing acc with
  | zero => simp [powFrom, Nat.mod_one]
  | succ bits ih =>
    have hmod : e % 2 ^ (bits + 1) = 2 ^ bits * (e.testBit bits).toNat + e % 2 ^ bits := by
      rw [Nat.mod_pow_succ, Nat.toNat_testBit, Nat.add_comm]
    rw [powFrom, ih, hmod]
    cases e.testBit bits with
    | false =>
      simp only [Bool.false_eq_true, if_false, ZMod.natCast_mod, Nat.cast_mul, Bool.toNat_false]
      ring
    | true =>
      simp only [if_true, ZMod.natCast_mod, Nat.cast_mul, Bool.toNat_true]
      ring

theorem powFrom_lt {b e m acc : ℕ} (hacc : acc < m) (bits : ℕ) : powFrom b e m bits acc < m := by
  have hm : 0 < m := Nat.zero_lt_of_lt hacc
  induction bits generalizing acc with
  | zero => exact hacc
  | succ bits ih =>
    rw [powFrom]
    refine ih ?_
    split <;> exact Nat.mod_lt _ hm

/-- **`powMod` computes the power.** -/
theorem natCast_powMod (b e m : ℕ) : (powMod b e m : ZMod m) = (b : ZMod m) ^ e := by
  have hlow : e % 2 ^ (e.log2 + 1) = e := Nat.mod_eq_of_lt Nat.lt_log2_self
  rw [powMod, natCast_powFrom, hlow, ZMod.natCast_mod, ZMod.natCast_mod, Nat.cast_one, one_pow,
    one_mul]

theorem powMod_lt {m : ℕ} (hm : 0 < m) (b e : ℕ) : powMod b e m < m :=
  powFrom_lt (Nat.mod_lt _ hm) _

/-- The evaluation of `powMod` tells whether a power is one. -/
theorem powMod_eq_one_iff {m : ℕ} (hm : 1 < m) (b e : ℕ) :
    powMod b e m = 1 ↔ (b : ZMod m) ^ e = 1 := by
  rw [← natCast_powMod]
  constructor
  · intro h
    rw [h, Nat.cast_one]
  · intro h
    rw [← Nat.cast_one, ZMod.natCast_eq_natCast_iff', Nat.mod_eq_of_lt hm] at h
    rwa [Nat.mod_eq_of_lt (powMod_lt (Nat.zero_lt_of_lt hm) b e)] at h

/-! ## Proofs of primality -/

/-- What shows that a number is prime. -/
structure PrimeProof where
  /-- the number -/
  prime : ℕ
  /-- an element of the order `prime - 1` -/
  generator : ℕ
  /-- the prime factors of `prime - 1`, each as often as it divides -/
  factors : List ℕ

namespace PrimeProof

/-- Lucas's test, with factors that are among the numbers `known`. -/
def verify (known : List ℕ) (c : PrimeProof) : Bool :=
  decide (1 < c.prime) && c.factors.all (fun q => decide (q ∈ known)) &&
    c.factors.prod == c.prime - 1 && powMod c.generator (c.prime - 1) c.prime == 1 &&
    c.factors.all fun q => powMod c.generator ((c.prime - 1) / q) c.prime != 1

/-- A number that passes the test with prime factors is prime. -/
theorem prime_of_verify {known : List ℕ} {c : PrimeProof} (hknown : ∀ q ∈ known, q.Prime)
    (h : c.verify known = true) : c.prime.Prime := by
  simp only [verify, Bool.and_eq_true, decide_eq_true_eq, List.all_eq_true, beq_iff_eq,
    bne_iff_ne, ne_eq] at h
  obtain ⟨⟨⟨⟨hone, hfactors⟩, hprod⟩, hpow⟩, horder⟩ := h
  refine lucas_primality c.prime (c.generator : ZMod c.prime) ?_ fun q hq hdvd => ?_
  · exact (powMod_eq_one_iff hone _ _).mp hpow
  · have hmem : q ∈ c.factors := by
      rw [← hprod] at hdvd
      exact mem_list_primes_of_dvd_prod hq.prime (fun p hp => (hknown p (hfactors p hp)).prime) hdvd
    rw [ne_eq, ← powMod_eq_one_iff hone]
    exact horder q hmem

/-- A list of proofs, each with factors that are known from before. -/
def verifyAll (known : List ℕ) : List PrimeProof → Bool
  | [] => true
  | c :: r => c.verify known && verifyAll (c.prime :: known) r

/-- **Every number in a list that passes is prime.** -/
theorem prime_of_verifyAll {known : List ℕ} {cs : List PrimeProof}
    (hknown : ∀ q ∈ known, q.Prime) (h : verifyAll known cs = true) {c : PrimeProof}
    (hc : c ∈ cs) : c.prime.Prime := by
  induction cs generalizing known with
  | nil => cases hc
  | cons d r ih =>
    obtain ⟨hd, hr⟩ := Bool.and_eq_true_iff.mp h
    have hprime : d.prime.Prime := prime_of_verify hknown hd
    rcases List.mem_cons.mp hc with rfl | hc
    · exact hprime
    · exact ih (List.forall_mem_cons.mpr ⟨hprime, hknown⟩) hr hc

end PrimeProof

/-! ## The order of the field -/

/-- The small primes from which the order of the field is built. -/
def smallPrimes : List ℕ :=
  [2, 3, 5, 7, 11, 29, 31, 53, 971, 1373, 1627, 2621, 2657, 4423, 5323, 7723, 13441, 20113, 24809,
   41201, 96557]

theorem prime_of_mem_smallPrimes : ∀ q ∈ smallPrimes, q.Prime := by
  unfold smallPrimes
  norm_num [List.forall_mem_cons]

/-- The order of the field, and the large primes on the way to it. -/
def fieldOrderProofs : List PrimeProof :=
  [⟨1206781, 10, [2, 2, 3, 5, 20113]⟩,
   ⟨7240687, 3, [2, 3, 1206781]⟩,
   ⟨107590001, 3, [2, 2, 2, 2, 5, 5, 5, 5, 7, 29, 53]⟩,
   ⟨255515944373312847190720520512484175977, 3,
    [2, 2, 2, 7, 7, 11, 1627, 2657, 4423, 41201, 96557, 7240687, 107590001]⟩,
   ⟨13331831, 13, [2, 5, 971, 1373]⟩,
   ⟨173378833005251801, 6, [2, 2, 2, 5, 5, 2621, 24809, 13331831]⟩,
   ⟨22149492674086928081353, 5, [2, 2, 2, 3, 5323, 173378833005251801]⟩,
   ⟨132896956044521568488119, 6, [2, 3, 22149492674086928081353]⟩,
   ⟨205115282021455665897114700593932402728804164701536103180137503955397371, 10,
    [2, 3, 5, 29, 29, 31, 7723, 132896956044521568488119,
     255515944373312847190720520512484175977]⟩,
   ⟨fieldOrder, 3,
    [2, 3, 7, 13441, 205115282021455665897114700593932402728804164701536103180137503955397371]⟩]

theorem verifyAll_fieldOrderProofs :
    PrimeProof.verifyAll smallPrimes fieldOrderProofs = true := by
  decide +kernel

/-- **The order of the field is prime.** -/
theorem fieldOrder_prime : fieldOrder.Prime :=
  PrimeProof.prime_of_verifyAll prime_of_mem_smallPrimes verifyAll_fieldOrderProofs
    (c := fieldOrderProofs.getLast (by decide)) (List.getLast_mem _)

instance : Fact fieldOrder.Prime := ⟨fieldOrder_prime⟩

end Signet.Secp256k1
