import Signet.Keystore.Derivation
import Signet.Proofs.Failures

/-! # When a key derivation fails

A key derivation fails for its parameters, never for the password, and the parameters
tell the cause.  scrypt looks at the cost first (`Scrypt.IsCost`), then divides by the
block size, and then looks at the block size and the parallel cost together
(`Scrypt.IsBlock`); PBKDF2 looks at nothing where no bytes are asked for.  Both fail last
for a length that no memory holds.

Each function has its ways of failing as a relation between parameters and causes, and
an equivalence that says that there are no others (`KeystoreCrypto.stretch_eq_error_iff`).
All causes but two belong to declared classes: the division by a block size of zero, and
the memory (`KeystoreCrypto.StretchFails.isDeclared_or`).
-/

namespace Signet

variable {password salt : Bytes} {e : Error}

/-! ## scrypt -/

namespace Scrypt

/-- A cost that scrypt takes: a power of two below the ceiling. -/
def IsCost (n : Int) : Prop :=
  ∃ k, k < 32 ∧ n = (1 <<< k : Nat)

/-- A block size and a parallel cost that scrypt takes together. -/
structure IsBlock (r p : Int) : Prop where
  pos : 0 < r
  nonneg : 0 ≤ p
  product_le : p * (128 * r) ≤ 0xFFFFFFFF * 32

/-- How scrypt fails, in the order in which it looks at its parameters. -/
inductive Fails (n r p dklen : Int) : Error → Prop
  | cost : ¬ IsCost n → Fails n r p dklen .internalCrypto
  | noBlock : IsCost n → r = 0 → Fails n r p dklen .divisionByZero
  | block : IsCost n → r ≠ 0 → ¬ IsBlock r p → Fails n r p dklen .internalCrypto
  | memory : IsCost n → IsBlock r p → Datum.memoryCeiling ≤ dklen → Fails n r p dklen .memory

variable {n r p dklen : Int}

/-- The test on a cost. -/
theorem isCost_iff :
    IsCost n ↔ ¬ (n ≤ 0 ∨ n ≠ (1 <<< n.toNat.log2 : Nat) ∨ (costCeiling : Int) ≤ n) := by
  have hceiling : costCeiling = 2 ^ 32 := by decide
  rw [hceiling]
  constructor
  · rintro ⟨k, hk, rfl⟩
    rw [Nat.one_shiftLeft, Int.toNat_natCast, Nat.log2_two_pow, Nat.one_shiftLeft]
    have hpos := Nat.two_pow_pos k
    have hlt : 2 ^ k < 2 ^ 32 := Nat.pow_lt_pow_right (by decide) hk
    omega
  · intro h
    rw [not_or, not_or, Classical.not_not] at h
    obtain ⟨-, hpower, hlt⟩ := h
    refine ⟨n.toNat.log2, ?_, hpower⟩
    rw [hpower, Nat.one_shiftLeft] at hlt
    have hlt : 2 ^ n.toNat.log2 < 2 ^ 32 := by omega
    exact (Nat.pow_lt_pow_iff_right (by decide)).mp hlt

/-- The test on a block size that is not zero and a parallel cost. -/
theorem isBlock_iff (hr : r ≠ 0) : IsBlock r p ↔ ¬ (parallelLimit r < p ∨ r < 0 ∨ p < 0) := by
  have hlimit : 0 < r → (p ≤ parallelLimit r ↔ p * (128 * r) ≤ 0xFFFFFFFF * 32) := fun h => by
    rw [parallelLimit, Int.fdiv_eq_ediv_of_nonneg _ (by omega)]
    exact Int.le_ediv_iff_mul_le (by omega)
  constructor
  · rintro ⟨hpos, hnonneg, hproduct⟩
    have hle := (hlimit hpos).mpr hproduct
    omega
  · intro h
    have hpos : 0 < r := by omega
    exact ⟨hpos, by omega, (hlimit hpos).mp (by omega)⟩

/-- **scrypt takes a cost, a block size and a parallel cost in range**, and a length that some
memory holds. -/
theorem stretch_eq_ok_iff {derived : Bytes} :
    stretch password salt n r p dklen = .ok derived ↔
      IsCost n ∧ IsBlock r p ∧ dklen < Datum.memoryCeiling ∧
        derived = derive password salt n.toNat r.toNat p.toNat dklen.toNat := by
  constructor
  · intro h
    unfold stretch at h
    split at h
    · cases h
    next hcost =>
    split at h
    · cases h
    next hr =>
    split at h
    · cases h
    next hblock =>
    split at h
    · cases h
    next hmemory =>
    cases h
    exact ⟨isCost_iff.mpr hcost, (isBlock_iff hr).mpr hblock, Int.not_le.mp hmemory, rfl⟩
  · rintro ⟨hcost, hblock, hmemory, rfl⟩
    have hr := Int.ne_of_gt hblock.pos
    rw [stretch, if_neg (isCost_iff.mp hcost), if_neg hr, if_neg ((isBlock_iff hr).mp hblock),
      if_neg (Int.not_le.mpr hmemory)]

/-- **scrypt fails for its parameters alone**, in one of the ways of `Fails`. -/
theorem stretch_eq_error_iff :
    stretch password salt n r p dklen = .error e ↔ Fails n r p dklen e := by
  constructor
  · intro h
    unfold stretch at h
    split at h
    next hcost =>
      cases h
      exact .cost fun h => isCost_iff.mp h hcost
    next hcost =>
    have hcost := isCost_iff.mpr hcost
    split at h
    next hr =>
      cases h
      exact .noBlock hcost hr
    next hr =>
    split at h
    next hblock =>
      cases h
      exact .block hcost hr fun h => (isBlock_iff hr).mp h hblock
    next hblock =>
    split at h
    next hmemory =>
      cases h
      exact .memory hcost ((isBlock_iff hr).mpr hblock) hmemory
    · cases h
  · intro h
    unfold stretch
    cases h with
    | cost hcost => rw [if_pos (Classical.not_not.mp (mt isCost_iff.mpr hcost))]
    | noBlock hcost hr => rw [if_neg (isCost_iff.mp hcost), if_pos hr]
    | block hcost hr hblock =>
      rw [if_neg (isCost_iff.mp hcost), if_neg hr,
        if_pos (Classical.not_not.mp (mt (isBlock_iff hr).mpr hblock))]
    | memory hcost hblock hmemory =>
      have hr := Int.ne_of_gt hblock.pos
      rw [if_neg (isCost_iff.mp hcost), if_neg hr, if_neg ((isBlock_iff hr).mp hblock),
        if_pos hmemory]

end Scrypt

/-! ## PBKDF2 -/

namespace Pbkdf2

/-- How PBKDF2 fails, in the order in which it looks at its parameters. -/
inductive Fails (c dklen : Int) : Error → Prop
  | count : 0 < dklen → c ≤ 0 → Fails c dklen .internalCrypto
  | memory : 0 < c → Datum.memoryCeiling ≤ dklen → Fails c dklen .memory

variable {c dklen : Int}

/-- **PBKDF2 fails for its parameters alone**, in one of the ways of `Fails`. -/
theorem stretch_eq_error_iff : stretch password salt c dklen = .error e ↔ Fails c dklen e := by
  have hceiling : 0 < Datum.memoryCeiling := by decide
  constructor
  · intro h
    unfold stretch at h
    split at h
    · cases h
    split at h
    next hlen hc =>
      cases h
      exact .count (by omega) hc
    split at h
    next hc hmemory =>
      cases h
      exact .memory (by omega) hmemory
    · cases h
  · intro h
    unfold stretch
    cases h with
    | count hlen hc => rw [if_neg (by omega), if_pos hc]
    | memory hc hmemory => rw [if_neg (by omega), if_neg (by omega), if_pos hmemory]

end Pbkdf2

/-! ## The key of a keystore -/

namespace KeystoreCrypto

/-- How the key derivation of a keystore fails: as its primitive does, or for a parameter
that is missing or not supported. -/
inductive StretchFails (c : KeystoreCrypto) : Error → Prop
  | scrypt {n r p : Int} {e : Error} : c.kdf = "scrypt" → c.kdfParams.n = some n →
      c.kdfParams.r = some r → c.kdfParams.p = some p →
      Scrypt.Fails n r p c.kdfParams.dklen e → StretchFails c e
  | scryptParams : c.kdf = "scrypt" →
      c.kdfParams.n = none ∨ c.kdfParams.r = none ∨ c.kdfParams.p = none →
      StretchFails c (.keystore .scryptParams)
  | pbkdf2 {count : Int} {e : Error} : c.kdf = "pbkdf2" → c.kdfParams.prf = some prfName →
      c.kdfParams.c = some count → Pbkdf2.Fails count c.kdfParams.dklen e → StretchFails c e
  | prf : c.kdf = "pbkdf2" → c.kdfParams.prf ≠ some prfName →
      StretchFails c (.unsupportedPrf (c.kdfParams.prf.getD noneText))
  | iterationCount : c.kdf = "pbkdf2" → c.kdfParams.prf = some prfName → c.kdfParams.c = none →
      StretchFails c (.keystore .iterationCount)
  | kdf : c.kdf ≠ "scrypt" → c.kdf ≠ "pbkdf2" → StretchFails c (.unsupportedKdf c.kdf)

variable {c : KeystoreCrypto}

/-- **A key derivation fails for the parameters of the keystore alone**, in one of the ways
of `StretchFails`. -/
theorem stretch_eq_error_iff : c.stretch password = .error e ↔ StretchFails c e := by
  have hother : ¬ ("pbkdf2" = "scrypt") := by decide
  constructor
  · intro h
    unfold stretch at h
    simp only at h
    split at h
    next hkdf =>
      split at h
      next n r p hn hr hp => exact .scrypt hkdf hn hr hp (Scrypt.stretch_eq_error_iff.mp h)
      next hnone =>
        cases h
        refine .scryptParams hkdf ?_
        cases hn : c.kdfParams.n with
        | none => exact Or.inl rfl
        | some n =>
          cases hr : c.kdfParams.r with
          | none => exact Or.inr (Or.inl rfl)
          | some r =>
            cases hp : c.kdfParams.p with
            | none => exact Or.inr (Or.inr rfl)
            | some p => exact absurd hp (hnone n r p hn hr)
    next hscrypt =>
    split at h
    next hkdf =>
      split at h
      next hprf =>
        cases h
        exact .prf hkdf hprf
      next hprf =>
      have hprf := Classical.not_not.mp hprf
      split at h
      next count hcount => exact .pbkdf2 hkdf hprf hcount (Pbkdf2.stretch_eq_error_iff.mp h)
      next hcount =>
        cases h
        exact .iterationCount hkdf hprf hcount
    next hpbkdf2 =>
      cases h
      exact .kdf hscrypt hpbkdf2
  · intro h
    unfold stretch
    simp only
    cases h with
    | scrypt hkdf hn hr hp h =>
      rw [if_pos hkdf, hn, hr, hp]
      exact Scrypt.stretch_eq_error_iff.mpr h
    | scryptParams hkdf hnone =>
      rw [if_pos hkdf]
      split
      next hn hr hp =>
        rw [hn, hr, hp] at hnone
        rcases hnone with h | h | h <;> cases h
      · rfl
    | pbkdf2 hkdf hprf hcount h =>
      rw [hkdf, if_neg hother, if_pos rfl, if_neg (Classical.not_not.mpr hprf), hcount]
      exact Pbkdf2.stretch_eq_error_iff.mpr h
    | prf hkdf hprf => rw [hkdf, if_neg hother, if_pos rfl, if_pos hprf]
    | iterationCount hkdf hprf hcount =>
      rw [hkdf, if_neg hother, if_pos rfl, if_neg (Classical.not_not.mpr hprf), hcount]
    | kdf hscrypt hpbkdf2 => rw [if_neg hscrypt, if_neg hpbkdf2]

/-! ## Failures that are not declared -/

/-- Parameters with which scrypt divides by a block size of zero. -/
inductive DividesByZero (c : KeystoreCrypto) : Prop
  | scrypt {n p : Int} : c.kdf = "scrypt" → c.kdfParams.n = some n → c.kdfParams.r = some 0 →
      c.kdfParams.p = some p → Scrypt.IsCost n → DividesByZero c

/-- Parameters in range, with a length that no memory holds. -/
inductive ExceedsMemory (c : KeystoreCrypto) : Prop
  | scrypt {n r p : Int} : c.kdf = "scrypt" → c.kdfParams.n = some n → c.kdfParams.r = some r →
      c.kdfParams.p = some p → Scrypt.IsCost n → Scrypt.IsBlock r p →
      Datum.memoryCeiling ≤ c.kdfParams.dklen → ExceedsMemory c
  | pbkdf2 {count : Int} : c.kdf = "pbkdf2" → c.kdfParams.prf = some prfName →
      c.kdfParams.c = some count → 0 < count → Datum.memoryCeiling ≤ c.kdfParams.dklen →
      ExceedsMemory c

/-- **A key derivation fails with a cause of a declared class, or it divides by zero or takes
too much memory.** -/
theorem StretchFails.isDeclared_or (h : StretchFails c e) :
    e.isDeclared = true ∨ e = .divisionByZero ∧ c.DividesByZero ∨
      e = .memory ∧ c.ExceedsMemory := by
  cases h with
  | scryptParams | prf | iterationCount | kdf => exact Or.inl rfl
  | scrypt hkdf hn hr hp h =>
    cases h with
    | cost | block => exact Or.inl rfl
    | noBlock hcost hzero =>
      rw [hzero] at hr
      exact Or.inr (Or.inl ⟨rfl, .scrypt hkdf hn hr hp hcost⟩)
    | memory hcost hblock hmemory =>
      exact Or.inr (Or.inr ⟨rfl, .scrypt hkdf hn hr hp hcost hblock hmemory⟩)
  | pbkdf2 hkdf hprf hcount h =>
    cases h with
    | count => exact Or.inl rfl
    | memory hpos hmemory => exact Or.inr (Or.inr ⟨rfl, .pbkdf2 hkdf hprf hcount hpos hmemory⟩)

theorem stretchFails_divisionByZero_iff : StretchFails c .divisionByZero ↔ c.DividesByZero := by
  constructor
  · intro h
    obtain h | ⟨-, h⟩ | ⟨h, -⟩ := h.isDeclared_or
    · cases h
    · exact h
    · cases h
  · rintro ⟨hkdf, hn, hr, hp, hcost⟩
    exact .scrypt hkdf hn hr hp (.noBlock hcost rfl)

theorem stretchFails_memory_iff : StretchFails c .memory ↔ c.ExceedsMemory := by
  constructor
  · intro h
    obtain h | ⟨h, -⟩ | ⟨-, h⟩ := h.isDeclared_or
    · cases h
    · cases h
    · exact h
  · intro h
    cases h with
    | scrypt hkdf hn hr hp hcost hblock hmemory =>
      exact .scrypt hkdf hn hr hp (.memory hcost hblock hmemory)
    | pbkdf2 hkdf hprf hcount hpos hmemory =>
      exact .pbkdf2 hkdf hprf hcount (.memory hpos hmemory)

end KeystoreCrypto
end Signet
