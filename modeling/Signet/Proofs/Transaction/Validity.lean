import Signet.Proofs.Outcome
import Signet.Proofs.Validation.Accepted
import Signet.Transaction.Validation

/-! # Valid transactions

Every reader of a field keeps a transaction valid (`valid_of_read`), whatever
value it is given, and the transaction without fields is valid.  So a validation
that accepts gives a valid transaction (`valid_of_ofEntries`), and so does every
assignment to one (`valid_of_assign`).
-/

namespace Signet

/-- The type numbers are those of the three envelopes. -/
theorem Envelope.mem_of_ofCode?_isSome {n : Int} (h : (ofCode? n).isSome) : n ∈ [0, 1, 2] := by
  unfold ofCode? at h
  split at h <;> simp_all

namespace Transaction

/-! ## Integers that are not negative -/

@[simp] theorem nonNegative_none : NonNegative none := fun _ h => nomatch h

@[simp] theorem nonNegative_natCast (n : Nat) : NonNegative (some (n : Int)) := by
  intro i hi
  cases hi
  exact Int.natCast_nonneg n

@[simp] theorem fitsWord_none : FitsWord none := fun _ h => nomatch h

theorem fitsWord_natCast {n : Nat} (h : n < uint256Ceiling) : FitsWord (some (n : Int)) := by
  intro i hi
  cases hi
  exact ⟨Int.natCast_nonneg n, Int.ofNat_lt.mpr h⟩

theorem FitsWord.nonNegative {n : Option Int} (h : FitsWord n) : NonNegative n :=
  fun i hi => (h i hi).1

theorem NonNegative.getD {n : Option Int} (h : NonNegative n) : 0 ≤ n.getD 0 := by
  cases n with
  | none => exact Int.le_refl 0
  | some i => exact h i rfl

theorem FitsWord.toNat_getD_lt {n : Option Int} (h : FitsWord n) :
    (n.getD 0).toNat < uint256Ceiling := by
  cases n with
  | none => decide
  | some i =>
    have hi := (h i rfl).2
    have hpos : 0 < uint256Ceiling := by decide
    simp only [Option.getD_some]
    omega

/-! ## What the readers of the fields accept -/

/-- A quantity is the number of a value, where that is not negative. -/
theorem quantityOf_eq_ok_iff {d : Datum} {i : Int} :
    quantityOf d = .ok i ↔ d.toNumber = .ok i ∧ 0 ≤ i := by
  rw [quantityOf, Check.ofExcept_eq_ok_iff, bind_eq_ok_iff]
  constructor
  · rintro ⟨j, hj, h⟩
    split at h
    · cases h
    next hneg =>
      cases h
      exact ⟨hj, Int.not_lt.mp hneg⟩
  · rintro ⟨hi, hpos⟩
    exact ⟨i, hi, if_neg (Int.not_lt.mpr hpos)⟩

/-- A word is the number of a value, where that fits into 32 bytes. -/
theorem wordOf_eq_ok_iff {d : Datum} {i : Int} :
    wordOf d = .ok i ↔ d.toNumber = .ok i ∧ 0 ≤ i ∧ i < uint256Ceiling := by
  rw [wordOf, Check.ofExcept_eq_ok_iff, bind_eq_ok_iff]
  constructor
  · rintro ⟨j, hj, h⟩
    obtain ⟨k, hk, h⟩ := bind_eq_ok_iff.mp h
    cases h
    rw [mapError_eq_ok_iff, Signature.component] at hk
    split at hk
    next hrange => exact ⟨hj, hrange⟩
    · cases hk
  · rintro ⟨hi, hrange⟩
    refine ⟨i, hi, bind_eq_ok_iff.mpr ⟨i.toNat, ?_, rfl⟩⟩
    rw [mapError_eq_ok_iff, Signature.component, if_pos hrange]

theorem nonNegative_of_quantityOf {d : Datum} {n : Option Int}
    (h : Check.optional quantityOf d = .ok n) : NonNegative n := by
  rcases Check.of_optional h with rfl | ⟨i, hi, rfl⟩
  · exact nonNegative_none
  · intro k hk
    cases hk
    exact (quantityOf_eq_ok_iff.mp hi).2

theorem fitsWord_of_wordOf {d : Datum} {n : Option Int}
    (h : Check.optional wordOf d = .ok n) : FitsWord n := by
  rcases Check.of_optional h with rfl | ⟨i, hi, rfl⟩
  · exact fitsWord_none
  · intro k hk
    cases hk
    exact (wordOf_eq_ok_iff.mp hi).2

theorem envelope_of_typeOfInt {n m : Int} (h : typeOfInt n = .ok m) :
    (Envelope.ofCode? m).isSome = true := by
  unfold typeOfInt at h
  split at h
  · cases h
  split at h
  next hsome =>
    cases h
    exact hsome
  · cases h

theorem envelope_of_typeOf {d : Datum} {n : Int} (h : typeOf d = .ok n) :
    (Envelope.ofCode? n).isSome = true := by
  unfold typeOf at h
  split at h
  · split at h
    · exact envelope_of_typeOfInt h
    · cases h
  · split at h
    · exact envelope_of_typeOfInt h
    · cases h
    · cases h

/-! ## Every reader keeps a transaction valid -/

variable {tx : Transaction} {d : Datum} {u : Transaction → Transaction}

theorem valid_empty : Valid {} := by
  constructor <;> simp [envelope?, Envelope.ofCode?]

/-- **Whatever a field is set to, the transaction stays valid.** -/
theorem valid_of_read {f : Field} (h : f.read d = .ok u) (hv : tx.Valid) : (u tx).Valid := by
  obtain ⟨henv, hnonce, hlimit, hprice, htip, hcap, hvalue, hchain, hsv, hsr, hss⟩ := hv
  cases f with
  | ty =>
    obtain ⟨n, hn, rfl⟩ := Check.map_eq_ok_iff.mp h
    exact ⟨envelope_of_typeOf hn, hnonce, hlimit, hprice, htip, hcap, hvalue, hchain, hsv, hsr, hss⟩
  | sender | recipient | data | accessList =>
    obtain ⟨x, -, rfl⟩ := Check.map_eq_ok_iff.mp h
    exact ⟨henv, hnonce, hlimit, hprice, htip, hcap, hvalue, hchain, hsv, hsr, hss⟩
  | nonce | gasLimit | gasPrice | maxPriorityFeePerGas | maxFeePerGas | value | chainId | v =>
    obtain ⟨x, hx, rfl⟩ := Check.map_eq_ok_iff.mp h
    have hn := nonNegative_of_quantityOf hx
    constructor <;> assumption
  | r | s =>
    obtain ⟨x, hx, rfl⟩ := Check.map_eq_ok_iff.mp h
    have hn := fitsWord_of_wordOf hx
    constructor <;> assumption

theorem valid_of_updatesOf {entries : List (String × Datum)} {fs : List Field}
    (h : updatesOf entries fs = .ok u) (hv : tx.Valid) : (u tx).Valid := by
  induction fs generalizing tx u with
  | nil =>
    cases h
    exact hv
  | cons f r ih =>
    obtain ⟨g, rest, hg, hrest, rfl⟩ := Check.seq_eq_ok_iff.mp h
    obtain ⟨w, hw, rfl⟩ := Check.map_eq_ok_iff.mp hg
    rcases Check.of_withDefault hw with rfl | ⟨d, hd⟩
    · exact ih hrest hv
    · exact ih hrest (valid_of_read hd hv)

/-- **A validation that accepts gives a valid transaction.** -/
theorem valid_of_ofEntries {entries : List (String × Datum)} (h : ofEntries entries = .ok tx) :
    tx.Valid := by
  obtain ⟨u, hu, rfl⟩ := Check.map_eq_ok_iff.mp h
  exact valid_of_updatesOf hu valid_empty

/-- An assignment that is accepted keeps a transaction valid. -/
theorem valid_of_assign {name : String} {tx' : Transaction} (hv : tx.Valid)
    (h : tx.assign name d = .ok tx') : tx'.Valid := by
  unfold assign at h
  split at h
  · obtain ⟨u, hu, rfl⟩ := Check.map_eq_ok_iff.mp (Check.under_eq_ok_iff.mp h)
    exact valid_of_read hu hv
  split at h
  · cases h
  split at h
  · cases h
    exact hv
  · cases h

end Transaction
end Signet
