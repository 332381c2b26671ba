import Signet.Proofs.Outcome

/-! # What a computation can fail with

`FailsOnly P x` says that whatever failure `x` ends in, it satisfies `P`.  A
sequence of steps fails only with what its steps fail with (`FailsOnly.bind`), so
that the failures of an operation are collected along its definition, one lemma
per function it calls.
-/

namespace Signet

variable {ε ε' α β : Type}

theorem bind_eq_error_iff {x : Except ε α} {f : α → Except ε β} {e : ε} :
    (x >>= f) = .error e ↔ x = .error e ∨ ∃ a, x = .ok a ∧ f a = .error e := by
  cases x with
  | error e' => simp
  | ok a => simp

theorem mapError_eq_error_iff {x : Except ε α} {f : ε → ε'} {e : ε'} :
    x.mapError f = .error e ↔ ∃ e', x = .error e' ∧ f e' = e := by
  cases x <;> simp

theorem map_eq_error_iff {x : Except ε α} {f : α → β} {e : ε} :
    x.map f = .error e ↔ x = .error e := by
  cases x <;> simp [Except.map]

/-- Every failure of a computation satisfies `P`. -/
def FailsOnly (P : ε → Prop) (x : Except ε α) : Prop :=
  ∀ e, x = .error e → P e

variable {P Q : ε → Prop} {x : Except ε α}

@[simp] theorem failsOnly_ok (a : α) : FailsOnly P (.ok a) := fun _ h => nomatch h

@[simp] theorem failsOnly_pure (a : α) : FailsOnly P (pure a : Except ε α) := failsOnly_ok a

@[simp] theorem failsOnly_error {e : ε} : FailsOnly P (.error e : Except ε α) ↔ P e := by
  constructor
  · intro h
    exact h e rfl
  · rintro h _ ⟨⟩
    exact h

@[simp] theorem failsOnly_throw {e : ε} : FailsOnly P (throw e : Except ε α) ↔ P e :=
  failsOnly_error

namespace FailsOnly

theorem mono (h : FailsOnly P x) (hPQ : ∀ e, P e → Q e) : FailsOnly Q x :=
  fun e he => hPQ e (h e he)

/-- **A sequence of steps fails only with what its steps fail with.** -/
theorem bind {f : α → Except ε β} (hx : FailsOnly P x)
    (hf : ∀ a, x = .ok a → FailsOnly P (f a)) : FailsOnly P (x >>= f) := by
  intro e he
  rcases bind_eq_error_iff.mp he with h | ⟨a, ha, h⟩
  · exact hx e h
  · exact hf a ha e h

theorem map (f : α → β) (h : FailsOnly P x) : FailsOnly P (x.map f) :=
  fun e he => h e (map_eq_error_iff.mp he)

theorem mapError {R : ε' → Prop} {f : ε → ε'} (h : FailsOnly P x) (hf : ∀ e, P e → R (f e)) :
    FailsOnly R (x.mapError f) := by
  intro e he
  obtain ⟨e', hx, rfl⟩ := mapError_eq_error_iff.mp he
  exact hf e' (h e' hx)

theorem mapM {f : α → Except ε β} (hf : ∀ a, FailsOnly P (f a)) (xs : List α) :
    FailsOnly P (xs.mapM f) := by
  induction xs with
  | nil => exact failsOnly_pure _
  | cons a r ih =>
    rw [List.mapM_cons]
    exact (hf a).bind fun b _ => ih.bind fun bs _ => failsOnly_pure _

end FailsOnly

/-- Every computation fails with something, so one that is only renamed fails with a
renamed failure. -/
theorem failsOnly_mapError {R : ε' → Prop} {f : ε → ε'} (h : ∀ e, R (f e)) (x : Except ε α) :
    FailsOnly R (x.mapError f) :=
  FailsOnly.mapError (P := fun _ => True) (fun _ _ => trivial) fun e _ => h e

end Signet
