import Signet.Bytes

/-! # When a computation that may fail succeeds

A sequence of steps succeeds exactly when every step does.  A step that undoes a
writing function, and nothing else, undoes it on a whole list too
(`mapM_eq_ok_iff`).
-/

namespace Signet

variable {ε ε' α β : Type}

@[simp] theorem ok_bind (a : α) (f : α → Except ε β) : (Except.ok a >>= f) = f a := rfl

@[simp] theorem error_bind (e : ε) (f : α → Except ε β) :
    ((Except.error e : Except ε α) >>= f) = .error e := rfl

@[simp] theorem mapError_ok (a : α) (f : ε → ε') :
    (Except.ok a : Except ε α).mapError f = .ok a := rfl

@[simp] theorem mapError_error (e : ε) (f : ε → ε') :
    (Except.error e : Except ε α).mapError f = .error (f e) := rfl

theorem bind_eq_ok_iff {x : Except ε α} {f : α → Except ε β} {b : β} :
    (x >>= f) = .ok b ↔ ∃ a, x = .ok a ∧ f a = .ok b := by
  cases x with
  | error e => simp
  | ok a => simp

theorem map_eq_ok_iff {x : Except ε α} {f : α → β} {b : β} :
    x.map f = .ok b ↔ ∃ a, x = .ok a ∧ f a = b := by
  cases x <;> simp [Except.map]

theorem mapError_eq_ok_iff {x : Except ε α} {f : ε → ε'} {a : α} :
    x.mapError f = .ok a ↔ x = .ok a := by
  cases x <;> simp

/-- What a step gives and what it fails with are replaced in either order. -/
theorem map_mapError (x : Except ε α) (f : ε → ε') (g : α → β) :
    (x.mapError f).map g = (x.map g).mapError f := by
  cases x <;> rfl

/-- A step that succeeds on every item of a list succeeds on the list. -/
theorem mapM_eq_ok_map {f : α → Except ε β} {g : α → β} {xs : List α}
    (h : ∀ x ∈ xs, f x = .ok (g x)) : xs.mapM f = .ok (xs.map g) := by
  induction xs with
  | nil => rfl
  | cons x r ih =>
    obtain ⟨hx, hr⟩ := List.forall_mem_cons.mp h
    rw [List.mapM_cons, hx, ok_bind, ih hr]
    rfl

/-- A reader that accepts exactly what a writer writes accepts, on a list,
exactly what the writer writes item by item. -/
theorem mapM_eq_ok_iff {read : α → Except ε β} {write : β → α}
    (h : ∀ x y, read x = .ok y ↔ x = write y) {xs : List α} {ys : List β} :
    xs.mapM read = .ok ys ↔ xs = ys.map write := by
  induction xs generalizing ys with
  | nil => cases ys <;> simp [pure, Except.pure]
  | cons x r ih =>
    rw [List.mapM_cons, bind_eq_ok_iff]
    constructor
    · rintro ⟨y, hy, hr⟩
      obtain ⟨zs, hzs, hp⟩ := bind_eq_ok_iff.mp hr
      cases hp
      rw [List.map_cons, (h x y).mp hy, ih.mp hzs]
    · intro hxs
      cases ys with
      | nil => cases hxs
      | cons y zs =>
        obtain ⟨hx, hr⟩ := List.cons.inj hxs
        exact ⟨y, (h x y).mpr hx, bind_eq_ok_iff.mpr ⟨zs, ih.mpr hr, rfl⟩⟩

end Signet
