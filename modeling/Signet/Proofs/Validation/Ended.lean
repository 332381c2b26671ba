import Signet.Proofs.Failures
import Signet.Validation.Field

/-! # What ends a validation

A validation collects the faults of its fields, and is ended at once by a cause that
refuses no value.  `AbortsOnly P c` says that whatever cause ends `c` satisfies `P`.
An object is ended only by what ends one of its fields, so that the causes are
collected along the definition of its reader, field by field.  The plain kinds of
fields end nothing: what is wrong with them is a fault.
-/

namespace Signet

/-- A step of an operation that validates may be one that does not. -/
theorem FailsOnly.lift {α : Type} {Q : Failure → Prop} {x : Except Error α}
    (h : FailsOnly (fun e => Q (.error e)) x) : FailsOnly Q (liftM x : Except Failure α) :=
  FailsOnly.mapError h fun _ => id

namespace Check

variable {α β : Type} {P : Error → Prop}

/-- Every cause that ends a validation satisfies `P`. -/
def AbortsOnly (P : Error → Prop) (c : Check α) : Prop :=
  ∀ e, c = .abort e → P e

@[simp] theorem abortsOnly_ok (a : α) : AbortsOnly P (.ok a) := fun _ h => nomatch h

@[simp] theorem abortsOnly_faults (fs : List Fault) : AbortsOnly P (.faults fs : Check α) :=
  fun _ h => nomatch h

@[simp] theorem abortsOnly_fault (kind : FaultKind) : AbortsOnly P (fault kind : Check α) :=
  abortsOnly_faults _

/-- A constructor ends a validation with what it fails with, unless that refuses the
value. -/
theorem abortsOnly_ofExcept {x : Except Error α}
    (h : FailsOnly (fun e => e.refuses = true ∨ P e) x) : AbortsOnly P (ofExcept x) := by
  intro e he
  cases x with
  | ok a => cases he
  | error e' =>
    rw [ofExcept] at he
    split at he
    · cases he
    next hr =>
      cases he
      exact (h _ rfl).resolve_left hr

namespace AbortsOnly

theorem map {c : Check α} (f : α → β) (h : AbortsOnly P c) : AbortsOnly P (c.map f) := by
  intro e he
  cases c with
  | ok a => cases he
  | faults fs => cases he
  | abort e' =>
    cases he
    exact h _ rfl

/-- **Two validations together are ended by what ends one of them.** -/
theorem seq {f : Check (α → β)} {x : Check α} (hf : AbortsOnly P f) (hx : AbortsOnly P x) :
    AbortsOnly P (f <*> x) := by
  intro e he
  cases f with
  | abort e' =>
    cases he
    exact hf _ rfl
  | ok g =>
    cases x with
    | abort e' =>
      cases he
      exact hx _ rfl
    | ok a => cases he
    | faults fs => cases he
  | faults fs =>
    cases x with
    | abort e' =>
      cases he
      exact hx _ rfl
    | ok a => cases he
    | faults gs => cases he

theorem under {c : Check α} (step : Step) (h : AbortsOnly P c) : AbortsOnly P (c.under step) := by
  intro e he
  cases c with
  | ok a => cases he
  | faults fs => cases he
  | abort e' => exact h e he

theorem toExcept {c : Check α} {Q : Failure → Prop} (h : AbortsOnly P c)
    (hinvalid : ∀ fs, Q (.invalid fs)) (hQ : ∀ e, P e → Q (.error e)) :
    FailsOnly Q c.toExcept := by
  intro e he
  cases c with
  | ok a => cases he
  | faults fs =>
    cases he
    exact hinvalid fs
  | abort e' =>
    cases he
    exact hQ e' (h e' rfl)

end AbortsOnly

/-! ## Fields -/

theorem abortsOnly_object {f : List (String × Datum) → Check α} (h : ∀ l, AbortsOnly P (f l))
    (d : Datum) : AbortsOnly P (object f d) := by
  unfold object
  split
  · exact h _
  · exact abortsOnly_fault _

theorem abortsOnly_required {f : Datum → Check α} (h : ∀ d, AbortsOnly P (f d))
    (entries : List (String × Datum)) (name : String) (others : List String) :
    AbortsOnly P (required entries name others f) := by
  unfold required
  split
  · exact (h _).under _
  · exact (abortsOnly_fault _).under _

theorem abortsOnly_withDefault {f : Datum → Check α} (h : ∀ d, AbortsOnly P (f d))
    (entries : List (String × Datum)) (name : String) (others : List String) (default : α) :
    AbortsOnly P (withDefault entries name others default f) := by
  unfold withDefault
  split
  · exact (h _).under _
  · exact abortsOnly_ok _

theorem abortsOnly_optional {f : Datum → Check α} (h : ∀ d, AbortsOnly P (f d)) (d : Datum) :
    AbortsOnly P (optional f d) := by
  unfold optional
  split
  · exact abortsOnly_ok _
  · exact (h _).map _

/-- The text of an integer field has faults at worst. -/
theorem abortsOnly_intOfText (s : List Char) : AbortsOnly P (intOfText s) := by
  unfold intOfText
  split
  · exact abortsOnly_fault _
  split
  · exact abortsOnly_ok _
  · exact abortsOnly_fault _

theorem abortsOnly_intOfFloat (x : Binary64) : AbortsOnly P (intOfFloat x) := by
  unfold intOfFloat
  split
  · exact abortsOnly_fault _
  split
  · exact abortsOnly_fault _
  split
  · exact abortsOnly_ok _
  · exact abortsOnly_fault _

/-- An integer field has faults at worst. -/
theorem abortsOnly_int (d : Datum) : AbortsOnly P (int d) := by
  unfold int
  split
  · exact abortsOnly_intOfFloat _
  · unfold intOfUnsigned
    split
    · exact abortsOnly_fault _
    · exact abortsOnly_intOfFloat _
  · exact abortsOnly_intOfText _
  split
  · exact abortsOnly_ok _
  · split
    · exact abortsOnly_intOfText _
    · exact abortsOnly_fault _
  · exact abortsOnly_fault _

/-- A text field has faults at worst. -/
theorem abortsOnly_text (d : Datum) : AbortsOnly P (text d) := by
  unfold text
  split
  · exact abortsOnly_ok _
  split
  · split
    · exact abortsOnly_ok _
    · exact abortsOnly_fault _
  · exact abortsOnly_fault _

end Check
end Signet
