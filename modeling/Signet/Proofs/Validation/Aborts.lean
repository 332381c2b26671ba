import Signet.Proofs.Validation.Ended

/-! # Where a validation is ended

`Aborts c` says that `c` was ended before all fields were looked at.  A validation that is
put together is ended exactly where one of its parts is (`aborts_seq`), and a field where
the value that it reads ends its reader (`aborts_required`, `aborts_withDefault`).  As
objects lie in objects, such a value is found at the end of a path (`Datum.At`).
-/

namespace Signet

namespace Datum

/-- The value that an object has under the first of some names that it has. -/
def member? (d : Datum) (names : List String) : Option Datum :=
  match d with
  | .dict entries => (Check.firstEntry? entries names).map Prod.snd
  | _ => none

/-- At the end of a path through objects there is a value with a property.  A step of the
path is a list of names, the first of which that is there counts. -/
def At (P : Datum → Prop) : List (List String) → Datum → Prop
  | [], d => P d
  | names :: path, d => ∃ x, d.member? names = some x ∧ At P path x

/-- Only an object has members. -/
theorem isDict_of_member? {d x : Datum} {names : List String} (h : d.member? names = some x) :
    ∃ entries, d = .dict entries := by
  unfold member? at h
  split at h
  next entries => exact ⟨entries, rfl⟩
  · cases h

theorem At.isDict {P : Datum → Prop} {path : List (List String)} {d : Datum} (h : At P path d)
    (hpath : path ≠ []) : ∃ entries, d = .dict entries := by
  cases path with
  | nil => exact absurd rfl hpath
  | cons names path =>
    obtain ⟨x, hx, -⟩ := h
    exact isDict_of_member? hx

end Datum

namespace Check

variable {α β : Type}

/-- Whether a validation was ended. -/
def Aborts (c : Check α) : Prop :=
  ∃ e, c = .abort e

@[simp] theorem not_aborts_ok (a : α) : ¬ Aborts (.ok a) := fun ⟨_, h⟩ => nomatch h

@[simp] theorem not_aborts_faults (fs : List Fault) : ¬ Aborts (.faults fs : Check α) :=
  fun ⟨_, h⟩ => nomatch h

@[simp] theorem aborts_abort (e : Error) : Aborts (.abort e : Check α) := ⟨e, rfl⟩

/-- A validation that nothing ends is not ended. -/
theorem AbortsOnly.not_aborts {c : Check α} (h : AbortsOnly (fun _ => False) c) : ¬ c.Aborts :=
  fun ⟨e, he⟩ => h e he

@[simp] theorem aborts_map {f : α → β} {c : Check α} : Aborts (f <$> c) ↔ c.Aborts := by
  show Aborts (c.map f) ↔ _
  cases c <;> simp [map]

/-- **Two validations together are ended exactly where one of them is.** -/
@[simp] theorem aborts_seq {f : Check (α → β)} {c : Check α} :
    Aborts (f <*> c) ↔ f.Aborts ∨ c.Aborts := by
  show Aborts (f.seq c) ↔ _
  cases f <;> cases c <;> simp [seq]

@[simp] theorem aborts_under {step : Step} {c : Check α} : Aborts (c.under step) ↔ c.Aborts := by
  cases c <;> simp [under]

@[simp] theorem aborts_ofExcept {x : Except Error α} :
    Aborts (ofExcept x) ↔ ∃ e, x = .error e ∧ e.refuses = false := by
  cases x with
  | ok a => simp [ofExcept]
  | error e => by_cases h : e.refuses = true <;> simp [ofExcept, fault, h]

@[simp] theorem not_aborts_int (d : Datum) : ¬ Aborts (int d) := (abortsOnly_int d).not_aborts

@[simp] theorem not_aborts_text (d : Datum) : ¬ Aborts (text d) := (abortsOnly_text d).not_aborts

@[simp] theorem aborts_optional {f : Datum → Check α} {d : Datum} :
    Aborts (optional f d) ↔ d ≠ .null ∧ (f d).Aborts := by
  unfold optional
  split
  · simp
  next hnull =>
    show Aborts (_ <$> f d) ↔ _
    rw [aborts_map]
    exact ⟨fun h => ⟨hnull, h⟩, And.right⟩

/-- A field that must be set is ended where its value ends its reader. -/
@[simp] theorem aborts_required {f : Datum → Check α} {entries : List (String × Datum)}
    {name : String} {others : List String} :
    Aborts (required entries name others f) ↔
      ∃ d, (Datum.dict entries).member? (name :: others) = some d ∧ (f d).Aborts := by
  unfold required
  split
  next found d h => simp [Datum.member?, h]
  next h => simp [Datum.member?, h, fault]

/-- A field with a default is ended where the value it has ends its reader. -/
@[simp] theorem aborts_withDefault {f : Datum → Check α} {entries : List (String × Datum)}
    {name : String} {others : List String} {default : α} :
    Aborts (withDefault entries name others default f) ↔
      ∃ d, (Datum.dict entries).member? (name :: others) = some d ∧ (f d).Aborts := by
  unfold withDefault
  split
  next found d h => simp [Datum.member?, h]
  next h => simp [Datum.member?, h]

/-- What is no object has faults at worst, so that a property which only objects have tells
where an object is ended if it does so for its entries. -/
theorem aborts_object_iff {f : List (String × Datum) → Check α} {Q : Datum → Prop}
    (hdict : ∀ d, Q d → ∃ entries, d = .dict entries)
    (h : ∀ entries, (f entries).Aborts ↔ Q (.dict entries)) {d : Datum} :
    Aborts (object f d) ↔ Q d := by
  unfold object
  split
  next entries => exact h entries
  next hd =>
    refine iff_of_false (not_aborts_faults _) fun hQ => ?_
    obtain ⟨entries, rfl⟩ := hdict d hQ
    exact hd entries rfl

end Check
end Signet
