import Signet.Validation.Field

/-! # When a validation accepts

A validation that is put together accepts exactly when its parts do, and the path
at which it looks plays no part in that.
-/

namespace Signet
namespace Check

variable {α β : Type}

theorem map_eq_ok_iff {c : Check α} {f : α → β} {b : β} :
    c.map f = .ok b ↔ ∃ a, c = .ok a ∧ f a = b := by
  cases c <;> simp [map]

theorem seq_eq_ok_iff {f : Check (α → β)} {c : Check α} {b : β} :
    f.seq c = .ok b ↔ ∃ g a, f = .ok g ∧ c = .ok a ∧ g a = b := by
  cases f <;> cases c <;> simp [seq]

theorem andThen_eq_ok_iff {c : Check α} {f : α → Check β} {b : β} :
    c.andThen f = .ok b ↔ ∃ a, c = .ok a ∧ f a = .ok b := by
  cases c <;> simp [andThen]

theorem under_eq_ok_iff {step : Step} {c : Check α} {a : α} :
    c.under step = .ok a ↔ c = .ok a := by
  cases c <;> simp [under]

theorem ofExcept_eq_ok_iff {x : Except Error α} {a : α} : ofExcept x = .ok a ↔ x = .ok a := by
  cases x with
  | ok b => simp [ofExcept]
  | error e =>
    by_cases he : e.refuses = true <;> simp [ofExcept, fault, he]

theorem toExcept_eq_ok_iff {c : Check α} {a : α} : c.toExcept = .ok a ↔ c = .ok a := by
  cases c <;> simp [toExcept]

/-- A field that may be unset is unset, or holds a value its reader accepts. -/
theorem of_optional {f : Datum → Check α} {d : Datum} {x : Option α}
    (h : optional f d = .ok x) : x = none ∨ ∃ a, f d = .ok a ∧ x = some a := by
  unfold optional at h
  split at h
  · exact Or.inl (Check.ok.inj h).symm
  · obtain ⟨a, ha, hx⟩ := map_eq_ok_iff.mp h
    exact Or.inr ⟨a, ha, hx.symm⟩

/-- A field that may be unset takes what its reader accepts. -/
theorem optional_eq_some {f : Datum → Check α} {d : Datum} {a : α} (hd : d ≠ .null)
    (h : f d = .ok a) : optional f d = .ok (some a) := by
  unfold optional
  split
  · exact absurd rfl hd
  · exact map_eq_ok_iff.mpr ⟨a, h, rfl⟩

/-- A field with a default has it, or a value its reader accepts. -/
theorem of_withDefault {entries : List (String × Datum)} {name : String} {others : List String}
    {default a : α} {f : Datum → Check α} (h : withDefault entries name others default f = .ok a) :
    a = default ∨ ∃ d, f d = .ok a := by
  unfold withDefault at h
  split at h
  next found d _ => exact Or.inr ⟨d, under_eq_ok_iff.mp h⟩
  · exact Or.inl (Check.ok.inj h).symm

end Check
end Signet
