import Signet.Datum.Equality

/-! # Inequality of fixed byte strings

A fixed byte string says of some values whether they equal it (`Datum.isJudged`): of text,
integers, byte strings that are not mutable, and of no value at all.  Of these it says that
they are unequal exactly if they are not equal.  It declines to judge the others, and there
its two answers come apart: whether they are equal is asked of the other value, but none of
them is ever unequal (`ne_of_isFixed`).  So the answers are opposite exactly for what is
judged and for a mutable byte string with the same bytes (`ne_iff_of_isFixed`).
-/

namespace Signet
namespace Datum

/-- Whether a fixed byte string says of a value whether it equals it. -/
def isJudged : Datum → Bool
  | .null | .text _ | .bool _ | .int _ | .number _ | .hexNumber _ | .bytes _ | .hexBytes _
  | .keystoreHex _ | .address _ | .hash _ | .keystoreAddress _ => true
  | _ => false

theorem isSome_askFixed {n : Nat} (own : FixedBytes n)
    (construct : Datum → Except Error (FixedBytes n)) (d : Datum) :
    (askFixed own construct d).isSome = d.isJudged := by
  cases d with
  | text _ | bool _ | int _ | number _ | hexNumber _ | bytes _ | hexBytes _ | keystoreHex _ =>
    unfold askFixed
    simp only
    split <;> rfl
  | _ => rfl

variable {a : Datum}

theorem isSome_ask (ha : a.isFixed = true) (b : Datum) : (ask a b).isSome = b.isJudged := by
  cases a with
  | address x | keystoreAddress x => exact isSome_askFixed x Address.ofDatum b
  | hash h => exact isSome_askFixed h Hash.ofDatum b
  | _ => cases ha

/-- Where a fixed byte string declines, the other value is asked about equality. -/
theorem eq_of_isFixed (ha : a.isFixed = true) (b : Datum) :
    a.eq b = ((ask a b).or (ask b a)).getD false := by
  cases a with
  | address x | keystoreAddress x | hash x => cases b <;> rfl
  | _ => cases ha

/-- A fixed byte string has an answer about inequality, whether it judges or not. -/
theorem ne_of_isFixed (ha : a.isFixed = true) (b : Datum) :
    a.ne b = ((ask a b).map (! ·)).getD false := by
  have hask : askUnequal a b = some (((ask a b).map (! ·)).getD false) := by
    unfold askUnequal
    cases ask a b with
    | some answer => rfl
    | none => exact if_pos ha
  have hne : a.ne b = ((askUnequal a b).or (askUnequal b a)).getD true := by
    cases a with
    | address x | keystoreAddress x | hash x => cases b <;> rfl
    | _ => cases ha
  rw [hne, hask]
  rfl

/-- Of the values that are not judged, a mutable byte string with the same bytes is the only
one that says it is equal. -/
theorem ask_eq_true_iff (ha : a.isFixed = true) {b : Datum} (hb : b.isJudged = false) :
    ask b a = some true ↔ ∃ c, b = .buffer c ∧ a.asBytes? = some c := by
  cases a with
  | address x | keystoreAddress x | hash x =>
    cases b with
    | buffer c =>
      have hask : some (c == x.bytes) = some true ↔ c = x.bytes := by simp
      refine hask.trans ⟨fun h => ⟨c, rfl, congrArg some h.symm⟩, ?_⟩
      rintro ⟨_, ⟨⟩, hc⟩
      exact (Option.some.inj hc).symm
    | null | text _ | bool _ | int _ | number _ | hexNumber _ | bytes _ | hexBytes _
    | keystoreHex _ | address _ | hash _ | keystoreAddress _ => cases hb
    | _ => exact ⟨nofun, nofun⟩
  | _ => cases ha

/-- **Inequality of a fixed byte string.**  Its answer is the opposite of that about equality
exactly for the values that it judges, and for a mutable byte string with the same bytes.  Of
all values that it does not judge it says that they are not unequal, though they are equal
only if they are such a byte string. -/
theorem ne_iff_of_isFixed (ha : a.isFixed = true) (b : Datum) :
    ((a.ne b = true ↔ a.eq b = false) ↔
      b.isJudged = true ∨ ∃ c, b = .buffer c ∧ a.asBytes? = some c) ∧
    (b.isJudged = false → a.ne b = false ∧
      (a.eq b = true ↔ ∃ c, b = .buffer c ∧ a.asBytes? = some c)) := by
  have hsome := isSome_ask ha b
  rw [ne_of_isFixed ha, eq_of_isFixed ha]
  cases hb : b.isJudged with
  | true =>
    rw [hb] at hsome
    obtain ⟨answer, hask⟩ := Option.isSome_iff_exists.mp hsome
    simp [hask]
  | false =>
    have htrue := ask_eq_true_iff ha hb
    rw [hb, Option.isSome_eq_false_iff, Option.isNone_iff_eq_none] at hsome
    have heq : (ask b a).getD false = true ↔ ∃ c, b = .buffer c ∧ a.asBytes? = some c := by
      rw [← htrue]
      cases ask b a <;> simp
    rw [← heq, hsome]
    simp

/-- A list is neither equal to an address nor unequal to it, but the bytes of an address in
a mutable byte string are equal to it, and not unequal. -/
theorem ne_iff_of_isFixed_zero :
    isFixed (.address .zero) = true ∧ isJudged (.list []) = false ∧
      isJudged (.buffer (Bytes.zeros 20)) = false ∧
      ¬ ((Datum.address .zero).ne (.list []) = true ↔
        (Datum.address .zero).eq (.list []) = false) ∧
      ((Datum.address .zero).ne (.buffer (Bytes.zeros 20)) = true ↔
        (Datum.address .zero).eq (.buffer (Bytes.zeros 20)) = false) :=
  ⟨rfl, rfl, rfl, fun h => by simpa [isJudged] using (ne_iff_of_isFixed rfl (.list [])).1.mp h,
    (ne_iff_of_isFixed rfl (.buffer (Bytes.zeros 20))).1.mpr (Or.inr ⟨_, rfl, by decide⟩)⟩

/-- An address says of a list that it is not equal, and that it is not unequal. -/
theorem ne_list_not_opposite :
    (Datum.address .zero).eq (.list []) = false ∧ (Datum.address .zero).ne (.list []) = false :=
  ⟨rfl, rfl⟩

end Datum
end Signet
