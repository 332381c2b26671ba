import Signet.Datum.Rlp
import Signet.Proofs.Failures

/-! # What the readers of a value fail with

A reader of a value of any kind refuses a value of the right kind or finds it of the
wrong kind (`Error.IsArgument`).  Two readers can fail otherwise: the integer part of an
infinite number overflows (`toInteger_failsOnly`), and so does the byte string of an
integer too large to count bytes, or it takes more memory than the model allows
(`rawBytes_failsOnly`).
-/

namespace Signet

/-- Whether a cause is about an argument: it refuses it, or finds it of the wrong kind. -/
def Error.IsArgument (e : Error) : Prop :=
  e.refuses = true ∨ e.isKind = true

/-- Whether a cause is about an argument, or an overflow. -/
def Error.IsArgumentOrOverflow (e : Error) : Prop :=
  e.IsArgument ∨ e = .overflow

/-- Whether a cause is about an argument, or an integer that stands for too many bytes. -/
def Error.IsArgumentOrSize (e : Error) : Prop :=
  e.IsArgument ∨ e = .overflow ∨ e = .memory

theorem failsOnly_argument_mapError {ε α : Type} {f : ε → Error} (h : ∀ e, (f e).refuses = true)
    (x : Except ε α) : FailsOnly Error.IsArgument (x.mapError f) :=
  failsOnly_mapError (R := Error.IsArgument) (fun e => Or.inl (h e)) x

namespace Datum

/-! ## Byte strings -/

theorem bytesOfItems_failsOnly (items : List Datum) :
    FailsOnly Error.IsArgument (bytesOfItems items) := by
  induction items with
  | nil => exact failsOnly_ok _
  | cons x r ih =>
    rw [bytesOfItems]
    split
    · exact failsOnly_error.mpr (Or.inr rfl)
    split
    · exact ih.bind fun _ _ => failsOnly_pure _
    · exact failsOnly_error.mpr (Or.inl rfl)

theorem toBytes_failsOnly (d : Datum) : FailsOnly Error.IsArgument d.toBytes := by
  unfold toBytes
  split
  · exact failsOnly_error.mpr (Or.inr rfl)
  · exact bytesOfItems_failsOnly _
  · exact failsOnly_argument_mapError (fun _ => rfl) _
  split
  · exact failsOnly_ok _
  · exact failsOnly_error.mpr (Or.inr rfl)

theorem zerosOf_failsOnly (n : Int) : FailsOnly Error.IsArgumentOrSize (zerosOf n) := by
  unfold zerosOf
  split
  · exact failsOnly_error.mpr (Or.inr (Or.inl rfl))
  split
  · exact failsOnly_error.mpr (Or.inl (Or.inl rfl))
  split
  · exact failsOnly_error.mpr (Or.inr (Or.inr rfl))
  · exact failsOnly_ok _

/-- The bytes of a value as it is fail only for the argument or for its size. -/
theorem rawBytes_failsOnly (d : Datum) : FailsOnly Error.IsArgumentOrSize d.rawBytes := by
  unfold rawBytes
  split
  · exact failsOnly_ok _
  · exact (bytesOfItems_failsOnly _).mono fun _ => Or.inl
  · exact (bytesOfItems_failsOnly _).mono fun _ => Or.inl
  · exact failsOnly_ok _
  split
  · exact zerosOf_failsOnly _
  · exact failsOnly_error.mpr (Or.inl (Or.inr rfl))

/-- **Only an integer stands for too many bytes.** -/
theorem rawBytes_eq_error_iff {d : Datum} {e : Error} (he : ¬ e.IsArgument) :
    d.rawBytes = .error e ↔ ∃ n, d.index? = some n ∧ zerosOf n = .error e := by
  constructor
  · intro h
    unfold rawBytes at h
    split at h
    · cases h
    · exact absurd (bytesOfItems_failsOnly _ e h) he
    · exact absurd (bytesOfItems_failsOnly _ e h) he
    · cases h
    split at h
    next n hn => exact ⟨n, hn, h⟩
    · cases h
      exact absurd (Or.inr rfl) he
  · rintro ⟨n, hn, h⟩
    cases d with
    | unsigned type m =>
      cases hn
      exact h
    | bool b | int i | number i | hexNumber i =>
      cases hn
      exact h
    | null | float _ | text _ | bytes _ | buffer _ | hexBytes _ | keystoreHex _ | address _
    | hash _ | keystoreAddress _ | blockNumber _ | list _ | tuple _ | dict _ | signature _ _ _
    | accessTuple _ | transaction _ | keystore _ => cases hn

theorem size_failsOnly (d : Datum) : FailsOnly Error.IsArgument d.size := by
  unfold size
  split
  · exact failsOnly_ok _
  · exact failsOnly_ok _
  · exact failsOnly_ok _
  · exact failsOnly_ok _
  split
  · exact failsOnly_ok _
  · exact failsOnly_error.mpr (Or.inr rfl)

theorem parts_failsOnly (d : Datum) : FailsOnly Error.IsArgument d.parts := by
  unfold parts
  split
  · exact failsOnly_ok _
  · exact failsOnly_ok _
  · exact failsOnly_ok _
  · exact failsOnly_ok _
  split
  · exact failsOnly_ok _
  · exact failsOnly_ok _
  · exact failsOnly_error.mpr (Or.inr rfl)

/-! ## Integers -/

theorem numberOfText_failsOnly (s : String) : FailsOnly Error.IsArgument (numberOfText s) := by
  unfold numberOfText
  simp only
  split
  · exact failsOnly_argument_mapError (fun _ => rfl) _
  split
  · exact failsOnly_ok _
  · exact failsOnly_error.mpr (Or.inl rfl)

theorem toNumber_failsOnly (d : Datum) : FailsOnly Error.IsArgument d.toNumber := by
  unfold toNumber
  split
  · exact failsOnly_ok _
  · exact numberOfText_failsOnly _
  · exact failsOnly_ok _
  · exact failsOnly_error.mpr (Or.inr rfl)

theorem toInteger_failsOnly (d : Datum) : FailsOnly Error.IsArgumentOrOverflow d.toInteger := by
  unfold toInteger
  split
  · exact failsOnly_ok _
  · exact failsOnly_error.mpr (Or.inl (Or.inl rfl))
  · split
    · exact failsOnly_ok _
    · exact failsOnly_error.mpr (Or.inr rfl)
  · split
    · exact failsOnly_ok _
    · exact failsOnly_error.mpr (Or.inl (Or.inl rfl))
  split
  · exact failsOnly_ok _
  · split
    · exact failsOnly_ok _
    · exact failsOnly_error.mpr (Or.inl (Or.inl rfl))
  · exact failsOnly_error.mpr (Or.inl (Or.inr rfl))

end Datum

/-! ## Byte strings of a fixed length -/

theorem FixedBytes.ofDatum_failsOnly (n : Nat) (leftPadding : Bool) (d : Datum) :
    FailsOnly Error.IsArgument (FixedBytes.ofDatum n leftPadding d) := by
  unfold FixedBytes.ofDatum
  split
  · exact failsOnly_argument_mapError (fun _ => rfl) _
  · exact d.toBytes_failsOnly.bind fun _ _ => failsOnly_argument_mapError (fun _ => rfl) _

theorem Address.ofDatum_failsOnly (d : Datum) : FailsOnly Error.IsArgument (Address.ofDatum d) :=
  FixedBytes.ofDatum_failsOnly 20 false d

theorem Hash.ofDatum_failsOnly (d : Datum) : FailsOnly Error.IsArgument (Hash.ofDatum d) :=
  FixedBytes.ofDatum_failsOnly 32 true d

/-! ## Values as text -/

theorem decimalText_failsOnly (n : Int) : FailsOnly Error.IsArgument (decimalText n) := by
  unfold decimalText
  split
  · exact failsOnly_ok _
  · exact failsOnly_error.mpr (Or.inl rfl)

/-- **The decimal text of an integer fails only for its length.** -/
theorem decimalText_eq_error_iff {n : Int} {e : Error} :
    decimalText n = .error e ↔ ¬ Numeral.isWritable n = true ∧ e = .numeral := by
  have hnone : Numeral.decimal? n = none ↔ ¬ Numeral.isWritable n = true := by
    simp [Numeral.decimal?]
  rw [← hnone]
  unfold decimalText
  cases Numeral.decimal? n <;> simp [eq_comm]

theorem optionText_failsOnly {α : Type} {f : α → Except Error String}
    (h : ∀ a, FailsOnly Error.IsArgument (f a)) (x : Option α) :
    FailsOnly Error.IsArgument (optionText f x) := by
  cases x with
  | none => exact failsOnly_ok _
  | some a => exact h a

theorem Transaction.fieldTexts_failsOnly (tx : Transaction) :
    FailsOnly Error.IsArgument tx.fieldTexts := by
  have htype : FailsOnly Error.IsArgument tx.typeText := by
    unfold typeText
    split
    · exact failsOnly_ok _
    · exact decimalText_failsOnly _
  have hnumber : ∀ n, FailsOnly Error.IsArgument (optionText decimalText n) :=
    optionText_failsOnly decimalText_failsOnly
  unfold fieldTexts
  refine htype.bind fun _ _ => ?_
  refine (optionText_failsOnly (fun _ => failsOnly_ok _) _).bind fun _ _ => ?_
  refine (optionText_failsOnly (fun _ => failsOnly_ok _) _).bind fun _ _ => ?_
  iterate 7 refine (hnumber _).bind fun _ _ => ?_
  refine (optionText_failsOnly (fun _ => failsOnly_ok _) _).bind fun _ _ => ?_
  iterate 3 refine (hnumber _).bind fun _ _ => ?_
  exact failsOnly_pure _

theorem Keystore.fieldTexts_failsOnly (k : Keystore) :
    FailsOnly Error.IsArgument k.fieldTexts := by
  have hnumber : ∀ n, FailsOnly Error.IsArgument (optionText decimalText n) :=
    optionText_failsOnly decimalText_failsOnly
  have htext : ∀ s : Option String,
      FailsOnly Error.IsArgument (optionText (fun s => .ok (Text.quoted s)) s) :=
    optionText_failsOnly fun _ => failsOnly_ok _
  unfold fieldTexts
  refine (decimalText_failsOnly _).bind fun _ _ => ?_
  refine (htext _).bind fun _ _ => ?_
  refine (decimalText_failsOnly _).bind fun _ _ => ?_
  iterate 4 refine (hnumber _).bind fun _ _ => ?_
  exact (htext _).bind fun _ _ => failsOnly_pure _

namespace Datum

mutual

/-- **The text of a value fails only for an integer that is too long.** -/
theorem shown_failsOnly : ∀ d : Datum, FailsOnly Error.IsArgument d.shown
  | .null | .bool _ | .float _ | .text _ | .bytes _ | .buffer _ | .hexBytes _ | .keystoreHex _
  | .address _ | .hash _ | .keystoreAddress _ | .blockNumber _ | .accessTuple _ => by
    rw [shown]
    exact failsOnly_ok _
  | .int i | .number i | .hexNumber i => by
    rw [shown]
    exact decimalText_failsOnly i
  | .unsigned type n => by
    rw [shown]
    exact (decimalText_failsOnly n).bind fun _ _ => failsOnly_pure _
  | .list items => by
    rw [shown]
    exact (shownAll_failsOnly items).bind fun _ _ => failsOnly_pure _
  | .tuple items => by
    rw [shown]
    refine (shownAll_failsOnly items).bind fun _ _ => ?_
    split <;> exact failsOnly_pure _
  | .dict entries => by
    rw [shown]
    exact (shownEntries_failsOnly entries).bind fun _ _ => failsOnly_pure _
  | .signature v r s => by
    rw [shown]
    exact (shown_failsOnly v).bind fun _ _ => (shown_failsOnly r).bind fun _ _ =>
      (shown_failsOnly s).bind fun _ _ => failsOnly_pure _
  | .transaction tx => by
    rw [shown]
    exact tx.fieldTexts_failsOnly.map _
  | .keystore k => by
    rw [shown]
    exact k.fieldTexts_failsOnly.map _

theorem shownAll_failsOnly : ∀ ds : List Datum, FailsOnly Error.IsArgument (shownAll ds)
  | [] => by
    rw [shownAll]
    exact failsOnly_ok _
  | x :: r => by
    rw [shownAll]
    exact (shown_failsOnly x).bind fun _ _ => (shownAll_failsOnly r).bind fun _ _ =>
      failsOnly_pure _

theorem shownEntries_failsOnly :
    ∀ ds : List (String × Datum), FailsOnly Error.IsArgument (shownEntries ds)
  | [] => by
    rw [shownEntries]
    exact failsOnly_ok _
  | (name, x) :: r => by
    rw [shownEntries]
    exact (shown_failsOnly x).bind fun _ _ => (shownEntries_failsOnly r).bind fun _ _ =>
      failsOnly_pure _

end

theorem display_failsOnly (d : Datum) : FailsOnly Error.IsArgument d.display := by
  cases d with
  | signature v r s =>
    rw [display]
    exact v.shown_failsOnly.bind fun _ _ => r.shown_failsOnly.bind fun _ _ =>
      s.shown_failsOnly.bind fun _ _ => failsOnly_pure _
  | transaction tx =>
    rw [display]
    exact tx.fieldTexts_failsOnly.map _
  | keystore k =>
    rw [display]
    exact k.fieldTexts_failsOnly.map _
  | unsigned type n =>
    rw [display]
    exact decimalText_failsOnly n
  | text _ | hexNumber _ | hexBytes _ | keystoreHex _ | address _ | hash _ | keystoreAddress _
  | blockNumber _ | accessTuple _ =>
    rw [display]
    exact failsOnly_ok _
  | null | bool _ | int _ | number _ | float _ | bytes _ | buffer _ | list _ | tuple _
  | dict _ => exact shown_failsOnly _

end Datum
end Signet
