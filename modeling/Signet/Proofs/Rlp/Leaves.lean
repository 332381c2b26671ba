import Signet.Proofs.Datum.Failures
import Signet.Proofs.Rlp.Value

/-! # The leaves of a value decide about its encoding

Lists and tuples make a tree of a value, and what has no encoding sits in the leaves
(`leaves`): a negative integer, or a value of a kind that has none (`IsRefused`).  They are
visited from left to right, so the first of them decides what the encoder fails with
(`FirstRefused`, `toItem_eq_error_iff`).

A refusal quotes the negative integer or names the kind.  An integer that is shown in decimal
cannot be quoted where it has too many digits (`IsOverlong`), and then the failure to write
it takes the place of the refusal; nothing else does (`encode_refuses_exactly`).
-/

namespace Signet
namespace Datum

open Rlp

mutual

/-- The leaves of a tree of lists and tuples, from left to right. -/
def leaves : Datum → List Datum
  | .list items | .tuple items => leavesAll items
  | d => [d]

/-- The leaves of several trees, one tree after the other. -/
def leavesAll : List Datum → List Datum
  | [] => []
  | x :: r => x.leaves ++ leavesAll r

end

/-- Whether a value is of a kind without encoding. -/
def isUnsupported : Datum → Bool
  | .null | .float _ | .dict _ | .blockNumber _ => true
  | .signature .. | .accessTuple _ | .transaction _ | .keystore _ => true
  | _ => false

/-- A leaf without encoding: a negative integer, or a value of a kind without encoding. -/
def IsRefused (leaf : Datum) : Prop :=
  (∃ i, leaf.asInt? = some i ∧ i < 0) ∨ leaf.isUnsupported = true

/-- A negative integer that is shown in decimal and has too many digits for that. -/
def IsOverlong (leaf : Datum) : Prop :=
  ∃ i, (leaf = .int i ∨ leaf = .number i) ∧ i < 0 ∧ ¬ Numeral.isWritable i = true

/-- A leaf without encoding, and what it is refused with. -/
inductive Refused : Datum → Error → Prop
  /-- a negative integer is quoted -/
  | negative {leaf : Datum} {i : Int} {shown : String} (h : leaf.asInt? = some i) (hi : i < 0)
      (hshown : leaf.display = .ok shown) : Refused leaf (.rlpEncoding (.negative shown))
  /-- one that cannot be quoted fails for that -/
  | overlong {leaf : Datum} (h : leaf.IsOverlong) : Refused leaf .numeral
  /-- any other kind is named -/
  | unsupported {leaf : Datum} (h : leaf.isUnsupported = true) :
      Refused leaf (.rlpEncoding (.unsupported leaf.className))

/-- What the first leaf without encoding is refused with. -/
inductive FirstRefused : List Datum → Error → Prop
  | here {leaf : Datum} {after : List Datum} {e : Error} (h : leaf.Refused e) :
      FirstRefused (leaf :: after) e
  | later {leaf : Datum} {after : List Datum} {e : Error} (h : ¬ leaf.IsRefused)
      (hafter : FirstRefused after e) : FirstRefused (leaf :: after) e

/-! ## One leaf -/

/-- A leaf is no list and no tuple. -/
def isLeaf : Datum → Bool
  | .list _ | .tuple _ => false
  | _ => true

variable {d leaf : Datum} {e : Error}

theorem leaves_of_isLeaf (h : d.isLeaf = true) : d.leaves = [d] := by
  cases d with
  | list items | tuple items => cases h
  | _ => rw [leaves] <;> exact nofun

/-- Every integer is of a kind with encodings. -/
theorem asInt?_eq_none_of_isUnsupported (h : leaf.isUnsupported = true) : leaf.asInt? = none := by
  cases leaf <;> first | rfl | cases h

theorem isRefused_of_refused (h : leaf.Refused e) : leaf.IsRefused := by
  cases h with
  | negative h hi _ => exact Or.inl ⟨_, h, hi⟩
  | overlong h =>
    obtain ⟨i, rfl | rfl, hi, -⟩ := h <;> exact Or.inl ⟨i, rfl, hi⟩
  | unsupported h => exact Or.inr h

/-- **A leaf has an encoding exactly if it is not refused.** -/
theorem isEncodable_iff_of_isLeaf (h : d.isLeaf = true) :
    d.isEncodable = true ↔ ¬ d.IsRefused := by
  cases d with
  | list items | tuple items => cases h
  | int i | number i | hexNumber i => simp [isEncodable, IsRefused, asInt?, isUnsupported]
  | bool b => cases b <;> simp [isEncodable, IsRefused, asInt?, isUnsupported]
  | _ => simp [isEncodable, IsRefused, asInt?, isUnsupported]

/-- **A negative integer cannot be quoted exactly if it is too long for decimal text.** -/
theorem display_eq_error_iff {i : Int} (h : leaf.asInt? = some i) (hi : i < 0) :
    leaf.display = .error e ↔ leaf.IsOverlong ∧ e = .numeral := by
  cases leaf with
  | int j | number j =>
    cases h
    have hdisplay : ∀ d : Datum, d = .int i ∨ d = .number i → d.display = decimalText i := by
      rintro d (rfl | rfl) <;> simp only [display, shown]
    rw [hdisplay _ (by simp), decimalText_eq_error_iff]
    simp [IsOverlong, hi]
  | hexNumber j => simp [display, IsOverlong]
  | bool b =>
    cases b <;> cases h <;> exact absurd hi (by decide)
  | _ => cases h

/-- An integer is refused for its sign: it is quoted, or fails for its length. -/
theorem itemOfInt_eq_error_iff {i : Int} (h : leaf.asInt? = some i) :
    itemOfInt leaf i = .error e ↔ leaf.Refused e := by
  rw [itemOfInt]
  by_cases hi : 0 ≤ i
  · rw [if_pos hi]
    refine ⟨nofun, fun hrefused => ?_⟩
    rcases isRefused_of_refused hrefused with ⟨j, hj, hneg⟩ | hkind
    · obtain rfl := Option.some.inj (h.symm.trans hj)
      omega
    · exact nomatch h.symm.trans (asInt?_eq_none_of_isUnsupported hkind)
  · have hneg : i < 0 := by omega
    rw [if_neg hi, bind_eq_error_iff, display_eq_error_iff h hneg]
    constructor
    · rintro (⟨hlong, rfl⟩ | ⟨shown, hshown, he⟩)
      · exact .overlong hlong
      · cases he
        exact .negative h hneg hshown
    · rintro (⟨h', hi', hshown⟩ | hlong | hkind)
      · exact Or.inr ⟨_, hshown, rfl⟩
      · exact Or.inl ⟨hlong, rfl⟩
      · exact nomatch h.symm.trans (asInt?_eq_none_of_isUnsupported hkind)

/-- **A leaf fails for what it is refused with, and no other does.** -/
theorem toItem_eq_error_iff_of_isLeaf (h : d.isLeaf = true) :
    d.toItem = .error e ↔ d.Refused e := by
  cases d with
  | list items | tuple items => cases h
  | int i | number i | hexNumber i =>
    rw [← itemOfInt_eq_error_iff rfl]
    simp only [toItem, asInt?]
  | null | float _ | dict _ | blockNumber _ | signature _ _ _ | accessTuple _ | transaction _
  | keystore _ =>
    simp only [toItem, asInt?, asByteString?, asBytes?]
    constructor
    · rintro ⟨⟩
      exact .unsupported rfl
    · rintro (⟨h, -, -⟩ | ⟨i, h | h, -⟩ | -)
      · cases h
      · cases h
      · cases h
      · rfl
  | text _ | bool _ | unsigned _ _ | bytes _ | buffer _ | hexBytes _ | keystoreHex _ | address _
  | keystoreAddress _ | hash _ =>
    refine ⟨fun he => ?_, fun hrefused => ?_⟩
    · exact absurd (((toItem_eq_ok_iff _ _).mpr ⟨by rw [isEncodable], rfl⟩).symm.trans he) nofun
    · exact absurd (isRefused_of_refused hrefused)
        ((isEncodable_iff_of_isLeaf h).mp (by rw [isEncodable]))

/-! ## All leaves -/

theorem firstRefused_append {a b : List Datum} :
    FirstRefused (a ++ b) e ↔
      FirstRefused a e ∨ (∀ x ∈ a, ¬ x.IsRefused) ∧ FirstRefused b e := by
  induction a with
  | nil =>
    refine ⟨fun h => Or.inr ⟨nofun, h⟩, ?_⟩
    rintro (h | ⟨-, h⟩)
    · cases h
    · exact h
  | cons x r ih =>
    rw [List.forall_mem_cons, List.cons_append]
    constructor
    · rintro (h | ⟨hx, h⟩)
      · exact Or.inl (.here h)
      · rcases ih.mp h with h | ⟨hr, h⟩
        · exact Or.inl (.later hx h)
        · exact Or.inr ⟨⟨hx, hr⟩, h⟩
    · rintro ((h | ⟨hx, h⟩) | ⟨⟨hx, hr⟩, h⟩)
      · exact .here h
      · exact .later hx (ih.mpr (Or.inl h))
      · exact .later hx (ih.mpr (Or.inr ⟨hr, h⟩))

theorem firstRefused_singleton : FirstRefused [leaf] e ↔ leaf.Refused e := by
  refine ⟨?_, .here⟩
  rintro (h | ⟨-, h⟩)
  · exact h
  · cases h

mutual

/-- **A value has an encoding exactly if none of its leaves is refused.** -/
theorem isEncodable_iff_leaves : ∀ d : Datum,
    d.isEncodable = true ↔ ∀ leaf ∈ d.leaves, ¬ leaf.IsRefused
  | .list items | .tuple items => by
    rw [isEncodable, leaves]
    exact areEncodable_iff_leaves items
  | .null | .bool _ | .int _ | .number _ | .hexNumber _ | .unsigned .. | .float _ | .text _
  | .bytes _ | .buffer _ | .hexBytes _ | .keystoreHex _ | .address _ | .hash _
  | .keystoreAddress _ | .blockNumber _ | .dict _ | .signature .. | .accessTuple _
  | .transaction _ | .keystore _ => by
    rw [leaves_of_isLeaf rfl, List.forall_mem_singleton]
    exact isEncodable_iff_of_isLeaf rfl

theorem areEncodable_iff_leaves : ∀ ds : List Datum,
    areEncodable ds = true ↔ ∀ leaf ∈ leavesAll ds, ¬ leaf.IsRefused
  | [] => by simp [areEncodable, leavesAll]
  | x :: r => by
    rw [areEncodable, leavesAll, Bool.and_eq_true, isEncodable_iff_leaves x,
      areEncodable_iff_leaves r, List.forall_mem_append]

end

mutual

/-- **A value fails for its first leaf without encoding.** -/
theorem toItem_eq_error_iff : ∀ d : Datum, d.toItem = .error e ↔ FirstRefused d.leaves e
  | .list items | .tuple items => by
    rw [toItem, leaves, ← toItems_eq_error_iff items, bind_eq_error_iff]
    exact or_iff_left nofun
  | .null | .bool _ | .int _ | .number _ | .hexNumber _ | .unsigned .. | .float _ | .text _
  | .bytes _ | .buffer _ | .hexBytes _ | .keystoreHex _ | .address _ | .hash _
  | .keystoreAddress _ | .blockNumber _ | .dict _ | .signature .. | .accessTuple _
  | .transaction _ | .keystore _ => by
    rw [leaves_of_isLeaf rfl, firstRefused_singleton]
    exact toItem_eq_error_iff_of_isLeaf rfl

/-- Behind a value that fails no other is looked at. -/
theorem toItems_eq_error_iff : ∀ ds : List Datum,
    toItems ds = .error e ↔ FirstRefused (leavesAll ds) e
  | [] => ⟨nofun, nofun⟩
  | x :: r => by
    rw [toItems, leavesAll, firstRefused_append, ← toItem_eq_error_iff x,
      ← toItems_eq_error_iff r, ← isEncodable_iff_leaves x, bind_eq_error_iff]
    refine or_congr_right ⟨?_, ?_⟩
    · rintro ⟨item, hx, h⟩
      refine ⟨((toItem_eq_ok_iff x item).mp hx).1, ?_⟩
      exact (bind_eq_error_iff.mp h).resolve_right nofun
    · rintro ⟨hx, h⟩
      exact ⟨_, (toItem_eq_ok_iff x _).mpr ⟨hx, rfl⟩, bind_eq_error_iff.mpr (Or.inl h)⟩

end

/-- Within the depth that is encoded nothing fails but the leaves. -/
theorem encode_eq_error_iff (hdepth : d.norm.depth ≤ encodingDepth) :
    d.encode = .error e ↔ FirstRefused d.leaves e := by
  rw [← toItem_eq_error_iff]
  cases hitem : d.toItem with
  | error e' =>
    have hencode : d.encode = .error e' := by
      rw [encode, hitem]
      rfl
    rw [hencode]
    simp only [Except.error.injEq]
  | ok x =>
    have hencodable := ((toItem_eq_ok_iff d x).mp hitem).1
    rw [encode_eq_ok_iff.mpr ⟨hencodable, hdepth, rfl⟩]
    exact ⟨nofun, nofun⟩

/-- A refusal is an encoding error, but for an integer that cannot be quoted. -/
theorem label_of_refused (h : leaf.Refused e) :
    e.label = "RLPEncodingError" ∨ e = .numeral ∧ leaf.IsOverlong := by
  cases h with
  | negative | unsupported => exact Or.inl rfl
  | overlong h => exact Or.inr ⟨rfl, h⟩

theorem exists_refused_of_firstRefused {ds : List Datum} (h : FirstRefused ds e) :
    ∃ leaf ∈ ds, leaf.Refused e := by
  induction h with
  | here h => exact ⟨_, List.mem_cons_self .., h⟩
  | later _ _ ih =>
    obtain ⟨leaf, hmem, h⟩ := ih
    exact ⟨leaf, List.mem_cons_of_mem _ hmem, h⟩

/-- **Exactly the leaves without encoding are refused.**  A value that is not nested too deep
is encoded exactly if none of its leaves, wherever it sits, is a negative integer or of a
kind without encoding; there is no bound on integers.  Otherwise the encoder fails for the
first such leaf.  That is an encoding error, which quotes the integer or names the kind,
unless the leaf is a negative integer too long for decimal text. -/
theorem encode_refuses_exactly (d : Datum) (hdepth : d.norm.depth ≤ encodingDepth) :
    ((∃ b, d.encode = .ok b) ↔ ∀ leaf ∈ d.leaves, ¬ leaf.IsRefused) ∧
    (∀ e, d.encode = .error e ↔ FirstRefused d.leaves e) ∧
    ∀ e, d.encode = .error e →
      e.label = "RLPEncodingError" ∨ e = .numeral ∧ ∃ leaf ∈ d.leaves, leaf.IsOverlong := by
  refine ⟨?_, fun e => encode_eq_error_iff hdepth, fun e he => ?_⟩
  · rw [← isEncodable_iff_leaves]
    constructor
    · rintro ⟨b, hb⟩
      exact (encode_eq_ok_iff.mp hb).1
    · intro h
      exact ⟨_, encode_eq_ok_iff.mpr ⟨h, hdepth, rfl⟩⟩
  · obtain ⟨leaf, hmem, hrefused⟩ :=
      exists_refused_of_firstRefused ((encode_eq_error_iff hdepth).mp he)
    exact (label_of_refused hrefused).imp_right fun h => ⟨h.1, leaf, hmem, h.2⟩

/-- The leaf that decides stands behind others and inside two lists, and a value of a kind
without encoding behind it is not looked at. -/
theorem encode_refuses_exactly_inner :
    (Datum.list [.bytes [1], .tuple [.bool true, .hexNumber (-1)], .null]).encode =
      .error (.rlpEncoding (.negative "-0x1")) := by
  have hplain : ∀ d : Datum, d.isLeaf = true → d.isEncodable = true → ¬ d.IsRefused :=
    fun d hd => (isEncodable_iff_of_isLeaf hd).mp
  refine ((encode_refuses_exactly _ (by decide)).2.1 _).mpr ?_
  refine .later (hplain (.bytes [1]) rfl rfl) (.later (hplain (.bool true) rfl rfl) (.here ?_))
  exact .negative (i := -1) rfl (by decide) rfl

/-- A negative integer of one digit more than decimal text may have is refused with no
encoding error. -/
theorem encode_overlong_negative :
    (Datum.int (-(Nat.pow 10 Numeral.decimalLimit : Nat))).encode = .error .numeral ∧
      Error.numeral.label ≠ "RLPEncodingError" := by
  refine ⟨(encode_eq_error_iff (by decide)).mpr ?_, by decide⟩
  have hlong : (Datum.int (-(Nat.pow 10 Numeral.decimalLimit : Nat))).IsOverlong :=
    ⟨_, Or.inl rfl, by decide +kernel, by decide +kernel⟩
  rw [leaves_of_isLeaf rfl]
  exact .here (.overlong hlong)

end Datum
end Signet
