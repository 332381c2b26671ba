import Signet.Proofs.Keystore.Opening
import Signet.Proofs.Validation.Aborts

/-! # Keystores that are not even malformed

A text that is no keystore is malformed, with one exception: where a field for a byte
string holds a value that no byte string is made of (`Datum.IsNoBytes`), a number say, the
reading is ended by that.  `Keystore.Misfit` tells the documents in which there is such a
field, and the reading of a content is ended exactly for those (`parse_misfit`).
-/

namespace Signet

/-! ## Values that no byte string is made of -/

namespace Datum

/-- A list that is no byte string for one of its items: an item that is no integer, behind
items that are bytes. -/
inductive BreaksOff : List Datum → Prop
  | here {x : Datum} {r : List Datum} : x.index? = none → BreaksOff (x :: r)
  | there {x : Datum} {r : List Datum} {n : Int} : x.index? = some n → 0 ≤ n ∧ n < 256 →
      BreaksOff r → BreaksOff (x :: r)

/-- A value that no byte string is made of: it is neither a byte string nor a text nor a list,
or it is a list that breaks off. -/
inductive IsNoBytes : Datum → Prop
  | kind {d : Datum} : d.asByteString? = none → (∀ s, d ≠ .text s) → (∀ items, d ≠ .list items) →
      IsNoBytes d
  | list {items : List Datum} : BreaksOff items → IsNoBytes (.list items)

theorem bytesOfItems_breaksOff_iff {items : List Datum} :
    (∃ e, bytesOfItems items = .error e ∧ e.refuses = false) ↔ BreaksOff items := by
  induction items with
  | nil =>
    constructor
    · rintro ⟨e, h, -⟩
      cases h
    · intro h
      cases h
  | cons x r ih =>
    rw [bytesOfItems]
    split
    next hx => exact iff_of_true ⟨_, rfl, rfl⟩ (.here hx)
    next n hx =>
    split
    next hn =>
      constructor
      · rintro ⟨e, h, he⟩
        obtain h | ⟨_, _, h⟩ := bind_eq_error_iff.mp h
        · exact .there hx hn (ih.mp ⟨e, h, he⟩)
        · cases h
      · intro h
        cases h with
        | here hnone => cases hx.symm.trans hnone
        | there _ _ hr =>
          obtain ⟨e, h, he⟩ := ih.mpr hr
          exact ⟨e, bind_eq_error_iff.mpr (Or.inl h), he⟩
    next hn =>
      -- an integer out of range is refused, whatever comes behind it
      constructor
      · rintro ⟨e, h, he⟩
        cases h
        cases he
      · intro h
        cases h with
        | here hnone => cases hx.symm.trans hnone
        | there hsome hrange =>
          cases hx.symm.trans hsome
          exact absurd hrange hn

/-- A value that no byte string is made of is not refused. -/
theorem toBytes_isNoBytes_iff {d : Datum} :
    (∃ e, d.toBytes = .error e ∧ e.refuses = false) ↔ d.IsNoBytes := by
  unfold toBytes
  split
  · exact iff_of_true ⟨_, rfl, rfl⟩ (.kind rfl nofun nofun)
  next items =>
    rw [bytesOfItems_breaksOff_iff]
    constructor
    · exact .list
    · intro h
      cases h with
      | kind _ _ hlist => exact absurd rfl (hlist items)
      | list h => exact h
  next s =>
    refine iff_of_false (fun ⟨e, h, he⟩ => ?_) fun h => ?_
    · obtain ⟨_, -, rfl⟩ := mapError_eq_error_iff.mp h
      cases he
    · cases h with
      | kind _ htext => exact absurd rfl (htext s)
  next hnull hlist htext =>
    split
    next b hb =>
      refine iff_of_false (fun ⟨_, h, _⟩ => nomatch h) fun h => ?_
      cases h with
      | kind hnone => cases hb.symm.trans hnone
      | list => cases hb
    next hnone => exact iff_of_true ⟨_, rfl, rfl⟩ (.kind hnone htext hlist)

/-- An integer is an address or is refused; any other value is one if its bytes are. -/
theorem address_isNoBytes_iff {d : Datum} :
    (∃ e, Address.ofDatum d = .error e ∧ e.refuses = false) ↔
      d.asInt? = none ∧ d.IsNoBytes := by
  rw [← toBytes_isNoBytes_iff]
  show (∃ e, FixedBytes.ofDatum 20 false d = .error e ∧ _) ↔ _
  unfold FixedBytes.ofDatum
  split
  next i hi =>
    refine iff_of_false (fun ⟨e, h, he⟩ => ?_) fun ⟨hnone, _⟩ => nomatch hi.symm.trans hnone
    obtain ⟨_, -, rfl⟩ := mapError_eq_error_iff.mp h
    cases he
  next hnone =>
    constructor
    · rintro ⟨e, h, he⟩
      obtain h | ⟨_, _, h⟩ := bind_eq_error_iff.mp h
      · exact ⟨hnone, e, h, he⟩
      · obtain ⟨_, -, rfl⟩ := mapError_eq_error_iff.mp h
        cases he
    · rintro ⟨-, e, h, he⟩
      exact ⟨e, bind_eq_error_iff.mpr (Or.inl h), he⟩

end Datum

/-! ## Fields that hold them -/

open Datum (IsNoBytes At)

/-- The paths of the byte strings in an enciphered key. -/
def KeystoreCrypto.bytePaths : List (List (List String)) :=
  [[["ciphertext"]], [["cipherparams"], ["iv"]], [["kdfparams"], ["salt"]], [["mac"]]]

/-- A document in which a field for a byte string holds a value that none is made of.  The
address may be null or an integer, too. -/
inductive Keystore.Misfit (d : Datum) : Prop
  | address {a : Datum} : d.member? ["address"] = some a → a ≠ .null → a.asInt? = none →
      a.IsNoBytes → Misfit d
  | crypto {c : Datum} {path : List (List String)} : d.member? ["crypto", "Crypto"] = some c →
      path ∈ KeystoreCrypto.bytePaths → At IsNoBytes path c → Misfit d

theorem Check.aborts_bytes {d : Datum} : Aborts (Check.bytes d) ↔ d.IsNoBytes := by
  rw [Check.bytes, aborts_ofExcept, Datum.toBytes_isNoBytes_iff]

theorem KdfParams.aborts_ofDatum {d : Datum} :
    (Check.object KdfParams.ofEntries d).Aborts ↔ At IsNoBytes [["salt"]] d := by
  refine Check.aborts_object_iff (fun d h => h.isDict (by decide)) fun entries => ?_
  simp [ofEntries, At, Check.aborts_bytes]

namespace KeystoreCrypto

theorem aborts_ivOfDatum {d : Datum} : (ivOfDatum d).Aborts ↔ At IsNoBytes [["iv"]] d := by
  refine Check.aborts_object_iff (fun d h => h.isDict (by decide)) fun entries => ?_
  simp [At, Check.aborts_bytes]

theorem aborts_ofDatum {d : Datum} :
    (ofDatum d).Aborts ↔ ∃ path ∈ bytePaths, At IsNoBytes path d := by
  have hpaths : ∀ path ∈ bytePaths, path ≠ [] := by decide
  refine @Check.aborts_object_iff _ ofEntries (fun d => ∃ path ∈ bytePaths, At IsNoBytes path d)
    (fun d ⟨path, hpath, h⟩ => h.isDict (hpaths path hpath)) (fun entries => ?_) d
  simp [ofEntries, bytePaths, At, Check.aborts_bytes, aborts_ivOfDatum,
    KdfParams.aborts_ofDatum, or_assoc]

end KeystoreCrypto

namespace Keystore

/-- **The reading of a document is ended exactly for a misfit in it.** -/
theorem aborts_ofEntries {d : Datum} : (Check.object ofEntries d).Aborts ↔ Misfit d := by
  refine Check.aborts_object_iff ?dict fun entries => ?entries
  case dict =>
    rintro d (⟨h, -⟩ | ⟨h, -⟩)
    · exact Datum.isDict_of_member? h
    · exact Datum.isDict_of_member? h
  case entries =>
    simp only [ofEntries, Check.aborts_seq, Check.aborts_map, Check.aborts_required,
      Check.aborts_withDefault, Check.aborts_optional, Check.not_aborts_int,
      Check.not_aborts_text, Check.aborts_ofExcept, Datum.address_isNoBytes_iff,
      KeystoreCrypto.aborts_ofDatum, and_false, exists_false, false_or]
    constructor
    · rintro (⟨a, ha, hnull, hint, hno⟩ | ⟨c, hc, path, hpath, hat⟩)
      · exact .address ha hnull hint hno
      · exact .crypto hc hpath hat
    · rintro (⟨ha, hnull, hint, hno⟩ | ⟨hc, hpath, hat⟩)
      · exact Or.inl ⟨_, ha, hnull, hint, hno⟩
      · exact Or.inr ⟨_, hc, _, hpath, hat⟩

/-! ## Reading a content -/

/-- The characters of a text, or of a byte string in UTF-8. -/
def characters? (content : Datum) : Option (List Char) :=
  match content with
  | .text s => some s.toList
  | d => d.asByteString?.bind fun b => (String.fromUTF8? ⟨b.toArray⟩).map String.toList

/-- The document that a text or a byte string writes. -/
def document? (content : Datum) : Option Datum :=
  (characters? content).bind fun s => (Json.parse? textDepth s).map Json.toDatum

theorem aborts_ofText {s : List Char} :
    (ofText s).Aborts ↔ ∃ d, (Json.parse? textDepth s).map Json.toDatum = some d ∧ Misfit d := by
  unfold ofText
  cases Json.parse? textDepth s with
  | none => simp [Check.fault]
  | some x => simp [aborts_ofEntries]

/-- A content without characters has a fault. -/
theorem ofContent_eq {content : Datum} :
    (∃ s, characters? content = some s ∧ ofContent content = ofText s) ∨
      characters? content = none ∧ ∃ kind, ofContent content = Check.fault kind := by
  by_cases htext : ∃ s, content = .text s
  · obtain ⟨s, rfl⟩ := htext
    exact Or.inl ⟨s.toList, rfl, rfl⟩
  · have hchars : characters? content =
        content.asByteString?.bind fun b => (String.fromUTF8? ⟨b.toArray⟩).map String.toList := by
      unfold characters?
      split
      next s => exact absurd ⟨s, rfl⟩ htext
      · rfl
    rw [hchars]
    unfold ofContent
    split
    next s => exact absurd ⟨s, rfl⟩ htext
    next b _ hb =>
      rw [hb, Option.bind_some]
      cases String.fromUTF8? ⟨b.toArray⟩ with
      | none => exact Or.inr ⟨rfl, _, rfl⟩
      | some s => exact Or.inl ⟨s.toList, rfl, rfl⟩
    next hb =>
      rw [hb]
      exact Or.inr ⟨rfl, _, rfl⟩

theorem aborts_ofContent {content : Datum} :
    (ofContent content).Aborts ↔ ∃ d, document? content = some d ∧ Misfit d := by
  unfold document?
  obtain ⟨s, hs, h⟩ | ⟨hnone, kind, h⟩ := @ofContent_eq content
  · rw [h, hs]
    exact aborts_ofText
  · rw [h, hnone]
    exact iff_of_false (Check.not_aborts_faults _) (fun ⟨_, h, _⟩ => nomatch h)

/-- **A content is a keystore or malformed, or has a misfit.**  The reading of a content of
any kind has one of three outcomes: a keystore, the faults of a malformed one, or a value
of the wrong kind as the cause of its end; and it has the last exactly if the content
writes a document with a misfit. -/
theorem parse_misfit (content : Datum) :
    ((∃ k, parse content = .ok k) ∨ (∃ fs, parse content = .error (.malformedKeystore fs)) ∨
      ∃ e, parse content = .error (.error (.kind e))) ∧
    ((∃ e, parse content = .error (.error e)) ↔
      ∃ d, document? content = some d ∧ Misfit d) := by
  have hkind := abortsOnly_ofContent content
  rw [← aborts_ofContent]
  unfold parse
  cases h : ofContent content with
  | ok k => simp
  | faults fs => simp
  | abort e =>
    have he := hkind e h
    cases e <;> cases he
    simp

/-- A document with an integer for a code is not malformed: its reading is ended. -/
theorem parse_integerCode :
    parse (.text "\x7b\"crypto\":\x7b\"mac\":1\x7d\x7d") =
      .error (.error (.kind (.bytes "int"))) := by
  have hcause : (match ofContent (.text "\x7b\"crypto\":\x7b\"mac\":1\x7d\x7d") with
      | .abort e => some e
      | _ => none) = some (.kind (.bytes "int")) := by
    decide +kernel
  rw [parse]
  split at hcause
  next e h =>
    rw [h, Option.some.inj hcause]
  · cases hcause

end Keystore
end Signet
