import Signet.Keystore.Folder
import Signet.Proofs.Datum.Failures
import Signet.Proofs.Keystore.Steps
import Signet.Proofs.Validation.Ended

/-! # Opening a keystore

Opening crashes in two ways (`Keystore.Crashes`): a field of the keystore has a value of
a kind that a byte string is not made of, which ends the reading at once; or the key
derivation divides by a block size of zero, or is asked for a key that no memory holds.
Every other failure is one that a search passes over (`unlockContent_crashes_iff`).
-/

namespace Signet

/-! ## Reading a keystore -/

/-- Only a value of a kind that no byte string is made of ends a byte field. -/
theorem Check.abortsOnly_bytes (d : Datum) :
    AbortsOnly (fun e => e.isKind = true) (Check.bytes d) :=
  abortsOnly_ofExcept d.toBytes_failsOnly

theorem KdfParams.abortsOnly_ofEntries (entries : List (String × Datum)) :
    Check.AbortsOnly (fun e => e.isKind = true) (KdfParams.ofEntries entries) := by
  have hinteger : ∀ name, Check.AbortsOnly (fun e => e.isKind = true)
      (Check.withDefault entries name [] none (Check.optional Check.int)) := fun name =>
    Check.abortsOnly_withDefault (Check.abortsOnly_optional Check.abortsOnly_int) _ _ _ _
  refine .seq (.seq (.seq (.seq (.seq (.seq (.map _ ?dklen) ?salt) ?n) ?r) ?p) ?c) ?prf
  case dklen => exact Check.abortsOnly_required Check.abortsOnly_int _ _ _
  case salt => exact Check.abortsOnly_required Check.abortsOnly_bytes _ _ _
  case n => exact hinteger "n"
  case r => exact hinteger "r"
  case p => exact hinteger "p"
  case c => exact hinteger "c"
  case prf =>
    exact Check.abortsOnly_withDefault (Check.abortsOnly_optional Check.abortsOnly_text) _ _ _ _

theorem KeystoreCrypto.abortsOnly_ofEntries (entries : List (String × Datum)) :
    Check.AbortsOnly (fun e => e.isKind = true) (KeystoreCrypto.ofEntries entries) := by
  refine .seq (.seq (.seq (.seq (.seq (.map _ ?cipher) ?ciphertext) ?iv) ?kdf) ?params) ?mac
  case cipher => exact Check.abortsOnly_required Check.abortsOnly_text _ _ _
  case ciphertext => exact Check.abortsOnly_required Check.abortsOnly_bytes _ _ _
  case iv =>
    refine Check.abortsOnly_required (fun d => ?_) _ _ _
    exact Check.abortsOnly_object
      (fun l => Check.abortsOnly_required Check.abortsOnly_bytes l _ _) d
  case kdf => exact Check.abortsOnly_required Check.abortsOnly_text _ _ _
  case params =>
    exact Check.abortsOnly_required (Check.abortsOnly_object KdfParams.abortsOnly_ofEntries) _ _ _
  case mac => exact Check.abortsOnly_required Check.abortsOnly_bytes _ _ _

namespace Keystore

theorem abortsOnly_ofEntries (entries : List (String × Datum)) :
    Check.AbortsOnly (fun e => e.isKind = true) (ofEntries entries) := by
  refine .seq (.seq (.seq (.map _ ?version) ?id) ?address) ?crypto
  case version => exact Check.abortsOnly_required Check.abortsOnly_int _ _ _
  case id =>
    exact Check.abortsOnly_withDefault (Check.abortsOnly_optional Check.abortsOnly_text) _ _ _ _
  case address =>
    refine Check.abortsOnly_withDefault (Check.abortsOnly_optional fun d => ?_) _ _ _ _
    exact Check.abortsOnly_ofExcept (Address.ofDatum_failsOnly d)
  case crypto =>
    refine Check.abortsOnly_required (fun d => ?_) _ _ _
    exact Check.abortsOnly_object KeystoreCrypto.abortsOnly_ofEntries d

theorem abortsOnly_ofText (s : List Char) :
    Check.AbortsOnly (fun e => e.isKind = true) (ofText s) := by
  unfold ofText
  split
  · exact Check.abortsOnly_object abortsOnly_ofEntries _
  · exact Check.abortsOnly_fault _

/-- **Only a value of a kind that no byte string is made of ends the reading of a
keystore**, whatever the content is. -/
theorem abortsOnly_ofContent (d : Datum) :
    Check.AbortsOnly (fun e => e.isKind = true) (ofContent d) := by
  unfold ofContent
  split
  · exact abortsOnly_ofText _
  · split
    · exact abortsOnly_ofText _
    · exact Check.abortsOnly_fault _
  · exact Check.abortsOnly_fault _

/-! ## Opening a keystore -/

/-- **How opening a keystore crashes**: its reading is ended, or the key derivation it asks
for divides by zero or takes too much memory. -/
inductive Crashes (password : Bytes) (content : Datum) : Error → Prop
  | kind (e : Error) : ofContent content = .abort e → Crashes password content e
  | derivation (k : Keystore) (e : Error) : ofContent content = .ok k → k.checkKind = .ok () →
      k.crypto.stretch password = .error e → e = .divisionByZero ∨ e = .memory →
      Crashes password content e

/-- Whether a search goes on after a cause. -/
abbrev IsSkipped (e : Error) : Prop :=
  Folder.isSkipped (.error e) = true

/-- No cause of a crash is passed over, and there are three of them. -/
theorem Crashes.cause {password : Bytes} {content : Datum} {e : Error}
    (h : Crashes password content e) :
    e.isKind = true ∨ e = .divisionByZero ∨ e = .memory := by
  cases h with
  | kind _ h => exact Or.inl (abortsOnly_ofContent content _ h)
  | derivation _ _ _ _ _ h => exact Or.inr h

theorem Crashes.isSkipped {password : Bytes} {content : Datum} {e : Error}
    (h : Crashes password content e) : Folder.isSkipped (.error e) = false := by
  rcases h.cause with h | rfl | rfl
  · cases e <;> cases h
    rfl
  · rfl
  · rfl

variable (C : Curve)

theorem isSkipped_of_isDeclared {e : Error} (h : e.isDeclared = true) : IsSkipped e := by
  show (e.refuses || e.isDeclared || e.isFile) = true
  rw [h, Bool.or_true, Bool.true_or]

/-- **A keystore is opened, passed over, or crashes**: a failure is not passed over exactly
if it is a crash. -/
theorem unlockContent_crashes_iff {content passphrase : Datum} {b : Bytes}
    (hp : passphrase.password = .ok b) {e : Failure} :
    ((unlockContent C content passphrase).outcome = .error e ∧ Folder.isSkipped e = false) ↔
      ∃ e', e = .error e' ∧ Crashes b content e' := by
  have hskip : ∀ {f : Failure}, Folder.isSkipped f = true → ¬ Folder.isSkipped f = false := by
    intro f h hf
    rw [h] at hf
    cases hf
  have houtcome : (unlockContent C content passphrase).outcome = (do
      let k ← parse content
      (unlock C k passphrase).outcome) := Logged.outcome_bind ..
  constructor
  · rintro ⟨h, he⟩
    rw [houtcome] at h
    obtain h | ⟨k, hk, h⟩ := bind_eq_error_iff.mp h
    · unfold parse at h
      split at h
      · cases h
      · cases h
        exact absurd he (hskip rfl)
      next e' habort =>
        cases h
        exact ⟨e', rfl, .kind e' habort⟩
    have hread : ofContent content = .ok k := by
      unfold parse at hk
      split at hk
      next k' hk' =>
        cases hk
        exact hk'
      · cases hk
      · cases hk
    obtain ⟨e', rfl, hfails⟩ := (outcome_unlock_eq_error_iff C hp).mp h
    have hderivation (hsupported : k.IsSupported) (hstretch : k.crypto.StretchFails e')
        (hcause : e' = .divisionByZero ∨ e' = .memory) : Crashes b content e' :=
      .derivation k e' hread (checkKind_eq_ok_iff.mpr hsupported)
        (KeystoreCrypto.stretch_eq_error_iff.mpr hstretch) hcause
    obtain hdeclared | ⟨rfl, hsupported, hdivides⟩ | ⟨rfl, hsupported, hexceeds⟩ :=
      hfails.isDeclared_or
    · exact absurd he (hskip (isSkipped_of_isDeclared hdeclared))
    · exact ⟨_, rfl, hderivation hsupported
        (KeystoreCrypto.stretchFails_divisionByZero_iff.mpr hdivides) (Or.inl rfl)⟩
    · exact ⟨_, rfl, hderivation hsupported
        (KeystoreCrypto.stretchFails_memory_iff.mpr hexceeds) (Or.inr rfl)⟩
  · rintro ⟨e', rfl, hcrash⟩
    refine ⟨?_, hcrash.isSkipped⟩
    rw [houtcome]
    cases hcrash with
    | kind _ h =>
      refine bind_eq_error_iff.mpr (Or.inl ?_)
      rw [parse, h]
    | derivation k _ hread hkind h _ =>
      refine bind_eq_error_iff.mpr (Or.inr ⟨k, by rw [parse, hread], ?_⟩)
      have hfails := KeystoreCrypto.stretch_eq_error_iff.mp h
      exact (outcome_unlock_eq_cause_iff C hp).mpr (.stretch (checkKind_eq_ok_iff.mp hkind) hfails)

end Keystore

end Signet
