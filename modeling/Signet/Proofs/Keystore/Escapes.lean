import Signet.Proofs.Keystore.Steps
import Signet.Proofs.Keystore.Written

/-! # Failures of opening that no class declares

Whatever the parameters of a keystore are, opening it fails with a cause of a class that
this library declares, with two exceptions (`unlock_escapes`): scrypt with a good cost and
a block size of zero divides by it, and a key derivation with parameters in range is asked
for a key that no memory holds.  Neither needs more than a text that is read as a keystore
(`unlock_zeroBlock`).
-/

namespace Signet
namespace Keystore

/-- **Only a division by a block size of zero and the memory escape.**  With every passphrase
that has a password, the failures to open a keystore belong to declared classes but for two
causes, and the parameters of the key derivation tell exactly when those are met.  Every byte
string has a password, and so has every text that has a form in UTF-8; a text with a lone
surrogate has none, and nothing is said of it here. -/
theorem unlock_escapes (C : Curve) (k : Keystore) {passphrase : Datum} {password : Bytes}
    (hp : passphrase.password = .ok password) :
    (∀ f, (unlock C k passphrase).outcome = .error f →
      f.isDeclared = true ∨ f = .error .divisionByZero ∨ f = .error .memory) ∧
    ((unlock C k passphrase).outcome = .error (.error .divisionByZero) ↔
      k.IsSupported ∧ k.crypto.DividesByZero) ∧
    ((unlock C k passphrase).outcome = .error (.error .memory) ↔
      k.IsSupported ∧ k.crypto.ExceedsMemory) := by
  refine ⟨fun f h => ?_, ?_, ?_⟩
  · obtain ⟨e, rfl, hfails⟩ := (outcome_unlock_eq_error_iff C hp).mp h
    obtain hdeclared | ⟨rfl, -⟩ | ⟨rfl, -⟩ := hfails.isDeclared_or
    · exact Or.inl hdeclared
    · exact Or.inr (Or.inl rfl)
    · exact Or.inr (Or.inr rfl)
  · rw [outcome_unlock_eq_cause_iff C hp, unlockFails_divisionByZero_iff]
  · rw [outcome_unlock_eq_cause_iff C hp, unlockFails_memory_iff]

/-- A keystore with nothing but a key derivation by scrypt, for a block size and a length. -/
def scryptKeystore (r dklen : Int) : Keystore where
  version := keystoreVersion
  crypto := {
    cipher := KeystoreCrypto.cipherName
    ciphertext := Bytes.zeros 32
    iv := Bytes.zeros 16
    kdf := "scrypt"
    kdfParams := { dklen := dklen, salt := Bytes.zeros 32, n := some 4, r := some r, p := some 1 }
    mac := Bytes.zeros 32 }

/-- A length that no memory holds is met behind a block size that scrypt takes. -/
theorem unlock_escapes_memory :
    (unlock secp256k1 (scryptKeystore 8 Datum.memoryCeiling) (.text "testpassword")).outcome =
      .error (.error .memory) := by
  have hp : Datum.password (.text "testpassword") = .ok (Bytes.ofText "testpassword") := rfl
  obtain ⟨-, -, hmemory⟩ :=
    unlock_escapes secp256k1 (scryptKeystore 8 Datum.memoryCeiling) hp
  have hcost : Scrypt.IsCost 4 := ⟨2, by decide, rfl⟩
  have hblock : Scrypt.IsBlock 8 1 := ⟨by decide, by decide, by decide⟩
  exact hmemory.mpr ⟨⟨rfl, rfl⟩, .scrypt rfl rfl rfl rfl hcost hblock (Int.le_refl _)⟩

/-- A keystore with a block size of zero is read from its text, and opening it divides by
zero. -/
theorem unlock_zeroBlock :
    parse (.text (scryptKeystore 0 32).render) = .ok (scryptKeystore 0 32) ∧
      (unlock secp256k1 (scryptKeystore 0 32) (.text "testpassword")).outcome =
        .error (.error .divisionByZero) := by
  have hsmall {n : Nat} (hn : n < 100) : Json.IsShort n :=
    Json.isShort_of_natAbs_lt (k := 2) (by decide) hn (by decide)
  have hshort : (scryptKeystore 0 32).IsShort := by
    refine ⟨hsmall (n := 3) (by decide), hsmall (n := 32) (by decide), ?_, ?_, ?_, nofun⟩
    · rintro i ⟨⟩
      exact hsmall (n := 4) (by decide)
    · rintro i ⟨⟩
      exact hsmall (n := 0) (by decide)
    · rintro i ⟨⟩
      exact hsmall (n := 1) (by decide)
  have hp : Datum.password (.text "testpassword") = .ok (Bytes.ofText "testpassword") := rfl
  have hdivides : (scryptKeystore 0 32).crypto.DividesByZero :=
    .scrypt rfl rfl rfl rfl ⟨2, by decide, rfl⟩
  refine ⟨(parse_render hshort).1, (outcome_unlock_eq_cause_iff secp256k1 hp).mpr ?_⟩
  exact unlockFails_divisionByZero_iff.mpr ⟨⟨rfl, rfl⟩, hdivides⟩

end Keystore
end Signet
