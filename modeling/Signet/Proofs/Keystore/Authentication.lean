import Signet.Proofs.Keystore.RoundTrip
import Signet.Proofs.Signing.Recovery

/-! # The code comes before everything else

Once a key of enough bytes is derived, the code over its second half and the ciphertext
is looked at before anything else (`unlock_authenticated`).  Where it is not the one that
the keystore holds, opening ends there, with one record and one cause, and keystores that
differ in nothing but what deciphering reads later (`SameSealed`) cannot be told apart.
So whatever tells more of a keystore (`IsBehindCode`) is seen only behind the right code.
-/

namespace Signet

namespace KeystoreCrypto

/-- A wrong code is all that deciphering sees of a ciphertext: neither the first half of the
derived key nor the first counter block matters. -/
theorem decipher_of_not_verifies {c c' : KeystoreCrypto} {derived derived' : Bytes}
    (hciphertext : c'.ciphertext = c.ciphertext) (hmac : c'.mac = c.mac)
    (hslice : derived'.slice halfLength (2 * halfLength) =
      derived.slice halfLength (2 * halfLength))
    (hlength : 2 * halfLength ≤ derived'.length) (h : ¬ c.Verifies derived) :
    c'.decipher derived' = .error .passphrase := by
  refine decipher_of_wrongCode hlength fun h' => h ?_
  rw [Verifies, macOf] at h' ⊢
  rw [← hslice, ← hciphertext, ← hmac]
  exact h'

/-- The key that a password is stretched to depends on the key derivation alone. -/
theorem stretch_congr {c c' : KeystoreCrypto} (hkdf : c'.kdf = c.kdf)
    (hparams : c'.kdfParams = c.kdfParams) (password : Bytes) :
    c'.stretch password = c.stretch password := by
  rw [stretch, stretch, hkdf, hparams]

end KeystoreCrypto

namespace Keystore

/-- Keystores that differ only in the first counter block, the address and the id. -/
structure SameSealed (k k' : Keystore) : Prop where
  version : k'.version = k.version
  cipher : k'.crypto.cipher = k.crypto.cipher
  ciphertext : k'.crypto.ciphertext = k.crypto.ciphertext
  kdf : k'.crypto.kdf = k.crypto.kdf
  kdfParams : k'.crypto.kdfParams = k.crypto.kdfParams
  mac : k'.crypto.mac = k.crypto.mac

/-- The outcomes that tell more of a keystore than that its code is wrong: a key, or one of
the causes that come of what was deciphered, or of how it is deciphered. -/
inductive IsBehindCode : Except Failure SecretKey → Prop
  | key (secret : SecretKey) : IsBehindCode (.ok secret)
  | secretKey (e : SecretKeyError) : IsBehindCode (.error (.error (.secretKey e)))
  | addressMismatch (a b : Address) : IsBehindCode (.error (.error (.addressMismatch a b)))
  | ivLength (n : Nat) : IsBehindCode (.error (.error (.keystore (.ivLength n))))

variable {C : Curve} {k k' : Keystore} {passphrase : Datum} {password derived : Bytes}
  {secret : SecretKey}

theorem SameSealed.derives (h : k.SameSealed k') (hderives : k.Derives password derived) :
    k'.Derives password derived where
  supported := ⟨h.version.trans hderives.supported.version,
    h.cipher.trans hderives.supported.cipher⟩
  stretch := (KeystoreCrypto.stretch_congr h.kdf h.kdfParams password).trans hderives.stretch
  length_le := hderives.length_le

/-- The record that every key derivation leaves. -/
def derivationRecord (k : Keystore) : LogRecord :=
  ⟨.debug, "deriving keystore key with " ++ k.crypto.kdf⟩

/-- Once a key is derived, what is left is to decipher with it. -/
theorem unlock_of_derives (hp : passphrase.password = .ok password)
    (h : k.Derives password derived) :
    unlock C k passphrase = (do
      Logged.write .debug ("deriving keystore key with " ++ k.crypto.kdf)
      let secret ← k.crypto.decipher derived
      k.checkAddress (C.address secret)
      return secret) := by
  rw [unlock, checkKind_eq_ok_iff.mpr h.supported, hp, Logged.liftError_ok_bind,
    Logged.liftError_ok_bind, KeystoreCrypto.deriveKey, h.stretch]
  rfl

/-- **With a wrong code nothing else is seen**: neither the first counter block nor the
address nor the id. -/
theorem unlock_of_not_verifies (hp : passphrase.password = .ok password)
    (h : k.Derives password derived) (hmac : ¬ k.crypto.Verifies derived)
    (hsame : k.SameSealed k') :
    unlock C k' passphrase = ⟨[k.derivationRecord], .error (.error .passphrase)⟩ := by
  rw [unlock_of_derives hp (hsame.derives h), KeystoreCrypto.decipher_of_not_verifies
    hsame.ciphertext hsame.mac rfl h.length_le hmac, hsame.kdf]
  rfl

/-- **What tells more of a keystore is behind the right code.** -/
theorem verifies_of_isBehindCode (hp : passphrase.password = .ok password)
    (h : IsBehindCode (unlock C k passphrase).outcome) :
    ∃ derived, k.Derives password derived ∧ k.crypto.Verifies derived := by
  cases houtcome : (unlock C k passphrase).outcome with
  | ok secret =>
    obtain ⟨⟨derived, hdeciphers⟩, -⟩ := (outcome_unlock_eq_ok_iff C hp).mp houtcome
    exact ⟨derived, hdeciphers.toDerives, hdeciphers.verifies⟩
  | error f =>
    obtain ⟨e, rfl, hfails⟩ := (outcome_unlock_eq_error_iff C hp).mp houtcome
    rw [houtcome] at h
    cases hfails with
    | version | cipher => cases h
    | stretch _ hfails =>
      -- no cause that a key derivation fails with is behind the code
      cases hfails with
      | scryptParams | prf | iterationCount | kdf => cases h
      | scrypt _ _ _ _ hfails | pbkdf2 _ _ _ hfails => cases hfails <;> cases h
    | decipher hsupported hstretch hfails =>
      cases hfails with
      | shortKey | passphrase => cases h
      | ivLength hlength hverifies | secretKey hlength hverifies =>
        exact ⟨_, ⟨hsupported, hstretch, hlength⟩, hverifies⟩
    | address hdeciphers => exact ⟨_, hdeciphers.toDerives, hdeciphers.verifies⟩

/-- **The code comes before everything else.**  Where a key of enough bytes is derived and the
code is wrong, opening ends with a wrong passphrase, for every keystore that differs in
nothing but the first counter block, the address and the id, and for every other derived
key with the same second half; so all of these keystores are opened alike.  A key, a
refused secret, a wrong address or a wrong size of the first counter block is seen only
where the code is right.  A key that is returned is the deciphered text, a scalar of the
group, and the address of the keystore is missing, zero, or its own. -/
theorem unlock_authenticated (C : Curve) (k : Keystore) {passphrase : Datum} {password : Bytes}
    (hp : passphrase.password = .ok password) :
    (∀ derived, k.Derives password derived → ¬ k.crypto.Verifies derived →
      ∀ k', k.SameSealed k' →
        unlock C k' passphrase = ⟨[k.derivationRecord], .error (.error .passphrase)⟩ ∧
        unlock C k' passphrase = unlock C k passphrase ∧
        ∀ derived' : Bytes, 2 * KeystoreCrypto.halfLength ≤ derived'.length →
          derived'.slice KeystoreCrypto.halfLength (2 * KeystoreCrypto.halfLength) =
            derived.slice KeystoreCrypto.halfLength (2 * KeystoreCrypto.halfLength) →
          k'.crypto.decipher derived' = .error .passphrase) ∧
    (IsBehindCode (unlock C k passphrase).outcome →
      ∃ derived, k.Derives password derived ∧ k.crypto.Verifies derived) ∧
    ∀ secret, (unlock C k passphrase).outcome = .ok secret →
      (∃ derived, k.Deciphers password derived secret) ∧
      secret.bytes.bytes.length = 32 ∧ 1 ≤ secret.toNat ∧ secret.toNat < Secp256k1.groupOrder ∧
      (k.address = none ∨
        ∃ a, k.address = some a ∧ (a.isZero = true ∨ a = C.address secret)) := by
  refine ⟨fun derived hderives hmac k' hsame => ⟨?_, ?_, ?_⟩,
    verifies_of_isBehindCode hp, fun secret h => ?_⟩
  · exact unlock_of_not_verifies hp hderives hmac hsame
  · have hself : k.SameSealed k := ⟨rfl, rfl, rfl, rfl, rfl, rfl⟩
    rw [unlock_of_not_verifies hp hderives hmac hsame,
      unlock_of_not_verifies hp hderives hmac hself]
  · intro derived' hlength hslice
    exact KeystoreCrypto.decipher_of_not_verifies hsame.ciphertext hsame.mac hslice hlength hmac
  · obtain ⟨hdeciphers, hallows⟩ := (outcome_unlock_eq_ok_iff C hp).mp h
    refine ⟨hdeciphers, secret.bytes.length_bytes, secret.pos, secret.lt, ?_⟩
    cases haddress : k.address with
    | none => exact Or.inl rfl
    | some a => exact Or.inr ⟨a, rfl, hallows a haddress⟩

/-- A secret key that is locked under a text at a small cost is returned only behind the
right code; without a code nothing else of its keystore is seen, whatever the first counter
block is. -/
theorem unlock_authenticated_ones :
    let passphrase : Datum := .text "testpassword"
    ∃ k : Keystore, (unlock secp256k1 k passphrase).outcome = .ok .ofOnes ∧
      (∃ derived, k.Deciphers (Bytes.ofText "testpassword") derived .ofOnes) ∧
      k.address = some (secp256k1.address .ofOnes) ∧
      ∀ iv, unlock secp256k1 { k with crypto := { k.crypto with mac := [], iv := iv } }
        passphrase = ⟨[k.derivationRecord], .error (.error .passphrase)⟩ := by
  intro passphrase
  have hp : passphrase.password = .ok (Bytes.ofText "testpassword") := rfl
  obtain ⟨derived, ciphertext, hstretch, hlength, hopen, -⟩ := exists_lightKeystore
  let k := lightKeystore derived ciphertext
  obtain ⟨-, -, hreturned⟩ := unlock_authenticated secp256k1 k hp
  refine ⟨k, hopen, (hreturned .ofOnes hopen).1, rfl, fun iv => ?_⟩
  let bare : Keystore := { k with crypto := { k.crypto with mac := [] } }
  have hderives : bare.Derives (Bytes.ofText "testpassword") derived :=
    ⟨⟨rfl, rfl⟩, (stretch_frame bare.crypto rfl rfl).trans hstretch, hlength⟩
  have hmac : ¬ bare.crypto.Verifies derived := by
    intro h
    have hsize := congrArg List.length h
    rw [FixedBytes.length_bytes] at hsize
    cases hsize
  obtain ⟨hrefused, -, -⟩ := unlock_authenticated secp256k1 bare hp
  exact (hrefused derived hderives hmac _ ⟨rfl, rfl, rfl, rfl, rfl, rfl⟩).1

end Keystore
end Signet
