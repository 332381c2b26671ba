import Signet.Keystore.Opening
import Signet.Proofs.Cipher.CounterMode
import Signet.Proofs.Keystore.Derivation

/-! # The steps of opening a keystore

The outcome of a computation that keeps a log is that of its steps, without the records
(`outcome_bind`), and so opening a keystore is four steps: its kind, the derived key, the
secret and the address (`outcome_unlock`).  What they meet on the way is told by relations
between a keystore, a password and what comes of them: a key is derived (`Derives`), it
verifies the code (`Verifies`), and a secret is deciphered (`Deciphers`).

A keystore opens exactly to the secret that is deciphered, if the address it names allows
it (`outcome_unlock_eq_ok_iff`), and fails exactly in one of the ways of `UnlockFails`
(`outcome_unlock_eq_error_iff`).
-/

namespace Signet

/-! ## The outcome of computations that keep a log -/

namespace Logged

variable {α β : Type}

@[simp] theorem outcome_bind (x : Logged α) (f : α → Logged β) :
    (x >>= f).outcome = x.outcome >>= fun a => (f a).outcome := by
  show (x.andThen f).outcome = _
  unfold andThen
  split
  next a h =>
    rw [h]
    rfl
  next e h =>
    rw [h]
    rfl

@[simp] theorem outcome_pure (a : α) : (pure a : Logged α).outcome = .ok a := rfl

@[simp] theorem outcome_write (level : LogLevel) (text : String) :
    (write level text).outcome = .ok () := rfl

@[simp] theorem outcome_fail (e : Error) : (fail e : Logged α).outcome = .error (.error e) := rfl

@[simp] theorem outcome_ofExcept (x : Except Failure α) : (ofExcept x).outcome = x := rfl

@[simp] theorem outcome_attempt (x : Logged α) : x.attempt.outcome = .ok x.outcome := rfl

@[simp] theorem outcome_lift (x : Except Failure α) : (liftM x : Logged α).outcome = x := rfl

@[simp] theorem outcome_liftError (x : Except Error α) :
    (liftM x : Logged α).outcome = x.mapError .error := rfl

/-- A step that succeeds and keeps no log leaves what comes after it. -/
@[simp] theorem liftError_ok_bind (a : α) (f : α → Logged β) :
    (liftM (Except.ok a : Except Error α) : Logged α) >>= f = f a := rfl

end Logged

/-! ## Deciphering -/

/-- A cipher with a key of its size fails only for the size of the first counter block. -/
theorem Cipher.transform_eq_error_iff {key data iv : Bytes} (hkey : key.length = 16) {e : Error} :
    Cipher.transform key data iv = .error e ↔
      iv.length ≠ CounterMode.blockSize ∧ e = .keystore (.ivLength iv.length) := by
  obtain ⟨k, hk, -⟩ := Aes.Key.ofBytes?_eq_some (Or.inl hkey)
  unfold transform
  split
  next hiv =>
    constructor
    · rintro ⟨⟩
      exact ⟨hiv, rfl⟩
    · rintro ⟨-, rfl⟩
      rfl
  next hiv =>
    rw [hk]
    constructor
    · rintro ⟨⟩
    · rintro ⟨h, -⟩
      exact absurd h hiv

/-- A secret key has the bytes it is read from. -/
theorem SecretKey.ofBytes_eq_ok_iff {b : Bytes} {k : SecretKey} :
    SecretKey.ofBytes b = .ok k ↔ b = k.bytes.bytes := by
  constructor
  · intro h
    unfold ofBytes at h
    split at h
    · split at h
      · cases h
        rfl
      · cases h
    · cases h
  · rintro rfl
    rw [ofBytes, dif_pos k.bytes.length_bytes, dif_pos ⟨k.pos, k.lt⟩]

namespace KeystoreCrypto

/-- The code over the ciphertext is the one that the keystore holds. -/
def Verifies (c : KeystoreCrypto) (derived : Bytes) : Prop :=
  (macOf derived c.ciphertext).bytes = c.mac

instance (c : KeystoreCrypto) (derived : Bytes) : Decidable (c.Verifies derived) :=
  inferInstanceAs (Decidable (_ = _))

variable {c : KeystoreCrypto} {derived : Bytes} {secret : SecretKey} {e : Error}

/-- The first half of a key of enough bytes has the size of a key of the cipher. -/
theorem length_take_halfLength (h : 2 * halfLength ≤ derived.length) :
    (derived.take halfLength).length = 16 := by
  rw [List.length_take, Nat.min_eq_left (by omega)]
  rfl

/-- How deciphering fails, in the order of its tests. -/
inductive DecipherFails (c : KeystoreCrypto) (derived : Bytes) : Error → Prop
  | shortKey : derived.length < 2 * halfLength →
      DecipherFails c derived (.keystore (.shortKey derived.length))
  | passphrase : 2 * halfLength ≤ derived.length → ¬ c.Verifies derived →
      DecipherFails c derived .passphrase
  | ivLength : 2 * halfLength ≤ derived.length → c.Verifies derived →
      c.iv.length ≠ CounterMode.blockSize →
      DecipherFails c derived (.keystore (.ivLength c.iv.length))
  | secretKey {plain : Bytes} {e : SecretKeyError} : 2 * halfLength ≤ derived.length →
      c.Verifies derived →
      Cipher.transform (derived.take halfLength) c.ciphertext c.iv = .ok plain →
      SecretKey.ofBytes plain = .error e → DecipherFails c derived (.secretKey e)

theorem decipher_of_short (h : derived.length < 2 * halfLength) :
    c.decipher derived = .error (.keystore (.shortKey derived.length)) := by
  rw [decipher, if_pos h]
  rfl

theorem decipher_of_wrongCode (hlength : 2 * halfLength ≤ derived.length)
    (h : ¬ c.Verifies derived) : c.decipher derived = .error .passphrase := by
  have hmac : (macOf derived c.ciphertext).bytes ≠ c.mac := h
  rw [decipher, if_neg (Nat.not_lt.mpr hlength), if_pos hmac]
  rfl

/-- Behind the tests the ciphertext is deciphered and read as a secret key. -/
theorem decipher_of_verifies (hlength : 2 * halfLength ≤ derived.length)
    (h : c.Verifies derived) :
    c.decipher derived = (do
      let plain ← Cipher.transform (derived.take halfLength) c.ciphertext c.iv
      (SecretKey.ofBytes plain).mapError .secretKey) := by
  have hmac : (macOf derived c.ciphertext).bytes = c.mac := h
  rw [decipher, if_neg (Nat.not_lt.mpr hlength), if_neg (Decidable.not_not.mpr hmac)]

/-- **Deciphering fails in the ways of `DecipherFails`.** -/
theorem decipher_eq_error_iff : c.decipher derived = .error e ↔ DecipherFails c derived e := by
  have htransform (hlength : 2 * halfLength ≤ derived.length) {e : Error} :=
    @Cipher.transform_eq_error_iff (derived.take halfLength) c.ciphertext c.iv
      (length_take_halfLength hlength) e
  constructor
  · intro h
    by_cases hlength : 2 * halfLength ≤ derived.length
    case neg =>
      rw [decipher_of_short (Nat.not_le.mp hlength)] at h
      cases h
      exact .shortKey (Nat.not_le.mp hlength)
    by_cases hverifies : c.Verifies derived
    case neg =>
      rw [decipher_of_wrongCode hlength hverifies] at h
      cases h
      exact .passphrase hlength hverifies
    rw [decipher_of_verifies hlength hverifies] at h
    obtain h | ⟨plain, hplain, h⟩ := bind_eq_error_iff.mp h
    · obtain ⟨hiv, rfl⟩ := (htransform hlength).mp h
      exact .ivLength hlength hverifies hiv
    · obtain ⟨e', hkey, rfl⟩ := mapError_eq_error_iff.mp h
      exact .secretKey hlength hverifies hplain hkey
  · intro h
    cases h with
    | shortKey hshort => exact decipher_of_short hshort
    | passphrase hlength hwrong => exact decipher_of_wrongCode hlength hwrong
    | ivLength hlength hverifies hiv =>
      rw [decipher_of_verifies hlength hverifies]
      exact bind_eq_error_iff.mpr (Or.inl ((htransform hlength).mpr ⟨hiv, rfl⟩))
    | secretKey hlength hverifies hplain hkey =>
      rw [decipher_of_verifies hlength hverifies, hplain, ok_bind, hkey]
      rfl

/-- **What is deciphered is verified first.** -/
theorem decipher_eq_ok_iff :
    c.decipher derived = .ok secret ↔ 2 * halfLength ≤ derived.length ∧ c.Verifies derived ∧
      Cipher.transform (derived.take halfLength) c.ciphertext c.iv = .ok secret.bytes.bytes := by
  constructor
  · intro h
    have hlength : 2 * halfLength ≤ derived.length := by
      refine Nat.not_lt.mp fun hshort => ?_
      rw [decipher_of_short hshort] at h
      cases h
    have hverifies : c.Verifies derived := by
      refine Decidable.not_not.mp fun hwrong => ?_
      rw [decipher_of_wrongCode hlength hwrong] at h
      cases h
    rw [decipher_of_verifies hlength hverifies] at h
    obtain ⟨plain, hplain, h⟩ := bind_eq_ok_iff.mp h
    have hsecret := SecretKey.ofBytes_eq_ok_iff.mp (mapError_eq_ok_iff.mp h)
    exact ⟨hlength, hverifies, hsecret ▸ hplain⟩
  · rintro ⟨hlength, hverifies, hplain⟩
    rw [decipher_of_verifies hlength hverifies, hplain, ok_bind,
      SecretKey.ofBytes_eq_ok_iff.mpr rfl, mapError_ok]

end KeystoreCrypto

namespace Keystore

/-! ## The steps and what they come to -/

/-- A keystore of the only version and cipher. -/
structure IsSupported (k : Keystore) : Prop where
  version : k.version = keystoreVersion
  cipher : k.crypto.cipher = KeystoreCrypto.cipherName

/-- From a password a key of enough bytes is derived, in a keystore of the only version and
cipher. -/
structure Derives (k : Keystore) (password derived : Bytes) : Prop where
  supported : k.IsSupported
  stretch : k.crypto.stretch password = .ok derived
  length_le : 2 * KeystoreCrypto.halfLength ≤ derived.length

/-- With a password a secret key is deciphered. -/
structure Deciphers (k : Keystore) (password derived : Bytes) (secret : SecretKey) : Prop
    extends k.Derives password derived where
  verifies : k.crypto.Verifies derived
  transform : Cipher.transform (derived.take KeystoreCrypto.halfLength) k.crypto.ciphertext
    k.crypto.iv = .ok secret.bytes.bytes

/-- The address that a keystore names, where it names one, is zero or the one given. -/
def AllowsAddress (k : Keystore) (address : Address) : Prop :=
  ∀ a, k.address = some a → a.isZero = true ∨ a = address

/-- How opening a keystore fails, in the order of the steps. -/
inductive UnlockFails (C : Curve) (k : Keystore) (password : Bytes) : Error → Prop
  | version : k.version ≠ keystoreVersion →
      UnlockFails C k password (.keystore (.version k.version))
  | cipher : k.version = keystoreVersion → k.crypto.cipher ≠ KeystoreCrypto.cipherName →
      UnlockFails C k password (.unsupportedCipher k.crypto.cipher)
  | stretch {e : Error} : k.IsSupported → k.crypto.StretchFails e →
      UnlockFails C k password e
  | decipher {derived : Bytes} {e : Error} : k.IsSupported →
      k.crypto.stretch password = .ok derived → k.crypto.DecipherFails derived e →
      UnlockFails C k password e
  | address {derived : Bytes} {secret : SecretKey} {a : Address} :
      k.Deciphers password derived secret → k.address = some a → a.isZero = false →
      a ≠ C.address secret → UnlockFails C k password (.addressMismatch a (C.address secret))

variable {k : Keystore} {passphrase : Datum} {password : Bytes} {secret : SecretKey}
  {address : Address}

theorem checkKind_eq_ok_iff : k.checkKind = .ok () ↔ k.IsSupported := by
  unfold checkKind
  split
  next h => exact iff_of_false (fun h' => nomatch h') fun hkind => h hkind.version
  split
  next h => exact iff_of_false (fun h' => nomatch h') fun hkind => h hkind.cipher
  next hversion hcipher =>
    exact iff_of_true rfl ⟨Decidable.not_not.mp hversion, Decidable.not_not.mp hcipher⟩

theorem checkKind_eq_error_iff {e : Error} :
    k.checkKind = .error e ↔
      (k.version ≠ keystoreVersion ∧ e = .keystore (.version k.version)) ∨
        (k.version = keystoreVersion ∧ k.crypto.cipher ≠ KeystoreCrypto.cipherName ∧
          e = .unsupportedCipher k.crypto.cipher) := by
  unfold checkKind
  constructor
  · intro h
    split at h
    next hversion =>
      cases h
      exact Or.inl ⟨hversion, rfl⟩
    next hversion =>
    split at h
    next hcipher =>
      cases h
      exact Or.inr ⟨Decidable.not_not.mp hversion, hcipher, rfl⟩
    · cases h
  · rintro (⟨hversion, rfl⟩ | ⟨hversion, hcipher, rfl⟩)
    · rw [if_pos hversion]
    · rw [if_neg (Decidable.not_not.mpr hversion), if_pos hcipher]

theorem outcome_checkAddress_eq_ok_iff :
    (k.checkAddress address).outcome = .ok () ↔ k.AllowsAddress address := by
  unfold checkAddress AllowsAddress
  split
  next hnone => simp [hnone]
  next a ha =>
    split
    next h =>
      refine iff_of_true rfl fun b hb => ?_
      cases ha.symm.trans hb
      exact h
    next h =>
      refine iff_of_false (fun h' => ?_) fun hallows => h (hallows a ha)
      cases h'

theorem outcome_checkAddress_eq_error_iff {f : Failure} :
    (k.checkAddress address).outcome = .error f ↔
      ∃ a, k.address = some a ∧ a.isZero = false ∧ a ≠ address ∧
        f = .error (.addressMismatch a address) := by
  unfold checkAddress
  split
  next hnone => simp [hnone]
  next a ha =>
    split
    next h =>
      refine iff_of_false (fun h' => nomatch h') ?_
      rintro ⟨b, hb, hzero, hne, -⟩
      cases ha.symm.trans hb
      rcases h with h | h
      · rw [hzero] at h
        cases h
      · exact hne h
    next h =>
      obtain ⟨hzero, hne⟩ := not_or.mp h
      constructor
      · rintro ⟨⟩
        exact ⟨a, ha, Bool.eq_false_iff.mpr hzero, hne, rfl⟩
      · rintro ⟨b, hb, -, -, rfl⟩
        cases ha.symm.trans hb
        rfl

variable (C : Curve)

/-- The steps of opening a keystore. -/
theorem outcome_unlock (hp : passphrase.password = .ok password) :
    (unlock C k passphrase).outcome = (do
      k.checkKind
      let derived ← k.crypto.stretch password
      let secret ← k.crypto.decipher derived
      (k.checkAddress (C.address secret)).outcome
      return secret) := by
  unfold unlock KeystoreCrypto.deriveKey
  simp only [Logged.outcome_bind, Logged.outcome_liftError, Logged.outcome_write, hp,
    Logged.outcome_pure, mapError_ok, ok_bind]
  rfl

/-- **A keystore opens to the secret that is deciphered, if its address allows it.** -/
theorem outcome_unlock_eq_ok_iff (hp : passphrase.password = .ok password) :
    (unlock C k passphrase).outcome = .ok secret ↔
      (∃ derived, k.Deciphers password derived secret) ∧ k.AllowsAddress (C.address secret) := by
  rw [outcome_unlock C hp]
  constructor
  · intro h
    obtain ⟨⟨⟩, hkind, h⟩ := bind_eq_ok_iff.mp h
    obtain ⟨derived, hstretch, h⟩ := bind_eq_ok_iff.mp h
    obtain ⟨secret', hdecipher, h⟩ := bind_eq_ok_iff.mp h
    obtain ⟨⟨⟩, haddress, h⟩ := bind_eq_ok_iff.mp h
    cases h
    obtain ⟨hlength, hverifies, htransform⟩ :=
      KeystoreCrypto.decipher_eq_ok_iff.mp (mapError_eq_ok_iff.mp hdecipher)
    have hkind := checkKind_eq_ok_iff.mp (mapError_eq_ok_iff.mp hkind)
    exact ⟨⟨derived, ⟨hkind, mapError_eq_ok_iff.mp hstretch, hlength⟩, hverifies, htransform⟩,
      outcome_checkAddress_eq_ok_iff.mp haddress⟩
  · rintro ⟨⟨derived, ⟨hkind, hstretch, hlength⟩, hverifies, htransform⟩, hallows⟩
    have hdecipher := KeystoreCrypto.decipher_eq_ok_iff.mpr ⟨hlength, hverifies, htransform⟩
    have haddress := outcome_checkAddress_eq_ok_iff.mpr hallows
    refine bind_eq_ok_iff.mpr ⟨(), mapError_eq_ok_iff.mpr (checkKind_eq_ok_iff.mpr hkind), ?_⟩
    refine bind_eq_ok_iff.mpr ⟨derived, mapError_eq_ok_iff.mpr hstretch, ?_⟩
    refine bind_eq_ok_iff.mpr ⟨secret, mapError_eq_ok_iff.mpr hdecipher, ?_⟩
    exact bind_eq_ok_iff.mpr ⟨(), haddress, rfl⟩

/-- **Opening a keystore fails in the ways of `UnlockFails`.** -/
theorem outcome_unlock_eq_error_iff (hp : passphrase.password = .ok password) {f : Failure} :
    (unlock C k passphrase).outcome = .error f ↔
      ∃ e, f = .error e ∧ UnlockFails C k password e := by
  rw [outcome_unlock C hp]
  constructor
  · intro h
    -- either a step fails, or it succeeds and a later one does
    obtain h | ⟨⟨⟩, hkind, h⟩ := bind_eq_error_iff.mp h
    · obtain ⟨e, hfail, rfl⟩ := mapError_eq_error_iff.mp h
      obtain ⟨hversion, rfl⟩ | ⟨hversion, hcipher, rfl⟩ := checkKind_eq_error_iff.mp hfail
      · exact ⟨_, rfl, .version hversion⟩
      · exact ⟨_, rfl, .cipher hversion hcipher⟩
    have hkind := checkKind_eq_ok_iff.mp (mapError_eq_ok_iff.mp hkind)
    obtain h | ⟨derived, hstretch, h⟩ := bind_eq_error_iff.mp h
    · obtain ⟨e, hfail, rfl⟩ := mapError_eq_error_iff.mp h
      exact ⟨e, rfl, .stretch hkind (KeystoreCrypto.stretch_eq_error_iff.mp hfail)⟩
    have hstretch := mapError_eq_ok_iff.mp hstretch
    obtain h | ⟨secret, hdecipher, h⟩ := bind_eq_error_iff.mp h
    · obtain ⟨e, hfail, rfl⟩ := mapError_eq_error_iff.mp h
      exact ⟨e, rfl, .decipher hkind hstretch (KeystoreCrypto.decipher_eq_error_iff.mp hfail)⟩
    obtain ⟨hlength, hverifies, htransform⟩ :=
      KeystoreCrypto.decipher_eq_ok_iff.mp (mapError_eq_ok_iff.mp hdecipher)
    obtain h | ⟨⟨⟩, -, h⟩ := bind_eq_error_iff.mp h
    · obtain ⟨a, ha, hzero, hne, rfl⟩ := outcome_checkAddress_eq_error_iff.mp h
      exact ⟨_, rfl, .address ⟨⟨hkind, hstretch, hlength⟩, hverifies, htransform⟩ ha hzero hne⟩
    · cases h
  · rintro ⟨e, rfl, h⟩
    have hstep {α : Type} {x : Except Error α} {a : α} (hx : x = .ok a) :
        x.mapError Failure.error = .ok a := mapError_eq_ok_iff.mpr hx
    have hfail {α : Type} {x : Except Error α} (hx : x = .error e) :
        x.mapError Failure.error = .error (.error e) := mapError_eq_error_iff.mpr ⟨e, hx, rfl⟩
    cases h with
    | version hversion =>
      have hkind := checkKind_eq_error_iff.mpr (Or.inl ⟨hversion, rfl⟩)
      exact bind_eq_error_iff.mpr (Or.inl (hfail hkind))
    | cipher hversion hcipher =>
      have hkind := checkKind_eq_error_iff.mpr (Or.inr ⟨hversion, hcipher, rfl⟩)
      exact bind_eq_error_iff.mpr (Or.inl (hfail hkind))
    | stretch hkind h =>
      refine bind_eq_error_iff.mpr (Or.inr ⟨(), hstep (checkKind_eq_ok_iff.mpr hkind), ?_⟩)
      have hstretch : k.crypto.stretch password = .error e :=
        KeystoreCrypto.stretch_eq_error_iff.mpr h
      exact bind_eq_error_iff.mpr (Or.inl (hfail hstretch))
    | decipher hkind hstretch h =>
      refine bind_eq_error_iff.mpr (Or.inr ⟨(), hstep (checkKind_eq_ok_iff.mpr hkind), ?_⟩)
      refine bind_eq_error_iff.mpr (Or.inr ⟨_, hstep hstretch, ?_⟩)
      have hdecipher := hfail (KeystoreCrypto.decipher_eq_error_iff.mpr h)
      exact bind_eq_error_iff.mpr (Or.inl hdecipher)
    | @address derived secret a h ha hzero hne =>
      obtain ⟨⟨hkind, hstretch, hlength⟩, hverifies, htransform⟩ := h
      have hdecipher := KeystoreCrypto.decipher_eq_ok_iff.mpr ⟨hlength, hverifies, htransform⟩
      refine bind_eq_error_iff.mpr (Or.inr ⟨(), hstep (checkKind_eq_ok_iff.mpr hkind), ?_⟩)
      refine bind_eq_error_iff.mpr (Or.inr ⟨derived, hstep hstretch, ?_⟩)
      refine bind_eq_error_iff.mpr (Or.inr ⟨secret, hstep hdecipher, ?_⟩)
      have haddress := outcome_checkAddress_eq_error_iff.mpr ⟨a, ha, hzero, hne, rfl⟩
      exact bind_eq_error_iff.mpr (Or.inl haddress)

theorem outcome_unlock_eq_cause_iff (hp : passphrase.password = .ok password) {e : Error} :
    (unlock C k passphrase).outcome = .error (.error e) ↔ UnlockFails C k password e := by
  rw [outcome_unlock_eq_error_iff C hp]
  constructor
  · rintro ⟨e', ⟨⟩, h⟩
    exact h
  · exact fun h => ⟨e, rfl, h⟩

/-- **A keystore fails to open with a cause of a declared class, or because its key derivation
divides by zero or takes too much memory.** -/
theorem UnlockFails.isDeclared_or {C : Curve} {e : Error} (h : UnlockFails C k password e) :
    e.isDeclared = true ∨ e = .divisionByZero ∧ k.IsSupported ∧ k.crypto.DividesByZero ∨
      e = .memory ∧ k.IsSupported ∧ k.crypto.ExceedsMemory := by
  cases h with
  | version | cipher | address => exact Or.inl rfl
  | decipher _ _ h => cases h <;> exact Or.inl rfl
  | stretch hsupported h =>
    obtain hdeclared | ⟨he, hdivides⟩ | ⟨he, hexceeds⟩ := h.isDeclared_or
    · exact Or.inl hdeclared
    · exact Or.inr (Or.inl ⟨he, hsupported, hdivides⟩)
    · exact Or.inr (Or.inr ⟨he, hsupported, hexceeds⟩)

theorem unlockFails_divisionByZero_iff {C : Curve} :
    UnlockFails C k password .divisionByZero ↔ k.IsSupported ∧ k.crypto.DividesByZero := by
  constructor
  · intro h
    obtain hdeclared | ⟨-, hdivides⟩ | ⟨he, -⟩ := h.isDeclared_or
    · cases hdeclared
    · exact hdivides
    · cases he
  · rintro ⟨hsupported, hdivides⟩
    exact .stretch hsupported (KeystoreCrypto.stretchFails_divisionByZero_iff.mpr hdivides)

theorem unlockFails_memory_iff {C : Curve} :
    UnlockFails C k password .memory ↔ k.IsSupported ∧ k.crypto.ExceedsMemory := by
  constructor
  · intro h
    obtain hdeclared | ⟨he, -⟩ | ⟨-, hexceeds⟩ := h.isDeclared_or
    · cases hdeclared
    · cases he
    · exact hexceeds
  · rintro ⟨hsupported, hexceeds⟩
    exact .stretch hsupported (KeystoreCrypto.stretchFails_memory_iff.mpr hexceeds)

end Keystore
end Signet
