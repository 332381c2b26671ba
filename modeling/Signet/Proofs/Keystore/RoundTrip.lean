import Signet.Keystore.Sealing
import Signet.Proofs.Cipher.Stream
import Signet.Proofs.Keystore.Opening
import Signet.Proofs.Keystore.Written
import Signet.Proofs.Signing.Recovery

/-! # What is locked opens again

A secret key that is locked under a passphrase is opened with it, from the keystore and
from its text (`unlock_lock`).  Three things meet in that: the key derivation sees the same
parameters on both sides, since the keystore holds those it was made with
(`stretch_frame`); counter mode takes off what it added (`transform_transform`); and
parameters that the validation and scrypt accept are short enough for the text of a
keystore (`isShort_locked`).
-/

namespace Signet

/-! ## Parameters -/

namespace Check

theorem le_of_atLeast {low n : Nat} {d : Datum} (h : atLeast low d = .ok n) : low ≤ n := by
  obtain ⟨i, -, h⟩ := andThen_eq_ok_iff.mp h
  split at h
  · cases h
    omega
  · cases h

/-- A field with a default that is in range holds a value in range. -/
theorem le_of_withDefault {entries : List (String × Datum)} {name : String} {low default n : Nat}
    (hdefault : low ≤ default)
    (h : withDefault entries name [] default (atLeast low) = .ok n) : low ≤ n := by
  rcases of_withDefault h with rfl | ⟨d, hd⟩
  · exact hdefault
  · exact le_of_atLeast hd

end Check

/-- The parallel cost, the block size and the length of the key of a cost that the
validation accepts. -/
structure ScryptParams.AtLeast (s : ScryptParams) : Prop where
  p : 1 ≤ s.p
  r : 1 ≤ s.r
  dklen : 32 ≤ s.dklen

theorem ScryptParams.atLeast_of_ofDatum {d : Datum} {s : ScryptParams}
    (h : ScryptParams.ofDatum d = .ok s) : s.AtLeast := by
  unfold ofDatum Check.object at h
  split at h
  next entries =>
    obtain ⟨f, dklen, hf, hdklen, rfl⟩ := Check.seq_eq_ok_iff.mp h
    obtain ⟨g, r, hg, hr, rfl⟩ := Check.seq_eq_ok_iff.mp hf
    obtain ⟨m, p, hm, hp, rfl⟩ := Check.seq_eq_ok_iff.mp hg
    obtain ⟨n, -, rfl⟩ := Check.map_eq_ok_iff.mp hm
    exact ⟨Check.le_of_withDefault (by decide) hp, Check.le_of_withDefault (by decide) hr,
      Check.le_of_withDefault (by decide) hdklen⟩
  · cases h

/-- What scrypt accepts of parameters that are positive, and what it gives. -/
structure Scrypt.Accepts (n r p dklen : Int) (derived : Bytes) : Prop where
  n_pos : 0 < n
  n_lt : n < costCeiling
  r_lt : r < costCeiling
  p_lt : p < costCeiling
  dklen_lt : dklen < Datum.memoryCeiling
  length : derived.length = dklen.toNat

theorem Scrypt.accepts_of_stretch {password salt derived : Bytes} {n r p dklen : Int}
    (hr : 1 ≤ r) (hp : 1 ≤ p) (h : Scrypt.stretch password salt n r p dklen = .ok derived) :
    Scrypt.Accepts n r p dklen derived := by
  obtain ⟨hcost, hblock, hmemory, rfl⟩ := stretch_eq_ok_iff.mp h
  have hn := isCost_iff.mp hcost
  -- the limit on the product bounds each of its factors, as both are at least one
  have hproduct := hblock.product_le
  have hblockSize : 1 * (128 * r) ≤ p * (128 * r) :=
    Int.mul_le_mul_of_nonneg_right hp (by omega)
  have hparallel : p * (128 * 1) ≤ p * (128 * r) :=
    Int.mul_le_mul_of_nonneg_left (by omega) (by omega)
  have hceiling : (costCeiling : Int) = 0x100000000 := rfl
  exact ⟨by omega, by omega, by omega, by omega, hmemory, length_derive ..⟩

/-- A small cost is accepted with every password and salt. -/
theorem Scrypt.stretch_light (password salt : Bytes) :
    Scrypt.stretch password salt 2 1 1 32 = .ok (derive password salt 2 1 1 32) :=
  stretch_eq_ok_iff.mpr
    ⟨⟨1, by decide, rfl⟩, ⟨by decide, by decide, by decide⟩, by decide, rfl⟩

/-! ## Deciphering -/

/-- **A cipher in counter mode takes off what it added.** -/
theorem Cipher.transform_transform {key iv : Bytes} (hkey : key.length = 16)
    (hiv : iv.length = CounterMode.blockSize) (data : Bytes) :
    ∃ ciphertext, Cipher.transform key data iv = .ok ciphertext ∧
      Cipher.transform key ciphertext iv = .ok data := by
  obtain ⟨k, -, hkeeps, htransform⟩ := Cipher.transform_eq (Or.inl hkey) hiv
  exact ⟨_, htransform data, by rw [htransform, CounterMode.apply_apply hkeeps]⟩

theorem SecretKey.ofDatum_bytes (k : SecretKey) :
    SecretKey.ofDatum (.bytes k.bytes.bytes) = .ok k := by
  have hsize : (Datum.bytes k.bytes.bytes).size = .ok 32 := by
    show Except.ok k.bytes.bytes.length = _
    rw [k.bytes.length_bytes]
  have hraw : (Datum.bytes k.bytes.bytes).rawBytes = .ok k.bytes.bytes := rfl
  rw [SecretKey.ofDatum, hsize, ok_bind, if_neg (by decide), hraw, ok_bind,
    SecretKey.ofBytes_eq_ok_iff.mpr rfl, mapError_ok]

namespace Keystore

/-- The keystore that a secret key is locked in, with the key that was derived and the
ciphertext. -/
def locked (C : Curve) (secret : SecretKey) (params : ScryptParams) (seed : Seed)
    (derived ciphertext : Bytes) : Keystore where
  version := keystoreVersion
  id := some seed.id
  address := some (C.address secret)
  crypto := { frame params seed with
    ciphertext := ciphertext
    mac := (KeystoreCrypto.macOf derived ciphertext).bytes }

section

variable (C : Curve) (secret : SecretKey) {params : ScryptParams} {seed : Seed}
  {passphrase : Datum} {password derived ciphertext : Bytes}

/-- A new keystore is stretched with the parameters it was made with, whatever its
ciphertext and code are. -/
theorem stretch_frame (c : KeystoreCrypto) (hkdf : c.kdf = "scrypt")
    (hparams : c.kdfParams = (frame params seed).kdfParams) :
    c.stretch password =
      Scrypt.stretch password seed.salt params.n params.r params.p params.dklen := by
  rw [KeystoreCrypto.stretch, if_pos hkdf, hparams]
  rfl

theorem outcome_lock (hp : passphrase.password = .ok password)
    (hstretch : Scrypt.stretch password seed.salt params.n params.r params.p params.dklen =
      .ok derived)
    (htransform : Cipher.transform (derived.take KeystoreCrypto.halfLength) secret.bytes.bytes
      seed.iv = .ok ciphertext) :
    (lock C secret passphrase params seed).outcome =
      .ok (locked C secret params seed derived ciphertext) := by
  have hframe : (frame params seed).stretch password = .ok derived := by
    rw [stretch_frame _ rfl rfl, hstretch]
  unfold lock KeystoreCrypto.deriveKey
  simp only [Logged.outcome_bind, Logged.outcome_liftError, Logged.outcome_write, hp,
    Logged.outcome_pure, mapError_ok, ok_bind, hframe, htransform]
  rfl

/-- **A keystore opens with the password it was locked under**, where deciphering with the
derived key gives the secret. -/
theorem outcome_unlock_locked (hp : passphrase.password = .ok password)
    (hstretch : Scrypt.stretch password seed.salt params.n params.r params.p params.dklen =
      .ok derived) (hlength : 2 * KeystoreCrypto.halfLength ≤ derived.length)
    (htransform : Cipher.transform (derived.take KeystoreCrypto.halfLength) ciphertext seed.iv =
      .ok secret.bytes.bytes) :
    (unlock C (locked C secret params seed derived ciphertext) passphrase).outcome =
      .ok secret := by
  refine (outcome_unlock_eq_ok_iff C hp).mpr
    ⟨⟨derived, ⟨⟨rfl, rfl⟩, ?stretch, hlength⟩, rfl, htransform⟩, ?address⟩
  case stretch => exact (stretch_frame _ rfl rfl).trans hstretch
  case address =>
    rintro a ⟨⟩
    exact Or.inr rfl

/-- A content opens as the keystore that is read from it. -/
theorem outcome_unlockContent_of_parse {content : Datum} {k : Keystore}
    (h : parse content = .ok k) :
    (unlockContent C content passphrase).outcome = (unlock C k passphrase).outcome := by
  rw [unlockContent, Logged.outcome_bind, Logged.outcome_lift, h, ok_bind]

/-- The integers of a keystore that was locked are short. -/
theorem isShort_locked (h : Scrypt.Accepts params.n params.r params.p params.dklen derived) :
    (locked C secret params seed derived ciphertext).IsShort := by
  have hmemory : Datum.memoryCeiling = 0x10000000000 := rfl
  have hcost : (Scrypt.costCeiling : Int) = 0x100000000 := rfl
  have hshort {n : Nat} (hn : (n : Int) < Datum.memoryCeiling) : Json.IsShort n := by
    refine Json.isShort_of_natAbs_lt (k := 13) (by decide) ?_ (by decide)
    show n < 10000000000000
    omega
  obtain ⟨-, hn, hr, hp, hdklen, -⟩ := h
  constructor
  case version => exact hshort (n := keystoreVersion) (by decide)
  case dklen => exact hshort hdklen
  case n =>
    rintro i ⟨⟩
    exact hshort (by omega)
  case r =>
    rintro i ⟨⟩
    exact hshort (by omega)
  case p =>
    rintro i ⟨⟩
    exact hshort (by omega)
  case c => exact fun _ h => nomatch h

end

/-- **A secret key that is locked opens again**: with every passphrase of the same password,
be it the text or its bytes, from the keystore and from its text, under every cost that
the validation and scrypt accept. -/
theorem unlock_lock (C : Curve) (secret : SecretKey) (seed : Seed)
    (hiv : seed.iv.length = CounterMode.blockSize) {settings : Datum} {params : ScryptParams}
    (hparams : ScryptParams.ofDatum settings = .ok params) {p q : Datum}
    {password derived : Bytes} (hp : p.password = .ok password) (hq : q.password = .ok password)
    (hstretch : Scrypt.stretch password seed.salt params.n params.r params.p params.dklen =
      .ok derived) :
    ∃ k, (lockOf C (.bytes secret.bytes.bytes) p params seed).outcome = .ok k ∧
      (unlockOf C (.keystore k) q).outcome = .ok secret ∧
      (unlockContent C (.text k.render) q).outcome = .ok secret ∧
      (unlockContent C (.bytes (Bytes.ofText k.render)) q).outcome = .ok secret := by
  have hatLeast := ScryptParams.atLeast_of_ofDatum hparams
  have haccepts := Scrypt.accepts_of_stretch (Int.ofNat_le.mpr hatLeast.r)
    (Int.ofNat_le.mpr hatLeast.p) hstretch
  have hlength : 2 * KeystoreCrypto.halfLength ≤ derived.length := by
    rw [haccepts.length, Int.toNat_natCast]
    exact hatLeast.dklen
  obtain ⟨ciphertext, hlock, hunlock⟩ := Cipher.transform_transform
    (KeystoreCrypto.length_take_halfLength hlength) hiv secret.bytes.bytes
  have hopen := outcome_unlock_locked C secret hq hstretch hlength hunlock
  have hshort : (locked C secret params seed derived ciphertext).IsShort :=
    isShort_locked C secret haccepts
  obtain ⟨htext, hbytes⟩ := parse_render hshort
  refine ⟨locked C secret params seed derived ciphertext, ?_, hopen, ?_, ?_⟩
  · rw [lockOf, Logged.outcome_bind, Logged.outcome_liftError, SecretKey.ofDatum_bytes]
    exact outcome_lock C secret hp hstretch hlock
  · exact (outcome_unlockContent_of_parse C htext).trans hopen
  · exact (outcome_unlockContent_of_parse C hbytes).trans hopen

/-- The secret key one, locked under a text at a small cost, opens with the bytes of the
text. -/
theorem unlock_lock_one :
    let secret : SecretKey := ⟨.ofNat 32 1, by decide +kernel, by decide +kernel⟩
    ∃ k, (lockOf secp256k1 (.bytes secret.bytes.bytes) (.text "testpassword") { n := 2, r := 1 }
        ⟨Bytes.zeros 32, Bytes.zeros 16, "3198bc9c"⟩).outcome = .ok k ∧
      (unlockContent secp256k1 (.text k.render)
        (.bytes (Bytes.ofText "testpassword"))).outcome = .ok secret := by
  intro secret
  have hparams : ScryptParams.ofDatum (.dict [("n", .int 2), ("r", .int 1)]) =
      .ok { n := 2, r := 1 } := rfl
  have hstretch := Scrypt.stretch_light (Bytes.ofText "testpassword") (Bytes.zeros 32)
  obtain ⟨k, hlock, -, htext, -⟩ := unlock_lock secp256k1 secret
    ⟨Bytes.zeros 32, Bytes.zeros 16, "3198bc9c"⟩ rfl hparams (p := .text "testpassword")
    (q := .bytes (Bytes.ofText "testpassword")) rfl rfl hstretch
  exact ⟨k, hlock, htext⟩

/-- The keystore that `SecretKey.ofOnes` is locked in at a small cost, for a derived key and
a ciphertext. -/
def lightKeystore (derived ciphertext : Bytes) : Keystore :=
  locked secp256k1 .ofOnes { n := 2, r := 1 } ⟨Bytes.zeros 32, Bytes.zeros 16, "3198bc9c"⟩
    derived ciphertext

/-- One such keystore opens with a text, and is read back from its bytes. -/
theorem exists_lightKeystore :
    ∃ derived ciphertext,
      Scrypt.stretch (Bytes.ofText "testpassword") (Bytes.zeros 32) 2 1 1 32 = .ok derived ∧
      2 * KeystoreCrypto.halfLength ≤ derived.length ∧
      (unlock secp256k1 (lightKeystore derived ciphertext) (.text "testpassword")).outcome =
        .ok .ofOnes ∧
      parse (.bytes (Bytes.ofText (lightKeystore derived ciphertext).render)) =
        .ok (lightKeystore derived ciphertext) := by
  have hstretch := Scrypt.stretch_light (Bytes.ofText "testpassword") (Bytes.zeros 32)
  -- the derived key is named, since its value is not to be computed
  generalize hderived :
    Scrypt.derive (Bytes.ofText "testpassword") (Bytes.zeros 32) 2 1 1 32 = derived at hstretch
  have hlength : 2 * KeystoreCrypto.halfLength ≤ derived.length := by
    rw [← hderived, Scrypt.length_derive]
    decide
  obtain ⟨ciphertext, -, hunlock⟩ := Cipher.transform_transform
    (KeystoreCrypto.length_take_halfLength hlength) (Bytes.length_zeros 16)
    SecretKey.ofOnes.bytes.bytes
  have haccepts := Scrypt.accepts_of_stretch (by decide) (by decide) hstretch
  exact ⟨derived, ciphertext, hstretch, hlength,
    outcome_unlock_locked secp256k1 .ofOnes rfl hstretch hlength hunlock,
    (parse_render (isShort_locked secp256k1 .ofOnes haccepts)).2⟩

end Keystore
end Signet
