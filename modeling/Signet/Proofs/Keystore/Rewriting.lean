import Signet.Keystore.Opening
import Signet.Proofs.Json.ShortIntegers
import Signet.Proofs.Keystore.Written

/-! # A keystore that is rewritten

Whatever a keystore is read from, its integers are short (`isShort_of_parse`), because the
reader of the text gives no others and no field makes a longer one of them.  So what is
read can be written and read again: the first text that is written is the last
(`parse_render_of_parse`), and a file that is rewritten any number of times opens as before.
-/

namespace Signet

open Json (ShortIntegers)

/-! ## Fields of an object that was read -/

namespace Json

/-- What is looked up in an object is one of its members. -/
theorem exists_mem_of_lookup? {members : List (String × Json)} {name : String} {d : Datum}
    (h : Datum.lookup? name (membersToEntries members) = some d) :
    ∃ m ∈ members, d = m.2.toDatum := by
  induction members generalizing d with
  | nil => cases h
  | cons m r ih =>
    rw [membersToEntries, lookup?_putEntry] at h
    split at h
    · cases hrest : Datum.lookup? name (membersToEntries r) with
      | none =>
        rw [hrest] at h
        exact ⟨m, List.mem_cons_self, (Option.some.inj h).symm⟩
      | some d' =>
        -- a later member of the name takes the place of this one
        rw [hrest] at h
        obtain ⟨m', hm', rfl⟩ := ih hrest
        exact ⟨m', List.mem_cons_of_mem _ hm', (Option.some.inj h).symm⟩
    · obtain ⟨m', hm', hd⟩ := ih h
      exact ⟨m', List.mem_cons_of_mem _ hm', hd⟩

end Json

namespace Check

variable {α : Type} {members : List (String × Json)} {names : List String} {name : String}
  {others : List String} {f : Datum → Check α} {a default : α}

theorem exists_of_firstEntry? (hmembers : ∀ m ∈ members, ShortIntegers m.2) {e : String × Datum}
    (h : firstEntry? (Json.membersToEntries members) names = some e) :
    ∃ x, ShortIntegers x ∧ e.2 = x.toDatum := by
  obtain ⟨name, -, hname⟩ := List.exists_of_findSome?_eq_some h
  obtain ⟨d, hd, rfl⟩ := Option.map_eq_some_iff.mp hname
  obtain ⟨m, hm, hmd⟩ := Json.exists_mem_of_lookup? hd
  exact ⟨m.2, hmembers m hm, hmd⟩

/-- A field that must be set is read from a value with short integers. -/
theorem exists_of_required (hmembers : ∀ m ∈ members, ShortIntegers m.2)
    (h : required (Json.membersToEntries members) name others f = .ok a) :
    ∃ x, ShortIntegers x ∧ f x.toDatum = .ok a := by
  unfold required at h
  split at h
  next found d hfound =>
    obtain ⟨x, hx, rfl⟩ := exists_of_firstEntry? hmembers hfound
    exact ⟨x, hx, under_eq_ok_iff.mp h⟩
  · cases h

/-- A field that may be unset is, or is read from a value with short integers. -/
theorem exists_of_optional (hmembers : ∀ m ∈ members, ShortIntegers m.2) {i : Option α}
    (h : withDefault (Json.membersToEntries members) name others none (optional f) = .ok i) :
    ∀ a ∈ i, ∃ x, ShortIntegers x ∧ f x.toDatum = .ok a := by
  rintro a rfl
  unfold withDefault at h
  split at h
  next found d hfound =>
    obtain ⟨x, hx, rfl⟩ := exists_of_firstEntry? hmembers hfound
    rcases of_optional (under_eq_ok_iff.mp h) with hnone | ⟨b, hb, heq⟩
    · cases hnone
    · cases heq
      exact ⟨x, hx, hb⟩
  · cases h

/-- Only an object has fields. -/
theorem exists_of_object {x : Json} (hx : ShortIntegers x) {f : List (String × Datum) → Check α}
    (h : object f x.toDatum = .ok a) :
    ∃ members, (∀ m ∈ members, ShortIntegers m.2) ∧ f (Json.membersToEntries members) = .ok a := by
  cases hx with
  | object hmembers => exact ⟨_, hmembers, h⟩
  | null | bool | int | float | text | array => cases h

theorem isShort_of_required (hmembers : ∀ m ∈ members, ShortIntegers m.2) {i : Int}
    (h : required (Json.membersToEntries members) name others int = .ok i) : Json.IsShort i := by
  obtain ⟨x, hx, hi⟩ := exists_of_required hmembers h
  exact isShort_of_int hx hi

theorem isShort_of_optional (hmembers : ∀ m ∈ members, ShortIntegers m.2) {i : Option Int}
    (h : withDefault (Json.membersToEntries members) name others none (optional int) = .ok i) :
    ∀ j ∈ i, Json.IsShort j := by
  intro j hj
  obtain ⟨x, hx, hi⟩ := exists_of_optional hmembers h j hj
  exact isShort_of_int hx hi

end Check

/-! ## Reading keystores -/

/-- The integers of key derivation parameters are short. -/
structure KdfParams.IsShort (params : KdfParams) : Prop where
  dklen : Json.IsShort params.dklen
  n : ∀ i ∈ params.n, Json.IsShort i
  r : ∀ i ∈ params.r, Json.IsShort i
  p : ∀ i ∈ params.p, Json.IsShort i
  c : ∀ i ∈ params.c, Json.IsShort i

variable {x : Json}

theorem KdfParams.isShort_of_ofEntries (hx : ShortIntegers x) {params : KdfParams}
    (h : Check.object KdfParams.ofEntries x.toDatum = .ok params) : params.IsShort := by
  obtain ⟨members, hmembers, h⟩ := Check.exists_of_object hx h
  -- the fields come off from the last one, the way the validation was put together
  obtain ⟨ofPrf, prf, hofPrf, -, rfl⟩ := Check.seq_eq_ok_iff.mp h
  obtain ⟨ofC, c, hofC, hc, rfl⟩ := Check.seq_eq_ok_iff.mp hofPrf
  obtain ⟨ofP, p, hofP, hp, rfl⟩ := Check.seq_eq_ok_iff.mp hofC
  obtain ⟨ofR, r, hofR, hr, rfl⟩ := Check.seq_eq_ok_iff.mp hofP
  obtain ⟨ofN, n, hofN, hn, rfl⟩ := Check.seq_eq_ok_iff.mp hofR
  obtain ⟨ofSalt, salt, hofSalt, -, rfl⟩ := Check.seq_eq_ok_iff.mp hofN
  obtain ⟨dklen, hdklen, rfl⟩ := Check.map_eq_ok_iff.mp hofSalt
  exact {
    dklen := Check.isShort_of_required hmembers hdklen
    n := Check.isShort_of_optional hmembers hn
    r := Check.isShort_of_optional hmembers hr
    p := Check.isShort_of_optional hmembers hp
    c := Check.isShort_of_optional hmembers hc }

theorem KeystoreCrypto.isShort_of_ofDatum (hx : ShortIntegers x) {c : KeystoreCrypto}
    (h : KeystoreCrypto.ofDatum x.toDatum = .ok c) : c.kdfParams.IsShort := by
  obtain ⟨members, hmembers, h⟩ := Check.exists_of_object hx h
  obtain ⟨ofMac, mac, hofMac, -, rfl⟩ := Check.seq_eq_ok_iff.mp h
  obtain ⟨ofParams, params, hofParams, hparams, rfl⟩ := Check.seq_eq_ok_iff.mp hofMac
  -- the other fields hold no integers
  obtain ⟨ofKdf, kdf, hofKdf, -, rfl⟩ := Check.seq_eq_ok_iff.mp hofParams
  obtain ⟨ofIv, iv, hofIv, -, rfl⟩ := Check.seq_eq_ok_iff.mp hofKdf
  obtain ⟨ofCiphertext, ciphertext, hofCiphertext, -, rfl⟩ := Check.seq_eq_ok_iff.mp hofIv
  obtain ⟨cipher, -, rfl⟩ := Check.map_eq_ok_iff.mp hofCiphertext
  obtain ⟨y, hy, hread⟩ := Check.exists_of_required hmembers hparams
  exact KdfParams.isShort_of_ofEntries hy hread

namespace Keystore

variable {content : Datum} {k : Keystore}

theorem isShort_of_ofEntries (hx : ShortIntegers x)
    (h : Check.object ofEntries x.toDatum = .ok k) : k.IsShort := by
  obtain ⟨members, hmembers, h⟩ := Check.exists_of_object hx h
  obtain ⟨ofCrypto, crypto, hofCrypto, hcrypto, rfl⟩ := Check.seq_eq_ok_iff.mp h
  obtain ⟨ofAddress, address, hofAddress, -, rfl⟩ := Check.seq_eq_ok_iff.mp hofCrypto
  obtain ⟨ofId, id, hofId, -, rfl⟩ := Check.seq_eq_ok_iff.mp hofAddress
  obtain ⟨version, hversion, rfl⟩ := Check.map_eq_ok_iff.mp hofId
  obtain ⟨y, hy, hread⟩ := Check.exists_of_required hmembers hcrypto
  have hparams := KeystoreCrypto.isShort_of_ofDatum hy hread
  exact {
    version := Check.isShort_of_required hmembers hversion
    dklen := hparams.dklen
    n := hparams.n
    r := hparams.r
    p := hparams.p
    c := hparams.c }

theorem isShort_of_ofText {s : List Char} (h : ofText s = .ok k) : k.IsShort := by
  unfold ofText at h
  split at h
  next x hread => exact isShort_of_ofEntries (Json.shortIntegers_parse? hread) h
  · cases h

/-- **The integers of a keystore that was read are short.** -/
theorem isShort_of_parse (h : parse content = .ok k) : k.IsShort := by
  have hcontent : ofContent content = .ok k := by
    unfold parse at h
    split at h
    next hk => cases h; exact hk
    · cases h
    · cases h
  unfold ofContent at hcontent
  split at hcontent
  · exact isShort_of_ofText hcontent
  · split at hcontent
    · exact isShort_of_ofText hcontent
    · cases hcontent
  · cases hcontent

/-! ## Writing them again -/

/-- The text of the keystore that a content writes. -/
def rewrite (content : Datum) : Except Failure Datum := do
  return .text (← parse content).render

/-- A content that is rewritten a number of times. -/
def rewriteTimes : Nat → Datum → Except Failure Datum
  | 0, content => .ok content
  | n + 1, content => do rewriteTimes n (← rewrite content)

theorem rewrite_of_parse (h : parse content = .ok k) : rewrite content = .ok (.text k.render) := by
  rw [rewrite, h]
  rfl

/-- A text that is its own rewriting stays as it is. -/
theorem rewriteTimes_of_fixed (h : rewrite content = .ok content) (n : Nat) :
    rewriteTimes n content = .ok content := by
  induction n with
  | zero => rfl
  | succ n ih => rw [rewriteTimes, h, ok_bind, ih]

/-- Contents that write the same keystore open alike. -/
theorem unlockContent_congr {content' : Datum} (h : parse content' = parse content) (C : Curve)
    (passphrase : Datum) :
    unlockContent C content' passphrase = unlockContent C content passphrase := by
  rw [unlockContent, unlockContent, h]

/-- **The text of a keystore is stable.**  What is read from any content is read again
from the text that it is written as, and from the bytes of that text.  Writing it once more
gives the same text, so that every further rewriting does.  And each of them opens, with
every passphrase, as the first content did: with the same key or failure, and the same
records. -/
theorem parse_render_of_parse (h : parse content = .ok k) :
    parse (.text k.render) = .ok k ∧
    parse (.bytes (Bytes.ofText k.render)) = .ok k ∧
    (∀ n, rewriteTimes (n + 1) content = .ok (.text k.render)) ∧
    (∀ n, ∃ c, rewriteTimes n content = .ok c ∧ ∀ C passphrase,
      unlockContent C c passphrase = unlockContent C content passphrase) := by
  obtain ⟨htext, hbytes⟩ := parse_render (isShort_of_parse h)
  -- one rewriting comes to the text, and the text is its own rewriting
  have hstable (n : Nat) : rewriteTimes (n + 1) content = .ok (.text k.render) := by
    rw [rewriteTimes, rewrite_of_parse h, ok_bind]
    exact rewriteTimes_of_fixed (rewrite_of_parse htext) n
  refine ⟨htext, hbytes, hstable, fun n => ?_⟩
  cases n with
  | zero => exact ⟨content, rfl, fun _ _ => rfl⟩
  | succ n => exact ⟨_, hstable n, unlockContent_congr (htext.trans h.symm)⟩

/-- A keystore in other forms than those that are written: the part with the key by its
other name, bytes as a list, with a prefix and with a blank, integers as text and with a
fraction of zeros, and a field that is null. -/
def looseText : String :=
  "\x7b\"version\":\"3\",\"id\":\"\\u00e9\\n\",\"Crypto\":\x7b\"cipher\":\"aes-128-ctr\","
    ++ "\"ciphertext\":[1,255],\"cipherparams\":\x7b\"iv\":\"0x0A\"\x7d,\"kdf\":\"pbkdf2\","
    ++ "\"kdfparams\":\x7b\"dklen\":32.0,\"salt\":\"AB cd\",\"n\":null,\"c\":\" +1_000\","
    ++ "\"prf\":\"hmac-sha256\"\x7d,\"mac\":\"\"\x7d\x7d"

/-- The text that `looseText` is rewritten to. -/
def strictText : String :=
  "\x7b\"version\":3,\"id\":\"é\\n\",\"crypto\":\x7b\"cipher\":\"aes-128-ctr\","
    ++ "\"ciphertext\":\"01ff\",\"cipherparams\":\x7b\"iv\":\"0a\"\x7d,\"kdf\":\"pbkdf2\","
    ++ "\"kdfparams\":\x7b\"dklen\":32,\"salt\":\"abcd\",\"c\":1000,"
    ++ "\"prf\":\"hmac-sha256\"\x7d,\"mac\":\"\"\x7d\x7d"

/-- The keystore that both texts write. -/
def looseKeystore : Keystore where
  version := 3
  id := some "é\n"
  crypto := {
    cipher := "aes-128-ctr"
    ciphertext := [1, 255]
    iv := [0x0A]
    kdf := "pbkdf2"
    kdfParams := { dklen := 32, salt := [0xAB, 0xCD], c := some 1000, prf := some "hmac-sha256" }
    mac := [] }

/-- The text in other forms is rewritten to the other one, which stays as it is. -/
theorem parse_render_of_parse_loose :
    parse (.text looseText) = .ok looseKeystore ∧ parse (.text strictText) = .ok looseKeystore ∧
      rewriteTimes 1 (.text looseText) = .ok (.text strictText) ∧
      rewriteTimes 2 (.text looseText) = .ok (.text strictText) := by
  have hread : (match parse (.text looseText) with
      | .ok k => some k
      | .error _ => none) = some looseKeystore := by
    decide +kernel
  have hparse : parse (.text looseText) = .ok looseKeystore := by
    split at hread
    next k hk => rw [hk, Option.some.inj hread]
    · cases hread
  have hrender : looseKeystore.render = strictText := by
    decide +kernel
  obtain ⟨htext, -, hstable, -⟩ := parse_render_of_parse hparse
  rw [hrender] at htext hstable
  exact ⟨hparse, htext, hstable 0, hstable 1⟩

end Keystore
end Signet
