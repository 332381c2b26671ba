import Signet.Proofs.Keystore.RoundTrip

/-! # Searching a folder for a key

A search goes through the entries of a folder in the order of their names.  An entry
**decides** it in one of two ways (`Decides`): it is a file of a size in range that
opens to a key of the address, and the search is over; or it is a file that crashes
(`Crashes`), and the search fails with it.  All other entries are passed over
(`search_of_not_decides`), so that the first entry that decides is the outcome, and if
there is none the key is not found (`loadKey_first`).
-/

namespace Signet

/-! ## Searching entries -/

/-- The first of the elements with a property. -/
def IsFirst {α : Type} (p : α → Prop) (xs : List α) (x : α) : Prop :=
  ∃ before after, xs = before ++ x :: after ∧ p x ∧ ∀ y ∈ before, ¬ p y

theorem exists_isFirst {α : Type} {p : α → Prop} {xs : List α} (h : ∃ x ∈ xs, p x) :
    ∃ x, IsFirst p xs x := by
  induction xs with
  | nil =>
    obtain ⟨x, hx, -⟩ := h
    cases hx
  | cons y r ih =>
    by_cases hy : p y
    · exact ⟨y, [], r, rfl, hy, fun _ h => nomatch h⟩
    · obtain ⟨x, hx, hpx⟩ := h
      have hr : ∃ x ∈ r, p x := by
        rcases List.mem_cons.mp hx with rfl | hx
        · exact absurd hpx hy
        · exact ⟨x, hx, hpx⟩
      obtain ⟨x, before, after, rfl, hx, hbefore⟩ := ih hr
      refine ⟨x, y :: before, after, rfl, hx, fun z hz => ?_⟩
      rcases List.mem_cons.mp hz with rfl | hz
      · exact hy
      · exact hbefore z hz

namespace Folder

theorem candidate_eq_ok_iff {maxFileSize : Nat} {item : FolderItem} {content : Bytes} :
    candidate maxFileSize item = .ok content ↔
      item = .file content ∧ 1 ≤ content.length ∧ content.length < maxFileSize := by
  unfold candidate
  split
  · simp
  next b =>
    split
    next h =>
      constructor
      · intro h'
        cases h'
      · rintro ⟨h', h1, h2⟩
        cases h'
        omega
    next h =>
      constructor
      · intro h'
        cases h'
        exact ⟨rfl, by omega, by omega⟩
      · rintro ⟨h', -, -⟩
        cases h'
        rfl

section

variable (C : Curve) (passphrase : Datum) (password : Bytes) (address : Address)
  (maxFileSize : Nat)

/-- An entry that is a file of a size in range, with a keystore that opens to `secret`. -/
def Opens (entry : FolderEntry) (secret : SecretKey) : Prop :=
  ∃ content, entry.item = .file content ∧ 1 ≤ content.length ∧ content.length < maxFileSize ∧
    (Keystore.unlockContent C (.bytes content) passphrase).outcome = .ok secret

/-- An entry that is a file of a size in range, with a keystore that crashes. -/
def Crashes (entry : FolderEntry) (e : Error) : Prop :=
  ∃ content, entry.item = .file content ∧ 1 ≤ content.length ∧ content.length < maxFileSize ∧
    Keystore.Crashes password (.bytes content) e

/-- An entry with which the search is over. -/
def Decides (entry : FolderEntry) : Prop :=
  (∃ secret, Opens C passphrase maxFileSize entry secret ∧ C.address secret = address) ∨
    ∃ e, Crashes password maxFileSize entry e

end

section

variable {C : Curve} {f : Folder} {passphrase : Datum} {password : Bytes} {address : Address}
  {maxFileSize : Nat} {entry : FolderEntry} {entries : List FolderEntry}

/-- One step of a search: an entry that is worth reading is opened. -/
theorem outcome_search_cons :
    (search C f passphrase address maxFileSize (entry :: entries)).outcome =
      match candidate maxFileSize entry.item with
      | .error _ => (search C f passphrase address maxFileSize entries).outcome
      | .ok content =>
        match (Keystore.unlockContent C (.bytes content) passphrase).outcome with
        | .ok secret =>
          if C.address secret = address then .ok secret
          else (search C f passphrase address maxFileSize entries).outcome
        | .error e =>
          if isSkipped e then (search C f passphrase address maxFileSize entries).outcome
          else .error e := by
  rw [search]
  cases candidate maxFileSize entry.item with
  | error reason =>
    simp only [Logged.outcome_bind, logSkipped, Logged.outcome_write, ok_bind]
  | ok content =>
    simp only [Logged.outcome_bind, Logged.outcome_attempt, ok_bind]
    cases (Keystore.unlockContent C (.bytes content) passphrase).outcome with
    | ok secret =>
      simp only
      split
      · simp only [Logged.outcome_bind, logLoaded, Logged.outcome_write, ok_bind,
          Logged.outcome_pure]
      · rfl
    | error e =>
      simp only
      split
      · simp only [Logged.outcome_bind, logSkipped, Logged.outcome_write, ok_bind]
      · rfl

theorem search_of_opens {secret : SecretKey} (h : Opens C passphrase maxFileSize entry secret)
    (ha : C.address secret = address) :
    (search C f passphrase address maxFileSize (entry :: entries)).outcome = .ok secret := by
  obtain ⟨content, hitem, h1, h2, hopen⟩ := h
  rw [outcome_search_cons, candidate_eq_ok_iff.mpr ⟨hitem, h1, h2⟩]
  simp only [hopen, ha, if_true]

theorem search_of_crashes (hp : passphrase.password = .ok password) {e : Error}
    (h : Crashes password maxFileSize entry e) :
    (search C f passphrase address maxFileSize (entry :: entries)).outcome =
      .error (.error e) := by
  obtain ⟨content, hitem, h1, h2, hcrash⟩ := h
  obtain ⟨hfail, hskip⟩ :=
    (Keystore.unlockContent_crashes_iff C hp (e := .error e)).mpr ⟨e, rfl, hcrash⟩
  rw [outcome_search_cons, candidate_eq_ok_iff.mpr ⟨hitem, h1, h2⟩]
  simp only [hfail, hskip, Bool.false_eq_true, if_false]

/-- **An entry that does not decide the search is passed over.** -/
theorem search_of_not_decides (hp : passphrase.password = .ok password)
    (h : ¬ Decides C passphrase password address maxFileSize entry) :
    (search C f passphrase address maxFileSize (entry :: entries)).outcome =
      (search C f passphrase address maxFileSize entries).outcome := by
  rw [outcome_search_cons]
  split
  · rfl
  next content hcandidate =>
  obtain ⟨hitem, h1, h2⟩ := candidate_eq_ok_iff.mp hcandidate
  split
  next secret hopen =>
    rw [if_neg fun ha => h (Or.inl ⟨secret, ⟨content, hitem, h1, h2, hopen⟩, ha⟩)]
  next e hfail =>
    split
    · rfl
    next hskip =>
      obtain ⟨e', -, hcrash⟩ :=
        (Keystore.unlockContent_crashes_iff C hp).mp ⟨hfail, Bool.eq_false_iff.mpr hskip⟩
      exact absurd (Or.inr ⟨e', content, hitem, h1, h2, hcrash⟩) h

/-- An entry that is no file, or of a size out of range, does not decide a search. -/
theorem not_decides_of_candidate {reason : String}
    (h : candidate maxFileSize entry.item = .error reason) :
    ¬ Decides C passphrase password address maxFileSize entry := by
  have hnot {content : Bytes} (hitem : entry.item = .file content) (h1 : 1 ≤ content.length)
      (h2 : content.length < maxFileSize) : False := by
    rw [candidate_eq_ok_iff.mpr ⟨hitem, h1, h2⟩] at h
    cases h
  rintro (⟨secret, ⟨content, hitem, h1, h2, -⟩, -⟩ | ⟨e, content, hitem, h1, h2, -⟩)
  · exact hnot hitem h1 h2
  · exact hnot hitem h1 h2

/-- A file that is read to the end and found to be no keystore does not decide a search. -/
theorem not_decides_of_faults {content : Bytes} {faults : List Fault}
    (hitem : entry.item = .file content)
    (h : Keystore.ofContent (.bytes content) = .faults faults) :
    ¬ Decides C passphrase password address maxFileSize entry := by
  rintro (⟨secret, ⟨content', hitem', -, -, hopen⟩, -⟩ | ⟨e, content', hitem', -, -, hcrash⟩)
  · cases hitem.symm.trans hitem'
    have hparse : Keystore.parse (.bytes content) = .error (.malformedKeystore faults) := by
      rw [Keystore.parse, h]
    rw [Keystore.unlockContent, Logged.outcome_bind, Logged.outcome_lift, hparse] at hopen
    cases hopen
  · cases hitem.symm.trans hitem'
    cases hcrash with
    | kind _ hread => cases h.symm.trans hread
    | derivation _ _ hread => cases h.symm.trans hread

/-- Entries that do not decide the search are passed over, one after the other. -/
theorem search_append_of_not_decides (hp : passphrase.password = .ok password)
    {before : List FolderEntry}
    (h : ∀ x ∈ before, ¬ Decides C passphrase password address maxFileSize x) :
    (search C f passphrase address maxFileSize (before ++ entries)).outcome =
      (search C f passphrase address maxFileSize entries).outcome := by
  induction before with
  | nil => rfl
  | cons x r ih =>
    rw [List.cons_append, search_of_not_decides hp (h x (List.mem_cons_self ..)),
      ih fun y hy => h y (List.mem_cons_of_mem _ hy)]

/-- A search of entries none of which decides it finds no key. -/
theorem search_of_none (hp : passphrase.password = .ok password)
    (h : ∀ x ∈ entries, ¬ Decides C passphrase password address maxFileSize x) :
    (search C f passphrase address maxFileSize entries).outcome =
      .error (.error (.keyNotFound address)) := by
  have happend : (search C f passphrase address maxFileSize (entries ++ [])).outcome =
      (search C f passphrase address maxFileSize []).outcome := search_append_of_not_decides hp h
  rw [List.append_nil] at happend
  rw [happend]
  rfl

end

/-! ## Main statements -/

/-- The entries of a folder are searched in the order of their names, each of them once. -/
theorem sorted_spec (f : Folder) :
    f.sorted.Perm f.entries ∧ f.sorted.Pairwise fun a b => a.name ≤ b.name := by
  refine ⟨List.mergeSort_perm .., ?_⟩
  have htrans : ∀ a b c : FolderEntry, decide (a.name ≤ b.name) = true →
      decide (b.name ≤ c.name) = true → decide (a.name ≤ c.name) = true :=
    fun a b c hab hbc => decide_eq_true
      (String.le_trans (of_decide_eq_true hab) (of_decide_eq_true hbc))
  have htotal : ∀ a b : FolderEntry,
      (decide (a.name ≤ b.name) || decide (b.name ≤ a.name)) = true := fun a b => by
    simpa using String.le_total a.name b.name
  exact (List.pairwise_mergeSort htrans htotal f.entries).imp of_decide_eq_true

section

variable {C : Curve} {f : Folder} {passphrase d : Datum} {config : KeystoreConfig}
  {password : Bytes} {address : Address} {entry : FolderEntry}

theorem outcome_loadKey (ha : Address.ofDatum d = .ok address) :
    (f.loadKey C passphrase d config).outcome =
      (f.search C passphrase address config.maxFileSize f.sorted).outcome := by
  unfold loadKey
  rw [Logged.outcome_bind, Logged.outcome_liftError, ha]
  rfl

theorem loadKey_of_opens (hp : passphrase.password = .ok password)
    (ha : Address.ofDatum d = .ok address)
    (hfirst : IsFirst (Decides C passphrase password address config.maxFileSize) f.sorted entry)
    {secret : SecretKey} (hopen : Opens C passphrase config.maxFileSize entry secret)
    (haddress : C.address secret = address) :
    (f.loadKey C passphrase d config).outcome = .ok secret := by
  obtain ⟨before, after, hsorted, -, hbefore⟩ := hfirst
  rw [outcome_loadKey ha, hsorted, search_append_of_not_decides hp hbefore,
    search_of_opens hopen haddress]

theorem loadKey_of_crashes (hp : passphrase.password = .ok password)
    (ha : Address.ofDatum d = .ok address)
    (hfirst : IsFirst (Decides C passphrase password address config.maxFileSize) f.sorted entry)
    {e : Error} (hcrash : Crashes password config.maxFileSize entry e) :
    (f.loadKey C passphrase d config).outcome = .error (.error e) := by
  obtain ⟨before, after, hsorted, -, hbefore⟩ := hfirst
  rw [outcome_loadKey ha, hsorted, search_append_of_not_decides hp hbefore,
    search_of_crashes hp hcrash]

theorem loadKey_of_none (hp : passphrase.password = .ok password)
    (ha : Address.ofDatum d = .ok address)
    (h : ∀ entry ∈ f.sorted, ¬ Decides C passphrase password address config.maxFileSize entry) :
    (f.loadKey C passphrase d config).outcome = .error (.error (.keyNotFound address)) :=
  (outcome_loadKey ha).trans (search_of_none hp h)

end

/-- The first entry that decides opens or crashes, or there is none. -/
theorem sorted_cases (C : Curve) (f : Folder) (passphrase : Datum) (password : Bytes)
    (address : Address) (maxFileSize : Nat) :
    (∃ entry secret, IsFirst (Decides C passphrase password address maxFileSize) f.sorted entry ∧
      Opens C passphrase maxFileSize entry secret ∧ C.address secret = address) ∨
    (∃ entry e, IsFirst (Decides C passphrase password address maxFileSize) f.sorted entry ∧
      Crashes password maxFileSize entry e) ∨
    ∀ entry ∈ f.sorted, ¬ Decides C passphrase password address maxFileSize entry := by
  by_cases h : ∃ x ∈ f.sorted, Decides C passphrase password address maxFileSize x
  · obtain ⟨entry, before, after, hsorted, hdecides, hbefore⟩ := exists_isFirst h
    have hfirst : IsFirst (Decides C passphrase password address maxFileSize) f.sorted entry :=
      ⟨before, after, hsorted, hdecides, hbefore⟩
    rcases hdecides with ⟨secret, hopen, haddress⟩ | ⟨e, hcrash⟩
    · exact Or.inl ⟨entry, secret, hfirst, hopen, haddress⟩
    · exact Or.inr (Or.inl ⟨entry, e, hfirst, hcrash⟩)
  · exact Or.inr (Or.inr fun x hx hd => h ⟨x, hx, hd⟩)

/-- **The first entry that decides is the outcome of a search.**  The entries are looked at
in the order of their names.  The search returns a key exactly if the first entry that
decides opens to it, and it fails in two ways: no entry decides, and the key is not
found; or the first entry that decides is a file that crashes, with the cause of the
crash.  Where no file crashes, this is the first keystore that opens to a key of the
address, or else no key. -/
theorem loadKey_first (C : Curve) (f : Folder) (passphrase d : Datum) (config : KeystoreConfig)
    (password : Bytes) (address : Address) (hp : passphrase.password = .ok password)
    (ha : Address.ofDatum d = .ok address) :
    f.sorted.Perm f.entries ∧ f.sorted.Pairwise (fun a b => a.name ≤ b.name) ∧
    (∀ secret, (f.loadKey C passphrase d config).outcome = .ok secret ↔
      ∃ entry, IsFirst (Decides C passphrase password address config.maxFileSize) f.sorted entry ∧
        Opens C passphrase config.maxFileSize entry secret ∧ C.address secret = address) ∧
    (∀ e, (f.loadKey C passphrase d config).outcome = .error e ↔
      (e = .error (.keyNotFound address) ∧
        ∀ entry ∈ f.sorted, ¬ Decides C passphrase password address config.maxFileSize entry) ∨
      ∃ entry e',
        IsFirst (Decides C passphrase password address config.maxFileSize) f.sorted entry ∧
          Crashes password config.maxFileSize entry e' ∧ e = .error e') ∧
    ∀ entry e, Crashes password config.maxFileSize entry e →
      e.isKind = true ∨ e = .divisionByZero ∨ e = .memory := by
  have hcases := sorted_cases C f passphrase password address config.maxFileSize
  refine ⟨(sorted_spec f).1, (sorted_spec f).2, fun secret => ⟨fun h => ?found, ?_⟩,
    fun e => ⟨fun h => ?failed, ?_⟩, ?_⟩
  case found =>
    -- the outcome tells which of the three cases it comes from
    rcases hcases with ⟨entry, secret', hfirst, hopen, haddress⟩ | ⟨_, _, hfirst, hcrash⟩ | hnone
    · rw [loadKey_of_opens hp ha hfirst hopen haddress] at h
      cases h
      exact ⟨entry, hfirst, hopen, haddress⟩
    · rw [loadKey_of_crashes hp ha hfirst hcrash] at h
      cases h
    · rw [loadKey_of_none hp ha hnone] at h
      cases h
  case failed =>
    rcases hcases with ⟨_, _, hfirst, hopen, haddress⟩ | ⟨entry, e', hfirst, hcrash⟩ | hnone
    · rw [loadKey_of_opens hp ha hfirst hopen haddress] at h
      cases h
    · rw [loadKey_of_crashes hp ha hfirst hcrash] at h
      cases h
      exact Or.inr ⟨entry, e', hfirst, hcrash, rfl⟩
    · rw [loadKey_of_none hp ha hnone] at h
      cases h
      exact Or.inl ⟨rfl, hnone⟩
  · rintro ⟨entry, hfirst, hopen, haddress⟩
    exact loadKey_of_opens hp ha hfirst hopen haddress
  · rintro (⟨rfl, hnone⟩ | ⟨entry, e', hfirst, hcrash, rfl⟩)
    · exact loadKey_of_none hp ha hnone
    · exact loadKey_of_crashes hp ha hfirst hcrash
  · rintro entry e ⟨content, -, -, -, hcrash⟩
    exact hcrash.cause

/-- Settings for a search that opens a file with this content, and every file that is opened
where no settings are given. -/
def settingsFor (content : Bytes) : KeystoreConfig :=
  { maxFileSize := content.length + 1024 * 1024 }

/-- There is a file that opens to `SecretKey.ofOnes`, under every name. -/
theorem exists_opens_ofOnes :
    ∃ content, ∀ name, Opens secp256k1 (.text "testpassword") (settingsFor content).maxFileSize
      ⟨name, .file content⟩ .ofOnes := by
  obtain ⟨derived, ciphertext, -, -, hopen, hparse⟩ := Keystore.exists_lightKeystore
  generalize Bytes.ofText (Keystore.lightKeystore derived ciphertext).render = content at hparse
  have hpos : 1 ≤ content.length := by
    have hempty : (Keystore.parse (.bytes [])).isOk = false := by
      decide +kernel
    cases content with
    | nil =>
      rw [hparse] at hempty
      cases hempty
    | cons x r => exact Nat.succ_pos _
  have hroom : content.length < (settingsFor content).maxFileSize :=
    Nat.lt_add_of_pos_right (by decide)
  exact ⟨content, fun name => ⟨content, rfl, hpos, hroom,
    (Keystore.outcome_unlockContent_of_parse secp256k1 hparse).trans hopen⟩⟩

/-- The first half of an object. -/
def damagedText : String := "\x7b\"version\":3,\"crypto\":"

theorem ofContent_damagedText :
    Keystore.ofContent (.bytes (Bytes.ofText damagedText)) = .fault .jsonInvalid := by
  have hparse : Json.parse? Keystore.textDepth damagedText.toList = none :=
    Option.isNone_iff_eq_none.mp (by decide +kernel)
  simp only [Keystore.ofContent, Datum.asByteString?, Datum.asBytes?, Keystore.fromUTF8?_ofText,
    Keystore.ofText, hparse]

/-- A key is found behind a folder, an empty file and a damaged one. -/
theorem loadKey_first_behind_damaged :
    ∃ content,
      let f := Folder.ofEntries "keys" [⟨"d", .file content⟩,
        ⟨"c", .file (Bytes.ofText damagedText)⟩, ⟨"b", .file []⟩, ⟨"a", .folder⟩]
      (f.loadKey secp256k1 (.text "testpassword") (.address (secp256k1.address .ofOnes))
        (settingsFor content)).outcome = .ok .ofOnes := by
  obtain ⟨content, hopens⟩ := exists_opens_ofOnes
  refine ⟨content, ?_⟩
  intro f
  have hsorted : f.sorted = [⟨"a", .folder⟩, ⟨"b", .file []⟩,
      ⟨"c", .file (Bytes.ofText damagedText)⟩] ++ ⟨"d", .file content⟩ :: [] := by
    simp [f, sorted, ofEntries, put, List.mergeSort]
  have hbefore : ∀ entry ∈ [⟨"a", .folder⟩, ⟨"b", .file []⟩,
      ⟨"c", .file (Bytes.ofText damagedText)⟩], ¬ Decides secp256k1 (.text "testpassword")
        (Bytes.ofText "testpassword") (secp256k1.address .ofOnes)
        (settingsFor content).maxFileSize entry := by
    intro entry hentry
    simp only [List.mem_cons, List.not_mem_nil, or_false] at hentry
    rcases hentry with rfl | rfl | rfl
    · exact not_decides_of_candidate rfl
    · exact not_decides_of_candidate rfl
    · exact not_decides_of_faults rfl ofContent_damagedText
  obtain ⟨-, -, hfound, -⟩ := loadKey_first secp256k1 f (.text "testpassword")
    (.address (secp256k1.address .ofOnes)) (settingsFor content) (Bytes.ofText "testpassword")
    (secp256k1.address .ofOnes) rfl (FixedBytes.ofDatum_of_toBytes false rfl rfl)
  exact (hfound .ofOnes).mpr
    ⟨_, ⟨_, _, hsorted, Or.inl ⟨_, hopens "d", rfl⟩, hbefore⟩, hopens "d", rfl⟩

/-- The cause that ended a validation. -/
def endOf? {α : Type} : Check α → Option Error
  | .abort e => some e
  | _ => none

/-- The text of a keystore file with an integer for a code. -/
def crashingText : String := "\x7b\"crypto\":\x7b\"mac\":1\x7d\x7d"

/-- A file that holds no keystore, and of which not even the first field is there, is not
passed over: with this file in front of it, the one that opens is not found any more. -/
theorem loadKey_crashingText :
    ∃ content,
      (Folder.loadKey secp256k1 ⟨"keys", [⟨"2", .file content⟩]⟩ (.text "testpassword")
        (.address (secp256k1.address .ofOnes)) (settingsFor content)).outcome = .ok .ofOnes ∧
      (Folder.loadKey secp256k1
        ⟨"keys", [⟨"1", .file (Bytes.ofText crashingText)⟩, ⟨"2", .file content⟩]⟩
        (.text "testpassword") (.address (secp256k1.address .ofOnes))
        (settingsFor content)).outcome = .error (.error (.kind (.bytes "int"))) := by
  obtain ⟨content, hopens⟩ := exists_opens_ofOnes
  have hread : endOf? (Keystore.ofContent (.bytes (Bytes.ofText crashingText))) =
      some (.kind (.bytes "int")) := by
    decide +kernel
  have hended : Keystore.ofContent (.bytes (Bytes.ofText crashingText)) =
      .abort (.kind (.bytes "int")) := by
    unfold endOf? at hread
    split at hread
    next h =>
      cases hread
      exact h
    · cases hread
  have hsize : (Bytes.ofText crashingText).length < 1024 * 1024 := by
    decide +kernel
  have hcrash : Crashes (Bytes.ofText "testpassword") (settingsFor content).maxFileSize
      ⟨"1", .file (Bytes.ofText crashingText)⟩ (.kind (.bytes "int")) :=
    ⟨_, rfl, by decide +kernel, Nat.lt_add_left _ hsize, .kind _ hended⟩
  have hp : Datum.password (.text "testpassword") = .ok (Bytes.ofText "testpassword") := rfl
  have ha : Address.ofDatum (.address (secp256k1.address .ofOnes)) =
      .ok (secp256k1.address .ofOnes) :=
    FixedBytes.ofDatum_of_toBytes false rfl rfl
  refine ⟨content, ?_, ?_⟩
  · rw [outcome_loadKey ha, sorted, List.mergeSort_singleton]
    exact search_of_opens (hopens "2") rfl
  · have hsorted : sorted ⟨"keys", [⟨"1", .file (Bytes.ofText crashingText)⟩,
        ⟨"2", .file content⟩]⟩ = [⟨"1", .file (Bytes.ofText crashingText)⟩,
          ⟨"2", .file content⟩] := by
      simp [sorted, List.mergeSort]
    rw [outcome_loadKey ha, hsorted]
    exact search_of_crashes hp hcrash

end Folder
end Signet
