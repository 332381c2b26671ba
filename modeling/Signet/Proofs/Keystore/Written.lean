import Mathlib.Data.List.Nodup
import Signet.Keystore.Fields
import Signet.Keystore.Text
import Signet.Proofs.Datum.HexText
import Signet.Proofs.Json.RoundTrip
import Signet.Proofs.Outcome
import Signet.Proofs.Validation.Accepted

/-! # A keystore is read back from its text

The names in the objects of a keystore are distinct, so that each is looked up as it was
written (`lookup?_members`), and one that was left out is missing (`lookup?_setMembers`).
Each field is read back from its member, and with them the keystore (`ofDatum_toJson`);
as no part of it is nested deep and its integers are short, its text is read back too
(`parse_render`), be it a text or the bytes of one.
-/

namespace Signet

open Json (IsShort Readable)

/-! ## Looking up members -/

namespace Json

theorem lookup?_cons (name n : String) (d : Datum) (entries : List (String × Datum)) :
    Datum.lookup? name ((n, d) :: entries) =
      if n = name then some d else Datum.lookup? name entries := by
  rw [Datum.lookup?, List.find?_cons]
  by_cases h : n = name
  · rw [if_pos h, beq_iff_eq.mpr h]
    rfl
  · rw [if_neg h, beq_eq_false_iff_ne.mpr h]
    rfl

/-- An entry in front of others is found by its name, the others by theirs. -/
theorem lookup?_putEntry (name n : String) (d : Datum) (rest : List (String × Datum)) :
    Datum.lookup? name (putEntry n d rest) =
      if n = name then some ((Datum.lookup? name rest).getD d) else Datum.lookup? name rest := by
  rw [putEntry, lookup?_cons]
  split
  next h => rw [h]
  next h =>
    rw [Datum.lookup?, List.find?_filter, Datum.lookup?]
    congr 2
    funext e
    by_cases he : e.1 = name
    · simp [he, Ne.symm h]
    · simp [he]

variable {members : List (String × Json)} {name : String}

theorem lookup?_members_none (h : name ∉ members.map Prod.fst) :
    Datum.lookup? name (membersToEntries members) = none := by
  induction members with
  | nil => rfl
  | cons m r ih =>
    rw [List.map_cons, List.mem_cons, not_or] at h
    rw [membersToEntries, lookup?_putEntry, if_neg (Ne.symm h.1), ih h.2]

/-- **Where the names are distinct, each finds its own value.** -/
theorem lookup?_members (hnodup : (members.map Prod.fst).Nodup) {x : Json}
    (hmem : (name, x) ∈ members) :
    Datum.lookup? name (membersToEntries members) = some x.toDatum := by
  induction members with
  | nil => cases hmem
  | cons m r ih =>
    rw [List.map_cons, List.nodup_cons] at hnodup
    rw [membersToEntries, lookup?_putEntry]
    rcases List.mem_cons.mp hmem with rfl | hmem
    · rw [if_pos rfl, lookup?_members_none hnodup.1]
      rfl
    · have hname : m.1 ≠ name := by
        rintro rfl
        exact hnodup.1 (List.mem_map.mpr ⟨_, hmem, rfl⟩)
      rw [if_neg hname, ih hnodup.2 hmem]

end Json

namespace Keystore

variable {fields : List (String × Option Json)} {name : String}

theorem mem_setMembers {x : Json} : (name, x) ∈ setMembers fields ↔ (name, some x) ∈ fields := by
  rw [setMembers, List.mem_filterMap]
  constructor
  · rintro ⟨⟨n, v⟩, hmem, hv⟩
    obtain ⟨y, rfl, hy⟩ := Option.map_eq_some_iff.mp hv
    cases hy
    exact hmem
  · intro hmem
    exact ⟨_, hmem, rfl⟩

theorem names_setMembers_sublist (fields : List (String × Option Json)) :
    ((setMembers fields).map Prod.fst).Sublist (fields.map Prod.fst) := by
  induction fields with
  | nil => exact List.Sublist.slnil
  | cons f r ih =>
    obtain ⟨n, _ | x⟩ := f
    · exact ih.cons n
    · exact ih.cons_cons n

/-- **A field that is set is found as it was written, and one that is not is missing.** -/
theorem lookup?_setMembers (hnodup : (fields.map Prod.fst).Nodup) {v : Option Json}
    (hmem : (name, v) ∈ fields) :
    Datum.lookup? name (Json.membersToEntries (setMembers fields)) = v.map Json.toDatum := by
  have hnames := hnodup.sublist (names_setMembers_sublist fields)
  cases v with
  | some x => exact Json.lookup?_members hnames (mem_setMembers.mpr hmem)
  | none =>
    refine Json.lookup?_members_none fun hname => ?_
    obtain ⟨⟨n, x⟩, hx, rfl⟩ := List.mem_map.mp hname
    have hsame := List.inj_on_of_nodup_map hnodup hmem (mem_setMembers.mp hx) rfl
    cases hsame

end Keystore

/-! ## Reading fields -/

namespace Check

variable {α : Type} {entries : List (String × Datum)} {name : String} {others : List String}
  {f : Datum → Check α}

theorem required_of_lookup? {d : Datum} {a : α} (h : Datum.lookup? name entries = some d)
    (hf : f d = .ok a) : required entries name others f = .ok a := by
  rw [required, firstEntry?, List.findSome?_cons, h]
  simp only [Option.map_some, hf]
  rfl

/-- A field that may be unset is read back, whether it was left out or written. -/
theorem optional_of_lookup? {write : α → Json} {x : Option α}
    (h : Datum.lookup? name entries = (x.map write).map Json.toDatum)
    (hf : ∀ a, optional f (write a).toDatum = .ok (some a)) :
    withDefault entries name [] none (optional f) = .ok x := by
  rw [withDefault, firstEntry?, List.findSome?_cons, h]
  cases x with
  | none => rfl
  | some a =>
    simp only [Option.map_some, hf]
    rfl

end Check

/-- Hexadecimal text is read as the bytes it was written from. -/
theorem Datum.toBytes_hexMember (b : Bytes) : (Keystore.hexMember b).toDatum.toBytes = .ok b :=
  Datum.toBytes_bare b

theorem Check.bytes_hexMember (b : Bytes) : Check.bytes (Keystore.hexMember b).toDatum = .ok b :=
  Check.ofExcept_eq_ok_iff.mpr (Datum.toBytes_hexMember b)

theorem Address.ofDatum_hexMember (a : Address) :
    Address.ofDatum (Keystore.hexMember a.bytes).toDatum = .ok a :=
  FixedBytes.ofDatum_of_toBytes false rfl (Datum.toBytes_hexMember a.bytes)

/-! ## Reading a keystore -/

namespace Keystore

/-- The entries that the fields that are set are read from. -/
def entriesOf (fields : List (String × Option Json)) : List (String × Datum) :=
  Json.membersToEntries (setMembers fields)

theorem required_entriesOf {α : Type} {f : Datum → Check α} {others : List String} {x : Json}
    {a : α} (hnodup : (fields.map Prod.fst).Nodup) (hmem : (name, some x) ∈ fields)
    (hf : f x.toDatum = .ok a) : Check.required (entriesOf fields) name others f = .ok a :=
  Check.required_of_lookup? (lookup?_setMembers hnodup hmem) hf

theorem optional_entriesOf {α : Type} {f : Datum → Check α} {write : α → Json} {x : Option α}
    (hnodup : (fields.map Prod.fst).Nodup) (hmem : (name, x.map write) ∈ fields)
    (hf : ∀ a, Check.optional f (write a).toDatum = .ok (some a)) :
    Check.withDefault (entriesOf fields) name [] none (Check.optional f) = .ok x :=
  Check.optional_of_lookup? (lookup?_setMembers hnodup hmem) hf

theorem nodup_paramFields (p : KdfParams) : ((paramFields p).map Prod.fst).Nodup := by
  show ["dklen", "salt", "n", "r", "p", "c", "prf"].Nodup
  decide

theorem nodup_cryptoMembers (c : KeystoreCrypto) : ((cryptoMembers c).map Prod.fst).Nodup := by
  show ["cipher", "ciphertext", "cipherparams", "kdf", "kdfparams", "mac"].Nodup
  decide

theorem nodup_keystoreFields (k : Keystore) : (k.keystoreFields.map Prod.fst).Nodup := by
  show ["version", "id", "address", "crypto"].Nodup
  decide

end Keystore

open Keystore in
theorem KdfParams.ofDatum_toJson (p : KdfParams) :
    Check.object KdfParams.ofEntries (paramsToJson p).toDatum = .ok p := by
  have hnodup := nodup_paramFields p
  have hdklen : Check.required (entriesOf (paramFields p)) "dklen" [] Check.int = .ok p.dklen :=
    required_entriesOf (x := .int p.dklen) hnodup (by simp [paramFields]) rfl
  have hsalt : Check.required (entriesOf (paramFields p)) "salt" [] Check.bytes = .ok p.salt :=
    required_entriesOf hnodup (by simp [paramFields]) (Check.bytes_hexMember _)
  have hinteger {name : String} {i : Option Int} (h : (name, i.map Json.int) ∈ paramFields p) :
      Check.withDefault (entriesOf (paramFields p)) name [] none (Check.optional Check.int) =
        .ok i :=
    optional_entriesOf hnodup h fun _ => rfl
  have hprf : Check.withDefault (entriesOf (paramFields p)) "prf" [] none
      (Check.optional Check.text) = .ok p.prf := by
    have hmem : ("prf", p.prf.map Json.text) ∈ paramFields p := by simp [paramFields]
    exact optional_entriesOf hnodup hmem fun _ => rfl
  show KdfParams.ofEntries (entriesOf (paramFields p)) = .ok p
  unfold KdfParams.ofEntries
  simp only
  rw [hdklen, hsalt, hinteger (i := p.n) (by simp [paramFields]),
    hinteger (i := p.r) (by simp [paramFields]), hinteger (i := p.p) (by simp [paramFields]),
    hinteger (i := p.c) (by simp [paramFields]), hprf]
  rfl

open Keystore in
theorem KeystoreCrypto.ofDatum_toJson (c : KeystoreCrypto) :
    KeystoreCrypto.ofDatum (cryptoToJson c).toDatum = .ok c := by
  have hrequired {α : Type} {name : String} {x : Json} {f : Datum → Check α} {a : α}
      (hmem : (name, x) ∈ cryptoMembers c) (hf : f x.toDatum = .ok a) :
      Check.required (Json.membersToEntries (cryptoMembers c)) name [] f = .ok a :=
    Check.required_of_lookup? (Json.lookup?_members (nodup_cryptoMembers c) hmem) hf
  have hsingle : ([("iv", hexMember c.iv)].map Prod.fst).Nodup := List.nodup_singleton "iv"
  have hblock : Check.required (Json.membersToEntries [("iv", hexMember c.iv)]) "iv" []
      Check.bytes = .ok c.iv :=
    Check.required_of_lookup? (Json.lookup?_members hsingle List.mem_cons_self)
      (Check.bytes_hexMember c.iv)
  have hiv : ivOfDatum (Json.object [("iv", hexMember c.iv)]).toDatum = .ok c.iv := hblock
  show ofEntries (Json.membersToEntries (cryptoMembers c)) = .ok c
  rw [ofEntries, hrequired (x := .text c.cipher) (a := c.cipher) (by simp [cryptoMembers]) rfl,
    hrequired (by simp [cryptoMembers]) (Check.bytes_hexMember c.ciphertext),
    hrequired (by simp [cryptoMembers]) hiv,
    hrequired (x := .text c.kdf) (a := c.kdf) (by simp [cryptoMembers]) rfl,
    hrequired (by simp [cryptoMembers]) (KdfParams.ofDatum_toJson c.kdfParams),
    hrequired (by simp [cryptoMembers]) (Check.bytes_hexMember c.mac)]
  rfl

namespace Keystore

/-- **Every field of a keystore is read back from its members.** -/
theorem ofDatum_toJson (k : Keystore) : Check.object ofEntries k.toJson.toDatum = .ok k := by
  have hnodup := nodup_keystoreFields k
  have hversion : Check.required (entriesOf k.keystoreFields) "version" [] Check.int =
      .ok k.version :=
    required_entriesOf (x := .int k.version) hnodup (by simp [keystoreFields]) rfl
  have hid : Check.withDefault (entriesOf k.keystoreFields) "id" [] none
      (Check.optional Check.text) = .ok k.id := by
    have hmem : ("id", k.id.map Json.text) ∈ k.keystoreFields := by simp [keystoreFields]
    exact optional_entriesOf hnodup hmem fun _ => rfl
  have haddress : Check.withDefault (entriesOf k.keystoreFields) "address" [] none
      (Check.optional fun d => .ofExcept (Address.ofDatum d)) = .ok k.address := by
    have hmem : ("address", k.address.map fun a => hexMember a.bytes) ∈ k.keystoreFields := by
      simp [keystoreFields]
    refine optional_entriesOf hnodup hmem fun a => ?_
    show (Check.ofExcept (Address.ofDatum (hexMember a.bytes).toDatum)).map some = .ok (some a)
    rw [Address.ofDatum_hexMember]
    rfl
  have hcrypto : Check.required (entriesOf k.keystoreFields) "crypto" ["Crypto"]
      KeystoreCrypto.ofDatum = .ok k.crypto :=
    required_entriesOf hnodup (by simp [keystoreFields])
      (KeystoreCrypto.ofDatum_toJson k.crypto)
  show ofEntries (entriesOf k.keystoreFields) = .ok k
  rw [ofEntries, hversion, hid, haddress, hcrypto]
  rfl

/-! ## The text of a keystore -/

/-- The bytes of a byte array from `i` on, behind those listed so far. -/
theorem toList_loop (b : ByteArray) (i : Nat) (done : Bytes) :
    ByteArray.toList.loop b i done = done.reverse ++ b.data.toList.drop i := by
  induction hrest : b.size - i generalizing i done with
  | zero =>
    have hend : b.data.toList.length ≤ i := by
      rw [Array.length_toList]
      exact Nat.le_of_sub_eq_zero hrest
    rw [ByteArray.toList.loop, if_neg (by omega), List.drop_eq_nil_of_le hend, List.append_nil]
  | succ n ih =>
    have hlt : i < b.size := by omega
    have hlist : i < b.data.toList.length := hlt
    have hget : b.get! i = b.data.toList[i] := by
      show b.data[i]! = _
      rw [getElem!_pos b.data i hlt]
      rfl
    rw [ByteArray.toList.loop, if_pos hlt, ih (i + 1) _ (by omega), List.reverse_cons,
      List.append_assoc, hget, List.singleton_append, List.getElem_cons_drop]

/-- A text is read back from its bytes. -/
theorem fromUTF8?_ofText (s : String) : String.fromUTF8? ⟨(Bytes.ofText s).toArray⟩ = some s := by
  have hbytes : (⟨(Bytes.ofText s).toArray⟩ : ByteArray) = s.toByteArray := by
    show (⟨(ByteArray.toList.loop s.toByteArray 0 []).toArray⟩ : ByteArray) = s.toByteArray
    rw [toList_loop]
    rfl
  rw [hbytes, String.fromUTF8?, dif_pos s.isValidUTF8]
  rfl

/-- The integers of a keystore are short enough to be read back. -/
structure IsShort (k : Keystore) : Prop where
  version : Json.IsShort k.version
  dklen : Json.IsShort k.crypto.kdfParams.dklen
  n : ∀ i ∈ k.crypto.kdfParams.n, Json.IsShort i
  r : ∀ i ∈ k.crypto.kdfParams.r, Json.IsShort i
  p : ∀ i ∈ k.crypto.kdfParams.p, Json.IsShort i
  c : ∀ i ∈ k.crypto.kdfParams.c, Json.IsShort i

theorem readable_setMembers {depth : Nat} (h : ∀ f ∈ fields, ∀ x ∈ f.2, Readable depth x) :
    Readable (depth + 1) (.object (setMembers fields)) :=
  .object fun m hm => h (m.1, some m.2) (mem_setMembers.mp hm) m.2 rfl

theorem readable_paramsToJson {p : KdfParams} {depth : Nat} (hdklen : Json.IsShort p.dklen)
    (hn : ∀ i ∈ p.n, Json.IsShort i) (hr : ∀ i ∈ p.r, Json.IsShort i)
    (hp : ∀ i ∈ p.p, Json.IsShort i) (hc : ∀ i ∈ p.c, Json.IsShort i) :
    Readable (depth + 1) (paramsToJson p) := by
  refine readable_setMembers fun f hf x hx => ?_
  have hinteger {i : Option Int} (h : ∀ j ∈ i, Json.IsShort j) (hx : x ∈ i.map Json.int) :
      Readable depth x := by
    obtain ⟨j, hj, rfl⟩ := Option.map_eq_some_iff.mp hx
    exact .int (h j hj)
  simp only [paramFields, List.mem_cons, List.not_mem_nil, or_false] at hf
  rcases hf with rfl | rfl | rfl | rfl | rfl | rfl | rfl
  · cases hx
    exact .int hdklen
  · cases hx
    exact .text _
  · exact hinteger hn hx
  · exact hinteger hr hx
  · exact hinteger hp hx
  · exact hinteger hc hx
  · obtain ⟨s, -, rfl⟩ := Option.map_eq_some_iff.mp hx
    exact .text s

theorem readable_cryptoToJson {c : KeystoreCrypto} {depth : Nat}
    (h : Readable (depth + 1) (paramsToJson c.kdfParams)) :
    Readable (depth + 2) (cryptoToJson c) := by
  refine .object fun m hm => ?_
  simp only [cryptoMembers, List.mem_cons, List.not_mem_nil, or_false] at hm
  rcases hm with rfl | rfl | rfl | rfl | rfl | rfl
  · exact .text _
  · exact .text _
  · refine .object fun m hm => ?_
    obtain rfl := List.mem_singleton.mp hm
    exact .text _
  · exact .text _
  · exact h
  · exact .text _

/-- A keystore is nested three levels deep. -/
theorem readable_toJson {k : Keystore} (h : k.IsShort) (depth : Nat) :
    Readable (depth + 3) k.toJson := by
  have hcrypto : Readable (depth + 2) (cryptoToJson k.crypto) :=
    readable_cryptoToJson (readable_paramsToJson h.dklen h.n h.r h.p h.c)
  refine readable_setMembers fun f hf x hx => ?_
  simp only [keystoreFields, List.mem_cons, List.not_mem_nil, or_false] at hf
  rcases hf with rfl | rfl | rfl | rfl
  · cases hx
    exact .int h.version
  · obtain ⟨s, -, rfl⟩ := Option.map_eq_some_iff.mp hx
    exact .text s
  · obtain ⟨a, -, rfl⟩ := Option.map_eq_some_iff.mp hx
    exact .text _
  · cases hx
    exact hcrypto

theorem ofText_render {k : Keystore} (h : k.IsShort) : ofText k.render.toList = .ok k := by
  have hparse : Json.parse? textDepth k.toJson.print = some k.toJson :=
    Json.parse?_print (readable_toJson h 197)
  rw [render, String.toList_ofList, ofText, hparse]
  exact ofDatum_toJson k

/-- **A keystore is read back from its text, and from the bytes of its text.** -/
theorem parse_render {k : Keystore} (h : k.IsShort) :
    parse (.text k.render) = .ok k ∧ parse (.bytes (Bytes.ofText k.render)) = .ok k := by
  have htext : ofContent (.text k.render) = .ok k := ofText_render h
  have hbytes : ofContent (.bytes (Bytes.ofText k.render)) = .ok k := by
    simp only [ofContent, Datum.asByteString?, Datum.asBytes?, fromUTF8?_ofText]
    exact ofText_render h
  exact ⟨by rw [parse, htext], by rw [parse, hbytes]⟩

end Keystore
end Signet
