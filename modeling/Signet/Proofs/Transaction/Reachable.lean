import Signet.Datum.Reading
import Signet.Proofs.Signing.Words
import Signet.Proofs.Transaction.Signed
import Signet.Transaction.Session

/-! # Whatever is done to a transaction, it can be encoded

Transactions come from a validation or from the wire (`Entered`), and then builder
calls, assignments and signing change them, with arguments of any kind, failing or not.
`Draft.Sound` says that a transaction is valid and that nothing was replaced in it
without validation.  Every operation keeps both transactions of a session sound
(`Session.sound_apply`), and so does any sequence of operations (`Session.sound_after`).

Validity is what the encoder asks for, so that every transaction a session reaches has
a wire form, a hash and a digest to sign (`Session.encodes_after`).

Signing writes into a copy, past the validation; what is relied on of the curve library
is that the scalars of a signature have 32 bytes (`Curve.SignsWords`).
-/

namespace Signet

open Transaction (Field Setter)

/-! ## Where transactions come from -/

namespace Transaction

/-- A transaction that a validation accepted, or that was read off the wire. -/
inductive Entered : Transaction → Prop
  | validated {entries : List (String × Datum)} {tx : Transaction}
      (h : ofEntries entries = .ok tx) : Entered tx
  | decoded {d : Datum} {tx : Transaction} {n : Nat} (h : ofEncoded d = .ok (tx, n)) : Entered tx

theorem valid_of_decodeList {e : Envelope} {count : Nat} {item : Except Error (Rlp.Item × Nat)}
    {p : Transaction × Nat} (h : decodeList e.read count item = .ok p) : p.1.Valid := by
  obtain ⟨⟨x, n⟩, -, h⟩ := bind_eq_ok_iff.mp h
  obtain ⟨xs, -, h⟩ := bind_eq_ok_iff.mp h
  obtain ⟨t, ht, h⟩ := bind_eq_ok_iff.mp h
  cases h
  exact (items_of_read ht).1

/-- What is read from the parts of a list is valid. -/
theorem valid_of_ofParts {items : List Datum} {p : Transaction × Nat} (h : ofParts items = .ok p) :
    p.1.Valid := by
  unfold ofParts at h
  split at h
  · cases h
  next first rest =>
  obtain ⟨below, -, h⟩ := bind_eq_ok_iff.mp h
  split at h
  · exact valid_of_decodeList (e := .legacy) h
  split at h
  · obtain ⟨q, hq, rfl⟩ := map_eq_ok_iff.mp h
    have hvalid : q.1.Valid := valid_of_decodeList (e := .accessList) hq
    exact hvalid
  split at h
  · obtain ⟨q, hq, rfl⟩ := map_eq_ok_iff.mp h
    have hvalid : q.1.Valid := valid_of_decodeList (e := .dynamicFee) hq
    exact hvalid
  · obtain ⟨text, -, h⟩ := bind_eq_ok_iff.mp h
    cases h

/-- **Every transaction enters valid.** -/
theorem Entered.valid {tx : Transaction} (h : tx.Entered) : tx.Valid := by
  cases h with
  | validated h => exact valid_of_ofEntries h
  | decoded h =>
    obtain ⟨source, -, h⟩ := bind_eq_ok_iff.mp h
    cases source with
    | bytes b => exact (encode_of_decode h).2.2.2.1
    | parts items => exact valid_of_ofParts h

/-- The copy that recovery makes for the chain a signature tells is valid. -/
theorem valid_asSigned {tx : Transaction} (h : tx.Valid) (told : Option Nat) :
    (tx.asSigned told).Valid := by
  unfold asSigned
  split
  · refine { h with chainId := ?_ }
    cases told with
    | none => exact nonNegative_none
    | some c => exact nonNegative_natCast c
  · exact h

end Transaction

/-! ## Sound transactions -/

/-- A valid transaction in which nothing was replaced without validation. -/
structure Draft.Sound (d : Draft) : Prop where
  loose : d.loose = []
  valid : d.tx.Valid

namespace Draft

variable {d : Draft}

theorem Sound.eq (h : d.Sound) : d = ⟨d.tx, []⟩ := by
  obtain ⟨tx, loose⟩ := d
  obtain rfl : loose = [] := h.loose
  rfl

theorem Sound.settle (h : d.Sound) (fields : List Field) {tx : Transaction} (htx : tx.Valid) :
    (d.settle fields tx).Sound := by
  refine ⟨?_, htx⟩
  rw [Draft.settle, h.loose]
  rfl

/-- **Signing keeps a transaction sound.** -/
theorem Sound.sign {C : Curve} (hC : C.SignsWords) {k : SecretKey} {t : Draft} (h : d.Sound)
    (hsign : d.sign C k = .ok t) : t.Sound := by
  rw [h.eq] at hsign
  obtain ⟨tx, htx, hsign⟩ := bind_eq_ok_iff.mp hsign
  cases hsign
  obtain ⟨-, digest, sig, -, hsig, rfl⟩ := Transaction.sign_eq_ok_iff.mp htx
  obtain ⟨hr, hs⟩ := hC k digest sig hsig
  exact ⟨rfl, Transaction.valid_signedBy_of_lt h.valid C k hr hs⟩

end Draft

/-! ## Sessions -/

namespace Session

/-- A session in which both transactions are sound. -/
structure Sound (s : Session) : Prop where
  current : s.current.Sound
  saved : s.saved.Sound

variable {s : Session}

theorem sound_start {tx : Transaction} (h : tx.Valid) : (start tx).Sound :=
  ⟨⟨rfl, h⟩, ⟨rfl, h⟩⟩

theorem Sound.mutate (h : s.Sound) (f : Field) {d : Draft} (hd : d.Sound) :
    (s.mutate f d).Sound := by
  unfold Session.mutate
  split
  · exact ⟨hd, hd⟩
  · exact ⟨hd, h.saved⟩
  · exact ⟨hd, h.saved⟩

/-- **An assignment keeps a session sound**, whatever is assigned. -/
theorem Sound.assign (h : s.Sound) {name : String} {x : Datum} {t : Session}
    (ht : s.assign name x = .ok t) : t.Sound := by
  obtain ⟨tx, htx, ht⟩ := bind_eq_ok_iff.mp ht
  have hvalid := Transaction.valid_of_assign h.current.valid (Check.toExcept_eq_ok_iff.mp htx)
  split at ht
  next f _ =>
    cases ht
    exact h.mutate f (h.current.settle [f] hvalid)
  · cases ht
    exact h

/-- **A builder call keeps a session sound**, also one that fails halfway. -/
theorem Sound.build (h : s.Sound) (setter : Setter) (x : Datum) : (s.build setter x).1.Sound := by
  unfold Session.build
  cases setter.assignments x with
  | error e => exact h
  | ok l =>
    show (Transaction.assignInOrder (fun s f d => s.assign f.name d) s l).1.Sound
    induction l generalizing s with
    | nil => exact h
    | cons a l ih =>
      rw [Transaction.assignInOrder]
      cases hassign : s.assign a.1.name a.2 with
      | error e => exact h
      | ok t => exact ih (h.assign hassign)

/-- What is done to the current transaction. -/
inductive Op
  /-- a builder call -/
  | build (setter : Setter) (argument : Datum)
  /-- an assignment to the field of a name -/
  | assign (name : String) (argument : Datum)
  /-- signing, where the signed copy becomes current or is thrown away -/
  | sign (secret : Datum) (adopted : Bool)

/-- The session after an operation, which may fail. -/
def apply (C : Curve) (s : Session) : Op → Session
  | .build setter x => (s.build setter x).1
  | .assign name x =>
    match s.assign name x with
    | .ok t => t
    | .error _ => s
  | .sign secret adopted =>
    match s.sign C secret with
    | .ok d => if adopted then s.adopt d else s
    | .error _ => s

/-- The session after operations. -/
def after (C : Curve) (s : Session) (ops : List Op) : Session :=
  ops.foldl (apply C) s

/-- **Every operation keeps a session sound.** -/
theorem sound_apply {C : Curve} (hC : C.SignsWords) (h : s.Sound) (op : Op) :
    (s.apply C op).Sound := by
  cases op with
  | build setter x => exact h.build setter x
  | assign name x =>
    rw [apply]
    split
    next t ht => exact h.assign ht
    · exact h
  | sign secret adopted =>
    rw [apply]
    split
    next d hd =>
      obtain ⟨k, -, hd⟩ := bind_eq_ok_iff.mp hd
      split
      · exact ⟨h.current.sign hC hd, h.saved⟩
      · exact h
    · exact h

/-- **Every sequence of operations keeps a session sound.** -/
theorem sound_after {C : Curve} (hC : C.SignsWords) (h : s.Sound) (ops : List Op) :
    (s.after C ops).Sound := by
  induction ops generalizing s with
  | nil => exact h
  | cons op ops ih => exact ih (sound_apply hC h op)

/-! ## Main statement -/

/-- What the encoder makes of a sound transaction. -/
theorem encodes_of_sound {d : Draft} (h : d.Sound) :
    ∃ e w digest, d.tx.envelope? = some e ∧ d.encode = .ok w ∧
      d.hash = .ok (Keccak.digest w) ∧ d.signingHash = .ok digest ∧
      (w.length < Rlp.payloadCeiling → w.head?.bind Envelope.ofFirstByte? = some e) := by
  obtain ⟨e, he⟩ := Transaction.exists_envelope h.valid
  obtain ⟨digest, hdigest⟩ := Transaction.exists_signingHash h.valid
  have hencode : d.encode = .ok (e.typePrefix ++ Rlp.encodeList (d.tx.items e)) := by
    rw [h.eq, ← Transaction.encode_of_valid h.valid he]
    rfl
  have hsigning : d.signingHash = .ok digest := by
    rw [h.eq, ← hdigest]
    rfl
  refine ⟨e, _, digest, he, hencode, ?_, hsigning, fun hlen => ?_⟩
  · rw [Draft.hash, hencode]
    rfl
  · rw [List.length_append] at hlen
    exact Envelope.ofFirstByte?_append e
      (Rlp.fits_of_length_lt (Nat.lt_of_le_of_lt (Nat.le_add_left ..) hlen))

/-- **Whatever is done to a transaction, it can be encoded.**  A session starts with a
transaction that a validation accepted or that was read off the wire.  After any builder
calls, assignments and signings, with arguments of any kind and failing or not, both
transactions of the session hold nothing but validated values: the type is one of the
three, no integer is negative, `r` and `s` fit into 32 bytes, and addresses and keys have
their lengths.  So each has a wire form, a hash and a digest to sign, also in the copy
that recovery makes for a chain, and the wire form starts with the byte of its
envelope. -/
theorem encodes_after (C : Curve) (hC : C.SignsWords) (tx : Transaction) (htx : tx.Entered)
    (ops : List Op) :
    ∀ d ∈ [((start tx).after C ops).current, ((start tx).after C ops).saved],
      d.loose = [] ∧ d.tx.Valid ∧ d.tx.ty ∈ [0, 1, 2] ∧
      (∀ a, d.tx.sender = some a ∨ d.tx.recipient = some a → a.bytes.length = 20) ∧
      (∀ l ∈ d.tx.accessList, ∀ a ∈ l,
        a.address.bytes.length = 20 ∧ ∀ k ∈ a.storageKeys, k.bytes.length = 32) ∧
      (∀ told, ∃ digest, (d.tx.asSigned told).signingHash = .ok digest) ∧
      ∃ e w digest, d.tx.envelope? = some e ∧ d.encode = .ok w ∧
        d.hash = .ok (Keccak.digest w) ∧ d.signingHash = .ok digest ∧
        (w.length < Rlp.payloadCeiling → w.head?.bind Envelope.ofFirstByte? = some e) := by
  have hsound := sound_after hC (sound_start htx.valid) ops
  intro d hd
  have h : d.Sound := by
    rcases List.mem_pair.mp hd with rfl | rfl
    · exact hsound.current
    · exact hsound.saved
  refine ⟨h.loose, h.valid, Envelope.mem_of_ofCode?_isSome h.valid.envelope,
    fun a _ => a.length_bytes, fun l _ a _ => ⟨a.address.length_bytes, fun k _ => k.length_bytes⟩,
    fun told => Transaction.exists_signingHash (Transaction.valid_asSigned h.valid told),
    encodes_of_sound h⟩

/-- An assignment that fails, a builder call and a signing of the empty transaction leave
one that has a wire form. -/
theorem encodes_after_signed :
    ∃ w, ((start {}).after secp256k1 [.assign "nonce" (.int (-1)),
      .build (.field .chainId) (.text "0x5"),
      .sign (.bytes (List.replicate 32 1)) true]).current.encode = .ok w := by
  have haccepted : Transaction.ofEntries [] = .ok {} := rfl
  have hentered : Transaction.Entered {} := .validated haccepted
  obtain ⟨-, -, -, -, -, -, e, w, digest, -, hw, -⟩ :=
    encodes_after secp256k1 signsWords_secp256k1 {} hentered _ _ (List.mem_cons_self ..)
  exact ⟨w, hw⟩

end Session
end Signet
