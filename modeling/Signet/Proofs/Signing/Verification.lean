import Signet.Proofs.Datum.Failures
import Signet.Proofs.Transaction.Convention
import Signet.Proofs.Validation.Ended
import Signet.Transaction.Session

/-! # What verification answers

Verification says yes exactly if recovery gives the address of the key
(`verdict_eq_ok_true_iff`), and takes nearly every failure for a no.  What it does not
take for one is an overflow: a component of a signature that was put there without
validation, and that no 256 bits hold, ends verification where recovery reads it
(`LooseSignature.Overflows`), and so does data that is an integer, if it stands for
more zero bytes than there can be.  Nothing else does (`verification_answers`): a
signature that was validated, or is read from text or bytes, and a transaction always
get an answer.
-/

namespace Signet

/-- Whether verification takes a cause for a no. -/
def Error.IsRejected (e : Error) : Prop :=
  PrivateKey.isRejection (.error e) = true

/-- Whether verification of a transaction whose fields were replaced without validation
takes a cause for a no, or the cause is a size that nothing holds. -/
def Error.IsRejectedOrSize (e : Error) : Prop :=
  PrivateKey.rejectsTransaction (.error e) = true ∨ e = .overflow ∨ e = .memory

namespace Error

theorem IsRejected.of_refuses {e : Error} (h : e.refuses = true) : e.IsRejected := by
  simp [IsRejected, PrivateKey.isRejection, h]

theorem IsRejected.of_isDeclared {e : Error} (h : e.isDeclared = true) : e.IsRejected := by
  simp [IsRejected, PrivateKey.isRejection, h]

theorem IsArgument.isRejected {e : Error} (h : e.IsArgument) : e.IsRejected := by
  rcases h with h | h <;> simp [IsRejected, PrivateKey.isRejection, h]

theorem IsRejected.orSize {e : Error} (h : e.IsRejected) : e.IsRejectedOrSize := by
  refine Or.inl ?_
  rw [PrivateKey.rejectsTransaction, h]
  rfl

theorem IsArgumentOrSize.isRejectedOrSize {e : Error} (h : e.IsArgumentOrSize) :
    e.IsRejectedOrSize :=
  h.elim (fun h => h.isRejected.orSize) Or.inr

theorem IsArgumentOrOverflow.isRejectedOrSize {e : Error} (h : e.IsArgumentOrOverflow) :
    e.IsRejectedOrSize :=
  h.elim (fun h => h.isRejected.orSize) fun h => Or.inr (Or.inl h)

theorem isRejected_writing (n : Int) {e : Error} (h : e.IsRejected) : (e.writing n).IsRejected := by
  unfold writing
  split
  · exact h
  · exact IsRejected.of_refuses rfl

end Error

theorem FailsOnly.orSize {α : Type} {x : Except Error α} (h : FailsOnly Error.IsRejected x) :
    FailsOnly Error.IsRejectedOrSize x :=
  h.mono fun _ => Error.IsRejected.orSize

/-! ## The verdict -/

namespace PrivateKey

variable {k : PrivateKey} {rejects : Failure → Bool} {recovered : Except Failure Address}

/-- **Yes means recovered**: verification says yes exactly if recovery succeeds, and
with the address of the key. -/
theorem verdict_eq_ok_true_iff :
    k.verdict rejects recovered = .ok true ↔ recovered = .ok k.address := by
  unfold verdict
  cases recovered with
  | ok a => simp
  | error e =>
    simp only [reduceCtorEq, iff_false]
    split <;> simp

/-- Verification fails with what recovery fails with, unless that is taken for a no. -/
theorem verdict_eq_error_iff {e : Failure} :
    k.verdict rejects recovered = .error e ↔ recovered = .error e ∧ rejects e = false := by
  unfold verdict
  cases recovered with
  | ok a => simp
  | error e' =>
    simp only [Except.error.injEq]
    split
    next h =>
      constructor
      · intro he
        cases he
      · rintro ⟨rfl, hr⟩
        rw [h] at hr
        cases hr
    next h =>
      rw [Except.error.injEq]
      constructor
      · rintro rfl
        exact ⟨rfl, Bool.eq_false_iff.mpr h⟩
      · exact fun he => he.1

end PrivateKey

/-! ## Recovering an address -/

namespace Curve

variable (C : Curve)

theorem checkScalars_failsOnly (r s : Nat) : FailsOnly Error.IsRejected (checkScalars r s) := by
  unfold checkScalars
  split
  · exact failsOnly_ok _
  · exact failsOnly_error.mpr (Error.IsRejected.of_refuses rfl)

theorem recoverKey_failsOnly (r s : Nat) (odd : Bool) (digest : Hash) :
    FailsOnly Error.IsRejected (C.recoverKey r s odd digest) := by
  have hpoint : FailsOnly Error.IsRejected (checkPoint r) := by
    unfold checkPoint
    split
    · exact failsOnly_ok _
    · exact failsOnly_error.mpr (Error.IsRejected.of_isDeclared rfl)
  have hask : FailsOnly Error.IsRejected (C.askPublicKey r s odd digest) := by
    unfold askPublicKey
    split
    · exact failsOnly_ok _
    · exact failsOnly_error.mpr (Error.IsRejected.of_isDeclared rfl)
  exact (checkScalars_failsOnly r s).bind fun _ _ => hpoint.bind fun _ _ => hask

theorem scalarOfInt_failsOnly (n : Int) : FailsOnly (· = .overflow) (scalarOfInt n) := by
  unfold scalarOfInt
  split
  · exact failsOnly_ok _
  · exact failsOnly_error.mpr rfl

theorem recoveryIdOfLegacyV_failsOnly (v : Int) :
    FailsOnly Error.IsRejected (recoveryIdOfLegacyV v) := by
  unfold recoveryIdOfLegacyV
  split
  · exact failsOnly_ok _
  split
  · exact failsOnly_ok _
  · exact failsOnly_error.mpr (Error.isRejected_writing v (Error.IsRejected.of_refuses rfl))

end Curve

/-- The address of a signature over 32 bytes that fits is recovered or refused. -/
theorem Curve.recoverAddress_failsOnly (C : Curve) {r s : Int}
    (hr : 0 ≤ r ∧ r < uint256Ceiling) (hs : 0 ≤ s ∧ s < uint256Ceiling) (odd : Bool)
    (digest : Hash) : FailsOnly Error.IsRejected (C.recoverAddress r s odd digest) := by
  unfold recoverAddress scalarOfInt
  rw [if_pos hr, if_pos hs]
  exact (C.recoverKey_failsOnly _ _ odd digest).bind fun _ _ => failsOnly_pure _

theorem Hash.ofDigest_failsOnly (d : Datum) : FailsOnly Error.IsArgument (Hash.ofDigest d) := by
  unfold Hash.ofDigest
  refine d.size_failsOnly.bind fun n _ => ?_
  split
  · exact failsOnly_throw.mpr (Or.inl rfl)
  · exact Hash.ofDatum_failsOnly d

/-! ## Signatures with components of any kind -/

namespace LooseSignature

/-- Whether a component overflows where recovery looks at it: `v` comes first, and then,
where it tells a recovery id and there is a digest, `r` and `s` do. -/
def Overflows (digest : Except Error Hash) (sig : LooseSignature) : Prop :=
  sig.v.toInteger = .error .overflow ∨
    ∃ v id h, sig.v.toInteger = .ok v ∧ recoveryIdOfLegacyV v = .ok id ∧ digest = .ok h ∧
      (sig.r.toWord = .error .overflow ∨
        ∃ r, sig.r.toWord = .ok r ∧ sig.s.toWord = .error .overflow)

/-- A component that was validated is a word of 256 bits. -/
theorem toWord_hexNumber {n : Nat} (h : n < uint256Ceiling) :
    (Datum.hexNumber n).toWord = .ok n := by
  have hinteger : (Datum.hexNumber n).toInteger = .ok (n : Int) := rfl
  rw [Datum.toWord, hinteger, ok_bind, Curve.scalarOfInt_natCast h]

/-- The components of a signature that was validated do not overflow. -/
theorem not_overflows_ofSignature (digest : Except Error Hash) (sig : Signature) :
    ¬ (ofSignature sig).Overflows digest := by
  rintro (h | ⟨_, _, _, -, -, -, h | ⟨_, -, h⟩⟩)
  · cases h
  · cases (toWord_hexNumber sig.r_lt).symm.trans h
  · cases (toWord_hexNumber sig.s_lt).symm.trans h

end LooseSignature

namespace Curve

variable (C : Curve)

/-- Recovery reads the components one after the other, each as a word of 256 bits. -/
theorem recoverLoose_eq (digest : Except Error Hash) (sig : LooseSignature) :
    C.recoverLoose digest sig = (do
      let id ← recoveryIdOfLegacyV (← sig.v.toInteger)
      let h ← digest
      let r ← sig.r.toWord
      let s ← sig.s.toWord
      return PublicKey.address (← C.recoverKey r s (id == 1) h)) := by
  unfold recoverLoose recoverAddress Datum.toWord
  cases sig.v.toInteger with
  | error e => rfl
  | ok v =>
    simp only [ok_bind]
    cases recoveryIdOfLegacyV v with
    | error e => rfl
    | ok id =>
      cases digest with
      | error e => rfl
      | ok h =>
        cases sig.r.toInteger with
        | error e => rfl
        | ok r =>
          simp only [ok_bind]
          cases scalarOfInt r with
          | error e => rfl
          | ok r' =>
            cases sig.s.toInteger with
            | error e => rfl
            | ok s => rfl

theorem toWord_failsOnly (d : Datum) : FailsOnly Error.IsArgumentOrOverflow d.toWord :=
  d.toInteger_failsOnly.bind fun n _ => (scalarOfInt_failsOnly n).mono fun _ => Or.inr

/-- Recovery fails with what verification takes for a no, or with an overflow. -/
theorem recoverLoose_failsOnly {digest : Except Error Hash}
    (hd : FailsOnly Error.IsRejected digest) (sig : LooseSignature) :
    FailsOnly (fun e => e.IsRejected ∨ e = .overflow) (C.recoverLoose digest sig) := by
  have hargument : ∀ e : Error, e.IsArgumentOrOverflow → e.IsRejected ∨ e = .overflow :=
    fun _ h => h.imp_left Error.IsArgument.isRejected
  rw [recoverLoose_eq]
  refine (sig.v.toInteger_failsOnly.mono hargument).bind fun v _ => ?_
  refine ((recoveryIdOfLegacyV_failsOnly v).mono fun _ => Or.inl).bind fun id _ => ?_
  refine (hd.mono fun _ => Or.inl).bind fun h _ => ?_
  refine ((toWord_failsOnly sig.r).mono hargument).bind fun r _ => ?_
  refine ((toWord_failsOnly sig.s).mono hargument).bind fun s _ => ?_
  exact ((C.recoverKey_failsOnly r s _ h).mono fun _ => Or.inl).bind fun _ _ => failsOnly_pure _

/-- **Recovery overflows exactly where a component does.** -/
theorem recoverLoose_eq_overflow_iff {digest : Except Error Hash}
    (hd : FailsOnly Error.IsRejected digest) {sig : LooseSignature} :
    C.recoverLoose digest sig = .error .overflow ↔ sig.Overflows digest := by
  have hnot : ∀ {α : Type} {x : Except Error α}, FailsOnly Error.IsRejected x →
      x ≠ .error .overflow := by
    intro α x hx h
    cases hx _ h
  rw [recoverLoose_eq]
  constructor
  · intro h
    obtain h | ⟨v, hv, h⟩ := bind_eq_error_iff.mp h
    · exact Or.inl h
    obtain ⟨id, hid, h⟩ := (bind_eq_error_iff.mp h).resolve_left
      (hnot (recoveryIdOfLegacyV_failsOnly v))
    obtain ⟨digest', hdigest, h⟩ := (bind_eq_error_iff.mp h).resolve_left (hnot hd)
    refine Or.inr ⟨v, id, digest', hv, hid, hdigest, ?_⟩
    obtain h | ⟨r, hr, h⟩ := bind_eq_error_iff.mp h
    · exact Or.inl h
    refine Or.inr ⟨r, hr, ?_⟩
    obtain h | ⟨s, hs, h⟩ := bind_eq_error_iff.mp h
    · exact h
    obtain ⟨key, -, h⟩ := (bind_eq_error_iff.mp h).resolve_left
      (hnot (C.recoverKey_failsOnly r s _ _))
    cases h
  · rintro (hv | ⟨v, id, digest', hv, hid, rfl, hr | ⟨r, hr, hs⟩⟩)
    · rw [hv, error_bind]
    · simp only [hv, hid, hr, ok_bind, error_bind]
    · simp only [hv, hid, hr, hs, ok_bind, error_bind]

end Curve

/-! ## Digests and messages -/

namespace PrivateKey

variable (C : Curve) (k : PrivateKey)

theorem signatureOf_failsOnly (d : Datum) : FailsOnly Error.IsArgument (signatureOf d) := by
  unfold signatureOf
  split
  · exact failsOnly_ok _
  · refine FailsOnly.map _ ?_
    unfold Signature.ofHexText
    exact (failsOnly_argument_mapError (fun _ => rfl) _).bind fun _ _ =>
      failsOnly_argument_mapError (fun _ => rfl) _
  split
  · exact (failsOnly_argument_mapError (fun _ => rfl) _).map _
  · exact failsOnly_throw.mpr (Or.inr rfl)

/-- A value that is a signature is one as it is; what is read from text or bytes was
validated. -/
theorem of_signatureOf {d : Datum} {sig : LooseSignature} (h : signatureOf d = .ok sig) :
    (∃ v r s, d = .signature v r s ∧ sig = ⟨v, r, s⟩) ∨
      ∃ sig' : Signature, sig = .ofSignature sig' := by
  unfold signatureOf at h
  split at h
  next v r s =>
    cases h
    exact Or.inl ⟨v, r, s, rfl, rfl⟩
  · obtain ⟨sig', -, rfl⟩ := map_eq_ok_iff.mp h
    exact Or.inr ⟨sig', rfl⟩
  split at h
  · obtain ⟨sig', -, rfl⟩ := map_eq_ok_iff.mp h
    exact Or.inr ⟨sig', rfl⟩
  · cases h

/-- The signature that is looked at overflows only if it is a value that was not
validated. -/
theorem overflows_signatureOf_iff {digest : Except Error Hash} {signature : Datum} :
    (∃ sig, signatureOf signature = .ok sig ∧ sig.Overflows digest) ↔
      ∃ v r s, signature = .signature v r s ∧ LooseSignature.Overflows digest ⟨v, r, s⟩ := by
  constructor
  · rintro ⟨sig, hsig, hover⟩
    obtain ⟨v, r, s, hd, rfl⟩ | ⟨sig', rfl⟩ := of_signatureOf hsig
    · exact ⟨v, r, s, hd, hover⟩
    · exact absurd hover (LooseSignature.not_overflows_ofSignature digest sig')
  · rintro ⟨v, r, s, rfl, hover⟩
    exact ⟨_, rfl, hover⟩

/-- What verification of a digest recovers. -/
def recovered (digest : Except Error Hash) (signature : Datum) : Except Failure Address := do
  let sig ← signatureOf signature
  C.recoverLoose digest sig

theorem verifyHash_eq (digest signature : Datum) :
    verifyHash C k digest signature =
      k.verdict isRejection (recovered C (Hash.ofDigest digest) signature) := rfl

/-- Data with bytes is verified as the digest of its message. -/
theorem verifyMessage_of_ok {data signature : Datum} {b : Bytes} (h : data.rawBytes = .ok b) :
    verifyMessage C k data signature =
      k.verdict isRejection (recovered C (.ok (PersonalMessage.digest b)) signature) := by
  unfold verifyMessage recovered
  rw [h]
  rfl

/-- Data without bytes fails as they do, unless the signature is no good either. -/
theorem verifyMessage_of_error {data signature : Datum} {e : Error}
    (h : data.rawBytes = .error e) :
    verifyMessage C k data signature =
      k.verdict isRejection (do
        let _ ← signatureOf signature
        throw (.error e)) := by
  unfold verifyMessage
  rw [h]
  rfl

theorem recovered_eq_ok_iff {digest : Except Error Hash} {signature : Datum} {a : Address} :
    recovered C digest signature = .ok a ↔
      ∃ sig, signatureOf signature = .ok sig ∧ C.recoverLoose digest sig = .ok a := by
  unfold recovered
  rw [bind_eq_ok_iff]
  constructor
  · rintro ⟨sig, hsig, h⟩
    exact ⟨sig, mapError_eq_ok_iff.mp hsig, mapError_eq_ok_iff.mp h⟩
  · rintro ⟨sig, hsig, h⟩
    exact ⟨sig, mapError_eq_ok_iff.mpr hsig, mapError_eq_ok_iff.mpr h⟩

theorem not_isRejected_of_rejects_eq_false {e : Error} (h : isRejection (.error e) = false) :
    ¬ e.IsRejected := by
  intro he
  rw [he] at h
  cases h

/-- A signature that cannot be read is a no. -/
theorem signatureOf_ne_error {signature : Datum} {e : Failure} (he : isRejection e = false) :
    (signatureOf signature).mapError Failure.error ≠ .error e := by
  intro h
  obtain ⟨e', hsig, rfl⟩ := mapError_eq_error_iff.mp h
  exact not_isRejected_of_rejects_eq_false he (signatureOf_failsOnly _ _ hsig).isRejected

/-- **What is no answer is an overflow** of a component that was put into the signature
without validation. -/
theorem verdict_recovered_eq_error_iff {digest : Except Error Hash}
    (hd : FailsOnly Error.IsRejected digest) {signature : Datum} {e : Failure} :
    k.verdict isRejection (recovered C digest signature) = .error e ↔
      e = .error .overflow ∧
        ∃ v r s, signature = .signature v r s ∧ LooseSignature.Overflows digest ⟨v, r, s⟩ := by
  rw [verdict_eq_error_iff, ← overflows_signatureOf_iff]
  constructor
  · rintro ⟨h, he⟩
    obtain ⟨sig, hsig, h⟩ := (bind_eq_error_iff.mp h).resolve_left (signatureOf_ne_error he)
    obtain ⟨e', hrecover, rfl⟩ := mapError_eq_error_iff.mp h
    have hfails := C.recoverLoose_failsOnly hd sig e' hrecover
    obtain rfl : e' = .overflow :=
      hfails.resolve_left (not_isRejected_of_rejects_eq_false he)
    exact ⟨rfl, sig, mapError_eq_ok_iff.mp hsig, (C.recoverLoose_eq_overflow_iff hd).mp hrecover⟩
  · rintro ⟨rfl, sig, hsig, hover⟩
    refine ⟨bind_eq_error_iff.mpr (Or.inr ⟨sig, mapError_eq_ok_iff.mpr hsig, ?_⟩), rfl⟩
    exact mapError_eq_error_iff.mpr ⟨_, (C.recoverLoose_eq_overflow_iff hd).mpr hover, rfl⟩

theorem ofDigest_isRejected (digest : Datum) :
    FailsOnly Error.IsRejected (Hash.ofDigest digest) :=
  (Hash.ofDigest_failsOnly digest).mono fun _ => Error.IsArgument.isRejected

/-- **Verification of a message fails** with an overflow of a component, or with data
that stands for too many bytes. -/
theorem verifyMessage_eq_error_iff {data signature : Datum} {e : Failure} :
    verifyMessage C k data signature = .error e ↔
      (∃ e' n, e = .error e' ∧ (e' = .overflow ∨ e' = .memory) ∧ data.index? = some n ∧
        Datum.zerosOf n = .error e' ∧ ∃ sig, signatureOf signature = .ok sig) ∨
      (e = .error .overflow ∧ ∃ b v r s, data.rawBytes = .ok b ∧ signature = .signature v r s ∧
        LooseSignature.Overflows (.ok (PersonalMessage.digest b)) ⟨v, r, s⟩) := by
  have hsize : ∀ {e' : Error}, e' = .overflow ∨ e' = .memory →
      (data.rawBytes = .error e' ↔ ∃ n, data.index? = some n ∧ Datum.zerosOf n = .error e') := by
    rintro e' h
    refine Datum.rawBytes_eq_error_iff ?_
    rintro (he | he) <;> rcases h with rfl | rfl <;> cases he
  cases hraw : data.rawBytes with
  | ok b =>
    rw [verifyMessage_of_ok C k hraw, verdict_recovered_eq_error_iff C k (failsOnly_ok _)]
    constructor
    · rintro ⟨rfl, v, r, s, rfl, hover⟩
      exact Or.inr ⟨rfl, b, v, r, s, rfl, rfl, hover⟩
    · rintro (⟨_, n, -, he, hn, hzeros, -⟩ | ⟨rfl, _, v, r, s, h, rfl, hover⟩)
      · have h := (hsize he).mpr ⟨n, hn, hzeros⟩
        rw [hraw] at h
        cases h
      · cases h
        exact ⟨rfl, v, r, s, rfl, hover⟩
  | error e₀ =>
    rw [verifyMessage_of_error C k hraw, verdict_eq_error_iff]
    constructor
    · rintro ⟨h, he⟩
      obtain ⟨sig, hsig, h⟩ := (bind_eq_error_iff.mp h).resolve_left (signatureOf_ne_error he)
      cases h
      have hlarge := (Datum.rawBytes_failsOnly data e₀ hraw).resolve_left fun h =>
        not_isRejected_of_rejects_eq_false he h.isRejected
      obtain ⟨n, hn, hzeros⟩ := (hsize hlarge).mp hraw
      exact Or.inl ⟨e₀, n, rfl, hlarge, hn, hzeros, sig, mapError_eq_ok_iff.mp hsig⟩
    · rintro (⟨e', n, rfl, he, hn, hzeros, sig, hsig⟩ | ⟨-, _, _, _, _, h, -⟩)
      · have h := (hsize he).mpr ⟨n, hn, hzeros⟩
        rw [hraw] at h
        cases h
        refine ⟨bind_eq_error_iff.mpr (Or.inr ⟨sig, mapError_eq_ok_iff.mpr hsig, rfl⟩), ?_⟩
        rcases he with rfl | rfl <;> rfl
      · cases h

theorem verifyMessage_eq_ok_true_iff {data signature : Datum} :
    verifyMessage C k data signature = .ok true ↔
      ∃ b sig, data.rawBytes = .ok b ∧ signatureOf signature = .ok sig ∧
        C.recoverLoose (.ok (PersonalMessage.digest b)) sig = .ok k.address := by
  cases hraw : data.rawBytes with
  | ok b =>
    rw [verifyMessage_of_ok C k hraw, verdict_eq_ok_true_iff, recovered_eq_ok_iff]
    constructor
    · rintro ⟨sig, hsig, h⟩
      exact ⟨b, sig, rfl, hsig, h⟩
    · rintro ⟨_, sig, hb, hsig, h⟩
      cases hb
      exact ⟨sig, hsig, h⟩
  | error e =>
    rw [verifyMessage_of_error C k hraw, verdict_eq_ok_true_iff, bind_eq_ok_iff]
    constructor
    · rintro ⟨_, -, h⟩
      cases h
    · rintro ⟨_, _, h, -⟩
      cases h

end PrivateKey

/-! ## Transactions -/

namespace Transaction

theorem collect_failsOnly {P : Error → Prop} {xs : List (Except Error Rlp.Item)}
    (h : ∀ x ∈ xs, FailsOnly P x) : FailsOnly P (collect xs) := by
  induction xs with
  | nil => exact failsOnly_ok _
  | cons x r ih =>
    cases x with
    | error e =>
      rw [collect]
      exact failsOnly_error.mpr (h _ (List.mem_cons_self ..) e rfl)
    | ok x =>
      rw [collect]
      exact (ih fun y hy => h y (List.mem_cons_of_mem _ hy)).map _

/-- Values have no encoding only for an integer that is negative. -/
theorem encodeValues_failsOnly (values : List WireValue) :
    FailsOnly Error.IsRejected (encodeValues values) := by
  refine (collect_failsOnly fun x hx => ?_).map _
  obtain ⟨w, -, rfl⟩ := List.mem_map.mp hx
  cases w with
  | bytes b => exact failsOnly_ok _
  | accessList l => exact failsOnly_ok _
  | integer i =>
    rw [WireValue.item, integerItem]
    split
    · exact failsOnly_ok _
    · exact failsOnly_error.mpr (Error.isRejected_writing i (Error.IsRejected.of_refuses rfl))

theorem signingHash_failsOnly (tx : Transaction) : FailsOnly Error.IsRejected tx.signingHash := by
  refine FailsOnly.map _ ?_
  unfold signingPreImage
  split
  · exact (encodeValues_failsOnly _).map _
  · exact failsOnly_error.mpr (Error.isRejected_writing _ (Error.IsRejected.of_refuses rfl))

/-- A component on a transaction that is none is a fault. -/
theorem abortsOnly_checkComponent {P : Error → Prop} (name : String) (n : Int) :
    Check.AbortsOnly P (checkComponent name n) := by
  refine Check.AbortsOnly.under _ ?_
  split
  · exact Check.abortsOnly_ok _
  · exact Check.abortsOnly_fault _

theorem recoveryIdOfUntypedV_failsOnly (v : Nat) :
    FailsOnly Error.IsRejected (recoveryIdOfUntypedV v) := by
  unfold recoveryIdOfUntypedV
  split
  · exact failsOnly_ok _
  · exact (Curve.recoveryIdOfLegacyV_failsOnly v).map _

theorem recoveryIdOfTypedV_failsOnly (v : Nat) :
    FailsOnly Error.IsRejected (recoveryIdOfTypedV v) := by
  unfold recoveryIdOfTypedV
  split
  · exact failsOnly_error.mpr (Error.IsRejected.of_refuses rfl)
  · exact failsOnly_ok _

theorem recoveryIdOfV_failsOnly (tx : Transaction) (v : Nat) :
    FailsOnly Error.IsRejected (tx.recoveryIdOfV v) := by
  unfold recoveryIdOfV
  split
  · split
    · split
      · exact failsOnly_error.mpr
          (Error.isRejected_writing _ (Error.IsRejected.of_isDeclared rfl))
      · exact recoveryIdOfUntypedV_failsOnly v
    · exact recoveryIdOfUntypedV_failsOnly v
  · exact recoveryIdOfTypedV_failsOnly v

/-- Whether verification takes a failure for a no. -/
abbrev IsNo (f : Failure) : Prop :=
  PrivateKey.isRejection f = true

theorem signature?_failsOnly (tx : Transaction) : FailsOnly IsNo tx.signature? := by
  unfold signature?
  split
  · refine Check.AbortsOnly.toExcept (P := fun _ => False) ?_ (fun _ => rfl) nofun
    refine Check.AbortsOnly.seq (Check.AbortsOnly.seq (Check.AbortsOnly.map _ ?_) ?_) ?_ <;>
      exact abortsOnly_checkComponent _ _
  · exact failsOnly_ok _

theorem recoveryId_failsOnly (tx : Transaction) : FailsOnly IsNo tx.recoveryId := by
  unfold recoveryId
  refine tx.signature?_failsOnly.bind fun sig _ => ?_
  split
  · split
    · exact failsOnly_throw.mpr rfl
    · exact FailsOnly.lift (tx.recoveryIdOfV_failsOnly _)
  · exact failsOnly_throw.mpr rfl

/-- A transaction whose recovery id can be told carries `r` and `s` that fit. -/
theorem fits_of_recoveryId {tx : Transaction} {p : Nat × Option Nat}
    (h : tx.recoveryId = .ok p) :
    ∃ sig : Signature, tx.r = some (sig.r : Int) ∧ tx.s = some (sig.s : Int) := by
  obtain ⟨sig, hsig, h⟩ := bind_eq_ok_iff.mp h
  cases sig with
  | none => cases h
  | some sig =>
    obtain ⟨-, hr, hs⟩ := signature?_eq_ok_iff.mp hsig
    exact ⟨sig, hr, hs⟩

/-- **Recovering the signer of a transaction fails only with what verification takes
for a no**, whatever integers stand in the transaction. -/
theorem recover_failsOnly (C : Curve) (tx : Transaction) : FailsOnly IsNo (tx.recover C) := by
  unfold recover
  refine tx.recoveryId_failsOnly.bind fun p hp => ?_
  obtain ⟨sig, hr, hs⟩ := fits_of_recoveryId hp
  have hasSigned : (tx.asSigned p.2).r = tx.r ∧ (tx.asSigned p.2).s = tx.s := by
    unfold asSigned
    split <;> exact ⟨rfl, rfl⟩
  simp only [hasSigned, hr, hs]
  refine (FailsOnly.lift (signingHash_failsOnly _)).bind fun digest _ => ?_
  refine FailsOnly.lift (C.recoverAddress_failsOnly ?_ ?_ _ _)
  · exact ⟨Int.natCast_nonneg _, Int.ofNat_lt.mpr sig.r_lt⟩
  · exact ⟨Int.natCast_nonneg _, Int.ofNat_lt.mpr sig.s_lt⟩

end Transaction

/-! ## Transactions with fields of any kind -/

namespace Draft

theorem accessTuples_failsOnly (items : List Datum) :
    FailsOnly Error.IsRejectedOrSize (accessTuples items) := by
  induction items with
  | nil => exact failsOnly_ok _
  | cons x r ih =>
    unfold accessTuples
    split
    · exact failsOnly_ok _
    next heq =>
      cases heq
      exact ih.map _
    · exact failsOnly_error.mpr (Or.inl rfl)

theorem toInteger_failsOnly (d : Datum) : FailsOnly Error.IsRejectedOrSize d.toInteger :=
  d.toInteger_failsOnly.mono fun _ => Error.IsArgumentOrOverflow.isRejectedOrSize

theorem wireValue_failsOnly (d : Draft) (f : Transaction.Field) :
    FailsOnly Error.IsRejectedOrSize (d.wireValue f) := by
  have hraw : ∀ x : Datum, FailsOnly Error.IsRejectedOrSize (x.rawBytes.map Transaction.WireValue.bytes) :=
    fun x => (x.rawBytes_failsOnly.mono fun _ => Error.IsArgumentOrSize.isRejectedOrSize).map _
  unfold wireValue
  simp only
  split
  · exact failsOnly_ok _
  · exact failsOnly_ok _
  · exact hraw _
  · exact hraw _
  · exact hraw _
  · exact failsOnly_ok _
  · refine ((Datum.parts_failsOnly _).mono fun _ h => h.isRejected.orSize).bind fun _ _ => ?_
    exact (accessTuples_failsOnly _).bind fun _ _ => failsOnly_pure _
  · exact failsOnly_ok _
  · exact (toInteger_failsOnly _).map _

theorem wireValues_failsOnly (d : Draft) (fields : List Transaction.Field) :
    FailsOnly Error.IsRejectedOrSize (d.wireValues fields) :=
  FailsOnly.mapM d.wireValue_failsOnly fields

theorem signingHash_failsOnly (d : Draft) :
    FailsOnly Error.IsRejectedOrSize d.signingHash := by
  have hunsupported : FailsOnly Error.IsRejectedOrSize (d.unsupported : Except Error Bytes) := by
    unfold unsupported
    refine ((Datum.display_failsOnly _).mono fun _ h => h.isRejected.orSize).bind fun _ _ => ?_
    exact failsOnly_throw.mpr (Error.IsRejected.of_refuses rfl).orSize
  have hprefix : FailsOnly Error.IsRejectedOrSize d.typePrefix := by
    unfold typePrefix
    split
    · exact failsOnly_ok _
    · exact (Datum.bytesOfItems_failsOnly _).mono fun _ h => h.isRejected.orSize
  have hreplay : ∀ e, FailsOnly Error.IsRejectedOrSize (d.replayValues e) := by
    intro e
    unfold replayValues
    split
    · exact (toInteger_failsOnly _).bind fun _ _ => failsOnly_pure _
    · exact failsOnly_pure _
  refine FailsOnly.map _ ?_
  unfold signingPreImage
  split
  · intro e he
    exact (Transaction.signingHash_failsOnly d.tx).orSize e (map_eq_error_iff.mpr he)
  split
  · refine (d.wireValues_failsOnly _).bind fun values _ => ?_
    refine (hreplay _).bind fun replay _ => ?_
    refine hprefix.bind fun head _ => ?_
    exact (Transaction.encodeValues_failsOnly _).orSize.bind fun _ _ => failsOnly_pure _
  · exact hunsupported

/-- Whether verification of a draft takes a failure for a no, or the failure is a size
that nothing holds. -/
abbrev IsNoOrSize (f : Failure) : Prop :=
  PrivateKey.rejectsTransaction f = true ∨ f = .error .overflow ∨ f = .error .memory

theorem isNoOrSize_of_isNo {f : Failure} (h : Transaction.IsNo f) : IsNoOrSize f := by
  refine Or.inl ?_
  rw [PrivateKey.rejectsTransaction, h]
  rfl

theorem lift_failsOnly {α : Type} {x : Except Error α} (h : FailsOnly Error.IsRejectedOrSize x) :
    FailsOnly IsNoOrSize (liftM x : Except Failure α) := by
  refine FailsOnly.lift (h.mono fun e he => ?_)
  rcases he with he | rfl | rfl
  · exact Or.inl he
  · exact Or.inr (Or.inl rfl)
  · exact Or.inr (Or.inr rfl)

/-- A component of any kind is a fault, or of a kind that no component has. -/
theorem abortsOnly_componentOf (d : Datum) :
    Check.AbortsOnly Error.IsArgument (Signature.componentOf d) := by
  refine Check.abortsOnly_ofExcept (FailsOnly.mono (P := Error.IsArgument) ?_ fun _ => Or.inr)
  refine d.toNumber_failsOnly.bind fun n _ => ?_
  split
  · exact failsOnly_pure _
  · exact failsOnly_throw.mpr (Or.inl rfl)

theorem signature?_failsOnly (d : Draft) : FailsOnly IsNoOrSize d.signature? := by
  unfold signature?
  split
  · exact failsOnly_ok _
  · exact failsOnly_ok _
  · exact failsOnly_ok _
  · refine Check.AbortsOnly.toExcept (P := Error.IsArgument) (Check.AbortsOnly.map _ ?_)
      (fun _ => Or.inl rfl) fun e h => isNoOrSize_of_isNo h.isRejected
    refine Check.AbortsOnly.seq (Check.AbortsOnly.seq (Check.AbortsOnly.map _ ?_) ?_) ?_ <;>
      exact Check.abortsOnly_withDefault abortsOnly_componentOf _ _ _ _

theorem recoveryIdOfV_failsOnly (d : Draft) (v : Nat) :
    FailsOnly Error.IsRejectedOrSize (d.recoveryIdOfV v) := by
  unfold recoveryIdOfV
  split
  · exact (Transaction.recoveryIdOfTypedV_failsOnly v).orSize
  · refine (Transaction.recoveryIdOfUntypedV_failsOnly v).orSize.bind fun p _ => ?_
    obtain ⟨id, told⟩ := p
    cases told with
    | none => exact failsOnly_pure _
    | some c =>
      simp only
      split
      · refine (toInteger_failsOnly _).bind fun n _ => ?_
        exact failsOnly_throw.mpr
          (Error.isRejected_writing n (Error.IsRejected.of_isDeclared rfl)).orSize
      · exact failsOnly_pure _

theorem recoveryId_failsOnly (d : Draft) : FailsOnly IsNoOrSize d.recoveryId := by
  unfold recoveryId
  split
  · exact d.tx.recoveryId_failsOnly.mono fun _ => isNoOrSize_of_isNo
  · refine d.signature?_failsOnly.bind fun sig _ => ?_
    split
    · split
      · exact failsOnly_throw.mpr (Or.inl rfl)
      · exact lift_failsOnly (d.recoveryIdOfV_failsOnly _)
    · exact failsOnly_throw.mpr (Or.inl rfl)

/-- **Recovering the signer of a transaction whose fields were replaced without
validation** fails with what verification takes for a no, or with a size that nothing
holds. -/
theorem recover_failsOnly (C : Curve) (d : Draft) : FailsOnly IsNoOrSize (d.recover C) := by
  unfold recover
  split
  · exact (d.tx.recover_failsOnly C).mono fun _ => isNoOrSize_of_isNo
  · refine d.recoveryId_failsOnly.bind fun p _ => ?_
    refine (lift_failsOnly (signingHash_failsOnly _)).bind fun digest _ => ?_
    refine (lift_failsOnly (toInteger_failsOnly _)).bind fun r _ => ?_
    refine (lift_failsOnly (toInteger_failsOnly _)).bind fun s _ => ?_
    refine lift_failsOnly ?_
    have hscalar : ∀ n, FailsOnly Error.IsRejectedOrSize (Curve.scalarOfInt n) := fun n =>
      (Curve.scalarOfInt_failsOnly n).mono fun _ h => Or.inr (Or.inl h)
    refine (hscalar r).bind fun _ _ => (hscalar s).bind fun _ _ => ?_
    exact (C.recoverKey_failsOnly _ _ _ digest).orSize.bind fun _ _ => failsOnly_pure _

end Draft

/-! ## Main statements -/

namespace PrivateKey

variable (C : Curve) (k : PrivateKey)

/-- **Verification answers.**  Of a digest, of a message and of a transaction it says
yes exactly if recovery gives the address of the key.  It fails only as follows: of
a digest, if a component that was put into the signature without validation overflows
where recovery reads it; of a message, also if the data is an integer that stands for
more bytes than there can be; of a transaction with its fields as they were validated,
and of a value that is none, never; and of a transaction with fields that were replaced
without validation, with an overflow or for want of memory. -/
theorem verification_answers :
    (∀ digest signature : Datum,
      (verifyHash C k digest signature = .ok true ↔
        ∃ sig, signatureOf signature = .ok sig ∧
          C.recoverLoose (Hash.ofDigest digest) sig = .ok k.address) ∧
      ∀ e, verifyHash C k digest signature = .error e ↔
        e = .error .overflow ∧ ∃ v r s, signature = .signature v r s ∧
          LooseSignature.Overflows (Hash.ofDigest digest) ⟨v, r, s⟩) ∧
    (∀ data signature : Datum,
      (verifyMessage C k data signature = .ok true ↔
        ∃ b sig, data.rawBytes = .ok b ∧ signatureOf signature = .ok sig ∧
          C.recoverLoose (.ok (PersonalMessage.digest b)) sig = .ok k.address) ∧
      ∀ e, verifyMessage C k data signature = .error e ↔
        (∃ e' n, e = .error e' ∧ (e' = .overflow ∨ e' = .memory) ∧ data.index? = some n ∧
          Datum.zerosOf n = .error e' ∧ ∃ sig, signatureOf signature = .ok sig) ∨
        (e = .error .overflow ∧ ∃ b v r s, data.rawBytes = .ok b ∧ signature = .signature v r s ∧
          LooseSignature.Overflows (.ok (PersonalMessage.digest b)) ⟨v, r, s⟩)) ∧
    (∀ tx : Datum,
      (verifyTransaction C k tx = .ok true ↔ C.recoverTransactionOf tx = .ok k.address) ∧
      ∃ answer, verifyTransaction C k tx = .ok answer) ∧
    ∀ s : Session,
      (s.verify C k = .ok true ↔ s.current.recover C = .ok k.address) ∧
      ((∃ answer, s.verify C k = .ok answer) ∨ s.verify C k = .error (.error .overflow) ∨
        s.verify C k = .error (.error .memory)) := by
  refine ⟨fun digest signature => ⟨?_, fun e => ?_⟩,
    fun data signature => ⟨verifyMessage_eq_ok_true_iff C k, fun e =>
      verifyMessage_eq_error_iff C k⟩,
    fun tx => ⟨verdict_eq_ok_true_iff, ?_⟩, fun s => ⟨verdict_eq_ok_true_iff, ?_⟩⟩
  · rw [verifyHash_eq, verdict_eq_ok_true_iff, recovered_eq_ok_iff]
  · rw [verifyHash_eq, verdict_recovered_eq_error_iff C k (ofDigest_isRejected digest)]
  · cases h : verifyTransaction C k tx with
    | ok answer => exact ⟨answer, rfl⟩
    | error e =>
      obtain ⟨hrecover, he⟩ := verdict_eq_error_iff.mp h
      have hno : rejectsTransaction e = true := by
        unfold Curve.recoverTransactionOf at hrecover
        split at hrecover
        next tx =>
          rw [rejectsTransaction, tx.recover_failsOnly C e hrecover]
          rfl
        · cases hrecover
          rfl
      rw [hno] at he
      cases he
  · cases h : s.verify C k with
    | ok answer => exact Or.inl ⟨answer, rfl⟩
    | error e =>
      obtain ⟨hrecover, hrejects⟩ := verdict_eq_error_iff.mp h
      rcases s.current.recover_failsOnly C e hrecover with hno | rfl | rfl
      · rw [hno] at hrejects
        cases hrejects
      · exact Or.inr (Or.inl rfl)
      · exact Or.inr (Or.inr rfl)

/-- A signature with an `r` of 257 bits, which no validation accepts, ends verification
of a digest without an answer. -/
theorem verifyHash_fails_of_wide_r :
    verifyHash secp256k1 (ofSecret secp256k1 .ofOnes) (.bytes (Bytes.zeros 32))
        (.signature (.hexNumber 27) (.hexNumber uint256Ceiling) (.hexNumber 1)) =
      .error (.error .overflow) ∧
    ¬ ∃ answer, verifyHash secp256k1 (ofSecret secp256k1 .ofOnes) (.bytes (Bytes.zeros 32))
        (.signature (.hexNumber 27) (.hexNumber uint256Ceiling) (.hexNumber 1)) = .ok answer := by
  have h : verifyHash secp256k1 (ofSecret secp256k1 .ofOnes) (.bytes (Bytes.zeros 32))
        (.signature (.hexNumber 27) (.hexNumber uint256Ceiling) (.hexNumber 1)) =
      .error (.error .overflow) := by
    rw [verifyHash_eq, verdict_recovered_eq_error_iff _ _ (ofDigest_isRejected _)]
    refine ⟨rfl, _, _, _, rfl, Or.inr ⟨27, 0, _, rfl, rfl, rfl, Or.inl ?_⟩⟩
    decide
  refine ⟨h, ?_⟩
  rintro ⟨answer, hanswer⟩
  rw [h] at hanswer
  cases hanswer

end PrivateKey
end Signet
