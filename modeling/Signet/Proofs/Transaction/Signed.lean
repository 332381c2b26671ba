import Signet.Proofs.Transaction.Convention

/-! # Signed transactions are recovered

Recovery leads to the signer of every transaction that carries a signature of the
curve with a `v` that tells it, and has the content that was signed
(`recover_of_carries`).  For a legacy transaction the chain in that content is the one
that `v` tells, whatever stands on the transaction.

Two transactions are of this kind.  One is what signing gives, as long as its `v`
fits into 32 bytes; recovery reads `v` as a component of a signature, and refuses a
wider one, although signing writes it (`recover_sign`).  The other is what a receiver
of the wire form has, to whom a legacy transaction tells its chain in `v` alone
(`decode_sign_recover`).
-/

namespace Signet
namespace Transaction

open Rlp

variable {tx d : Transaction} {C : Curve} {k : SecretKey} {digest : Hash}
  {sig : RecoverableSignature} {e : Envelope}

/-! ## The content behind a signature -/

/-- The chain that is told counts as the one that stands on the transaction. -/
theorem getD_signedChain (h : NonNegative tx.chainId) (hl : tx.isLegacy = true) :
    (tx.signedChain.map fun c : Nat => (c : Int)).getD 0 = tx.chainId.getD 0 := by
  by_cases hz : tx.chainId.getD 0 = 0
  · rw [(signature_of_no_chain hl hz 0).2, hz]
    rfl
  · rw [(signature_of_chain hl hz 0).2]
    exact Int.toNat_of_nonneg h.getD

/-- The chain that is told is the one that stands on the transaction. -/
theorem chainId_of_signedChain (h : NonNegative tx.chainId) {c : Nat}
    (hc : tx.signedChain = some c) : tx.chainId = some (c : Int) := by
  unfold signedChain at hc
  split at hc
  next htold =>
    obtain rfl := Option.some.inj hc
    rw [Int.toNat_of_nonneg h.getD]
    cases hn : tx.chainId with
    | none => exact absurd (by rw [hn]; rfl) htold.2
    | some n => rfl
  · cases hc

theorem isLegacy_iff_eq (he : tx.envelope? = some e) : tx.isLegacy = true ↔ e = .legacy := by
  rw [isLegacy_iff, he, Option.some.injEq]

theorem chainId_asSigned (h : d.isLegacy = true) (told : Option Nat) :
    (d.asSigned told).chainId = told.map fun c : Nat => (c : Int) := by
  rw [asSigned, if_pos h]
  cases told <;> rfl

/-- What has the content of `tx`, except perhaps the chain of a legacy one, has all
of it for the chain that is told. -/
theorem sameContent_asSigned (htx : NonNegative tx.chainId) (he : tx.envelope? = some e)
    (hd : d.envelope? = some e) (h : SameContent e { d with chainId := tx.chainId } tx)
    (hchain : e ≠ .legacy → d.chainId.getD 0 = tx.chainId.getD 0) :
    SameContent e (d.asSigned tx.signedChain) tx := by
  by_cases hl : d.isLegacy = true
  · have htl : tx.isLegacy = true := by
      rw [isLegacy_iff, he, ← hd, isLegacy_iff.mp hl]
    have htold : (d.asSigned tx.signedChain).chainId.getD 0 = tx.chainId.getD 0 := by
      rw [chainId_asSigned hl, getD_signedChain htx htl]
    rw [asSigned, if_pos hl] at htold ⊢
    exact { h with chainId := htold }
  · have hne : e ≠ .legacy := fun heq => hl ((isLegacy_iff_eq hd).mpr heq)
    rw [asSigned, if_neg hl]
    exact { h with chainId := hchain hne }

/-- **Recovery leads to the signer** of what has the content that was signed, and
carries the signature with a `v` that tells it. -/
theorem recover_of_carries (hC : C.Lawful) {v : Nat} {told : Option Nat}
    (hd : d.envelope? = some e) (he : tx.envelope? = some e)
    (hcontent : SameContent e (d.asSigned told) tx) (hdigest : tx.signingHash = .ok digest)
    (hsign : C.sign k digest = some sig) (hcarries : d.Carries v sig) (hv : v < uint256Ceiling)
    (htells : d.Tells sig.recoveryId v told) :
    d.recoveryId = .ok (sig.recoveryId, told) ∧ d.recover C = .ok (C.address k) := by
  have hid : d.recoveryId = .ok (sig.recoveryId, told) :=
    recoveryId_of_carries hcarries (hC.inRange_of_sign hsign) hv htells
  have hhash : (d.asSigned told).signingHash = .ok digest := by
    rw [signingHash_congr ((envelope_asSigned told).trans hd) he hcontent, hdigest]
  refine ⟨hid, ?_⟩
  rw [recover_of_recoveryId C hid hcarries.r hcarries.s, hhash, ok_bind,
    hC.recoverAddress_of_sign hsign, mapError_ok]

/-! ## What signing gives -/

/-- Signing does not touch the content. -/
theorem sameContent_signedBy (tx : Transaction) (C : Curve) (k : SecretKey)
    (sig : RecoverableSignature) (e : Envelope) : SameContent e (tx.signedBy C k sig) tx := by
  constructor <;> intros <;> rfl

theorem signingHash_signedBy (he : tx.envelope? = some e) (C : Curve) (k : SecretKey)
    (sig : RecoverableSignature) : (tx.signedBy C k sig).signingHash = tx.signingHash :=
  signingHash_congr he he (sameContent_signedBy tx C k sig e)

/-- The `v` that signing writes tells the signature on what signing gives. -/
theorem exists_carries_signedBy (h : NonNegative tx.chainId) (C : Curve) (k : SecretKey)
    (sig : RecoverableSignature) :
    ∃ v : Nat, tx.signatureV sig.recoveryId = v ∧ (tx.signedBy C k sig).Carries v sig ∧
      (tx.signedBy C k sig).Tells sig.recoveryId v tx.signedChain := by
  have hchain : ∀ c ∈ tx.signedChain, ∀ n ∈ (tx.signedBy C k sig).chainId, n = (c : Int) := by
    intro c hc n hn
    have hsome : tx.chainId = some (c : Int) := chainId_of_signedChain h hc
    exact Option.some.inj (hn.symm.trans hsome)
  obtain ⟨v, hv, htells⟩ := tells_signatureV (t := tx.signedBy C k sig) h rfl hchain
    sig.recoveryId
  exact ⟨v, hv, ⟨congrArg some hv, rfl, rfl⟩, htells⟩

/-- What signing gives is valid, as long as the scalars fit into 32 bytes. -/
theorem valid_signedBy_of_lt (h : tx.Valid) (C : Curve) (k : SecretKey)
    (hr : sig.r < uint256Ceiling) (hs : sig.s < uint256Ceiling) : (tx.signedBy C k sig).Valid := by
  obtain ⟨v, -, hcarries, -⟩ := exists_carries_signedBy h.chainId C k sig
  exact { h with
    v := by rw [hcarries.v]; exact nonNegative_natCast v
    r := fitsWord_natCast hr
    s := fitsWord_natCast hs }

theorem valid_signedBy (h : tx.Valid) (C : Curve) (k : SecretKey) (hsig : sig.InRange) :
    (tx.signedBy C k sig).Valid :=
  valid_signedBy_of_lt h C k hsig.r_lt_ceiling hsig.s_lt_ceiling

/-- The `v` that signing writes is a component of a signature, if the one that tells
the chain is. -/
theorem signatureV_lt_ceiling {v id : Nat} (hv : tx.signatureV id = v) (hid : id ≤ 1)
    (h : tx.isLegacy = true → 35 + 2 * tx.chainId.getD 0 + id < uint256Ceiling) :
    v < uint256Ceiling := by
  have hsmall : 28 < uint256Ceiling := by decide
  cases hl : tx.isLegacy with
  | false =>
    rw [(signature_of_typed hl id).1] at hv
    omega
  | true =>
    have hlt := h hl
    by_cases hz : tx.chainId.getD 0 = 0
    · rw [(signature_of_no_chain hl hz id).1, legacyOffset] at hv
      omega
    · rw [(signature_of_chain hl hz id).1, replayOffset] at hv
      omega

/-- What signing gives is recovered, if its `v` is a component. -/
theorem recover_signedBy (hC : C.Lawful) (h : tx.Valid) (hdigest : tx.signingHash = .ok digest)
    (hsign : C.sign k digest = some sig)
    (hnarrow : tx.isLegacy = true → 35 + 2 * tx.chainId.getD 0 + sig.recoveryId < uint256Ceiling) :
    (tx.signedBy C k sig).recover C = .ok (C.address k) := by
  obtain ⟨e, he⟩ := exists_envelope h
  have hed : (tx.signedBy C k sig).envelope? = some e := he
  obtain ⟨v, hv, hcarries, htells⟩ := exists_carries_signedBy h.chainId C k sig
  have hlt : v < uint256Ceiling :=
    signatureV_lt_ceiling hv (hC.inRange_of_sign hsign).recoveryId_le hnarrow
  have hcontent : SameContent e ((tx.signedBy C k sig).asSigned tx.signedChain) tx :=
    sameContent_asSigned h.chainId he hed (sameContent_signedBy tx C k sig e) fun _ => rfl
  exact (recover_of_carries hC hed he hcontent hdigest hsign hcarries hlt htells).2

/-- What signing gives is refused, if its `v` is wider than a component. -/
theorem recover_signedBy_of_wide (h : NonNegative tx.chainId) (hsig : sig.InRange)
    (hl : tx.isLegacy = true)
    (hwide : uint256Ceiling ≤ 35 + 2 * tx.chainId.getD 0 + sig.recoveryId) :
    (tx.signedBy C k sig).recover C = .error (.invalid [⟨[.field "v"], .refused (.component
      (.range (35 + 2 * tx.chainId.getD 0 + sig.recoveryId)))⟩]) := by
  obtain ⟨v, hv, hcarries, -⟩ := exists_carries_signedBy h C k sig
  -- so wide a `v` tells a chain
  have hz : tx.chainId.getD 0 ≠ 0 := by
    have hsmall : 36 < uint256Ceiling := by decide
    have hid := hsig.recoveryId_le
    omega
  have hsum : (v : Int) = 35 + 2 * tx.chainId.getD 0 + sig.recoveryId := by
    rw [← hv, (signature_of_chain hl hz sig.recoveryId).1, replayOffset]
    omega
  rw [← hsum] at hwide ⊢
  have hrefused := signature?_of_wide hwide hsig.r_lt_ceiling hsig.s_lt_ceiling hcarries.v
    hcarries.r hcarries.s
  rw [recover, recoveryId, hrefused]
  rfl

/-- **What is signed is recovered**, exactly as long as the `v` of it fits into 32
bytes.  This is so for every typed transaction and, for a legacy one, up to the chain
ids next to `2 ^ 255`.  Beyond, signing gives a transaction that recovery refuses. -/
theorem recover_sign (hC : C.Lawful) (k : SecretKey) (tx : Transaction) (h : tx.Valid)
    (hsender : ∀ a ∈ tx.sender, a = C.address k) :
    ∃ digest sig t, tx.signingHash = .ok digest ∧ C.sign k digest = some sig ∧
      tx.sign C k = .ok t ∧
      ((tx.isLegacy = true → 35 + 2 * tx.chainId.getD 0 + sig.recoveryId < uint256Ceiling) →
        t.recover C = .ok (C.address k)) ∧
      (tx.isLegacy = true → uint256Ceiling ≤ 35 + 2 * tx.chainId.getD 0 + sig.recoveryId →
        t.recover C = .error (.invalid [⟨[.field "v"], .refused (.component
          (.range (35 + 2 * tx.chainId.getD 0 + sig.recoveryId)))⟩])) := by
  obtain ⟨digest, hdigest⟩ := exists_signingHash h
  obtain ⟨sig, hsign, hrange, -⟩ := hC.sign k digest
  have hsigned : tx.sign C k = .ok (tx.signedBy C k sig) :=
    sign_eq_ok_iff.mpr ⟨hsender, digest, sig, hdigest, hsign, rfl⟩
  exact ⟨digest, sig, _, hdigest, hsign, hsigned, recover_signedBy hC h hdigest hsign,
    recover_signedBy_of_wide h.chainId hrange⟩

/-- The signer of the transfer for the chain 5 is recovered. -/
theorem recover_sign_five :
    (Curve.ofRecord .ofOnes transferSignatureFive).Lawful ∧
    ∃ t, (transfer (some 5)).sign (.ofRecord .ofOnes transferSignatureFive) .ofOnes = .ok t ∧
      t.recover (.ofRecord .ofOnes transferSignatureFive) =
        .ok (Curve.address (.ofRecord .ofOnes transferSignatureFive) .ofOnes) := by
  obtain ⟨digest, sig, t, -, hsign, ht, hrecover, -⟩ := recover_sign
    lawful_transferSignatureFive .ofOnes (transfer (some 5))
    (valid_transfer (nonNegative_natCast 5)) nofun
  obtain rfl : transferSignatureFive = sig := Option.some.inj hsign
  exact ⟨lawful_transferSignatureFive, t, ht, hrecover fun _ => by decide⟩

/-- The signature of `SecretKey.ofOnes` over the transfer for the chain `2 ^ 255`. -/
def transferSignatureWide : RecoverableSignature where
  r := 0x4aaf92809c1ff6f0e74ca3ced5d91eddd5ae818925b8cb328940dfa0731a30fb
  s := 0x6fab08e4fcd737f728aed186878ed3097f67f6b49becf370cc1e5303b11c46fe
  recoveryId := 1

/-- For the chain `2 ^ 255` signing gives a transaction that recovery refuses. -/
theorem recover_sign_not_of_wide :
    (Curve.ofRecord .ofOnes transferSignatureWide).Lawful ∧
      (transfer (some (1 <<< 255 : Nat))).Valid ∧
      ∃ t, (transfer (some (1 <<< 255 : Nat))).sign (.ofRecord .ofOnes transferSignatureWide)
          .ofOnes = .ok t ∧
        t.recover (.ofRecord .ofOnes transferSignatureWide) =
          .error (.invalid [⟨[.field "v"], .refused (.component
            (.range (35 + 2 * (1 <<< 255 : Nat) + 1)))⟩]) := by
  have hpoint : Secp256k1.eulerTest transferSignatureWide.r = 1 := by
    decide +kernel
  have hrange : transferSignatureWide.InRange := by
    constructor <;> decide
  have hvalid : (transfer (some (1 <<< 255 : Nat))).Valid := valid_transfer (nonNegative_natCast _)
  obtain ⟨digest, hdigest⟩ := exists_signingHash hvalid
  have hsigned : (transfer (some (1 <<< 255 : Nat))).sign (.ofRecord .ofOnes transferSignatureWide)
      .ofOnes = .ok _ :=
    sign_eq_ok_iff.mpr ⟨nofun, digest, transferSignatureWide, hdigest, rfl, rfl⟩
  exact ⟨Curve.lawful_ofRecord hrange hpoint, hvalid, _, hsigned,
    recover_signedBy_of_wide hvalid.chainId hrange rfl (by decide)⟩

/-! ## What a receiver has -/

theorem envelope_received (tx : Transaction) (e : Envelope) :
    (tx.received e).envelope? = some e := by
  cases e <;> rfl

theorem isLegacy_received (he : tx.envelope? = some e) :
    (tx.received e).isLegacy = tx.isLegacy := by
  rw [Bool.eq_iff_iff, isLegacy_iff_eq (envelope_received tx e), isLegacy_iff_eq he]

/-- A receiver has the content that was written, but for the chain of a legacy
transaction. -/
theorem sameContent_received (tx : Transaction) (e : Envelope) :
    SameContent e { tx.received e with chainId := tx.chainId } tx := by
  cases e <;> constructor <;> intros <;> first | rfl | contradiction

theorem chainId_received_of_typed (h : e ≠ .legacy) :
    (tx.received e).chainId = some (tx.chainId.getD 0) := by
  cases e with
  | legacy => exact absurd rfl h
  | accessList | dynamicFee => rfl

section

variable {v id : Nat} {told : Option Nat}

/-- A signature of the curve is not taken for none. -/
theorem not_unsigned_of_carries (h : tx.Carries v sig) (hsig : sig.InRange) : ¬ tx.Unsigned := by
  rintro ⟨-, hr, -⟩
  have hpos := hsig.r_pos
  rw [h.r, Option.getD_some] at hr
  omega

theorem carries_received (h : tx.Carries v sig) (hset : ¬ tx.Unsigned) (e : Envelope) :
    (tx.received e).Carries v sig := by
  have hfolded : ∀ {n : Option Int} {m : Nat}, n = some (m : Int) →
      tx.foldedSignature n = some (m : Int) := by
    rintro n m rfl
    rw [foldedSignature, if_neg hset]
    rfl
  cases e <;> exact ⟨hfolded h.v, hfolded h.r, hfolded h.s⟩

/-- **The chain is found again in `v`.** -/
theorem toldChainId_of_tells (h : tx.Carries v sig) (hset : ¬ tx.Unsigned) (hid : id ≤ 1)
    (htells : tx.Tells id v told) : tx.toldChainId = told.map fun c : Nat => (c : Int) := by
  rw [toldChainId, h.v, Option.getD_some]
  cases htells with
  | typed | bare => exact if_neg fun hn => by omega
  | offset =>
    rw [legacyOffset]
    exact if_neg fun hn => by omega
  | replay c =>
    rw [replayOffset, if_pos ⟨hset, by omega⟩, Option.map_some, Option.some.injEq]
    omega

/-- What tells a signature to its writer tells it to a receiver. -/
theorem tells_received (he : tx.envelope? = some e) (h : tx.Carries v sig) (hset : ¬ tx.Unsigned)
    (hid : id ≤ 1) (htells : tx.Tells id v told) : (tx.received e).Tells id v told := by
  have hl := isLegacy_received he
  have htold := toldChainId_of_tells h hset hid htells
  cases htells with
  | typed htyped => exact .typed (hl.trans htyped)
  | bare hlegacy => exact .bare (hl.trans hlegacy)
  | offset hlegacy => exact .offset (hl.trans hlegacy)
  | replay c hlegacy =>
    refine .replay c (hl.trans hlegacy) fun n hn => ?_
    obtain rfl : e = .legacy := (isLegacy_iff_eq he).mp hlegacy
    have hchain : (tx.received .legacy).chainId = some (c : Int) := htold
    exact Option.some.inj (hn.symm.trans hchain)

end

/-- The `v` of a typed transaction is small enough for the wire. -/
theorem v_le_of_signedBy (he : tx.envelope? = some e) (hsig : sig.InRange) :
    e = .legacy ∨ (tx.signedBy C k sig).v.getD 0 ≤ 0xFF := by
  cases hl : tx.isLegacy with
  | true => exact Or.inl ((isLegacy_iff_eq he).mp hl)
  | false =>
    have hv : (tx.signedBy C k sig).v.getD 0 = sig.recoveryId :=
      (signature_of_typed hl sig.recoveryId).1
    have hid := hsig.recoveryId_le
    exact Or.inr (by omega)

/-- The chain that a receiver has is that of a typed transaction, or the one that a
legacy one tells. -/
theorem chainId_received {v id : Nat} (he : tx.envelope? = some e) (h : tx.Carries v sig)
    (hsig : sig.InRange) (hid : id ≤ 1) (htells : tx.Tells id v tx.signedChain) :
    (tx.received e).chainId =
      if tx.isLegacy = true then tx.signedChain.map fun c : Nat => (c : Int)
      else some (tx.chainId.getD 0) := by
  by_cases hl : tx.isLegacy = true
  · rw [if_pos hl]
    obtain rfl : e = .legacy := (isLegacy_iff_eq he).mp hl
    exact toldChainId_of_tells h (not_unsigned_of_carries h hsig) hid htells
  · have hne : e ≠ .legacy := fun heq => hl ((isLegacy_iff_eq he).mpr heq)
    rw [if_neg hl]
    exact chainId_received_of_typed hne

/-- **A receiver recovers the signer** of every transaction that carries the signature
over its own content. -/
theorem recover_received {v : Nat} (hC : C.Lawful) (h : tx.Valid) (he : tx.envelope? = some e)
    (hdigest : tx.signingHash = .ok digest) (hsign : C.sign k digest = some sig)
    (hcarries : tx.Carries v sig) (hv : v < uint256Ceiling)
    (htells : tx.Tells sig.recoveryId v tx.signedChain) :
    (tx.received e).recoveryId = .ok (sig.recoveryId, tx.signedChain) ∧
      (tx.received e).recover C = .ok (C.address k) := by
  have hsig := hC.inRange_of_sign hsign
  have hset := not_unsigned_of_carries hcarries hsig
  have hcontent : SameContent e ((tx.received e).asSigned tx.signedChain) tx := by
    refine sameContent_asSigned h.chainId he (envelope_received tx e) (sameContent_received tx e) ?_
    intro hne
    rw [chainId_received_of_typed hne, Option.getD_some]
  exact recover_of_carries hC (envelope_received tx e) he hcontent hdigest hsign
    (carries_received hcarries hset e) hv
    (tells_received he hcarries hset hsig.recoveryId_le htells)

/-- The wire form of what signing gives is read. -/
theorem decode_signedBy (h : tx.Valid) (he : tx.envelope? = some e) (hsig : sig.InRange)
    (hlen : (e.typePrefix ++ encodeList ((tx.signedBy C k sig).items e)).length < payloadCeiling)
    (u : Bytes) :
    decode (e.typePrefix ++ encodeList ((tx.signedBy C k sig).items e) ++ u) =
      .ok ((tx.signedBy C k sig).received e,
        (e.typePrefix ++ encodeList ((tx.signedBy C k sig).items e)).length) := by
  rw [decode_items _ e u hlen,
    read_items (valid_signedBy h C k hsig) (v_le_of_signedBy he hsig)]
  rfl

/-- **Sign, send, read, recover.**  Every valid transaction that may be signed by a
key, with a chain that leaves `v` within 32 bytes, is signed and has a wire form.
With anything behind it the wire form is read, and what is read recovers the signer:
a typed transaction keeps its chain, an unset one as zero, and a legacy one tells it
in `v` alone, unless it is zero.  The bound on the length is that of `decodeItem`;
no prefix tells a length of more than eight bytes. -/
theorem decode_sign_recover (hC : C.Lawful) (k : SecretKey) (tx : Transaction) (h : tx.Valid)
    (hsender : ∀ a ∈ tx.sender, a = C.address k)
    (hchain : tx.isLegacy = true → 2 * tx.chainId.getD 0 + 36 < uint256Ceiling) :
    ∃ digest sig t w, tx.signingHash = .ok digest ∧ C.sign k digest = some sig ∧
      tx.sign C k = .ok t ∧ t.encode = .ok w ∧
      (w.length < payloadCeiling → ∀ u, ∃ d, decode (w ++ u) = .ok (d, w.length) ∧
        (tx.isLegacy = false →
          d.chainId = some (tx.chainId.getD 0) ∧ d.recoveryId = .ok (sig.recoveryId, none)) ∧
        (tx.isLegacy = true → tx.chainId.getD 0 = 0 →
          d.chainId = none ∧ d.recoveryId = .ok (sig.recoveryId, none)) ∧
        (∀ c : Nat, tx.isLegacy = true → tx.chainId = some (c : Int) → 0 < c →
          d.chainId = some (c : Int) ∧ d.recoveryId = .ok (sig.recoveryId, some c)) ∧
        d.recover C = .ok (C.address k)) := by
  obtain ⟨e, he⟩ := exists_envelope h
  obtain ⟨digest, hdigest⟩ := exists_signingHash h
  obtain ⟨sig, hsign, hsig, -⟩ := hC.sign k digest
  have hsigned : tx.sign C k = .ok (tx.signedBy C k sig) :=
    sign_eq_ok_iff.mpr ⟨hsender, digest, sig, hdigest, hsign, rfl⟩
  have hvalid := valid_signedBy h C k hsig
  refine ⟨digest, sig, _, _, hdigest, hsign, hsigned, encode_of_valid hvalid he,
    fun hlen u => ⟨_, decode_signedBy h he hsig hlen u, ?_⟩⟩
  obtain ⟨v, hv, hcarries, htells⟩ := exists_carries_signedBy h.chainId C k sig
  have hlt : v < uint256Ceiling := by
    refine signatureV_lt_ceiling hv hsig.recoveryId_le fun hl => ?_
    have hbound := hchain hl
    have hid := hsig.recoveryId_le
    omega
  -- the receiver reads the id and the chain that signing has written, and no other
  have hreceived : ((tx.signedBy C k sig).received e).chainId =
      if tx.isLegacy = true then tx.signedChain.map fun c : Nat => (c : Int)
      else some (tx.chainId.getD 0) := chainId_received he hcarries hsig hsig.recoveryId_le htells
  have hwritten : (tx.signedBy C k sig).signingHash = .ok digest :=
    (signingHash_signedBy he C k sig).trans hdigest
  obtain ⟨hid, hrecover⟩ : ((tx.signedBy C k sig).received e).recoveryId =
      .ok (sig.recoveryId, tx.signedChain) ∧ _ :=
    recover_received hC hvalid he hwritten hsign hcarries hlt htells
  refine ⟨?typed, ?unset, ?chain, hrecover⟩
  case typed =>
    intro hl
    rw [hreceived, hid, (signature_of_typed hl 0).2, hl]
    exact ⟨rfl, rfl⟩
  case unset =>
    intro hl hz
    rw [hreceived, hid, (signature_of_no_chain hl hz 0).2, if_pos hl]
    exact ⟨rfl, rfl⟩
  case chain =>
    intro c hl hc hpos
    have hgetD : tx.chainId.getD 0 = (c : Int) := by
      rw [hc]
      rfl
    have hz : tx.chainId.getD 0 ≠ 0 := by omega
    rw [hreceived, hid, (signature_of_chain hl hz 0).2, if_pos hl, hgetD]
    exact ⟨rfl, rfl⟩

/-- The wire form of the signed transfer for the chain 5. -/
def transferWire : Bytes :=
  [0xF8, 0x6C, 0x09, 0x85, 0x04, 0xA8, 0x17, 0xC8, 0x00, 0x82, 0x52, 0x08, 0x94, 0x35, 0x35, 0x35,
   0x35, 0x35, 0x35, 0x35, 0x35, 0x35, 0x35, 0x35, 0x35, 0x35, 0x35, 0x35, 0x35, 0x35, 0x35, 0x35,
   0x35, 0x88, 0x0D, 0xE0, 0xB6, 0xB3, 0xA7, 0x64, 0x00, 0x00, 0x80, 0x2E, 0xA0, 0x97, 0xD9, 0x02,
   0xFE, 0x04, 0x4A, 0xA6, 0x0F, 0xA0, 0x1E, 0x2E, 0x5E, 0x58, 0x73, 0x2E, 0x15, 0xE6, 0x93, 0xF6,
   0xAF, 0x1A, 0x99, 0x0D, 0x96, 0xCC, 0xDE, 0x14, 0x26, 0x09, 0x91, 0xB6, 0x41, 0xA0, 0x6F, 0x46,
   0xBF, 0xA7, 0x7C, 0xC7, 0x8D, 0x73, 0x13, 0xE4, 0xA4, 0x7B, 0x5E, 0x77, 0x3D, 0x9C, 0x6A, 0xAC,
   0x26, 0xE6, 0x93, 0x8E, 0x1F, 0xC6, 0x52, 0xFA, 0xDC, 0x4C, 0x70, 0xD8, 0xE4, 0xA7]

/-- The wire form of the signed transfer for the chain 5, with a byte behind it, is
read, and its signer recovered. -/
theorem decode_sign_recover_five :
    (Curve.ofRecord .ofOnes transferSignatureFive).Lawful ∧
    ∃ t d, (transfer (some 5)).sign (.ofRecord .ofOnes transferSignatureFive) .ofOnes = .ok t ∧
      t.encode = .ok transferWire ∧ decode (transferWire ++ [0xFF]) = .ok (d, 110) ∧
      d.chainId = some 5 ∧ d.recoveryId = .ok (1, some 5) ∧
      d.recover (.ofRecord .ofOnes transferSignatureFive) =
        .ok (Curve.address (.ofRecord .ofOnes transferSignatureFive) .ofOnes) := by
  obtain ⟨digest, sig, t, w, -, hsign, ht, hw, hread⟩ := decode_sign_recover
    lawful_transferSignatureFive .ofOnes (transfer (some 5))
    (valid_transfer (nonNegative_natCast 5)) nofun fun _ => by decide
  obtain rfl : transferSignatureFive = sig := Option.some.inj hsign
  obtain ⟨-, digest', sig', -, hsign', rfl⟩ := sign_eq_ok_iff.mp ht
  obtain rfl : transferSignatureFive = sig' := Option.some.inj hsign'
  have hwire : ((transfer (some 5)).signedBy (.ofRecord .ofOnes transferSignatureFive) .ofOnes
      transferSignatureFive).encode = .ok transferWire := by
    decide +kernel
  obtain rfl : transferWire = w := Except.ok.inj (hwire.symm.trans hw)
  obtain ⟨d, hd, -, -, hchain, hrecover⟩ := hread (by decide) [0xFF]
  obtain ⟨hid, hrid⟩ := hchain 5 rfl rfl (by decide)
  exact ⟨lawful_transferSignatureFive, _, d, ht, hw, hd, hid, hrid, hrecover⟩

end Transaction
end Signet
