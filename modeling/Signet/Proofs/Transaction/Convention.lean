import Signet.Proofs.Signing.Recovery
import Signet.Proofs.Transaction.PreImage

/-! # The conventions for `v`

The `v` of a signature carries the recovery id, and for some legacy transactions
the chain, under one of four conventions (`Tells`): the id itself for a typed
transaction, the id itself or 27 more for a legacy one that tells no chain, and 35
more and twice the chain id for one that tells a chain.  They do not overlap, so
that `recoveryId` reads exactly what the convention of the transaction says
(`recoveryId_eq_ok_iff`).

Signing writes three of them (`tells_signatureV`).  Where it tells a chain, the chain
is not zero: a legacy transaction for the chain zero is signed as one for no chain,
although reading accepts 35 and 36 as the chain zero (`v_of_recoveryId`).
-/

namespace Signet

theorem Signature.component_eq_ok_iff {n : Int} {k : Nat} :
    Signature.component n = .ok k ↔ n = (k : Int) ∧ k < uint256Ceiling := by
  unfold component
  constructor
  · intro h
    split at h
    next hrange =>
      cases h
      omega
    · cases h
  · rintro ⟨rfl, hk⟩
    rw [if_pos ⟨Int.natCast_nonneg k, Int.ofNat_lt.mpr hk⟩, Int.toNat_natCast]

namespace Transaction

variable {tx : Transaction}

/-! ## The signature on a transaction -/

theorem checkComponent_eq_ok_iff {name : String} {n : Int} {k : Signature.Component} :
    checkComponent name n = .ok k ↔ n = (k.val : Int) := by
  unfold checkComponent
  rw [Check.under_eq_ok_iff]
  split
  next m hm =>
    obtain ⟨rfl, -⟩ := Signature.component_eq_ok_iff.mp hm
    rw [Check.ok.injEq, Subtype.ext_iff, Int.natCast_inj]
  next e he =>
    constructor
    · intro h
      cases h
    · rintro rfl
      rw [Signature.component_eq_ok_iff.mpr ⟨rfl, k.property⟩] at he
      cases he

/-- **A transaction carries a signature exactly if its three fields hold the
components.** -/
theorem signature?_eq_ok_iff {sig : Signature} :
    tx.signature? = .ok (some sig) ↔
      tx.v = some (sig.v : Int) ∧ tx.r = some (sig.r : Int) ∧ tx.s = some (sig.s : Int) := by
  unfold signature?
  constructor
  · intro h
    split at h
    next v r s hv hr hs =>
      obtain ⟨f, s', hf, hs', hsig⟩ := Check.seq_eq_ok_iff.mp (Check.toExcept_eq_ok_iff.mp h)
      obtain ⟨g, r', hg, hr', rfl⟩ := Check.seq_eq_ok_iff.mp hf
      obtain ⟨v', hv', rfl⟩ := Check.map_eq_ok_iff.mp hg
      rw [checkComponent_eq_ok_iff] at hv' hr' hs'
      cases hsig
      exact ⟨hv.trans (congrArg some hv'), hr.trans (congrArg some hr'),
        hs.trans (congrArg some hs')⟩
    · cases h
  · rintro ⟨hv, hr, hs⟩
    rw [hv, hr, hs]
    have hcomponent : ∀ name {n : Nat} (hn : n < uint256Ceiling),
        checkComponent name (n : Int) = .ok ⟨n, hn⟩ :=
      fun name _ _ => checkComponent_eq_ok_iff.mpr rfl
    simp only [hcomponent "v" sig.v_lt, hcomponent "r" sig.r_lt, hcomponent "s" sig.s_lt]
    rfl

/-- A `v` of more than 256 bits is refused, although it stands on the transaction. -/
theorem signature?_of_wide {v : Int} {r s : Nat} (hwide : uint256Ceiling ≤ v)
    (hr : r < uint256Ceiling) (hs : s < uint256Ceiling) (htv : tx.v = some v)
    (htr : tx.r = some (r : Int)) (hts : tx.s = some (s : Int)) :
    tx.signature? =
      .error (.invalid [⟨[.field "v"], .refused (.component (.range v))⟩]) := by
  have hv : checkComponent "v" v =
      .faults [⟨[.field "v"], .refused (.component (.range v))⟩] := by
    have hrange : Signature.component v = .error (.range v) := by
      rw [Signature.component, if_neg fun h => Int.not_lt.mpr hwide h.2]
    unfold checkComponent
    split
    next m hm =>
      rw [hrange] at hm
      cases hm
    next e he =>
      rw [hrange] at he
      cases he
      rfl
  have hcr : checkComponent "r" (r : Int) = .ok ⟨r, hr⟩ := checkComponent_eq_ok_iff.mpr rfl
  have hcs : checkComponent "s" (s : Int) = .ok ⟨s, hs⟩ := checkComponent_eq_ok_iff.mpr rfl
  unfold signature?
  rw [htv, htr, hts]
  simp only [hv, hcr, hcs]
  rfl

/-! ## Reading a convention -/

/-- **The conventions for `v`**: on the transaction `tx`, the number `v` tells the
recovery id `id` and, under the last convention, a chain. -/
inductive Tells (tx : Transaction) (id : Nat) : (v : Nat) → (told : Option Nat) → Prop
  /-- a typed transaction tells the id alone -/
  | typed : tx.isLegacy = false → Tells tx id id none
  /-- so may a legacy one -/
  | bare : tx.isLegacy = true → Tells tx id id none
  | offset : tx.isLegacy = true → Tells tx id (legacyOffset + id) none
  /-- a chain on the transaction may not be another one than is told -/
  | replay (c : Nat) : tx.isLegacy = true → (∀ n ∈ tx.chainId, n = c) →
      Tells tx id (replayOffset + 2 * c + id) (some c)

namespace Tells

variable {id v c : Nat} {told : Option Nat}

/-- A typed transaction tells no chain. -/
theorem of_typed (h : tx.Tells id v told) (hl : tx.isLegacy = false) : v = id ∧ told = none := by
  cases h with
  | typed => exact ⟨rfl, rfl⟩
  | bare hlegacy | offset hlegacy | replay _ hlegacy =>
    rw [hl] at hlegacy
    cases hlegacy

theorem of_no_chain (h : tx.Tells id v none) : v = id ∨ v = 27 + id := by
  cases h with
  | typed | bare => exact Or.inl rfl
  | offset => exact Or.inr rfl

/-- Only a legacy transaction tells a chain, and no other one than it names. -/
theorem of_chain (h : tx.Tells id v (some c)) :
    tx.isLegacy = true ∧ (tx.chainId = none ∨ tx.chainId = some (c : Int)) ∧
      v = 35 + 2 * c + id := by
  cases h with
  | replay _ hl hchain =>
    refine ⟨hl, ?_, rfl⟩
    cases hn : tx.chainId with
    | none => exact Or.inl rfl
    | some n => exact Or.inr (congrArg some (hchain n hn))

end Tells

theorem recoveryIdOfLegacyV_eq_ok_iff {v id : Nat} :
    recoveryIdOfLegacyV v = .ok id ↔ id ≤ 1 ∧ (v = id ∨ v = legacyOffset + id) := by
  unfold recoveryIdOfLegacyV legacyOffset
  constructor
  · intro h
    split at h
    · cases h
      omega
    split at h
    · cases h
      omega
    · cases h
  · rintro ⟨hid, hv⟩
    obtain rfl | rfl : id = 0 ∨ id = 1 := by omega
    · rw [if_pos (by omega)]
    · rw [if_neg (by omega), if_pos (by omega)]

theorem recoveryIdOfUntypedV_eq_ok_iff {v id : Nat} {told : Option Nat} :
    recoveryIdOfUntypedV v = .ok (id, told) ↔
      id ≤ 1 ∧ ((told = none ∧ (v = id ∨ v = legacyOffset + id)) ∨
        ∃ c, told = some c ∧ v = replayOffset + 2 * c + id) := by
  unfold recoveryIdOfUntypedV
  by_cases hv : replayOffset ≤ v
  · rw [if_pos hv, Except.ok.injEq, Prod.mk.injEq]
    constructor
    · rintro ⟨rfl, rfl⟩
      refine ⟨by omega, Or.inr ⟨_, rfl, by omega⟩⟩
    · rintro ⟨hid, ⟨-, hlow⟩ | ⟨c, rfl, rfl⟩⟩
      · unfold legacyOffset at hlow
        unfold replayOffset at hv
        omega
      · refine ⟨by omega, congrArg some ?_⟩
        omega
  · -- no chain is told below the offset, where both other conventions end
    rw [if_neg hv, map_eq_ok_iff]
    constructor
    · rintro ⟨n, hn, heq⟩
      cases heq
      obtain ⟨hid, hlow⟩ := recoveryIdOfLegacyV_eq_ok_iff.mp hn
      exact ⟨hid, Or.inl ⟨rfl, hlow⟩⟩
    · rintro ⟨hid, ⟨rfl, hlow⟩ | ⟨c, -, rfl⟩⟩
      · exact ⟨id, recoveryIdOfLegacyV_eq_ok_iff.mpr ⟨hid, hlow⟩, rfl⟩
      · omega

/-- On a legacy transaction, the chain that is told may not be another one than the
one that stands there. -/
theorem recoveryIdOfV_of_legacy {v id : Nat} {told : Option Nat} (h : tx.isLegacy = true) :
    tx.recoveryIdOfV v = .ok (id, told) ↔
      recoveryIdOfUntypedV v = .ok (id, told) ∧ ∀ c ∈ told, ∀ n ∈ tx.chainId, n = (c : Int) := by
  unfold recoveryIdOfV
  rw [if_pos h]
  split
  next i c n hread hchain =>
    rw [hread, hchain]
    by_cases hn : n = (c : Int)
    · rw [if_neg (not_not_intro hn)]
      constructor
      · intro heq
        cases heq
        refine ⟨rfl, ?_⟩
        rintro c' hc' n' hn'
        cases hc'
        cases hn'
        exact hn
      · exact fun heq => heq.1
    · rw [if_pos hn]
      constructor
      · intro heq
        cases heq
      · rintro ⟨heq, hcompat⟩
        cases heq
        exact absurd (hcompat c rfl n rfl) hn
  next hother =>
    constructor
    · intro heq
      refine ⟨heq, fun c hc n hn => ?_⟩
      cases hc
      exact (hother id c n heq hn).elim
    · exact fun heq => heq.1

/-- **`v` is read as what one of the conventions says.** -/
theorem recoveryIdOfV_eq_ok_iff {v id : Nat} {told : Option Nat} :
    tx.recoveryIdOfV v = .ok (id, told) ↔ id ≤ 1 ∧ tx.Tells id v told := by
  cases hl : tx.isLegacy with
  | true =>
    rw [recoveryIdOfV_of_legacy hl, recoveryIdOfUntypedV_eq_ok_iff]
    constructor
    · rintro ⟨⟨hid, ⟨rfl, rfl | rfl⟩ | ⟨c, rfl, rfl⟩⟩, hcompat⟩
      · exact ⟨hid, .bare hl⟩
      · exact ⟨hid, .offset hl⟩
      · exact ⟨hid, .replay c hl (hcompat c rfl)⟩
    · rintro ⟨hid, htells⟩
      cases htells with
      | typed ht =>
        rw [hl] at ht
        cases ht
      | bare => exact ⟨⟨hid, Or.inl ⟨rfl, Or.inl rfl⟩⟩, nofun⟩
      | offset => exact ⟨⟨hid, Or.inl ⟨rfl, Or.inr rfl⟩⟩, nofun⟩
      | replay c _ hchain =>
        refine ⟨⟨hid, Or.inr ⟨c, rfl, rfl⟩⟩, fun c' hc' => ?_⟩
        cases hc'
        exact hchain
  | false =>
    have htyped : tx.recoveryIdOfV v = recoveryIdOfTypedV v := by
      rw [recoveryIdOfV, hl]
      rfl
    rw [htyped, recoveryIdOfTypedV]
    constructor
    · intro h
      split at h
      · cases h
      next hv =>
        cases h
        exact ⟨Nat.not_lt.mp hv, .typed hl⟩
    · rintro ⟨hid, htells⟩
      obtain ⟨rfl, rfl⟩ := htells.of_typed hl
      exact if_neg (Nat.not_lt.mpr hid)

/-- **The recovery id of a transaction** is the one that the `v` of its signature
tells, if it carries one that is not zero. -/
theorem recoveryId_eq_ok_iff {id : Nat} {told : Option Nat} :
    tx.recoveryId = .ok (id, told) ↔
      id ≤ 1 ∧ ∃ sig : Signature, tx.v = some (sig.v : Int) ∧ tx.r = some (sig.r : Int) ∧
        tx.s = some (sig.s : Int) ∧ sig.isZero = false ∧ tx.Tells id sig.v told := by
  unfold recoveryId
  constructor
  · intro h
    obtain ⟨sig?, hsig, h⟩ := bind_eq_ok_iff.mp h
    split at h
    next sig =>
      split at h
      · cases h
      next hzero =>
        obtain ⟨hv, hr, hs⟩ := signature?_eq_ok_iff.mp hsig
        obtain ⟨hid, htells⟩ := recoveryIdOfV_eq_ok_iff.mp (mapError_eq_ok_iff.mp h)
        exact ⟨hid, sig, hv, hr, hs, Bool.eq_false_iff.mpr hzero, htells⟩
    · cases h
  · rintro ⟨hid, sig, hv, hr, hs, hzero, htells⟩
    rw [signature?_eq_ok_iff.mpr ⟨hv, hr, hs⟩, ok_bind]
    simp only [hzero]
    exact mapError_eq_ok_iff.mpr (recoveryIdOfV_eq_ok_iff.mpr ⟨hid, htells⟩)

/-- The transaction has the scalars of a signature of the curve, and `v`. -/
structure Carries (tx : Transaction) (v : Nat) (sig : RecoverableSignature) : Prop where
  v : tx.v = some (v : Int)
  r : tx.r = some (sig.r : Int)
  s : tx.s = some (sig.s : Int)

/-- The recovery id of a signature is read back from a `v` that tells it. -/
theorem recoveryId_of_carries {v : Nat} {sig : RecoverableSignature} {told : Option Nat}
    (h : tx.Carries v sig) (hrange : sig.InRange) (hv : v < uint256Ceiling)
    (htells : tx.Tells sig.recoveryId v told) : tx.recoveryId = .ok (sig.recoveryId, told) := by
  have hzero : (Signature.mk v sig.r sig.s hv hrange.r_lt_ceiling hrange.s_lt_ceiling).isZero =
      false := by
    have hr : sig.r ≠ 0 := Nat.ne_of_gt hrange.r_pos
    simp [Signature.isZero, hr]
  exact recoveryId_eq_ok_iff.mpr
    ⟨hrange.recoveryId_le, ⟨v, sig.r, sig.s, hv, hrange.r_lt_ceiling, hrange.s_lt_ceiling⟩,
      h.v, h.r, h.s, hzero, htells⟩

/-! ## Writing a convention -/

/-- The chain that the signature of a transaction is going to tell: that of a legacy
one, unless it is zero. -/
def signedChain (tx : Transaction) : Option Nat :=
  if tx.isLegacy = true ∧ tx.chainId.getD 0 ≠ 0 then some (tx.chainId.getD 0).toNat else none

theorem signature_of_typed (h : tx.isLegacy = false) (id : Nat) :
    tx.signatureV id = id ∧ tx.signedChain = none := by
  rw [signatureV, signedChain, h]
  exact ⟨rfl, rfl⟩

theorem signature_of_no_chain (h : tx.isLegacy = true) (hz : tx.chainId.getD 0 = 0) (id : Nat) :
    tx.signatureV id = id + legacyOffset ∧ tx.signedChain = none := by
  rw [signatureV, signedChain, if_pos h, if_neg (not_not_intro hz), if_neg fun hn => hn.2 hz]
  exact ⟨rfl, rfl⟩

theorem signature_of_chain (h : tx.isLegacy = true) (hz : tx.chainId.getD 0 ≠ 0) (id : Nat) :
    tx.signatureV id = id + replayOffset + 2 * tx.chainId.getD 0 ∧
      tx.signedChain = some (tx.chainId.getD 0).toNat := by
  rw [signatureV, signedChain, if_pos h, if_pos hz, if_pos ⟨h, hz⟩]
  exact ⟨rfl, rfl⟩

/-- **What signing writes is read as the id and the chain**, on every transaction
that does not stand for another chain. -/
theorem tells_signatureV {t : Transaction} (h : NonNegative tx.chainId)
    (hl : t.isLegacy = tx.isLegacy)
    (hc : ∀ c ∈ tx.signedChain, ∀ n ∈ t.chainId, n = (c : Int)) (id : Nat) :
    ∃ v : Nat, tx.signatureV id = v ∧ t.Tells id v tx.signedChain := by
  cases htx : tx.isLegacy with
  | false =>
    obtain ⟨hv, hchain⟩ := signature_of_typed htx id
    rw [hchain]
    exact ⟨id, hv, .typed (hl.trans htx)⟩
  | true =>
    by_cases hz : tx.chainId.getD 0 = 0
    · obtain ⟨hv, hchain⟩ := signature_of_no_chain htx hz id
      rw [hchain]
      refine ⟨legacyOffset + id, ?_, .offset (hl.trans htx)⟩
      omega
    · obtain ⟨hv, hchain⟩ := signature_of_chain htx hz id
      rw [hchain] at hc ⊢
      have hpos := h.getD
      refine ⟨replayOffset + 2 * (tx.chainId.getD 0).toNat + id, ?_,
        .replay _ (hl.trans htx) (hc _ rfl)⟩
      omega

/-- A transaction with the signature of a key. -/
def signedBy (tx : Transaction) (C : Curve) (k : SecretKey) (sig : RecoverableSignature) :
    Transaction :=
  { tx with
    sender := some (C.address k)
    v := some (tx.signatureV sig.recoveryId)
    r := some (sig.r : Int)
    s := some (sig.s : Int) }

/-- **Signing** succeeds if the transaction names no other sender and the curve signs
the digest of its pre-image, and puts that signature on it. -/
theorem sign_eq_ok_iff {C : Curve} {k : SecretKey} {t : Transaction} :
    tx.sign C k = .ok t ↔
      (∀ a ∈ tx.sender, a = C.address k) ∧ ∃ digest sig, tx.signingHash = .ok digest ∧
        C.sign k digest = some sig ∧ t = tx.signedBy C k sig := by
  have hsigned : (do
      let sig ← C.signDigest k (← tx.signingHash)
      return tx.signedBy C k sig) = Except.ok t ↔
      ∃ digest sig, tx.signingHash = .ok digest ∧ C.sign k digest = some sig ∧
        t = tx.signedBy C k sig := by
    simp only [bind_eq_ok_iff, Curve.signDigest_eq_ok_iff]
    constructor
    · rintro ⟨digest, hdigest, sig, hsig, heq⟩
      exact ⟨digest, sig, hdigest, hsig, (Except.ok.inj heq).symm⟩
    · rintro ⟨digest, sig, hdigest, hsig, rfl⟩
      exact ⟨digest, hdigest, sig, hsig, rfl⟩
  rw [← hsigned]
  unfold sign
  cases hs : tx.sender with
  | none => exact ⟨fun h => ⟨nofun, h⟩, fun h => h.2⟩
  | some a =>
    by_cases ha : a = C.address k
    · simp only [ha, ne_eq, not_true_eq_false, if_false]
      exact ⟨fun h => ⟨fun b hb => (Option.some.inj hb).symm, h⟩, fun h => h.2⟩
    · simp only [ne_eq, ha, not_false_eq_true, if_true]
      constructor
      · intro h
        cases h
      · intro h
        exact absurd (h.1 a rfl) ha

/-! ## Which pre-image recovery looks at -/

/-- **Recovery asks the curve for the digest of `asSigned`**, with the scalars of the
signature. -/
theorem recover_of_recoveryId {id : Nat} {told : Option Nat} {r s : Int} (C : Curve)
    (h : tx.recoveryId = .ok (id, told)) (hr : tx.r = some r) (hs : tx.s = some s) :
    tx.recover C = ((tx.asSigned told).signingHash >>= fun digest =>
      C.recoverAddress r s (id == 1) digest).mapError .error := by
  have hr' : (tx.asSigned told).r = some r := by
    rw [← hr, asSigned]
    split <;> rfl
  have hs' : (tx.asSigned told).s = some s := by
    rw [← hs, asSigned]
    split <;> rfl
  unfold recover
  rw [h, ok_bind]
  simp only [hr', hs']
  cases (tx.asSigned told).signingHash <;> rfl

/-- The content of a transaction, for a signer to sign for the chain `c`. -/
def forChain (tx : Transaction) (c : Nat) : Transaction :=
  { tx with sender := none, chainId := some (c : Int) }

theorem isLegacy_iff : tx.isLegacy = true ↔ tx.envelope? = some .legacy := by
  rw [isLegacy, decide_eq_true_iff, envelope?]
  constructor
  · intro h
    rw [h]
    rfl
  · intro h
    unfold Envelope.ofCode? at h
    split at h <;> simp_all

theorem envelope_asSigned (told : Option Nat) : (tx.asSigned told).envelope? = tx.envelope? := by
  unfold asSigned
  split <;> rfl

/-- Transactions with the same content have the same digest to sign. -/
theorem signingHash_congr {a b : Transaction} {e : Envelope} (ha : a.envelope? = some e)
    (hb : b.envelope? = some e) (h : SameContent e a b) : a.signingHash = b.signingHash := by
  rw [signingHash, signingHash, signingPreImage_congr ha hb h]

/-- A valid transaction has a digest to sign. -/
theorem exists_signingHash (h : tx.Valid) : ∃ digest, tx.signingHash = .ok digest := by
  obtain ⟨e, he⟩ := exists_envelope h
  rw [signingHash, signingPreImage_of_valid h he]
  exact ⟨_, rfl⟩

/-- Where a chain is told, recovery looks at what a signer for that chain signs. -/
theorem signingHash_asSigned_forChain (h : tx.isLegacy = true) (c : Nat) :
    (tx.asSigned (some c)).signingHash = (tx.forChain c).signingHash := by
  have henv : tx.envelope? = some .legacy := isLegacy_iff.mp h
  have hcontent : SameContent .legacy (tx.asSigned (some c)) (tx.forChain c) := by
    rw [asSigned, if_pos h]
    constructor <;> intros <;> rfl
  exact signingHash_congr ((envelope_asSigned _).trans henv) henv hcontent

/-! ## The two directions together -/

/-- The `v` that signing writes for the chain `c` is the one that tells `c`, unless
`c` is zero. -/
theorem signatureV_of_chainId {c : Nat} (h : tx.isLegacy = true) (hc : tx.chainId = some (c : Int))
    (id : Nat) :
    (tx.signatureV id = 35 + 2 * c + id ↔ c ≠ 0) ∧ (c = 0 → tx.signatureV id = 27 + id) := by
  have hgetD : tx.chainId.getD 0 = (c : Int) := by
    rw [hc]
    rfl
  by_cases hz : c = 0
  · have hzero : tx.chainId.getD 0 = 0 := by omega
    obtain ⟨hv, -⟩ := signature_of_no_chain h hzero id
    rw [hv, legacyOffset]
    omega
  · have hne : tx.chainId.getD 0 ≠ 0 := by omega
    obtain ⟨hv, -⟩ := signature_of_chain h hne id
    rw [hv, hgetD, replayOffset]
    omega

/-- A legacy transfer of one ether. -/
def transfer (chainId : Option Int) : Transaction :=
  { recipient := some ⟨List.replicate 20 0x35, rfl⟩
    nonce := some 9
    gasLimit := some 21000
    gasPrice := some 20000000000
    value := some 1000000000000000000
    chainId }

theorem valid_transfer {chainId : Option Int} (h : NonNegative chainId) :
    (transfer chainId).Valid where
  envelope := rfl
  nonce := nonNegative_natCast 9
  gasLimit := nonNegative_natCast 21000
  gasPrice := nonNegative_natCast 20000000000
  maxPriorityFeePerGas := nonNegative_none
  maxFeePerGas := nonNegative_none
  value := nonNegative_natCast 1000000000000000000
  chainId := h
  v := nonNegative_none
  r := fitsWord_none
  s := fitsWord_none

/-- The signature of `SecretKey.ofOnes` over the transfer for no chain. -/
def transferSignature : RecoverableSignature where
  r := 0x2bfad43ba1b40e7f3ffb6342b1a6eecc700dd344fb0aba543aed5c10fd1a9470
  s := 0x615bff48c483d368ed4f6e327a6ddd8831e544d0ca08f1345433e4ed204f8537
  recoveryId := 0

theorem inRange_transferSignature : transferSignature.InRange := by
  constructor <;> decide

theorem lawful_transferSignature : (Curve.ofRecord .ofOnes transferSignature).Lawful :=
  Curve.lawful_ofRecord inRange_transferSignature (by decide +kernel)

/-- The signature of `SecretKey.ofOnes` over the transfer for the chain 5. -/
def transferSignatureFive : RecoverableSignature where
  r := 0x97d902fe044aa60fa01e2e5e58732e15e693f6af1a990d96ccde14260991b641
  s := 0x6f46bfa77cc78d7313e4a47b5e773d9c6aac26e6938e1fc652fadc4c70d8e4a7
  recoveryId := 1

theorem inRange_transferSignatureFive : transferSignatureFive.InRange := by
  constructor <;> decide

theorem lawful_transferSignatureFive : (Curve.ofRecord .ofOnes transferSignatureFive).Lawful :=
  Curve.lawful_ofRecord inRange_transferSignatureFive (by decide +kernel)

/-- A transfer with `v` and the scalars of a signature. -/
def signedTransfer (chainId : Option Int) (v : Nat) (sig : RecoverableSignature) : Transaction :=
  { transfer chainId with v := some (v : Int), r := some (sig.r : Int), s := some (sig.s : Int) }

theorem carries_signedTransfer (chainId : Option Int) (v : Nat) (sig : RecoverableSignature) :
    (signedTransfer chainId v sig).Carries v sig :=
  ⟨rfl, rfl, rfl⟩

/-- **What the recovery id says of `v`.**  It is zero or one.  A typed transaction has
it as its `v`, and a legacy one that tells no chain has it or 27 more.  A legacy one
that tells the chain `c` names no other chain; its `v` is what every signer for `c`
writes, unless `c` is zero, for which a signer writes 27 and not 35; and recovery
looks at the pre-image that a signer for `c` signs. -/
theorem v_of_recoveryId (tx : Transaction) (id : Nat) (told : Option Nat)
    (h : tx.recoveryId = .ok (id, told)) :
    id ≤ 1 ∧
    (tx.isLegacy = false → tx.v = some (id : Int) ∧ told = none) ∧
    (tx.isLegacy = true → told = none → tx.v = some (id : Int) ∨ tx.v = some (27 + id : Int)) ∧
    ∀ c, told = some c →
      tx.isLegacy = true ∧ (tx.chainId = none ∨ tx.chainId = some (c : Int)) ∧
      tx.v = some (35 + 2 * c + id : Int) ∧
      (∀ (C : Curve) (k : SecretKey) (u : Transaction) (digest : Hash)
          (sig : RecoverableSignature),
        u.isLegacy = true → u.chainId = some (c : Int) → (∀ a ∈ u.sender, a = C.address k) →
        u.signingHash = .ok digest → C.sign k digest = some sig → sig.recoveryId = id →
        ∃ t, u.sign C k = .ok t ∧ (t.v = tx.v ↔ c ≠ 0) ∧
          (c = 0 → t.v = some (27 + id : Int))) ∧
      ∃ r s : Int, tx.r = some r ∧ tx.s = some s ∧
        ∀ C : Curve, tx.recover C = ((tx.forChain c).signingHash >>= fun digest =>
          C.recoverAddress r s (id == 1) digest).mapError .error := by
  obtain ⟨hid, sig, hv, hr, hs, -, htells⟩ := recoveryId_eq_ok_iff.mp h
  refine ⟨hid, ?typed, ?noChain, ?chain⟩
  case typed =>
    intro hl
    obtain ⟨hsame, htold⟩ := htells.of_typed hl
    exact ⟨by rw [hv, hsame], htold⟩
  case noChain =>
    rintro - rfl
    rcases htells.of_no_chain with hsame | hoffset
    · exact Or.inl (by rw [hv, hsame])
    · exact Or.inr (by rw [hv, hoffset, Int.natCast_add]; rfl)
  case chain =>
    rintro c rfl
    obtain ⟨hl, hchain, hreplay⟩ := htells.of_chain
    have hvc : tx.v = some (35 + 2 * c + id : Int) := by
      rw [hv, Option.some.injEq]
      omega
    refine ⟨hl, hchain, hvc, ?_, sig.r, sig.s, hr, hs, fun C => ?_⟩
    · intro C k u digest written hlegacy hc hsender hdigest hsign hwritten
      have hsigned : u.sign C k = .ok (u.signedBy C k written) :=
        sign_eq_ok_iff.mpr ⟨hsender, digest, written, hdigest, hsign, rfl⟩
      obtain ⟨hsame, hzero⟩ := signatureV_of_chainId hlegacy hc id
      have hvu : (u.signedBy C k written).v = some (u.signatureV id) := by
        rw [signedBy, hwritten]
      refine ⟨_, hsigned, ?_, fun hc0 => ?_⟩
      · rw [hvu, hvc, Option.some.injEq]
        exact hsame
      · rw [hvu, hzero hc0]
    · rw [recover_of_recoveryId C h hr hs, signingHash_asSigned_forChain hl c]

/-- The transfer for the chain 5 with its signature tells the chain, and its signer
writes the 46 that stands there. -/
theorem v_of_recoveryId_five :
    (signedTransfer (some 5) 46 transferSignatureFive).recoveryId = .ok (1, some 5) ∧
      ∃ t, (transfer (some 5)).sign (.ofRecord .ofOnes transferSignatureFive) .ofOnes = .ok t ∧
        t.v = some 46 := by
  have hid : (signedTransfer (some 5) 46 transferSignatureFive).recoveryId = .ok (1, some 5) :=
    recoveryId_of_carries (carries_signedTransfer _ _ _) inRange_transferSignatureFive (by decide)
      (.replay 5 rfl fun n hn => (Option.some.inj hn).symm)
  obtain ⟨digest, hdigest⟩ := exists_signingHash (valid_transfer (nonNegative_natCast 5))
  obtain ⟨-, -, -, hchain⟩ := v_of_recoveryId _ _ _ hid
  obtain ⟨-, -, -, hsigner, -⟩ := hchain 5 rfl
  obtain ⟨t, ht, hv, -⟩ := hsigner (.ofRecord .ofOnes transferSignatureFive) .ofOnes
    (transfer (some 5)) digest transferSignatureFive rfl rfl nofun hdigest rfl rfl
  exact ⟨hid, t, ht, hv.mpr (by decide)⟩

/-- A `v` of 35 tells the chain zero, for which a signer with the same recovery id
writes 27. -/
theorem v_of_chain_zero_not_written :
    (signedTransfer (some 0) 35 transferSignature).recoveryId = .ok (0, some 0) ∧
      (Curve.ofRecord .ofOnes transferSignature).Lawful ∧
      ∃ t, (transfer (some 0)).sign (.ofRecord .ofOnes transferSignature) .ofOnes = .ok t ∧
        t.Carries 27 transferSignature := by
  obtain ⟨digest, hdigest⟩ := exists_signingHash (valid_transfer (nonNegative_natCast 0))
  have hid : (signedTransfer (some 0) 35 transferSignature).recoveryId = .ok (0, some 0) :=
    recoveryId_of_carries (carries_signedTransfer _ _ _) inRange_transferSignature (by decide)
      (.replay 0 rfl fun n hn => (Option.some.inj hn).symm)
  have hsign : (transfer (some 0)).sign (.ofRecord .ofOnes transferSignature) .ofOnes = .ok _ :=
    sign_eq_ok_iff.mpr ⟨nofun, digest, transferSignature, hdigest, rfl, rfl⟩
  exact ⟨hid, lawful_transferSignature, _, hsign, rfl, rfl, rfl⟩

end Transaction
end Signet
