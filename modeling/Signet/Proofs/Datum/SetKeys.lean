import Signet.Proofs.Datum.FixedSize

/-! # Equal values in a set

Fixed byte strings and block numbers take other values for values of their own kind when they
are compared (`Datum.Takes`): a text or an integer, and a digest also a shorter byte string,
which it pads.  A set looks at hash keys first.  These are made of a value as it is, of the
bytes of a byte string and of the block itself, and nothing is taken for anything else there.

So two values of which one takes others have the same key exactly if they are byte strings
with the same bytes or the same block (`hashKey?_eq_iff`), and of the equal ones these alone
are one element of a set (`setSize_of_eq`).
-/

namespace Signet
namespace Datum

/-- Whether a value takes others for values of its own kind to compare itself with them. -/
def takesOthers : Datum → Bool
  | .address _ | .hash _ | .keystoreAddress _ | .blockNumber _ => true
  | _ => false

/-- Values that are the same as they stand: byte strings of any immutable kind with the same
bytes, or the same block number. -/
inductive SharesForm : Datum → Datum → Prop
  | bytes {x y : Datum} {b : Bytes} (hx : x.asBytes? = some b) (hy : y.asBytes? = some b) :
      SharesForm x y
  | block (n : BlockNumber) : SharesForm (.blockNumber n) (.blockNumber n)

/-- The values of another form that `x` may take for one of its own kind: texts, integers and
byte strings with fewer bytes. -/
inductive Takes (x : Datum) : Datum → Prop
  | text (s : String) : Takes x (.text s)
  | integer {y : Datum} {i : Int} (hy : y.asInt? = some i) : Takes x y
  | shorter {y : Datum} {b c : Bytes} (hx : x.asBytes? = some b) (hy : y.asBytes? = some c)
      (hlt : c.length < b.length) : Takes x y

/-- Whether the entry of a dictionary under `key` is found by `sought`. -/
def finds (key sought : Datum) : Bool :=
  match key.hashKey?, sought.hashKey? with
  | some h, some k => h == k && key.eq sought
  | _, _ => false

namespace SharesForm

variable {x y : Datum}

theorem symm (h : SharesForm x y) : SharesForm y x := by
  cases h with
  | bytes hx hy => exact .bytes hy hx
  | block n => exact .block n

end SharesForm

/-! ## Hash keys -/

section HashKey

variable {d : Datum}

theorem hashKey?_of_asBytes? {b : Bytes} (h : d.asBytes? = some b) :
    d.hashKey? = some (.bytes b) := by
  cases d <;> cases h <;> rfl

/-- Keys of bytes and of blocks are keys of nothing else. -/
theorem form_of_hashKey? {k : HashKey} (h : d.hashKey? = some k) :
    (∀ b, k = .bytes b → d.asBytes? = some b) ∧ ∀ n, k = .block n → d = .blockNumber n := by
  cases d with
  | float x =>
    unfold hashKey? at h
    split at h <;> cases h <;> exact ⟨nofun, nofun⟩
  | tuple xs =>
    obtain ⟨ks, -, rfl⟩ := Option.map_eq_some_iff.mp h
    exact ⟨nofun, nofun⟩
  | signature v r s =>
    obtain ⟨hv, -, h⟩ := Option.bind_eq_some_iff.mp h
    obtain ⟨hr, -, h⟩ := Option.bind_eq_some_iff.mp h
    obtain ⟨hs, -, h⟩ := Option.bind_eq_some_iff.mp h
    cases h
    exact ⟨nofun, nofun⟩
  | bytes b | hexBytes b | keystoreHex b | address a | keystoreAddress a | hash a =>
    cases h
    exact ⟨fun _ hb => congrArg some (HashKey.bytes.inj hb), nofun⟩
  | blockNumber m =>
    cases h
    exact ⟨nofun, fun _ hn => congrArg blockNumber (HashKey.block.inj hn)⟩
  | _ => cases h <;> exact ⟨nofun, nofun⟩

/-- A value that takes others is a byte string or a block number. -/
theorem form_of_takesOthers (h : d.takesOthers = true) :
    (∃ b, d.asBytes? = some b) ∨ ∃ n, d = .blockNumber n := by
  cases d with
  | address _ | hash _ | keystoreAddress _ => exact Or.inl ⟨_, rfl⟩
  | blockNumber n => exact Or.inr ⟨n, rfl⟩
  | _ => cases h

end HashKey

variable {x y : Datum}

/-- **Keys are made of values as they stand.** -/
theorem hashKey?_eq_iff (hx : x.takesOthers = true) :
    x.hashKey? = y.hashKey? ↔ SharesForm x y := by
  constructor
  · intro h
    rcases form_of_takesOthers hx with ⟨b, hb⟩ | ⟨n, rfl⟩
    · rw [hashKey?_of_asBytes? hb] at h
      exact .bytes hb ((form_of_hashKey? h.symm).1 b rfl)
    · rw [(form_of_hashKey? h.symm).2 n rfl]
      exact .block n
  · intro h
    cases h with
    | bytes hx hy => rw [hashKey?_of_asBytes? hx, hashKey?_of_asBytes? hy]
    | block n => rfl

/-! ## Equality -/

theorem eq_of_takesOthers (h : x.takesOthers = true ∨ y.takesOthers = true) :
    x.eq y = (firstAnswer ask x y).getD false := by
  rcases h with h | h
  · cases x with
    | address a | hash a | keystoreAddress a | blockNumber n => cases y <;> rfl
    | _ => cases h
  · cases y with
    | address a | hash a | keystoreAddress a | blockNumber n => cases x <;> rfl
    | _ => cases h

/-- Where two values are equal, one of them says so. -/
theorem ask_of_eq (h : x.takesOthers = true ∨ y.takesOthers = true) (heq : x.eq y = true) :
    ask x y = some true ∨ ask y x = some true := by
  have answers (p q : Option Bool) (h : (p.or q).getD false = true) :
      p = some true ∨ q = some true := by
    cases p with
    | none =>
      cases q with
      | none => cases h
      | some answer => exact Or.inr (congrArg some h)
    | some answer => exact Or.inl (congrArg some h)
  rw [eq_of_takesOthers h, firstAnswer] at heq
  split at heq
  · exact (answers _ _ heq).symm
  · exact answers _ _ heq

theorem asByteString?_of_asBytes? {b : Bytes} (h : y.asBytes? = some b) :
    y.asByteString? = some b := by
  cases y <;> cases h <;> rfl

/-- A fixed byte string says of its own bytes, whatever kind they come in, that they are
equal. -/
theorem askFixed_of_asBytes? {n : Nat} (own : FixedBytes n) (leftPadding : Bool)
    (hy : y.asBytes? = some own.bytes) :
    askFixed own (FixedBytes.ofDatum n leftPadding) y = some true := by
  obtain ⟨hint, -, -, hbytes⟩ := of_asByteString? (asByteString?_of_asBytes? hy)
  have hread := FixedBytes.ofDatum_of_toBytes leftPadding hint hbytes
  cases y with
  | address a | keystoreAddress a | hash a =>
    exact congrArg some (beq_iff_eq.mpr (Option.some.inj hy).symm)
  | bytes b | hexBytes b | keystoreHex b =>
    unfold askFixed
    simp only [hread, beq_self_eq_true]
  | _ => cases hy

/-- Byte strings with the same bytes say of each other that they are equal. -/
theorem ask_of_asBytes? {b : Bytes} (hx : x.asBytes? = some b) (hy : y.asBytes? = some b) :
    ask x y = some true := by
  cases x with
  | address a | keystoreAddress a =>
    exact askFixed_of_asBytes? a false (hy.trans hx.symm)
  | hash a => exact askFixed_of_asBytes? a true (hy.trans hx.symm)
  | bytes c | hexBytes c | keystoreHex c =>
    have hanswer : y.asBytes?.map (c == ·) = some true := by
      rw [hy, ← hx]
      exact congrArg some (beq_self_eq_true c)
    exact hanswer
  | _ => cases hx

theorem SharesForm.ask (h : SharesForm x y) : ask x y = some true := by
  cases h with
  | bytes hx hy => exact ask_of_asBytes? hx hy
  | block n => exact congrArg some (beq_self_eq_true n)

/-- **Values of the same form are equal**, whichever of them is asked first. -/
theorem SharesForm.eq (h : x.takesOthers = true ∨ y.takesOthers = true) (hform : SharesForm x y) :
    x.eq y = true := by
  rw [eq_of_takesOthers h, firstAnswer]
  split
  · rw [hform.symm.ask]
    rfl
  · rw [hform.ask]
    rfl

/-- What a fixed byte string says is equal has its bytes, or was taken for one of its kind. -/
theorem shares_or_takes_of_askFixed {n : Nat} {own : FixedBytes n} {leftPadding : Bool}
    (hx : x.asBytes? = some own.bytes)
    (h : askFixed own (FixedBytes.ofDatum n leftPadding) y = some true) :
    SharesForm x y ∨ Takes x y := by
  -- byte strings are read, and padded if they have fewer bytes
  have hbytes {b : Bytes} (hy : y.asBytes? = some b)
      (hread : FixedBytes.ofDatum n leftPadding y = .ok own) : SharesForm x y ∨ Takes x y := by
    rcases FixedBytes.eq_or_length_lt_of_ofDatum (asByteString?_of_asBytes? hy) hread with
      rfl | hlt
    · exact Or.inl (.bytes hx hy)
    · exact Or.inr (.shorter hx hy (by rw [own.length_bytes]; exact hlt))
  cases y with
  | address a | keystoreAddress a | hash a =>
    refine Or.inl (.bytes hx ?_)
    exact congrArg some (beq_iff_eq.mp (Option.some.inj h)).symm
  | text s => exact Or.inr (.text s)
  | bool b | int i | number i | hexNumber i => exact Or.inr (.integer rfl)
  | bytes b | hexBytes b | keystoreHex b =>
    unfold askFixed at h
    simp only at h
    split at h
    next a hread =>
      obtain rfl : own = a := beq_iff_eq.mp (Option.some.inj h)
      exact hbytes rfl hread
    · cases h
  | _ => cases h

/-- **What a value says is equal has its form, or was taken for one of its kind.** -/
theorem shares_or_takes_of_ask (hx : x.takesOthers = true) (h : ask x y = some true) :
    SharesForm x y ∨ Takes x y := by
  cases x with
  | address a | keystoreAddress a | hash a => exact shares_or_takes_of_askFixed rfl h
  | blockNumber n =>
    cases y with
    | text s => exact Or.inr (.text s)
    | int i | number i | hexNumber i => exact Or.inr (.integer rfl)
    | blockNumber m =>
      obtain rfl : n = m := beq_iff_eq.mp (Option.some.inj h)
      exact Or.inl (.block n)
    | _ => cases h
  | _ => cases hx

/-- A value that takes no others and may go into a set says of one that takes others that it
is equal only if it has its bytes. -/
theorem shares_of_ask (hx : x.takesOthers = true) (hy : y.takesOthers = false)
    (hkey : y.hashKey?.isSome = true) (h : ask y x = some true) : SharesForm y x := by
  have hbytes {b : Bytes} (hy : y.asBytes? = some b) (h : x.asBytes?.map (b == ·) = some true) :
      SharesForm y x := by
    obtain ⟨c, hc, hbc⟩ := Option.map_eq_some_iff.mp h
    rw [← beq_iff_eq.mp hbc] at hc
    exact .bytes hy hc
  cases y with
  | bytes b | hexBytes b | keystoreHex b => exact hbytes rfl h
  | buffer b => cases hkey
  | address a | keystoreAddress a | hash a | blockNumber n => cases hy
  | _ =>
    cases x with
    | address a | keystoreAddress a | hash a | blockNumber n => cases h
    | _ => cases hx

/-- **Equal values share their form, or one was taken for the kind of the other.** -/
theorem shares_or_takes_of_eq (h : x.takesOthers = true ∨ y.takesOthers = true)
    (hx : x.hashKey?.isSome = true) (hy : y.hashKey?.isSome = true) (heq : x.eq y = true) :
    SharesForm x y ∨ Takes x y ∨ Takes y x := by
  have hanswer {x y : Datum} (h : x.takesOthers = true ∨ y.takesOthers = true)
      (hx : x.hashKey?.isSome = true) (hask : ask x y = some true) :
      SharesForm x y ∨ Takes x y := by
    cases htakes : x.takesOthers with
    | true => exact shares_or_takes_of_ask htakes hask
    | false =>
      have hy : y.takesOthers = true := h.resolve_left (by simp [htakes])
      exact Or.inl (shares_of_ask hy htakes hx hask)
  rcases ask_of_eq h heq with hask | hask
  · exact (hanswer h hx hask).imp_right Or.inl
  · exact (hanswer h.symm hy hask).imp SharesForm.symm Or.inr

/-! ## Sets and dictionaries -/

section Sets

variable {p q : HashKey}

/-- Keys of two values are the same exactly if these share their form, whichever of them takes
others. -/
theorem key_eq_iff (h : x.takesOthers = true ∨ y.takesOthers = true) (hx : x.hashKey? = some p)
    (hy : y.hashKey? = some q) : p = q ↔ SharesForm x y := by
  have hiff : x.hashKey? = y.hashKey? ↔ SharesForm x y := by
    rcases h with h | h
    · exact hashKey?_eq_iff h
    · rw [eq_comm, hashKey?_eq_iff h]
      exact ⟨SharesForm.symm, SharesForm.symm⟩
  rw [← hiff, hx, hy, Option.some.injEq]

theorem setSize_eq (hx : x.hashKey? = some p) (hy : y.hashKey? = some q) :
    x.setSize y = .ok (if x.finds y then 1 else 2) := by
  rw [setSize, finds, hx, hy]

theorem finds_eq_true_iff (hx : x.hashKey? = some p) (hy : y.hashKey? = some q) :
    x.finds y = true ↔ p = q ∧ x.eq y = true := by
  rw [finds, hx, hy]
  simp

/-- **Equal values in a set.**  Two values of which one takes others, and which are equal, are
of one of two sorts.  If they share their form, they have the same key, so that they are one
element of a set and each finds the entry of the other in a dictionary.  If one was taken for
the kind of the other instead, they have different keys: they are two elements of a set, and
neither finds the entry of the other. -/
theorem setSize_of_eq (h : x.takesOthers = true ∨ y.takesOthers = true)
    (hx : x.hashKey? = some p) (hy : y.hashKey? = some q) (heq : x.eq y = true) :
    (SharesForm x y ∧ p = q ∧ x.setSize y = .ok 1 ∧ x.finds y = true ∧ y.finds x = true) ∨
    ((Takes x y ∨ Takes y x) ∧ p ≠ q ∧ x.setSize y = .ok 2 ∧ x.finds y = false ∧
      y.finds x = false) := by
  have hkey := key_eq_iff h hx hy
  rw [setSize_eq hx hy]
  by_cases hform : SharesForm x y
  · have hsame : p = q := hkey.mpr hform
    have hthere : x.finds y = true := (finds_eq_true_iff hx hy).mpr ⟨hsame, heq⟩
    have hback : y.finds x = true :=
      (finds_eq_true_iff hy hx).mpr ⟨hsame.symm, hform.symm.eq h.symm⟩
    exact Or.inl ⟨hform, hsame, by rw [if_pos hthere], hthere, hback⟩
  · have htakes := (shares_or_takes_of_eq h (by rw [hx]; rfl) (by rw [hy]; rfl) heq).resolve_left
      hform
    have hdiffer : p ≠ q := fun hsame => hform (hkey.mp hsame)
    have hthere : ¬ x.finds y = true := fun hfinds =>
      hdiffer ((finds_eq_true_iff hx hy).mp hfinds).1
    have hback : ¬ y.finds x = true := fun hfinds =>
      hdiffer ((finds_eq_true_iff hy hx).mp hfinds).1.symm
    exact Or.inr ⟨htakes, hdiffer, by rw [if_neg hthere], by simpa using hthere,
      by simpa using hback⟩

end Sets

/-- The zero digest and one zero byte are equal, by padding, and are two elements of a set; it
is one element with its own 32 bytes. -/
theorem setSize_of_eq_zero :
    takesOthers (.hash .zero) = true ∧
      (Datum.hash .zero).eq (.bytes [0]) = true ∧
      (Datum.hash .zero).setSize (.bytes [0]) = .ok 2 ∧
      (Datum.bytes (Bytes.zeros 32)).eq (.hash .zero) = true ∧
      (Datum.bytes (Bytes.zeros 32)).setSize (.hash .zero) = .ok 1 := by
  have hpadded : (Datum.hash .zero).eq (.bytes [0]) = true := by decide +kernel
  have hsame : (Datum.bytes (Bytes.zeros 32)).eq (.hash .zero) = true := by decide +kernel
  refine ⟨rfl, hpadded, ?_, hsame, ?_⟩
  · rcases setSize_of_eq (Or.inl rfl) rfl rfl hpadded with ⟨-, hkey, -⟩ | ⟨-, -, hsize, -⟩
    · exact absurd hkey (by decide)
    · exact hsize
  · rcases setSize_of_eq (Or.inr rfl) rfl rfl hsame with ⟨-, -, hsize, -⟩ | ⟨-, hkey, -⟩
    · exact hsize
    · exact absurd (by decide) hkey

/-- A block number equals its number, and the two have different keys. -/
theorem setSize_block_and_number :
    (Datum.blockNumber (.number 5 (by decide))).eq (.int 5) = true ∧
      (Datum.blockNumber (.number 5 (by decide))).hashKey? ≠ (Datum.int 5).hashKey? ∧
      (Datum.blockNumber (.number 5 (by decide))).setSize (.int 5) = .ok 2 ∧
      (Datum.blockNumber (.number 5 (by decide))).finds (.int 5) = false :=
  ⟨by decide, by decide, rfl, by decide⟩

end Datum
end Signet
