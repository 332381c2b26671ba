import Signet.Proofs.Bytes.Shortest
import Signet.Proofs.Outcome
import Signet.Rlp.Header

/-! # Reading a prefix is the inverse of writing it

A payload stands on the wire in a **frame**: `framed` puts the prefix of its
kind in front of it, except in front of a byte below `0x80`.  `readHeader`
accepts exactly the byte strings that start with a frame, and tells the kind
and the two lengths of that frame (`readHeader_eq_ok_iff`).  So a payload has
one frame, and nothing that deviates from it is read: no longer form of a
length, no zero byte in front of one, no prefix in front of a byte that needs
none, no payload that is cut off.

A prefix has room for eight length bytes, so a payload has fewer than
`payloadCeiling` bytes.
-/

namespace Signet.Rlp

/-- The first payload length that no prefix tells: `2 ^ 64`. -/
def payloadCeiling : Nat := Bytes.ceiling 8

/-- A payload behind the prefix of its kind. -/
def framed (isList : Bool) (payload : Bytes) : Bytes :=
  if isList then withPrefix 0xC0 payload else encodeBytes payload

/-- What the prefix of a framed payload tells. -/
def frameHeader (isList : Bool) (payload : Bytes) : Header :=
  ⟨isList, (framed isList payload).length - payload.length, payload.length⟩

/-! ## The length of a payload in a prefix -/

theorem lengthPrefix_of_lt {base n : Nat} (h : n < longPayload) :
    lengthPrefix base n = [UInt8.ofNat (base + n)] := by
  rw [lengthPrefix, if_pos h]

theorem lengthPrefix_of_le {base n : Nat} (h : longPayload ≤ n) :
    lengthPrefix base n =
      UInt8.ofNat (base + longPayload - 1 + Bytes.width n) :: Bytes.ofNat n := by
  rw [lengthPrefix, if_neg (Nat.not_lt.mpr h)]
  simp only [Bytes.length_ofNat]

theorem length_withPrefix (base : Nat) (p : Bytes) :
    (withPrefix base p).length = (lengthPrefix base p.length).length + p.length :=
  List.length_append

/-- A long length has one to eight bytes. -/
theorem width_bounds {n : Nat} (hlong : longPayload ≤ n) (h : n < payloadCeiling) :
    1 ≤ Bytes.width n ∧ Bytes.width n ≤ 8 := by
  constructor
  · have hnot : ¬ Bytes.width n ≤ 0 := by
      rw [Bytes.width_le_iff, Bytes.ceiling_zero]
      unfold longPayload at hlong
      omega
    omega
  · rw [Bytes.width_le_iff]
    exact h

/-! ## Reading a length -/

theorem within_eq_ok_iff {α : Type} {h h' : Header} {xs : List α} :
    h.within xs = .ok h' ↔ h' = h ∧ h.size ≤ xs.length := by
  constructor
  · exact Header.eq_of_within
  · rintro ⟨rfl, hs⟩
    have hf : ¬ hasFewer xs h'.size = true := by
      rw [hasFewer_iff]
      omega
    rw [Header.within, if_neg hf]

/-- **The length bytes are the shortest ones of a long length.** -/
theorem readLongHeader_eq_ok_iff {l : Bool} {c : Nat} {rest : Bytes} {h : Header} :
    readLongHeader l c rest = .ok h ↔
      ∃ n t, rest = Bytes.ofNat n ++ t ∧ Bytes.width n = c ∧ longPayload ≤ n ∧
        h = ⟨l, 1 + c, n⟩ := by
  constructor
  · intro hr
    unfold readLongHeader at hr
    simp only at hr
    split at hr
    · cases hr
    next hfew =>
    split at hr
    · cases hr
    next hzero =>
    split at hr
    · cases hr
    next hshort =>
    have hlen : (rest.take c).length = c := by
      rw [hasFewer_iff] at hfew
      rw [List.length_take]
      omega
    have hhead : (rest.take c).head? ≠ some 0 := by
      rw [List.head?_take]
      split
      · simp
      · exact hzero
    refine ⟨Bytes.toNat (rest.take c), rest.drop c, ?_, ?_, Nat.not_lt.mp hshort, ?_⟩
    · rw [Bytes.ofNat_toNat hhead, List.take_append_drop]
    · rw [Bytes.width_toNat hhead, hlen]
    · exact (Except.ok.inj hr).symm
  · rintro ⟨n, t, rfl, rfl, hlong, rfl⟩
    have hfew : ¬ hasFewer (Bytes.ofNat n ++ t) (Bytes.width n) = true := by
      rw [hasFewer_iff, List.length_append, Bytes.length_ofNat]
      omega
    have hzero : ¬ (Bytes.ofNat n ++ t).head? = some 0 := by
      intro h0
      cases hb : Bytes.ofNat n with
      | nil =>
        have hn : n = 0 := by rw [← Bytes.toNat_ofNat n, hb, Bytes.toNat_nil]
        unfold longPayload at hlong
        omega
      | cons x r =>
        rw [hb, List.cons_append, List.head?_cons] at h0
        exact Bytes.head?_ofNat n (by rw [hb, List.head?_cons, h0])
    have htake : (Bytes.ofNat n ++ t).take (Bytes.width n) = Bytes.ofNat n := by
      rw [← Bytes.length_ofNat, List.take_left]
    simp only [readLongHeader]
    rw [if_neg hfew, if_neg hzero, htake, Bytes.toNat_ofNat, if_neg (Nat.not_lt.mpr hlong)]

/-- Reads the length that a prefix byte `first` from `base` on announces. -/
def readLength (isList : Bool) (base : Nat) (first : UInt8) (rest : Bytes) :
    Except DecodeError Header :=
  if first.toNat < base + longPayload then
    Header.within ⟨isList, 1, first.toNat - base⟩ (first :: rest)
  else
    readLongHeader isList (first.toNat - (base + longPayload - 1)) rest >>= fun h =>
      h.within (first :: rest)

/-- The byte in front of a payload tells the length, or how many bytes tell it. -/
theorem toNat_of_withPrefix {base : Nat} {first : UInt8} {rest p t : Bytes}
    (hb : base + 64 ≤ 256) (hp : p.length < payloadCeiling)
    (h : first :: rest = withPrefix base p ++ t) :
    (p.length < longPayload ∧ first.toNat = base + p.length ∧ rest = p ++ t) ∨
    (longPayload ≤ p.length ∧ first.toNat = base + longPayload - 1 + Bytes.width p.length ∧
      rest = Bytes.ofNat p.length ++ (p ++ t)) := by
  rw [withPrefix] at h
  rcases Nat.lt_or_ge p.length longPayload with hlt | hge
  · rw [lengthPrefix_of_lt hlt, List.append_assoc, List.cons_append, List.nil_append] at h
    obtain ⟨rfl, rfl⟩ := List.cons.inj h
    refine Or.inl ⟨hlt, UInt8.toNat_ofNat_of_lt ?_, rfl⟩
    unfold longPayload at hlt
    show base + p.length < 256
    omega
  · rw [lengthPrefix_of_le hge, List.append_assoc, List.cons_append] at h
    obtain ⟨rfl, rfl⟩ := List.cons.inj h
    have hw := width_bounds hge hp
    refine Or.inr ⟨hge, UInt8.toNat_ofNat_of_lt ?_, rfl⟩
    show base + longPayload - 1 + Bytes.width p.length < 256
    unfold longPayload
    omega

/-- **A length is read exactly where a payload stands behind its prefix.** -/
theorem readLength_eq_ok_iff {l : Bool} {base : Nat} {first : UInt8} {rest : Bytes} {h : Header}
    (hb : base + 64 ≤ 256) (hlow : base ≤ first.toNat) (hhigh : first.toNat < base + 64) :
    readLength l base first rest = .ok h ↔
      ∃ p t, first :: rest = withPrefix base p ++ t ∧ p.length < payloadCeiling ∧
        h = ⟨l, (lengthPrefix base p.length).length, p.length⟩ := by
  constructor
  · intro hr
    unfold readLength at hr
    split at hr
    next hshort =>
      obtain ⟨rfl, hs⟩ := within_eq_ok_iff.mp hr
      have hlen : (rest.take (first.toNat - base)).length = first.toNat - base := by
        simp only [Header.size, List.length_cons] at hs
        rw [List.length_take]
        omega
      have hlt : first.toNat - base < longPayload := by omega
      refine ⟨rest.take (first.toNat - base), rest.drop (first.toNat - base), ?_, ?_, ?_⟩
      · rw [withPrefix, hlen, lengthPrefix_of_lt hlt, List.append_assoc, List.take_append_drop,
          Nat.add_sub_cancel' hlow, UInt8.ofNat_toNat]
        rfl
      · rw [hlen]
        exact Nat.lt_trans hlt (by decide)
      · rw [hlen, lengthPrefix_of_lt hlt]
        rfl
    next hlong =>
      obtain ⟨g, hg, hw⟩ := bind_eq_ok_iff.mp hr
      obtain ⟨rfl, hs⟩ := within_eq_ok_iff.mp hw
      obtain ⟨n, t, rfl, hwidth, hn, rfl⟩ := readLongHeader_eq_ok_iff.mp hg
      have hlen : (t.take n).length = n := by
        simp only [Header.size, List.length_cons, List.length_append, Bytes.length_ofNat] at hs
        rw [List.length_take]
        omega
      refine ⟨t.take n, t.drop n, ?_, ?_, ?_⟩
      · rw [withPrefix, hlen, lengthPrefix_of_le hn, List.append_assoc, List.take_append_drop,
          hwidth, Nat.add_sub_cancel' (by omega), UInt8.ofNat_toNat]
        rfl
      · rw [hlen]
        refine Bytes.width_le_iff.mp ?_
        unfold longPayload at hwidth
        omega
      · rw [hlen, lengthPrefix_of_le hn, List.length_cons, Bytes.length_ofNat, hwidth,
          Nat.add_comm]
  · rintro ⟨p, t, heq, hp, rfl⟩
    have hsize : (lengthPrefix base p.length).length + p.length ≤ (first :: rest).length := by
      rw [heq, List.length_append, length_withPrefix]
      omega
    unfold readLength
    rcases toNat_of_withPrefix hb hp heq with ⟨hlt, hfirst, -⟩ | ⟨hge, hfirst, hrest⟩
    · rw [if_pos (by omega), within_eq_ok_iff, lengthPrefix_of_lt hlt, hfirst,
        Nat.add_sub_cancel_left]
      rw [lengthPrefix_of_lt hlt] at hsize
      exact ⟨rfl, hsize⟩
    · have hw := width_bounds hge hp
      have hread : readLongHeader l (first.toNat - (base + longPayload - 1)) rest =
          .ok ⟨l, (lengthPrefix base p.length).length, p.length⟩ := by
        rw [readLongHeader_eq_ok_iff]
        refine ⟨p.length, p ++ t, hrest, by omega, hge, ?_⟩
        rw [lengthPrefix_of_le hge, List.length_cons, Bytes.length_ofNat, hfirst,
          Nat.add_sub_cancel_left, Nat.add_comm]
      rw [if_neg (by omega), hread]
      exact within_eq_ok_iff.mpr ⟨rfl, hsize⟩

/-! ## Reading a whole prefix -/

theorem readHeader_of_string {first : UInt8} {rest : Bytes} (hlow : 0x80 ≤ first.toNat)
    (hone : first.toNat ≠ 0x81) (hhigh : first.toNat < 0xC0) :
    readHeader (first :: rest) = readLength false 0x80 first rest := by
  unfold readHeader readLength
  simp only
  rw [if_neg (Nat.not_lt.mpr hlow), if_neg hone]
  by_cases hs : first.toNat < 0x80 + longPayload
  · rw [if_pos hs, if_pos hs]
  · rw [if_neg hs, if_neg hs, if_pos hhigh]
    rfl

theorem readHeader_of_list {first : UInt8} {rest : Bytes} (hlow : 0xC0 ≤ first.toNat) :
    readHeader (first :: rest) = readLength true 0xC0 first rest := by
  unfold readHeader readLength
  simp only
  rw [if_neg (by omega), if_neg (by omega), if_neg (by unfold longPayload; omega),
    if_neg (Nat.not_lt.mpr hlow)]
  by_cases hs : first.toNat < 0xC0 + longPayload
  · rw [if_pos hs, if_pos hs]
  · rw [if_neg hs, if_neg hs]
    rfl

theorem readHeader_of_own {first : UInt8} {rest : Bytes} (h : first < 0x80) :
    readHeader (first :: rest) = .ok ⟨false, 0, 1⟩ :=
  if_pos (show first.toNat < 0x80 from h)

theorem readHeader_of_single {first x : UInt8} {rest : Bytes} (h : first.toNat = 0x81) :
    readHeader (first :: x :: rest) =
      if x < 0x80 then .error .prefixedByte else .ok ⟨false, 1, 1⟩ := by
  unfold readHeader
  simp only
  rw [if_neg (by omega), if_pos h]

/-! ## The two forms of a frame -/

/-- A byte below `0x80` is its own frame. -/
theorem framed_own {x : UInt8} (hx : x < 0x80) : framed false [x] = [x] := by
  rw [framed, if_neg (by decide), encodeBytes, if_pos hx]

/-- Every other byte string stands behind a prefix. -/
theorem framed_prefixed {p : Bytes} (hp : ∀ x, p = [x] → ¬ x < 0x80) :
    framed false p = withPrefix 0x80 p := by
  rw [framed, if_neg (by decide)]
  match p with
  | [] => rfl
  | [x] => rw [encodeBytes, if_neg (hp x rfl)]
  | _ :: _ :: _ => rfl

theorem framed_single {x : UInt8} (hx : ¬ x < 0x80) : framed false [x] = [0x81, x] := by
  rw [framed_prefixed fun y hy => (List.cons.inj hy).1 ▸ hx, withPrefix,
    List.length_singleton, lengthPrefix_of_lt (by decide)]
  rfl

theorem frameHeader_own {x : UInt8} (hx : x < 0x80) : frameHeader false [x] = ⟨false, 0, 1⟩ := by
  rw [frameHeader, framed_own hx]
  rfl

theorem frameHeader_single {x : UInt8} (hx : ¬ x < 0x80) :
    frameHeader false [x] = ⟨false, 1, 1⟩ := by
  rw [frameHeader, framed_single hx]
  rfl

theorem frameHeader_of_prefixed {l : Bool} {base : Nat} {p : Bytes}
    (h : framed l p = withPrefix base p) :
    frameHeader l p = ⟨l, (lengthPrefix base p.length).length, p.length⟩ := by
  rw [frameHeader, h, length_withPrefix, Nat.add_sub_cancel]

/-! ## Reading a frame -/

/-- What stands at the start of `b` is read as the frame of a byte string or of
a list, if it is one. -/
theorem framed_of_readHeader {b : Bytes} {h : Header} (hr : readHeader b = .ok h) :
    ∃ l p t, b = framed l p ++ t ∧ p.length < payloadCeiling ∧ h = frameHeader l p := by
  have hone : 1 < payloadCeiling := by decide
  cases b with
  | nil => cases hr
  | cons first rest =>
    by_cases hown : first < 0x80
    · rw [readHeader_of_own hown] at hr
      refine ⟨false, [first], rest, ?_, hone, ?_⟩
      · rw [framed_own hown]
        rfl
      · rw [frameHeader_own hown]
        exact (Except.ok.inj hr).symm
    have hlow : 0x80 ≤ first.toNat := Nat.not_lt.mp hown
    rcases Nat.lt_or_ge first.toNat 0xC0 with hhigh | hlist
    · by_cases hsingle : first.toNat = 0x81
      · -- one byte behind a prefix: only a byte from `0x80` on may stand there
        obtain rfl : first = 0x81 := UInt8.toNat_inj.mp hsingle
        cases rest with
        | nil => cases hr
        | cons x t =>
          rw [readHeader_of_single hsingle] at hr
          split at hr
          · cases hr
          next hx =>
            refine ⟨false, [x], t, ?_, hone, ?_⟩
            · rw [framed_single hx]
              rfl
            · rw [frameHeader_single hx]
              exact (Except.ok.inj hr).symm
      · rw [readHeader_of_string hlow hsingle hhigh,
          readLength_eq_ok_iff (by decide) hlow hhigh] at hr
        obtain ⟨p, t, heq, hp, rfl⟩ := hr
        -- a single byte would have been told by `0x81`
        have hframe : framed false p = withPrefix 0x80 p := by
          refine framed_prefixed fun x hx => ?_
          rcases toNat_of_withPrefix (by decide) hp heq with ⟨-, hfirst, -⟩ | ⟨hge, -, -⟩
          · rw [hx] at hfirst
            exact absurd hfirst hsingle
          · rw [hx, List.length_singleton] at hge
            exact absurd hge (by decide)
        exact ⟨false, p, t, by rw [hframe, heq], hp, (frameHeader_of_prefixed hframe).symm⟩
    · have hhigh : first.toNat < 0xC0 + 64 := first.toNat_lt
      rw [readHeader_of_list hlist, readLength_eq_ok_iff (by decide) hlist hhigh] at hr
      obtain ⟨p, t, heq, hp, rfl⟩ := hr
      exact ⟨true, p, t, heq, hp, (frameHeader_of_prefixed rfl).symm⟩

/-- The first byte of a prefix is in the range of its kind, and tells one payload
byte only where there is one. -/
theorem exists_cons_of_withPrefix (base : Nat) {p : Bytes} (t : Bytes) (hb : base + 64 ≤ 256)
    (hp : p.length < payloadCeiling) :
    ∃ first rest, withPrefix base p ++ t = first :: rest ∧ base ≤ first.toNat ∧
      first.toNat < base + 64 ∧ (p.length ≠ 1 → first.toNat ≠ base + 1) := by
  cases hcons : withPrefix base p ++ t with
  | nil =>
    have hnil := congrArg List.length hcons
    rw [List.length_append, length_withPrefix, List.length_nil, lengthPrefix] at hnil
    split at hnil <;> simp at hnil
  | cons first rest =>
    refine ⟨first, rest, rfl, ?_⟩
    rcases toNat_of_withPrefix hb hp hcons.symm with ⟨hlt, hfirst, -⟩ | ⟨hge, hfirst, -⟩
    · unfold longPayload at hlt
      omega
    · have hw := width_bounds hge hp
      unfold longPayload at hge hfirst
      omega

/-- A frame is read as what it is, whatever follows it. -/
theorem readHeader_framed {l : Bool} {p : Bytes} (t : Bytes) (hp : p.length < payloadCeiling) :
    readHeader (framed l p ++ t) = .ok (frameHeader l p) := by
  cases l with
  | true =>
    obtain ⟨first, rest, hcons, hlow, hhigh, -⟩ :=
      exists_cons_of_withPrefix 0xC0 t (by decide) hp
    rw [frameHeader_of_prefixed rfl, show framed true p = withPrefix 0xC0 p from rfl, hcons,
      readHeader_of_list hlow, readLength_eq_ok_iff (by decide) hlow hhigh]
    exact ⟨p, t, hcons.symm, hp, rfl⟩
  | false =>
    by_cases hsingle : ∃ x, p = [x]
    · obtain ⟨x, rfl⟩ := hsingle
      by_cases hx : x < 0x80
      · rw [framed_own hx, frameHeader_own hx]
        exact readHeader_of_own hx
      · rw [framed_single hx, frameHeader_single hx]
        exact (readHeader_of_single rfl).trans (if_neg hx)
    · have hframe : framed false p = withPrefix 0x80 p :=
        framed_prefixed fun x h => absurd ⟨x, h⟩ hsingle
      have hlen : p.length ≠ 1 := fun h => hsingle (List.length_eq_one_iff.mp h)
      obtain ⟨first, rest, hcons, hlow, hhigh, hone⟩ :=
        exists_cons_of_withPrefix 0x80 t (by decide) hp
      rw [frameHeader_of_prefixed hframe, hframe, hcons,
        readHeader_of_string hlow (hone hlen) hhigh,
        readLength_eq_ok_iff (by decide) hlow hhigh]
      exact ⟨p, t, hcons.symm, hp, rfl⟩

/-- **A prefix is read exactly where a framed payload stands.** -/
theorem readHeader_eq_ok_iff {b : Bytes} {h : Header} :
    readHeader b = .ok h ↔
      ∃ l p t, b = framed l p ++ t ∧ p.length < payloadCeiling ∧ h = frameHeader l p := by
  constructor
  · exact framed_of_readHeader
  · rintro ⟨l, p, t, rfl, hp, rfl⟩
    exact readHeader_framed t hp

/-! ## What a frame is made of -/

@[simp] theorem isList_frameHeader (l : Bool) (p : Bytes) : (frameHeader l p).isList = l := rfl

/-- The payload stands at the end of its frame. -/
theorem exists_framed_eq (l : Bool) (p : Bytes) : ∃ pre, framed l p = pre ++ p := by
  cases l with
  | true => exact ⟨_, rfl⟩
  | false =>
    by_cases hown : ∃ x, p = [x] ∧ x < 0x80
    · obtain ⟨x, rfl, hx⟩ := hown
      exact ⟨[], framed_own hx⟩
    · exact ⟨_, framed_prefixed fun x hp hx => hown ⟨x, hp, hx⟩⟩

theorem length_le_framed (l : Bool) (p : Bytes) : p.length ≤ (framed l p).length := by
  obtain ⟨pre, h⟩ := exists_framed_eq l p
  rw [h, List.length_append]
  omega

/-- A prefix takes no more than nine bytes. -/
theorem length_framed_le {l : Bool} {p : Bytes} (hp : p.length < payloadCeiling) :
    (framed l p).length ≤ p.length + 9 := by
  have hprefix : ∀ base, (withPrefix base p).length ≤ p.length + 9 := by
    intro base
    rw [length_withPrefix]
    by_cases hs : p.length < longPayload
    · rw [lengthPrefix_of_lt hs, List.length_singleton]
      omega
    · rw [lengthPrefix_of_le (Nat.not_lt.mp hs), List.length_cons, Bytes.length_ofNat]
      have hwidth := (width_bounds (Nat.not_lt.mp hs) hp).2
      omega
  cases l with
  | true => exact hprefix 0xC0
  | false =>
    show (encodeBytes p).length ≤ _
    unfold encodeBytes
    split
    · split
      · exact Nat.le_add_right ..
      · exact hprefix 0x80
    · exact hprefix 0x80

@[simp] theorem size_frameHeader (l : Bool) (p : Bytes) :
    (frameHeader l p).size = (framed l p).length :=
  Nat.sub_add_cancel (length_le_framed l p)

@[simp] theorem payload_frameHeader (l : Bool) (p t : Bytes) :
    (frameHeader l p).payload (framed l p ++ t) = p := by
  obtain ⟨pre, h⟩ := exists_framed_eq l p
  have hoff : (frameHeader l p).offset = pre.length := by
    rw [frameHeader, h, List.length_append, Nat.add_sub_cancel]
  rw [Header.payload, Bytes.slice, hoff, size_frameHeader, h, List.append_assoc, List.drop_left,
    List.length_append, Nat.add_sub_cancel_left, List.take_left]

/-- A frame has at least one byte. -/
theorem framed_pos {l : Bool} {p : Bytes} (hp : p.length < payloadCeiling) :
    1 ≤ (framed l p).length := by
  have h := (bounds_of_readHeader (readHeader_framed (l := l) [] hp)).1
  rwa [size_frameHeader] at h

end Signet.Rlp
