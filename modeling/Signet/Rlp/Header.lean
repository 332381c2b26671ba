import Signet.Rlp.Item

/-! # The prefix of an RLP item

`readHeader` reads the prefix at the start of a byte string.  It takes only the
shortest form of every length, and only where the payload is there in full.
-/

namespace Signet.Rlp

/-- Why a byte string is no item, or an item not of the kind asked for. -/
inductive DecodeError
  | empty
  | emptyTransaction
  | truncatedString
  /-- a byte below `0x80` behind a prefix -/
  | prefixedByte
  | truncatedLength
  | zeroLedLength
  | longFormOfShort
  /-- the prefix declares more bytes than remain -/
  | overrun (declared remaining : Nat)
  /-- the same where the length is no integer; the text is how it is written -/
  | overrunForm (declared : String) (remaining : Nat)
  | tooDeep
  | trailing (count : Nat)
  | notString
  | wrongLength (expected : Int) (actual : Nat)
  | notInteger
  | zeroLedInteger
  | notList
  | wrongCount (expected : Int) (actual : Nat)
  deriving DecidableEq, Repr

/-- How deep lists may stand inside one another. -/
def maxDepth : Nat := 128

/-- The text of a decoding error. -/
def DecodeError.message : DecodeError → String
  | .empty => "Cannot decode empty bytestring"
  | .emptyTransaction => "Cannot decode empty transaction"
  | .truncatedString => "truncated RLP string"
  | .prefixedByte => "single byte below 0x80 must not carry a length prefix"
  | .truncatedLength => "truncated RLP length prefix"
  | .zeroLedLength => "RLP length prefix has leading zeros"
  | .longFormOfShort => "RLP long form used for a short payload"
  | .overrun d r => s!"RLP item declares {d} byte(s) but only {r} remain"
  | .overrunForm d r => s!"RLP item declares {d} byte(s) but only {r} remain"
  | .tooDeep => s!"RLP lists nested deeper than {maxDepth} levels"
  | .trailing n => s!"{n} trailing byte(s) after RLP item"
  | .notString => "expected an RLP string, got a list"
  | .wrongLength e a => s!"expected {e} byte(s), got {a}"
  | .notInteger => "expected an RLP integer, got a list"
  | .zeroLedInteger => "RLP integer has leading zero bytes"
  | .notList => "expected an RLP list, got a string"
  | .wrongCount e a => s!"expected {e} list item(s), got {a}"

/-- What a prefix tells. -/
structure Header where
  /-- whether the item is a list -/
  isList : Bool
  /-- how many bytes stand before the payload -/
  offset : Nat
  /-- how many bytes the payload has -/
  length : Nat
  deriving DecidableEq, Repr

/-- The number of bytes of the whole item. -/
def Header.size (h : Header) : Nat :=
  h.offset + h.length

/-- Whether a list has fewer than `n` items; it is looked at no further than
that. -/
def hasFewer {α : Type} : List α → Nat → Bool
  | _, 0 => false
  | [], _ + 1 => true
  | _ :: r, n + 1 => hasFewer r n

theorem hasFewer_iff {α : Type} {xs : List α} {n : Nat} :
    hasFewer xs n = true ↔ xs.length < n := by
  fun_induction hasFewer xs n with
  | case1 => simp
  | case2 => simp
  | case3 _ r n ih => rw [ih, List.length_cons, Nat.succ_lt_succ_iff]

/-- Reads the length behind a prefix byte that announces `count` length bytes;
`rest` is what follows that byte. -/
def readLongHeader (isList : Bool) (count : Nat) (rest : Bytes) : Except DecodeError Header :=
  if hasFewer rest count then .error .truncatedLength
  else if rest.head? = some 0 then .error .zeroLedLength
  else
    let length := Bytes.toNat (rest.take count)
    if length < longPayload then .error .longFormOfShort
    else .ok ⟨isList, 1 + count, length⟩

/-- Refuses a header whose payload runs past the end of what it is read from. -/
def Header.within {α : Type} (h : Header) (xs : List α) : Except DecodeError Header :=
  if hasFewer xs h.size then .error (.overrun h.length (xs.length - h.offset)) else .ok h

/-- Reads the prefix of the item at the start of a byte string. -/
def readHeader : Bytes → Except DecodeError Header
  | [] => .error .empty
  | first :: rest =>
    let n := first.toNat
    if n < 0x80 then .ok ⟨false, 0, 1⟩
    else if n = 0x81 then
      match rest with
      | [] => .error .truncatedString
      | x :: _ => if x < 0x80 then .error .prefixedByte else .ok ⟨false, 1, 1⟩
    else if n < 0x80 + longPayload then
      Header.within ⟨false, 1, n - 0x80⟩ (first :: rest)
    else if n < 0xC0 then do
      (← readLongHeader false (n - 0xB7) rest).within (first :: rest)
    else if n < 0xC0 + longPayload then
      Header.within ⟨true, 1, n - 0xC0⟩ (first :: rest)
    else do
      (← readLongHeader true (n - 0xF7) rest).within (first :: rest)

/-- The payload of the item at the start of `b`. -/
def Header.payload (h : Header) (b : Bytes) : Bytes :=
  b.slice h.offset h.size

theorem Header.eq_of_within {α : Type} {h h' : Header} {xs : List α}
    (hw : h.within xs = .ok h') : h' = h ∧ h.size ≤ xs.length := by
  unfold Header.within at hw
  split at hw
  · cases hw
  · next hf =>
    rw [hasFewer_iff] at hf
    exact ⟨(Except.ok.inj hw).symm, by omega⟩

theorem offset_of_readLongHeader {l : Bool} {c : Nat} {r : Bytes} {h : Header}
    (hr : readLongHeader l c r = .ok h) : h.offset = 1 + c ∧ longPayload ≤ h.length := by
  unfold readLongHeader at hr
  simp only at hr
  split at hr
  · cases hr
  split at hr
  · cases hr
  split at hr
  · cases hr
  · cases hr
    exact ⟨rfl, by simp only; omega⟩

theorem within_readLongHeader {l : Bool} {c : Nat} {r b : Bytes} {h : Header}
    (hr : (readLongHeader l c r >>= fun h => h.within b) = .ok h) :
    h.offset = 1 + c ∧ 1 ≤ h.size ∧ h.size ≤ b.length := by
  cases hl : readLongHeader l c r with
  | error e => rw [hl] at hr; cases hr
  | ok g =>
    rw [hl] at hr
    obtain ⟨rfl, hs⟩ := Header.eq_of_within hr
    have ho := (offset_of_readLongHeader hl).1
    exact ⟨ho, by unfold Header.size; omega, hs⟩

/-- An item has at least one byte and no more than there are, and a list has a
prefix. -/
theorem bounds_of_readHeader {b : Bytes} {h : Header} (hr : readHeader b = .ok h) :
    1 ≤ h.size ∧ h.size ≤ b.length ∧ (h.isList = true → 1 ≤ h.offset) := by
  cases b with
  | nil => cases hr
  | cons first rest =>
    have hc : 1 ≤ (first :: rest).length := by simp
    simp only [readHeader] at hr
    split at hr
    · cases hr; simp [Header.size]
    split at hr
    · split at hr
      · cases hr
      split at hr
      · cases hr
      · cases hr; simp [Header.size]
    split at hr
    · obtain ⟨rfl, hs⟩ := Header.eq_of_within hr
      exact ⟨by simp only [Header.size]; omega, hs, by simp⟩
    split at hr
    · obtain ⟨ho, h1, h2⟩ := within_readLongHeader hr
      exact ⟨h1, h2, fun _ => by omega⟩
    split at hr
    · obtain ⟨rfl, hs⟩ := Header.eq_of_within hr
      exact ⟨by simp only [Header.size]; omega, hs, by simp⟩
    · obtain ⟨ho, h1, h2⟩ := within_readLongHeader hr
      exact ⟨h1, h2, fun _ => by omega⟩

end Signet.Rlp
