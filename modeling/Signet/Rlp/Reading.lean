import Signet.Rlp.Header

/-! # Reading RLP

`decodeItem` reads the item at the start of a byte string and tells how many
bytes it took; `decodeAll` reads items to the end; `decode` wants exactly one.
All of them take only what `Item.encode` writes.  The views `asBytes`, `asNat`
and `asList` look at an item as the kind a field needs.
-/

namespace Signet.Rlp

theorem length_payload_lt {b : Bytes} {h : Header} (hr : readHeader b = .ok h)
    (hl : h.isList = true) : (h.payload b).length < b.length := by
  have hb := bounds_of_readHeader hr
  have h1 := hb.2.2 hl
  rw [Header.payload, Bytes.slice, List.length_take, List.length_drop]
  omega

mutual

/-- Reads the item at the start of `b`, which stands inside `depth` lists. -/
def decodeItemAt (depth : Nat) (b : Bytes) : Except DecodeError (Item × Nat) :=
  match hr : readHeader b with
  | .error e => .error e
  | .ok h =>
    if hl : h.isList = true then
      if depth ≥ maxDepth then .error .tooDeep
      else
        have : (h.payload b).length < b.length := length_payload_lt hr hl
        match decodeAllAt (depth + 1) (h.payload b) with
        | .error e => .error e
        | .ok xs => .ok (.list xs, h.size)
    else .ok (.bytes (h.payload b), h.size)
termination_by (b.length, 0)

/-- Reads items until `b` ends; they stand inside `depth` lists. -/
def decodeAllAt (depth : Nat) (b : Bytes) : Except DecodeError (List Item) :=
  match b with
  | [] => .ok []
  | first :: rest =>
    match decodeItemAt depth (first :: rest) with
    | .error e => .error e
    | .ok (x, n) =>
      match decodeAllAt depth (rest.drop (n - 1)) with
      | .error e => .error e
      | .ok xs => .ok (x :: xs)
termination_by (b.length, 1)
decreasing_by
  · exact Prod.Lex.right _ (by decide)
  · exact Prod.Lex.left _ _ (by simp only [List.length_drop, List.length_cons]; omega)

end

/-- Reads the item at the start of `b`: the item and how many bytes it took. -/
def decodeItem (b : Bytes) : Except DecodeError (Item × Nat) :=
  decodeItemAt 0 b

/-- Reads items until `b` ends. -/
def decodeAll (b : Bytes) : Except DecodeError (List Item) :=
  decodeAllAt 0 b

/-- Reads `b` as exactly one item. -/
def decode (b : Bytes) : Except DecodeError Item := do
  let (x, n) ← decodeItem b
  if n = b.length then return x else throw (.trailing (b.length - n))

namespace Item

/-- The byte string of an item, of `length` bytes where a length is given. -/
def asBytes (x : Item) (length : Option Nat) : Except DecodeError Bytes :=
  match x with
  | .list _ => .error .notString
  | .bytes b =>
    match length with
    | some n => if b.length = n then .ok b else .error (.wrongLength n b.length)
    | none => .ok b

/-- The integer that an item writes; its first byte may not be zero. -/
def asNat (x : Item) : Except DecodeError Nat :=
  match x with
  | .list _ => .error .notInteger
  | .bytes b => if b.head? = some 0 then .error .zeroLedInteger else .ok (Bytes.toNat b)

/-- The items of a list, `length` of them where a length is given. -/
def asList (x : Item) (length : Option Nat) : Except DecodeError (List Item) :=
  match x with
  | .bytes _ => .error .notList
  | .list xs =>
    match length with
    | some n => if xs.length = n then .ok xs else .error (.wrongCount n xs.length)
    | none => .ok xs

/-- The item of a nonnegative integer: its shortest byte string. -/
def ofNat (n : Nat) : Item :=
  .bytes (Bytes.ofNat n)

end Item

end Signet.Rlp
