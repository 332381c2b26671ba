import Signet.Bytes

/-! # RLP items and their encoding

An RLP item is a byte string or a list of items.  A byte below `0x80` is its
own encoding; every other string and every list is its payload behind a prefix
that tells the kind and the length.  Lengths below 56 sit in the prefix byte,
longer ones follow it in as few bytes as hold them.
-/

namespace Signet.Rlp

/-- A tree whose leaves are byte strings. -/
inductive Item
  | bytes (b : Bytes)
  | list (items : List Item)
  deriving BEq, Repr, Inhabited

/-- Why a value has no encoding. -/
inductive EncodeError
  /-- a negative integer; the text is how it is shown -/
  | negative (shown : String)
  /-- a value of a kind without encoding; the text names the kind -/
  | unsupported (kind : String)
  deriving DecidableEq, Repr

/-- The text of an encoding error. -/
def EncodeError.message : EncodeError → String
  | .negative shown => "cannot encode negative integer " ++ shown
  | .unsupported kind => "RLP Encoding of type " ++ kind ++ " is not supported"

namespace Item

mutual

/-- How many lists stand inside one another, at most; a byte string has depth
zero and an empty list depth one. -/
def depth : Item → Nat
  | .bytes _ => 0
  | .list xs => depthAll xs + 1

/-- The greatest depth among `xs`. -/
def depthAll : List Item → Nat
  | [] => 0
  | x :: r => max x.depth (depthAll r)

end

end Item

/-- The first payload length that does not fit into the prefix byte. -/
def longPayload : Nat := 0x38

/-- The prefix of a payload of `n` bytes: `base + n` where that fits a byte
pattern, else the byte count of `n` above the short forms, and `n` itself. -/
def lengthPrefix (base n : Nat) : Bytes :=
  if n < longPayload then [UInt8.ofNat (base + n)]
  else
    let be := Bytes.ofNat n
    UInt8.ofNat (base + longPayload - 1 + be.length) :: be

/-- A payload behind its prefix. -/
def withPrefix (base : Nat) (payload : Bytes) : Bytes :=
  lengthPrefix base payload.length ++ payload

/-- The encoding of a byte string. -/
def encodeBytes : Bytes → Bytes
  | [x] => if x < 0x80 then [x] else withPrefix 0x80 [x]
  | b => withPrefix 0x80 b

mutual

/-- The encoding of an item. -/
def Item.encode : Item → Bytes
  | .bytes b => encodeBytes b
  | .list xs => withPrefix 0xC0 (encodeAll xs)

/-- The encodings of `xs`, one after the other. -/
def encodeAll : List Item → Bytes
  | [] => []
  | x :: r => x.encode ++ encodeAll r

end

/-- The encoding of a list of items. -/
def encodeList (xs : List Item) : Bytes :=
  withPrefix 0xC0 (encodeAll xs)

@[simp] theorem encodeAll_nil : encodeAll [] = [] := rfl

@[simp] theorem encodeAll_cons (x : Item) (r : List Item) :
    encodeAll (x :: r) = x.encode ++ encodeAll r := rfl

theorem encodeAll_append (a b : List Item) : encodeAll (a ++ b) = encodeAll a ++ encodeAll b := by
  induction a with
  | nil => rfl
  | cons x r ih => rw [List.cons_append, encodeAll_cons, ih, encodeAll_cons, List.append_assoc]

end Signet.Rlp
