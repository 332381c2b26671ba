import Signet.Datum.Conversion

/-! # Equality of values

Two values are compared by asking one of them about the other.  A value may
decline to answer, and then the other is asked; where both decline, the values
differ.  Fixed byte strings answer about text, integers and byte strings by
taking the other value for one of their own kind, and a block number answers so
about every value.  An unsigned integer answers about integers of every kind and
declines on all else, so that it equals no float.  Where the second value is of
a kind derived from that of the first, it is asked first.

`ne` asks in the same way, and every answer is the negation of that to `eq`,
except that a fixed byte string which declines to say whether a value is equal
says that it is not unequal.

Values that go into sets have a hash key; equal values of different kinds need
not have the same one.
-/

namespace Signet
namespace Datum

/-- The number that a numeric value is, where it is finite. -/
def toRat? : Datum → Option Rat
  | .float x => x.toRat?
  | .unsigned _ n => some (n : Rat)
  | d => d.asInt?.map fun i => (i : Rat)

/-- The integer that an integer of any kind is, an unsigned one among them. -/
def integer? : Datum → Option Int
  | .unsigned _ n => some n
  | d => d.asInt?

/-- The answer of a fixed byte string `own` about `other`, which `construct`
takes for one of the same kind. -/
def askFixed {n : Nat} (own : FixedBytes n) (construct : Datum → Except Error (FixedBytes n))
    (other : Datum) : Option Bool :=
  match other with
  | .null => some false
  | .address a | .keystoreAddress a => some (own.bytes == a.bytes)
  | .hash h => some (own.bytes == h.bytes)
  | .text _ | .bool _ | .int _ | .number _ | .hexNumber _ | .bytes _ | .hexBytes _
  | .keystoreHex _ =>
    match construct other with
    | .ok x => some (own == x)
    | .error _ => some false
  | _ => none

/-- Whether `x` says that `y` equals it; nothing where it declines, as values
made of values do here. -/
def ask (x y : Datum) : Option Bool :=
  match x, y with
  | .null, .null => some true
  | .float a, .float b => some (a.equals b)
  | .float a, y => y.asInt?.map a.isInt
  | .unsigned _ n, y => y.integer?.map fun i => (n : Int) == i
  | .text a, .text b => some (a == b)
  | .address a, y | .keystoreAddress a, y => askFixed a Address.ofDatum y
  | .hash h, y => askFixed h Hash.ofDatum y
  | .bytes b, y | .hexBytes b, y | .keystoreHex b, y => y.asBytes?.map (b == ·)
  | .buffer b, y => y.asByteString?.map (b == ·)
  | .blockNumber n, y =>
    match BlockNumber.ofDatum y with
    | .ok m => some (n == m)
    | .error _ => some false
  | .accessTuple a, .accessTuple b => some (a == b)
  | .transaction a, .transaction b => some (a == b)
  | .keystore a, .keystore b => some (a == b)
  | x, y =>
    match x.asInt?, y.asInt? with
    | some i, some j => some (i == j)
    | _, _ => none

/-- Whether the kind of `y` is derived from that of `x` and answers otherwise. -/
def yields (x y : Datum) : Bool :=
  match x, y with
  | .bytes _, .address _ | .bytes _, .hash _ | .bytes _, .keystoreAddress _ => true
  | .hexBytes _, .address _ | .hexBytes _, .hash _ | .hexBytes _, .keystoreAddress _ => true
  | _, _ => false

/-- Whether a value is a fixed byte string. -/
def isFixed : Datum → Bool
  | .address _ | .hash _ | .keystoreAddress _ => true
  | _ => false

/-- Whether `x` says that `y` differs from it. -/
def askUnequal (x y : Datum) : Option Bool :=
  match ask x y with
  | some b => some !b
  | none => if x.isFixed then some false else none

/-- The first answer of `x` and `y` to `question`, in the order in which they
are asked. -/
def firstAnswer (question : Datum → Datum → Option Bool) (x y : Datum) : Option Bool :=
  if x.yields y then (question y x).or (question x y)
  else (question x y).or (question y x)

mutual

/-- Whether two values are equal. -/
def eq : Datum → Datum → Bool
  | .list xs, .list ys => eqAll xs ys
  | .tuple xs, .tuple ys => eqAll xs ys
  | .dict xs, .dict ys => xs.length == ys.length && eqEntries xs ys
  | .signature v r s, .signature v' r' s' => eq v v' && eq r r' && eq s s'
  | x, y => (firstAnswer ask x y).getD false

/-- Whether the values of two lists are equal in order. -/
def eqAll : List Datum → List Datum → Bool
  | [], [] => true
  | x :: xs, y :: ys => eq x y && eqAll xs ys
  | _, _ => false

/-- Whether every entry has an equal one in `ys`. -/
def eqEntries : List (String × Datum) → List (String × Datum) → Bool
  | [], _ => true
  | (name, x) :: xs, ys =>
    (match lookup? name ys with
      | some y => eq x y
      | none => false) && eqEntries xs ys

end

/-- Whether two values are unequal, as they say themselves. -/
def ne : Datum → Datum → Bool
  | .list xs, .list ys => !eq (.list xs) (.list ys)
  | .tuple xs, .tuple ys => !eq (.tuple xs) (.tuple ys)
  | .dict xs, .dict ys => !eq (.dict xs) (.dict ys)
  | .signature v r s, .signature v' r' s' => !eq (.signature v r s) (.signature v' r' s')
  | x, y => (firstAnswer askUnequal x y).getD true

/-- What tells the values of a set apart before they are compared. -/
inductive HashKey
  | null
  | number (q : Rat)
  /-- a number that is not finite, by its text -/
  | special (text : String)
  | text (s : String)
  | bytes (b : Bytes)
  | block (n : BlockNumber)
  | tuple (keys : List HashKey)
  | signature (v r s : HashKey)
  deriving Repr

namespace HashKey

mutual

/-- Whether two keys are the same. -/
def same : HashKey → HashKey → Bool
  | .null, .null => true
  | .number p, .number q => p == q
  | .special s, .special t => s == t
  | .text s, .text t => s == t
  | .bytes b, .bytes c => b == c
  | .block m, .block n => m == n
  | .tuple hs, .tuple ks => sameAll hs ks
  | .signature v r s, .signature v' r' s' => same v v' && (same r r' && same s s')
  | _, _ => false

/-- Whether the keys of two lists are the same in order. -/
def sameAll : List HashKey → List HashKey → Bool
  | [], [] => true
  | h :: hs, k :: ks => same h k && sameAll hs ks
  | _, _ => false

end

mutual

theorem same_iff : (h k : HashKey) → (h.same k = true ↔ h = k)
  | .null, k | .number _, k | .special _, k | .text _, k | .bytes _, k | .block _, k => by
    cases k <;> simp [same]
  | .tuple hs, k => by cases k <;> simp [same, sameAll_iff hs]
  | .signature v r s, k => by cases k <;> simp [same, same_iff v, same_iff r, same_iff s]

theorem sameAll_iff : (hs ks : List HashKey) → (sameAll hs ks = true ↔ hs = ks)
  | [], ks => by cases ks <;> simp [sameAll]
  | h :: hs, ks => by cases ks <;> simp [sameAll, same_iff h, sameAll_iff hs]

end

instance : DecidableEq HashKey := fun h k => decidable_of_iff _ (same_iff h k)

end HashKey

mutual

/-- The hash key of a value that may go into a set. -/
def hashKey? : Datum → Option HashKey
  | .null => some .null
  | .float x =>
    match x.toRat? with
    | some q => some (.number q)
    | none => some (.special x.text)
  | .text s => some (.text s)
  | .blockNumber n => some (.block n)
  | .tuple xs => (hashKeys? xs).map .tuple
  | .signature v r s => do
    return .signature (← hashKey? v) (← hashKey? r) (← hashKey? s)
  | d =>
    match d.toRat?, d.asBytes? with
    | some q, _ => some (.number q)
    | none, some b => some (.bytes b)
    | none, none => none

/-- The hash keys of values in order. -/
def hashKeys? : List Datum → Option (List HashKey)
  | [] => some []
  | x :: r => do return (← hashKey? x) :: (← hashKeys? r)

end

/-- The number of elements of the set of two values, where both may go into
one. -/
def setSize (x y : Datum) : Except Error Nat :=
  match x.hashKey?, y.hashKey? with
  | some h, some k => .ok (if h == k && eq x y then 1 else 2)
  | _, _ => .error (.kind .other)

end Datum
end Signet
