import Signet.Datum.Basic

/-! # JSON values

A JSON value tells integers from numbers with a fraction or an exponent.  The
members of an object keep their order, and a name may come more than once; as a
dictionary the last value of a name counts, at the place of the first.
-/

namespace Signet

/-- A JSON value. -/
inductive Json
  | null
  | bool (b : Bool)
  | int (i : Int)
  /-- a number with a fraction or an exponent, or one that is not finite -/
  | float (x : Binary64)
  | text (s : String)
  | array (items : List Json)
  | object (members : List (String × Json))
  deriving Repr, Inhabited

namespace Json

/-- Puts an entry in front of a dictionary, unless a later entry of the name
takes its place. -/
def putEntry (name : String) (d : Datum) (rest : List (String × Datum)) :
    List (String × Datum) :=
  (name, (Datum.lookup? name rest).getD d) :: rest.filter fun e => e.1 != name

mutual

/-- A JSON value as a datum. -/
def toDatum : Json → Datum
  | .null => .null
  | .bool b => .bool b
  | .int i => .int i
  | .float x => .float x
  | .text s => .text s
  | .array items => .list (itemsToData items)
  | .object members => .dict (membersToEntries members)

/-- JSON values as data, in order. -/
def itemsToData : List Json → List Datum
  | [] => []
  | x :: r => toDatum x :: itemsToData r

/-- The members of an object as the entries of a dictionary. -/
def membersToEntries : List (String × Json) → List (String × Datum)
  | [] => []
  | (name, x) :: r => putEntry name (toDatum x) (membersToEntries r)

end

end Json
end Signet
