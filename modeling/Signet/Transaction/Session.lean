import Signet.PrivateKey
import Signet.Transaction.Draft

/-! # Working on transactions

A session has a current and a saved transaction.  At first both are the same
object, and a copy that replaces fields shares its access list with its origin:
what is appended to the one list then shows in the other.  A signed, reloaded
or decoded transaction shares nothing.
-/

namespace Signet

open Transaction (Field)

/-- What the current and the saved transaction have in common. -/
inductive Sharing
  /-- they are one object -/
  | object
  /-- they have one access list -/
  | accessList
  | nothing
  deriving DecidableEq, Repr

/-- A current and a saved transaction. -/
structure Session where
  current : Draft
  saved : Draft
  sharing : Sharing
  deriving Repr

namespace Session

/-- A session that starts with one transaction. -/
def start (tx : Transaction) : Session :=
  ⟨⟨tx, []⟩, ⟨tx, []⟩, .object⟩

/-- Makes another object the current one. -/
def adopt (s : Session) (d : Draft) : Session :=
  { s with current := d, sharing := .nothing }

/-- Saves the current transaction. -/
def save (s : Session) : Session :=
  { s with saved := s.current, sharing := .object }

/-- Exchanges the two transactions. -/
def swap (s : Session) : Session :=
  { s with current := s.saved, saved := s.current }

/-- Whether the two transactions are equal. -/
def equalsSaved (s : Session) : Bool :=
  s.sharing == .object || s.current.eq s.saved

/-- Changes the current object; a new access list is shared with nobody. -/
def mutate (s : Session) (f : Field) (d : Draft) : Session :=
  match s.sharing with
  | .object => { s with current := d, saved := d }
  | .accessList =>
    { s with current := d, sharing := if f = .accessList then .nothing else .accessList }
  | .nothing => { s with current := d }

/-- Assigns a value to the field of a name. -/
def assign (s : Session) (name : String) (d : Datum) : Except Failure Session := do
  let tx ← (s.current.tx.assign name d).toExcept
  match Field.ofName? name with
  | some f => return s.mutate f (s.current.settle [f] tx)
  | none => return s

/-- Performs a builder call: the session after it, and its failure. -/
def build (s : Session) (setter : Transaction.Setter) (d : Datum) : Session × Option Failure :=
  match setter.assignments d with
  | .ok l => Transaction.assignInOrder (fun s f d => s.assign f.name d) s l
  | .error e => (s, some e)

/-- What a copy shares with its origin. -/
def Sharing.ofCopy : Sharing → Sharing
  | .nothing => .nothing
  | _ => .accessList

/-- Replaces fields without validation in a copy, which becomes current.  Names
that belong to no field change nothing. -/
def replace (s : Session) : List (String × Datum) → Session
  | [] => { s with sharing := Sharing.ofCopy s.sharing }
  | (name, x) :: rest =>
    match Field.ofName? name with
    | some .accessList =>
      replace { s with current := s.current.withAccessList x, sharing := .nothing } rest
    | some f => replace { s with current := s.current.replace f x } rest
    | none => replace s rest

/-- Changes the access list of the current transaction in place. -/
def changeAccessList (s : Session) (x : Datum) : Session :=
  match s.sharing with
  | .nothing => { s with current := s.current.withAccessList x }
  | _ =>
    { s with current := s.current.withAccessList x, saved := s.saved.withAccessList x }

/-- Appends an access tuple. -/
def appendAccess (s : Session) (d : Datum) : Except Failure Session := do
  return s.changeAccessList (← s.current.append (AccessTuple.ofDatum d).toExcept)

/-- Appends a storage key to the access tuple at a place. -/
def appendKey (s : Session) (place : Int) (d : Datum) : Except Error Session := do
  return s.changeAccessList (← s.current.appendKey place (Hash.ofDatum d))

/-- Signs the current transaction: the signed copy. -/
def sign (C : Curve) (s : Session) (secret : Datum) : Except Error Draft := do
  s.current.sign C (← SecretKey.ofDatum secret)

/-- Whether a key signed the current transaction. -/
def verify (C : Curve) (s : Session) (k : PrivateKey) : Except Failure Bool :=
  k.verdict PrivateKey.rejectsTransaction (s.current.recover C)

/-- Validates the JSON form of the current transaction as a new one, which
becomes current, and tells whether it equals the old one. -/
def reload (s : Session) : Except Failure (Bool × Session) := do
  let json ← s.current.toJson
  let tx ← (Transaction.ofDatum json).toExcept
  return (Draft.eq ⟨tx, []⟩ s.current, s.adopt ⟨tx, []⟩)

/-- Decodes the wire form of the current transaction, which becomes current, and
counts its bytes. -/
def redecode (s : Session) : Except Error (Session × Nat) := do
  let (tx, consumed) ← Transaction.decode (← s.current.encode)
  return (s.adopt ⟨tx, []⟩, consumed)

end Session
end Signet
