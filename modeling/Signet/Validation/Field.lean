import Signet.Datum.Conversion
import Signet.Datum.Dump
import Signet.Validation.IntegerText

/-! # Validation of fields

Readers for the plain kinds of fields.  An integer field also takes truth
values, numbers without a fraction and decimal text, an unsigned integer as the
number nearest to it; a text field also takes byte strings in UTF-8; a list
field takes lists and tuples, and models as their members.
-/

namespace Signet
namespace Check

/-- The bound that a number without a fraction stays below. -/
def floatBound : Nat := 1 <<< 63

/-- An integer field from a number. -/
def intOfFloat (x : Binary64) : Check Int :=
  match x.truncate? with
  | none => fault .finiteNumber
  | some n =>
    if !x.isIntegral then fault .intFromFloat
    else if n.natAbs < floatBound then .ok n
    else fault .intParsingSize

/-- An integer field from an integer that is first made a double precision
number; one that none is near is no integer here. -/
def intOfUnsigned (n : Nat) : Check Int :=
  match Binary64.ofRat false n with
  | .infinity _ => fault .intType
  | x => intOfFloat x

/-- The value of an integer field. -/
def int (d : Datum) : Check Int :=
  match d with
  | .float x => intOfFloat x
  | .unsigned _ n => intOfUnsigned n
  | .text s => intOfText s.toList
  | d =>
    match d.asInt?, d.asBytes? with
    | some n, _ => .ok n
    | _, some b =>
      match String.fromUTF8? ⟨b.toArray⟩ with
      | some s => intOfText s.toList
      | none => fault .intParsing
    | _, _ => fault .intType

/-- The value of a text field. -/
def text (d : Datum) : Check String :=
  match d with
  | .text s => .ok s
  | d =>
    match d.asByteString? with
    | some b =>
      match String.fromUTF8? ⟨b.toArray⟩ with
      | some s => .ok s
      | none => fault .stringEncoding
    | none => fault .stringType

/-- The value of a field that may be unset. -/
def optional {α : Type} (f : Datum → Check α) (d : Datum) : Check (Option α) :=
  match d with
  | .null => .ok none
  | d => map some (f d)

/-- The values of a list field. -/
def list {α : Type} (f : Datum → Check α) (d : Datum) : Check (List α) :=
  match d with
  | .list items | .tuple items => allFrom f 0 items
  | d =>
    match d.members? with
    | some items => allFrom f 0 items
    | none => fault .listType

/-- Validates the entries of an object. -/
def object {α : Type} (f : List (String × Datum) → Check α) (d : Datum) : Check α :=
  match d with
  | .dict entries => f entries
  | _ => fault .modelType

/-- The first of `names` under which there is an entry, with its value. -/
def firstEntry? (entries : List (String × Datum)) (names : List String) :
    Option (String × Datum) :=
  names.findSome? fun name => (Datum.lookup? name entries).map fun d => (name, d)

/-- A field that must be set, under `name` or else one of `others`.  The faults of
its value are reported under the name it is set by. -/
def required {α : Type} (entries : List (String × Datum)) (name : String)
    (others : List String) (f : Datum → Check α) : Check α :=
  match firstEntry? entries (name :: others) with
  | some (found, d) => under (.field found) (f d)
  | none => under (.field name) (fault .missing)

/-- A field with a default. -/
def withDefault {α : Type} (entries : List (String × Datum)) (name : String)
    (others : List String) (default : α) (f : Datum → Check α) : Check α :=
  match firstEntry? entries (name :: others) with
  | some (found, d) => under (.field found) (f d)
  | none => .ok default

end Check
end Signet
