import Signet.Error

/-! # Validation

Validating an object looks at every field in order.  A field that refuses its
value leaves a fault, and the other fields are still looked at; any other cause
ends the validation at once and is its outcome, whatever faults there are.
`Check` is the outcome of a validation, with an applicative `<*>` that keeps
this rule, and `Failure` is what an operation that validates can fail with.
-/

namespace Signet

/-- A step on the way from an object to a value inside it. -/
inductive Step
  | field (name : String)
  | index (i : Nat)
  deriving DecidableEq, Repr

/-- What is wrong with a value. -/
inductive FaultKind
  | missing
  | modelType
  | listType
  | stringType
  | stringEncoding
  | jsonInvalid
  | jsonType
  | intType
  | intParsing
  | intParsingSize
  | intFromFloat
  | finiteNumber
  | greaterThan
  | greaterThanEqual
  | enum
  | noSuchAttribute
  | frozenInstance
  /-- the value is refused for this cause -/
  | refused (cause : Error)
  deriving DecidableEq, Repr

/-- The name of a fault. -/
def FaultKind.label : FaultKind → String
  | .missing => "missing"
  | .modelType => "model_type"
  | .listType => "list_type"
  | .stringType => "string_type"
  | .stringEncoding => "string_unicode"
  | .jsonInvalid => "json_invalid"
  | .jsonType => "json_type"
  | .intType => "int_type"
  | .intParsing => "int_parsing"
  | .intParsingSize => "int_parsing_size"
  | .intFromFloat => "int_from_float"
  | .finiteNumber => "finite_number"
  | .greaterThan => "greater_than"
  | .greaterThanEqual => "greater_than_equal"
  | .enum => "enum"
  | .noSuchAttribute => "no_such_attribute"
  | .frozenInstance => "frozen_instance"
  | .refused _ => "value_error"

/-- A fault and where it is. -/
structure Fault where
  path : List Step
  kind : FaultKind
  deriving DecidableEq, Repr

/-- Why an operation fails. -/
inductive Failure
  | error (e : Error)
  /-- a validation found faults -/
  | invalid (faults : List Fault)
  /-- the text of a keystore has faults -/
  | malformedKeystore (faults : List Fault)
  deriving DecidableEq, Repr

namespace Failure

/-- The class of a failure. -/
def label : Failure → String
  | .error e => e.label
  | .invalid _ => "ValidationError"
  | .malformedKeystore _ => "InvalidKeystoreError"

/-- The text of a failure, where it is fixed. -/
def message? : Failure → Option String
  | .error e => e.message?
  | .invalid _ => none
  | .malformedKeystore _ => some "malformed keystore"

/-- The faults of a failed validation. -/
def faults? : Failure → Option (List Fault)
  | .error _ => none
  | .invalid fs | .malformedKeystore fs => some fs

/-- Whether a failure refuses a value of the right kind. -/
def refuses : Failure → Bool
  | .error e => e.refuses
  | _ => true

/-- Whether a failure belongs to a class that this library declares. -/
def isDeclared : Failure → Bool
  | .error e => e.isDeclared
  | .invalid _ => false
  | .malformedKeystore _ => true

end Failure

instance : MonadLift (Except Error) (Except Failure) where
  monadLift x := x.mapError .error

/-- The outcome of a validation. -/
inductive Check (α : Type)
  | ok (a : α)
  /-- some fields refuse their values -/
  | faults (fs : List Fault)
  /-- the validation ended at once -/
  | abort (e : Error)
  deriving Repr

namespace Check

variable {α β : Type}

/-- Applies `f` to the value of a validation. -/
def map (f : α → β) : Check α → Check β
  | .ok a => .ok (f a)
  | .faults fs => .faults fs
  | .abort e => .abort e

/-- Joins two validations: an end comes before faults, and the first of two ends
counts; the faults of both are kept in order. -/
def seq (f : Check (α → β)) (x : Check α) : Check β :=
  match f, x with
  | .abort e, _ => .abort e
  | _, .abort e => .abort e
  | .faults fs, .faults gs => .faults (fs ++ gs)
  | .faults fs, .ok _ => .faults fs
  | .ok _, .faults gs => .faults gs
  | .ok f, .ok a => .ok (f a)

instance : Functor Check where
  map := map

instance : Applicative Check where
  pure := .ok
  seq f x := seq f (x ())

/-- The validation that finds one fault, right where it looks. -/
def fault (kind : FaultKind) : Check α :=
  .faults [⟨[], kind⟩]

/-- The outcome of a constructor: a refusal is a fault, any other cause an end. -/
def ofExcept : Except Error α → Check α
  | .ok a => .ok a
  | .error e => if e.refuses then fault (.refused e) else .abort e

/-- Goes on with a valid value. -/
def andThen (x : Check α) (f : α → Check β) : Check β :=
  match x with
  | .ok a => f a
  | .faults fs => .faults fs
  | .abort e => .abort e

/-- A validation of the value behind `step`. -/
def under (step : Step) : Check α → Check α
  | .faults fs => .faults (fs.map fun f => { f with path := step :: f.path })
  | c => c

/-- Validates the values of a list, the first of them at index `i`. -/
def allFrom {δ : Type} (f : δ → Check α) : Nat → List δ → Check (List α)
  | _, [] => .ok []
  | i, x :: r => seq (map List.cons ((f x).under (.index i))) (allFrom f (i + 1) r)

/-- The outcome as that of an operation. -/
def toExcept : Check α → Except Failure α
  | .ok a => .ok a
  | .faults fs => .error (.invalid fs)
  | .abort e => .error (.error e)

end Check
end Signet
