import Signet.Validation.Check

/-! # Computations that keep a log

`Logged α` is the outcome of a computation with the records it wrote on the
way, in order.  A failure keeps the records written before it.
-/

namespace Signet

/-- How much a record matters. -/
inductive LogLevel
  | debug
  | info
  | warning
  deriving DecidableEq, Repr

/-- The name of a level. -/
def LogLevel.label : LogLevel → String
  | .debug => "DEBUG"
  | .info => "INFO"
  | .warning => "WARNING"

/-- The number of a level. -/
def LogLevel.code : LogLevel → Nat
  | .debug => 10
  | .info => 20
  | .warning => 30

/-- A record of a log. -/
structure LogRecord where
  level : LogLevel
  text : String
  deriving DecidableEq, Repr

/-- The outcome of a computation and its log. -/
structure Logged (α : Type) where
  log : List LogRecord
  outcome : Except Failure α

namespace Logged

variable {α β : Type}

/-- An outcome without a log. -/
def ofExcept (x : Except Failure α) : Logged α :=
  ⟨[], x⟩

/-- Goes on with the value of a computation. -/
def andThen (x : Logged α) (f : α → Logged β) : Logged β :=
  match x.outcome with
  | .ok a => ⟨x.log ++ (f a).log, (f a).outcome⟩
  | .error e => ⟨x.log, .error e⟩

instance : Monad Logged where
  pure a := ⟨[], .ok a⟩
  bind := andThen

instance : MonadLift (Except Failure) Logged where
  monadLift := ofExcept

instance : MonadLift (Except Error) Logged where
  monadLift x := ofExcept (x.mapError .error)

/-- Writes a record. -/
def write (level : LogLevel) (text : String) : Logged Unit :=
  ⟨[⟨level, text⟩], .ok ()⟩

/-- Fails for a cause. -/
def fail (e : Error) : Logged α :=
  ⟨[], .error (.error e)⟩

/-- Takes the failure of a computation for a value; its log is kept. -/
def attempt (x : Logged α) : Logged (Except Failure α) :=
  ⟨x.log, .ok x.outcome⟩

end Logged
end Signet
