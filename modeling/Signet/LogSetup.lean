import Signet.Logged

/-! # Loggers

Loggers form a tree by the dots in their names, with a root that has no name.
Two of them are set up: the root, and the one of this library, which does not
hand its records on.  A logger without a level of its own has that of the
nearest logger above it.
-/

namespace Signet

/-- What is set up for a logger. -/
structure LogSetup where
  name : String
  level : LogLevel
  /-- how many handlers it has -/
  handlers : Nat
  /-- whether it was told not to hand its records on -/
  isolated : Bool
  deriving DecidableEq, Repr

namespace LogSetup

/-- The name of this library's logger. -/
def packageName : String := "ethereum_signing"

/-- How a record is written. -/
def format : String := "%(asctime)s - %(name)s - %(levelname)s - %(message)s"

/-- The level of the one handler. -/
def handlerLevel : LogLevel := .debug

/-- The root logger. -/
def root : LogSetup := ⟨"root", .warning, 1, false⟩

/-- The logger of this library. -/
def package : LogSetup := ⟨packageName, .info, 1, true⟩

/-- Whether `name` lies below the logger `parent`. -/
def isBelow (parent name : String) : Bool :=
  (parent ++ ".").toList.isPrefixOf name.toList

/-- The logger of a name; no name at all is the root. -/
def ofName (name : Option String) : LogSetup :=
  match name with
  | none => root
  | some name =>
    if name = "" ∨ name = root.name then root
    else if name = packageName then package
    else ⟨name, if isBelow packageName name then package.level else root.level, 0, false⟩

end LogSetup
end Signet
