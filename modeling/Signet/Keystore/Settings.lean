import Signet.Validation.Field

/-! # Settings for keystores

`ScryptParams` is the cost at which a new keystore is enciphered, and
`KeystoreConfig` what the search of a folder and the writing of a keystore are
told.  Both are read from an object, and neither can be changed afterwards.  A
cost `n` is a power of two above one, which a test on its bits tells.
-/

namespace Signet

/-- The cost of a key derivation by scrypt. -/
structure ScryptParams where
  /-- the cost in time and memory -/
  n : Nat := 1 <<< 18
  /-- how many times the cost is paid in parallel -/
  p : Nat := 1
  /-- the size of a block -/
  r : Nat := 8
  /-- the length of the derived key -/
  dklen : Nat := 32
  deriving DecidableEq, Repr

/-- Settings for writing and searching keystores. -/
structure KeystoreConfig where
  /-- the cost for new keystores -/
  scrypt : ScryptParams := {}
  /-- files of this size or more are passed over -/
  maxFileSize : Nat := 1024 * 1024
  version : Int := keystoreVersion
  deriving DecidableEq, Repr

namespace Check

/-- An integer field of at least `low`. -/
def atLeast (low : Nat) (d : Datum) : Check Nat :=
  (int d).andThen fun n => if (low : Int) ≤ n then .ok n.toNat else fault .greaterThanEqual

/-- An integer field above `low`. -/
def above (low : Nat) (d : Datum) : Check Nat :=
  (int d).andThen fun n => if (low : Int) < n then .ok n.toNat else fault .greaterThan

end Check

namespace ScryptParams

/-- Whether no bit of `n` is set below its highest. -/
def isSingleBit (n : Nat) : Bool :=
  n &&& (n - 1) = 0

/-- A cost: an integer above one with a single bit. -/
def cost (d : Datum) : Check Nat :=
  (Check.above 1 d).andThen fun n =>
    if isSingleBit n then .ok n else .fault (.refused (.writing n (.scryptCost n)))

/-- The cost parameters that an object describes. -/
def ofEntries (entries : List (String × Datum)) : Check ScryptParams :=
  ScryptParams.mk
    <$> Check.withDefault entries "n" [] (1 <<< 18) cost
    <*> Check.withDefault entries "p" [] 1 (Check.atLeast 1)
    <*> Check.withDefault entries "r" [] 8 (Check.atLeast 1)
    <*> Check.withDefault entries "dklen" [] 32 (Check.atLeast 32)

/-- The cost parameters of a value. -/
def ofDatum (d : Datum) : Check ScryptParams :=
  Check.object ofEntries d

/-- The cost for keys that matter. -/
def standard : ScryptParams := {}

/-- The cost for keys that are soon thrown away. -/
def light : ScryptParams := { n := 1 <<< 12, p := 6 }

/-- The parameters as a dictionary. -/
def toDatum (s : ScryptParams) : Datum :=
  .dict [("n", .int s.n), ("p", .int s.p), ("r", .int s.r), ("dklen", .int s.dklen)]

end ScryptParams

namespace KeystoreConfig

/-- The settings that an object describes. -/
def ofEntries (entries : List (String × Datum)) : Check KeystoreConfig :=
  KeystoreConfig.mk
    <$> Check.withDefault entries "scrypt" [] {} ScryptParams.ofDatum
    <*> Check.withDefault entries "max_file_size" [] (1024 * 1024) (Check.above 0)
    <*> Check.withDefault entries "version" [] keystoreVersion Check.int

/-- The settings of a value. -/
def ofDatum (d : Datum) : Check KeystoreConfig :=
  Check.object ofEntries d

/-- The settings as a dictionary. -/
def toDatum (c : KeystoreConfig) : Datum :=
  .dict [("scrypt", c.scrypt.toDatum), ("max_file_size", .int c.maxFileSize),
    ("version", .int c.version)]

end KeystoreConfig

/-- Settings are fixed: assigning any name is refused. -/
def Check.assignFixed {α : Type} (name : String) : Check α :=
  Check.under (.field name) (.fault .frozenInstance)

end Signet
