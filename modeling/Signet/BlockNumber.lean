import Signet.Hex

/-! # Block numbers

A block is named by its number, below `2 ^ 63`, or by one of three tags.
-/

namespace Signet

/-- A name of a block by its state. -/
inductive BlockTag
  | earliest
  | latest
  | pending
  deriving DecidableEq, Repr

/-- The tag as text. -/
def BlockTag.text : BlockTag → String
  | .earliest => "earliest"
  | .latest => "latest"
  | .pending => "pending"

/-- The tag that a text names, whatever the case of its letters. -/
def BlockTag.ofText? (s : List Char) : Option BlockTag :=
  [BlockTag.earliest, .latest, .pending].find? fun t => t.text.toList = s.map Char.toLower

/-- A block by its number or by a tag. -/
inductive BlockNumber
  | number (n : Nat) (lt : n < 1 <<< 63)
  | tag (t : BlockTag)
  deriving DecidableEq, Repr

/-- Why an integer is no block number. -/
inductive BlockNumberError
  /-- the integer is negative; the text is how it is shown -/
  | negative (shown : String)
  | tooLarge
  deriving DecidableEq, Repr

/-- The text of a block number error. -/
def BlockNumberError.message : BlockNumberError → String
  | .negative shown => "block number must not be negative: " ++ shown
  | .tooLarge => "block number larger than int64"

namespace BlockNumber

/-- The block of an integer; `shown` is the text of the integer. -/
def ofInt (n : Int) (shown : String) : Except BlockNumberError BlockNumber :=
  if n < 0 then .error (.negative shown)
  else if h : n.toNat < 1 <<< 63 then .ok (.number n.toNat h)
  else .error .tooLarge

/-- The tag as it is, or the number in hexadecimal. -/
def text : BlockNumber → String
  | .number n _ => Hex.ofNat n
  | .tag t => t.text

/-- The number, unless the block has a tag. -/
def number? : BlockNumber → Option Nat
  | .number n _ => some n
  | .tag _ => none

/-- The tag, unless the block has a number. -/
def tag? : BlockNumber → Option BlockTag
  | .number _ _ => none
  | .tag t => some t

end BlockNumber
end Signet
