import Signet.Signature

/-! # Transactions

A transaction has a type and fifteen fields in all.  An unset field is not the
same as zero until the transaction is encoded.  Fields of other types than the
transaction's own are kept and ignored.  The structure itself holds any
integers; `Transaction.Valid` says which transactions the validation accepts.
-/

namespace Signet

/-- An address and the storage keys of it that a transaction means to touch. -/
structure AccessTuple where
  address : Address
  storageKeys : List Hash := []
  deriving DecidableEq, Repr

/-- The three envelopes of a transaction. -/
inductive Envelope
  | legacy
  | accessList
  | dynamicFee
  deriving DecidableEq, Repr

namespace Envelope

/-- The type number. -/
def code : Envelope → Nat
  | .legacy => 0
  | .accessList => 1
  | .dynamicFee => 2

/-- The name shown for the type. -/
def label : Envelope → String
  | .legacy => "LEGACY"
  | .accessList => "ACCESS_LIST"
  | .dynamicFee => "DYNAMIC_FEE"

/-- The envelope of a type number. -/
def ofCode? : Int → Option Envelope
  | 0 => some .legacy
  | 1 => some .accessList
  | 2 => some .dynamicFee
  | _ => none

end Envelope

/-- A transaction of any type. -/
structure Transaction where
  /-- the type number -/
  ty : Int := 0
  sender : Option Address := none
  /-- the recipient; a transaction without one creates a contract -/
  recipient : Option Address := none
  nonce : Option Int := none
  gasLimit : Option Int := none
  gasPrice : Option Int := none
  maxPriorityFeePerGas : Option Int := none
  maxFeePerGas : Option Int := none
  value : Option Int := none
  data : Bytes := []
  chainId : Option Int := none
  accessList : Option (List AccessTuple) := none
  v : Option Int := none
  r : Option Int := none
  s : Option Int := none
  deriving DecidableEq, Repr

namespace Transaction

/-- The envelope, where the type number has one. -/
def envelope? (tx : Transaction) : Option Envelope :=
  Envelope.ofCode? tx.ty

/-- An unset integer, or one that is not negative. -/
def NonNegative (n : Option Int) : Prop :=
  ∀ i ∈ n, 0 ≤ i

/-- An unset integer, or one that fits into 32 bytes. -/
def FitsWord (n : Option Int) : Prop :=
  ∀ i ∈ n, 0 ≤ i ∧ i < uint256Ceiling

/-- What the validation of a transaction guarantees. -/
structure Valid (tx : Transaction) : Prop where
  envelope : tx.envelope?.isSome
  nonce : NonNegative tx.nonce
  gasLimit : NonNegative tx.gasLimit
  gasPrice : NonNegative tx.gasPrice
  maxPriorityFeePerGas : NonNegative tx.maxPriorityFeePerGas
  maxFeePerGas : NonNegative tx.maxFeePerGas
  value : NonNegative tx.value
  chainId : NonNegative tx.chainId
  v : NonNegative tx.v
  r : FitsWord tx.r
  s : FitsWord tx.s

end Transaction
end Signet
