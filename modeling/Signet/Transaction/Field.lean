import Signet.Datum.Basic

/-! # The fields of a transaction

Every field has a name, the name it carries in JSON, and a value.
-/

namespace Signet
namespace Transaction

/-- A field of a transaction. -/
inductive Field
  | ty
  | sender
  | recipient
  | nonce
  | gasLimit
  | gasPrice
  | maxPriorityFeePerGas
  | maxFeePerGas
  | value
  | data
  | chainId
  | accessList
  | v
  | r
  | s
  deriving DecidableEq, Repr

namespace Field

/-- All fields, in the order of a transaction. -/
def all : List Field :=
  [.ty, .sender, .recipient, .nonce, .gasLimit, .gasPrice, .maxPriorityFeePerGas, .maxFeePerGas,
   .value, .data, .chainId, .accessList, .v, .r, .s]

/-- The name of a field. -/
def name : Field → String
  | .ty => "ty"
  | .sender => "sender"
  | .recipient => "to"
  | .nonce => "nonce"
  | .gasLimit => "gas_limit"
  | .gasPrice => "gas_price"
  | .maxPriorityFeePerGas => "max_priority_fee_per_gas"
  | .maxFeePerGas => "max_fee_per_gas"
  | .value => "value"
  | .data => "data"
  | .chainId => "chain_id"
  | .accessList => "access_list"
  | .v => "v"
  | .r => "r"
  | .s => "s"

/-- The name of a field in JSON. -/
def jsonName : Field → String
  | .ty => "type"
  | .sender => "from"
  | .recipient => "to"
  | .nonce => "nonce"
  | .gasLimit => "gas"
  | .gasPrice => "gasPrice"
  | .maxPriorityFeePerGas => "maxPriorityFeePerGas"
  | .maxFeePerGas => "maxFeePerGas"
  | .value => "value"
  | .data => "input"
  | .chainId => "chainId"
  | .accessList => "accessList"
  | .v => "v"
  | .r => "r"
  | .s => "s"

/-- The field of a name. -/
def ofName? (name : String) : Option Field :=
  all.find? fun f => f.name == name

end Field

/-- The value of a field. -/
def get (tx : Transaction) (f : Field) : Datum :=
  let number (n : Option Int) : Datum := (n.map .hexNumber).getD .null
  let address (a : Option Address) : Datum := (a.map .address).getD .null
  match f with
  | .ty => .int tx.ty
  | .sender => address tx.sender
  | .recipient => address tx.recipient
  | .nonce => number tx.nonce
  | .gasLimit => number tx.gasLimit
  | .gasPrice => number tx.gasPrice
  | .maxPriorityFeePerGas => number tx.maxPriorityFeePerGas
  | .maxFeePerGas => number tx.maxFeePerGas
  | .value => number tx.value
  | .data => .hexBytes tx.data
  | .chainId => number tx.chainId
  | .accessList => (tx.accessList.map fun l => Datum.list (l.map .accessTuple)).getD .null
  | .v => number tx.v
  | .r => number tx.r
  | .s => number tx.s

end Transaction
end Signet
