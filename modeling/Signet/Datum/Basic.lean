import Signet.Binary64
import Signet.BlockNumber
import Signet.Keystore.Basic
import Signet.Transaction.Basic

/-! # Values of any kind

The functions that take an argument of any kind take a `Datum`: the plain kinds
of a data format, byte strings plain and mutable, integers of several types,
and the values of this library.  A signature in it may have components of any
kind, so that one whose components were replaced without validation is a datum
too.
-/

namespace Signet

/-- The unsigned integer types. -/
inductive UnsignedType
  | unbounded
  | bits64
  | bits256
  deriving DecidableEq, Repr

/-- Whether an integer is in the range of a type. -/
def UnsignedType.admits (type : UnsignedType) (i : Int) : Bool :=
  match type with
  | .unbounded => 0 ≤ i
  | .bits64 => 0 ≤ i && i < (1 <<< 64 : Nat)
  | .bits256 => 0 ≤ i && i < (1 <<< 256 : Nat)

/-- A value of any kind. -/
inductive Datum
  | null
  | bool (b : Bool)
  | int (i : Int)
  /-- an integer that is shown in decimal -/
  | number (i : Int)
  /-- an integer that is shown in hexadecimal -/
  | hexNumber (i : Int)
  | unsigned (type : UnsignedType) (n : Nat)
  | float (x : Binary64)
  /-- a text; one with a lone surrogate, which has no form in UTF-8, is left out -/
  | text (s : String)
  | bytes (b : Bytes)
  /-- a mutable byte string -/
  | buffer (b : Bytes)
  /-- a byte string that is shown in hexadecimal -/
  | hexBytes (b : Bytes)
  /-- a byte string that is shown in hexadecimal without a prefix -/
  | keystoreHex (b : Bytes)
  | address (a : Address)
  | hash (h : Hash)
  /-- an address that is shown without a prefix -/
  | keystoreAddress (a : Address)
  | blockNumber (n : BlockNumber)
  | list (items : List Datum)
  | tuple (items : List Datum)
  | dict (entries : List (String × Datum))
  | signature (v r s : Datum)
  | accessTuple (a : AccessTuple)
  | transaction (tx : Transaction)
  | keystore (k : Keystore)
  deriving Repr, Inhabited

namespace Datum

/-- The name of a datum's kind. -/
def kindName : Datum → String
  | .null => "NoneType"
  | .bool _ => "bool"
  | .int _ => "int"
  | .number _ => "Number"
  | .hexNumber _ => "HexNumber"
  | .unsigned .unbounded _ => "Uint"
  | .unsigned .bits64 _ => "U64"
  | .unsigned .bits256 _ => "U256"
  | .float _ => "float"
  | .text _ => "str"
  | .bytes _ => "bytes"
  | .buffer _ => "bytearray"
  | .hexBytes _ => "Bytes"
  | .keystoreHex _ => "KeystoreHex"
  | .address _ => "Address"
  | .hash _ => "Hash"
  | .keystoreAddress _ => "KeystoreAddress"
  | .blockNumber _ => "BlockNumber"
  | .list _ => "list"
  | .tuple _ => "tuple"
  | .dict _ => "dict"
  | .signature .. => "Signature"
  | .accessTuple _ => "AccessTuple"
  | .transaction _ => "Transaction"
  | .keystore _ => "Keystore"

/-- A signature as a datum. -/
def ofSignature (sig : Signature) : Datum :=
  .signature (.hexNumber sig.v) (.hexNumber sig.r) (.hexNumber sig.s)

/-- The integer of a datum that is one: a truth value counts as zero or one. -/
def asInt? : Datum → Option Int
  | .bool b => some (if b then 1 else 0)
  | .int i | .number i | .hexNumber i => some i
  | _ => none

/-- The bytes of a datum that is an immutable byte string. -/
def asBytes? : Datum → Option Bytes
  | .bytes b | .hexBytes b | .keystoreHex b => some b
  | .address a | .keystoreAddress a => some a.bytes
  | .hash h => some h.bytes
  | _ => none

/-- The bytes of a datum that is a byte string, mutable or not. -/
def asByteString? : Datum → Option Bytes
  | .buffer b => some b
  | d => d.asBytes?

/-- The value of an entry of a dictionary. -/
def lookup? (name : String) (entries : List (String × Datum)) : Option Datum :=
  (entries.find? fun e => e.1 == name).map Prod.snd

end Datum
end Signet
