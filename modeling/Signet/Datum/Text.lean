import Signet.Datum.Basic
import Signet.Error

/-! # Values as text

`Datum.display` is the plain text of a value and `Datum.shown` the text that
tells its kind, with quotes around text.  Integers are limited in decimal, so
both can fail, and then do so for the first integer that is too long.
-/

namespace Signet

/-- The decimal text of an integer, refused where it has too many digits. -/
def decimalText (n : Int) : Except Error String :=
  match Numeral.decimal? n with
  | some s => .ok s
  | none => .error .numeral

/-- A call with named arguments: `Name(a=…, b=…)`. -/
def callText (name : String) (fields : List (String × String)) : String :=
  name ++ "(" ++ String.intercalate ", " (fields.map fun f => f.1 ++ "=" ++ f.2) ++ ")"

/-- Named values with blanks between them: `a=… b=…`. -/
def spacedText (fields : List (String × String)) : String :=
  String.intercalate " " (fields.map fun f => f.1 ++ "=" ++ f.2)

/-- The text of an unset value. -/
def noneText : String := "None"

/-- A byte string under the name of its kind, as quoted hexadecimal. -/
def hexCall (name : String) (b : Bytes) : String :=
  name ++ "('" ++ Hex.ofBytes b ++ "')"

/-- The text of an optional value. -/
def optionText {α : Type} (f : α → Except Error String) : Option α → Except Error String
  | none => .ok noneText
  | some a => f a

/-- A list between square brackets. -/
def listText (items : List String) : String :=
  "[" ++ String.intercalate ", " items ++ "]"

/-- The fields of an access tuple as text. -/
def AccessTuple.fieldTexts (a : AccessTuple) : List (String × String) :=
  [("address", hexCall "Address" a.address.bytes),
   ("storage_keys", listText (a.storageKeys.map fun k => hexCall "Hash" k.bytes))]

/-- The text of an access tuple. -/
def AccessTuple.shown (a : AccessTuple) : String :=
  callText "AccessTuple" a.fieldTexts

/-- The type of a transaction as text. -/
def Transaction.typeText (tx : Transaction) : Except Error String :=
  match tx.envelope? with
  | some e => .ok s!"<TransactionType.{e.label}: {e.code}>"
  | none => decimalText tx.ty

/-- The fields of a transaction as text, all of them in order. -/
def Transaction.fieldTexts (tx : Transaction) : Except Error (List (String × String)) := do
  let ty ← tx.typeText
  let address (a : Address) : Except Error String := .ok (hexCall "Address" a.bytes)
  let sender ← optionText address tx.sender
  let recipient ← optionText address tx.recipient
  let nonce ← optionText decimalText tx.nonce
  let gasLimit ← optionText decimalText tx.gasLimit
  let gasPrice ← optionText decimalText tx.gasPrice
  let tip ← optionText decimalText tx.maxPriorityFeePerGas
  let cap ← optionText decimalText tx.maxFeePerGas
  let value ← optionText decimalText tx.value
  let chainId ← optionText decimalText tx.chainId
  let accessList ← optionText (fun l => .ok (listText (l.map AccessTuple.shown))) tx.accessList
  let v ← optionText decimalText tx.v
  let r ← optionText decimalText tx.r
  let s ← optionText decimalText tx.s
  return [("ty", ty), ("sender", sender), ("to", recipient), ("nonce", nonce),
    ("gas_limit", gasLimit), ("gas_price", gasPrice), ("max_priority_fee_per_gas", tip), ("max_fee_per_gas", cap),
    ("value", value), ("data", hexCall "Bytes" tx.data), ("chain_id", chainId),
    ("access_list", accessList), ("v", v), ("r", r), ("s", s)]

/-- The text of a transaction. -/
def Transaction.shown (tx : Transaction) : Except Error String :=
  tx.fieldTexts.map (callText "Transaction")

/-- The fields of a keystore as text, all of them in order. -/
def Keystore.fieldTexts (k : Keystore) : Except Error (List (String × String)) := do
  let text (s : String) : Except Error String := .ok (Text.quoted s)
  let p := k.crypto.kdfParams
  let version ← decimalText k.version
  let id ← optionText text k.id
  let dklen ← decimalText p.dklen
  let n ← optionText decimalText p.n
  let r ← optionText decimalText p.r
  let pp ← optionText decimalText p.p
  let c ← optionText decimalText p.c
  let prf ← optionText text p.prf
  let address := (k.address.map fun a => hexCall "KeystoreAddress" a.bytes).getD noneText
  let params := callText "KdfParams"
    [("dklen", dklen), ("salt", hexCall "KeystoreHex" p.salt), ("n", n), ("r", r), ("p", pp),
     ("c", c), ("prf", prf)]
  let crypto := callText "KeystoreCrypto"
    [("cipher", Text.quoted k.crypto.cipher),
     ("ciphertext", hexCall "KeystoreHex" k.crypto.ciphertext),
     ("cipherparams", callText "CipherParams" [("iv", hexCall "KeystoreHex" k.crypto.iv)]),
     ("kdf", Text.quoted k.crypto.kdf), ("kdfparams", params),
     ("mac", hexCall "KeystoreHex" k.crypto.mac)]
  return [("version", version), ("id", id), ("address", address), ("crypto", crypto)]

/-- The text of a keystore. -/
def Keystore.shown (k : Keystore) : Except Error String :=
  k.fieldTexts.map (callText "Keystore")

/-- The text of a block number with its kind. -/
def BlockNumber.shown (n : BlockNumber) : String :=
  "BlockNumber('" ++ n.text ++ "')"

namespace Datum

mutual

/-- The text of a value that tells its kind. -/
def shown : Datum → Except Error String
  | .null => .ok noneText
  | .bool b => .ok (if b then "True" else "False")
  | .int i | .number i | .hexNumber i => decimalText i
  | .unsigned type n => do
    return (Datum.unsigned type n).kindName ++ "(" ++ (← decimalText n) ++ ")"
  | .float x => .ok x.text
  | .text s => .ok (Text.quoted s)
  | .bytes b => .ok (Text.quotedBytes b)
  | .buffer b => .ok ("bytearray(" ++ Text.quotedBytes b ++ ")")
  | .hexBytes b => .ok (hexCall "Bytes" b)
  | .keystoreHex b => .ok (hexCall "KeystoreHex" b)
  | .address a => .ok (hexCall "Address" a.bytes)
  | .hash h => .ok (hexCall "Hash" h.bytes)
  | .keystoreAddress a => .ok (hexCall "KeystoreAddress" a.bytes)
  | .blockNumber n => .ok n.shown
  | .list items => do return listText (← shownAll items)
  | .tuple items => do
    match ← shownAll items with
    | [x] => return "(" ++ x ++ ",)"
    | xs => return "(" ++ String.intercalate ", " xs ++ ")"
  | .dict entries => do
    return "\x7b" ++ String.intercalate ", " (← shownEntries entries) ++ "\x7d"
  | .signature v r s => do
    return callText "Signature" [("v", ← shown v), ("r", ← shown r), ("s", ← shown s)]
  | .accessTuple a => .ok a.shown
  | .transaction tx => tx.shown
  | .keystore k => k.shown

/-- The texts of values in order. -/
def shownAll : List Datum → Except Error (List String)
  | [] => .ok []
  | x :: r => do return (← shown x) :: (← shownAll r)

/-- The texts of the entries of a dictionary in order. -/
def shownEntries : List (String × Datum) → Except Error (List String)
  | [] => .ok []
  | (name, x) :: r => do
    return (Text.quoted name ++ ": " ++ (← shown x)) :: (← shownEntries r)

end

/-- The plain text of a value: text as it is, integers and byte strings as
their type writes them, models as their fields, all else as `shown`. -/
def display : Datum → Except Error String
  | .text s => .ok s
  | .hexNumber i => .ok (Hex.ofInt i)
  | .unsigned _ n => decimalText n
  | .hexBytes b => .ok (Hex.ofBytes b)
  | .keystoreHex b => .ok (Hex.bare b)
  | .address a => .ok a.hex
  | .hash h => .ok h.hex
  | .keystoreAddress a => .ok (Hex.bare a.bytes)
  | .blockNumber n => .ok n.text
  | .signature v r s => do
    return spacedText [("v", ← v.shown), ("r", ← r.shown), ("s", ← s.shown)]
  | .accessTuple a => .ok (spacedText a.fieldTexts)
  | .transaction tx => tx.fieldTexts.map spacedText
  | .keystore k => k.fieldTexts.map spacedText
  | d => d.shown

end Datum
end Signet
