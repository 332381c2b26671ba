import Signet.Datum.Text
import Signet.Transaction.Field

/-! # Models as plain data

`Datum.dump` turns a model into a dictionary, under the names of its fields or
their names in JSON, with or without the fields that are unset.  In JSON form
every value is the text of it, or a list or a dictionary of such.
-/

namespace Signet

/-- Whether a value is none at all. -/
def Datum.isNull : Datum → Bool
  | .null => true
  | _ => false

/-- How a model is turned into a dictionary. -/
structure DumpStyle where
  /-- values become text -/
  json : Bool
  /-- fields go by their names in JSON -/
  byJsonName : Bool
  /-- unset fields are left out -/
  excludeNone : Bool := true
  deriving DecidableEq, Repr

/-- A field of a model: its name, its name in JSON, and its value. -/
structure DumpField where
  name : String
  jsonName : String
  value : Datum
  deriving Repr

namespace DumpStyle

/-- A byte string or an integer of this library's types, which JSON holds as
text. -/
def scalar (style : DumpStyle) (d : Datum) : Except Error Datum :=
  match style.json, d with
  | false, d => .ok d
  | true, .null => .ok .null
  | true, d => d.display.map .text

/-- The entries of fields. -/
def entries (style : DumpStyle) (fields : List DumpField) : List (String × Datum) :=
  (fields.filter fun f => !(style.excludeNone && f.value.isNull)).map
    fun f => (if style.byJsonName then f.jsonName else f.name, f.value)

end DumpStyle

/-- An access tuple as a dictionary. -/
def AccessTuple.dump (style : DumpStyle) (a : AccessTuple) : Except Error Datum := do
  let address ← style.scalar (.address a.address)
  let keys ← a.storageKeys.mapM fun k => style.scalar (.hash k)
  return .dict (style.entries
    [⟨"address", "address", address⟩, ⟨"storage_keys", "storageKeys", .list keys⟩])

/-- A transaction as a dictionary. -/
def Transaction.dump (style : DumpStyle) (tx : Transaction) : Except Error Datum := do
  let fields ← Field.all.mapM fun f => do
    let value ← match f with
      | .ty => pure (if style.json then .text (Hex.ofInt tx.ty) else .int tx.ty)
      | .accessList =>
        match tx.accessList with
        | some l => do pure (.list (← l.mapM (AccessTuple.dump style)))
        | none => pure .null
      | f => style.scalar (tx.get f)
    return (⟨f.name, f.jsonName, value⟩ : DumpField)
  return .dict (style.entries fields)

/-- A keystore as a dictionary; integers and text stay what they are. -/
def Keystore.dump (style : DumpStyle) (k : Keystore) : Except Error Datum := do
  let plain (name : String) (d : Datum) : DumpField := ⟨name, name, d⟩
  let int (n : Option Int) : Datum := (n.map .int).getD .null
  let text (s : Option String) : Datum := (s.map .text).getD .null
  let p := k.crypto.kdfParams
  let salt ← style.scalar (.keystoreHex p.salt)
  let params := style.entries
    [plain "dklen" (.int p.dklen), plain "salt" salt, plain "n" (int p.n), plain "r" (int p.r),
     plain "p" (int p.p), plain "c" (int p.c), plain "prf" (text p.prf)]
  let iv ← style.scalar (.keystoreHex k.crypto.iv)
  let ciphertext ← style.scalar (.keystoreHex k.crypto.ciphertext)
  let mac ← style.scalar (.keystoreHex k.crypto.mac)
  let address ← style.scalar ((k.address.map .keystoreAddress).getD .null)
  let crypto := style.entries
    [plain "cipher" (.text k.crypto.cipher), plain "ciphertext" ciphertext,
     plain "cipherparams" (.dict (style.entries [plain "iv" iv])),
     plain "kdf" (.text k.crypto.kdf), plain "kdfparams" (.dict params), plain "mac" mac]
  return .dict (style.entries
    [plain "version" (.int k.version), plain "id" (text k.id), plain "address" address,
     plain "crypto" (.dict crypto)])

namespace Datum

/-- A model as a dictionary, or nothing where the datum is no model. -/
def dump? (style : DumpStyle) : Datum → Option (Except Error Datum)
  | .signature v r s => some do
    let v ← style.scalar v
    let r ← style.scalar r
    let s ← style.scalar s
    return .dict (style.entries [⟨"v", "v", v⟩, ⟨"r", "r", r⟩, ⟨"s", "s", s⟩])
  | .accessTuple a => some (a.dump style)
  | .transaction tx => some (tx.dump style)
  | .keystore k => some (k.dump style)
  | _ => none

mutual

/-- The JSON form of a value: a model as a dictionary, a list item by item, and
any other value as its text. -/
def toJson : Datum → Except Error Datum
  | .list items => do return .list (← toJsonAll items)
  | d =>
    match d.dump? ⟨true, true, true⟩ with
    | some r => r
    | none => d.display.map .text

/-- The JSON forms of values in order. -/
def toJsonAll : List Datum → Except Error (List Datum)
  | [] => .ok []
  | x :: r => do return (← toJson x) :: (← toJsonAll r)

end

/-- The fields of a model with the values themselves. -/
def fields? : Datum → Option (List (String × Datum))
  | .signature v r s => some [("v", v), ("r", r), ("s", s)]
  | .accessTuple a =>
    some [("address", .address a.address), ("storage_keys", .list (a.storageKeys.map .hash))]
  | .transaction tx => some (Transaction.Field.all.map fun f => (f.name, tx.get f))
  | .keystore k =>
    match k.dump ⟨false, false, false⟩ with
    | .ok (.dict entries) => some entries
    | _ => none
  | _ => none

/-- The members of a model, each a pair of a name and a value. -/
def members? (d : Datum) : Option (List Datum) :=
  d.fields?.map fun fields => fields.map fun f => .tuple [.text f.1, f.2]

/-- The fields of a model that are set. -/
def setFields? (d : Datum) : Option (List (String × Datum)) :=
  d.fields?.map fun fields => fields.filter fun f => !f.2.isNull

/-- The fields of a model that are set, lists and dictionaries as they are and
all else as its text. -/
def describe? (d : Datum) : Option (Except Error (List (String × Datum))) :=
  d.setFields?.map fun fields =>
    fields.mapM fun (name, value) =>
      match value with
      | .list _ | .dict _ => .ok (name, value)
      | value => value.display.map fun s => (name, .text s)

end Datum
end Signet
