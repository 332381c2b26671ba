import Signet.Validation.Field

/-! # Validating transactions and signatures

Every field of a transaction has a reader that turns a value of any kind into an
update of a transaction.  Validating an object, assigning one field and the
builder calls all go through these readers, so that one rule per field is the
whole of the validation.
-/

namespace Signet

namespace AccessTuple

/-- The access tuple that an object describes. -/
def ofEntries (entries : List (String × Datum)) : Check AccessTuple :=
  AccessTuple.mk
    <$> Check.required entries "address" [] (fun d => .ofExcept (Address.ofDatum d))
    <*> Check.withDefault entries "storageKeys" ["storage_keys"] []
      (Check.list fun d => .ofExcept (Hash.ofDatum d))

/-- The access tuple of a value: one, or an object that describes one. -/
def ofDatum : Datum → Check AccessTuple
  | .accessTuple a => .ok a
  | d => Check.object ofEntries d

end AccessTuple

namespace Transaction

/-- The first integer beyond 64 bits. -/
def int64Ceiling : Int := (1 <<< 63 : Nat)

/-- A type number from an integer. -/
def typeOfInt (n : Int) : Check Int :=
  if n < -int64Ceiling ∨ int64Ceiling ≤ n then .fault .intParsingSize
  else if (Envelope.ofCode? n).isSome then .ok n
  else .fault .enum

/-- A type number: an integer literal, or what an integer field takes. -/
def typeOf (d : Datum) : Check Int :=
  match d with
  | .text s =>
    match Numeral.read? .literal s.toList with
    | some n => typeOfInt n
    | none => .fault (.refused .numeral)
  | d =>
    match Check.int d with
    | .ok n => typeOfInt n
    | .faults _ => .fault .enum
    | .abort e => .abort e

/-- An integer that is not negative. -/
def quantityOf (d : Datum) : Check Int :=
  .ofExcept do
    let n ← d.toNumber
    if n < 0 then throw (.negativeValue n) else return n

/-- An integer that fits into 32 bytes. -/
def wordOf (d : Datum) : Check Int :=
  .ofExcept do
    let n ← d.toNumber
    let _ ← (Signature.component n).mapError .component
    return n

/-- An address. -/
def addressOf (d : Datum) : Check Address :=
  .ofExcept (Address.ofDatum d)

/-- Reads the value of a field: the update that sets the field to it. -/
def Field.read (f : Field) (d : Datum) : Check (Transaction → Transaction) :=
  let set {α : Type} (put : α → Transaction → Transaction) (c : Check α) :
      Check (Transaction → Transaction) := c.map put
  match f with
  | .ty => set (fun x tx => { tx with ty := x }) (typeOf d)
  | .sender => set (fun x tx => { tx with sender := x }) (Check.optional addressOf d)
  | .recipient => set (fun x tx => { tx with recipient := x }) (Check.optional addressOf d)
  | .nonce => set (fun x tx => { tx with nonce := x }) (Check.optional quantityOf d)
  | .gasLimit => set (fun x tx => { tx with gasLimit := x }) (Check.optional quantityOf d)
  | .gasPrice => set (fun x tx => { tx with gasPrice := x }) (Check.optional quantityOf d)
  | .maxPriorityFeePerGas =>
    set (fun x tx => { tx with maxPriorityFeePerGas := x }) (Check.optional quantityOf d)
  | .maxFeePerGas =>
    set (fun x tx => { tx with maxFeePerGas := x }) (Check.optional quantityOf d)
  | .value => set (fun x tx => { tx with value := x }) (Check.optional quantityOf d)
  | .data => set (fun x tx => { tx with data := x }) (.ofExcept d.toBytes)
  | .chainId => set (fun x tx => { tx with chainId := x }) (Check.optional quantityOf d)
  | .accessList =>
    set (fun x tx => { tx with accessList := x })
      (Check.optional (Check.list AccessTuple.ofDatum) d)
  | .v => set (fun x tx => { tx with v := x }) (Check.optional quantityOf d)
  | .r => set (fun x tx => { tx with r := x }) (Check.optional wordOf d)
  | .s => set (fun x tx => { tx with s := x }) (Check.optional wordOf d)

/-- The updates that the entries of an object ask for, field by field. -/
def updatesOf (entries : List (String × Datum)) : List Field → Check (Transaction → Transaction)
  | [] => .ok id
  | f :: r =>
    (fun u rest tx => rest (u tx))
      <$> Check.withDefault entries f.jsonName [f.name] id f.read
      <*> updatesOf entries r

/-- The transaction that an object describes; its keys are the names of fields
in JSON, or else their own names. -/
def ofEntries (entries : List (String × Datum)) : Check Transaction :=
  (updatesOf entries Field.all).map fun u => u {}

/-- The transaction of a value: one, or an object that describes one. -/
def ofDatum : Datum → Check Transaction
  | .transaction tx => .ok tx
  | d => Check.object ofEntries d

/-- The name of what is read off the fields and cannot be assigned. -/
def signatureName : String := "signature"

/-- Whether a name is set aside: what is assigned to it is no part of a
transaction. -/
def isSetAside (name : String) : Bool :=
  name.toList.head? = some '_'

/-- Assigns a value to the field of the name `name`. -/
def assign (tx : Transaction) (name : String) (d : Datum) : Check Transaction :=
  match Field.ofName? name with
  | some f => ((f.read d).map fun u => u tx).under (.field name)
  | none =>
    if name = signatureName then .abort .noAttribute
    else if isSetAside name then .ok tx
    else Check.under (.field name) (.fault .noSuchAttribute)

/-! ## Builder calls -/

/-- What a builder call sets: one field, or the three fields of a signature. -/
inductive Setter
  | field (f : Field)
  | signature
  deriving DecidableEq, Repr

/-- The builder call of a name, which tells what it sets. -/
def Setter.ofName? : String → Option Setter
  | "type" => some (.field .ty)
  | "from" => some (.field .sender)
  | "to" => some (.field .recipient)
  | "nonce" => some (.field .nonce)
  | "gas_limit" => some (.field .gasLimit)
  | "gas_price" => some (.field .gasPrice)
  | "max_priority_fee_per_gas" => some (.field .maxPriorityFeePerGas)
  | "max_fee_per_gas" => some (.field .maxFeePerGas)
  | "value" => some (.field .value)
  | "input" => some (.field .data)
  | "chain_id" => some (.field .chainId)
  | "access_list" => some (.field .accessList)
  | "signature" => some .signature
  | _ => none

/-- The components that a value brings as a signature: those of a signature or
of a transaction, and nothing three times for nothing. -/
def componentsOf : Datum → Option (Datum × Datum × Datum)
  | .null => some (.null, .null, .null)
  | .signature v r s => some (v, r, s)
  | .transaction tx =>
    let d (n : Option Int) : Datum := (n.map .hexNumber).getD .null
    some (d tx.v, d tx.r, d tx.s)
  | _ => none

/-- The assignments that a builder call makes, in order. -/
def Setter.assignments (setter : Setter) (d : Datum) : Except Failure (List (Field × Datum)) :=
  match setter with
  | .field f => .ok [(f, d)]
  | .signature =>
    match componentsOf d with
    | some (v, r, s) => .ok [(.v, v), (.r, r), (.s, s)]
    | none => .error (.error .noAttribute)

/-- Makes assignments in order, up to the first that fails: what they are made
to after that, and the failure. -/
def assignInOrder {σ : Type} (assign : σ → Field → Datum → Except Failure σ) (x : σ) :
    List (Field × Datum) → σ × Option Failure
  | [] => (x, none)
  | (f, d) :: rest =>
    match assign x f d with
    | .ok y => assignInOrder assign y rest
    | .error e => (x, some e)

/-- Performs a builder call: the transaction after it, and its failure. -/
def build (tx : Transaction) (setter : Setter) (d : Datum) : Transaction × Option Failure :=
  match setter.assignments d with
  | .ok l => assignInOrder (fun tx f d => (tx.assign f.name d).toExcept) tx l
  | .error e => (tx, some e)

end Transaction

namespace Signature

/-- A component of a signature, with the proof that it fits. -/
def componentOf (d : Datum) : Check Component :=
  .ofExcept do
    let n ← d.toNumber
    match h : component n with
    | .ok k => return ⟨k, component_lt h⟩
    | .error e => throw (.component e)

/-- The signature of three components, each of which may refuse its value. -/
def ofChecks (v r s : Check Component) : Check Signature :=
  ofComponents <$> v <*> r <*> s

/-- The signature that an object describes; a component left out is zero. -/
def ofEntries (entries : List (String × Datum)) : Check Signature :=
  let read (name : String) := Check.withDefault entries name [] zeroComponent componentOf
  ofChecks (read "v") (read "r") (read "s")

end Signature
end Signet
