import Signet.Json.Parser
import Signet.Validation.Field

/-! # Reading keystores

A keystore is read from an object, field by field, or from JSON text.  The part
that holds the key goes by `crypto`, or else by `Crypto`.  Text that is no
keystore is malformed, whatever is wrong with it; only a value of a kind that
a byte field does not take ends the reading otherwise.
-/

namespace Signet

/-- A byte string field. -/
def Check.bytes (d : Datum) : Check Bytes :=
  .ofExcept d.toBytes

/-- Key derivation parameters that an object describes. -/
def KdfParams.ofEntries (entries : List (String × Datum)) : Check KdfParams :=
  let integer (name : String) := Check.withDefault entries name [] none (Check.optional Check.int)
  KdfParams.mk
    <$> Check.required entries "dklen" [] Check.int
    <*> Check.required entries "salt" [] Check.bytes
    <*> integer "n"
    <*> integer "r"
    <*> integer "p"
    <*> integer "c"
    <*> Check.withDefault entries "prf" [] none (Check.optional Check.text)

/-- The first counter block, which stands in an object of its own. -/
def KeystoreCrypto.ivOfDatum (d : Datum) : Check Bytes :=
  Check.object (fun entries => Check.required entries "iv" [] Check.bytes) d

namespace KeystoreCrypto

/-- The enciphered key that an object describes. -/
def ofEntries (entries : List (String × Datum)) : Check KeystoreCrypto :=
  KeystoreCrypto.mk
    <$> Check.required entries "cipher" [] Check.text
    <*> Check.required entries "ciphertext" [] Check.bytes
    <*> Check.required entries "cipherparams" [] ivOfDatum
    <*> Check.required entries "kdf" [] Check.text
    <*> Check.required entries "kdfparams" [] (Check.object KdfParams.ofEntries)
    <*> Check.required entries "mac" [] Check.bytes

/-- The enciphered key that a value describes. -/
def ofDatum (d : Datum) : Check KeystoreCrypto :=
  Check.object ofEntries d

end KeystoreCrypto

namespace Keystore

/-- The keystore that an object describes. -/
def ofEntries (entries : List (String × Datum)) : Check Keystore :=
  Keystore.mk
    <$> Check.required entries "version" [] Check.int
    <*> Check.withDefault entries "id" [] none (Check.optional Check.text)
    <*> Check.withDefault entries "address" [] none
      (Check.optional fun d => .ofExcept (Address.ofDatum d))
    <*> Check.required entries "crypto" ["Crypto"] KeystoreCrypto.ofDatum

/-- How deep arrays and objects may lie in each other in the text of a
keystore. -/
def textDepth : Nat := 200

/-- The keystore that a text writes. -/
def ofText (s : List Char) : Check Keystore :=
  match Json.parse? textDepth s with
  | some x => Check.object ofEntries x.toDatum
  | none => .fault .jsonInvalid

/-- The keystore that a text or a byte string in UTF-8 writes. -/
def ofContent (d : Datum) : Check Keystore :=
  match d, d.asByteString? with
  | .text s, _ => ofText s.toList
  | _, some b =>
    match String.fromUTF8? ⟨b.toArray⟩ with
    | some s => ofText s.toList
    | none => .fault .jsonInvalid
  | _, none => .fault .jsonType

/-- Parses a keystore; faults make it malformed. -/
def parse (content : Datum) : Except Failure Keystore :=
  match ofContent content with
  | .ok k => .ok k
  | .faults fs => .error (.malformedKeystore fs)
  | .abort e => .error (.error e)

end Keystore
end Signet
