import Signet.Json.Printer
import Signet.Keystore.Basic

/-! # Writing keystores

A keystore is written as JSON, its fields in order and unset ones left out;
byte strings and the address are bare hexadecimal.
-/

namespace Signet
namespace Keystore

/-- The members of those fields that are set. -/
def setMembers (fields : List (String × Option Json)) : List (String × Json) :=
  fields.filterMap fun f => f.2.map fun x => (f.1, x)

/-- A byte string in a keystore. -/
def hexMember (b : Bytes) : Json :=
  .text (Hex.bare b)

/-- The fields of key derivation parameters. -/
def paramFields (p : KdfParams) : List (String × Option Json) :=
  [("dklen", some (.int p.dklen)), ("salt", some (hexMember p.salt)), ("n", p.n.map .int),
   ("r", p.r.map .int), ("p", p.p.map .int), ("c", p.c.map .int), ("prf", p.prf.map .text)]

/-- Key derivation parameters as JSON. -/
def paramsToJson (p : KdfParams) : Json :=
  .object (setMembers (paramFields p))

/-- The members of an enciphered key, all of which are set. -/
def cryptoMembers (c : KeystoreCrypto) : List (String × Json) :=
  [("cipher", .text c.cipher), ("ciphertext", hexMember c.ciphertext),
   ("cipherparams", .object [("iv", hexMember c.iv)]), ("kdf", .text c.kdf),
   ("kdfparams", paramsToJson c.kdfParams), ("mac", hexMember c.mac)]

/-- An enciphered key as JSON. -/
def cryptoToJson (c : KeystoreCrypto) : Json :=
  .object (cryptoMembers c)

/-- The fields of a keystore file. -/
def keystoreFields (k : Keystore) : List (String × Option Json) :=
  [("version", some (.int k.version)), ("id", k.id.map .text),
   ("address", k.address.map fun a => hexMember a.bytes),
   ("crypto", some (cryptoToJson k.crypto))]

/-- A keystore as JSON. -/
def toJson (k : Keystore) : Json :=
  .object (setMembers k.keystoreFields)

/-- The text of a keystore file. -/
def render (k : Keystore) : String :=
  String.ofList k.toJson.print

end Keystore
end Signet
