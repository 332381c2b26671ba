import Signet.BlockNumber
import Signet.Curve.Basic
import Signet.Rlp.Header
import Signet.Signature

/-! # Errors

`Error` sums the causes for which an operation fails.  Every cause has a label,
which names its class, and most have a text.  Three classes of causes matter to
callers: those that refuse a value of the right kind (`refuses`), which a
validation collects field by field; those that this library declares itself
(`isDeclared`); and the others.
-/

namespace Signet

/-- A value of a kind that the operation does not take. -/
inductive KindError
  | noneAsBytes
  | bytes (kind : String)
  | number (kind : String)
  | blockNumber (kind : String)
  | signature (kind : String)
  /-- any other operation; its text is not fixed -/
  | other
  deriving DecidableEq, Repr

/-- The text of a kind error, where it is fixed. -/
def KindError.message? : KindError → Option String
  | .noneAsBytes => some "cannot convert `None` input to bytes"
  | .bytes kind => some ("invalid type for `bytes`: " ++ kind)
  | .number kind => some ("invalid type for `number`: " ++ kind)
  | .blockNumber kind => some ("invalid type for block number: " ++ kind)
  | .signature kind => some ("invalid signature type: " ++ kind)
  | .other => none

/-- Why no public key can be recovered. -/
inductive RecoveryError
  | notOnCurve
  /-- the curve library fails -/
  | failed
  deriving DecidableEq, Repr

/-- The text of a recovery error. -/
def RecoveryError.message : RecoveryError → String
  | .notOnCurve => "r is not the x-coordinate of a point on the secp256k1 curve"
  | .failed => ""

/-- What is wrong with a keystore that has the right shape. -/
inductive KeystoreError
  | version (n : Int)
  | scryptParams
  | iterationCount
  | ivLength (actual : Nat)
  | shortKey (actual : Nat)
  deriving DecidableEq, Repr

/-- The only keystore version. -/
def keystoreVersion : Nat := 3

/-- The text of a keystore error. -/
def KeystoreError.message : KeystoreError → String
  | .version n =>
    s!"only version {keystoreVersion} keystores are supported, got " ++ Numeral.decimal n
  | .scryptParams => "scrypt parameters n, r and p are required"
  | .iterationCount => "pbkdf2 iteration count c is required"
  | .ivLength n => s!"invalid iv length {n}"
  | .shortKey n => s!"derived key too short: dklen={n}"

/-- The cause of a failure. -/
inductive Error
  /-- text that is no hexadecimal form -/
  | hex (e : Hex.Error)
  /-- a byte string that is no hexadecimal integer; the text is how it is shown -/
  | hexBytes (shown : String)
  /-- text that is no integer, or an integer too long for decimal text -/
  | numeral
  /-- an integer out of the range that an operation takes -/
  | range
  | kind (e : KindError)
  /-- an integer that no fixed width holds -/
  | overflow
  /-- a byte string that no memory holds -/
  | memory
  | divisionByZero
  /-- a value nested too deep -/
  | tooDeep
  /-- a value without a JSON form -/
  | serialization
  /-- a value without the part asked for -/
  | noAttribute
  /-- a place that a list does not have -/
  | noPlace
  /-- a name that a dictionary does not have -/
  | noEntry
  | blockNumber (e : BlockNumberError)
  | negativeValue (n : Int)
  | scryptCost (n : Int)
  | length (e : LengthError)
  | component (e : ComponentError)
  | secretKey (e : SecretKeyError)
  | rlpDecoding (e : Rlp.DecodeError)
  | rlpEncoding (e : Rlp.EncodeError)
  | unsupportedType (ty : Int)
  /-- a value that is no type byte; the text is how it is written -/
  | unsupportedForm (text : String)
  | missingSignature
  | chainIdMismatch (expected actual : Int)
  | signer (expected actual : Address)
  /-- a sender that is no address; the text is how it is written -/
  | signerText (expected : String) (actual : Address)
  | recovery (e : RecoveryError)
  /-- a curve, cipher or key derivation primitive fails -/
  | internalCrypto
  | keystore (e : KeystoreError)
  | passphrase
  | addressMismatch (expected actual : Address)
  | keyNotFound (address : Address)
  | unsupportedKdf (name : String)
  | unsupportedCipher (name : String)
  | unsupportedPrf (name : String)
  | fileNotFound
  | isDirectory
  /-- a path that goes on behind a file -/
  | notDirectory
  deriving DecidableEq, Repr

namespace Error

/-- The class of a cause. -/
def label : Error → String
  | .hex _ | .hexBytes _ | .numeral | .range | .blockNumber _ | .negativeValue _
  | .scryptCost _ => "ValueError"
  | .kind _ => "TypeError"
  | .overflow => "OverflowError"
  | .memory => "MemoryError"
  | .divisionByZero => "ZeroDivisionError"
  | .tooDeep => "RecursionError"
  | .serialization => "PydanticSerializationError"
  | .noAttribute => "AttributeError"
  | .noPlace => "IndexError"
  | .noEntry => "KeyError"
  | .length _ => "InvalidLengthError"
  | .component _ => "InvalidSignatureComponentError"
  | .secretKey _ => "InvalidKeyError"
  | .rlpDecoding _ => "RLPDecodingError"
  | .rlpEncoding _ => "RLPEncodingError"
  | .unsupportedType _ | .unsupportedForm _ => "UnsupportedTransactionTypeError"
  | .missingSignature => "MissingSignatureError"
  | .chainIdMismatch .. => "ChainIdMismatchError"
  | .signer .. | .signerText .. => "InvalidSignerError"
  | .recovery _ => "RecoveryFailedError"
  | .internalCrypto => "InternalCryptoError"
  | .keystore _ => "InvalidKeystoreError"
  | .passphrase => "InvalidPassphraseError"
  | .addressMismatch .. => "AddressMismatchError"
  | .keyNotFound _ => "KeyNotFoundError"
  | .unsupportedKdf _ => "UnsupportedKdfError"
  | .unsupportedCipher _ => "UnsupportedCipherError"
  | .unsupportedPrf _ => "UnsupportedPrfError"
  | .fileNotFound => "FileNotFoundError"
  | .isDirectory => "IsADirectoryError"
  | .notDirectory => "NotADirectoryError"

/-- The text of a cause, where it is fixed. -/
def message? : Error → Option String
  | .hex .noDigits => some "invalid hex string: no digits"
  | .hex (.notNumber text) => some ("invalid hex string: " ++ Text.quoted text)
  | .hex .oddLength => some "invalid hex string, length must be even"
  | .hex .notBytes => none
  | .hexBytes shown => some ("invalid hex string: " ++ shown)
  | .numeral | .range | .overflow | .memory | .divisionByZero | .tooDeep | .serialization
  | .noAttribute | .noPlace | .noEntry => none
  | .kind e => e.message?
  | .blockNumber e => some e.message
  | .negativeValue n => some ("value must not be negative: " ++ Hex.ofInt n)
  | .scryptCost n => some ("scrypt n must be a power of two, got " ++ Numeral.decimal n)
  | .length e => some e.message
  | .component e => some e.message
  | .secretKey e => some e.message
  | .rlpDecoding e => some e.message
  | .rlpEncoding e => some e.message
  | .unsupportedType ty => some ("unsupported transaction type: " ++ Numeral.decimal ty)
  | .unsupportedForm text => some ("unsupported transaction type: " ++ text)
  | .missingSignature => some "transaction is not signed"
  | .chainIdMismatch expected actual =>
    some ("chain id mismatch: transaction has " ++ Numeral.decimal expected ++
      ", signature encodes " ++ Numeral.decimal actual)
  | .signer expected actual =>
    some ("invalid signer: transaction is from " ++ expected.hex ++ ", key is " ++ actual.hex)
  | .signerText expected actual =>
    some ("invalid signer: transaction is from " ++ expected ++ ", key is " ++ actual.hex)
  | .recovery e => some e.message
  | .internalCrypto => none
  | .keystore e => some e.message
  | .passphrase => some "invalid passphrase or keyfile"
  | .addressMismatch expected actual =>
    some ("address mismatch: keystore declares " ++ expected.hex ++ ", key derives " ++
      actual.hex)
  | .keyNotFound a => some ("no key found for address " ++ a.hex)
  | .unsupportedKdf name => some ("unsupported kdf: " ++ name)
  | .unsupportedCipher name => some ("unsupported cipher: " ++ name)
  | .unsupportedPrf name => some ("unsupported prf: " ++ name)
  | .fileNotFound | .isDirectory | .notDirectory => none

/-- Whether a cause refuses a value of the right kind. -/
def refuses : Error → Bool
  | .hex _ | .hexBytes _ | .numeral | .range | .serialization | .blockNumber _ | .negativeValue _
  | .scryptCost _ | .length _ | .component _ | .secretKey _ | .rlpDecoding _ | .rlpEncoding _
  | .unsupportedType _ | .unsupportedForm _ | .keystore _ => true
  | _ => false

/-- Whether a cause belongs to a class that this library declares. -/
def isDeclared : Error → Bool
  | .hex _ | .hexBytes _ | .numeral | .range | .kind _ | .overflow | .memory
  | .divisionByZero | .tooDeep | .serialization | .noAttribute | .noPlace | .noEntry | .blockNumber _
  | .negativeValue _ | .scryptCost _
  | .fileNotFound | .isDirectory | .notDirectory => false
  | _ => true

/-- Whether a cause is a file that cannot be read. -/
def isFile : Error → Bool
  | .fileNotFound | .isDirectory | .notDirectory => true
  | _ => false

/-- Whether a cause is a value of the wrong kind. -/
def isKind : Error → Bool
  | .kind _ => true
  | _ => false

/-- The cause `e`, whose text writes `n` in decimal: an integer too long to be
written is refused for that first. -/
def writing (n : Int) (e : Error) : Error :=
  if Numeral.isWritable n then e else .numeral

end Error

end Signet
