import Signet.Binary64
import Signet.BlockNumber
import Signet.Bytes
import Signet.Checksum
import Signet.Cipher.Aes
import Signet.Cipher.CounterMode
import Signet.Curve.Basic
import Signet.Curve.Nonce
import Signet.Curve.Secp256k1
import Signet.Datum.Basic
import Signet.Datum.Conversion
import Signet.Datum.Dump
import Signet.Datum.Equality
import Signet.Datum.Hexadecimal
import Signet.Datum.Reading
import Signet.Datum.Rlp
import Signet.Datum.Text
import Signet.Digest.Hmac
import Signet.Digest.Keccak
import Signet.Digest.Sha256
import Signet.Error
import Signet.FixedBytes
import Signet.Hex
import Signet.Json.Basic
import Signet.Json.Parser
import Signet.Json.Printer
import Signet.Kdf.Pbkdf2
import Signet.Kdf.Scrypt
import Signet.Keystore.Basic
import Signet.Keystore.Derivation
import Signet.Keystore.Fields
import Signet.Keystore.Folder
import Signet.Keystore.Opening
import Signet.Keystore.Sealing
import Signet.Keystore.Settings
import Signet.Keystore.Text
import Signet.LogSetup
import Signet.Logged
import Signet.Numeral
import Signet.PersonalMessage
import Signet.PrivateKey
import Signet.Proofs.Bytes.Shortest
import Signet.Proofs.Cipher.CounterMode
import Signet.Proofs.Cipher.Stream
import Signet.Proofs.Curve.EulerTest
import Signet.Proofs.Datum.BlockText
import Signet.Proofs.Datum.Checksum
import Signet.Proofs.Datum.Failures
import Signet.Proofs.Datum.FixedSize
import Signet.Proofs.Datum.HexForms
import Signet.Proofs.Datum.HexInteger
import Signet.Proofs.Datum.Inequality
import Signet.Proofs.Datum.SetKeys
import Signet.Proofs.Datum.ShownText
import Signet.Proofs.Datum.SpacedText
import Signet.Proofs.Failures
import Signet.Proofs.Json.RoundTrip
import Signet.Proofs.Json.ShortIntegers
import Signet.Proofs.Keystore.Authentication
import Signet.Proofs.Keystore.Cost
import Signet.Proofs.Keystore.Escapes
import Signet.Proofs.Keystore.Misfits
import Signet.Proofs.Keystore.Rewriting
import Signet.Proofs.Keystore.RoundTrip
import Signet.Proofs.Keystore.Search
import Signet.Proofs.Keystore.Written
import Signet.Proofs.Outcome
import Signet.Proofs.PersonalMessage
import Signet.Proofs.Rlp.Canonical
import Signet.Proofs.Rlp.Integers
import Signet.Proofs.Rlp.Joined
import Signet.Proofs.Rlp.Leaves
import Signet.Proofs.Rlp.Prefix
import Signet.Proofs.Rlp.Value
import Signet.Proofs.Signing.ByteForm
import Signet.Proofs.Signing.DigestArgument
import Signet.Proofs.Signing.Forms
import Signet.Proofs.Signing.PointCheck
import Signet.Proofs.Signing.Recovery
import Signet.Proofs.Signing.Verification
import Signet.Proofs.Signing.Words
import Signet.Proofs.Text.Digits
import Signet.Proofs.Text.LetterCase
import Signet.Proofs.Text.NumeralGrammar
import Signet.Proofs.Transaction.Builders
import Signet.Proofs.Transaction.Convention
import Signet.Proofs.Transaction.JsonForm
import Signet.Proofs.Transaction.PreImage
import Signet.Proofs.Transaction.Reachable
import Signet.Proofs.Transaction.Refusal
import Signet.Proofs.Transaction.Relay
import Signet.Proofs.Transaction.Resigning
import Signet.Proofs.Transaction.Signed
import Signet.Proofs.Transaction.Validity
import Signet.Proofs.Transaction.WireForm
import Signet.Proofs.Transaction.WireItem
import Signet.Proofs.Transaction.WireList
import Signet.Proofs.Validation.Accepted
import Signet.Rlp.Header
import Signet.Rlp.Item
import Signet.Rlp.Reading
import Signet.Signature
import Signet.Signing.Argument
import Signet.Signing.Recovery
import Signet.Text.Blank
import Signet.Text.Digit
import Signet.Text.Printable
import Signet.Text.Quoted
import Signet.Transaction.Basic
import Signet.Transaction.Field
import Signet.Transaction.Session
import Signet.Transaction.Signing
import Signet.Transaction.Wire
import Signet.Validation.Check
import Signet.Validation.Field
import Signet.Validation.IntegerText
