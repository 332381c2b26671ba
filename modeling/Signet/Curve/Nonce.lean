import Signet.Digest.Hmac

/-! # Deterministic nonces

The nonces of a signature are the outputs of a generator that is seeded with
the secret and the digest and keeps two values of 32 bytes, a key and a state.
-/

namespace Signet

/-- The key and the state of the generator. -/
structure NonceStream where
  key : Bytes
  state : Bytes
  deriving DecidableEq, Repr

namespace NonceStream

/-- Mixes `data` under the mark `mark` into the key, and renews the state. -/
def absorb (g : NonceStream) (mark : UInt8) (data : Bytes) : NonceStream :=
  let key := Hmac.code g.key (g.state ++ mark :: data)
  ⟨key, Hmac.code key g.state⟩

/-- The generator of a seed. -/
def ofSeed (seed : Bytes) : NonceStream :=
  ((⟨Bytes.zeros 32, List.replicate 32 1⟩ : NonceStream).absorb 0 seed).absorb 1 seed

/-- The next output, and the generator that would give the one after it. -/
def next (g : NonceStream) : Bytes × NonceStream :=
  let out := Hmac.code g.key g.state
  (out, (⟨g.key, out⟩ : NonceStream).absorb 0 [])

end NonceStream
end Signet
