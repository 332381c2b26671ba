import Signet.Bytes

/-! # SHA-256

The hash of a message is eight 32 bit words, updated block by block.  A block
is 64 bytes; the last one ends in the length of the message in bits.
-/

namespace Signet.Sha256

/-- Eight words, `a` to `h`. -/
structure State where
  a : UInt32
  b : UInt32
  c : UInt32
  d : UInt32
  e : UInt32
  f : UInt32
  g : UInt32
  h : UInt32
  deriving DecidableEq, Repr

/-- The state before the first block. -/
def State.initial : State :=
  ⟨0x6A09E667, 0xBB67AE85, 0x3C6EF372, 0xA54FF53A, 0x510E527F, 0x9B05688C, 0x1F83D9AB,
   0x5BE0CD19⟩

/-- The constants of the 64 steps. -/
def stepConstants : List UInt32 :=
  [0x428A2F98, 0x71374491, 0xB5C0FBCF, 0xE9B5DBA5, 0x3956C25B, 0x59F111F1, 0x923F82A4,
   0xAB1C5ED5, 0xD807AA98, 0x12835B01, 0x243185BE, 0x550C7DC3, 0x72BE5D74, 0x80DEB1FE,
   0x9BDC06A7, 0xC19BF174, 0xE49B69C1, 0xEFBE4786, 0x0FC19DC6, 0x240CA1CC, 0x2DE92C6F,
   0x4A7484AA, 0x5CB0A9DC, 0x76F988DA, 0x983E5152, 0xA831C66D, 0xB00327C8, 0xBF597FC7,
   0xC6E00BF3, 0xD5A79147, 0x06CA6351, 0x14292967, 0x27B70A85, 0x2E1B2138, 0x4D2C6DFC,
   0x53380D13, 0x650A7354, 0x766A0ABB, 0x81C2C92E, 0x92722C85, 0xA2BFE8A1, 0xA81A664B,
   0xC24B8B70, 0xC76C51A3, 0xD192E819, 0xD6990624, 0xF40E3585, 0x106AA070, 0x19A4C116,
   0x1E376C08, 0x2748774C, 0x34B0BCB5, 0x391C0CB3, 0x4ED8AA4A, 0x5B9CCA4F, 0x682E6FF3,
   0x748F82EE, 0x78A5636F, 0x84C87814, 0x8CC70208, 0x90BEFFFA, 0xA4506CEB, 0xBEF9A3F7,
   0xC67178F2]

/-- Rotates a word to the right. -/
def rotr (x k : UInt32) : UInt32 :=
  (x >>> k) ||| (x <<< (32 - k))

/-- The next word of the schedule, from the words sixteen, fifteen, seven and
two places before it. -/
def scheduleWord (w16 w15 w7 w2 : UInt32) : UInt32 :=
  (rotr w2 17 ^^^ rotr w2 19 ^^^ (w2 >>> 10)) + w7 +
    (rotr w15 7 ^^^ rotr w15 18 ^^^ (w15 >>> 3)) + w16

/-- The words of a block and the `count` words that follow them in the
schedule; the array holds those made so far. -/
def schedule : Nat → Array UInt32 → Array UInt32
  | 0, w => w
  | count + 1, w =>
    let n := w.size
    schedule count
      (w.push (scheduleWord (w.getD (n - 16) 0) (w.getD (n - 15) 0) (w.getD (n - 7) 0)
        (w.getD (n - 2) 0)))

/-- One step with the schedule word `w` and the constant `k`. -/
def step (s : State) (w k : UInt32) : State :=
  let t1 := s.h + (rotr s.e 6 ^^^ rotr s.e 11 ^^^ rotr s.e 25) +
    ((s.e &&& s.f) ^^^ (~~~s.e &&& s.g)) + k + w
  let t2 := (rotr s.a 2 ^^^ rotr s.a 13 ^^^ rotr s.a 22) +
    ((s.a &&& s.b) ^^^ (s.a &&& s.c) ^^^ (s.b &&& s.c))
  ⟨t1 + t2, s.a, s.b, s.c, s.d + t1, s.e, s.f, s.g⟩

/-- Runs the steps for the constants `ks`, the first of them number `i`. -/
def steps (w : Array UInt32) : Nat → List UInt32 → State → State
  | _, [], s => s
  | i, k :: ks, s => steps w (i + 1) ks (step s (w.getD i 0) k)

/-- The words of a block, most significant byte first. -/
def wordsOf : Bytes → List UInt32
  | a :: b :: c :: d :: rest =>
    ((a.toUInt32 <<< 24) ||| (b.toUInt32 <<< 16) ||| (c.toUInt32 <<< 8) ||| d.toUInt32) ::
      wordsOf rest
  | _ => []

/-- Updates the state by a block of 64 bytes. -/
def compress (s : State) (block : Bytes) : State :=
  let t := steps (schedule 48 (wordsOf block).toArray) 0 stepConstants s
  ⟨s.a + t.a, s.b + t.b, s.c + t.c, s.d + t.d, s.e + t.e, s.f + t.f, s.g + t.g, s.h + t.h⟩

/-- The bytes of a block. -/
def blockSize : Nat := 64

/-- Updates the state by `blocks` blocks. -/
def absorb : Nat → Bytes → State → State
  | 0, _, s => s
  | blocks + 1, b, s => absorb blocks (b.drop blockSize) (compress s (b.take blockSize))

/-- The end of a message of `total` bytes, from its last incomplete block on:
`0x80`, zeros and the number of bits. -/
def tail (total : Nat) (rest : Bytes) : Bytes :=
  let zeros := (119 - total % blockSize) % blockSize
  rest ++ 0x80 :: Bytes.zeros zeros ++ Bytes.ofNatFixed 8 (8 * total)

/-- The four bytes of a word, most significant first. -/
def bytesOfWord (w : UInt32) : Bytes :=
  [(w >>> 24).toUInt8, (w >>> 16).toUInt8, (w >>> 8).toUInt8, w.toUInt8]

/-- The 32 bytes of a state. -/
def State.bytes (s : State) : Bytes :=
  bytesOfWord s.a ++ bytesOfWord s.b ++ bytesOfWord s.c ++ bytesOfWord s.d ++
    bytesOfWord s.e ++ bytesOfWord s.f ++ bytesOfWord s.g ++ bytesOfWord s.h

/-- The hash of a message whose first `before` bytes, whole blocks, led to the
state `s`, and whose other bytes are `rest`. -/
def finish (s : State) (before : Nat) (rest : Bytes) : Bytes :=
  let padded := tail (before + rest.length) rest
  (absorb (padded.length / blockSize) padded s).bytes

/-- The SHA-256 hash of a message. -/
def digest (message : Bytes) : Bytes :=
  finish .initial 0 message

@[simp] theorem length_finish (s : State) (before : Nat) (rest : Bytes) :
    (finish s before rest).length = 32 := rfl

end Signet.Sha256
