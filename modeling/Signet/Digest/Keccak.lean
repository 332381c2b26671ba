import Signet.FixedBytes

/-! # Keccak-256

The sponge over the permutation Keccak-f[1600] with a rate of 136 bytes and
the padding `0x01 … 0x80`, which is not the padding of SHA-3.
-/

namespace Signet.Keccak

/-- Twenty-five lanes of 64 bits; lane `x + 5 * y` stands at column `x`, row `y`. -/
abbrev State := Vector UInt64 25

/-- The constants of the 24 rounds. -/
def roundConstants : List UInt64 :=
  [0x0000000000000001, 0x0000000000008082, 0x800000000000808A, 0x8000000080008000,
   0x000000000000808B, 0x0000000080000001, 0x8000000080008081, 0x8000000000008009,
   0x000000000000008A, 0x0000000000000088, 0x0000000080008009, 0x000000008000000A,
   0x000000008000808B, 0x800000000000008B, 0x8000000000008089, 0x8000000000008003,
   0x8000000000008002, 0x8000000000000080, 0x000000000000800A, 0x800000008000000A,
   0x8000000080008081, 0x8000000000008080, 0x0000000080000001, 0x8000000080008008]

/-- How far each lane is rotated. -/
def rotations : Vector UInt64 25 :=
  #v[0, 1, 62, 28, 27, 36, 44, 6, 55, 20, 3, 10, 43, 25, 39, 41, 45, 15, 21, 8, 18, 2, 61,
     56, 14]

/-- Rotates a lane to the left. -/
def rotl (x : UInt64) (k : UInt64) : UInt64 :=
  (x <<< k) ||| (x >>> (64 - k))

/-- The lane at column `x`, row `y`, both taken modulo five. -/
def lane (a : State) (x y : Nat) : UInt64 :=
  a[x % 5 + 5 * (y % 5)]

/-- Adds to each lane the parities of the columns beside its own. -/
def theta (a : State) : State :=
  let parity : Vector UInt64 5 := Vector.ofFn fun x =>
    lane a x 0 ^^^ lane a x 1 ^^^ lane a x 2 ^^^ lane a x 3 ^^^ lane a x 4
  let effect : Vector UInt64 5 := Vector.ofFn fun x =>
    parity[(x.val + 4) % 5] ^^^ rotl (parity[(x.val + 1) % 5]) 1
  Vector.ofFn fun i => a[i] ^^^ effect[i.val % 5]

/-- Rotates the lanes and moves the lane at `(x, y)` to `(y, 2 x + 3 y)`. -/
def rhoPi (a : State) : State :=
  Vector.ofFn fun i =>
    let x := i.val % 5
    let y := i.val / 5
    let j := (x + 3 * y) % 5 + 5 * x
    rotl (a[j]) (rotations[j])

/-- Combines each lane with the two that follow it in its row. -/
def chi (a : State) : State :=
  Vector.ofFn fun i =>
    let x := i.val % 5
    let y := i.val / 5
    a[i] ^^^ (~~~(lane a (x + 1) y) &&& lane a (x + 2) y)

/-- One round. -/
def round (a : State) (constant : UInt64) : State :=
  let b := chi (rhoPi (theta a))
  b.set 0 (b[0] ^^^ constant)

/-- The permutation: all rounds in order. -/
def permute (a : State) : State :=
  roundConstants.foldl round a

/-- The bytes of a block. -/
def rate : Nat := 136

/-- The lane that eight bytes write, least significant byte first. -/
def laneOfBytes (b : Bytes) : UInt64 :=
  b.foldr (fun x w => (w <<< 8) ||| x.toUInt64) 0

/-- The eight bytes of a lane, least significant first. -/
def bytesOfLane (w : UInt64) : Bytes :=
  [w.toUInt8, (w >>> 8).toUInt8, (w >>> 16).toUInt8, (w >>> 24).toUInt8, (w >>> 32).toUInt8,
   (w >>> 40).toUInt8, (w >>> 48).toUInt8, (w >>> 56).toUInt8]

/-- The message with its padding: `0x01`, zeros, and `0x80` added to the last
byte of the block. -/
def pad (message : Bytes) : Bytes :=
  let gap := rate - message.length % rate
  message ++ if gap = 1 then [0x81] else 0x01 :: Bytes.zeros (gap - 2) ++ [0x80]

/-- Adds up to `count` lanes of `block` to the state, from lane `i` on. -/
def addLanes : Nat → Nat → Bytes → State → State
  | 0, _, _, a => a
  | count + 1, i, block, a =>
    if h : i < 25 then
      addLanes count (i + 1) (block.drop 8) (a.set i (a[i] ^^^ laneOfBytes (block.take 8)))
    else a

/-- Takes in `blocks` blocks. -/
def absorb : Nat → Bytes → State → State
  | 0, _, a => a
  | blocks + 1, b, a => absorb blocks (b.drop rate) (permute (addLanes (rate / 8) 0 b a))

/-- The first four lanes of a state as bytes. -/
def squeeze (a : State) : Bytes :=
  bytesOfLane a[0] ++ bytesOfLane a[1] ++ bytesOfLane a[2] ++ bytesOfLane a[3]

/-- The Keccak-256 digest of a message. -/
def digest (message : Bytes) : Hash :=
  ⟨squeeze (absorb (message.length / rate + 1) (pad message) (Vector.replicate 25 0)), rfl⟩

end Signet.Keccak
