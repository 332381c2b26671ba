import Signet.Kdf.Pbkdf2

/-! # scrypt

The password and the salt are stretched to `p` blocks of `128 r` bytes.  Each
block is mixed through a table of its `n` first successors, and the key is
stretched again from the password and the mixed blocks.
-/

namespace Signet.Scrypt

/-- Sixteen words of 32 bits. -/
abbrev Block := Vector UInt32 16

/-- Rotates a word to the left. -/
def rotl (x k : UInt32) : UInt32 :=
  (x <<< k) ||| (x >>> (32 - k))

/-- Adds to word `t` the rotated sum of the words `x` and `y`. -/
@[inline] def mixWord (s : Block) (t x y : Fin 16) (k : UInt32) : Block :=
  s.set t (s[t] ^^^ rotl (s[x] + s[y]) k)

/-- A quarter of a round, on the words at `a`, `b`, `c` and `d`. -/
@[inline] def quarter (s : Block) (a b c d : Fin 16) : Block :=
  let s := mixWord s b a d 7
  let s := mixWord s c b a 9
  let s := mixWord s d c b 13
  mixWord s a d c 18

/-- A round on the columns and a round on the rows. -/
def doubleRound (s : Block) : Block :=
  let s := quarter s 0 4 8 12
  let s := quarter s 5 9 13 1
  let s := quarter s 10 14 2 6
  let s := quarter s 15 3 7 11
  let s := quarter s 0 1 2 3
  let s := quarter s 5 6 7 4
  let s := quarter s 10 11 8 9
  quarter s 15 12 13 14

/-- The Salsa20/8 core: four double rounds, added to their start. -/
def salsa (s : Block) : Block :=
  let t := doubleRound (doubleRound (doubleRound (doubleRound s)))
  Vector.zipWith (· + ·) s t

/-- The exclusive or of two blocks. -/
def xorBlock (a b : Block) : Block :=
  Vector.zipWith (· ^^^ ·) a b

/-- Runs the core over `bs`, each block added to the result before it, and
parts the results at even places from those at odd places. -/
def mixFrom : Block → List Block → List Block × List Block
  | _, [] => ([], [])
  | x, b :: rest =>
    let y := salsa (xorBlock x b)
    let (others, mine) := mixFrom y rest
    (y :: mine, others)

/-- Mixes the blocks of one flow, starting from the last one. -/
def mixBlocks (bs : List Block) : List Block :=
  let (evens, odds) := mixFrom (bs.getLastD (Vector.replicate 16 0)) bs
  evens ++ odds

/-- The table of `count` successive mixings of `bs`, behind those made so far,
and the mixing after them. -/
def fill : Nat → Array (List Block) → List Block → Array (List Block) × List Block
  | 0, table, bs => (table, bs)
  | count + 1, table, bs => fill count (table.push bs) (mixBlocks bs)

/-- The number that the first words of the last block write. -/
def index (bs : List Block) : Nat :=
  let b := bs.getLastD (Vector.replicate 16 0)
  b[0].toNat + b[1].toNat <<< 32

/-- Mixes `count` times, each time after adding the entry that the blocks
themselves point at. -/
def walk (table : Array (List Block)) : Nat → List Block → List Block
  | 0, bs => bs
  | count + 1, bs =>
    let entry := table.getD (index bs % table.size) bs
    walk table count (mixBlocks (List.zipWith xorBlock bs entry))

/-- Mixes one flow through a table of `n` entries. -/
def mixFlow (n : Nat) (bs : List Block) : List Block :=
  let (table, last) := fill n #[] bs
  walk table n last

/-- The word that four bytes write, least significant byte first. -/
def wordOfBytes (b : Bytes) : UInt32 :=
  b.foldr (fun x w => (w <<< 8) ||| x.toUInt32) 0

/-- The four bytes of a word, least significant first. -/
def bytesOfWord (w : UInt32) : Bytes :=
  [w.toUInt8, (w >>> 8).toUInt8, (w >>> 16).toUInt8, (w >>> 24).toUInt8]

/-- The first `count` blocks of 64 bytes. -/
def blocksOf : Nat → Bytes → List Block
  | 0, _ => []
  | count + 1, b =>
    Vector.ofFn (fun i => wordOfBytes ((b.drop (4 * i.val)).take 4)) ::
      blocksOf count (b.drop 64)

/-- The bytes of blocks. -/
def bytesOf (bs : List Block) : Bytes :=
  bs.flatMap fun b => b.toList.flatMap bytesOfWord

/-- Mixes `flows` flows of `2 r` blocks each. -/
def mixFlows (n r : Nat) : Nat → Bytes → Bytes
  | 0, _ => []
  | flows + 1, b =>
    bytesOf (mixFlow n (blocksOf (2 * r) b)) ++ mixFlows n r flows (b.drop (128 * r))

/-- The first `size` bytes derived from a password and a salt at the cost
`n`, `r`, `p`. -/
def derive (password salt : Bytes) (n r p size : Nat) : Bytes :=
  let start := Pbkdf2.derive password salt 1 (p * 128 * r)
  Pbkdf2.derive password (mixFlows n r p start) 1 size

/-- The derived key has the size asked for. -/
theorem length_derive (password salt : Bytes) (n r p size : Nat) :
    (derive password salt n r p size).length = size :=
  Pbkdf2.length_derive ..

end Signet.Scrypt
