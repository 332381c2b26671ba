import Signet.Digest.Hmac

/-! # PBKDF2 with HMAC-SHA256

The derived key is cut from blocks of 32 bytes.  A block is the exclusive or of
`count` codes, each the code of the one before it; the first is the code of the
salt and the block's number.
-/

namespace Signet.Pbkdf2

/-- The exclusive or of two byte strings of one length. -/
def xor (a b : Bytes) : Bytes :=
  List.zipWith (· ^^^ ·) a b

/-- `acc` with `count` further codes added, the first of them the code of `u`. -/
def chain (key : Hmac.Key) : Nat → Bytes → Bytes → Bytes
  | 0, _, acc => acc
  | count + 1, u, acc =>
    let next := key.code u
    chain key count next (xor acc next)

/-- Block number `i`, made of `count` codes. -/
def block (key : Hmac.Key) (salt : Bytes) (count i : Nat) : Bytes :=
  let first := key.code (salt ++ Bytes.ofNatFixed 4 i)
  chain key (count - 1) first first

/-- The `blocks` blocks from number `i` on. -/
def blocksFrom (key : Hmac.Key) (salt : Bytes) (count : Nat) : Nat → Nat → Bytes
  | 0, _ => []
  | blocks + 1, i => block key salt count i ++ blocksFrom key salt count blocks (i + 1)

/-- The first `size` bytes derived from a password and a salt with `count`
codes a block. -/
def derive (password salt : Bytes) (count size : Nat) : Bytes :=
  (blocksFrom (Hmac.Key.ofBytes password) salt count ((size + 31) / 32) 1).take size

@[simp] theorem length_xor (a b : Bytes) : (xor a b).length = min a.length b.length := by
  simp [xor]

theorem length_chain (key : Hmac.Key) (count : Nat) (u acc : Bytes) (h : acc.length = 32) :
    (chain key count u acc).length = 32 := by
  induction count generalizing u acc with
  | zero => exact h
  | succ n ih => exact ih _ _ (by rw [length_xor, h, Hmac.length_code]; rfl)

theorem length_blocksFrom (key : Hmac.Key) (salt : Bytes) (count blocks i : Nat) :
    (blocksFrom key salt count blocks i).length = 32 * blocks := by
  induction blocks generalizing i with
  | zero => rfl
  | succ n ih =>
    rw [blocksFrom, List.length_append, ih, block,
      length_chain _ _ _ _ (Hmac.length_code ..), Nat.mul_succ, Nat.add_comm]

/-- The derived key has the size asked for. -/
theorem length_derive (password salt : Bytes) (count size : Nat) :
    (derive password salt count size).length = size := by
  rw [derive, List.length_take, length_blocksFrom]
  omega

end Signet.Pbkdf2
