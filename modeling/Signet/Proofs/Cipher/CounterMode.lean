import Signet.Cipher.CounterMode
import Signet.Proofs.Bytes.Shortest

/-! # Counter mode deciphers what it enciphers

Every step of the cipher keeps its lengths.  A key schedule grows by words of four bytes
(`Schedule.push`), the round keys of a prepared key have sixteen (`Key.ofBytes?_eq_some`),
and so a block of sixteen bytes is enciphered to sixteen (`length_encipher`).  With that,
each byte of the keystream stands at a place of its own (`CounterMode.getElem?_keystream`),
and counter mode adds it to the byte at the same place of the data, whatever stands around
(`CounterMode.apply_eq_mapIdx`).  So adding a second time takes off what was added
(`CounterMode.apply_apply`), at any length of the data.
-/

namespace Signet

namespace Aes

/-- All byte strings of a list have `n` bytes. -/
def AllLength (n : Nat) (l : List Bytes) : Prop :=
  ∀ b ∈ l, b.length = n

theorem length_add {a b : Bytes} {n : Nat} (ha : a.length = n) (hb : b.length = n) :
    (add a b).length = n := by
  rw [add, List.length_zipWith, ha, hb, Nat.min_self]

/-! ## The key schedule -/

theorem length_nextWord {before back : Bytes} (size i : Nat) (constant : UInt8)
    (hbefore : before.length = 4) (hback : back.length = 4) :
    (nextWord size i constant before back).length = 4 := by
  unfold nextWord
  refine length_add hback ?_
  split
  · refine length_add ?_ rfl
    rw [List.length_map, List.length_append, List.length_drop, List.length_take, hbefore]
    rfl
  split
  · rw [List.length_map, hbefore]
  · exact hbefore

/-- A schedule of words holds as many words as it counts, each of four bytes, and at least
those of the key. -/
structure Schedule (size i : Nat) (ws : Array Bytes) : Prop where
  size_pos : 0 < size
  size_le : size ≤ i
  count : ws.size = i
  words : AllLength 4 ws.toList

theorem Schedule.length_getD {size i j : Nat} {ws : Array Bytes} (h : Schedule size i ws)
    (hj : j < i) : (ws.getD j []).length = 4 := by
  have hsize : j < ws.size := by
    rw [h.count]
    exact hj
  rw [Array.getD_eq_getD_getElem?, Array.getElem?_eq_getElem hsize, Option.getD_some]
  exact h.words _ (Array.getElem_mem_toList hsize)

/-- One more word leaves a schedule a schedule. -/
theorem Schedule.push {size i : Nat} {ws : Array Bytes} (h : Schedule size i ws)
    (constant : UInt8) :
    Schedule size (i + 1)
      (ws.push (nextWord size i constant (ws.getD (i - 1) []) (ws.getD (i - size) []))) := by
  have hpos := h.size_pos
  have hle := h.size_le
  refine ⟨hpos, by omega, by rw [Array.size_push, h.count], ?_⟩
  intro b hb
  rw [Array.toList_push, List.mem_append] at hb
  rcases hb with hb | hb
  · exact h.words b hb
  · -- both words that the next one is made of stand in the schedule already
    obtain rfl := List.mem_singleton.mp hb
    exact length_nextWord size i constant (h.length_getD (by omega)) (h.length_getD (by omega))

theorem Schedule.expandFrom {size : Nat} (count : Nat) {i : Nat} {ws : Array Bytes}
    (h : Schedule size i ws) (constant : UInt8) :
    Schedule size (i + count) (expandFrom size count i constant ws) := by
  induction count generalizing i constant ws with
  | zero => exact h
  | succ count ih =>
    rw [Aes.expandFrom, Nat.add_succ, ← Nat.succ_add]
    exact ih (h.push constant) _

/-- A list that does not start with four elements is shorter. -/
theorem length_lt_four {α : Type} {l : List α}
    (h : ∀ a b c d rest, l = a :: b :: c :: d :: rest → False) :
    l.length < 4 := by
  match l, h with
  | [], _ | [_], _ | [_, _], _ | [_, _, _], _ => simp
  | a :: b :: c :: d :: rest, h => exact absurd rfl (h a b c d rest)

theorem allLength_wordsOf (b : Bytes) : AllLength 4 (wordsOf b) := by
  fun_induction wordsOf b with
  | case1 a b c d rest ih =>
    intro w hw
    rcases List.mem_cons.mp hw with rfl | hw
    · rfl
    · exact ih w hw
  | case2 => exact fun _ h => nomatch h

theorem length_wordsOf (b : Bytes) : (wordsOf b).length = b.length / 4 := by
  fun_induction wordsOf b with
  | case1 a b c d rest ih =>
    rw [List.length_cons, ih]
    simp only [List.length_cons]
    omega
  | case2 l h => exact (Nat.div_eq_of_lt (length_lt_four h)).symm

theorem allLength_roundKeysOf {l : List Bytes} (h : AllLength 4 l) :
    AllLength 16 (roundKeysOf l) := by
  fun_induction roundKeysOf l with
  | case1 a b c d rest ih =>
    simp only [AllLength, List.forall_mem_cons] at h
    obtain ⟨ha, hb, hc, hd, hrest⟩ := h
    intro w hw
    rcases List.mem_cons.mp hw with rfl | hw
    · rw [List.length_append, List.length_append, List.length_append, ha, hb, hc, hd]
    · exact ih hrest w hw
  | case2 => exact fun _ h => nomatch h

theorem length_roundKeysOf (l : List Bytes) : (roundKeysOf l).length = l.length / 4 := by
  fun_induction roundKeysOf l with
  | case1 a b c d rest ih =>
    rw [List.length_cons, ih]
    simp only [List.length_cons]
    omega
  | case2 l h => exact (Nat.div_eq_of_lt (length_lt_four h)).symm

/-- **A key of `size` words has `size + 7` round keys of sixteen bytes.** -/
theorem roundKeys_spec {key : Bytes} {size : Nat} (hpos : 0 < size)
    (hkey : key.length = 4 * size) :
    (roundKeys key).length = size + 7 ∧ AllLength 16 (roundKeys key) := by
  have hsize : key.length / 4 = size := by omega
  have hstart : Schedule size size (wordsOf key).toArray :=
    ⟨hpos, Nat.le_refl _, by rw [List.size_toArray, length_wordsOf, hsize], allLength_wordsOf key⟩
  have hend := hstart.expandFrom (4 * (size + 7) - size) 1
  unfold roundKeys
  simp only [hsize]
  refine ⟨?_, allLength_roundKeysOf hend.words⟩
  rw [length_roundKeysOf, Array.length_toList, hend.count]
  omega

/-- Every round key of a key has sixteen bytes. -/
structure Key.Whole (k : Key) : Prop where
  first : k.first.length = 16
  middle : AllLength 16 k.middle
  last : k.last.length = 16

/-- **A key of sixteen, twenty-four or thirty-two bytes is prepared, to round keys of
sixteen bytes.** -/
theorem Key.ofBytes?_eq_some {key : Bytes}
    (h : key.length = 16 ∨ key.length = 24 ∨ key.length = 32) :
    ∃ k, Key.ofBytes? key = some k ∧ k.Whole := by
  obtain ⟨size, hpos, hsize⟩ : ∃ size, 0 < size ∧ key.length = 4 * size :=
    ⟨key.length / 4, by omega, by omega⟩
  obtain ⟨hcount, hall⟩ := roundKeys_spec hpos hsize
  rw [Key.ofBytes?, if_pos h]
  cases hkeys : roundKeys key with
  | nil =>
    rw [hkeys] at hcount
    simp only [List.length_nil] at hcount
    omega
  | cons first rest =>
    rw [hkeys] at hcount hall
    obtain ⟨hfirst, hrest⟩ := List.forall_mem_cons.mp hall
    have hne : rest ≠ [] := by
      rintro rfl
      simp only [List.length_cons, List.length_nil] at hcount
      omega
    refine ⟨_, rfl, hfirst, fun b hb => hrest b (List.dropLast_subset rest hb), ?_⟩
    rw [List.getLastD_eq_getLast?, List.getLast?_eq_some_getLast hne, Option.getD_some]
    exact hrest _ (List.getLast_mem hne)

/-! ## A block -/

theorem length_shiftRows (b : Bytes) : (shiftRows b).length = b.length := by
  unfold shiftRows
  split <;> rfl

theorem length_mixColumns (b : Bytes) : (mixColumns b).length = b.length := by
  fun_induction mixColumns b with
  | case1 a b c d rest t ih =>
    simp only [List.length_cons, ih]
  | case2 => rfl

theorem length_round {block k : Bytes} (hblock : block.length = 16) (hk : k.length = 16) :
    (round block k).length = 16 := by
  refine length_add ?_ hk
  rw [length_mixColumns, length_shiftRows, List.length_map, hblock]

theorem length_rounds {ks : List Bytes} (hks : AllLength 16 ks) {block : Bytes}
    (hblock : block.length = 16) : (ks.foldl round block).length = 16 := by
  induction ks generalizing block with
  | nil => exact hblock
  | cons k r ih =>
    obtain ⟨hk, hr⟩ := List.forall_mem_cons.mp hks
    exact ih hr (length_round hblock hk)

/-- **A block of sixteen bytes is enciphered to sixteen bytes.** -/
theorem length_encipher {k : Key} (hk : k.Whole) {block : Bytes} (hblock : block.length = 16) :
    (encipher k block).length = 16 := by
  have hrounds := length_rounds hk.middle (length_add hblock hk.first)
  refine length_add ?_ hk.last
  rw [length_shiftRows, List.length_map, hrounds]

end Aes

/-- The low bytes of an integer are those of its remainder. -/
theorem Bytes.ofNatFixed_mod (size n : Nat) :
    ofNatFixed size (n % ceiling size) = ofNatFixed size n := by
  apply eq_of_toNat_eq
  · rw [length_ofNatFixed, length_ofNatFixed]
  · rw [toNat_ofNatFixed, toNat_ofNatFixed, Nat.mod_mod]

/-! ## Counter mode -/

namespace CounterMode

/-- A cipher that makes whole blocks of whole blocks. -/
def KeepsBlocks (encipher : Bytes → Bytes) : Prop :=
  ∀ b, b.length = blockSize → (encipher b).length = blockSize

/-- Byte `i` of the keystream from the block `start` on.  The counter goes on by one with
every block, and from its greatest value to zero. -/
def pad (encipher : Bytes → Bytes) (start : Bytes) (i : Nat) : UInt8 :=
  let counter := (Bytes.toNat start + i / blockSize) % Bytes.ceiling blockSize
  (encipher (Bytes.ofNatFixed blockSize counter)).getD (i % blockSize) 0

variable {encipher : Bytes → Bytes}

/-- A byte of the keystream stands in the block that its place tells. -/
theorem getElem?_keystream (h : KeepsBlocks encipher) (blocks counter : Nat) {i : Nat}
    (hi : i < blockSize * blocks) :
    (keystream encipher blocks counter)[i]? =
      (encipher (Bytes.ofNatFixed blockSize (counter + i / blockSize)))[i % blockSize]? := by
  induction blocks generalizing counter i with
  | zero => cases hi
  | succ blocks ih =>
    have hblock := h (Bytes.ofNatFixed blockSize counter) (Bytes.length_ofNatFixed ..)
    rw [blockSize] at hi
    by_cases hfirst : i < blockSize
    · rw [keystream, List.getElem?_append_left (by omega), Nat.div_eq_of_lt hfirst,
        Nat.mod_eq_of_lt hfirst, Nat.add_zero]
    · -- behind the first block the places count from the next one
      obtain ⟨j, rfl⟩ : ∃ j, i = j + blockSize := ⟨i - blockSize, by omega⟩
      have hj : j < blockSize * blocks := by
        rw [blockSize] at hfirst hi ⊢
        omega
      have hcounter : counter + 1 + j / blockSize = counter + (j + blockSize) / blockSize := by
        rw [Nat.add_div_right j (by decide)]
        omega
      rw [keystream, List.getElem?_append_right (by omega), hblock, Nat.add_sub_cancel,
        ih (counter + 1) hj, hcounter, Nat.add_mod_right]

/-- **Counter mode works byte by byte**: to each byte the byte of the keystream at its place
is added, and nothing else plays a part. -/
theorem apply_eq_mapIdx (h : KeepsBlocks encipher) (start data : Bytes) :
    apply encipher start data = data.mapIdx fun i x => x ^^^ pad encipher start i := by
  apply List.ext_getElem?
  intro i
  rw [apply, List.getElem?_zipWith, List.getElem?_mapIdx]
  by_cases hi : i < data.length
  · have hstream : i < blockSize * (data.length / blockSize + 1) := by
      rw [blockSize]
      omega
    have hpad : (encipher (Bytes.ofNatFixed blockSize
        (Bytes.toNat start + i / blockSize)))[i % blockSize]? = some (pad encipher start i) := by
      have hlength := h (Bytes.ofNatFixed blockSize (Bytes.toNat start + i / blockSize))
        (Bytes.length_ofNatFixed ..)
      have hplace := Nat.mod_lt i (show 0 < blockSize by decide)
      rw [pad, Bytes.ofNatFixed_mod, List.getD_eq_getElem?_getD,
        List.getElem?_eq_getElem (by omega), Option.getD_some]
    rw [getElem?_keystream h _ _ hstream, hpad, List.getElem?_eq_getElem hi]
    rfl
  · rw [List.getElem?_eq_none (by omega)]
    rfl

theorem length_apply (h : KeepsBlocks encipher) (start data : Bytes) :
    (apply encipher start data).length = data.length := by
  rw [apply_eq_mapIdx h, List.length_mapIdx]

/-- **Counter mode is its own inverse.** -/
theorem apply_apply (h : KeepsBlocks encipher) (start data : Bytes) :
    apply encipher start (apply encipher start data) = data := by
  apply List.ext_getElem?
  intro i
  rw [apply_eq_mapIdx h, apply_eq_mapIdx h, List.getElem?_mapIdx, List.getElem?_mapIdx]
  cases data[i]? with
  | none => rfl
  | some x =>
    show some (x ^^^ pad encipher start i ^^^ pad encipher start i) = some x
    rw [UInt8.xor_assoc, UInt8.xor_self, UInt8.xor_zero]

/-- **What comes later does not change what came before.** -/
theorem apply_prefix (h : KeepsBlocks encipher) (start data more : Bytes) :
    apply encipher start data <+: apply encipher start (data ++ more) := by
  rw [apply_eq_mapIdx h, apply_eq_mapIdx h, List.mapIdx_append]
  exact List.prefix_append ..

end CounterMode
end Signet
