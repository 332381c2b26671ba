import Signet.Keystore.Derivation
import Signet.Proofs.Cipher.CounterMode
import Signet.Proofs.Datum.HexText

/-! # The cipher of keystores as a stream

Keys are enciphered and deciphered by one function, which asks for a first counter block of
the right size and for a key of a size that the cipher knows, and fails for nothing else
(`transform_eq`).  What it makes of the data is then counter mode, byte by byte
(`CounterMode.apply_eq_mapIdx`).
-/

namespace Signet
namespace Cipher

open CounterMode

variable {key iv : Bytes}

/-- A key that is prepared enciphers whole blocks, and data of any length in counter mode. -/
theorem transform_eq (hkey : key.length = 16 ∨ key.length = 24 ∨ key.length = 32)
    (hiv : iv.length = blockSize) :
    ∃ k, Aes.Key.ofBytes? key = some k ∧ KeepsBlocks (Aes.encipher k) ∧
      ∀ data, transform key data iv = .ok (apply (Aes.encipher k) iv data) := by
  obtain ⟨k, hk, hwhole⟩ := Aes.Key.ofBytes?_eq_some hkey
  refine ⟨k, hk, fun _ => Aes.length_encipher hwhole, fun data => ?_⟩
  rw [transform, if_neg (Decidable.not_not.mpr hiv), hk]

/-- A first counter block of another size is refused before anything else is looked at. -/
theorem transformOf_of_size {iv : Datum} {n : Nat} (hsize : iv.size = .ok n) (hn : n ≠ blockSize)
    (key data : Datum) : transformOf key data iv = .error (.keystore (.ivLength n)) := by
  rw [transformOf, hsize, ok_bind, if_pos hn]
  rfl

theorem argument_of_asByteString? {d : Datum} {b : Bytes} (h : d.asByteString? = some b) :
    argument d = .ok b := by
  rw [argument, (Datum.of_asByteString? h).2.2.1, mapError_ok]

/-- Byte strings of any kind are enciphered by their bytes. -/
theorem transformOf_of_asByteString? {dkey ddata div : Datum} {data : Bytes} {k : Aes.Key}
    (hkey : dkey.asByteString? = some key) (hdata : ddata.asByteString? = some data)
    (hiv : div.asByteString? = some iv) (hlength : iv.length = blockSize)
    (hk : Aes.Key.ofBytes? key = some k) :
    transformOf dkey ddata div = transform key data iv := by
  rw [transformOf, (Datum.of_asByteString? hiv).2.1, ok_bind,
    if_neg (Decidable.not_not.mpr hlength), argument_of_asByteString? hkey, ok_bind,
    argument_of_asByteString? hiv, ok_bind, hk, argument_of_asByteString? hdata]
  rfl

/-- **The cipher is a stream.**  With a key of a size that it knows and a first counter block
of sixteen bytes, whatever its value, byte strings of any kind and length are enciphered, to
as many bytes: each byte has the byte of the keystream at its place added, which is the
enciphered counter, going on from its greatest value to zero.  Enciphering again gives the
data back, and data with more behind it is enciphered to the same bytes with more behind
them.  A first counter block of another length is refused. -/
theorem transformOf_stream :
    (∀ (key data iv : Datum) (n : Nat), iv.size = .ok n → n ≠ blockSize →
      transformOf key data iv = .error (.keystore (.ivLength n)) ∧
        (Error.keystore (.ivLength n)).label = "InvalidKeystoreError") ∧
    ∀ (key iv : Datum) (k v : Bytes), key.asByteString? = some k → iv.asByteString? = some v →
      (k.length = 16 ∨ k.length = 24 ∨ k.length = 32) → v.length = blockSize →
      ∃ aes, Aes.Key.ofBytes? k = some aes ∧
        ∀ (data : Datum) (d : Bytes), data.asByteString? = some d →
          ∃ out, transformOf key data iv = .ok out ∧ out.length = d.length ∧
            (∀ i, out[i]? = d[i]?.map (· ^^^ pad (Aes.encipher aes) v i)) ∧
            transformOf key (.bytes out) iv = .ok d ∧
            ∀ e, ∃ more, transformOf key (.bytes (d ++ e)) iv = .ok (out ++ more) := by
  constructor
  · intro key data iv n hsize hn
    exact ⟨transformOf_of_size hsize hn key data, rfl⟩
  · intro key iv k v hkey hiv hk hv
    obtain ⟨aes, haes, hkeeps, htransform⟩ := transform_eq hk hv
    have happly (data : Datum) (d : Bytes) (hdata : data.asByteString? = some d) :
        transformOf key data iv = .ok (apply (Aes.encipher aes) v d) := by
      rw [transformOf_of_asByteString? hkey hdata hiv hv haes, htransform]
    refine ⟨aes, haes, fun data d hdata => ?_⟩
    refine ⟨apply (Aes.encipher aes) v d, happly data d hdata, length_apply hkeeps v d, ?_, ?_, ?_⟩
    · intro i
      rw [apply_eq_mapIdx hkeeps, List.getElem?_mapIdx]
    · rw [happly _ _ rfl, apply_apply hkeeps]
    · intro e
      obtain ⟨more, hmore⟩ := apply_prefix hkeeps v d e
      exact ⟨more, by rw [happly _ _ rfl, hmore]⟩

/-- From the greatest counter on, a block and a byte are enciphered and deciphered. -/
theorem transformOf_stream_wrapped :
    ∃ out, transformOf (.bytes (Bytes.zeros 16)) (.bytes (Bytes.zeros 17))
        (.bytes (List.replicate 16 0xFF)) = .ok out ∧ out.length = 17 ∧
      transformOf (.bytes (Bytes.zeros 16)) (.bytes out) (.bytes (List.replicate 16 0xFF)) =
        .ok (Bytes.zeros 17) := by
  obtain ⟨_, _, hstream⟩ := transformOf_stream.2 (.bytes (Bytes.zeros 16))
    (.bytes (List.replicate 16 0xFF)) _ _ rfl rfl (Or.inl rfl) rfl
  obtain ⟨out, hout, hlength, -, hback, -⟩ := hstream (.bytes (Bytes.zeros 17)) _ rfl
  exact ⟨out, hout, hlength, hback⟩

end Cipher
end Signet
