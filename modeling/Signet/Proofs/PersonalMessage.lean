import Mathlib.Order.Monotone.Basic
import Signet.PersonalMessage
import Signet.Proofs.Text.Digits
import Signet.Proofs.Transaction.PreImage

/-! # Personal messages stand apart

The length of a message is written in decimal right in front of the message, with
nothing between the two, and a message may start with digits itself.  The frame is
unambiguous all the same (`frame_injective`): a longer message has no fewer digits in
its length, so that frames of one length hold messages of one length.

The first byte of a frame is neither a type byte nor that of a list, which keeps
frames apart from the pre-images and the wire forms of transactions (`frame_ne`).
-/

namespace Signet.PersonalMessage

open Rlp

/-- What stands between the marker and a message of `n` bytes. -/
def lengthDigits (n : Nat) : Bytes :=
  (Text.digits 10 n).map fun c => UInt8.ofNat c.toNat

theorem frame_eq (d : Bytes) : frame d = marker ++ (lengthDigits d.length ++ d) := by
  rw [frame, lengthDigits, List.append_assoc]

theorem length_lengthDigits (n : Nat) : (lengthDigits n).length = (Text.digits 10 n).length :=
  List.length_map ..

/-- A longer message has no fewer digits in its length, and so a longer frame. -/
theorem frame_length_strictMono : StrictMono fun n => (lengthDigits n).length + n := by
  intro m n h
  simp only [length_lengthDigits]
  exact Nat.add_lt_add_of_le_of_lt (Text.length_digits_mono (by decide) (Nat.le_of_lt h)) h

/-- **The frame tells the message.** -/
theorem frame_injective {d d' : Bytes} (h : frame d = frame d') : d = d' := by
  rw [frame_eq, frame_eq] at h
  have hrest := List.append_cancel_left h
  have htotal := congrArg List.length hrest
  rw [List.length_append, List.length_append] at htotal
  have hlen : d.length = d'.length := frame_length_strictMono.injective htotal
  -- the same length is written with the same digits
  rw [hlen] at hrest
  exact List.append_cancel_left hrest

/-- The first byte of a frame tells no envelope. -/
theorem ofFirstByte?_frame (d : Bytes) : (frame d).head?.bind Envelope.ofFirstByte? = none := rfl

/-- **No frame is a list behind a type byte**, as long as a prefix can tell the length of
the list. -/
theorem frame_ne (d : Bytes) (e : Envelope) {xs : List Item} (h : (Item.list xs).Fits) :
    frame d ≠ e.typePrefix ++ encodeList xs := by
  intro heq
  have he := Envelope.ofFirstByte?_append e h
  rw [← heq, ofFirstByte?_frame] at he
  cases he

/-- **Personal messages are framed unambiguously and apart from transactions.**  Frames
are equal exactly if the messages are.  Every valid transaction has a pre-image and a
wire form, and no frame is either of them, of whatever type the transaction is.  A list
whose length no prefix tells is no wire form and no pre-image in the first place, so
nothing is said about it. -/
theorem frame_unambiguous_apart (d : Bytes) :
    (∀ d', frame d = frame d' ↔ d = d') ∧
    ∀ tx : Transaction, tx.Valid →
      ∃ e p w, tx.envelope? = some e ∧ tx.signingPreImage = .ok p ∧ tx.encode = .ok w ∧
        ((Item.list (tx.preImageItems e)).Fits → frame d ≠ p) ∧
        ((Item.list (tx.items e)).Fits → frame d ≠ w) := by
  refine ⟨fun d' => ⟨frame_injective, congrArg frame⟩, fun tx htx => ?_⟩
  obtain ⟨e, he⟩ := Transaction.exists_envelope htx
  exact ⟨e, _, _, he, Transaction.signingPreImage_of_valid htx he,
    Transaction.encode_of_valid htx he, frame_ne d e, frame_ne d e⟩

/-- A message of one digit is not framed as the empty one, and not as a legacy
transaction for the first chain. -/
theorem frame_unambiguous_apart_digit :
    frame [0x30] ≠ frame [] ∧
      ∃ p w, Transaction.signingPreImage { chainId := some 1 } = .ok p ∧
        Transaction.encode { chainId := some 1 } = .ok w ∧ frame [0x30] ≠ p ∧ frame [0x30] ≠ w := by
  have haccepted : Transaction.ofEntries [("chainId", .int 1)] = .ok { chainId := some 1 } := rfl
  have h := frame_unambiguous_apart [0x30]
  refine ⟨fun heq => absurd ((h.1 []).mp heq) (by decide), ?_⟩
  obtain ⟨e, p, w, he, hp, hw, hpre, hwire⟩ := h.2 _ (Transaction.valid_of_ofEntries haccepted)
  obtain rfl : Envelope.legacy = e := Option.some.inj he
  exact ⟨p, w, hp, hw, hpre (fits_of_length_lt (by decide)),
    hwire (fits_of_length_lt (by decide))⟩

end Signet.PersonalMessage
