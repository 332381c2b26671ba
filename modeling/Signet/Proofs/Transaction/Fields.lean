import Signet.Proofs.Transaction.Validity

/-! # Fields and their updates

A transaction is the values of its fields (`ext_get`), a field is found by its name
(`Field.ofName?_name`), and reading the value of one field updates that field and no
other (`get_of_read_of_ne`).
-/

namespace Signet
namespace Transaction

namespace Field

@[simp] theorem mem_all (f : Field) : f ∈ all := by
  cases f <;> decide

@[simp] theorem ofName?_name (f : Field) : ofName? f.name = some f := by
  cases f <;> decide

end Field

/-! ## A transaction is the values of its fields -/

/-- A way of writing values that never writes nothing tells an optional value. -/
theorem getD_null_injective {α : Type} {write : α → Datum}
    (hinj : ∀ a b, write a = write b → a = b) (hset : ∀ a, write a ≠ .null) {x y : Option α}
    (h : (x.map write).getD .null = (y.map write).getD .null) : x = y := by
  cases x with
  | none => cases y with
    | none => rfl
    | some b => exact absurd h.symm (hset b)
  | some a => cases y with
    | none => exact absurd h (hset a)
    | some b => rw [hinj a b h]

/-- **Transactions with the same values in all fields are equal.** -/
theorem ext_get {a b : Transaction} (h : ∀ f, a.get f = b.get f) : a = b := by
  have hnumber {m n : Option Int} :
      (m.map Datum.hexNumber).getD .null = (n.map Datum.hexNumber).getD .null → m = n :=
    getD_null_injective (fun _ _ => Datum.hexNumber.inj) nofun
  have haddress {m n : Option Address} :
      (m.map Datum.address).getD .null = (n.map Datum.address).getD .null → m = n :=
    getD_null_injective (fun _ _ => Datum.address.inj) nofun
  have htuples (k l : List AccessTuple)
      (hkl : Datum.list (k.map .accessTuple) = Datum.list (l.map .accessTuple)) : k = l :=
    (List.map_inj_right fun _ _ => Datum.accessTuple.inj).mp (Datum.list.inj hkl)
  have hty : a.ty = b.ty := Datum.int.inj (h .ty)
  have hdata : a.data = b.data := Datum.hexBytes.inj (h .data)
  have hsender := haddress (h .sender)
  have hrecipient := haddress (h .recipient)
  have haccess : a.accessList = b.accessList :=
    getD_null_injective htuples nofun (h .accessList)
  have hnonce := hnumber (h .nonce)
  have hlimit := hnumber (h .gasLimit)
  have hprice := hnumber (h .gasPrice)
  have htip := hnumber (h .maxPriorityFeePerGas)
  have hcap := hnumber (h .maxFeePerGas)
  have hvalue := hnumber (h .value)
  have hchain := hnumber (h .chainId)
  have hv := hnumber (h .v)
  have hr := hnumber (h .r)
  have hs := hnumber (h .s)
  cases a
  cases b
  simp_all

/-! ## Reading a field updates that field -/

/-- **Reading the value of a field leaves all other fields as they are.** -/
theorem get_of_read_of_ne {f g : Field} {d : Datum} {u : Transaction → Transaction}
    (h : f.read d = .ok u) (hne : g ≠ f) (tx : Transaction) : (u tx).get g = tx.get g := by
  cases f <;> obtain ⟨x, -, rfl⟩ := Check.map_eq_ok_iff.mp h <;> cases g <;>
    first | rfl | exact absurd rfl hne

end Transaction
end Signet
