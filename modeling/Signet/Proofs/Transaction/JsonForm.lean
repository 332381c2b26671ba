import Signet.Proofs.Datum.HexText
import Signet.Proofs.Transaction.Fields

/-! # Models are read back from JSON

In JSON form every integer and every byte string is hexadecimal text, an access tuple is
an object, and a field that is unset is left out or written as nothing.  Fields go by their
names in JSON or by their own names.  Readers look for both names, and no name of one
field is a name of another (`Field.eq_of_key`), so that each field finds what was written
for it and no more (`firstEntry?_jsonEntries`).

What a field finds it reads as the value it has on the transaction (`read_jsonForm`), and
what it does not find it leaves as it is on the empty transaction.  A transaction is the
values of its fields, so that it is read back (`ofDatum_jsonEntries`); so are access tuples
and signatures.
-/

namespace Signet

open Transaction (Field)

variable {style : DumpStyle}

/-! ## Values in JSON -/

/-- The text of a value in JSON; what is unset stays so. -/
def Datum.jsonText : Datum → Datum
  | .hexNumber i => .text (Hex.ofInt i)
  | .hexBytes b => .text (Hex.ofBytes b)
  | .address a => .text a.hex
  | d => d

/-- An access tuple in JSON. -/
def AccessTuple.jsonForm (style : DumpStyle) (a : AccessTuple) : Datum :=
  .dict (style.entries
    [⟨"address", "address", .text a.address.hex⟩,
     ⟨"storage_keys", "storageKeys", .list (a.storageKeys.map fun k => .text k.hex)⟩])

namespace Transaction

/-- The value of a field in JSON. -/
def jsonForm (style : DumpStyle) (tx : Transaction) (f : Field) : Datum :=
  match f with
  | .ty => .text (Hex.ofInt tx.ty)
  | .accessList => (tx.accessList.map fun l => .list (l.map (AccessTuple.jsonForm style))).getD .null
  | f => (tx.get f).jsonText

/-- The entries of a transaction in JSON. -/
def jsonEntries (style : DumpStyle) (tx : Transaction) : List (String × Datum) :=
  style.entries (Field.all.map fun f => ⟨f.name, f.jsonName, tx.jsonForm style f⟩)

end Transaction

theorem AccessTuple.dump_eq (h : style.json = true) (a : AccessTuple) :
    a.dump style = .ok (a.jsonForm style) := by
  obtain ⟨json, byJsonName, excludeNone⟩ := style
  obtain rfl : json = true := h
  have hkeys : a.storageKeys.mapM
      (fun k => (DumpStyle.mk true byJsonName excludeNone).scalar (.hash k)) =
      .ok (a.storageKeys.map fun k => .text k.hex) :=
    mapM_eq_ok_map fun k _ => rfl
  rw [dump, hkeys]
  rfl

/-- **A transaction in JSON has the entries of its fields.** -/
theorem Transaction.dump_eq (h : style.json = true) (tx : Transaction) :
    tx.dump style = .ok (.dict (tx.jsonEntries style)) := by
  obtain ⟨json, byJsonName, excludeNone⟩ := style
  obtain rfl : json = true := h
  have hnumber : ∀ n : Option Int,
      (DumpStyle.mk true byJsonName excludeNone).scalar ((n.map .hexNumber).getD .null) =
        .ok ((n.map .hexNumber).getD Datum.null).jsonText := by
    intro n
    cases n <;> rfl
  have haddress : ∀ a : Option Address,
      (DumpStyle.mk true byJsonName excludeNone).scalar ((a.map .address).getD .null) =
        .ok ((a.map .address).getD Datum.null).jsonText := by
    intro a
    cases a <;> rfl
  unfold dump jsonEntries
  rw [mapM_eq_ok_map fun f _ => ?_]
  · rfl
  cases f with
  | ty | data => rfl
  | sender | recipient =>
    simp only [get, haddress]
    rfl
  | accessList =>
    cases hl : tx.accessList with
    | none =>
      simp only [jsonForm, hl]
      rfl
    | some l =>
      have hlist : l.mapM (AccessTuple.dump ⟨true, byJsonName, excludeNone⟩) =
          .ok (l.map (AccessTuple.jsonForm ⟨true, byJsonName, excludeNone⟩)) :=
        mapM_eq_ok_map fun a _ => AccessTuple.dump_eq rfl a
      simp only [hlist, jsonForm, hl]
      rfl
  | _ =>
    simp only [get, hnumber]
    rfl

/-! ## Names of fields -/

/-- Whether the style writes a value. -/
def DumpStyle.writes (style : DumpStyle) (d : Datum) : Bool :=
  !(style.excludeNone && d.isNull)

namespace Transaction

/-- The name that a field goes by. -/
def Field.key (style : DumpStyle) (f : Field) : String :=
  if style.byJsonName then f.jsonName else f.name

theorem Field.key_eq (style : DumpStyle) (f : Field) :
    f.key style = f.jsonName ∨ f.key style = f.name := by
  unfold key
  split
  · exact Or.inl rfl
  · exact Or.inr rfl

/-- **No name of one field is a name of another.** -/
theorem Field.eq_of_key {f g : Field} {n : String} (hn : n = f.jsonName ∨ n = f.name)
    (h : g.key style = n) : g = f := by
  have hall : ∀ f ∈ Field.all, ∀ g ∈ Field.all, (g.jsonName = f.jsonName ∨ g.jsonName = f.name ∨
      g.name = f.jsonName ∨ g.name = f.name) → g = f := by
    decide
  refine hall f (Field.mem_all f) g (Field.mem_all g) ?_
  rcases g.key_eq style with hg | hg <;> rcases hn with hf | hf <;> rw [hg, hf] at h <;> simp [h]

/-- What is written for fields is found under a name that no other field has. -/
theorem lookup?_written {l : List Field} {p : Field → Bool} {key : Field → String}
    {form : Field → Datum} {f : Field} {n : String} (hf : f ∈ l) (hkey : ∀ g, key g = n → g = f) :
    Datum.lookup? n ((l.filter p).map fun g => (key g, form g)) =
      if p f = true ∧ key f = n then some (form f) else none := by
  rw [Datum.lookup?, List.find?_map, List.find?_filter, Option.map_map]
  cases hfind : l.find? _ with
  | none =>
    have hnot := List.find?_eq_none.mp hfind f hf
    simp only [Function.comp_apply, beq_iff_eq, decide_eq_true_eq] at hnot
    rw [if_neg hnot]
    rfl
  | some g =>
    have hg := List.find?_some hfind
    simp only [Function.comp_apply, beq_iff_eq, decide_eq_true_eq] at hg
    obtain rfl := hkey g hg.2
    rw [if_pos hg]
    rfl

variable (style : DumpStyle) (tx : Transaction) (f : Field)

theorem jsonEntries_eq : tx.jsonEntries style =
    (Field.all.filter fun f => style.writes (tx.jsonForm style f)).map
      fun f => (f.key style, tx.jsonForm style f) := by
  rw [jsonEntries, DumpStyle.entries, List.filter_map, List.map_map]
  rfl

theorem lookup?_jsonEntries {n : String} (hn : n = f.jsonName ∨ n = f.name) :
    Datum.lookup? n (tx.jsonEntries style) =
      if style.writes (tx.jsonForm style f) = true ∧ f.key style = n then
        some (tx.jsonForm style f)
      else none := by
  rw [jsonEntries_eq]
  exact lookup?_written (Field.mem_all f) fun g => Field.eq_of_key hn

/-- **A field finds what was written for it**, and nothing where nothing was. -/
theorem firstEntry?_jsonEntries :
    Check.firstEntry? (tx.jsonEntries style) [f.jsonName, f.name] =
      if style.writes (tx.jsonForm style f) then some (f.key style, tx.jsonForm style f)
      else none := by
  rw [Check.firstEntry?, List.findSome?_cons, List.findSome?_cons,
    lookup?_jsonEntries style tx f (Or.inl rfl), lookup?_jsonEntries style tx f (Or.inr rfl)]
  by_cases hwrites : style.writes (tx.jsonForm style f) = true
  · by_cases hjson : f.key style = f.jsonName
    · simp [hwrites, hjson]
    · have hname := (f.key_eq style).resolve_left hjson
      rw [hname] at hjson
      simp [hwrites, hname, hjson]
  · simp [hwrites]

/-! ## Reading access tuples -/

end Transaction

/-- A list of which each item is read back is read back. -/
theorem Check.allFrom_map {α : Type} {read : Datum → Check α} {write : α → Datum}
    (h : ∀ a, read (write a) = .ok a) (i : Nat) (xs : List α) :
    allFrom read i (xs.map write) = .ok xs := by
  induction xs generalizing i with
  | nil => rfl
  | cons a r ih =>
    rw [List.map_cons, allFrom, h, ih]
    rfl

/-- **An access tuple is read back.** -/
theorem AccessTuple.ofDatum_jsonForm (style : DumpStyle) (a : AccessTuple) :
    AccessTuple.ofDatum (a.jsonForm style) = .ok a := by
  have haddress : Check.ofExcept (Address.ofDatum (.text a.address.hex)) = .ok a.address :=
    Check.ofExcept_eq_ok_iff.mpr (FixedBytes.ofDatum_hex false a.address)
  have hkeys : Check.list (fun d => .ofExcept (Hash.ofDatum d))
      (.list (a.storageKeys.map fun k => .text k.hex)) = .ok a.storageKeys := by
    have hkey : ∀ k : Hash, Check.ofExcept (Hash.ofDatum (.text k.hex)) = .ok k := fun k =>
      Check.ofExcept_eq_ok_iff.mpr (FixedBytes.ofDatum_hex true k)
    exact Check.allFrom_map hkey 0 a.storageKeys
  obtain ⟨json, byJsonName, excludeNone⟩ := style
  show AccessTuple.ofEntries _ = .ok a
  unfold AccessTuple.ofEntries
  cases byJsonName <;> cases excludeNone <;>
    · simp only [DumpStyle.entries, Check.required, Check.withDefault, Check.firstEntry?]
      simp [Datum.lookup?, Datum.isNull, haddress, hkeys]
      rfl

namespace Transaction

variable (style : DumpStyle)

/-! ## Reading a field -/

/-- A value that may be unset is read back from its text. -/
theorem optional_jsonText {α : Type} {read : Datum → Check α} {write : α → Datum} {x : Option α}
    (hset : ∀ a, (write a).jsonText ≠ .null) (hread : ∀ a ∈ x, read (write a).jsonText = .ok a) :
    Check.optional read ((x.map write).getD .null).jsonText = .ok x := by
  cases x with
  | none => rfl
  | some a => exact Check.optional_eq_some (hset a) (hread a rfl)

theorem optional_quantityOf_jsonText {n : Option Int} (h : NonNegative n) :
    Check.optional quantityOf ((n.map .hexNumber).getD Datum.null).jsonText = .ok n :=
  optional_jsonText nofun fun i hi => quantityOf_eq_ok_iff.mpr ⟨Datum.numberOfText_ofInt i, h i hi⟩

theorem optional_wordOf_jsonText {n : Option Int} (h : FitsWord n) :
    Check.optional wordOf ((n.map .hexNumber).getD Datum.null).jsonText = .ok n :=
  optional_jsonText nofun fun i hi => wordOf_eq_ok_iff.mpr ⟨Datum.numberOfText_ofInt i, h i hi⟩

theorem optional_addressOf_jsonText (a : Option Address) :
    Check.optional addressOf ((a.map .address).getD Datum.null).jsonText = .ok a :=
  optional_jsonText nofun fun a _ => Check.ofExcept_eq_ok_iff.mpr (FixedBytes.ofDatum_hex false a)

theorem optional_accessList_jsonForm (l : Option (List AccessTuple)) :
    Check.optional (Check.list AccessTuple.ofDatum)
      ((l.map fun l => .list (l.map (AccessTuple.jsonForm style))).getD .null) = .ok l := by
  cases l with
  | none => rfl
  | some l =>
    exact Check.optional_eq_some nofun
      (Check.allFrom_map (AccessTuple.ofDatum_jsonForm style) 0 l)

/-- The type is read from its hexadecimal form. -/
theorem typeOf_ofInt {n : Int} (h : (Envelope.ofCode? n).isSome) :
    typeOf (.text (Hex.ofInt n)) = .ok n := by
  have hn := Envelope.mem_of_ofCode?_isSome h
  simp only [List.mem_cons, List.not_mem_nil, or_false] at hn
  rcases hn with rfl | rfl | rfl <;> rfl

/-- A reader that puts the value of a field into it. -/
theorem exists_update {α : Type} {c : Check α} {x : α} {put : α → Transaction → Transaction}
    {f : Field} {tx : Transaction} (hc : c = .ok x) (hput : ∀ t, (put x t).get f = tx.get f) :
    ∃ u, c.map put = .ok u ∧ ∀ t, (u t).get f = tx.get f :=
  ⟨put x, Check.map_eq_ok_iff.mpr ⟨x, hc, rfl⟩, hput⟩

/-- **What is written for a field of a valid transaction is read as its value.** -/
theorem read_jsonForm {tx : Transaction} (h : tx.Valid) (f : Field) :
    ∃ u, f.read (tx.jsonForm style f) = .ok u ∧ ∀ t, (u t).get f = tx.get f := by
  have quantity {n : Option Int} (hn : NonNegative n) := optional_quantityOf_jsonText hn
  cases f with
  | ty => exact exists_update (typeOf_ofInt h.envelope) fun t => rfl
  | sender | recipient => exact exists_update (optional_addressOf_jsonText _) fun t => rfl
  | data =>
    have hbytes : Check.ofExcept (Datum.text (Hex.ofBytes tx.data)).toBytes = .ok tx.data :=
      Check.ofExcept_eq_ok_iff.mpr (Datum.toBytes_ofBytes tx.data)
    exact exists_update hbytes fun t => rfl
  | accessList => exact exists_update (optional_accessList_jsonForm style _) fun t => rfl
  | nonce => exact exists_update (quantity h.nonce) fun t => rfl
  | gasLimit => exact exists_update (quantity h.gasLimit) fun t => rfl
  | gasPrice => exact exists_update (quantity h.gasPrice) fun t => rfl
  | maxPriorityFeePerGas => exact exists_update (quantity h.maxPriorityFeePerGas) fun t => rfl
  | maxFeePerGas => exact exists_update (quantity h.maxFeePerGas) fun t => rfl
  | value => exact exists_update (quantity h.value) fun t => rfl
  | chainId => exact exists_update (quantity h.chainId) fun t => rfl
  | v => exact exists_update (quantity h.v) fun t => rfl
  | r => exact exists_update (optional_wordOf_jsonText h.r) fun t => rfl
  | s => exact exists_update (optional_wordOf_jsonText h.s) fun t => rfl

/-- What is unset has no text, and nothing else has none. -/
theorem isNull_jsonForm (tx : Transaction) (f : Field) :
    (tx.jsonForm style f).isNull = (tx.get f).isNull := by
  have htext : ∀ d : Datum, d.jsonText.isNull = d.isNull := by
    intro d
    cases d <;> rfl
  cases f with
  | ty | data => rfl
  | accessList =>
    simp only [jsonForm, get]
    cases tx.accessList <;> rfl
  | _ => exact htext _

/-- A field that is unset is as on the empty transaction. -/
theorem get_of_isNull {tx : Transaction} {f : Field} (h : (tx.get f).isNull = true) :
    tx.get f = get {} f := by
  have hnull : tx.get f = .null := by
    cases hget : tx.get f with
    | null => rfl
    | _ => rw [hget] at h; cases h
  cases f with
  | ty | data => cases h
  | _ => exact hnull

/-- **The entries are those of the fields that are written**, by their names. -/
theorem names_jsonEntries (tx : Transaction) : (tx.jsonEntries style).map Prod.fst =
    (Field.all.filter fun f => style.writes (tx.get f)).map (Field.key style) := by
  rw [jsonEntries_eq, List.map_map]
  simp only [DumpStyle.writes, isNull_jsonForm]
  rfl

/-! ## Reading a transaction -/

/-- A field that was written is set to its value, and one that was not is left alone. -/
theorem withDefault_jsonEntries {tx : Transaction} (h : tx.Valid) (f : Field) :
    ∃ u, Check.withDefault (tx.jsonEntries style) f.jsonName [f.name] id f.read = .ok u ∧
      ∀ t, (∀ g, g ≠ f → (u t).get g = t.get g) ∧
        (t.get f = get {} f → (u t).get f = tx.get f) := by
  rw [Check.withDefault, firstEntry?_jsonEntries]
  by_cases hwrites : style.writes (tx.jsonForm style f) = true
  · obtain ⟨u, hu, hget⟩ := read_jsonForm style h f
    rw [if_pos hwrites]
    exact ⟨u, Check.under_eq_ok_iff.mpr hu, fun t =>
      ⟨fun g hg => get_of_read_of_ne hu hg t, fun _ => hget t⟩⟩
  · have hnull : (tx.get f).isNull = true := by
      simp only [DumpStyle.writes, isNull_jsonForm, Bool.not_eq_true', Bool.not_eq_false,
        Bool.and_eq_true] at hwrites
      exact hwrites.2
    have hunset := get_of_isNull hnull
    rw [if_neg hwrites]
    exact ⟨id, rfl, fun t => ⟨fun _ _ => rfl, fun ht => ht.trans hunset.symm⟩⟩

/-- **The updates of the entries** set the fields that are looked at to their values, as
long as nothing set them before, and no other field. -/
theorem updatesOf_jsonEntries {tx : Transaction} (h : tx.Valid) {fs : List Field}
    (hnodup : fs.Nodup) :
    ∃ u, updatesOf (tx.jsonEntries style) fs = .ok u ∧
      ∀ t, (∀ g, g ∉ fs → (u t).get g = t.get g) ∧
        ((∀ g ∈ fs, t.get g = get {} g) → ∀ g ∈ fs, (u t).get g = tx.get g) := by
  induction fs with
  | nil => exact ⟨id, rfl, fun t => ⟨fun _ _ => rfl, nofun⟩⟩
  | cons f fs ih =>
    obtain ⟨hf, hfs⟩ := List.nodup_cons.mp hnodup
    obtain ⟨w, hw, hone⟩ := withDefault_jsonEntries style h f
    obtain ⟨u, hu, hrest⟩ := ih hfs
    refine ⟨fun t => u (w t), ?_, fun t => ⟨fun g hg => ?_, fun ht => ?_⟩⟩
    · exact Check.seq_eq_ok_iff.mpr
        ⟨_, u, Check.map_eq_ok_iff.mpr ⟨w, hw, rfl⟩, hu, rfl⟩
    · rw [List.mem_cons, not_or] at hg
      rw [(hrest (w t)).1 g hg.2, (hone t).1 g hg.1]
    · -- the first update touches none of the fields that come after it
      have hafter : ∀ g ∈ fs, (w t).get g = get {} g := by
        intro g hg
        have hne : g ≠ f := fun heq => hf (heq ▸ hg)
        rw [(hone t).1 g hne, ht g (List.mem_cons_of_mem _ hg)]
      intro g hg
      rcases List.mem_cons.mp hg with rfl | hg
      · rw [(hrest (w t)).1 g hf, (hone t).2 (ht g (List.mem_cons_self ..))]
      · exact (hrest (w t)).2 hafter g hg

/-- **A valid transaction is read back.** -/
theorem ofDatum_jsonEntries {tx : Transaction} (h : tx.Valid) :
    ofDatum (.dict (tx.jsonEntries style)) = .ok tx := by
  have hnodup : Field.all.Nodup := by decide
  obtain ⟨u, hu, hget⟩ := updatesOf_jsonEntries style h hnodup
  have heq : u {} = tx := by
    refine ext_get fun f => ?_
    exact (hget {}).2 (fun g _ => rfl) f (Field.mem_all f)
  show ofEntries (tx.jsonEntries style) = .ok tx
  rw [ofEntries, hu, Check.map, heq]

end Transaction

/-! ## Signatures -/

namespace Signature

/-- A component is the number of a value, where that is one. -/
theorem componentOf_of_toNumber {d : Datum} {i : Int} {k : Nat} (hd : d.toNumber = .ok i)
    (hk : component i = .ok k) : componentOf d = .ok ⟨k, component_lt hk⟩ := by
  rw [componentOf, Check.ofExcept_eq_ok_iff, hd, ok_bind]
  split
  next j hj =>
    obtain rfl : j = k := Except.ok.inj (hj.symm.trans hk)
    rfl
  next e he => exact nomatch he.symm.trans hk

theorem componentOf_natCast {d : Datum} {n : Nat} (hd : d.toNumber = .ok n)
    (h : n < uint256Ceiling) : componentOf d = .ok ⟨n, h⟩ := by
  refine componentOf_of_toNumber hd ?_
  rw [component, if_pos ⟨Int.natCast_nonneg n, Int.ofNat_lt.mpr h⟩, Int.toNat_natCast]

theorem componentOf_ofInt {n : Nat} (h : n < uint256Ceiling) :
    componentOf (.text (Hex.ofInt n)) = .ok ⟨n, h⟩ := by
  have hnumber : (Datum.text (Hex.ofInt n)).toNumber = .ok (n : Int) :=
    Datum.numberOfText_ofInt n
  exact componentOf_natCast hnumber h

/-- The entries of a signature in JSON. -/
def jsonEntries (sig : Signature) : List (String × Datum) :=
  [("v", .text (Hex.ofInt sig.v)), ("r", .text (Hex.ofInt sig.r)), ("s", .text (Hex.ofInt sig.s))]

theorem dump?_eq (h : style.json = true) (sig : Signature) :
    (Datum.ofSignature sig).dump? style = some (.ok (.dict sig.jsonEntries)) := by
  obtain ⟨json, byJsonName, excludeNone⟩ := style
  obtain rfl : json = true := h
  cases byJsonName <;> cases excludeNone <;> rfl

/-- A signature is made of three values that are its components. -/
theorem ofEntries_of_components {v r s : Datum} {sig : Signature}
    (hv : componentOf v = .ok ⟨sig.v, sig.v_lt⟩) (hr : componentOf r = .ok ⟨sig.r, sig.r_lt⟩)
    (hs : componentOf s = .ok ⟨sig.s, sig.s_lt⟩) :
    ofEntries [("v", v), ("r", r), ("s", s)] = .ok sig := by
  simp only [ofEntries, Check.withDefault, Check.firstEntry?]
  simp [Datum.lookup?, hv, hr, hs]
  rfl

/-- **A signature is read back.** -/
theorem ofEntries_jsonEntries (sig : Signature) : ofEntries sig.jsonEntries = .ok sig :=
  ofEntries_of_components (componentOf_ofInt sig.v_lt) (componentOf_ofInt sig.r_lt)
    (componentOf_ofInt sig.s_lt)

end Signature

/-! ## Main statement -/

/-- The JSON form of a model is its dictionary under the names in JSON, without what is
unset. -/
theorem Datum.toJson_of_dump? {d : Datum} {r : Except Error Datum}
    (h : d.dump? ⟨true, true, true⟩ = some r) : d.toJson = r := by
  cases d <;> cases h <;> rfl

/-- **Models are read back from JSON.**  A valid transaction, a signature and an access
tuple in JSON have the entries of their fields, under the names in JSON or under their
own, and validating these entries gives the value back; so what is unset is told from
zero, and from an empty list.  With unset fields left out, exactly those that are set have
an entry.  The JSON form of a model is the one under the names in JSON. -/
theorem json_roundTrip (style : DumpStyle) (hstyle : style.json = true) :
    (∀ tx : Transaction, tx.Valid →
      (Datum.transaction tx).dump? style = some (.ok (.dict (tx.jsonEntries style))) ∧
      (tx.jsonEntries style).map Prod.fst =
        (Field.all.filter fun f => style.writes (tx.get f)).map (Field.key style) ∧
      Transaction.ofDatum (.dict (tx.jsonEntries style)) = .ok tx) ∧
    (∀ sig : Signature,
      (Datum.ofSignature sig).dump? style = some (.ok (.dict sig.jsonEntries)) ∧
      Check.object Signature.ofEntries (.dict sig.jsonEntries) = .ok sig) ∧
    (∀ a : AccessTuple,
      (Datum.accessTuple a).dump? style = some (.ok (a.jsonForm style)) ∧
      AccessTuple.ofDatum (a.jsonForm style) = .ok a) ∧
    ∀ d r, Datum.dump? ⟨true, true, true⟩ d = some r → d.toJson = r := by
  refine ⟨fun tx htx => ⟨?_, Transaction.names_jsonEntries style tx,
    Transaction.ofDatum_jsonEntries style htx⟩, fun sig => ⟨Signature.dump?_eq hstyle sig,
    Signature.ofEntries_jsonEntries sig⟩, fun a => ⟨?_, AccessTuple.ofDatum_jsonForm style a⟩,
    fun d r => Datum.toJson_of_dump?⟩
  · exact congrArg some (Transaction.dump_eq hstyle tx)
  · exact congrArg some (AccessTuple.dump_eq hstyle a)

/-- The value zero and the empty access list are read back as such, and the nonce, which is
unset, as unset. -/
theorem json_roundTrip_zero :
    Transaction.ofDatum (.dict [("type", .text "0x0"), ("value", .text "0x0"),
      ("input", .text "0x"), ("accessList", .list [])]) =
      .ok { value := some 0, accessList := some [] } := by
  have haccepted : Transaction.ofEntries [("value", .int 0), ("accessList", .list [])] =
      .ok { value := some 0, accessList := some [] } := rfl
  exact ((json_roundTrip ⟨true, true, true⟩ rfl).1 _ (Transaction.valid_of_ofEntries haccepted)).2.2

end Signet
