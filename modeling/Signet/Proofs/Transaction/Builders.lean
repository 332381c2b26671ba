import Signet.Proofs.Transaction.Fields
import Signet.Transaction.Session

/-! # Builder calls and what they leave behind

A builder call makes one assignment, or the three assignments of a signature in turn.
An assignment that fails changes nothing, so a call of one assignment is atomic.  A
signature is **torn** where its first component is taken and a later one is refused:
what was taken stays.  No other call changes anything when it fails
(`Session.perform_of_not_torn`), and a signature whose components fit is never torn.

Whether an assignment is taken depends on the field and the value alone
(`Session.assign_of_read`, `Session.assign_of_refused`), so that a run of calls does
exactly what the assignments do that are taken (`Session.run_eq`), and without torn
signatures what its successful calls do.
-/

namespace Signet

open Transaction (Field Setter)

namespace Transaction.Field

/-- Whether a field takes a value. -/
def Takes (f : Field) (d : Datum) : Prop :=
  ∃ u, f.read d = .ok u

instance (f : Field) (d : Datum) : Decidable (f.Takes d) :=
  match h : f.read d with
  | .ok u => isTrue ⟨u, h⟩
  | .faults _ => isFalse fun ⟨_, hu⟩ => nomatch h.symm.trans hu
  | .abort _ => isFalse fun ⟨_, hu⟩ => nomatch h.symm.trans hu

end Transaction.Field

/-! ## Calls -/

/-- A builder call and its argument. -/
structure BuilderCall where
  setter : Setter
  argument : Datum

namespace BuilderCall

/-- Whether a field takes the value that is assigned to it. -/
def isTaken (a : Field × Datum) : Bool :=
  decide (a.1.Takes a.2)

/-- Whether a call succeeds: it brings all that it assigns, and all of that is taken. -/
def succeeds (c : BuilderCall) : Bool :=
  match c.setter.assignments c.argument with
  | .ok l => l.all isTaken
  | .error _ => false

/-- The assignments of a call that are taken: those before the first that is refused. -/
def taken (c : BuilderCall) : List (Field × Datum) :=
  match c.setter.assignments c.argument with
  | .ok l => l.takeWhile isTaken
  | .error _ => []

theorem all_taken (c : BuilderCall) : c.taken.all isTaken = true := by
  unfold taken
  cases c.setter.assignments c.argument with
  | ok l => exact List.all_takeWhile
  | error e => rfl

/-- A signature of which `v` is taken, but not `r` and `s` both. -/
def Torn (c : BuilderCall) : Prop :=
  c.setter = .signature ∧ ∃ v r s, Transaction.componentsOf c.argument = some (v, r, s) ∧
    Field.v.Takes v ∧ ¬ (Field.r.Takes r ∧ Field.s.Takes s)

end BuilderCall

namespace Session

variable {s : Session} {f g : Field} {d : Datum} {u : Transaction → Transaction}
  {l : List (Field × Datum)} {c : BuilderCall}

/-- Makes assignments in order, up to the first that fails. -/
def make (s : Session) (l : List (Field × Datum)) : Session × Option Failure :=
  Transaction.assignInOrder (fun s f d => s.assign f.name d) s l

/-- Performs a call: the session after it, and its failure. -/
def perform (s : Session) (c : BuilderCall) : Session × Option Failure :=
  s.build c.setter c.argument

/-- The session after calls, failed ones included. -/
def run (s : Session) (calls : List BuilderCall) : Session :=
  calls.foldl (fun s c => (s.perform c).1) s

/-! ## One assignment -/

/-- The session after an update of one field of the current transaction. -/
def put (s : Session) (f : Field) (u : Transaction → Transaction) : Session :=
  s.mutate f (s.current.settle [f] (u s.current.tx))

theorem assign_of_read (h : f.read d = .ok u) (s : Session) :
    s.assign f.name d = .ok (s.put f u) := by
  simp only [assign, Transaction.assign, Field.ofName?_name, h, Check.map, Check.under,
    Check.toExcept, ok_bind]
  rfl

/-- An assignment that a field refuses fails, whatever it is made to. -/
theorem assign_of_refused (h : ¬ f.Takes d) (s : Session) : ∃ e, s.assign f.name d = .error e := by
  simp only [assign, Transaction.assign, Field.ofName?_name]
  cases hread : f.read d with
  | ok u => exact absurd ⟨u, hread⟩ h
  | faults fs => exact ⟨_, rfl⟩
  | abort e => exact ⟨_, rfl⟩

theorem current_put (s : Session) (f : Field) (u : Transaction → Transaction) :
    (s.put f u).current = s.current.settle [f] (u s.current.tx) := by
  unfold put mutate
  cases s.sharing <;> rfl

/-- An assignment leaves the other fields of the current transaction as they are. -/
theorem get_put_of_ne (h : f.read d = .ok u) (hne : g ≠ f) :
    (s.put f u).current.get g = s.current.get g := by
  have hloose : (s.current.loose.filter fun e => decide (e.1 ∉ [f])).lookup g =
      s.current.loose.lookup g := by
    induction s.current.loose with
    | nil => rfl
    | cons e r ih =>
      obtain ⟨k, x⟩ := e
      by_cases hk : k = f
      · have hgk : (g == k) = false := beq_false_of_ne (hk ▸ hne)
        rw [List.filter_cons_of_neg (by simp [hk]), ih, List.lookup_cons, hgk]
      · rw [List.filter_cons_of_pos (by simp [hk]), List.lookup_cons, List.lookup_cons, ih]
  rw [current_put, Draft.settle, Draft.get, Draft.get, hloose,
    Transaction.get_of_read_of_ne h hne]

/-! ## Assignments in order -/

@[simp] theorem make_nil (s : Session) : s.make [] = (s, none) := rfl

theorem make_cons_of_read (h : f.read d = .ok u) (s : Session) (l : List (Field × Datum)) :
    s.make ((f, d) :: l) = (s.put f u).make l := by
  rw [make, Transaction.assignInOrder, assign_of_read h]
  rfl

theorem make_cons_of_refused (h : ¬ f.Takes d) (s : Session) (l : List (Field × Datum)) :
    ∃ e, s.make ((f, d) :: l) = (s, some e) := by
  obtain ⟨e, he⟩ := assign_of_refused h s
  refine ⟨e, ?_⟩
  rw [make, Transaction.assignInOrder, he]

/-- **Assignments do what those of them do that are taken**, and fail exactly if one is
refused. -/
theorem make_eq (s : Session) (l : List (Field × Datum)) :
    (s.make l).1 = (s.make (l.takeWhile BuilderCall.isTaken)).1 ∧
      ((s.make l).2 = none ↔ l.all BuilderCall.isTaken = true) := by
  induction l generalizing s with
  | nil => exact ⟨rfl, by simp⟩
  | cons a l ih =>
    obtain ⟨f, d⟩ := a
    by_cases h : f.Takes d
    · have htaken : BuilderCall.isTaken (f, d) = true := decide_eq_true h
      obtain ⟨u, hu⟩ := h
      rw [List.takeWhile_cons_of_pos htaken, make_cons_of_read hu, make_cons_of_read hu,
        List.all_cons, htaken, Bool.true_and]
      exact ih (s.put f u)
    · have hrefused : BuilderCall.isTaken (f, d) = false := decide_eq_false h
      obtain ⟨e, he⟩ := make_cons_of_refused h s l
      rw [List.takeWhile_cons_of_neg (by simp [hrefused]), he, List.all_cons, hrefused]
      simp

/-- What is assigned behind assignments that are taken is assigned after them. -/
theorem make_append (s : Session) {l : List (Field × Datum)} (h : l.all BuilderCall.isTaken = true)
    (l' : List (Field × Datum)) : (s.make (l ++ l')).1 = ((s.make l).1.make l').1 := by
  induction l generalizing s with
  | nil => rfl
  | cons a l ih =>
    obtain ⟨f, d⟩ := a
    rw [List.all_cons, Bool.and_eq_true_iff] at h
    obtain ⟨u, hu⟩ : f.Takes d := of_decide_eq_true h.1
    rw [List.cons_append, make_cons_of_read hu, make_cons_of_read hu]
    exact ih (s.put f u) h.2

/-! ## One call -/

/-- **A call does what those of its assignments do that are taken**, and whether it fails
does not depend on the session. -/
theorem perform_eq (s : Session) (c : BuilderCall) :
    (s.perform c).1 = (s.make c.taken).1 ∧ ((s.perform c).2 = none ↔ c.succeeds = true) := by
  unfold perform build BuilderCall.taken BuilderCall.succeeds
  cases c.setter.assignments c.argument with
  | ok l => exact make_eq s l
  | error e => simp

/-- A call that fails has nothing taken, unless it is torn. -/
theorem taken_of_not_torn (hfails : c.succeeds = false) (h : ¬ c.Torn) : c.taken = [] := by
  obtain ⟨setter, argument⟩ := c
  unfold BuilderCall.succeeds at hfails
  unfold BuilderCall.taken
  cases setter with
  | field f =>
    have hrefused : BuilderCall.isTaken (f, argument) = false := by
      simpa [Setter.assignments] using hfails
    simp [Setter.assignments, hrefused]
  | signature =>
    simp only [Setter.assignments] at hfails ⊢
    cases hparts : Transaction.componentsOf argument with
    | none => rfl
    | some parts =>
      obtain ⟨v, r, s⟩ := parts
      rw [hparts] at hfails
      have hv : ¬ Field.v.Takes v := by
        intro hv
        refine h ⟨rfl, v, r, s, hparts, hv, ?_⟩
        rintro ⟨hr, hs⟩
        simp [BuilderCall.isTaken, hv, hr, hs] at hfails
      have hrefused : BuilderCall.isTaken (.v, v) = false := decide_eq_false hv
      simp [hrefused]

/-- **A call that fails changes nothing**, unless it is torn. -/
theorem perform_of_not_torn (hfails : (s.perform c).2 ≠ none) (h : ¬ c.Torn) :
    (s.perform c).1 = s := by
  have hsucceeds : c.succeeds = false := by
    rw [← Bool.not_eq_true, ← (perform_eq s c).2]
    exact hfails
  rw [(perform_eq s c).1, taken_of_not_torn hsucceeds h, make_nil]

/-- **A torn call** fails, and changes no other fields than `v` and `r`. -/
theorem perform_of_torn (s : Session) (h : c.Torn) :
    (s.perform c).2 ≠ none ∧
      ∀ f, f ≠ .v → f ≠ .r → (s.perform c).1.current.get f = s.current.get f := by
  obtain ⟨setter, argument⟩ := c
  obtain ⟨rfl, v, r, w, hparts, ⟨uv, hv⟩, hrefused⟩ := h
  have hperform : s.perform ⟨.signature, argument⟩ = (s.put .v uv).make [(.r, r), (.s, w)] := by
    simp only [perform, build, Setter.assignments, hparts]
    exact make_cons_of_read hv s _
  rw [hperform]
  by_cases hr : Field.r.Takes r
  · obtain ⟨ur, hr'⟩ := hr
    obtain ⟨e, he⟩ := make_cons_of_refused (fun hs => hrefused ⟨⟨ur, hr'⟩, hs⟩)
      ((s.put .v uv).put .r ur) []
    rw [make_cons_of_read hr', he]
    refine ⟨by simp, fun f hfv hfr => ?_⟩
    rw [get_put_of_ne hr' hfr, get_put_of_ne hv hfv]
  · obtain ⟨e, he⟩ := make_cons_of_refused hr (s.put .v uv) [(.s, w)]
    rw [he]
    exact ⟨by simp, fun f hfv _ => get_put_of_ne hv hfv⟩

/-! ## Runs of calls -/

/-- **A run of calls does what those of all assignments do that are taken.** -/
theorem run_eq (s : Session) (calls : List BuilderCall) :
    s.run calls = (s.make (calls.flatMap BuilderCall.taken)).1 := by
  induction calls generalizing s with
  | nil => rfl
  | cons c calls ih =>
    rw [List.flatMap_cons, make_append s c.all_taken, ← (perform_eq s c).1, ← ih]
    rfl

/-- Without torn signatures all that is taken belongs to successful calls. -/
theorem flatMap_taken_filter {calls : List BuilderCall} (h : ∀ c ∈ calls, ¬ c.Torn) :
    (calls.filter BuilderCall.succeeds).flatMap BuilderCall.taken =
      calls.flatMap BuilderCall.taken := by
  induction calls with
  | nil => rfl
  | cons c calls ih =>
    obtain ⟨hc, hcalls⟩ := List.forall_mem_cons.mp h
    by_cases hsucceeds : c.succeeds = true
    · rw [List.filter_cons_of_pos hsucceeds, List.flatMap_cons, List.flatMap_cons, ih hcalls]
    · have hnothing : c.taken = [] := taken_of_not_torn (Bool.not_eq_true _ ▸ hsucceeds) hc
      rw [List.filter_cons_of_neg hsucceeds, ih hcalls, List.flatMap_cons, hnothing,
        List.nil_append]

/-! ## Main statement -/

/-- A component that fits is taken, as `v` and as `r` or `s`. -/
theorem takes_component {n : Nat} (h : n < uint256Ceiling) :
    Field.v.Takes (.hexNumber n) ∧ Field.r.Takes (.hexNumber n) ∧ Field.s.Takes (.hexNumber n) := by
  have hpos : (0 : Int) ≤ n := Int.natCast_nonneg n
  have hquantity : Transaction.quantityOf (.hexNumber n) = .ok n :=
    Transaction.quantityOf_eq_ok_iff.mpr ⟨rfl, hpos⟩
  have hword : Transaction.wordOf (.hexNumber n) = .ok n :=
    Transaction.wordOf_eq_ok_iff.mpr ⟨rfl, hpos, Int.ofNat_lt.mpr h⟩
  have hset : Datum.hexNumber n ≠ .null := nofun
  refine ⟨?_, ?_, ?_⟩
  · rw [Field.Takes, Field.read, Check.optional_eq_some hset hquantity]
    exact ⟨_, rfl⟩
  · rw [Field.Takes, Field.read, Check.optional_eq_some hset hword]
    exact ⟨_, rfl⟩
  · rw [Field.Takes, Field.read, Check.optional_eq_some hset hword]
    exact ⟨_, rfl⟩

/-- **Builder calls are atomic, but for torn signatures.**  Whether a call succeeds does
not depend on what it is made to.  A call that fails leaves everything as it was, unless
it brings a torn signature; that one fails too, and what it changes are `v` and `r` at
most.  A signature whose components fit succeeds and is never torn.  So any calls without
a torn signature among them, failed ones included, come to what the successful ones come
to; torn or not, they come to the assignments that are taken. -/
theorem run_atomic (s : Session) :
    (∀ c, (s.perform c).2 = none ↔ c.succeeds = true) ∧
    (∀ c, (s.perform c).2 ≠ none → ¬ c.Torn → (s.perform c).1 = s) ∧
    (∀ c, c.Torn → (s.perform c).2 ≠ none ∧
      ∀ f, f ≠ .v → f ≠ .r → (s.perform c).1.current.get f = s.current.get f) ∧
    (∀ sig, BuilderCall.succeeds ⟨.signature, .ofSignature sig⟩ = true) ∧
    ∀ calls, s.run calls = (s.make (calls.flatMap BuilderCall.taken)).1 ∧
      ((∀ c ∈ calls, ¬ c.Torn) → s.run calls = s.run (calls.filter BuilderCall.succeeds)) := by
  refine ⟨fun c => (perform_eq s c).2, fun c => perform_of_not_torn, fun c => perform_of_torn s,
    fun sig => ?_, fun calls => ⟨run_eq s calls, fun h => ?_⟩⟩
  · have hv := (takes_component sig.v_lt).1
    have hr := (takes_component sig.r_lt).2.1
    have hs := (takes_component sig.s_lt).2.2
    simp [BuilderCall.succeeds, Setter.assignments, Transaction.componentsOf, Datum.ofSignature,
      BuilderCall.isTaken, hv, hr, hs]
  · rw [run_eq, run_eq, flatMap_taken_filter h]

/-- A signature whose `r` was replaced by an integer too wide for it is torn: the call
fails, and its `v` stays on the transaction, which had none. -/
theorem run_not_atomic :
    let c : BuilderCall :=
      ⟨.signature, .signature (.hexNumber 27) (.hexNumber uint256Ceiling) (.hexNumber 1)⟩
    ((start {}).perform c).2 ≠ none ∧
      ((start {}).perform c).1.current.tx = { v := some 27 } ∧
      ((start {}).run ([c].filter BuilderCall.succeeds)).current.tx = {} := by
  decide

end Session

end Signet
