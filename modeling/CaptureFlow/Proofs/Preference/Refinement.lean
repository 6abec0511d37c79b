import Mathlib.Data.List.Forall2
import CaptureFlow.Proofs.Preference.Preferred
import CaptureFlow.Proofs.Preference.Run
import CaptureFlow.Proofs.Preference.StoredForm
/-! # Durable stores answer like volatile ones

A durable store holds the stored form of what a volatile one holds, row by row and under valid keys
(`Volatile.MirroredBy`).  Then every stored form is read as the value, so both read the same, every
transaction in which a row is taken away is committed, and no row is out of the bounds of a file.

So the two give the same answer to whatever is asked of them and stay alike, as long as values that
are set have a stored form (`Store.Mirrored.perform`).  They begin alike when both are empty
(`Store.answers_agree`). -/

namespace CaptureFlow

namespace Table

variable {α β : Type} {R : α → β → Prop} {t : Table α} {t' : Table β}

/-! ### Tables with related values -/

/-- The rows agree in their keys and are related in their values. -/
def RowRel (R : α → β → Prop) (row : String × α) (row' : String × β) : Prop :=
  row.1 = row'.1 ∧ R row.2 row'.2

/-- The tables have the same keys and related values. -/
def Related (R : α → β → Prop) (t : Table α) (t' : Table β) : Prop :=
  List.Forall₂ (RowRel R) t.rows t'.rows

theorem related_empty : Related R empty empty := .nil

theorem Related.get? (h : t.Related R t') (key : String) :
    Option.Rel R (t.get? key) (t'.get? key) := by
  unfold Related at h
  unfold Table.get?
  generalize t.rows = rows, t'.rows = rows' at h
  induction h with
  | nil => exact .none
  | @cons row row' _ _ same _ ih =>
      obtain ⟨keys, values⟩ := same
      rw [List.find?_cons, List.find?_cons, keys]
      cases decide (row'.1 = key) with
      | true => exact .some values
      | false => exact ih

theorem Related.insert (h : t.Related R t') (key : String) {a : α} {b : β} (values : R a b) :
    (t.insert key a).Related R (t'.insert key b) := by
  unfold Related at h ⊢
  simp only [Table.insert]
  generalize t.rows = rows, t'.rows = rows' at h
  induction h with
  | nil => exact .cons ⟨rfl, values⟩ .nil
  | @cons row row' rows rows' same rest ih =>
      rw [insertRow, insertRow, same.1]
      split
      · exact .cons ⟨rfl, values⟩ rest
      · split
        · exact .cons ⟨rfl, values⟩ (.cons same rest)
        · exact .cons same ih

theorem Related.erase (h : t.Related R t') (key : String) :
    (t.erase key).Related R (t'.erase key) :=
  List.rel_filter (fun row row' same => by simp only [same.1]) h

theorem Related.forall_right (h : t.Related R t') {P : β → Prop} (holds : ∀ a b, R a b → P b) :
    ∀ row ∈ t'.rows, P row.2 := by
  unfold Related at h
  generalize t.rows = rows, t'.rows = rows' at h
  induction h with
  | nil => exact fun row mem => by cases mem
  | cons same _ ih => exact List.forall_mem_cons.mpr ⟨holds _ _ same.2, ih⟩

end Table

/-! ### Keys and values that a store holds -/

theorem length_of_validateKey {key : String} (valid : validateKey key = .ok ()) :
    (textBytes key).length ≤ 128 := by
  unfold validateKey at valid
  split at valid
  next => cases valid
  next fits => exact Nat.le_of_not_lt fun long => fits (.inr long)

/-- The durable store holds the stored forms of what the volatile one holds, under valid keys. -/
structure Volatile.MirroredBy (v : Volatile) (d : Durable) : Prop where
  related : v.table.Related (fun value bytes => value.encode = .ok bytes) d.table
  valid : ∀ row ∈ d.table.rows, validateKey row.1 = .ok ()

namespace Volatile.MirroredBy

variable {v : Volatile} {d : Durable} {key : String}

theorem empty : Volatile.empty.MirroredBy .empty := ⟨Table.related_empty, fun _ mem => by cases mem⟩

theorem decodeRow (h : v.MirroredBy d) (key : String) :
    Durable.decodeRow (d.table.get? key) = .ok (v.table.get? key) := by
  have same := h.related.get? key
  generalize v.table.get? key = found, d.table.get? key = stored at same
  cases same with
  | none => rfl
  | some encoded =>
      rw [Durable.decodeRow, Preference.decode_encode encoded]
      rfl

theorem get_eq (h : v.MirroredBy d) (key : String) : v.get key = d.get key := by
  simp only [Volatile.get, Durable.get, h.decodeRow key]
  rfl

/-- Both accept a value that has a stored form, or both refuse its key. -/
theorem set (h : v.MirroredBy d) (key : String) {value : Preference} {bytes : Bytes}
    (encoded : value.encode = .ok bytes) :
    (∃ e, v.set key value = .error e ∧ d.set key value = .error e) ∨
      ∃ v' d', v.set key value = .ok v' ∧ d.set key value = .ok d' ∧ v'.MirroredBy d' := by
  cases valid : validateKey key with
  | error e => exact .inl ⟨e, by simp only [Volatile.set, valid]; rfl,
      by simp only [Durable.set, valid]; rfl⟩
  | ok checked =>
      refine .inr ⟨⟨v.table.insert key value⟩, ⟨d.table.insert key bytes⟩, ?_, ?_, ?_, ?_⟩
      · simp only [Volatile.set, valid]
        rfl
      · simp only [Durable.set, valid, encoded]
        rfl
      · exact h.related.insert key encoded
      · intro row mem
        rcases Table.fst_mem_insertRow mem with rfl | mem
        · exact valid
        · exact h.valid row mem

theorem remove (h : v.MirroredBy d) (key : String) :
    (v.remove key).1 = (d.remove key).1 ∧ (v.remove key).2.MirroredBy (d.remove key).2 := by
  cases valid : validateKey key with
  | error e =>
      simp only [Volatile.remove, Durable.remove, valid]
      exact ⟨trivial, h⟩
  | ok checked =>
      -- The row is decoded after it has gone; the volatile store shows that it holds a value.
      simp only [Volatile.remove, Durable.remove, valid, Durable.transaction, Transaction.remove,
        h.decodeRow key]
      refine ⟨trivial, h.related.erase key, fun row mem => h.valid row ?_⟩
      exact (List.mem_filter.mp mem).1

theorem entries_eq (h : v.MirroredBy d) : .ok v.entries = d.entries := by
  have related := h.related
  unfold Table.Related at related
  unfold Volatile.entries Durable.entries
  generalize v.table.rows = rows, d.table.rows = stored at related
  induction related with
  | nil => rfl
  | @cons row row' _ _ same _ ih =>
      obtain ⟨keys, encoded⟩ := same
      rw [Durable.decodeRows, Preference.decode_encode encoded, ← ih, ← keys]
      rfl

/-- Nothing that the durable store holds is lost in its file. -/
theorem reopen_eq (h : v.MirroredBy d) : d.reopen = .ok d := by
  have fits : ∀ row ∈ d.table.rows, Archive.Writable row := by
    intro row mem
    have key := length_of_validateKey (h.valid row mem)
    have value : row.2.length ≤ 65536 := h.related.forall_right
      (fun _ _ encoded => (Preference.encode_ok_iff.mp encoded).2) row mem
    exact ⟨by omega, by omega⟩
  unfold Durable.reopen
  rw [unarchive?_archive fits]

end Volatile.MirroredBy

/-! ### One operation -/

/-- Values to be set have stored forms. -/
def StoreOp.Encodable : StoreOp → Prop
  | .set _ value => ∃ bytes, value.encode = .ok bytes
  | _ => True

namespace Store

/-- The first store is volatile, the second is durable and holds its stored forms, and the same
calls are refused from now on. -/
inductive Mirrored : Store → Store → Prop
  | mk {v : Volatile} {d : Durable} (mirrored : v.MirroredBy d) (gets sets : Refusals) :
      Mirrored ⟨.volatile v, gets, sets⟩ ⟨.durable d, gets, sets⟩

/-- The answers are the same, and the stores after them are mirrored. -/
structure Agree {α : Type} (x y : α × Store) : Prop where
  answer : x.1 = y.1
  after : x.2.Mirrored y.2

variable {s t : Store}

theorem mirrored_empty : volatile.Mirrored (durable .empty) := .mk .empty _ _

theorem Agree.map {α β : Type} {x y : α × Store} (h : Agree x y) (f : α → β) :
    Agree (f x.1, x.2) (f y.1, y.2) := ⟨congrArg f h.answer, h.after⟩

theorem Mirrored.get (h : s.Mirrored t) (key : String) : Agree (s.get key) (t.get key) := by
  obtain ⟨mirrored, gets, sets⟩ := h
  simp only [Store.get, Backing.get, mirrored.get_eq]
  split <;> exact ⟨rfl, .mk mirrored _ _⟩

theorem Mirrored.set (h : s.Mirrored t) (key : String) {value : Preference}
    (encodable : ∃ bytes, value.encode = .ok bytes) :
    Agree (s.set key value) (t.set key value) := by
  obtain ⟨mirrored, gets, sets⟩ := h
  obtain ⟨bytes, encoded⟩ := encodable
  simp only [Store.set, Backing.set]
  split
  · exact ⟨rfl, .mk mirrored _ _⟩
  · rcases mirrored.set key encoded with ⟨e, left, right⟩ | ⟨v', d', left, right, mirrored'⟩
    · rw [left, right]
      exact ⟨rfl, .mk mirrored _ _⟩
    · rw [left, right]
      exact ⟨rfl, .mk mirrored' _ _⟩

theorem Mirrored.remove (h : s.Mirrored t) (key : String) :
    Agree (s.remove key) (t.remove key) := by
  obtain ⟨mirrored, gets, sets⟩ := h
  obtain ⟨answers, mirrored'⟩ := mirrored.remove key
  exact ⟨answers, .mk mirrored' gets sets⟩

theorem Mirrored.entries_eq (h : s.Mirrored t) : s.entries = t.entries := by
  obtain ⟨mirrored, gets, sets⟩ := h
  exact mirrored.entries_eq

theorem Mirrored.reopen (h : s.Mirrored t) : Agree s.reopen t.reopen := by
  obtain ⟨mirrored, gets, sets⟩ := h
  simp only [Store.reopen, Backing.reopen, mirrored.reopen_eq]
  exact ⟨rfl, .mk mirrored gets sets⟩

/-- Mirrored stores give the same answer to everything and stay mirrored. -/
theorem Mirrored.perform (h : s.Mirrored t) {op : StoreOp} (encodable : op.Encodable) :
    Agree (s.perform op) (t.perform op) := by
  cases op with
  | get key => exact (h.get key).map _
  | set key value => exact (h.set key encodable).map _
  | remove key => exact (h.remove key).map _
  | entries => exact ⟨congrArg (_ <$> ·) h.entries_eq, h⟩
  | preferredFacing => exact (h.get preferredCameraKey).map fun found => _ <$> (facingOf <$> found)
  | setPreferredFacing facing => exact (h.set preferredCameraKey ⟨_, facing.encode_id⟩).map _
  | reopen => exact h.reopen.map _

/-! ### Runs -/

theorem Mirrored.performAll (h : s.Mirrored t) {ops : List StoreOp}
    (encodable : ∀ op ∈ ops, op.Encodable) : Agree (s.performAll ops) (t.performAll ops) := by
  induction ops generalizing s t with
  | nil => exact ⟨rfl, h⟩
  | cons op ops ih =>
      obtain ⟨first, rest⟩ := List.forall_mem_cons.mp encodable
      have step := h.perform first
      have run := ih step.after rest
      exact ⟨List.cons_eq_cons.mpr ⟨step.answer, run.answer⟩, run.after⟩

/-- A volatile and a durable store that begin empty give the same answers to everything that is
asked of them, whether it is done or fails, and hold the same entries in the end.  The durable store
may be closed and opened again at any time.  Only the values to be set have to be such that both can
hold them. -/
theorem answers_agree (ops : List StoreOp)
    (encodable : ∀ key value, StoreOp.set key value ∈ ops → ∃ bytes, value.encode = .ok bytes) :
    (volatile.performAll ops).1 = ((durable .empty).performAll ops).1 ∧
      (volatile.performAll ops).2.entries = ((durable .empty).performAll ops).2.entries := by
  have encodable : ∀ op ∈ ops, op.Encodable := by
    intro op mem
    cases op with
    | set key value => exact encodable key value mem
    | _ => trivial
  have run := mirrored_empty.performAll encodable
  exact ⟨run.answer, run.after.entries_eq⟩

/-- A durable store that refuses a key, is reopened twice and gives a row away. -/
theorem answers_agree_reopened :
    ((durable .empty).performAll [.set "theme" (.text "é"), .set "" (.flag true), .reopen,
      .setPreferredFacing .front, .remove "theme", .reopen, .get "theme", .preferredFacing]).1 =
    [.ok .done, .error (.badKey ""), .ok .done, .ok .done, .ok (.value (some (.text "é"))),
      .ok .done, .ok (.value none), .ok (.facing .front)] := by
  refine (answers_agree _ ?_).1.symm.trans (by decide +kernel)
  intro key value mem
  simp only [List.mem_cons, StoreOp.set.injEq, reduceCtorEq, List.not_mem_nil, or_false] at mem
  rcases mem with ⟨-, rfl⟩ | ⟨-, rfl⟩
  · exact ⟨[0x53, 0x47, 0x50, 0x56, 1, 2, 2, 0xc3, 0xa9], by decide +kernel⟩
  · exact ⟨[0x53, 0x47, 0x50, 0x56, 1, 0, 1], by decide +kernel⟩

end Store

end CaptureFlow
