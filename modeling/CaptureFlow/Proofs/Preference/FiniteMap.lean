import CaptureFlow.Proofs.History
import CaptureFlow.Proofs.Preference.Refinement
/-! # A store is a finite map

What is under a key can be told from the history of a store alone: it is what was put there last, if
it has not been taken away since (`LastSet`).  A store from which no call is refused answers
accordingly.  Removing gives what reading would have given, and the list of all entries has a row
for just those keys that can be read, in the order of the keys (`Store.MapOf`).

Both kinds of store hold the values of one table (`Store.Holds`), and each operation changes this
table by what it wrote (`Store.Holds.perform`).  The table follows the history, so both are finite
maps after everything that is done to them from the beginning (`Store.finite_map`). -/

namespace CaptureFlow

/-! ### Histories of a store -/

/-- The key under which an operation writes, and the value that it puts there; a row is taken away
without one. -/
def StoreOp.write? : StoreOp → Option (String × Option Preference)
  | .set key value => some (key, some value)
  | .remove key => some (key, none)
  | .setPreferredFacing facing => some (preferredCameraKey, some (.number facing.id))
  | _ => none

structure StoreEvent where
  op : StoreOp
  answer : Except Failure StoreReply

namespace StoreEvent

/-- What was written; an operation that fails writes nothing. -/
def wrote (e : StoreEvent) : Option (String × Option Preference) :=
  match e.answer with
  | .ok _ => e.op.write?
  | .error _ => none

/-- Whether something was put under `key` or taken away from there. -/
def writes (key : String) (e : StoreEvent) : Bool := e.wrote.any fun write => write.1 = key

theorem wrote_of_write?_eq_none {op : StoreOp} (reads : op.write? = none)
    (answer : Except Failure StoreReply) : wrote ⟨op, answer⟩ = none := by
  cases answer with
  | error e => rfl
  | ok reply => exact reads

end StoreEvent

/-- `value` has been put under `key`, and since then nothing has been put there or taken away. -/
def LastSet (key : String) (value : Preference) (history : List StoreEvent) : Prop :=
  ∃ e, Since (StoreEvent.writes key) history e ∧ e.wrote = some (key, some value)

/-- Everything that is done to a store, with the answers. -/
def Store.history (s : Store) (ops : List StoreOp) : List StoreEvent :=
  List.zipWith StoreEvent.mk ops (s.performAll ops).1

theorem Store.history_append_singleton (s : Store) (ops : List StoreOp) (op : StoreOp) :
    s.history (ops ++ [op]) = s.history ops ++ [⟨op, ((s.performAll ops).2.perform op).1⟩] := by
  simp only [history, performAll_append]
  rw [List.zipWith_append (length_performAll ops).symm]
  rfl

variable {key : String} {value : Preference} {history : List StoreEvent}

theorem not_lastSet_nil : ¬LastSet key value [] := by
  rintro ⟨e, since, -⟩
  exact absurd since.mem List.not_mem_nil

/-- What was put under a key last was put there by the last event, or this left the key alone. -/
theorem lastSet_append_singleton (e : StoreEvent) :
    LastSet key value (history ++ [e]) ↔
      e.wrote = some (key, some value) ∨ e.writes key = false ∧ LastSet key value history := by
  constructor
  · rintro ⟨e', since, wrote⟩
    rcases since.of_append with rfl | ⟨since, quiet⟩
    · exact .inl wrote
    · exact .inr ⟨quiet, e', since, wrote⟩
  · rintro (wrote | ⟨quiet, e', since, wrote⟩)
    · exact ⟨e, since_append_self _ _ _, wrote⟩
    · exact ⟨e', since.append quiet, wrote⟩

/-! ### Tables as sets of rows -/

namespace Table

variable {β : Type} {t t' : Table β} {v : β}

theorem get?_eq_some_iff : t.get? key = some v ↔ (key, v) ∈ t.rows := by
  obtain ⟨rows, ordered⟩ := t
  simp only [get?]
  induction rows with
  | nil => simp
  | cons first rest ih =>
      obtain ⟨before, ordered⟩ := List.pairwise_cons.mp ordered
      rw [List.find?_cons, List.mem_cons]
      by_cases same : first.1 = key
      · -- No other row has this key, since all of them come after the first.
        have others : (key, v) ∉ rest := fun mem =>
          not_keyBefore_self first.1 (same ▸ before (key, v) mem)
        rw [or_iff_left others, decide_eq_true same, Option.map_some, Option.some.injEq,
          Prod.ext_iff]
        exact ⟨fun eq => ⟨same.symm, eq.symm⟩, fun eq => eq.2.symm⟩
      · have other : (key, v) ≠ first := fun eq => same (eq ▸ rfl)
        rw [or_iff_right other, decide_eq_false same]
        exact ih ordered

/-- A write to a table: a value is put under a key, or the row of a key is taken away. -/
def write (t : Table β) : Option (String × Option β) → Table β
  | some (key, some v) => t.insert key v
  | some (key, none) => t.erase key
  | none => t

theorem get?_write (w : Option (String × Option β)) :
    (t.write w).get? key = some v ↔ w = some (key, some v) ∨
      (w.any fun write => write.1 = key) = false ∧ t.get? key = some v := by
  cases w with
  | none => simp [write]
  | some w =>
      obtain ⟨k, put⟩ := w
      by_cases same : k = key
      · cases put <;> simp [write, same]
      · cases put <;> simp [write, same]

end Table

/-! ### What a store holds -/

namespace Backing

variable {table : Table Preference} {b : Backing}

/-- The backing holds the values of `table`, all of them under valid keys. -/
inductive Holds (table : Table Preference) : Backing → Prop
  | volatile (valid : ∀ row ∈ table.rows, validateKey row.1 = .ok ()) :
      Holds table (.volatile ⟨table⟩)
  | durable {d : Durable} (mirrored : Volatile.MirroredBy ⟨table⟩ d) : Holds table (.durable d)

theorem Holds.valid (h : b.Holds table) : ∀ row ∈ table.rows, validateKey row.1 = .ok () := by
  cases h with
  | volatile valid => exact valid
  | @durable d mirrored =>
      rintro ⟨key, value⟩ mem
      have found : table.get? key = some value := Table.get?_eq_some_iff.mpr mem
      have same := mirrored.related.get? key
      rw [found] at same
      generalize stored : d.table.get? key = row at same
      cases same with
      | some encoded => exact mirrored.valid _ (Table.get?_eq_some_iff.mp stored)

theorem Holds.get_eq (h : b.Holds table) (key : String) :
    b.get key = (fun () => table.get? key) <$> validateKey key := by
  have volatile : Volatile.get ⟨table⟩ key = (fun () => table.get? key) <$> validateKey key := by
    rw [Volatile.get]
    cases validateKey key <;> rfl
  cases h with
  | volatile => exact volatile
  | durable mirrored => exact (mirrored.get_eq key).symm.trans volatile

/-- A value that is put under a key is put under a valid one and replaces what was there. -/
theorem Holds.set (h : b.Holds table) (key : String) (value : Preference) :
    (∃ cause, b.set key value = .error cause) ∨
      ∃ b', b.set key value = .ok b' ∧ b'.Holds (table.insert key value) := by
  cases valid : validateKey key with
  | error cause =>
      left
      refine ⟨cause, ?_⟩
      cases h <;> simp only [Backing.set, Volatile.set, Durable.set, valid] <;> rfl
  | ok _ =>
      cases h with
      | volatile allValid =>
          refine .inr ⟨.volatile ⟨table.insert key value⟩, ?_, .volatile fun row mem => ?_⟩
          · simp only [Backing.set, Volatile.set, valid]
            rfl
          · rcases Table.fst_mem_insertRow mem with rfl | mem
            · exact valid
            · exact allValid row mem
      | @durable d mirrored =>
          cases encoded : value.encode with
          | error cause =>
              refine .inl ⟨cause, ?_⟩
              simp only [Backing.set, Durable.set, valid, encoded]
              rfl
          | ok bytes =>
              rcases mirrored.set key encoded with ⟨cause, _, refused⟩ | ⟨v, d', left, right, after⟩
              · exact .inl ⟨cause, by rw [Backing.set, refused]; rfl⟩
              · simp only [Volatile.set, valid] at left
                obtain rfl := Except.ok.inj left
                exact .inr ⟨.durable d', by rw [Backing.set, right]; rfl, .durable after⟩

/-- What is removed is what would have been read. -/
theorem Holds.remove (h : b.Holds table) (key : String) :
    (∃ cause, b.get key = .error cause ∧ b.remove key = (.error cause, b)) ∨
      ∃ b', b.get key = .ok (table.get? key) ∧ b.remove key = (.ok (table.get? key), b') ∧
        b'.Holds (table.erase key) := by
  have read := h.get_eq key
  cases valid : validateKey key with
  | error cause =>
      refine .inl ⟨cause, by rw [read, valid]; rfl, ?_⟩
      cases h <;> simp only [Backing.remove, Volatile.remove, Durable.remove, valid] <;> rfl
  | ok _ =>
      rw [valid] at read
      cases h with
      | volatile allValid =>
          refine .inr ⟨.volatile ⟨table.erase key⟩, read, ?_, .volatile fun row mem => ?_⟩
          · simp only [Backing.remove, Volatile.remove, valid]
            rfl
          · exact allValid row (List.mem_filter.mp mem).1
      | @durable d mirrored =>
          obtain ⟨answers, after⟩ := mirrored.remove key
          simp only [Volatile.remove, valid] at answers after
          exact .inr ⟨.durable (d.remove key).2, read, Prod.ext answers.symm rfl, .durable after⟩

theorem Holds.entries_eq (h : b.Holds table) : b.entries = .ok table.rows := by
  cases h with
  | volatile => rfl
  | durable mirrored => exact mirrored.entries_eq.symm

theorem Holds.reopen_eq (h : b.Holds table) : b.reopen = .ok b := by
  cases h with
  | volatile => rfl
  | durable mirrored => rw [Backing.reopen, mirrored.reopen_eq]; rfl

end Backing

namespace Store

variable {table : Table Preference} {s : Store}

/-- The store holds the values of `table` and refuses no call. -/
structure Holds (table : Table Preference) (s : Store) : Prop where
  backing : s.backing.Holds table
  gets : s.gets.refused = []
  sets : s.sets.refused = []

theorem holds_volatile : volatile.Holds .empty :=
  ⟨.volatile (List.forall_mem_nil _), rfl, rfl⟩

theorem holds_durable : (durable .empty).Holds .empty := ⟨.durable .empty, rfl, rfl⟩

theorem Holds.get_eq (h : s.Holds table) (key : String) :
    s.get key = (s.backing.get key, { s with gets := s.gets.count }) := by
  have allowed : s.gets.refusesNext = false := by rw [Refusals.refusesNext, h.gets]; rfl
  rw [Store.get, allowed]
  rfl

theorem Holds.get (h : s.Holds table) (key : String) : (s.get key).2.Holds table := by
  rw [h.get_eq]
  exact ⟨h.backing, h.gets, h.sets⟩

theorem Holds.set (h : s.Holds table) (key : String) (value : Preference) :
    (∃ cause, (s.set key value).1 = .error cause ∧ (s.set key value).2.Holds table) ∨
      (s.set key value).1 = .ok () ∧ (s.set key value).2.Holds (table.insert key value) := by
  have allowed : s.sets.refusesNext = false := by rw [Refusals.refusesNext, h.sets]; rfl
  simp only [Store.set, allowed, Bool.false_eq_true, if_false]
  rcases h.backing.set key value with ⟨cause, refused⟩ | ⟨b', accepted, holds⟩
  · rw [refused]
    exact .inl ⟨cause, rfl, h.backing, h.gets, h.sets⟩
  · rw [accepted]
    exact .inr ⟨rfl, holds, h.gets, h.sets⟩

theorem Holds.perform_set (h : s.Holds table) (key : String) (value : Preference) :
    (s.perform (.set key value)).2.Holds
      (table.write (StoreEvent.mk (.set key value) (s.perform (.set key value)).1).wrote) := by
  rcases h.set key value with ⟨cause, refused, holds⟩ | ⟨done, holds⟩
  · simp only [Store.perform, refused]
    exact holds
  · simp only [Store.perform, done]
    exact holds

/-- Every operation changes the table by what it wrote. -/
theorem Holds.perform (h : s.Holds table) (op : StoreOp) :
    (s.perform op).2.Holds (table.write (StoreEvent.mk op (s.perform op).1).wrote) := by
  cases op with
  | get key =>
      rw [StoreEvent.wrote_of_write?_eq_none rfl]
      exact h.get key
  | set key value => exact h.perform_set key value
  | remove key =>
      rcases h.backing.remove key with ⟨cause, _, refused⟩ | ⟨b', _, removed, holds⟩
      · simp only [Store.perform, Store.remove, refused]
        exact h
      · simp only [Store.perform, Store.remove, removed]
        exact ⟨holds, h.gets, h.sets⟩
  | entries =>
      rw [StoreEvent.wrote_of_write?_eq_none rfl]
      exact h
  | preferredFacing =>
      rw [StoreEvent.wrote_of_write?_eq_none rfl]
      exact h.get preferredCameraKey
  | setPreferredFacing facing => exact h.perform_set preferredCameraKey (.number facing.id)
  | reopen =>
      rw [StoreEvent.wrote_of_write?_eq_none rfl]
      simp only [Store.perform, Store.reopen, h.backing.reopen_eq]
      exact h

/-- After operations on a store without entries, it holds what was put there last. -/
theorem Holds.performAll (h : s.Holds .empty) (ops : List StoreOp) :
    ∃ table, (s.performAll ops).2.Holds table ∧
      ∀ key value, table.get? key = some value ↔ LastSet key value (s.history ops) := by
  induction ops using List.reverseRecOn with
  | nil => exact ⟨.empty, h, fun key value => iff_of_false (by simp) not_lastSet_nil⟩
  | append_singleton ops op ih =>
      obtain ⟨table, holds, follows⟩ := ih
      let last := StoreEvent.mk op ((s.performAll ops).2.perform op).1
      refine ⟨table.write last.wrote, ?_, fun key value => ?_⟩
      · rw [performAll_append]
        exact holds.perform op
      · rw [history_append_singleton, lastSet_append_singleton, Table.get?_write, follows]
        rfl

/-- The store answers like the finite map that the history has made.  What is under a valid key is
what was put there last and not taken away, and removing gives the same as reading.  Listing does
not fail; the keys of the list are valid, they are in the order of their bytes, so that each occurs
once, and a value is listed under a key just if it is read there. -/
structure MapOf (history : List StoreEvent) (s : Store) : Prop where
  get : ∀ key, validateKey key = .ok () → ∃ found, (s.get key).1 = .ok found ∧
    ∀ value, found = some value ↔ LastSet key value history
  remove : ∀ key, (s.remove key).1 = (s.get key).1
  entries : ∃ rows, s.entries = .ok rows ∧
    rows.Pairwise (fun row later => keyBefore row.1 later.1) ∧
    (∀ row ∈ rows, validateKey row.1 = .ok ()) ∧
    ∀ key value, (key, value) ∈ rows ↔ (s.get key).1 = .ok (some value)

theorem Holds.mapOf (h : s.Holds table)
    (follows : ∀ key value, table.get? key = some value ↔ LastSet key value history) :
    MapOf history s where
  get key valid := by
    refine ⟨table.get? key, ?_, follows key⟩
    rw [h.get_eq, h.backing.get_eq, valid]
    rfl
  remove key := by
    rw [h.get_eq]
    rcases h.backing.remove key with ⟨cause, read, refused⟩ | ⟨b', read, removed, -⟩
    · rw [read, Store.remove, refused]
    · rw [read, Store.remove, removed]
  entries := by
    have valid := h.backing.valid
    refine ⟨table.rows, h.backing.entries_eq, table.ordered, valid, fun key value => ?_⟩
    rw [h.get_eq, h.backing.get_eq, ← Table.get?_eq_some_iff]
    cases checked : validateKey key with
    | ok _ => exact ⟨congrArg Except.ok, Except.ok.inj⟩
    | error cause =>
        refine iff_of_false (fun found => ?_) (fun read => by cases read)
        rw [valid _ (Table.get?_eq_some_iff.mp found)] at checked
        cases checked

/-- **Stores are finite maps.**  A volatile and a durable store that begin empty answer like the
finite map that their history makes, whatever has been asked of them before and whether it was done
or failed, and however often the durable one has been closed and opened again. -/
theorem finite_map (ops : List StoreOp) :
    MapOf (volatile.history ops) (volatile.performAll ops).2 ∧
      MapOf ((durable .empty).history ops) ((durable .empty).performAll ops).2 := by
  obtain ⟨held, holds, follows⟩ := holds_volatile.performAll ops
  obtain ⟨held', holds', follows'⟩ := holds_durable.performAll ops
  exact ⟨holds.mapOf follows, holds'.mapOf follows'⟩

end Store

end CaptureFlow
