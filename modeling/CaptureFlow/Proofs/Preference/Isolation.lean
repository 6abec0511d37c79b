import Mathlib.Data.List.Sort
import CaptureFlow.Proofs.Preference.FiniteMap
/-! # Faults of a durable store stay where they are

A table may hold anything: rows that are no values, and keys that no operation takes.  An operation
that fails leaves every row as it was, also when a row was already gone from the transaction by then
(`Store.perform_error`).

A row that is no value is met only by operations that name its key, and by listing.  Two tables that
differ in this row alone give the same answers to all others, and go on differing in this row alone
(`Durable.Beside`).  One of the two may have no such row, or a good one; so the row might as well
not be there, and once it has been replaced, it might as well have been good from the beginning
(`Store.faults_stay_local`). -/

namespace CaptureFlow

/-! ### Lists and tables that differ in one place -/

theorem insertIdx_length_append {α : Type} (front rest : List α) (a : α) :
    (front ++ rest).insertIdx front.length a = front ++ a :: rest := by
  induction front with
  | nil => rfl
  | cons first front ih =>
      rw [List.cons_append, List.length_cons, List.insertIdx_succ_cons, ih, List.cons_append]

namespace Table

variable {β : Type} {t t' : Table β} {key : String}

theorem ext_get? (same : ∀ k, t.get? k = t'.get? k) : t = t' := by
  have : Std.Irrefl fun a b : String × β => keyBefore a.1 b.1 := ⟨fun a => not_keyBefore_self a.1⟩
  have : Std.Asymm fun a b : String × β => keyBefore a.1 b.1 :=
    ⟨fun a b before after => not_keyBefore_self a.1 (keyBefore_trans before after)⟩
  refine rows_inj (t.ordered.eq_of_mem_iff t'.ordered fun row => ?_)
  rw [← get?_eq_some_iff, ← get?_eq_some_iff, same]

end Table

namespace Durable

/-! ### What an operation does to the rows -/

/-- What is asked of a store that refuses nothing: the answer, and the rows after it. -/
def perform (d : Durable) : StoreOp → Except Failure StoreReply × Durable
  | .get key => (.value <$> d.get key, d)
  | .set key value =>
    match d.set key value with
    | .ok after => (.ok .done, after)
    | .error e => (.error e, d)
  | .remove key => (d.remove key).map (.value <$> ·) id
  | .entries => (.rows <$> d.entries, d)
  | .preferredFacing => (.facing <$> (Store.facingOf <$> d.get preferredCameraKey), d)
  | .setPreferredFacing facing =>
    match d.set preferredCameraKey (.number facing.id) with
    | .ok after => (.ok .done, after)
    | .error e => (.error e, d)
  | .reopen =>
    match d.reopen with
    | .ok after => (.ok .done, after)
    | .error e => (.error e, d)

/-- A row that cannot be read is gone from the transaction, which is then dropped. -/
theorem remove_error (d : Durable) {key : String} {cause : Failure}
    (refused : (d.remove key).1 = .error cause) : (d.remove key).2 = d := by
  cases valid : validateKey key with
  | error e => simp only [Durable.remove, valid]
  | ok _ =>
      simp only [Durable.remove, valid, transaction, Transaction.remove] at refused ⊢
      cases row : decodeRow (d.table.get? key) with
      | error e => rfl
      | ok found => rw [row] at refused; cases refused

end Durable

namespace Store

variable {s t : Store} {d : Durable} {op : StoreOp} {cause : Failure}

/-- The store keeps its entries in `d` and refuses no call. -/
inductive Keeps (d : Durable) : Store → Prop
  | mk (gets sets : Nat) : Keeps d ⟨.durable d, ⟨[], gets⟩, ⟨[], sets⟩⟩

theorem keeps_durable (table : Table Bytes) : (durable table).Keeps ⟨table⟩ := .mk 0 0

theorem Keeps.durableTable?_eq (h : s.Keeps d) : s.durableTable? = some d.table := by
  cases h
  rfl

theorem Keeps.get (h : s.Keeps d) (key : String) :
    (s.get key).1 = d.get key ∧ (s.get key).2.Keeps d := by
  obtain ⟨gets, sets⟩ := h
  exact ⟨rfl, .mk (gets + 1) sets⟩

theorem Keeps.set (h : s.Keeps d) (key : String) (value : Preference) :
    (∃ cause, d.set key value = .error cause ∧ (s.set key value).1 = .error cause ∧
        (s.set key value).2.Keeps d) ∨
      ∃ after, d.set key value = .ok after ∧ (s.set key value).1 = .ok () ∧
        (s.set key value).2.Keeps after := by
  obtain ⟨gets, sets⟩ := h
  simp only [Store.set, Refusals.refusesNext_count_none, Bool.false_eq_true, if_false, Backing.set]
  cases d.set key value with
  | error cause => exact .inl ⟨cause, rfl, rfl, .mk gets (sets + 1)⟩
  | ok after => exact .inr ⟨after, rfl, rfl, .mk gets (sets + 1)⟩

theorem Keeps.perform_set (h : s.Keeps d) (key : String) (value : Preference) :
    (s.perform (.set key value)).1 = (d.perform (.set key value)).1 ∧
      (s.perform (.set key value)).2.Keeps (d.perform (.set key value)).2 := by
  rcases h.set key value with ⟨cause, refused, answer, keeps⟩ | ⟨after, accepted, answer, keeps⟩
  · simp only [Store.perform, Durable.perform, refused, answer]
    exact ⟨rfl, keeps⟩
  · simp only [Store.perform, Durable.perform, accepted, answer]
    exact ⟨rfl, keeps⟩

theorem Keeps.perform (h : s.Keeps d) (op : StoreOp) :
    (s.perform op).1 = (d.perform op).1 ∧ (s.perform op).2.Keeps (d.perform op).2 := by
  cases op with
  | get key =>
      obtain ⟨answer, keeps⟩ := h.get key
      exact ⟨congrArg (StoreReply.value <$> ·) answer, keeps⟩
  | set key value => exact h.perform_set key value
  | remove key =>
      obtain ⟨gets, sets⟩ := h
      exact ⟨rfl, .mk gets sets⟩
  | entries =>
      obtain ⟨gets, sets⟩ := h
      exact ⟨rfl, .mk gets sets⟩
  | preferredFacing =>
      obtain ⟨answer, keeps⟩ := h.get preferredCameraKey
      exact ⟨congrArg (fun found => StoreReply.facing <$> (facingOf <$> found)) answer, keeps⟩
  | setPreferredFacing facing => exact h.perform_set preferredCameraKey (.number facing.id)
  | reopen =>
      obtain ⟨gets, sets⟩ := h
      simp only [Store.perform, Durable.perform, Store.reopen, Backing.reopen]
      cases d.reopen with
      | error cause => exact ⟨rfl, .mk gets sets⟩
      | ok after => exact ⟨rfl, .mk gets sets⟩

theorem Keeps.performAll (h : s.Keeps d) (h' : t.Keeps d) (ops : List StoreOp) :
    (s.performAll ops).1 = (t.performAll ops).1 ∧
      ∃ after, (s.performAll ops).2.Keeps after ∧ (t.performAll ops).2.Keeps after := by
  induction ops generalizing s t d with
  | nil => exact ⟨rfl, d, h, h'⟩
  | cons op ops ih =>
      obtain ⟨answer, keeps⟩ := h.perform op
      obtain ⟨answer', keeps'⟩ := h'.perform op
      obtain ⟨answers, after⟩ := ih keeps keeps'
      exact ⟨List.cons_eq_cons.mpr ⟨answer.trans answer'.symm, answers⟩, after⟩

/-! ### Operations that fail -/

theorem remove_error {b : Backing} {key : String} (refused : (b.remove key).1 = .error cause) :
    (b.remove key).2 = b := by
  cases b with
  | volatile b =>
      cases valid : validateKey key with
      | error e => simp only [Backing.remove, Volatile.remove, valid]; rfl
      | ok _ => simp only [Backing.remove, Volatile.remove, valid] at refused; cases refused
  | durable b => exact congrArg Backing.durable (b.remove_error refused)

theorem set_error {key : String} {value : Preference}
    (refused : (s.set key value).1 = .error cause) :
    (s.set key value).2.backing = s.backing := by
  unfold Store.set at refused ⊢
  split
  next => rfl
  next allowed =>
    rw [if_neg allowed] at refused
    split
    next accepted => rw [accepted] at refused; cases refused
    next => rfl

theorem perform_set_error (key : String) (value : Preference)
    (refused : (s.perform (.set key value)).1 = .error cause) :
    (s.perform (.set key value)).2.backing = s.backing := by
  cases answer : (s.set key value).1 with
  | error e => exact set_error answer
  | ok _ => simp only [perform, answer] at refused; cases refused

theorem get_backing (s : Store) (key : String) : (s.get key).2.backing = s.backing := by
  unfold Store.get
  split <;> rfl

/-- An operation that fails changes no row, whatever the store holds and why ever it fails. -/
theorem perform_error (refused : (s.perform op).1 = .error cause) :
    (s.perform op).2.backing = s.backing := by
  cases op with
  | get key => exact s.get_backing key
  | set key value => exact perform_set_error key value refused
  | remove key =>
      cases answer : (s.backing.remove key).1 with
      | error e => exact remove_error answer
      | ok _ => simp only [perform, Store.remove, answer] at refused; cases refused
  | entries => rfl
  | preferredFacing => exact s.get_backing preferredCameraKey
  | setPreferredFacing facing =>
      exact perform_set_error preferredCameraKey (.number facing.id) refused
  | reopen =>
      simp only [perform, Store.reopen] at refused ⊢
      split
      next reopened => rw [reopened] at refused; cases refused
      next => rfl

end Store

/-! ### Rows of other keys -/

/-- The operation reads and writes the row of one key, and this is not `key`. -/
inductive StoreOp.Elsewhere (key : String) : StoreOp → Prop
  | get {k : String} (other : k ≠ key) : Elsewhere key (.get k)
  | set {k : String} (value : Preference) (other : k ≠ key) : Elsewhere key (.set k value)
  | remove {k : String} (other : k ≠ key) : Elsewhere key (.remove k)
  | preferredFacing (other : preferredCameraKey ≠ key) : Elsewhere key .preferredFacing
  | setPreferredFacing (facing : Facing) (other : preferredCameraKey ≠ key) :
      Elsewhere key (.setPreferredFacing facing)

namespace Durable

/-- The two stores hold `row` and `row'` under `key`, and the same under all other keys. -/
structure Beside (key : String) (row row' : Option Bytes) (d d' : Durable) : Prop where
  here : d.table.get? key = row
  there : d'.table.get? key = row'
  others : ∀ k, k ≠ key → d'.table.get? k = d.table.get? k

variable {key : String} {row row' : Option Bytes} {d d' : Durable}

theorem Beside.get_eq (h : Beside key row row' d d') {k : String} (other : k ≠ key) :
    d.get k = d'.get k := by
  simp only [Durable.get, h.others k other]

theorem Beside.set (h : Beside key row row' d d') {k : String} (other : k ≠ key)
    (value : Preference) :
    (∃ cause, d.set k value = .error cause ∧ d'.set k value = .error cause) ∨
      ∃ after after', d.set k value = .ok after ∧ d'.set k value = .ok after' ∧
        Beside key row row' after after' := by
  simp only [Durable.set]
  cases validateKey k with
  | error cause => exact .inl ⟨cause, rfl, rfl⟩
  | ok _ =>
      cases value.encode with
      | error cause => exact .inl ⟨cause, rfl, rfl⟩
      | ok bytes =>
          refine .inr ⟨_, _, rfl, rfl, ?_, ?_, fun k' other' => ?_⟩
          · exact (Table.get?_insert ..).trans ((if_neg other).trans h.here)
          · exact (Table.get?_insert ..).trans ((if_neg other).trans h.there)
          · simp only [transaction, Transaction.insert, Transaction.commit, Table.get?_insert,
              h.others k' other']

theorem Beside.remove (h : Beside key row row' d d') {k : String} (other : k ≠ key) :
    (d.remove k).1 = (d'.remove k).1 ∧ Beside key row row' (d.remove k).2 (d'.remove k).2 := by
  simp only [Durable.remove, transaction, Transaction.remove, h.others k other]
  cases validateKey k with
  | error cause => exact ⟨rfl, h⟩
  | ok _ =>
      cases decodeRow (d.table.get? k) with
      | error cause => exact ⟨rfl, h⟩
      | ok found =>
          refine ⟨rfl, ?_, ?_, fun k' other' => ?_⟩
          · exact (Table.get?_erase ..).trans ((if_neg other).trans h.here)
          · exact (Table.get?_erase ..).trans ((if_neg other).trans h.there)
          · simp only [Transaction.commit, Table.get?_erase, h.others k' other']

theorem Beside.perform_set (h : Beside key row row' d d') {k : String} (other : k ≠ key)
    (value : Preference) :
    (d.perform (.set k value)).1 = (d'.perform (.set k value)).1 ∧
      Beside key row row' (d.perform (.set k value)).2 (d'.perform (.set k value)).2 := by
  rcases h.set other value with ⟨cause, left, right⟩ | ⟨after, after', left, right, beside⟩
  · simp only [Durable.perform, left, right]
    exact ⟨trivial, h⟩
  · simp only [Durable.perform, left, right]
    exact ⟨trivial, beside⟩

/-- An operation elsewhere gives the same answer, and leaves the stores beside each other. -/
theorem Beside.perform (h : Beside key row row' d d') {op : StoreOp}
    (elsewhere : op.Elsewhere key) :
    (d.perform op).1 = (d'.perform op).1 ∧
      Beside key row row' (d.perform op).2 (d'.perform op).2 := by
  cases elsewhere with
  | get other => exact ⟨congrArg (StoreReply.value <$> ·) (h.get_eq other), h⟩
  | set value other => exact h.perform_set other value
  | remove other =>
      obtain ⟨answers, beside⟩ := h.remove other
      exact ⟨congrArg (StoreReply.value <$> ·) answers, beside⟩
  | preferredFacing other =>
      exact ⟨congrArg (fun found => StoreReply.facing <$> (Store.facingOf <$> found))
        (h.get_eq other), h⟩
  | setPreferredFacing facing other => exact h.perform_set other (.number facing.id)

/-- Beside a store without the row is what is left of the store without it. -/
theorem Beside.erase (h : Beside key row none d d') : d'.table = d.table.erase key := by
  refine Table.ext_get? fun k => ?_
  rw [Table.get?_erase]
  split
  next same => exact same ▸ h.there
  next other => exact h.others k (Ne.symm other)

theorem Beside.insert {bytes : Bytes} (h : Beside key row (some bytes) d d') :
    d.table.insert key bytes = d'.table := by
  refine Table.ext_get? fun k => ?_
  rw [Table.get?_insert]
  split
  next same => exact same ▸ h.there.symm
  next other => exact (h.others k (Ne.symm other)).symm

/-- Listing meets every row, so it fails if and only if one of them is no value. -/
theorem decodeRows_error_iff {rows : List (String × Bytes)} :
    (∃ cause, decodeRows rows = .error cause) ↔
      ∃ row ∈ rows, ∃ cause, Preference.decode row.2 = .error cause := by
  induction rows with
  | nil => exact iff_of_false (by rintro ⟨_, done⟩; cases done) (by simp)
  | cons row rows ih =>
      rw [List.exists_mem_cons_iff, ← ih, decodeRows]
      cases Preference.decode row.2 with
      | error cause => exact iff_of_true ⟨cause, rfl⟩ (.inl ⟨cause, rfl⟩)
      | ok value =>
          rw [or_iff_right (by rintro ⟨_, done⟩; cases done)]
          cases decodeRows rows with
          | error cause => exact iff_of_true ⟨cause, rfl⟩ ⟨cause, rfl⟩
          | ok others =>
              exact iff_of_false (by rintro ⟨_, done⟩; cases done) (by rintro ⟨_, done⟩; cases done)

theorem beside_erase (d : Durable) (key : String) :
    Beside key (d.table.get? key) none d ⟨d.table.erase key⟩ := by
  refine ⟨rfl, ?_, fun k other => ?_⟩
  · exact (Table.get?_erase ..).trans (if_pos rfl)
  · exact (Table.get?_erase ..).trans (if_neg (Ne.symm other))

theorem beside_insert (d : Durable) (key : String) (bytes : Bytes) :
    Beside key (d.table.get? key) (some bytes) d ⟨d.table.insert key bytes⟩ := by
  refine ⟨rfl, ?_, fun k other => ?_⟩
  · exact (Table.get?_insert ..).trans (if_pos rfl)
  · exact (Table.get?_insert ..).trans (if_neg (Ne.symm other))

end Durable

namespace Store

variable {s t : Store} {d d' : Durable} {key : String} {row row' : Option Bytes}

theorem Keeps.performAll_beside (h : s.Keeps d) (h' : t.Keeps d')
    (beside : Durable.Beside key row row' d d') {ops : List StoreOp}
    (elsewhere : ∀ op ∈ ops, op.Elsewhere key) :
    (s.performAll ops).1 = (t.performAll ops).1 ∧
      ∃ after after', (s.performAll ops).2.Keeps after ∧ (t.performAll ops).2.Keeps after' ∧
        Durable.Beside key row row' after after' := by
  induction ops generalizing s t d d' with
  | nil => exact ⟨rfl, d, d', h, h', beside⟩
  | cons op ops ih =>
      obtain ⟨first, rest⟩ := List.forall_mem_cons.mp elsewhere
      obtain ⟨answer, keeps⟩ := h.perform op
      obtain ⟨answer', keeps'⟩ := h'.perform op
      obtain ⟨same, beside⟩ := beside.perform first
      obtain ⟨answers, after⟩ := ih keeps keeps' beside rest
      exact ⟨List.cons_eq_cons.mpr ⟨answer.trans (same.trans answer'.symm), answers⟩, after⟩

/-! ### What a fault does not reach -/

/-- The row under `key` is no value, for some cause.  Reading and removing it fail with this cause,
and so does every listing.  Whatever is asked of other keys is answered, and done, as in the table
without the row, which stays as it is.  Once another value has been put in its place, all is as if
this value had been there from the beginning, but for the answer to the operation that put it
there. -/
structure FaultAt (table : Table Bytes) (key : String) (cause : Failure) : Prop where
  get : ((durable table).get key).1 = .error cause
  remove : ((durable table).remove key).1 = .error cause
  entries : ∃ first, (durable table).entries = .error first
  others : ∀ ops, (∀ op ∈ ops, op.Elsewhere key) →
    ((durable table).performAll ops).1 = ((durable (table.erase key)).performAll ops).1 ∧
    ∃ last, ((durable table).performAll ops).2.durableTable? = some last ∧
      last.get? key = table.get? key ∧
      ((durable (table.erase key)).performAll ops).2.durableTable? = some (last.erase key)
  replaced : ∀ value, ((durable table).set key value).1 = .ok () →
    ∃ stored, value.encode = .ok stored ∧ Preference.decode stored = .ok value ∧
      ∀ earlier later, (∀ op ∈ earlier, op.Elsewhere key) →
        let run := (durable table).performAll (earlier ++ .set key value :: later)
        let always := (durable (table.insert key stored)).performAll (earlier ++ later)
        run.1 = always.1.insertIdx earlier.length (.ok .done) ∧
          run.2.durableTable? = always.2.durableTable?

theorem performAll_elsewhere (table : Table Bytes) {ops : List StoreOp}
    (elsewhere : ∀ op ∈ ops, op.Elsewhere key) :
    ((durable table).performAll ops).1 = ((durable (table.erase key)).performAll ops).1 ∧
    ∃ last, ((durable table).performAll ops).2.durableTable? = some last ∧
      last.get? key = table.get? key ∧
      ((durable (table.erase key)).performAll ops).2.durableTable? = some (last.erase key) := by
  obtain ⟨answers, d, d', keeps, keeps', beside⟩ := (keeps_durable table).performAll_beside
    (keeps_durable (table.erase key)) (Durable.beside_erase ⟨table⟩ key) elsewhere
  refine ⟨answers, d.table, keeps.durableTable?_eq, beside.here, ?_⟩
  rw [keeps'.durableTable?_eq, beside.erase]

/-- What can be put under a key has a stored form. -/
theorem encode_of_set {table : Table Bytes} {value : Preference}
    (done : ((durable table).set key value).1 = .ok ()) :
    validateKey key = .ok () ∧ ∃ stored, value.encode = .ok stored := by
  rcases (keeps_durable table).set key value with ⟨_, _, refused, _⟩ | ⟨d, accepted, _, _⟩
  · rw [done] at refused
    cases refused
  · simp only [Durable.set] at accepted
    cases valid : validateKey key with
    | error cause => rw [valid] at accepted; cases accepted
    | ok _ =>
        rw [valid] at accepted
        cases encoded : value.encode with
        | error cause => rw [encoded] at accepted; cases accepted
        | ok stored => exact ⟨rfl, stored, rfl⟩

/-- A value that is put under a key makes a store like one that has had it there before. -/
theorem performAll_replaced (table : Table Bytes) {value : Preference} {stored : Bytes}
    (valid : validateKey key = .ok ()) (encoded : value.encode = .ok stored)
    {earlier : List StoreOp} (elsewhere : ∀ op ∈ earlier, op.Elsewhere key)
    (later : List StoreOp) :
    let run := (durable table).performAll (earlier ++ .set key value :: later)
    let always := (durable (table.insert key stored)).performAll (earlier ++ later)
    run.1 = always.1.insertIdx earlier.length (.ok .done) ∧
      run.2.durableTable? = always.2.durableTable? := by
  obtain ⟨answers, d, d', keeps, keeps', beside⟩ := (keeps_durable table).performAll_beside
    (keeps_durable (table.insert key stored)) (Durable.beside_insert ⟨table⟩ key stored) elsewhere
  have put : d.perform (.set key value) = (.ok .done, d') := by
    have after : d.set key value = .ok ⟨d.table.insert key stored⟩ := by
      simp only [Durable.set, valid, encoded]
      rfl
    rw [Durable.perform, after, beside.insert]
  obtain ⟨answer, keepsPut⟩ := keeps.perform (.set key value)
  rw [put] at answer keepsPut
  obtain ⟨same, last, keepsLast, keepsLast'⟩ := keepsPut.performAll keeps' later
  have place : earlier.length = ((durable (table.insert key stored)).performAll earlier).1.length :=
    (length_performAll earlier).symm
  simp only [performAll_append, performAll]
  constructor
  · rw [place, insertIdx_length_append, answers, answer, same]
  · rw [keepsLast.durableTable?_eq, keepsLast'.durableTable?_eq]

theorem faultAt {table : Table Bytes} {bytes : Bytes} {cause : Failure}
    (valid : validateKey key = .ok ()) (here : table.get? key = some bytes)
    (fault : Preference.decode bytes = .error cause) : FaultAt table key cause where
  get := by
    show Durable.get ⟨table⟩ key = _
    simp only [Durable.get, valid, here, Durable.decodeRow, fault]
    rfl
  remove := by
    show (Durable.remove ⟨table⟩ key).1 = _
    simp only [Durable.remove, valid, Durable.transaction, Transaction.remove, here,
      Durable.decodeRow, fault]
    rfl
  entries := Durable.decodeRows_error_iff.mpr
    ⟨(key, bytes), Table.get?_eq_some_iff.mp here, cause, fault⟩
  others ops elsewhere := performAll_elsewhere table elsewhere
  replaced value done := by
    obtain ⟨_, stored, encoded⟩ := encode_of_set done
    have read := Preference.decode_encode encoded
    refine ⟨stored, encoded, read, fun earlier later elsewhere => ?_⟩
    exact performAll_replaced table valid encoded elsewhere later

/-- **Failures change nothing and faults stay local.**  Over every table, whatever stands in it: an
operation that fails leaves the rows as they were; a row that is no value is met only through its
own key and by listing, and can be replaced; and listing fails if and only if some row is no
value. -/
theorem faults_stay_local (table : Table Bytes) :
    (∀ s : Store, s.durableTable? = some table → ∀ op cause, (s.perform op).1 = .error cause →
      (s.perform op).2.durableTable? = some table) ∧
    (∀ key bytes cause, validateKey key = .ok () → table.get? key = some bytes →
      Preference.decode bytes = .error cause → FaultAt table key cause) ∧
    ((∃ cause, (durable table).entries = .error cause) ↔
      ∃ row ∈ table.rows, ∃ cause, Preference.decode row.2 = .error cause) := by
  refine ⟨fun s holds op cause refused => ?_, fun key bytes cause => faultAt,
    Durable.decodeRows_error_iff⟩
  rw [← holds, durableTable?, durableTable?, perform_error refused]

/-- A row with a flag and a row with a single byte.  The second cannot be removed, the first can;
and a flag can be put in the place of the second, and read from there. -/
theorem faults_stay_local_flag :
    let table := (Table.empty.insert "a" [0x53, 0x47, 0x50, 0x56, 1, 0, 1]).insert "b" [0xff]
    ((durable table).perform (.remove "b")).2.durableTable? = some table ∧
    ((durable table).performAll [.remove "a", .get "a"]).1 =
      [.ok (.value (some (.flag true))), .ok (.value none)] ∧
    ((durable table).performAll [.get "a", .set "b" (.flag false), .get "b"]).1 =
      [.ok (.value (some (.flag true))), .ok .done, .ok (.value (some (.flag false)))] := by
  intro table
  obtain ⟨kept, isolated, -⟩ := faults_stay_local table
  have fault : FaultAt table "b" (.encoding .dataTooShort) :=
    isolated "b" [0xff] _ (by decide +kernel) (by decide +kernel) (by decide +kernel)
  have other : "a" ≠ "b" := by decide
  refine ⟨kept (durable table) rfl _ (.encoding .dataTooShort) (by decide +kernel), ?_, ?_⟩
  · have elsewhere : ∀ op ∈ [StoreOp.remove "a", .get "a"], op.Elsewhere "b" :=
      List.forall_mem_cons.mpr ⟨.remove other, List.forall_mem_singleton.mpr (.get other)⟩
    exact (fault.others _ elsewhere).1.trans (by decide +kernel)
  · obtain ⟨stored, encoded, -, always⟩ := fault.replaced (.flag false) (by decide +kernel)
    have form : (Preference.flag false).encode = .ok [0x53, 0x47, 0x50, 0x56, 1, 0, 0] := by
      decide +kernel
    obtain rfl := Except.ok.inj (encoded.symm.trans form)
    have elsewhere : ∀ op ∈ [StoreOp.get "a"], op.Elsewhere "b" :=
      List.forall_mem_singleton.mpr (.get other)
    exact (always [.get "a"] [.get "b"] elsewhere).1.trans (by decide +kernel)

end Store

end CaptureFlow
