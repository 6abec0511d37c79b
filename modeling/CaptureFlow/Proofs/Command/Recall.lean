import CaptureFlow.Command.Program
import CaptureFlow.Proofs.Command.Effect
import CaptureFlow.Proofs.Preference.StoredForm
/-! # What is remembered from one run to the next

Runs of the program share nothing but the files.  What a file has under a key (`rowAt`) is changed
by no run that spares the key or works on another file (`rowAt_execute`), so any number of such runs
may come between a run that sets the key and the run that gets it
(`preferences_agree_across_runs`).  Which file a path names is the same throughout. -/

namespace CaptureFlow

namespace Command

variable {path key : String} {found left : Table Bytes} {d : Durable}

/-- Whether a request leaves alone what is stored under `key`, whatever it finds there. -/
def Request.spares (key : String) : Request → Bool
  | .prefs (.set other _ _) => other != key
  | .prefs (.remove other) => other != key
  | .simulate _ ephemeral => ephemeral
  | _ => true

theorem PrefsAction.get?_run {action : PrefsAction}
    (spares : (Request.prefs action).spares key = true) :
    (action.run path d).2.table.get? key = d.table.get? key := by
  cases action with
  | get | list => rfl
  | set other raw kind =>
      rcases run_set_cases path other raw kind d with ⟨_, refused⟩ | ⟨_, _, _, _, _, done⟩
      · rw [refused]
      · rw [done]
        exact (Table.get?_insert ..).trans (if_neg (bne_iff_ne.mp spares))
  | remove other =>
      have beside : Durable.Beside key (d.table.get? key) (d.table.get? key) d d :=
        ⟨rfl, rfl, fun _ _ => rfl⟩
      exact (beside.remove (bne_iff_ne.mp spares)).2.here

theorem PrefsAction.run_remove {previous : Option Preference} (valid : validateKey key = .ok ())
    (decoded : Durable.decodeRow (d.table.get? key) = .ok previous) :
    run path d (.remove key) = (.ok (.removed key previous), ⟨d.table.erase key⟩) := by
  simp only [run, Durable.remove, valid, Durable.transaction, Transaction.remove, decoded]
  rfl

theorem Leaves.get?_eq {request : Request} {answer : Except Failure Answer}
    (h : Leaves path found request answer left) (spares : request.spares key = true) :
    left.get? key = found.get? key := by
  cases h with
  | ran action => exact PrefsAction.get?_run spares
  | replayed => cases spares

end Command

namespace FileSystem

open Command

variable {fs : FileSystem} {invocation : Invocation} {path key : String} {file : List String}
  {row : Option Bytes} {runs : List Invocation}

/-! ### Runs between -/

/-- What the database in a file has under a key. -/
def rowAt (fs : FileSystem) (file : List String) (key : String) :
    Except DatabaseFault (Option Bytes) :=
  (·.get? key) <$> fs.rowsAt file

theorem rowAt_eq_ok_iff :
    fs.rowAt file key = .ok row ↔ ∃ found, fs.rowsAt file = .ok found ∧ found.get? key = row := by
  unfold rowAt
  cases fs.rowsAt file with
  | error fault => exact ⟨fun h => (by cases h), fun ⟨_, h, _⟩ => (by cases h)⟩
  | ok found =>
      exact ⟨fun h => ⟨found, rfl, Except.ok.inj h⟩,
        fun ⟨_, h, same⟩ => congrArg Except.ok (Except.ok.inj h ▸ same)⟩

/-- The file system after invocations that are carried out one after the other. -/
def executeAll (fs : FileSystem) : List Invocation → FileSystem
  | [] => fs
  | invocation :: rest => (fs.execute invocation).2.executeAll rest

theorem databasePlace_execute (fs : FileSystem) (invocation : Invocation) :
    (fs.execute invocation).2.databasePlace path = .ok file ↔ fs.databasePlace path = .ok file := by
  have outcome := outcome_execute fs invocation
  generalize fs.execute invocation = done at outcome ⊢
  cases outcome with
  | aside | unopened => exact .rfl
  | wrote placed opened leaves written => exact written.databasePlace_iff

/-- An invocation leaves alone what `file` has under `key`: it spares the key, or names another
file. -/
def LeavesAlone (fs : FileSystem) (file : List String) (key : String) (invocation : Invocation) :
    Prop :=
  invocation.request.spares key = true ∨ fs.databasePlace invocation.database ≠ .ok file

theorem rowAt_execute (alone : fs.LeavesAlone file key invocation) :
    (fs.execute invocation).2.rowAt file key = fs.rowAt file key := by
  have outcome := outcome_execute fs invocation
  generalize fs.execute invocation = done at outcome ⊢
  cases outcome with
  | aside | unopened => rfl
  | @wrote other found left _ _ placed opened leaves written =>
      by_cases same : file = other
      · subst same
        have spares := alone.resolve_right fun elsewhere => elsewhere placed
        simp only [rowAt, written.rowsAt_eq, opened]
        exact congrArg Except.ok (leaves.get?_eq spares)
      · simp only [rowAt, written.rowsAt_other same]

theorem databasePlace_executeAll (fs : FileSystem) (runs : List Invocation) :
    (fs.executeAll runs).databasePlace path = .ok file ↔ fs.databasePlace path = .ok file := by
  induction runs generalizing fs with
  | nil => exact .rfl
  | cons run rest ih => exact (ih _).trans (databasePlace_execute fs run)

theorem leavesAlone_congr {fs' : FileSystem} {run : Invocation}
    (same : fs'.databasePlace run.database = .ok file ↔ fs.databasePlace run.database = .ok file) :
    fs'.LeavesAlone file key run ↔ fs.LeavesAlone file key run :=
  or_congr_right (not_congr same)

theorem rowAt_executeAll (alone : ∀ run ∈ runs, fs.LeavesAlone file key run) :
    (fs.executeAll runs).rowAt file key = fs.rowAt file key := by
  induction runs generalizing fs with
  | nil => rfl
  | cons run rest ih =>
      obtain ⟨first, others⟩ := List.forall_mem_cons.mp alone
      have others := fun run' mem =>
        (leavesAlone_congr (databasePlace_execute fs run)).mpr (others run' mem)
      exact (ih others).trans (rowAt_execute first)

/-! ### One run -/

/-- A run that gets a key answers with what its file has under it. -/
theorem answer_get (request : invocation.request = .prefs (.get key))
    (placed : fs.databasePlace invocation.database = .ok file)
    (stored : fs.rowAt file key = .ok row) :
    (fs.execute invocation).1 =
      Answer.found key <$> (do validateKey key; Durable.decodeRow row) := by
  obtain ⟨found, opened, rfl⟩ := rowAt_eq_ok_iff.mp stored
  exact (execute_prefs request placed opened).1

theorem answer_get_after {previous : Option Preference}
    (alone : ∀ run ∈ runs, fs.LeavesAlone file key run)
    (request : invocation.request = .prefs (.get key))
    (placed : fs.databasePlace invocation.database = .ok file)
    (stored : fs.rowAt file key = .ok row) (valid : validateKey key = .ok ())
    (decoded : Durable.decodeRow row = .ok previous) :
    ((fs.executeAll runs).execute invocation).1 = .ok (.found key previous) := by
  have here := (databasePlace_executeAll fs runs).mpr placed
  have answered := answer_get request here ((rowAt_executeAll alone).trans stored)
  rw [valid, decoded] at answered
  exact answered

/-- A run that succeeds in setting a key leaves the stored form of its value. -/
theorem rowAt_set {raw kind : String} {answer : Answer}
    (request : invocation.request = .prefs (.set key raw kind))
    (done : (fs.execute invocation).1 = .ok answer) :
    ∃ file value bytes, fs.databasePlace invocation.database = .ok file ∧
      Preference.read kind raw = .ok value ∧ validateKey key = .ok () ∧
      value.encode = .ok bytes ∧ answer = .stored key value ∧
      (fs.execute invocation).2.rowAt file key = .ok (some bytes) := by
  cases opened : fs.openDatabase invocation.database with
  | error fault =>
      rw [execute_prefs_unopened request opened] at done
      cases done
  | ok found =>
      obtain ⟨file, placed, opened⟩ := openDatabase_eq_ok_iff.mp opened
      obtain ⟨answered, left⟩ := execute_prefs request placed opened
      rw [answered] at done
      rcases PrefsAction.run_set_cases invocation.database key raw kind ⟨found⟩ with
        ⟨_, refused⟩ | ⟨value, bytes, valid, read, encoded, ran⟩
      · rw [refused] at done
        cases done
      · rw [ran] at done left
        refine ⟨file, value, bytes, placed, read, valid, encoded, (Except.ok.inj done).symm, ?_⟩
        exact rowAt_eq_ok_iff.mpr ⟨_, left, (Table.get?_insert ..).trans (if_pos rfl)⟩

/-- A run that removes a key answers with the value that was there, and leaves none. -/
theorem rowAt_remove {previous : Option Preference}
    (request : invocation.request = .prefs (.remove key))
    (placed : fs.databasePlace invocation.database = .ok file)
    (stored : fs.rowAt file key = .ok row) (valid : validateKey key = .ok ())
    (decoded : Durable.decodeRow row = .ok previous) :
    (fs.execute invocation).1 = .ok (.removed key previous) ∧
      (fs.execute invocation).2.rowAt file key = .ok none := by
  obtain ⟨found, opened, rfl⟩ := rowAt_eq_ok_iff.mp stored
  obtain ⟨answered, left⟩ := execute_prefs request placed opened
  rw [PrefsAction.run_remove valid decoded] at answered left
  refine ⟨answered, rowAt_eq_ok_iff.mpr ⟨_, left, ?_⟩⟩
  exact (Table.get?_erase ..).trans (if_pos rfl)

/-! ### What is printed -/

/-- Getting and setting a value tell it alike, in either form of output. -/
theorem printed_found (key : String) (value : Preference) (json : Bool) :
    (Answer.found key (some value)).printed json = (Answer.stored key value).printed json := by
  cases json <;> rfl

/-- Runs that leave a key alone do not change what getting it prints. -/
theorem exit_get (request : invocation.request = .prefs (.get key))
    (alone : ∀ run ∈ runs, run.request.spares key = true) :
    invocation.exit ((fs.executeAll runs).execute invocation).1 =
      invocation.exit (fs.execute invocation).1 := by
  have keeps {file : List String} : (fs.executeAll runs).rowAt file key = fs.rowAt file key :=
    rowAt_executeAll fun run mem => .inl (alone run mem)
  cases before : fs.openDatabase invocation.database with
  | ok rows =>
      obtain ⟨file, placed, opened⟩ := openDatabase_eq_ok_iff.mp before
      have stored : fs.rowAt file key = .ok (rows.get? key) :=
        rowAt_eq_ok_iff.mpr ⟨rows, opened, rfl⟩
      rw [answer_get request placed stored,
        answer_get request ((databasePlace_executeAll fs runs).mpr placed) (keeps.trans stored)]
  | error fault =>
      -- A path that names no file may fail for another reason later, but nothing is printed then.
      cases after : (fs.executeAll runs).openDatabase invocation.database with
      | error fault' =>
          rw [execute_prefs_unopened request before, execute_prefs_unopened request after]
          rfl
      | ok rows =>
          obtain ⟨file, placed, opened⟩ := openDatabase_eq_ok_iff.mp after
          have stored : fs.rowAt file key = .ok (rows.get? key) :=
            keeps.symm.trans (rowAt_eq_ok_iff.mpr ⟨rows, opened, rfl⟩)
          obtain ⟨found, opened, -⟩ := rowAt_eq_ok_iff.mp stored
          have placed := (databasePlace_executeAll fs runs).mp placed
          rw [openDatabase_eq placed, opened] at before
          cases before

/-- **Preference commands agree across runs.**  In every file system, if a run sets a key, then its
value has been read and stored, and after any runs that leave the key alone or work on other files:
a run that gets the key from the same file prints what the first run printed; a run that removes it
there answers with that value; and after this and more such runs, getting it finds nothing.  Runs
that leave a key alone never change what getting it prints, from whichever file. -/
theorem preferences_agree_across_runs :
    (∀ (fs : FileSystem) (set : Invocation) (key raw kind : String) (answer : Answer),
      set.request = .prefs (.set key raw kind) → (fs.execute set).1 = .ok answer →
      ∃ file value, fs.databasePlace set.database = .ok file ∧
        Preference.read kind raw = .ok value ∧ answer = .stored key value ∧
        ∀ runs, (∀ run ∈ runs, fs.LeavesAlone file key run) →
          let later := (fs.execute set).2.executeAll runs
          (∀ get, get.request = .prefs (.get key) → fs.databasePlace get.database = .ok file →
            (later.execute get).1 = .ok (.found key (some value)) ∧
            (get.json = set.json →
              get.printed (later.execute get).1 = set.printed (fs.execute set).1)) ∧
          ∀ remove, remove.request = .prefs (.remove key) →
            fs.databasePlace remove.database = .ok file →
            (later.execute remove).1 = .ok (.removed key (some value)) ∧
            ∀ runs', (∀ run ∈ runs', fs.LeavesAlone file key run) →
              ∀ get, get.request = .prefs (.get key) → fs.databasePlace get.database = .ok file →
                (((later.execute remove).2.executeAll runs').execute get).1 =
                  .ok (.found key none)) ∧
    ∀ (fs : FileSystem) (runs : List Invocation) (get : Invocation) (key : String),
      get.request = .prefs (.get key) → (∀ run ∈ runs, run.request.spares key = true) →
      get.exit ((fs.executeAll runs).execute get).1 = get.exit (fs.execute get).1 := by
  constructor
  · intro fs set key raw kind answer request done
    obtain ⟨file, value, bytes, placed, read, valid, encoded, rfl, stored⟩ :=
      rowAt_set request done
    have decoded : Durable.decodeRow (some bytes) = .ok (some value) := by
      rw [Durable.decodeRow, Preference.decode_encode encoded]
      rfl
    refine ⟨file, value, placed, read, rfl, ?_⟩
    intro runs alone later
    -- The same paths name the file before and after each of the runs.
    have set_same {path : String} :
        (fs.execute set).2.databasePlace path = .ok file ↔ fs.databasePlace path = .ok file :=
      databasePlace_execute fs set
    have alone := fun run mem => (leavesAlone_congr set_same).mpr (alone run mem)
    constructor
    · intro get request placed
      have answered := answer_get_after alone request (set_same.mpr placed) stored valid decoded
      refine ⟨answered, fun json => ?_⟩
      rw [answered, done]
      show (Answer.found key (some value)).printed get.json = _
      rw [json]
      exact printed_found key value set.json
    · intro remove request placed
      have later_same {path : String} :
          later.databasePlace path = .ok file ↔ fs.databasePlace path = .ok file :=
        (databasePlace_executeAll _ runs).trans set_same
      obtain ⟨answered, gone⟩ := rowAt_remove request (later_same.mpr placed)
        ((rowAt_executeAll alone).trans stored) valid decoded
      refine ⟨answered, ?_⟩
      intro runs' alone' get request placed
      have remove_same {path : String} :
          (later.execute remove).2.databasePlace path = .ok file ↔
            fs.databasePlace path = .ok file :=
        (databasePlace_execute later remove).trans later_same
      have alone' := fun run mem => (leavesAlone_congr remove_same).mpr (alone' run mem)
      exact answer_get_after alone' request (remove_same.mpr placed) gone valid rfl
  · intro fs runs get key request alone
    exact exit_get request alone

/-- The smallest number is set in a new database, and got by another path after the same key has
been set in another file; then it is removed. -/
theorem preferences_agree_across_runs_smallest :
    let set : Invocation :=
      { database := "a.redb", request := .prefs (.set "volume" "-9223372036854775808" "int") }
    let elsewhere : Invocation :=
      { database := "b.redb", request := .prefs (.set "volume" "1" "int") }
    let get : Invocation := { database := "./a.redb", request := .prefs (.get "volume") }
    let remove : Invocation := { database := "a.redb", request := .prefs (.remove "volume") }
    let later := (execute {} set).2.executeAll [elsewhere]
    get.printed (later.execute get).1 = set.printed (execute {} set).1 ∧
      (later.execute remove).1 = .ok (.removed "volume" (some (.number Int64.minValue))) ∧
      ((later.execute remove).2.execute get).1 = .ok (.found "volume" none) ∧
      remove.request.spares "theme" = true ∧
      ∀ theme : Invocation, theme.request = .prefs (.get "theme") →
        theme.exit ((later.execute remove).2.execute theme).1 =
          theme.exit (later.execute theme).1 := by
  intro set elsewhere get remove later
  have done : (execute {} set).1 = .ok (.stored "volume" (.number Int64.minValue)) := by
    decide +kernel
  obtain ⟨file, value, placed, -, same, recalled⟩ :=
    preferences_agree_across_runs.1 {} set "volume" _ _ _ rfl done
  obtain ⟨-, rfl⟩ := Answer.stored.inj same
  have here : databasePlace {} set.database = .ok ["a.redb"] := by decide +kernel
  obtain rfl := Except.ok.inj (placed.symm.trans here)
  have other : databasePlace {} elsewhere.database ≠ .ok ["a.redb"] := by decide +kernel
  have here' : databasePlace {} get.database = .ok ["a.redb"] := by decide +kernel
  obtain ⟨found, removed⟩ := recalled [elsewhere] (List.forall_mem_singleton.mpr (.inr other))
  obtain ⟨removed, gone⟩ := removed remove rfl here
  refine ⟨(found get rfl here').2 rfl, removed, gone [] (by simp) get rfl here', rfl, ?_⟩
  intro theme request
  exact preferences_agree_across_runs.2 later [remove] theme "theme" request
    (List.forall_mem_singleton.mpr rfl)

end FileSystem

end CaptureFlow
