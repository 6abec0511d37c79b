import CaptureFlow.Proofs.FileSystem.Writing
import CaptureFlow.Proofs.Preference.Isolation
/-! # What commands do to the file system

A command that opens its database leaves rows there, which come of what it did with those that it
found (`Leaves`); nothing else is written (`Outcome`).  An operation on a store fails before its
transaction begins, or the transaction is dropped, so the rows are those that it found
(`PrefsAction.run_error`).  A replay fails only by reading the preferred camera before its first
step.  So no command that fails changes what any database holds (`failed_keeps`). -/

namespace CaptureFlow

/-- A replay that fails has only read its store. -/
theorem Script.backing_of_replay_error {script : Script} {store : Store} {cause : Failure}
    (failed : (script.replay store).1 = .error cause) :
    (script.replay store).2.backing = store.backing := by
  have read := store.get_backing preferredCameraKey
  unfold replay Session.ofDevice Store.preferredFacing at failed ⊢
  cases got : store.get preferredCameraKey with
  | mk value opened =>
      rw [got] at read
      cases value with
      | error e => exact read
      | ok value =>
          simp only [got] at failed
          cases failed

namespace Command

variable {invocation : Invocation} {around : Surroundings} {path key raw kind : String}
  {found left : Table Bytes} {d : Durable} {value : Preference} {bytes : Bytes} {cause : Failure}

/-- A value with a stored form is put under every valid key. -/
theorem PrefsAction.run_set (valid : validateKey key = .ok ())
    (read : Preference.read kind raw = .ok value) (encoded : value.encode = .ok bytes) :
    run path d (.set key raw kind) = (.ok (.stored key value), ⟨d.table.insert key bytes⟩) := by
  have accepted : d.set key value = .ok ⟨d.table.insert key bytes⟩ := by
    rw [Durable.set, valid, encoded]
    rfl
  simp only [run, read, accepted]

/-- Setting a key fails before anything is written, or puts a value there as `run_set` says. -/
theorem PrefsAction.run_set_cases (path key raw kind : String) (d : Durable) :
    (∃ cause, run path d (.set key raw kind) = (.error cause, d)) ∨
      ∃ value bytes, validateKey key = .ok () ∧ Preference.read kind raw = .ok value ∧
        value.encode = .ok bytes ∧
        run path d (.set key raw kind) =
          (.ok (.stored key value), ⟨d.table.insert key bytes⟩) := by
  cases read : Preference.read kind raw with
  | error cause => exact .inl ⟨cause, by simp only [run, read]⟩
  | ok value =>
      cases set : d.set key value with
      | error cause => exact .inl ⟨cause, by simp only [run, read, set]⟩
      | ok after =>
          obtain ⟨_, valid, set⟩ := bind_eq_ok_iff.mp set
          obtain ⟨bytes, encoded, -⟩ := bind_eq_ok_iff.mp set
          exact .inr ⟨value, bytes, valid, rfl, encoded, run_set valid read encoded⟩

/-- An operation that fails leaves the store as it was. -/
theorem PrefsAction.run_error {action : PrefsAction}
    (failed : (action.run path d).1 = .error cause) : (action.run path d).2 = d := by
  cases action with
  | get | list => rfl
  | set key raw kind =>
      rcases run_set_cases path key raw kind d with ⟨_, refused⟩ | ⟨_, _, _, _, _, done⟩
      · rw [refused]
      · rw [done] at failed
        cases failed
  | remove key =>
      cases removed : (d.remove key).1 with
      | error e => exact d.remove_error removed
      | ok previous => simp only [run, Prod.map, removed] at failed; cases failed

/-- What a request for which the rows `found` were opened answers, and the rows that it leaves. -/
inductive Leaves (path : String) (found : Table Bytes) :
    Request → Except Failure Answer → Table Bytes → Prop
  | ran (action : PrefsAction) : Leaves path found (.prefs action)
      (action.run path ⟨found⟩).1 (action.run path ⟨found⟩).2.table
  | replayed {file : String} {script : Script} {left : Table Bytes}
      (kept : (script.replay (.durable found)).2.durableTable? = some left) :
      Leaves path found (.simulate file false)
        (.report <$> (script.replay (.durable found)).1) left

/-- A request that fails leaves what it found. -/
theorem Leaves.eq_of_error {request : Request}
    (h : Leaves path found request (.error cause) left) : left = found := by
  generalize answered : Except.error cause = answer at h
  cases h with
  | ran action => exact congrArg Durable.table (PrefsAction.run_error answered.symm)
  | @replayed file script left kept =>
      cases result : (script.replay (.durable found)).1 with
      | ok report => rw [result] at answered; cases answered
      | error e =>
          rw [Store.durableTable?, Script.backing_of_replay_error result] at kept
          exact (Option.some.inj kept).symm

theorem leaves_of_execute
    (wrote : (invocation.execute around).database = some left) :
    ∃ found, around.database = .ok found ∧
      Leaves invocation.database found invocation.request (invocation.execute around).answer
        left := by
  unfold Invocation.execute at wrote ⊢
  split at wrote
  case h_4 action request =>
    rw [request]
    simp only [prefs] at wrote ⊢
    cases opened : around.database with
    | error fault => rw [opened] at wrote; cases wrote
    | ok found =>
        rw [opened] at wrote
        obtain rfl := Option.some.inj wrote
        exact ⟨found, rfl, .ran action⟩
  case h_5 file ephemeral request =>
    rw [request]
    simp only [simulate] at wrote ⊢
    cases loaded : Script.load file around.script with
    | error e => rw [loaded] at wrote; cases wrote
    | ok script =>
        simp only [loaded] at wrote ⊢
        cases ephemeral with
        | true => cases wrote
        | false =>
            cases opened : around.database with
            | error fault => rw [opened] at wrote; cases wrote
            | ok found =>
                rw [opened] at wrote
                exact ⟨found, rfl, .replayed wrote⟩
  all_goals cases wrote

end Command

namespace FileSystem

open Command

variable {fs : FileSystem} {invocation : Invocation} {file : List String}
  {action : PrefsAction}

/-- What `invocation` answers in `fs`, and the file system that it leaves. -/
inductive Outcome (fs : FileSystem) (invocation : Invocation) :
    Except Failure Answer × FileSystem → Prop
  | aside (answer : Except Failure Answer)
      (other : ∀ action, invocation.request ≠ .prefs action) : Outcome fs invocation (answer, fs)
  | unopened {fault : DatabaseFault} (closed : fs.openDatabase invocation.database = .error fault) :
      Outcome fs invocation (.error (.transfer (.database fault)), fs)
  | wrote {file : List String} {found left : Table Bytes} {answer : Except Failure Answer}
      {fs' : FileSystem} (placed : fs.databasePlace invocation.database = .ok file)
      (opened : fs.rowsAt file = .ok found)
      (leaves : Leaves invocation.database found invocation.request answer left)
      (written : Written fs fs' file (.database left)) : Outcome fs invocation (answer, fs')

theorem outcome_execute (fs : FileSystem) (invocation : Invocation) :
    Outcome fs invocation (fs.execute invocation) := by
  cases wrote : (invocation.execute (fs.surroundings invocation)).database with
  | some left =>
      obtain ⟨found, opened, leaves⟩ := leaves_of_execute wrote
      obtain ⟨file, placed, opened⟩ := openDatabase_eq_ok_iff.mp opened
      simp only [execute, wrote]
      exact .wrote placed opened leaves (written_saveDatabase placed opened left)
  | none =>
      simp only [execute, wrote]
      by_cases store : ∃ action, invocation.request = .prefs action
      case neg => exact .aside _ fun action request => store ⟨action, request⟩
      case pos =>
        obtain ⟨action, request⟩ := store
        simp only [Invocation.execute, request, prefs, surroundings] at wrote ⊢
        cases opened : fs.openDatabase invocation.database with
        | error fault => exact .unopened opened
        | ok found =>
            rw [opened] at wrote
            cases wrote

/-- What a preference command answers and leaves in a file whose rows can be opened. -/
theorem execute_prefs {found : Table Bytes} (request : invocation.request = .prefs action)
    (placed : fs.databasePlace invocation.database = .ok file)
    (opened : fs.rowsAt file = .ok found) :
    (fs.execute invocation).1 = (action.run invocation.database ⟨found⟩).1 ∧
      (fs.execute invocation).2.rowsAt file =
        .ok (action.run invocation.database ⟨found⟩).2.table := by
  have outcome := outcome_execute fs invocation
  generalize fs.execute invocation = done at outcome ⊢
  cases outcome with
  | aside _ other => exact absurd request (other action)
  | unopened closed =>
      rw [openDatabase_eq placed, opened] at closed
      cases closed
  | wrote placed' opened' leaves written =>
      obtain rfl := Except.ok.inj (placed'.symm.trans placed)
      obtain rfl := Except.ok.inj (opened'.symm.trans opened)
      rw [request] at leaves
      cases leaves with
      | ran => exact ⟨rfl, written.rowsAt_eq⟩

theorem execute_prefs_unopened {fault : DatabaseFault}
    (request : invocation.request = .prefs action)
    (closed : fs.openDatabase invocation.database = .error fault) :
    (fs.execute invocation).1 = .error (.transfer (.database fault)) := by
  have outcome := outcome_execute fs invocation
  generalize fs.execute invocation = done at outcome ⊢
  cases outcome with
  | aside _ other => exact absurd request (other action)
  | unopened closed' =>
      obtain rfl := Except.error.inj (closed'.symm.trans closed)
      rfl
  | wrote placed opened =>
      rw [openDatabase_eq placed, opened] at closed
      cases closed

/-- Rows that are written as they were found leave every database as it was. -/
theorem openDatabase_iff_of_rewritten {fs' : FileSystem} {found : Table Bytes}
    (opened : fs.rowsAt file = .ok found) (written : Written fs fs' file (.database found))
    (path : String) (rows : Table Bytes) :
    fs'.openDatabase path = .ok rows ↔ fs.openDatabase path = .ok rows := by
  have same (others : List String) : fs'.rowsAt others = fs.rowsAt others := by
    by_cases here : others = file
    · rw [here, written.rowsAt_eq, opened]
    · exact written.rowsAt_other here
  simp only [openDatabase_eq_ok_iff, written.databasePlace_iff, same]

/-- **Failing changes nothing.**  In every file system, an invocation that fails leaves the database
that it names as it was: the same rows, a missing or empty file being a database without rows, or a
file that is none.  Every other path opens to the rows that it opened to before.  An ephemeral
simulation leaves the whole file system as it was, whether it fails or not. -/
theorem failed_keeps (fs : FileSystem) (invocation : Invocation) :
    (∀ cause, (fs.execute invocation).1 = .error cause →
      (fs.execute invocation).2.openDatabase invocation.database =
        fs.openDatabase invocation.database ∧
      ∀ path rows, (fs.execute invocation).2.openDatabase path = .ok rows ↔
        fs.openDatabase path = .ok rows) ∧
    ∀ script, invocation.request = .simulate script true → (fs.execute invocation).2 = fs := by
  have outcome := outcome_execute fs invocation
  generalize fs.execute invocation = done at outcome ⊢
  constructor
  · intro cause failed
    cases outcome with
    | aside | unopened => exact ⟨rfl, fun _ _ => .rfl⟩
    | wrote placed opened leaves written =>
        obtain rfl : _ = Except.error cause := failed
        obtain rfl := leaves.eq_of_error
        have same := openDatabase_iff_of_rewritten opened written
        rw [openDatabase_eq placed, opened]
        exact ⟨(same _ _).mpr ((openDatabase_eq placed).trans opened), same⟩
  · intro script ephemeral
    cases outcome with
    | aside | unopened => rfl
    | wrote placed opened leaves written =>
        rw [ephemeral] at leaves
        cases leaves

/-- A database whose only row holds no value. -/
def damaged : FileSystem :=
  ⟨[("prefs.redb", .file (.database (Table.empty.insert "theme" [7])))]⟩

/-- Taking the damaged row away fails, and it is still there; an ephemeral simulation of a script
that is missing leaves the files alone. -/
theorem failed_keeps_damaged :
    (∃ cause, (damaged.execute
        { database := "prefs.redb", request := .prefs (.remove "theme") }).1 = .error cause ∧
      (damaged.execute
          { database := "prefs.redb", request := .prefs (.remove "theme") }).2.openDatabase
        "prefs.redb" = .ok (Table.empty.insert "theme" [7])) ∧
    (damaged.execute { request := .simulate "missing.toml" true }).2 = damaged := by
  constructor
  · have failed : (damaged.execute
        { database := "prefs.redb", request := .prefs (.remove "theme") }).1 =
        .error (.encoding .dataTooShort) := by decide +kernel
    have placed : damaged.databasePlace "prefs.redb" = .ok ["prefs.redb"] := by decide +kernel
    have opened : damaged.rowsAt ["prefs.redb"] = .ok (Table.empty.insert "theme" [7]) := rfl
    have kept := ((failed_keeps damaged _).1 _ failed).1
    exact ⟨_, failed, kept.trans ((openDatabase_eq placed).trans opened)⟩
  · exact (failed_keeps damaged _).2 "missing.toml" rfl

end FileSystem

end CaptureFlow
