import CaptureFlow.Preference.Store
import CaptureFlow.Proofs.Preference.Archive
/-! # Runs of a preference store

A user of a store asks for one thing after the other, and closes the store and opens it again when
it likes.  What is durable goes through its file then: it is written as an archive and read back. -/

namespace CaptureFlow

/-- What a user of a store can ask for. -/
inductive StoreOp where
  | get (key : String)
  | set (key : String) (value : Preference)
  | remove (key : String)
  | entries
  | preferredFacing
  | setPreferredFacing (facing : Facing)
  | reopen
deriving DecidableEq, Repr

/-- What a store answers if all is well. -/
inductive StoreReply where
  | value (found : Option Preference)
  | rows (rows : List (String × Preference))
  | facing (facing : Facing)
  | done
deriving DecidableEq, Repr

/-- The store that is read from the file of this one. -/
def Durable.reopen (s : Durable) : Except Failure Durable :=
  match unarchive? (archive s.table) with
  | some table => .ok ⟨table⟩
  | none => .error (.transfer (.database .badMagic))

/-- The store after it has been closed and opened; a volatile one is only handed on. -/
def Backing.reopen (b : Backing) : Except Failure Backing :=
  match b with
  | .volatile _ => .ok b
  | .durable s => .durable <$> s.reopen

namespace Store

def reopen (s : Store) : Except Failure Unit × Store :=
  match s.backing.reopen with
  | .ok backing => (.ok (), { s with backing })
  | .error e => (.error e, s)

def perform (s : Store) (op : StoreOp) : Except Failure StoreReply × Store :=
  match op with
  | .get key =>
    let (found, after) := s.get key
    (.value <$> found, after)
  | .set key value =>
    let (answer, after) := s.set key value
    ((fun () => .done) <$> answer, after)
  | .remove key =>
    let (previous, after) := s.remove key
    (.value <$> previous, after)
  | .entries => (.rows <$> s.entries, s)
  | .preferredFacing =>
    let (facing, after) := s.preferredFacing
    (.facing <$> facing, after)
  | .setPreferredFacing facing =>
    let (answer, after) := s.setPreferredFacing facing
    ((fun () => .done) <$> answer, after)
  | .reopen =>
    let (answer, after) := s.reopen
    ((fun () => .done) <$> answer, after)

/-- Does one thing after the other: the answers, and the store in the end. -/
def performAll (s : Store) : List StoreOp → List (Except Failure StoreReply) × Store
  | [] => ([], s)
  | op :: ops =>
    let (answer, next) := s.perform op
    let (answers, last) := next.performAll ops
    (answer :: answers, last)

variable {s : Store}

theorem performAll_append (ops more : List StoreOp) :
    s.performAll (ops ++ more) =
      ((s.performAll ops).1 ++ ((s.performAll ops).2.performAll more).1,
        ((s.performAll ops).2.performAll more).2) := by
  induction ops generalizing s with
  | nil => rfl
  | cons op ops ih => simp only [List.cons_append, performAll, ih]

theorem length_performAll (ops : List StoreOp) : (s.performAll ops).1.length = ops.length := by
  induction ops generalizing s with
  | nil => rfl
  | cons op ops ih => simp only [performAll, List.length_cons, ih]

end Store

end CaptureFlow
