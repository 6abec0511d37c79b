import CaptureFlow.Preference.Table
import CaptureFlow.Refusals
/-! # Preference stores

Two stores with one behaviour.  A `Volatile` store holds the values themselves; a `Durable` store
holds their stored forms, so it refuses values that are too large and fails on rows that hold no
value.  Every operation that names a key checks the key first.  A durable store is changed by one
`Transaction` for each operation, which is committed if the operation succeeds and dropped if it
fails.  `Store` is either of them, with calls that can be refused; the preferred camera is kept
under a key of its own. -/

namespace CaptureFlow

/-! ### Keys -/

/-- The longest key, in bytes. -/
def maxKeyLength : Nat := 128

/-- The key under which the preferred camera is kept. -/
def preferredCameraKey : String := "direct_capture_camera_id"

/-- A key is a text of between one and `maxKeyLength` bytes. -/
def validateKey (key : String) : Except Failure Unit :=
  if key = "" ∨ maxKeyLength < (textBytes key).length then .error (.badKey key) else .ok ()

/-! ### The volatile store -/

/-- Values by key, lost with the program. -/
structure Volatile where
  table : Table Preference

namespace Volatile

def empty : Volatile := ⟨.empty⟩

def get (s : Volatile) (key : String) : Except Failure (Option Preference) := do
  validateKey key
  return s.table.get? key

def set (s : Volatile) (key : String) (value : Preference) : Except Failure Volatile := do
  validateKey key
  return ⟨s.table.insert key value⟩

/-- Takes `key` away and gives its value. -/
def remove (s : Volatile) (key : String) : Except Failure (Option Preference) × Volatile :=
  match validateKey key with
  | .error e => (.error e, s)
  | .ok () => (.ok (s.table.get? key), ⟨s.table.erase key⟩)

/-- All entries in the order of their keys. -/
def entries (s : Volatile) : List (String × Preference) := s.table.rows

end Volatile

/-! ### The durable store -/

/-- Stored forms by key; what survives the program. -/
structure Durable where
  table : Table Bytes

/-- A write transaction: the rows that are committed, and those that a commit would leave. -/
structure Transaction where
  committed : Table Bytes
  pending : Table Bytes

namespace Transaction

def insert (t : Transaction) (key : String) (bytes : Bytes) : Transaction :=
  { t with pending := t.pending.insert key bytes }

/-- Takes `key` away and gives what was under it. -/
def remove (t : Transaction) (key : String) : Option Bytes × Transaction :=
  (t.pending.get? key, { t with pending := t.pending.erase key })

/-- The store after everything that was done. -/
def commit (t : Transaction) : Durable := ⟨t.pending⟩

/-- The store as if nothing had been done. -/
def drop (t : Transaction) : Durable := ⟨t.committed⟩

end Transaction

namespace Durable

def empty : Durable := ⟨.empty⟩

/-- A transaction that has done nothing yet. -/
def transaction (s : Durable) : Transaction := ⟨s.table, s.table⟩

/-- The value of a row that may be absent. -/
def decodeRow : Option Bytes → Except Failure (Option Preference)
  | none => .ok none
  | some bytes => some <$> Preference.decode bytes

def get (s : Durable) (key : String) : Except Failure (Option Preference) := do
  validateKey key
  decodeRow (s.table.get? key)

def set (s : Durable) (key : String) (value : Preference) : Except Failure Durable := do
  validateKey key
  let bytes ← value.encode
  return (s.transaction.insert key bytes).commit

/-- Takes `key` away and gives its value.  The row is gone from the transaction by the time its
value is read, and comes back if it holds none. -/
def remove (s : Durable) (key : String) : Except Failure (Option Preference) × Durable :=
  match validateKey key with
  | .error e => (.error e, s)
  | .ok () =>
    let (removed, transaction) := s.transaction.remove key
    match decodeRow removed with
    | .error e => (.error e, transaction.drop)
    | .ok previous => (.ok previous, transaction.commit)

/-- The entries of `rows`; the first row without a value is the failure. -/
def decodeRows : List (String × Bytes) → Except Failure (List (String × Preference))
  | [] => .ok []
  | (key, bytes) :: rest => do
    let value ← Preference.decode bytes
    let others ← decodeRows rest
    return (key, value) :: others

def entries (s : Durable) : Except Failure (List (String × Preference)) := decodeRows s.table.rows

end Durable

/-! ### Either store, with refused calls -/

/-- Where a store keeps its entries. -/
inductive Backing where
  | volatile (s : Volatile)
  | durable (s : Durable)

namespace Backing

def get (b : Backing) (key : String) : Except Failure (Option Preference) :=
  match b with
  | .volatile s => s.get key
  | .durable s => s.get key

def set (b : Backing) (key : String) (value : Preference) : Except Failure Backing :=
  match b with
  | .volatile s => .volatile <$> s.set key value
  | .durable s => .durable <$> s.set key value

def remove (b : Backing) (key : String) : Except Failure (Option Preference) × Backing :=
  match b with
  | .volatile s => (s.remove key).map id .volatile
  | .durable s => (s.remove key).map id .durable

def entries (b : Backing) : Except Failure (List (String × Preference)) :=
  match b with
  | .volatile s => .ok s.entries
  | .durable s => s.entries

end Backing

/-- A preference store, some of whose calls may be refused. -/
structure Store where
  backing : Backing
  gets : Refusals := .none
  sets : Refusals := .none

namespace Store

def volatile : Store := { backing := .volatile .empty }

def durable (table : Table Bytes) : Store := { backing := .durable ⟨table⟩ }

def refused (call : Refusable) : Failure := .transfer (.refused call)

/-- The value under `key`, and the store after the call. -/
def get (s : Store) (key : String) : Except Failure (Option Preference) × Store :=
  let after := { s with gets := s.gets.count }
  if s.gets.refusesNext then (.error (refused .get), after) else (s.backing.get key, after)

def set (s : Store) (key : String) (value : Preference) : Except Failure Unit × Store :=
  let after := { s with sets := s.sets.count }
  if s.sets.refusesNext then (.error (refused .set), after)
  else
    match s.backing.set key value with
    | .ok backing => (.ok (), { after with backing })
    | .error e => (.error e, after)

def remove (s : Store) (key : String) : Except Failure (Option Preference) × Store :=
  let (previous, backing) := s.backing.remove key
  (previous, { s with backing })

def entries (s : Store) : Except Failure (List (String × Preference)) := s.backing.entries

/-- The rows of a durable backing. -/
def durableTable? (s : Store) : Option (Table Bytes) :=
  match s.backing with
  | .volatile _ => none
  | .durable b => some b.table

/-! ### The preferred camera -/

/-- The camera that a stored value names; anything else names the back camera. -/
def facingOf : Option Preference → Facing
  | some (.number n) => (Facing.ofId? n).getD .back
  | _ => .back

/-- The camera the user last switched to. -/
def preferredFacing (s : Store) : Except Failure Facing × Store :=
  let (value, after) := s.get preferredCameraKey
  (facingOf <$> value, after)

def setPreferredFacing (s : Store) (facing : Facing) : Except Failure Unit × Store :=
  s.set preferredCameraKey (.number facing.id)

end Store

end CaptureFlow
