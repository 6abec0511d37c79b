import CaptureFlow.Toml.Value
/-! # Putting a document together

A document is a list of sections, each with a header and assignments to dotted keys.  `assemble?`
makes one table of them.  It refuses a document that says two things about the same place:

* a key is assigned once, and what is assigned as a whole cannot be extended;
* a table is opened by one header at most, which may come after headers of tables inside it;
* the dots of a key make tables, and lead through tables that headers have only implied; neither
  can be opened by a header any more, but headers of tables inside them may follow;
* the dots of a key may also lead through the latest element of an array made by headers, but not
  assign to it;
* a header in double brackets adds an element to an array made by such headers only. -/

namespace CaptureFlow.Toml

/-! ### What a document says, in its order -/

/-- An assignment to a dotted key. -/
abbrev Assignment := List String × Value

/-- The header of a section: the key of a table, and whether it adds a new one to an array. -/
structure Header where
  path : List String
  repeated : Bool
deriving DecidableEq, Repr

/-- A header with its assignments. -/
structure Section where
  header : Header
  body : List Assignment

/-- A document: assignments without a header, and sections. -/
structure Document where
  body : List Assignment
  sections : List Section

/-! ### Tables under construction -/

/-- What a table owes its existence to: its header, a longer header only, or the dots of a key.
An implied table becomes a dotted one when a key leads through it. -/
inductive Origin where
  | header
  | implied
  | dotted
deriving DecidableEq, Repr

/-- What stands under a key: a value that is finished, a table, or an array of tables with the
latest one first. -/
inductive Draft where
  | value (v : Value)
  | table (origin : Origin) (entries : List (String × Draft))
  | tables (elements : List (List (String × Draft)))

/-- The entries of a table under construction. -/
abbrev Entries := List (String × Draft)

/-- Changes what stands under `key`, or puts something there. -/
def update (key : String) (f : Option Draft → Option Draft) : Entries → Option Entries
  | [] => (f none).map fun d => [(key, d)]
  | (k, d) :: rest =>
    if k = key then (f (some d)).map fun d => (k, d) :: rest
    else (update key f rest).map ((k, d) :: ·)

/-- Assigns a value to a dotted key. -/
def assign (v : Value) : List String → Entries → Option Entries
  | [], _ => none
  | [key], entries =>
    update key (fun
      | none => some (.value v)
      | some _ => none) entries
  | part :: rest, entries =>
    update part (fun
      | none => (assign v rest []).map (.table .dotted)
      | some (.table origin inner) =>
        if origin = .header then none else (assign v rest inner).map (.table .dotted)
      | some (.tables (latest :: earlier)) =>
        if rest.length = 1 then none
        else (assign v rest latest).map fun inner => .tables (inner :: earlier)
      | some _ => none) entries

/-- Performs all assignments of a section. -/
def fill (body : List Assignment) (entries : Entries) : Option Entries :=
  body.foldlM (fun entries assignment => assign assignment.2 assignment.1 entries) entries

/-- Adds a section whose header has the given path. -/
def enter (repeated : Bool) (body : List Assignment) : List String → Entries → Option Entries
  | [], _ => none
  | [key], entries =>
    update key (fun
      | none =>
        (fill body []).map fun inner => if repeated then .tables [inner] else .table .header inner
      | some (.table .implied inner) =>
        if repeated then none else (fill body inner).map (.table .header)
      | some (.tables elements) =>
        if repeated then (fill body []).map fun inner => .tables (inner :: elements) else none
      | some _ => none) entries
  | part :: rest, entries =>
    update part (fun
      | none => (enter repeated body rest []).map (.table .implied)
      | some (.table origin inner) => (enter repeated body rest inner).map (.table origin)
      | some (.tables (latest :: earlier)) =>
        (enter repeated body rest latest).map fun inner => .tables (inner :: earlier)
      | some _ => none) entries

/-! ### Finished tables -/

mutual

def Draft.finish : Draft → Value
  | .value v => v
  | .table _ entries => .table (finishEntries entries)
  | .tables elements => .array (finishTables elements).reverse

def finishEntries : List (String × Draft) → List (String × Value)
  | [] => []
  | (key, d) :: rest => (key, d.finish) :: finishEntries rest

def finishTables : List (List (String × Draft)) → List Value
  | [] => []
  | entries :: rest => .table (finishEntries entries) :: finishTables rest

end

/-- The table of an inline table's assignments. -/
def inlineTable? (body : List Assignment) : Option Value :=
  (fill body []).map fun entries => .table (finishEntries entries)

/-- The entries of the whole document. -/
def assemble? (document : Document) : Option (List (String × Value)) := do
  let entries ← fill document.body []
  let entries ← document.sections.foldlM (fun entries s =>
    enter s.header.repeated s.body s.header.path entries) entries
  return finishEntries entries

end CaptureFlow.Toml
