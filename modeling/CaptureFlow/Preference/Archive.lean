import CaptureFlow.Preference.Encoding
import CaptureFlow.Preference.Table
/-! # Database files

A database file holds the rows of a preference table: a mark, and then each row as the key and the
stored value, both with their length in front.  `archive` writes a table and `unarchive?` reads one
back, or nothing if the bytes are no database. -/

namespace CaptureFlow

namespace Archive

/-- How every database file begins; the fifth byte occurs in no text. -/
def mark : Bytes := [0x53, 0x47, 0x44, 0x42, 0xff, 0x0a]

/-- Bytes with their length in front. -/
def chunk (bytes : Bytes) : Bytes := Varint.write bytes.length ++ bytes

/-- The chunk at the front, and what follows it. -/
def readChunk? (bytes : Bytes) : Option (Bytes × Bytes) :=
  match Varint.read Varint.word64 bytes with
  | .error _ => none
  | .ok (size, rest) => if rest.length < size then none else some (rest.take size, rest.drop size)

/-- Reads rows up to the end into a table; every round takes one row. -/
def readRows? : Nat → Table Bytes → Bytes → Option (Table Bytes)
  | _, table, [] => some table
  | 0, _, _ :: _ => none
  | rounds + 1, table, bytes => do
    let (key, rest) ← readChunk? bytes
    let (value, rest) ← readChunk? rest
    readRows? rounds (table.insert (← textOfBytes? key) value) rest

end Archive

/-- The file of a table. -/
def archive (table : Table Bytes) : Bytes :=
  Archive.mark ++ table.rows.flatMap fun row =>
    Archive.chunk (textBytes row.1) ++ Archive.chunk row.2

/-- The table of a file; an empty file is an empty table. -/
def unarchive? (bytes : Bytes) : Option (Table Bytes) :=
  if bytes.isEmpty then some .empty
  else if Archive.mark.isPrefixOf bytes then
    let rows := bytes.drop Archive.mark.length
    Archive.readRows? rows.length .empty rows
  else none

end CaptureFlow
