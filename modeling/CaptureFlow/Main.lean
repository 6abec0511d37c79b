import CaptureFlow.Command.Program
import CaptureFlow.Preference.Archive
/-! # The program on a real file system

Looks at the files that an invocation names, carries it out, writes the database back and prints.
Failures are told on the standard error. -/

namespace CaptureFlow

/-- What the system reports when a file cannot be used. -/
def PathFault.ofError (e : IO.Error) : PathFault :=
  match e with
  | .noFileOrDirectory .. => .notFound
  | .inappropriateType _ 20 _ | .resourceExhausted _ 20 _ => .notDirectory
  | .inappropriateType .. => .isDirectory
  | .invalidArgument _ 36 _ => .nameTooLong
  | .permissionDenied .. => .other "Permission denied (os error 13)"
  | e => .other (toString e)

def readBytes (path : String) : IO (Except PathFault Bytes) := do
  try
    return .ok (← IO.FS.readBinFile path).toList
  catch e => return .error (.ofError e)

/-- The rows of a database file, which is created if it is missing. -/
def openArchive (path : String) : IO (Except DatabaseFault (Table Bytes)) := do
  try
    let _ ← IO.FS.Handle.mk path .append
    match ← readBytes path with
    | .error fault => return .error (.path fault)
    | .ok bytes =>
      match unarchive? bytes with
      | some table => return .ok table
      | none => return .error .badMagic
  catch e => return .error (.path (.ofError e))

/-- What an invocation finds; the database is opened only if the invocation comes to that. -/
def look (invocation : Command.Invocation) : IO Command.Surroundings := do
  let script ←
    match invocation.request with
    | .simulate path _ => readBytes path
    | _ => pure (.error .notFound)
  let database ←
    if invocation.opensDatabase script then openArchive invocation.database
    else pure (.error (.path .notFound))
  return { script, database }

def runInvocation (invocation : Command.Invocation) : IO UInt32 := do
  let around ← look invocation
  let done := invocation.execute around
  if let some table := done.database then
    IO.FS.writeBinFile invocation.database ⟨(archive table).toArray⟩
  let exit := invocation.exit done.answer
  IO.print exit.output
  if let .error cause := done.answer then
    IO.eprintln s!"Error: {cause.message}"
  return exit.code.toUInt32

end CaptureFlow

def main (arguments : List String) : IO UInt32 :=
  match CaptureFlow.Command.Invocation.ofArguments arguments with
  | .ok invocation => CaptureFlow.runInvocation invocation
  | .error fault => do
    IO.print fault.exit.output
    if fault.exit.code != 0 then
      IO.eprint CaptureFlow.Command.helpPage
    return fault.exit.code.toUInt32
