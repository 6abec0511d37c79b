import CaptureFlow.Command.Answer
import CaptureFlow.Preference.Store
import CaptureFlow.Script.Decode
/-! # Carrying out commands

A command is carried out against its `Surroundings`: what is found where the script and the
database should be.  Nothing else of the world matters, and the only thing that a command changes
is the database.  `Execution.database` is the database as it is left behind, or nothing if the
command never opened it.

Opening the database creates it where there is none, even if the command fails later. -/

namespace CaptureFlow

/-! ### Script files -/

/-- Reads a script from what was found at `path`. -/
def Script.load (path : String) (found : Except PathFault Bytes) : Except Failure Script :=
  match found with
  | .error fault => .error (.transfer (.unreadable path (.path fault)))
  | .ok bytes =>
    if maxScriptSize < bytes.length then .error (.encoding (.scriptTooLarge bytes.length))
    else
      match textOfBytes? bytes with
      | none => .error (.transfer (.unreadable path .notText))
      | some text => Script.read text

namespace Command

/-! ### Surroundings -/

/-- What is found at the paths that a command names. -/
structure Surroundings where
  script : Except PathFault Bytes
  database : Except DatabaseFault (Table Bytes)

/-- What came of a command, and the database it leaves behind. -/
structure Execution where
  answer : Except Failure Answer
  database : Option (Table Bytes) := none

/-! ### Commands -/

def transform (preview view : Size) (orientation : String) : Except Failure Answer := do
  let orientation ← Orientation.read orientation
  let t ← PreviewTransform.compute preview view orientation
  return .transform preview view orientation t

def crop (image surface : Size) : Except Failure Answer := do
  return .crop image surface (← Crop.toSurface image surface)

def rotation (sensor : UInt16) (facing : String) (screen : UInt16) : Except Failure Answer := do
  let facing ← Facing.read facing
  let screen ← ScreenRotation.read screen
  return .rotation sensor facing screen (cameraRotation sensor facing screen)

/-- What an operation on a store answers, and the store that it leaves, also if it fails. -/
def PrefsAction.run (path : String) (store : Durable) :
    PrefsAction → Except Failure Answer × Durable
  | .get key => (.found key <$> store.get key, store)
  | .set key raw kind =>
    match Preference.read kind raw with
    | .error e => (.error e, store)
    | .ok value =>
      match store.set key value with
      | .error e => (.error e, store)
      | .ok after => (.ok (.stored key value), after)
  | .remove key => (store.remove key).map (.removed key <$> ·) id
  | .list => (.listing path <$> store.entries, store)

/-- Carries out an operation on the database at `path`. -/
def prefs (path : String) (found : Except DatabaseFault (Table Bytes)) (action : PrefsAction) :
    Execution :=
  match found with
  | .error fault => { answer := .error (.transfer (.database fault)) }
  | .ok table =>
    let (answer, store) := action.run path ⟨table⟩
    { answer, database := some store.table }

def replayed (script : Script) (store : Store) : Except Failure Answer × Store :=
  let (report, store) := script.replay store
  (.report <$> report, store)

/-- Carries out a simulation; an ephemeral one leaves the database alone. -/
def simulate (around : Surroundings) (path : String) (ephemeral : Bool) : Execution :=
  match Script.load path around.script with
  | .error e => { answer := .error e }
  | .ok script =>
    if ephemeral then { answer := (replayed script .volatile).1 }
    else
      match around.database with
      | .error fault => { answer := .error (.transfer (.database fault)) }
      | .ok table =>
        let (answer, store) := replayed script (.durable table)
        { answer, database := store.durableTable? }

/-- Carries out what the arguments ask for. -/
def Invocation.execute (invocation : Invocation) (around : Surroundings) : Execution :=
  match invocation.request with
  | .transform preview view orientation => { answer := transform preview view orientation }
  | .crop image surface => { answer := crop image surface }
  | .rotation sensor facing screen => { answer := rotation sensor facing screen }
  | .prefs action => prefs invocation.database around.database action
  | .simulate script ephemeral => simulate around script ephemeral

/-- Whether an invocation comes to opening the database, given what is found of its script. -/
def Invocation.opensDatabase (invocation : Invocation) (script : Except PathFault Bytes) : Bool :=
  match invocation.request with
  | .prefs _ => true
  | .simulate path ephemeral => !ephemeral && (Script.load path script).isOk
  | _ => false

/-- What an invocation prints; a failure prints nothing. -/
def Invocation.printed (invocation : Invocation) : Except Failure Answer → String
  | .ok answer => answer.printed invocation.json
  | .error _ => ""

end Command

end CaptureFlow
