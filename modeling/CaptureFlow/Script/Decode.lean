import CaptureFlow.Script.Basic
import CaptureFlow.Toml.Reader
/-! # Reading scripts

What a TOML table has to look like to be a script.  The fields of a structure may be given by name,
in a table, or in their order, in an array.

* At top level and in the camera every field has a default and unknown fields are refused; an
  array may end early or be too long.
* In steps and sizes unknown fields are ignored.  Sizes have no defaults; of a step only the
  rotation of a surface has one.
* A step names its event first of all, so a step is looked at as a whole: every integer in it has
  to fit in 64 bits, even in a field that is ignored, and an array in it must not be too long.
* Elsewhere an integer in an ignored field has to fit in 128 bits.
* What is unreadable is refused in all these places.  Only the elements of an array that is too
  long may hold it: nobody looks at them. -/

namespace CaptureFlow

open Toml (Value lookup)

namespace Script

/-! ### Integers -/

/-- The integer of a value, below `limit`. -/
def natBelow? (limit : Nat) : Value → Option Nat
  | .integer (.ofNat n) => if n < limit then some n else none
  | _ => none

def uint16? (v : Value) : Option UInt16 := (natBelow? UInt16.size v).map Nat.toUInt16

def uint32? (v : Value) : Option UInt32 := (natBelow? UInt32.size v).map Nat.toUInt32

def uint64? (v : Value) : Option UInt64 := (natBelow? UInt64.size v).map Nat.toUInt64

mutual

/-- Whether every number in a value is readable, and every integer lies from `-2 ^ (bits - 1)` up
to `2 ^ bits`. -/
def fits (bits : Nat) : Value → Bool
  | .integer n => decide (-2 ^ (bits - 1) ≤ n ∧ n < 2 ^ bits)
  | .unreadable _ => false
  | .array elements => allFit bits elements
  | .table entries => entriesFit bits entries
  | _ => true

/-- Whether every number in a list of values fits. -/
def allFit (bits : Nat) : List Value → Bool
  | [] => true
  | v :: rest => fits bits v && allFit bits rest

/-- Whether every number in the entries of a table fits. -/
def entriesFit (bits : Nat) : List (String × Value) → Bool
  | [] => true
  | (_, v) :: rest => fits bits v && entriesFit bits rest

end

/-! ### Fields -/

/-- How strictly a value is looked at: a part of a step is `strict`. -/
inductive Strictness where
  | lenient
  | strict
deriving DecidableEq, Repr

/-- A field that may be left out. -/
def optional? {α : Type} (read : Value → Option α) (default : α) : Option Value → Option α
  | none => some default
  | some v => read v

def listOf? {α : Type} (read : Value → Option α) : Value → Option (List α)
  | .array elements => elements.mapM read
  | _ => none

def flag? : Value → Option Bool
  | .boolean b => some b
  | _ => none

/-- Whether a value is what may stand for the missing content of a name. -/
def isVacant (strictness : Strictness) : Value → Bool
  | .table [] => true
  | .array [] => strictness = .lenient
  | _ => false

/-- An orientation, as its name or as a table with the name for its only key. -/
def orientation? (strictness : Strictness) : Value → Option Orientation
  | .text name => Orientation.ofName? name
  | .table [(name, content)] =>
    if isVacant strictness content then Orientation.ofName? name else none
  | _ => none

/-- A size, from a table or an array. -/
def size? (strictness : Strictness) : Value → Option Size
  | .table entries => do
    guard (entriesFit 128 entries)
    let width ← uint32? (← lookup "width" entries)
    let height ← uint32? (← lookup "height" entries)
    return ⟨width, height⟩
  | .array (width :: height :: more) => do
    guard (strictness = .lenient ∨ more = [])
    return ⟨← uint32? width, ← uint32? height⟩
  | _ => none

/-! ### The camera -/

/-- The fields of a camera in their order, where each may be left out. -/
def cameraOfFields? (count sensor previewSizes pictureSize failPreview : Option Value) :
    Option CameraSpec := do
  let usual : CameraSpec := {}
  return {
    count := ← optional? uint64? usual.count count
    sensorOrientation := ← optional? uint16? usual.sensorOrientation sensor
    previewSizes := ←
      optional? (fun v => (listOf? (size? .lenient) v).map some) usual.previewSizes previewSizes
    pictureSize := ←
      optional? (fun v => (size? .lenient v).map some) usual.pictureSize pictureSize
    failPreview := ← optional? flag? usual.failPreview failPreview }

def cameraFields : List String :=
  ["count", "sensor_orientation", "preview_sizes", "picture_size", "fail_preview"]

/-- A camera, from a table or an array. -/
def camera? : Value → Option CameraSpec
  | .table entries => do
    guard (entries.all fun entry => cameraFields.contains entry.1)
    let field (name : String) : Option Value := lookup name entries
    cameraOfFields? (field "count") (field "sensor_orientation") (field "preview_sizes")
      (field "picture_size") (field "fail_preview")
  | .array elements =>
    cameraOfFields? elements[0]? elements[1]? elements[2]? elements[3]? elements[4]?
  | _ => none

/-! ### Steps -/

/-- The names of the fields of an event, in their order; nothing if there is no such event. -/
def stepFields? : String → Option (List String)
  | "resume" | "pause" | "capture" | "flip" => some []
  | "view_layout" => some ["size"]
  | "surface" => some ["id", "rotation"]
  | "orientation" => some ["value"]
  | _ => none

/-- The event of a name, with its fields. -/
def stepOfFields? (event : String) (field : String → Option Value) : Option Step :=
  match event with
  | "resume" => some .resume
  | "pause" => some .pause
  | "view_layout" => do return .viewLayout (← size? .strict (← field "size"))
  | "surface" => do
    return .surface (← uint64? (← field "id")) (← optional? uint16? 0 (field "rotation"))
  | "orientation" => do return .orientation (← orientation? .strict (← field "value"))
  | "capture" => some .capture
  | "flip" => some .flip
  | _ => none

/-- A step, from a table with an `event` or an array that begins with it. -/
def step? (v : Value) : Option Step := do
  guard (fits 64 v)
  match v with
  | .table entries =>
    match lookup "event" entries with
    | some (.text event) => stepOfFields? event fun name => lookup name entries
    | _ => none
  | .array (.text event :: elements) =>
    let names ← stepFields? event
    guard (elements.length ≤ names.length)
    stepOfFields? event fun name => lookup name (names.zip elements)
  | _ => none

/-! ### Scripts -/

def scriptFields : List String := ["orientation", "camera", "step"]

/-- The script that a table describes. -/
def ofTable? (entries : List (String × Value)) : Option Script := do
  guard (entries.all fun entry => scriptFields.contains entry.1)
  return {
    orientation := ← optional? (orientation? .lenient) .portrait (lookup "orientation" entries)
    camera := ← optional? camera? {} (lookup "camera" entries)
    steps := ← optional? (listOf? step?) [] (lookup "step" entries) }

def read (text : String) : Except Failure Script :=
  match Toml.read? text with
  | none => .error (.encoding .badScript)
  | some entries =>
    match ofTable? entries with
    | none => .error (.encoding .badScript)
    | some script => .ok script

end Script

end CaptureFlow
