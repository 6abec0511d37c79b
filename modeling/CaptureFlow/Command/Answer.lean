import CaptureFlow.Command.Invocation
import CaptureFlow.Geometry.Selection
import CaptureFlow.Preference.Value
import CaptureFlow.Script.Replay
/-! # Answers of commands

What a command that succeeded has to say, and its two forms: lines of text for people and a JSON
document for programs. -/

namespace CaptureFlow

/-- The value under the name of its kind. -/
def Preference.json : Preference → Json
  | .flag b => .object [("bool", .bool b)]
  | .number n => .object [("int", .number n.toInt)]
  | .text s => .object [("text", .text s)]

namespace Command

/-- What a command has to say. -/
inductive Answer where
  | transform (preview view : Size) (orientation : Orientation) (t : PreviewTransform)
  | crop (image surface : Size) (region : Crop)
  | rotation (sensor : UInt16) (facing : Facing) (screen : ScreenRotation) (degrees : UInt16)
  | found (key : String) (value : Option Preference)
  | stored (key : String) (value : Preference)
  | removed (key : String) (value : Option Preference)
  | listing (database : String) (entries : List (String × Preference))
  | report (outcome : Report)
deriving DecidableEq, Repr

namespace Answer

def entryLine (key : String) (value : Preference) : String := s!"{key} = {value.shown}"

/-- The lines of a timeline entry. -/
def entryLines (entry : TimelineEntry) : List String :=
  s!"[{entry.index}] {entry.step.described}" ::
    entry.events.map fun event => s!"      -> {event.shown}"

def lines : Answer → List String
  | .transform preview view orientation t =>
    ["Preview Transform", "=================",
      s!"Preview:     {preview.shown}", s!"View:        {view.shown}",
      s!"Orientation: {orientation.described}", "",
      s!"Scale X:     {t.scaleX.shown}", s!"Scale Y:     {t.scaleY.shown}"] ++
      if t.isIdentity then ["(identity)"] else []
  | .crop image surface region =>
    ["Capture Crop", "============",
      s!"Image:   {image.shown}", s!"Surface: {surface.shown}", "",
      s!"Origin:  ({region.left.toNat}, {region.top.toNat})",
      s!"Size:    {region.size.shown}"]
  | .rotation sensor facing screen degrees =>
    ["Camera Rotation", "===============",
      s!"Facing:   {facing.name}", s!"Sensor:   {sensor.toNat} degrees",
      s!"Screen:   {screen.degrees.toNat} degrees", "",
      s!"Rotation: {degrees.toNat} degrees"]
  | .found key (some value) => [entryLine key value]
  | .found key none => [s!"{key} is not set"]
  | .stored key value => [entryLine key value]
  | .removed key (some value) => [s!"Removed {key} (was {value.shown})"]
  | .removed key none => [s!"{key} was not set"]
  | .listing database [] => [s!"No preferences stored in {Text.quote database}"]
  | .listing _ entries => entries.map fun entry => entryLine entry.1 entry.2
  | .report outcome =>
    ["Simulation Timeline", "==================="] ++ outcome.timeline.flatMap entryLines ++
      ["", s!"Device calls:  {outcome.deviceCalls.length}",
        s!"Final camera:  {outcome.finalFacing.name}"]

def json : Answer → Json
  | .transform preview view orientation t =>
    .object [("preview", preview.json), ("view", view.json),
      ("orientation", .text orientation.name),
      ("scale_x_millionths", .ofNat t.scaleX.millionths.toNat),
      ("scale_y_millionths", .ofNat t.scaleY.millionths.toNat)]
  | .crop image surface region =>
    .object [("image", image.json), ("surface", surface.json), ("crop", region.json)]
  | .rotation sensor facing screen degrees =>
    .object [("sensor", .ofNat sensor.toNat), ("facing", .text facing.name),
      ("screen", .ofNat screen.degrees.toNat), ("rotation", .ofNat degrees.toNat)]
  | .found key value => .object [("key", .text key), ("value", .ofOption (·.json) value)]
  | .stored key value => .object [("key", .text key), ("value", value.json)]
  | .removed key value => .object [("key", .text key), ("removed", .ofOption (·.json) value)]
  | .listing _ entries => .object (entries.map fun entry => (entry.1, entry.2.json))
  | .report outcome => outcome.json

/-- What is printed: every line of text, or the JSON document, ends with a line break. -/
def printed (answer : Answer) (json : Bool) : String :=
  if json then answer.json.pretty ++ "\n"
  else String.join (answer.lines.map fun line => line ++ "\n")

end Answer

end Command

end CaptureFlow
