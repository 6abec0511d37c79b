import CaptureFlow.Session.Basic
/-! # Simulation scripts

A `Script` describes a simulated device and the host events, its steps, that a capture screen
receives.  Steps have a name in JSON and a form in structured listings. -/

namespace CaptureFlow

/-! ### The device of a script -/

/-- The device that a script asks for; sizes left out are the usual ones. -/
structure CameraSpec where
  count : UInt64 := 2
  sensorOrientation : UInt16 := 90
  previewSizes : Option (List Size) := none
  pictureSize : Option Size := none
  failPreview : Bool := false
deriving DecidableEq, Repr, Inhabited

def CameraSpec.device (c : CameraSpec) : DeviceSpec :=
  let usual : DeviceSpec := {}
  { count := c.count, sensorOrientation := c.sensorOrientation,
    previewSizes := c.previewSizes.getD usual.previewSizes,
    pictureSize := c.pictureSize.getD usual.pictureSize, failPreview := c.failPreview }

/-! ### Steps -/

/-- A host event. -/
inductive Step where
  | resume
  | pause
  | viewLayout (size : Size)
  | surface (id : UInt64) (rotation : UInt16)
  | orientation (value : Orientation)
  | capture
  | flip
deriving DecidableEq, Repr

namespace Step

/-- What the event makes the session do. -/
def op : Step → SessionOp
  | .resume => .resume
  | .pause => .pause
  | .viewLayout size => .layOut size
  | .surface id rotation => .provideSurface id rotation
  | .orientation value => .orient value
  | .capture => .capture
  | .flip => .flip

def described : Step → String
  | .resume => "Resume"
  | .pause => "Pause"
  | .viewLayout size => s!"ViewLayout \x7b size: {size.described} \x7d"
  | .surface id rotation => s!"Surface \x7b id: {id.toNat}, rotation: {rotation.toNat} \x7d"
  | .orientation value => s!"Orientation \x7b value: {value.described} \x7d"
  | .capture => "Capture"
  | .flip => "Flip"

def json : Step → Json
  | .resume => .object [("event", .text "resume")]
  | .pause => .object [("event", .text "pause")]
  | .viewLayout size => .object [("event", .text "view_layout"), ("size", size.json)]
  | .surface id rotation =>
    .object [("event", .text "surface"), ("id", .ofNat id.toNat),
      ("rotation", .ofNat rotation.toNat)]
  | .orientation value =>
    .object [("event", .text "orientation"), ("value", .text value.name)]
  | .capture => .object [("event", .text "capture")]
  | .flip => .object [("event", .text "flip")]

end Step

/-! ### Scripts -/

/-- A complete simulation. -/
structure Script where
  orientation : Orientation := .portrait
  camera : CameraSpec := {}
  steps : List Step := []
deriving DecidableEq, Repr, Inhabited

end CaptureFlow
