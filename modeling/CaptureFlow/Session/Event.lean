import CaptureFlow.Camera.Device
import CaptureFlow.Geometry.Crop
import CaptureFlow.Geometry.Scale
import CaptureFlow.Json.Basic
/-! # What a session reports

A capture session tells its host of everything that happens by a `SessionEvent`.  Events have one
line of text each (`SessionEvent.shown`) and a JSON form for reports (`SessionEvent.json`). -/

namespace CaptureFlow

/-! ### JSON forms of what reports mention -/

def Size.json (s : Size) : Json :=
  .object [("width", .ofNat s.width.toNat), ("height", .ofNat s.height.toNat)]

def Crop.json (c : Crop) : Json :=
  .object [("left", .ofNat c.left.toNat), ("top", .ofNat c.top.toNat),
    ("width", .ofNat c.width.toNat), ("height", .ofNat c.height.toNat)]

def PreviewTransform.json (t : PreviewTransform) : Json :=
  .object [("scale_x", .ofNat t.scaleX.millionths.toNat),
    ("scale_y", .ofNat t.scaleY.millionths.toNat)]

/-- The call as its name, with its arguments if it has any. -/
def DeviceCall.json : DeviceCall → Json
  | .openCamera facing => .object [("open", .text facing.name)]
  | .startPreview size surface =>
    .object [("start_preview", .object [("size", size.json), ("surface", .ofNat surface.toNat)])]
  | .setRotation degrees => .object [("set_rotation", .ofNat degrees.toNat)]
  | .takePicture => .text "take_picture"
  | .stop => .text "stop"

/-! ### Events -/

/-- Something the host of a session is told: a camera failed, whether switching cameras can be
offered, how to stretch the preview, a picture with the region the preview showed, or that a step
of a replay failed. -/
inductive SessionEvent where
  | cameraError (cause : Failure)
  | flipAvailable (available : Bool)
  | transform (t : PreviewTransform)
  | imageCaptured (frame : Frame) (crop : Crop)
  | stepFailed (cause : Failure)
deriving DecidableEq, Repr

def Frame.byteCount (frame : Frame) : Nat := frame.data.utf8ByteSize

namespace SessionEvent

def shown : SessionEvent → String
  | .cameraError cause => s!"camera error: {cause.message}"
  | .flipAvailable available => s!"flip available: {available}"
  | .transform t => s!"preview transform: scale x {t.scaleX.shown} y {t.scaleY.shown}"
  | .imageCaptured frame crop =>
    s!"image captured: {frame.size.shown} ({frame.byteCount} bytes, " ++
      s!"rotation {frame.rotation.toNat}), crop {crop.size.shown} " ++
      s!"at ({crop.left.toNat}, {crop.top.toNat})"
  | .stepFailed cause => s!"step failed: {cause.message}"

def json : SessionEvent → Json
  | .cameraError cause =>
    .object [("type", .text "camera_error"), ("message", .text cause.message)]
  | .flipAvailable available =>
    .object [("type", .text "flip_available"), ("available", .bool available)]
  | .transform t => .object [("type", .text "transform"), ("transform", t.json)]
  | .imageCaptured frame crop =>
    .object [("type", .text "image_captured"), ("size", frame.size.json), ("crop", crop.json),
      ("rotation", .ofNat frame.rotation.toNat), ("bytes", .ofNat frame.byteCount)]
  | .stepFailed cause =>
    .object [("type", .text "step_failed"), ("message", .text cause.message)]

end SessionEvent

end CaptureFlow
