import CaptureFlow.Failure
import CaptureFlow.Refusals
/-! # The simulated camera device

A stand-in for camera hardware that can be scripted: how many cameras there are, the sizes they
offer, and which calls are refused.  A refused call never reaches the device.  Every other call is
kept in the `history` together with its outcome, so that the order in which a controller operates
the device can be looked at afterwards.

A camera has to be opened before its preview can start, and the preview has to run before a picture
can be taken; `stop` ends both. -/

namespace CaptureFlow

/-! ### What a device gives -/

/-- What a camera tells about itself when it is opened. -/
structure CameraInfo where
  facing : Facing
  sensorOrientation : UInt16
  previewSizes : List Size
deriving DecidableEq, Repr

/-- A full-resolution picture. -/
structure Frame where
  data : String
  size : Size
  rotation : UInt16
deriving DecidableEq, Repr

/-! ### What a device receives -/

inductive DeviceCall where
  | openCamera (facing : Facing)
  | startPreview (size : Size) (surface : UInt64)
  | setRotation (degrees : UInt16)
  | takePicture
  | stop
deriving DecidableEq, Repr

/-- What came of a call: it was refused on its way, the device failed it, or it was done. -/
inductive CallOutcome where
  | refused
  | failed
  | done
deriving DecidableEq, Repr

/-- A call and what came of it. -/
structure Exchange where
  call : DeviceCall
  outcome : CallOutcome
deriving DecidableEq, Repr

/-! ### The device -/

/-- What kind of device is simulated. -/
structure DeviceSpec where
  count : UInt64 := 2
  sensorOrientation : UInt16 := 90
  previewSizes : List Size := [⟨640, 480⟩, ⟨1280, 720⟩, ⟨1920, 1080⟩]
  pictureSize : Size := ⟨4032, 3024⟩
  failPreview : Bool := false
deriving DecidableEq, Repr, Inhabited

/-- Which calls of each method never reach the device. -/
structure DeviceRefusals where
  openCamera : Refusals := .none
  startPreview : Refusals := .none
  setRotation : Refusals := .none
  takePicture : Refusals := .none
deriving DecidableEq, Repr, Inhabited

/-- A simulated device at work.  Its `history` starts with the latest exchange.  With
`reportedFacing` every camera claims to look that way. -/
structure Device where
  spec : DeviceSpec := {}
  refusals : DeviceRefusals := {}
  reportedFacing : Option Facing := none
  opened : Option Facing := none
  previewing : Bool := false
  picturesTaken : UInt64 := 0
  history : List Exchange := []
deriving DecidableEq, Repr, Inhabited

namespace Device

/-- The calls that reached the device, the oldest first. -/
def calls (d : Device) : List DeviceCall :=
  (d.history.reverse.filter fun exchange => exchange.outcome != .refused).map (·.call)

/-- The device with one more call in its history. -/
def record (d : Device) (call : DeviceCall) (outcome : CallOutcome) : Device :=
  { d with history := ⟨call, outcome⟩ :: d.history }

/-- A call that was refused on its way. -/
def refuse {α : Type} (d : Device) (call : DeviceCall) (method : Refusable) :
    Except Failure α × Device :=
  (.error (.transfer (.refused method)), d.record call .refused)

/-- A call that the device fails. -/
def fail {α : Type} (d : Device) (call : DeviceCall) (cause : Failure) :
    Except Failure α × Device :=
  (.error cause, d.record call .failed)

/-! ### Calls -/

/-- Opens the camera that looks to `facing`. -/
def openCamera (d : Device) (facing : Facing) : Except Failure CameraInfo × Device :=
  let call := DeviceCall.openCamera facing
  let refusals := d.refusals.openCamera
  let d := { d with refusals := { d.refusals with openCamera := refusals.count } }
  if refusals.refusesNext then d.refuse call .openCamera
  else
    match d.opened with
    | some current => d.fail call (.camera (.alreadyOpen current))
    | none =>
      if facing = .front ∧ d.spec.count < 2 then d.fail call (.camera .noFrontCamera)
      else
        let info : CameraInfo :=
          { facing := d.reportedFacing.getD facing, sensorOrientation := d.spec.sensorOrientation,
            previewSizes := d.spec.previewSizes }
        (.ok info, { d with opened := some facing }.record call .done)

/-- Streams the preview at `size` into `surface`. -/
def startPreview (d : Device) (size : Size) (surface : UInt64) : Except Failure Unit × Device :=
  let call := DeviceCall.startPreview size surface
  let refusals := d.refusals.startPreview
  let d := { d with refusals := { d.refusals with startPreview := refusals.count } }
  if refusals.refusesNext then d.refuse call .startPreview
  else if d.opened.isNone then d.fail call (.camera .notOpen)
  else if d.spec.failPreview then d.fail call (.transfer .previewRejected)
  else (.ok (), { d with previewing := true }.record call .done)

/-- Turns the preview and the pictures. -/
def setRotation (d : Device) (degrees : UInt16) : Except Failure Unit × Device :=
  let call := DeviceCall.setRotation degrees
  let refusals := d.refusals.setRotation
  let d := { d with refusals := { d.refusals with setRotation := refusals.count } }
  if refusals.refusesNext then d.refuse call .setRotation
  else (.ok (), d.record call .done)

/-- One more picture; the counter stays at its largest value. -/
def nextPicture (taken : UInt64) : UInt64 := if taken + 1 = 0 then taken else taken + 1

def takePicture (d : Device) : Except Failure Frame × Device :=
  let call := DeviceCall.takePicture
  let refusals := d.refusals.takePicture
  let d := { d with refusals := { d.refusals with takePicture := refusals.count } }
  if refusals.refusesNext then d.refuse call .takePicture
  else if !d.previewing then d.fail call (.camera .notPreviewing)
  else
    let number := nextPicture d.picturesTaken
    let frame : Frame :=
      { data := s!"frame-{number.toNat}", size := d.spec.pictureSize,
        rotation := d.spec.sensorOrientation }
    (.ok frame, { d with picturesTaken := number }.record call .done)

def stop (d : Device) : Device :=
  { d with opened := none, previewing := false }.record .stop .done

end Device

end CaptureFlow
