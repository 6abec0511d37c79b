import CaptureFlow.Camera.Device
import CaptureFlow.Gate.Basic
import CaptureFlow.Geometry.Selection
/-! # The gated camera

A `GatedCamera` puts the calls to a device in order: its callers ask for things in whatever order
the host delivers events, and a gate with two stages holds back what is too early.  Linking a
surface waits until the camera is open (`initialized`); turning the picture and taking one wait
until the preview runs (`previewStarted`).  What waits is an `Action`.

The functions here are the single moves of the camera.  Everything that takes more than one move,
because an action may ask for further things when it runs, is in the camera's machine. -/

namespace CaptureFlow

/-! ### Stages and actions -/

inductive CameraStage where
  | initialized
  | previewStarted
deriving DecidableEq, Repr

instance : Stage CameraStage where
  before
    | .initialized, .previewStarted => true
    | _, _ => false
  shown
    | .initialized => "Initialized"
    | .previewStarted => "PreviewStarted"

/-- The stages that every camera declares. -/
def CameraStage.all : List CameraStage := [.initialized, .previewStarted]

/-- Something that waits for a stage; `β` is what a picture is handed to. -/
inductive CameraAction (β : Type) where
  | linkSurface (surface : UInt64)
  | applyRotation (rotation : ScreenRotation)
  | takePicture (receiver : β)

def CameraAction.stage {β : Type} : CameraAction β → CameraStage
  | .linkSurface _ => .initialized
  | .applyRotation _ => .previewStarted
  | .takePicture _ => .previewStarted

/-! ### The camera -/

/-- A device behind a gate, with the camera that is selected and what is known of it. -/
structure GatedCamera (β : Type) where
  device : Device
  facing : Facing := .back
  info : Option CameraInfo := none
  previewSize : Option Size := none
  surface : Option UInt64 := none
  rotation : ScreenRotation := .upright
  gate : Gate CameraStage (CameraAction β) :=
    { slots := CameraStage.all.map fun stage => (stage, {}) }

namespace GatedCamera

variable {β : Type}

def isAt (c : GatedCamera β) (stage : CameraStage) : Bool := c.gate.isComplete stage

/-- The capabilities of the camera opened last. -/
def capabilities? (c : GatedCamera β) : Option Capabilities :=
  c.previewSize.map fun preview => ⟨c.device.spec.count, preview⟩

def described (c : GatedCamera β) : String :=
  s!"GatedCamera \x7b gate: {c.gate.described}, .. \x7d"

def waiting (c : GatedCamera β) : List (CameraAction β) :=
  c.gate.slots.flatMap fun entry => entry.2.pending

/-- Opens the selected camera.  A camera that offers no preview sizes is closed again. -/
def openSelected (c : GatedCamera β) : Except Failure Capabilities × GatedCamera β :=
  if c.device.spec.count = 0 then (.error (.camera .noCameras), c)
  else
    match c.device.openCamera c.facing with
    | (.error e, device) => (.error e, { c with device })
    | (.ok info, device) =>
      match largest? info.previewSizes with
      | none => (.error (.camera (.noPreviewSizes c.facing)), { c with device := device.stop })
      | some preview =>
        (.ok ⟨device.spec.count, preview⟩,
          { c with device, info := some info, previewSize := some preview })

/-- Forgets the surface, stops the device if the camera is open and starts a new cycle. -/
def released (c : GatedCamera β) : GatedCamera β :=
  let device := if c.isAt .initialized then c.device.stop else c.device
  { c with surface := none, device, gate := c.gate.reset }

def startPreview (c : GatedCamera β) (surface : UInt64) : Except Failure Unit × GatedCamera β :=
  let c := { c with surface := some surface }
  match c.previewSize with
  | none => (.error (.camera .notOpen), c)
  | some size =>
    let (result, device) := c.device.startPreview size surface
    (result, { c with device })

/-- Turns the picture of the open camera for a screen turned by `rotation`. -/
def applyRotation (c : GatedCamera β) (rotation : ScreenRotation) :
    Except Failure Unit × GatedCamera β :=
  let c := { c with rotation }
  match c.info with
  | none => (.ok (), c)
  | some info =>
    let degrees := cameraRotation info.sensorOrientation info.facing rotation
    let (result, device) := c.device.setRotation degrees
    (result, { c with device })

def takePicture (c : GatedCamera β) : Except Failure Frame × GatedCamera β :=
  let (result, device) := c.device.takePicture
  (result, { c with device })

end GatedCamera

end CaptureFlow
