import CaptureFlow.Camera.Program
import CaptureFlow.Geometry.Reading
import CaptureFlow.Preference.Store
import CaptureFlow.Session.Event
/-! # The capture session

A `Session` runs one capture screen: a gated camera, the store with the preferred camera, and what
is known of the view that shows the preview.  The camera announces its capabilities and the host
announces the size of the view, in either order.  How to stretch the preview depends on both, so an
announced preview size waits at a second gate until the view has been laid out.

Every operation gives a `SessionStep`: the session after it, what happened meanwhile in its order,
and the answer.  A picture that the host takes through the session is reported with the region that
the view showed; one that it takes directly from the camera goes to its own receiver. -/

namespace CaptureFlow

/-! ### The session -/

/-- The stage of a view: its size is known. -/
inductive ViewStage where
  | laidOut
deriving DecidableEq, Repr

instance : Stage ViewStage where
  before _ _ := false
  shown _ := "ViewSizeAvailable"

/-- Who takes a picture: the session, or the host itself under a label. -/
inductive Photographer where
  | session
  | host (label : String)
deriving DecidableEq, Repr

/-- Something that happens during an operation on a session. -/
inductive SessionSignal where
  | told (event : SessionEvent)
  | handed (label : String) (frame : Frame)
deriving DecidableEq, Repr

/-- A capture screen at work.  In its view gate wait the preview sizes announced before the view
was laid out. -/
structure Session where
  camera : CameraMachine Photographer
  view : Gate ViewStage Size := { slots := [(.laidOut, {})] }
  viewSize : Option Size := none
  orientation : Orientation := .portrait
  capabilities : Option Capabilities := none
  store : Store

/-- The session after an operation, what happened meanwhile, and the answer. -/
structure SessionStep (α : Type) where
  session : Session
  signals : List SessionSignal := []
  answer : Except Failure α

namespace SessionStep

variable {α β : Type}

/-- The step with its answer changed by `f`. -/
def map (f : α → β) (step : SessionStep α) : SessionStep β :=
  { session := step.session, signals := step.signals, answer := f <$> step.answer }

def drop (step : SessionStep α) : SessionStep Unit := step.map fun _ => ()

/-- Goes on with `next` unless the step failed. -/
def andThen (step : SessionStep α) (next : Session → α → SessionStep β) : SessionStep β :=
  match step.answer with
  | .error e => { session := step.session, signals := step.signals, answer := .error e }
  | .ok a =>
    let last := next step.session a
    { last with signals := step.signals ++ last.signals }

end SessionStep

namespace Session

/-- A session over `device`, on the camera that `store` prefers; the store is given back also when
it cannot be read. -/
def ofDevice (device : Device) (store : Store) (orientation : Orientation := .portrait) :
    Except Failure Session × Store :=
  match store.preferredFacing with
  | (.error e, store) => (.error e, store)
  | (.ok facing, store) =>
    (.ok { camera := .ofDevice device facing, orientation, store }, store)

def gated (s : Session) : GatedCamera (Receiver Photographer) := s.camera.camera

def facing (s : Session) : Facing := s.gated.facing

def deviceCalls (s : Session) : List DeviceCall := s.gated.device.calls

/-! ### What the camera does, seen by the session -/

/-- The report of a picture that the session took. -/
def pictureEvent (s : Session) (frame : Frame) : SessionEvent :=
  match s.viewSize with
  | none => .cameraError (.argument .viewSizeUnknown)
  | some view =>
    match Crop.toSurface frame.size view with
    | .ok crop => .imageCaptured frame crop
    | .error e => .cameraError e

/-- What an event of the camera means for the host. -/
def signal? (s : Session) : CameraEvent Photographer → Option SessionSignal
  | .delivered _ .session frame => some (.told (s.pictureEvent frame))
  | .delivered _ (.host label) frame => some (.handed label frame)
  | .failed cause _ => some (.told (.cameraError cause))
  | .requested _ | .discarded _ | .answered .. => none

def operate (s : Session) (op : CameraOp Photographer) : SessionStep CameraReply :=
  let (answer, camera) := { s.camera with trace := [] }.call op
  { session := { s with camera }, signals := camera.trace.filterMap s.signal?, answer }

/-! ### Preview transforms -/

/-- The report of how to stretch a preview; nothing as long as the view has no size. -/
def transformSignals (s : Session) (preview : Size) : List SessionSignal :=
  match s.viewSize with
  | none => []
  | some view =>
    match PreviewTransform.compute preview view s.orientation with
    | .ok t => [.told (.transform t)]
    | .error e => [.told (.cameraError e)]

/-- New capabilities: whether switching can be offered, and how to stretch the preview as soon as
the view has been laid out. -/
def announce (s : Session) (c : Capabilities) : SessionStep Unit :=
  let s := { s with capabilities := some c }
  let flip := SessionSignal.told (.flipAvailable c.canFlip)
  match s.view.offer? .laidOut c.preview with
  | none =>
    { session := s, signals := [flip],
      answer := .error (.unknownStage (Stage.shown ViewStage.laidOut)) }
  | some (view, due) =>
    { session := { s with view },
      signals := flip :: if due then s.transformSignals c.preview else [],
      answer := .ok () }

/-- The view has been laid out at `size`; previews that waited for it are reported now. -/
def layOut (s : Session) (size : Size) : SessionStep Unit :=
  let s := { s with viewSize := some size }
  match s.view.complete? .laidOut with
  | none => { session := s, answer := .error (.unknownStage (Stage.shown ViewStage.laidOut)) }
  | some (view, false) => { session := { s with view }, answer := .ok () }
  | some (view, true) =>
    let (previews, view) := view.drain .laidOut s.view.cycle
    { session := { s with view }, signals := previews.flatMap s.transformSignals, answer := .ok () }

/-- The display is held in another way; this counts for later transforms. -/
def orient (s : Session) (orientation : Orientation) : Session := { s with orientation }

/-! ### Operations of the host -/

/-- The screen comes to the front: opens the camera. -/
def resume (s : Session) : SessionStep Unit :=
  (s.operate .openCamera).andThen fun s reply =>
    match reply with
    | .capabilities c => s.announce c
    | _ => { session := s, answer := .ok () }

/-- The screen goes to the back: releases the camera. -/
def pause (s : Session) : SessionStep Unit := (s.operate .release).drop

/-- The host has a surface for the preview, on a display turned by `rotation`. -/
def provideSurface (s : Session) (surface : UInt64) (rotation : ScreenRotation) :
    SessionStep Unit :=
  (s.operate (.linkSurface surface)).andThen fun s _ =>
    (s.operate (.setScreenRotation rotation.degrees)).drop

/-- Takes a picture.  What depends on the view waits for its next layout. -/
def capture (s : Session) : SessionStep Unit :=
  ({ s with view := s.view.reset }.operate (.capture .session [])).drop

/-- Whether there is another camera to switch to, as far as it is known. -/
def canFlip (s : Session) : Bool := s.capabilities.any (·.canFlip)

def remember (s : Session) (facing : Facing) : SessionStep Unit :=
  let (answer, store) := s.store.setPreferredFacing facing
  { session := { s with store }, answer }

/-- Switches to the other camera and remembers it; nothing if there is none. -/
def flip (s : Session) : SessionStep (Option Facing) :=
  if s.canFlip then
    (s.operate .flip).andThen fun s reply =>
      match reply with
      | .flipped facing c =>
        (s.remember facing).andThen fun s _ =>
          (s.announce c).andThen fun s _ => { session := s, answer := .ok (some facing) }
      | _ => { session := s, answer := .ok none }
  else { session := s, answer := .ok none }

def capabilitiesDescribed : Option Capabilities → String
  | none => "None"
  | some c =>
    s!"Some(Capabilities \x7b camera_count: {c.cameraCount.toNat}, " ++
      s!"preview: {c.preview.described} \x7d)"

/-- A size that may be unknown as part of a structured listing. -/
def sizeDescribed : Option Size → String
  | none => "None"
  | some size => s!"Some({size.described})"

def described (s : Session) : String :=
  s!"CaptureSession \x7b camera: {s.gated.described}, view_gate: {s.view.described}, " ++
    s!"view_size: {sizeDescribed s.viewSize}, " ++
    s!"capabilities: {capabilitiesDescribed s.capabilities}, .. \x7d"

end Session

/-! ### Operations as data -/

inductive SessionOp where
  | resume
  | pause
  | announce (c : Capabilities)
  | layOut (size : Size)
  | provideSurface (surface : UInt64) (degrees : UInt16)
  | orient (orientation : Orientation)
  | capture
  | flip
  | camera (op : CameraOp Photographer)
  | describe

inductive SessionReply where
  | done
  | flipped (facing : Option Facing)
  | camera (reply : CameraReply)
  | text (s : String)
deriving DecidableEq, Repr

/-- Performs an operation.  The rotation of a display comes in degrees and has to be a right
angle. -/
def Session.perform (s : Session) : SessionOp → SessionStep SessionReply
  | .resume => s.resume.map fun _ => .done
  | .pause => s.pause.map fun _ => .done
  | .announce c => (s.announce c).map fun _ => .done
  | .layOut size => (s.layOut size).map fun _ => .done
  | .provideSurface surface degrees =>
    match ScreenRotation.read degrees with
    | .error e => { session := s, answer := .error e }
    | .ok rotation => (s.provideSurface surface rotation).map fun _ => .done
  | .orient orientation => { session := s.orient orientation, answer := .ok .done }
  | .capture => s.capture.map fun _ => .done
  | .flip => s.flip.map .flipped
  | .camera op => (s.operate op).map .camera
  | .describe => { session := s, answer := .ok (.text s.described) }

end CaptureFlow
