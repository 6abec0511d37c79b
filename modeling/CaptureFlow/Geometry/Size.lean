/-! # Sizes and directions

The small vocabulary of the capture flow: the `Size` of a picture, a preview or a view, the
`Orientation` and the `ScreenRotation` of the display, and the `Facing` of a camera. -/

namespace CaptureFlow

/-! ### Sizes -/

/-- Width and height in pixels. -/
structure Size where
  width : UInt32
  height : UInt32
deriving DecidableEq, Repr, Inhabited

namespace Size

/-- The number of pixels, in a word wide enough for every size. -/
def area (s : Size) : UInt64 := s.width.toUInt64 * s.height.toUInt64

/-- Whether a side is zero. -/
def isEmpty (s : Size) : Bool := s.width == 0 || s.height == 0

def short (s : Size) : UInt32 := min s.width s.height

def long (s : Size) : UInt32 := max s.width s.height

/-- `1920x1080`, say. -/
def shown (s : Size) : String := s!"{s.width.toNat}x{s.height.toNat}"

def described (s : Size) : String :=
  s!"Dimensions \x7b width: {s.width.toNat}, height: {s.height.toNat} \x7d"

end Size

/-! ### The display -/

/-- How the display is held. -/
inductive Orientation where
  | portrait
  | landscape
deriving DecidableEq, Repr, Inhabited

def Orientation.name : Orientation → String
  | .portrait => "portrait"
  | .landscape => "landscape"

def Orientation.ofName? : String → Option Orientation
  | "portrait" => some .portrait
  | "landscape" => some .landscape
  | _ => none

def Orientation.described : Orientation → String
  | .portrait => "Portrait"
  | .landscape => "Landscape"

/-- How far the display is turned from its natural orientation. -/
inductive ScreenRotation where
  | upright
  | quarter
  | half
  | threeQuarters
deriving DecidableEq, Repr, Inhabited

namespace ScreenRotation

def degrees : ScreenRotation → UInt16
  | .upright => 0
  | .quarter => 90
  | .half => 180
  | .threeQuarters => 270

/-- The rotation of a right angle; other angles have none. -/
def ofDegrees? (d : UInt16) : Option ScreenRotation :=
  if d = 0 then some .upright
  else if d = 90 then some .quarter
  else if d = 180 then some .half
  else if d = 270 then some .threeQuarters
  else none

theorem ofDegrees?_degrees (r : ScreenRotation) : ofDegrees? r.degrees = some r := by
  cases r <;> rfl

end ScreenRotation

/-! ### Cameras -/

/-- Which way a camera looks. -/
inductive Facing where
  | back
  | front
deriving DecidableEq, Repr, Inhabited

namespace Facing

def flipped : Facing → Facing
  | .back => .front
  | .front => .back

/-- The number under which the camera is remembered. -/
def id : Facing → Int64
  | .back => 0
  | .front => 1

def ofId? (n : Int64) : Option Facing :=
  if n = 0 then some .back else if n = 1 then some .front else none

theorem ofId?_id (f : Facing) : ofId? f.id = some f := by cases f <;> rfl

def name : Facing → String
  | .back => "back"
  | .front => "front"

def ofName? : String → Option Facing
  | "back" => some .back
  | "front" => some .front
  | _ => none

end Facing

/-- What is announced once a camera is open: how many cameras there are and the size at which
the preview will stream. -/
structure Capabilities where
  cameraCount : UInt64
  preview : Size
deriving DecidableEq, Repr

/-- Flipping needs a second camera. -/
def Capabilities.canFlip (c : Capabilities) : Bool := 1 < c.cameraCount

end CaptureFlow
