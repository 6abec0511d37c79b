import CaptureFlow.Geometry.Size
/-! # Rotation and size selection

Which way to turn the picture of a sensor so that it stands upright on the display
(`cameraRotation`), and which of the offered preview sizes to stream at (`largest?`). -/

namespace CaptureFlow

/-- The clockwise rotation, in degrees, of a camera's picture on a screen turned by `screen`.
The picture of a front camera is mirrored, so its rotation runs the other way. -/
def cameraRotation (sensor : UInt16) (facing : Facing) (screen : ScreenRotation) : UInt16 :=
  let mount := sensor % 360
  match facing with
  | .front => (360 - (mount + screen.degrees) % 360) % 360
  | .back => (mount + 360 - screen.degrees) % 360

/-- The size with the most pixels; of several the first. -/
def largest? : List Size → Option Size
  | [] => none
  | s :: rest => some (rest.foldl (fun best t => if best.area < t.area then t else best) s)

end CaptureFlow
