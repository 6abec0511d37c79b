import CaptureFlow.Failure
/-! # Preview scaling

A preview stream fills a view of another shape.  `PreviewTransform.compute` chooses the axis to
stretch so that the picture keeps its shape: when the camera's width is relatively larger than
the view's, the horizontal one, otherwise the vertical one.  Scales are whole millionths
(`Scale`), and sizes are compared by multiplying crosswise in 64-bit words. -/

namespace CaptureFlow

/-- The number of millionths in a whole. -/
def scaleOne : UInt64 := 1000000

/-- The product, or the largest word where it does not fit. -/
def saturatingMul (a b : UInt64) : UInt64 :=
  UInt64.ofNat (min (a.toNat * b.toNat) (UInt64.size - 1))

/-- A scale in millionths. -/
structure Scale where
  millionths : UInt64
deriving DecidableEq, Repr

namespace Scale

/-- The scale that changes nothing. -/
def identity : Scale := ⟨scaleOne⟩

/-- `numerator / denominator`, rounded down to a millionth; a zero denominator gives none.  A
numerator beyond the range of millionths counts as the largest word of them. -/
def ratio? (numerator denominator : UInt64) : Option Scale :=
  if denominator = 0 then none else some ⟨saturatingMul numerator scaleOne / denominator⟩

/-- The scale as a decimal with six places. -/
def shown (s : Scale) : String :=
  let places := (s.millionths % scaleOne).toNat.repr
  s!"{(s.millionths / scaleOne).toNat}." ++ "".pushn '0' (6 - places.length) ++ places

end Scale

/-- The scales of the two axes. -/
structure PreviewTransform where
  scaleX : Scale := .identity
  scaleY : Scale := .identity
deriving DecidableEq, Repr

namespace PreviewTransform

def isIdentity (t : PreviewTransform) : Bool :=
  t.scaleX == Scale.identity && t.scaleY == Scale.identity

/-- The camera's width and height on the display: the width is the short side of the preview
when the display is held upright, and the long side otherwise. -/
def cameraSides (preview : Size) : Orientation → UInt64 × UInt64
  | .portrait => (preview.short.toUInt64, preview.long.toUInt64)
  | .landscape => (preview.long.toUInt64, preview.short.toUInt64)

/-- The transform for a camera streaming at `preview` into a view of size `view`. -/
def compute (preview view : Size) (orientation : Orientation) :
    Except Failure PreviewTransform :=
  if preview.isEmpty then .error (.emptySize preview)
  else if view.isEmpty then .error (.emptySize view)
  else
    let (camW, camH) := cameraSides preview orientation
    let (viewW, viewH) := (view.width.toUInt64, view.height.toUInt64)
    if camH * viewW < camW * viewH then
      match Scale.ratio? camW viewW with
      | some s => .ok { scaleX := s }
      | none => .error (.emptySize view)
    else
      match Scale.ratio? camH viewH with
      | some s => .ok { scaleY := s }
      | none => .error (.emptySize view)

end PreviewTransform

end CaptureFlow
