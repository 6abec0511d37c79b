import CaptureFlow.Failure
/-! # Cropping captures

The full-resolution picture shows more than the preview did.  `Crop.toSurface` is the centred
region of the picture that has the shape of the preview surface: one side of the picture is kept
whole, and the other is trimmed equally at both ends, up to a pixel. -/

namespace CaptureFlow

/-- A rectangle inside a picture. -/
structure Crop where
  left : UInt32
  top : UInt32
  width : UInt32
  height : UInt32
deriving DecidableEq, Repr

namespace Crop

def size (c : Crop) : Size := ⟨c.width, c.height⟩

/-- The distance between two words. -/
def distance (a b : UInt64) : UInt64 := if a < b then b - a else a - b

/-- The sides of the largest rectangle of the shape `surfW` to `surfH` inside `imgW` by `imgH`,
rounded down. -/
def targetSides (imgW imgH surfW surfH : UInt64) : UInt64 × UInt64 :=
  if imgW * surfH < imgH * surfW then (imgW, imgW * surfH / surfW)
  else (imgH * surfW / surfH, imgH)

/-- The centred region of `image` in the shape of `surface`. -/
def toSurface (image surface : Size) : Except Failure Crop :=
  if image.isEmpty then .error (.emptySize image)
  else if surface.isEmpty then .error (.emptySize surface)
  else
    let (imgW, imgH) := (image.width.toUInt64, image.height.toUInt64)
    let (w, h) := targetSides imgW imgH surface.width.toUInt64 surface.height.toUInt64
    .ok { left := (distance imgW w / 2).toUInt32
          top := (distance imgH h / 2).toUInt32
          width := w.toUInt32
          height := h.toUInt32 }

end Crop

end CaptureFlow
