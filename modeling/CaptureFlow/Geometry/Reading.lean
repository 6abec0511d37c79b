import CaptureFlow.Failure
import CaptureFlow.Text.Blank
/-! # Reading sizes and directions

The written forms that users type: `1920x1080` for a size, in which either letter case separates
the sides and blanks around a side are skipped, and the names of orientations and cameras in
any ASCII letter case. -/

namespace CaptureFlow

def splitAtCross (cs : List Char) : Option (List Char × List Char) :=
  let isCross := fun c => c == 'x' || c == 'X'
  match cs.dropWhile fun c => !isCross c with
  | [] => none
  | _ :: rest => some (cs.takeWhile (fun c => !isCross c), rest)

/-- One side of a size, in which surrounding blanks do not count. -/
def readSide (cs : List Char) : Except Text.NumeralFault UInt32 :=
  UInt32.ofNat <$> Text.readNat (UInt32.size - 1) (Text.trim cs)

/-- The size written `WxH`; a faulty width is reported before a faulty height. -/
def Size.read (s : String) : Except Failure Size :=
  match splitAtCross s.toList with
  | none => .error (.argument (.noSeparator s))
  | some (w, h) =>
    match readSide w with
    | .error e => .error (.argument (.badWidth (String.ofList w) e))
    | .ok width =>
      match readSide h with
      | .error e => .error (.argument (.badHeight (String.ofList h) e))
      | .ok height => .ok ⟨width, height⟩

def Orientation.read (name : String) : Except Failure Orientation :=
  match Orientation.ofName? name.toLower with
  | some o => .ok o
  | none => .error (.argument (.unknownOrientation name.toLower))

def Facing.read (name : String) : Except Failure Facing :=
  match Facing.ofName? name.toLower with
  | some f => .ok f
  | none => .error (.argument (.unknownFacing name.toLower))

/-- The screen rotation of an angle; only right angles are accepted. -/
def ScreenRotation.read (degrees : UInt16) : Except Failure ScreenRotation :=
  match ScreenRotation.ofDegrees? degrees with
  | some r => .ok r
  | none => .error (.argument (.badRotation degrees))

theorem ScreenRotation.read_degrees (r : ScreenRotation) : read r.degrees = .ok r := by
  rw [read, ofDegrees?_degrees]

theorem ScreenRotation.read_error {degrees : UInt16} {cause : Failure}
    (refused : read degrees = .error cause) : degrees ∉ [0, 90, 180, 270] := by
  intro right
  simp only [List.mem_cons, List.not_mem_nil, or_false] at right
  rcases right with rfl | rfl | rfl | rfl <;> cases refused

end CaptureFlow
