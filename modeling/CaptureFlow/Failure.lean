import CaptureFlow.Geometry.Size
import CaptureFlow.Text.Numeral
import CaptureFlow.Text.Quoted
/-! # Failures

Everything that can go wrong in the capture flow, by cause.  `Failure.message` is the one place
where a cause gets its wording, and `Failure.kind` sorts the causes into the classes that callers
tell apart. -/

namespace CaptureFlow

/-! ### Causes -/

/-- Why a camera cannot be used. -/
inductive CameraFault where
  | noCameras
  | noFrontCamera
  | alreadyOpen (current : Facing)
  | notOpen
  | notPreviewing
  | noPreviewSizes (facing : Facing)
deriving DecidableEq, Repr

/-- A call that a device or a store can be told to refuse. -/
inductive Refusable where
  | openCamera
  | startPreview
  | setRotation
  | takePicture
  | get
  | set
deriving DecidableEq, Repr

/-- Why the payload of a stored value cannot be read. -/
inductive PayloadFault where
  | endOfData
  | endlessVarint
  | badBool
  | badText
  | badVariant
deriving DecidableEq, Repr

/-- Why bytes and values, or texts and scripts, do not correspond. -/
inductive EncodingFault where
  | valueTooLarge (total : Nat)
  | dataTooShort
  | dataTooLarge (size : Nat)
  | headerTooShort
  | badMagic
  | badVersion (version : UInt8)
  | badPayload (fault : PayloadFault)
  | scriptTooLarge (size : Nat)
  | badScript
deriving DecidableEq, Repr

/-- What the operating system reports about a path. -/
inductive PathFault where
  | notFound
  | isDirectory
  | notDirectory
  | nameTooLong
  | containsNul
  | other (report : String)
deriving DecidableEq, Repr

/-- Why a script file cannot be read as text. -/
inductive ReadFault where
  | path (fault : PathFault)
  | notText
deriving DecidableEq, Repr

/-- Why the preference database cannot be opened. -/
inductive DatabaseFault where
  | path (fault : PathFault)
  | badMagic
deriving DecidableEq, Repr

/-- Why input or output fails. -/
inductive TransferFault where
  | previewRejected
  | refused (call : Refusable)
  | unreadable (path : String) (fault : ReadFault)
  | database (fault : DatabaseFault)
deriving DecidableEq, Repr

inductive ArgumentFault where
  | noSeparator (text : String)
  | badWidth (text : String) (fault : Text.NumeralFault)
  | badHeight (text : String) (fault : Text.NumeralFault)
  | badRotation (degrees : UInt16)
  | unknownOrientation (name : String)
  | unknownFacing (name : String)
  | badBool (text : String)
  | badInt (text : String) (fault : Text.NumeralFault)
  | unknownKind (kind : String)
  | viewSizeUnknown
deriving DecidableEq, Repr

/-- Everything that can go wrong. -/
inductive Failure where
  | noStages
  | unknownStage (shown : String)
  | emptySize (size : Size)
  | camera (fault : CameraFault)
  | badKey (key : String)
  | encoding (fault : EncodingFault)
  | transfer (fault : TransferFault)
  | argument (fault : ArgumentFault)
deriving DecidableEq, Repr

/-! ### Limits that messages name -/

def formatVersion : UInt8 := 1

def headerLength : Nat := 5

/-- The largest stored form of a preference, in bytes. -/
def maxStoredSize : Nat := 64 * 1024

def maxScriptSize : Nat := 1024 * 1024

/-! ### Wording -/

def CameraFault.message : CameraFault → String
  | .noCameras => "no cameras present"
  | .noFrontCamera => "device has no front camera"
  | .alreadyOpen current => s!"{current.name} camera is already open"
  | .notOpen => "camera is not open"
  | .notPreviewing => "preview is not running"
  | .noPreviewSizes facing => s!"{facing.name} camera reports no preview sizes"

def Refusable.name : Refusable → String
  | .openCamera => "open"
  | .startPreview => "start_preview"
  | .setRotation => "set_rotation"
  | .takePicture => "take_picture"
  | .get => "get"
  | .set => "set"

def PayloadFault.message : PayloadFault → String
  | .endOfData => "Hit the end of buffer, expected more data"
  | .endlessVarint =>
    "Found a varint that didn't terminate. Is the usize too big for this platform?"
  | .badBool => "Found a bool that wasn't 0 or 1"
  | .badText => "Tried to parse invalid utf-8"
  | .badVariant => "Serde Deserialization Error"

def EncodingFault.message : EncodingFault → String
  | .valueTooLarge total =>
    s!"Encoded value of {total} bytes exceeds maximum {maxStoredSize} bytes"
  | .dataTooShort => s!"Data too short: minimum {headerLength} bytes required"
  | .dataTooLarge size =>
    s!"Data size {size} bytes exceeds maximum allowed {maxStoredSize} bytes"
  | .headerTooShort => "Header too short"
  | .badMagic => "Invalid magic bytes"
  | .badVersion version =>
    s!"Unsupported version: {version.toNat} (expected {formatVersion.toNat})"
  | .badPayload fault => s!"Failed to decode preference value: {fault.message}"
  | .scriptTooLarge size =>
    s!"Script size {size} bytes exceeds maximum allowed {maxScriptSize} bytes"
  | .badScript => "Invalid simulation script"

def PathFault.message : PathFault → String
  | .notFound => "No such file or directory (os error 2)"
  | .isDirectory => "Is a directory (os error 21)"
  | .notDirectory => "Not a directory (os error 20)"
  | .nameTooLong => "File name too long (os error 36)"
  | .containsNul => "file name contained an unexpected NUL byte"
  | .other report => report

def ReadFault.message : ReadFault → String
  | .path fault => fault.message
  | .notText => "stream did not contain valid UTF-8"

def DatabaseFault.message : DatabaseFault → String
  | .path fault => s!"I/O error: {fault.message}"
  | .badMagic => "I/O error: Not a redb database: magic number mismatch"

def TransferFault.message : TransferFault → String
  | .previewRejected => "preview surface rejected"
  | .refused call => s!"{call.name} refused"
  | .unreadable path fault => s!"Cannot read {path}: {fault.message}"
  | .database fault => fault.message

def ArgumentFault.message : ArgumentFault → String
  | .noSeparator text => s!"expected WxH, got '{text}'"
  | .badWidth text fault => s!"bad width '{text}': {fault.message}"
  | .badHeight text fault => s!"bad height '{text}': {fault.message}"
  | .badRotation degrees =>
    s!"screen rotation must be 0, 90, 180 or 270 (got {degrees.toNat})"
  | .unknownOrientation name =>
    s!"unknown orientation '{name}' (expected portrait or landscape)"
  | .unknownFacing name => s!"unknown camera facing '{name}' (expected back or front)"
  | .badBool text => s!"bad bool '{text}': provided string was not `true` or `false`"
  | .badInt text fault => s!"bad int '{text}': {fault.message}"
  | .unknownKind kind => s!"unknown value kind '{kind}' (expected bool, int or text)"
  | .viewSizeUnknown => "view size unknown at capture"

def Failure.message : Failure → String
  | .noStages => "Stage gate requires at least one stage"
  | .unknownStage shown => s!"Unknown stage: {shown}"
  | .emptySize size => s!"Invalid dimensions: {size.shown}"
  | .camera fault => s!"Camera unavailable: {fault.message}"
  | .badKey key => s!"Invalid preference key: {Text.quote key}"
  | .encoding fault => s!"Serialization error: {fault.message}"
  | .transfer fault => s!"I/O error: {fault.message}"
  | .argument fault => s!"Invalid argument: {fault.message}"

/-! ### Classes -/

/-- The classes of failures that callers tell apart. -/
inductive Failure.Kind where
  | emptyStageSet
  | unknownStage
  | invalidDimensions
  | cameraUnavailable
  | invalidKey
  | serialization
  | transfer
  | invalidArgument
  | invalidScript
deriving DecidableEq, Repr

def Failure.kind : Failure → Failure.Kind
  | .noStages => .emptyStageSet
  | .unknownStage _ => .unknownStage
  | .emptySize _ => .invalidDimensions
  | .camera _ => .cameraUnavailable
  | .badKey _ => .invalidKey
  | .encoding .badScript => .invalidScript
  | .encoding _ => .serialization
  | .transfer _ => .transfer
  | .argument _ => .invalidArgument

end CaptureFlow
