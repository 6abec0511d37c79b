import CaptureFlow.Preference.Value
import CaptureFlow.Preference.Varint
/-! # The stored form of preferences

A stored preference is a `Header` of four magic bytes and a version byte, followed by a payload:
the index of the kind, and then a byte for a flag, a folded varint for a number, or the length and
the UTF-8 bytes of a text.  `Preference.encode` refuses what would be longer than
`maxStoredSize`.  `Preference.decode` checks the length and the header before it looks at the
payload, and ignores bytes after the value. -/

namespace CaptureFlow

/-! ### Headers -/

/-- The bytes in front of every payload. -/
structure Header where
  magic : Bytes
  version : UInt8
deriving DecidableEq, Repr

namespace Header

def magicBytes : Bytes := [0x53, 0x47, 0x50, 0x56]

def current : Header := ⟨magicBytes, formatVersion⟩

def toBytes (h : Header) : Bytes := h.magic ++ [h.version]

def ofBytes : Bytes → Except Failure Header
  | a :: b :: c :: d :: version :: _ => .ok ⟨[a, b, c, d], version⟩
  | _ => .error (.encoding .headerTooShort)

/-- Checks the magic bytes, then the version. -/
def validate (h : Header) : Except Failure Unit :=
  if h.magic ≠ magicBytes then .error (.encoding .badMagic)
  else if h.version ≠ formatVersion then .error (.encoding (.badVersion h.version))
  else .ok ()

end Header

/-! ### Texts as bytes -/

def textBytes (s : String) : Bytes := s.toByteArray.data.toList

/-- The text of UTF-8 bytes. -/
def textOfBytes? (bytes : Bytes) : Option String := String.fromUTF8? ⟨bytes.toArray⟩

/-! ### Values -/

namespace Preference

def payload : Preference → Bytes
  | .flag b => Varint.write 0 ++ [if b then 1 else 0]
  | .number n => Varint.write 1 ++ Varint.write (Varint.fold n.toInt)
  | .text s => Varint.write 2 ++ Varint.write (textBytes s).length ++ textBytes s

/-- The stored form of a value. -/
def encode (p : Preference) : Except Failure Bytes :=
  let bytes := Header.current.toBytes ++ p.payload
  if maxStoredSize < bytes.length then .error (.encoding (.valueTooLarge bytes.length))
  else .ok bytes

def readFlag : Bytes → Except PayloadFault Preference
  | [] => .error .endOfData
  | b :: _ =>
    if b = 0 then .ok (.flag false) else if b = 1 then .ok (.flag true) else .error .badBool

def readNumber (bytes : Bytes) : Except PayloadFault Preference :=
  match Varint.read Varint.word64 bytes with
  | .error e => .error e
  | .ok (n, _) => .ok (.number (Int64.ofInt (Varint.unfold n)))

def readText (bytes : Bytes) : Except PayloadFault Preference :=
  match Varint.read Varint.word64 bytes with
  | .error e => .error e
  | .ok (size, rest) =>
    if rest.length < size then .error .endOfData
    else
      match textOfBytes? (rest.take size) with
      | some s => .ok (.text s)
      | none => .error .badText

/-- The value that a payload begins with. -/
def readPayload (bytes : Bytes) : Except PayloadFault Preference :=
  match Varint.read Varint.word32 bytes with
  | .error e => .error e
  | .ok (0, rest) => readFlag rest
  | .ok (1, rest) => readNumber rest
  | .ok (2, rest) => readText rest
  | .ok _ => .error .badVariant

/-- The value of a stored form. -/
def decode (bytes : Bytes) : Except Failure Preference :=
  if bytes.length < headerLength then .error (.encoding .dataTooShort)
  else if maxStoredSize < bytes.length then .error (.encoding (.dataTooLarge bytes.length))
  else
    match Header.ofBytes bytes with
    | .error e => .error e
    | .ok header =>
      match header.validate with
      | .error e => .error e
      | .ok () =>
        match readPayload (bytes.drop headerLength) with
        | .ok p => .ok p
        | .error e => .error (.encoding (.badPayload e))

end Preference

end CaptureFlow
