import CaptureFlow.Failure
/-! # Preference values

A `Preference` is a flag, a 64-bit number or a text.  The command line names these kinds, and
`Preference.read` is the inverse of `Preference.kind` and `Preference.shown` together. -/

namespace CaptureFlow

/-- A single configuration value. -/
inductive Preference where
  | flag (b : Bool)
  | number (n : Int64)
  | text (s : String)
deriving DecidableEq, Repr

namespace Preference

def kind : Preference → String
  | .flag _ => "bool"
  | .number _ => "int"
  | .text _ => "text"

def shown : Preference → String
  | .flag true => "true"
  | .flag false => "false"
  | .number n => toString n.toInt
  | .text s => s

/-- The flag of a word; letter case counts. -/
def flagOf? : String → Option Bool
  | "true" => some true
  | "false" => some false
  | _ => none

/-- The value of the kind named `kind` that `raw` writes. -/
def read (kind raw : String) : Except Failure Preference :=
  match kind with
  | "bool" =>
    match flagOf? raw with
    | some b => .ok (.flag b)
    | none => .error (.argument (.badBool raw))
  | "int" =>
    match Text.readInt (UInt64.size / 2) (UInt64.size / 2 - 1) raw.toList with
    | .ok n => .ok (.number (Int64.ofInt n))
    | .error e => .error (.argument (.badInt raw e))
  | "text" => .ok (.text raw)
  | other => .error (.argument (.unknownKind other))

end Preference

end CaptureFlow
