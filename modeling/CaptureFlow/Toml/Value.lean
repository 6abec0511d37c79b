/-! # TOML values

What a TOML document says, without how it is laid out.  Floating-point numbers and moments keep
their spelling, and so does a word that is laid out as a number but is none. -/

namespace CaptureFlow.Toml

/-- A TOML value; the entries of a table have distinct keys. -/
inductive Value where
  | text (s : String)
  | integer (n : Int)
  | float (spelling : String)
  | boolean (b : Bool)
  | moment (spelling : String)
  | unreadable (spelling : String)
  | array (elements : List Value)
  | table (entries : List (String × Value))
deriving Inhabited

def lookup (key : String) (entries : List (String × Value)) : Option Value :=
  (entries.find? fun entry => entry.1 = key).map (·.2)

end CaptureFlow.Toml
