import CaptureFlow.Text.Numeral
import CaptureFlow.Text.Quoted
/-! # JSON documents

The values of JSON, with whole numbers only and with the members of an object in the order in
which they were put, and their layout over several lines: two spaces for each level, one element
or member a line, and `[]` and `{}` for what is empty. -/

namespace CaptureFlow

inductive Json where
  | null
  | bool (b : Bool)
  | number (n : Int)
  | text (s : String)
  | array (elements : List Json)
  | object (members : List (String × Json))

namespace Json

/-! ### Leaves -/

/-- A natural number as a JSON number. -/
def ofNat (n : Nat) : Json := .number n

def ofOption {α : Type} (f : α → Json) : Option α → Json
  | none => .null
  | some a => f a

/-- `c` as it stands between quotation marks: control characters, the quotation mark and the
backslash are escaped, everything else stands for itself. -/
def escapeChar (c : Char) : List Char :=
  match c with
  | '"' => ['\\', '"']
  | '\\' => ['\\', '\\']
  | '\x08' => ['\\', 'b']
  | '\x0c' => ['\\', 'f']
  | '\n' => ['\\', 'n']
  | '\r' => ['\\', 'r']
  | '\t' => ['\\', 't']
  | _ =>
    if c.toNat < 0x20 then
      ['\\', 'u', '0', '0', Nat.digitChar (c.toNat / 16), Nat.digitChar (c.toNat % 16)]
    else [c]

def quoted (s : String) : List Char := '"' :: s.toList.flatMap escapeChar ++ ['"']

def numeral (n : Int) : List Char :=
  match n with
  | .ofNat n => Nat.toDigits 10 n
  | .negSucc n => '-' :: Nat.toDigits 10 (n + 1)

/-! ### Layout -/

def newLine (level : Nat) : List Char := '\n' :: List.replicate (2 * level) ' '

mutual

/-- The layout of a value whose surroundings stand at `level`. -/
def layout (level : Nat) : Json → List Char
  | .null => ['n', 'u', 'l', 'l']
  | .bool true => ['t', 'r', 'u', 'e']
  | .bool false => ['f', 'a', 'l', 's', 'e']
  | .number n => numeral n
  | .text s => quoted s
  | .array [] => ['[', ']']
  | .array (element :: rest) =>
    '[' :: newLine (level + 1) ++ layout (level + 1) element ++ layoutElements (level + 1) rest ++
      newLine level ++ [']']
  | .object [] => ['\x7b', '\x7d']
  | .object ((key, value) :: rest) =>
    '\x7b' :: newLine (level + 1) ++ quoted key ++ [':', ' '] ++ layout (level + 1) value ++
      layoutMembers (level + 1) rest ++ newLine level ++ ['\x7d']

/-- The layout of all elements of an array but the first. -/
def layoutElements (level : Nat) : List Json → List Char
  | [] => []
  | element :: rest =>
    ',' :: newLine level ++ layout level element ++ layoutElements level rest

/-- The layout of all members of an object but the first. -/
def layoutMembers (level : Nat) : List (String × Json) → List Char
  | [] => []
  | (key, value) :: rest =>
    ',' :: newLine level ++ quoted key ++ [':', ' '] ++ layout level value ++
      layoutMembers level rest

end

/-- The document of a value. -/
def pretty (value : Json) : String := String.ofList (value.layout 0)

end Json

end CaptureFlow
