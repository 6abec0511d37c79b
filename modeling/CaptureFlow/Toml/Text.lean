import CaptureFlow.Toml.Scalar
/-! # Texts

The four kinds of quoted text in TOML: on one line or over several, with escapes (between
double quotation marks) or without (between apostrophes).  The readers begin behind the opening
marks and give the text with what follows the closing marks. -/

namespace CaptureFlow.Toml

/-- A reader takes something from the front of a text and gives it with the rest. -/
abbrev Reader (α : Type) := List Char → Option (α × List Char)

/-- Characters that may stand in comments and in quoted texts: all but control characters, of
which only the tabulator is allowed. -/
def isTextChar (c : Char) : Bool := c == '\t' || (0x20 ≤ c.toNat && c.toNat != 0x7f)

/-! ### Escapes -/

/-- The character that hexadecimal digits name. -/
def charOfHex? (digits : List Char) : Option Char :=
  let n := valueOf 16 digits
  if h : n.isValidChar then
    if digits.all isHexDigit then some (Char.ofNatAux n h) else none
  else none

/-- The character that a single letter stands for behind a backslash. -/
def shortEscape? (c : Char) : Option Char :=
  match c with
  | 'b' => some '\x08'
  | 't' => some '\t'
  | 'n' => some '\n'
  | 'f' => some '\x0c'
  | 'r' => some '\r'
  | 'e' => some '\x1b'
  | '"' => some '"'
  | '\\' => some '\\'
  | _ => none

/-- The character of the escape whose backslash stands in front of the text, and how many
characters of the text belong to it. -/
def escape? : List Char → Option (Char × Nat)
  | 'x' :: rest => long 2 rest
  | 'u' :: rest => long 4 rest
  | 'U' :: rest => long 8 rest
  | c :: _ => (shortEscape? c).map fun e => (e, 1)
  | [] => none
where
  /-- An escape with a fixed number of hexadecimal digits. -/
  long (count : Nat) (rest : List Char) : Option (Char × Nat) :=
    let digits := rest.take count
    if digits.length = count then (charOfHex? digits).map fun c => (c, count + 1) else none

/-! ### One line -/

/-- The rest of a text on one line, up to the closing `mark`; `skip` characters have been dealt
with, and `acc` has what was read, the latest first. -/
def lineText (mark : Char) (escapes : Bool) : Nat → List Char → Reader String
  | _, _, [] => none
  | skip + 1, acc, _ :: rest => lineText mark escapes skip acc rest
  | 0, acc, c :: rest =>
    if c == mark then some (String.ofList acc.reverse, rest)
    else if escapes && c == '\\' then
      match escape? rest with
      | some (e, length) => lineText mark escapes length (e :: acc) rest
      | none => none
    else if isTextChar c then lineText mark escapes 0 (c :: acc) rest
    else none

/-! ### Several lines -/

/-- The text without a line break at its front. -/
def dropNewLine : List Char → List Char
  | '\n' :: rest => rest
  | '\r' :: '\n' :: rest => rest
  | cs => cs

/-- How many blanks and line breaks stand at the front. -/
def blankLength : List Char → Nat
  | ' ' :: rest => blankLength rest + 1
  | '\t' :: rest => blankLength rest + 1
  | '\n' :: rest => blankLength rest + 1
  | '\r' :: '\n' :: rest => blankLength rest + 2
  | _ => 0

/-- How much to leave out behind a backslash that ends its line. -/
def lineEnd? (cs : List Char) : Option Nat :=
  match cs.dropWhile fun c => c == ' ' || c == '\t' with
  | '\n' :: _ => some (blankLength cs)
  | '\r' :: '\n' :: _ => some (blankLength cs)
  | _ => none

/-- The rest of a text over several lines, up to three times the closing `mark`; one or two more
of them belong to the text. -/
def blockText (mark : Char) (escapes : Bool) : Nat → List Char → Reader String
  | _, _, [] => none
  | skip + 1, acc, _ :: rest => blockText mark escapes skip acc rest
  | 0, acc, c :: rest =>
    if c == mark then
      let more := ((rest.take 4).takeWhile (· == mark)).length
      if 2 ≤ more then
        some (String.ofList (List.replicate (more - 2) mark ++ acc).reverse, rest.drop more)
      else blockText mark escapes 0 (c :: acc) rest
    else if escapes && c == '\\' then
      match lineEnd? rest with
      | some length => blockText mark escapes length acc rest
      | none =>
        match escape? rest with
        | some (e, length) => blockText mark escapes length (e :: acc) rest
        | none => none
    else if isTextChar c || c == '\n' || (c == '\r' && rest.head? == some '\n') then
      blockText mark escapes 0 (c :: acc) rest
    else none

/-! ### All kinds -/

/-- The text that begins here with its opening marks. -/
def readText (cs : List Char) : Option (Value × List Char) :=
  let read : Option (String × List Char) :=
    match cs with
    | '"' :: '"' :: '"' :: rest => blockText '"' true 0 [] (dropNewLine rest)
    | '"' :: rest => lineText '"' true 0 [] rest
    | '\'' :: '\'' :: '\'' :: rest => blockText '\'' false 0 [] (dropNewLine rest)
    | '\'' :: rest => lineText '\'' false 0 [] rest
    | _ => none
  read.map fun (s, rest) => (.text s, rest)

end CaptureFlow.Toml
