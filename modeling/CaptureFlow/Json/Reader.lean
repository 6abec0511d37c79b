import CaptureFlow.Json.Basic
import CaptureFlow.Toml.Scalar
/-! # Reading JSON documents

`Json.read?` reads any layout of a JSON value whose numbers are whole: blanks may stand between the
parts, a character of a text may be escaped although it need not be, and a character beyond the
first plane may be spelled as two code units.  A number with a fraction or an exponent is not read.
All members of an object are kept, in their order.

Values nest, so what reads them takes a number that is larger than the length of the text; each
value that is entered uses up one character at least. -/

namespace CaptureFlow.Json

/-! ### Blanks -/

/-- The characters that may stand between the parts of a document. -/
def isBlank (c : Char) : Bool := c == ' ' || c == '\t' || c == '\n' || c == '\r'

def skipBlanks (cs : List Char) : List Char := cs.dropWhile isBlank

/-! ### Texts -/

/-- The character that a letter stands for behind a backslash. -/
def shortEscape? : Char → Option Char
  | '"' => some '"'
  | '\\' => some '\\'
  | '/' => some '/'
  | 'b' => some '\x08'
  | 'f' => some '\x0c'
  | 'n' => some '\n'
  | 'r' => some '\r'
  | 't' => some '\t'
  | _ => none

/-- A code unit of four hexadecimal digits, and what follows it. -/
def readUnit? : List Char → Option (Nat × List Char)
  | a :: b :: c :: d :: rest =>
    if [a, b, c, d].all Toml.isHexDigit then some (Toml.valueOf 16 [a, b, c, d], rest) else none
  | _ => none

/-- The character that is spelled in code units, the first of which is marked already. -/
def readUnits? (cs : List Char) : Option (Char × List Char) := do
  let (unit, rest) ← readUnit? cs
  if 0xD800 ≤ unit ∧ unit < 0xDC00 then
    match rest with
    | '\\' :: 'u' :: rest => do
      let (low, rest) ← readUnit? rest
      if 0xDC00 ≤ low ∧ low < 0xE000 then
        some (Char.ofNat (0x10000 + (unit - 0xD800) * 0x400 + (low - 0xDC00)), rest)
      else none
    | _ => none
  else if 0xDC00 ≤ unit ∧ unit < 0xE000 then none
  else some (Char.ofNat unit, rest)

/-- A character of a text, and what follows it. -/
def readChar? : List Char → Option (Char × List Char)
  | '\\' :: 'u' :: rest => readUnits? rest
  | '\\' :: letter :: rest => (shortEscape? letter).map (·, rest)
  | c :: rest => if c.toNat < 0x20 ∨ c = '"' ∨ c = '\\' then none else some (c, rest)
  | [] => none

/-- The characters of a text up to the quotation mark that ends it, and what follows that; the
number is larger than how many there are. -/
def readChars? : Nat → List Char → Option (List Char × List Char)
  | 0, _ => none
  | _ + 1, '"' :: rest => some ([], rest)
  | more + 1, cs => do
    let (c, rest) ← readChar? cs
    let (others, rest) ← readChars? more rest
    some (c :: others, rest)

/-- A text whose first quotation mark has been read. -/
def readText? (cs : List Char) : Option (String × List Char) := do
  let (chars, rest) ← readChars? cs.length cs
  some (String.ofList chars, rest)

def readKey? (cs : List Char) : Option (String × List Char) :=
  match skipBlanks cs with
  | '"' :: rest => do
    let (key, rest) ← readText? rest
    match skipBlanks rest with
    | ':' :: rest => some (key, rest)
    | _ => none
  | _ => none

/-! ### Numbers -/

/-- What can stand in a number behind its whole part. -/
def continuesNumber (c : Char) : Bool := c == '.' || c == 'e' || c == 'E'

/-- A whole number without a sign and without leading zeros. -/
def readDigits? (cs : List Char) : Option (Nat × List Char) :=
  let digits := cs.takeWhile Char.isDigit
  let rest := cs.dropWhile Char.isDigit
  if digits = [] ∨ (digits.head? = some '0' ∧ 1 < digits.length) ∨
      rest.head?.any continuesNumber then none
  else some (Nat.ofDigitChars 10 digits 0, rest)

/-! ### Values -/

def readScalar? : List Char → Option (Json × List Char)
  | 'n' :: 'u' :: 'l' :: 'l' :: rest => some (.null, rest)
  | 't' :: 'r' :: 'u' :: 'e' :: rest => some (.bool true, rest)
  | 'f' :: 'a' :: 'l' :: 's' :: 'e' :: rest => some (.bool false, rest)
  | '-' :: rest => do
    let (n, rest) ← readDigits? rest
    some (.number (-(n : Int)), rest)
  | cs => do
    let (n, rest) ← readDigits? cs
    some (.number n, rest)

mutual

def readValue? : Nat → List Char → Option (Json × List Char)
  | 0, _ => none
  | more + 1, cs =>
    match skipBlanks cs with
    | '"' :: rest => do
      let (s, rest) ← readText? rest
      some (.text s, rest)
    | '[' :: rest =>
      match skipBlanks rest with
      | ']' :: rest => some (.array [], rest)
      | _ => do
        let (element, rest) ← readValue? more rest
        let (others, rest) ← readElements? more rest
        some (.array (element :: others), rest)
    | '\x7b' :: rest =>
      match skipBlanks rest with
      | '\x7d' :: rest => some (.object [], rest)
      | _ => do
        let (key, rest) ← readKey? rest
        let (value, rest) ← readValue? more rest
        let (others, rest) ← readMembers? more rest
        some (.object ((key, value) :: others), rest)
    | cs => readScalar? cs

/-- The elements of an array after the first, up to the bracket that ends it. -/
def readElements? : Nat → List Char → Option (List Json × List Char)
  | 0, _ => none
  | more + 1, cs =>
    match skipBlanks cs with
    | ']' :: rest => some ([], rest)
    | ',' :: rest => do
      let (element, rest) ← readValue? more rest
      let (others, rest) ← readElements? more rest
      some (element :: others, rest)
    | _ => none

/-- The members of an object after the first, up to the brace that ends it. -/
def readMembers? : Nat → List Char → Option (List (String × Json) × List Char)
  | 0, _ => none
  | more + 1, cs =>
    match skipBlanks cs with
    | '\x7d' :: rest => some ([], rest)
    | ',' :: rest => do
      let (key, rest) ← readKey? rest
      let (value, rest) ← readValue? more rest
      let (others, rest) ← readMembers? more rest
      some ((key, value) :: others, rest)
    | _ => none

end

/-- The value of a document, on which nothing but blanks follows. -/
def read? (document : String) : Option Json := do
  let (value, rest) ← readValue? (document.length + 1) document.toList
  if (skipBlanks rest).isEmpty then some value else none

end CaptureFlow.Json
