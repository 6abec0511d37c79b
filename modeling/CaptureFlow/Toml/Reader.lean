import CaptureFlow.Toml.Assembly
import CaptureFlow.Toml.Text
/-! # Reading TOML

`read?` gives the table that a text in TOML 1.1 describes, or nothing if it describes none.
Arrays and inline tables may be nested `nestingLimit` deep, and a key may have as many parts.

Every loop takes a number of rounds that the length of the text bounds, because each round takes
at least one character away. -/

namespace CaptureFlow.Toml

/-- How deep arrays and inline tables may be nested, and how many parts a key may have. -/
def nestingLimit : Nat := 80

/-! ### Between the words -/

def skipBlanks (cs : List Char) : List Char := cs.dropWhile fun c => c == ' ' || c == '\t'

/-- The text without blanks, line breaks and comments at its front; nothing if a comment holds a
control character. -/
def skipFiller (inComment : Bool) : List Char → Option (List Char)
  | [] => some []
  | '\n' :: rest => skipFiller false rest
  | '\r' :: '\n' :: rest => skipFiller false rest
  | c :: rest =>
    if inComment then if isTextChar c then skipFiller true rest else none
    else if c == ' ' || c == '\t' then skipFiller false rest
    else if c == '#' then skipFiller true rest
    else some (c :: rest)

/-- What follows the end of this line, on which only blanks and a comment may stand. -/
def endLine (cs : List Char) : Option (List Char) :=
  let cs := skipBlanks cs
  let cs :=
    match cs with
    | '#' :: rest => rest.dropWhile isTextChar
    | _ => cs
  match cs with
  | [] => some []
  | '\n' :: rest => some rest
  | '\r' :: '\n' :: rest => some rest
  | _ => none

/-! ### Keys -/

/-- A character of a key without quotation marks. -/
def isBareKeyChar (c : Char) : Bool := c.isAlphanum || c == '_' || c == '-'

def readKeyPart : Reader String
  | '"' :: rest => lineText '"' true 0 [] rest
  | '\'' :: rest => lineText '\'' false 0 [] rest
  | cs =>
    let (part, rest) := cs.span isBareKeyChar
    if part.isEmpty then none else some (String.ofList part, rest)

/-- The remaining parts of a key, with blanks around them. -/
def readKeyParts : Nat → List String → Reader (List String)
  | 0, _, _ => none
  | rounds + 1, acc, cs => do
    let (part, rest) ← readKeyPart (skipBlanks cs)
    match skipBlanks rest with
    | '.' :: rest => readKeyParts rounds (part :: acc) rest
    | rest => return ((part :: acc).reverse, rest)

def readKey (rounds : Nat) : Reader (List String) := fun cs => do
  let (path, rest) ← readKeyParts rounds [] cs
  guard (path.length ≤ nestingLimit)
  return (path, rest)

/-- A key and the value assigned to it; `skip` takes away what may stand on either side of the
equals sign. -/
def readAssignment (rounds : Nat) (skip : List Char → Option (List Char)) (value : Reader Value) :
    Reader Assignment := fun cs => do
  let (path, rest) ← readKey rounds cs
  let rest ← expect '=' (← skip rest)
  let (v, rest) ← value (← skip rest)
  return ((path, v), rest)

/-! ### Values -/

/-- The characters at which a scalar without quotation marks ends: line breaks, and the signs that
have a meaning of their own. -/
def scalarEnds : List Char := ['=', ',', '[', ']', '\x7b', '\x7d', '#', '\r', '\n']

/-- A scalar without quotation marks, and what follows it.  Blanks belong to it if more of it comes
behind them, which a quotation mark does not begin.  `blanks` are those just passed, and `acc` has
what was read before them, both with the latest first. -/
def splitScalar (blanks acc : List Char) : List Char → List Char × List Char
  | [] => (acc.reverse, blanks.reverse)
  | c :: rest =>
    if c == ' ' || c == '\t' then splitScalar (c :: blanks) acc rest
    else if scalarEnds.contains c || (!blanks.isEmpty && (c == '"' || c == '\'')) then
      (acc.reverse, blanks.reverse ++ c :: rest)
    else splitScalar [] (c :: (blanks ++ acc)) rest

def readScalar : Reader Value := fun cs =>
  let (word, rest) := splitScalar [] [] cs
  (scalar? word).map fun v => (v, rest)

/-- What stands between brackets: items with commas between them, and perhaps one behind the last;
`close` is the closing bracket. -/
def readItems {α : Type} (close : Char) (item : Reader α) : Nat → List α → Reader (List α)
  | 0, _, _ => none
  | rounds + 1, acc, cs => do
    match ← skipFiller false cs with
    | [] => none
    | c :: rest =>
      if c == close then return (acc.reverse, rest)
      else
        let (a, rest) ← item (c :: rest)
        match ← skipFiller false rest with
        | ',' :: rest => readItems close item rounds (a :: acc) rest
        | d :: rest => if d == close then return ((a :: acc).reverse, rest) else none
        | [] => none

/-- A quoted text or a scalar. -/
def readLeaf : Reader Value
  | '"' :: rest => readText ('"' :: rest)
  | '\'' :: rest => readText ('\'' :: rest)
  | cs => readScalar cs

/-- A value whose brackets may be nested `depth` deep. -/
def readValue (rounds : Nat) : Nat → Reader Value
  | 0, cs => readLeaf cs
  | depth + 1, cs =>
    match cs with
    | '[' :: rest => do
      let (elements, rest) ← readItems ']' (readValue rounds depth) rounds [] rest
      return (.array elements, rest)
    | '\x7b' :: rest => do
      let item := readAssignment rounds (skipFiller false) (readValue rounds depth)
      let (body, rest) ← readItems '\x7d' item rounds [] rest
      let table ← inlineTable? body
      return (table, rest)
    | _ => readLeaf cs

/-! ### Documents -/

/-- The key of a header, between brackets. -/
def readHeader (rounds : Nat) (cs : List Char) : Option (Header × List Char) :=
  match cs with
  | '[' :: '[' :: rest => do
    let (path, rest) ← readKey rounds rest
    let rest ← expect ']' rest
    let rest ← expect ']' rest
    return (⟨path, true⟩, rest)
  | '[' :: rest => do
    let (path, rest) ← readKey rounds rest
    let rest ← expect ']' rest
    return (⟨path, false⟩, rest)
  | _ => none

/-- A document as far as it has been read, with the latest of everything first. -/
structure Reading where
  opening : List Assignment := []
  sections : List Section := []

def Reading.assign (reading : Reading) (assignment : Assignment) : Reading :=
  match reading.sections with
  | [] => { reading with opening := assignment :: reading.opening }
  | latest :: earlier =>
    { reading with sections := { latest with body := assignment :: latest.body } :: earlier }

def Reading.enter (reading : Reading) (header : Header) : Reading :=
  { reading with sections := ⟨header, []⟩ :: reading.sections }

def Reading.document (reading : Reading) : Document where
  body := reading.opening.reverse
  sections := (reading.sections.map fun s => { s with body := s.body.reverse }).reverse

def readLines (limit : Nat) : Nat → Reading → List Char → Option Document
  | 0, _, _ => none
  | rounds + 1, reading, cs =>
    match skipBlanks cs with
    | [] => some reading.document
    | c :: rest =>
      if c == '\n' || c == '\r' || c == '#' then do
        readLines limit rounds reading (← endLine (c :: rest))
      else if c == '[' then do
        let (header, rest) ← readHeader limit (c :: rest)
        readLines limit rounds (reading.enter header) (← endLine rest)
      else do
        let value := readValue limit nestingLimit
        let (assignment, rest) ← readAssignment limit (some ∘ skipBlanks) value (c :: rest)
        readLines limit rounds (reading.assign assignment) (← endLine rest)

/-- The text without a byte order mark at its front. -/
def dropMark : List Char → List Char
  | '\ufeff' :: rest => rest
  | cs => cs

/-- The table that a text describes. -/
def read? (text : String) : Option (List (String × Value)) := do
  let cs := dropMark text.toList
  let rounds := cs.length + 1
  assemble? (← readLines rounds rounds {} cs)

end CaptureFlow.Toml
