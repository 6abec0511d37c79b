import CaptureFlow.Toml.Value
/-! # Numbers, truth values and moments

The scalars of TOML that stand without quotation marks.  `scalar?` takes the whole of a scalar, in
which blanks may stand, and says which value it spells, if any:

* integers in decimal with an optional sign, or after `0x`, `0o` or `0b` without one, where single
  underscores may stand between digits and a decimal integer has no leading zeros;
* floating-point numbers, with a fraction, an exponent or both, and the words `inf` and `nan`;
* dates, times of day, and both together with or without an offset; seconds may be left out.

A number is read in two steps.  `numeral?` looks at its layout, and `Numeral.value?` works out its
value.  A word can pass the first step and fail the second: nothing follows the `0x`, the `a` of
`1_a` is no decimal digit, `1e999` rounds to infinity.  Such a word is a value that is unreadable,
and does no harm where nobody reads it. -/

namespace CaptureFlow.Toml

/-! ### Digits -/

def isHexDigit (c : Char) : Bool :=
  c.isDigit || ('a' ≤ c && c ≤ 'f') || ('A' ≤ c && c ≤ 'F')

def digitValue (c : Char) : Nat :=
  if c.isDigit then c.toNat - '0'.toNat
  else if 'a' ≤ c then c.toNat - 'a'.toNat + 10
  else c.toNat - 'A'.toNat + 10

/-- A digit of the given base, which is sixteen at most. -/
def isDigitOf (base : Nat) (c : Char) : Bool := isHexDigit c && digitValue c < base

/-- The number that `digits` spell. -/
def valueOf (base : Nat) (digits : List Char) : Nat :=
  digits.foldl (fun n c => n * base + digitValue c) 0

/-- Whether every underscore has a digit in front of it and one behind it; `behindDigit` tells
whether a digit stands in front of the first character. -/
def isGrouped (isDigit : Char → Bool) (behindDigit : Bool) : List Char → Bool
  | [] => true
  | c :: rest =>
    if c == '_' then behindDigit && rest.head?.any isDigit && isGrouped isDigit false rest
    else isGrouped isDigit (isDigit c) rest

/-- The characters without the underscores among them. -/
def ungroup (cs : List Char) : List Char := cs.filter (· != '_')

/-- The digits that stand here, one at least, and what follows them. -/
def digitRun? (cs : List Char) : Option (List Char × List Char) :=
  let (run, rest) := cs.span fun c => c.isDigit || c == '_'
  let digits := ungroup run
  if digits.isEmpty then none else some (digits, rest)

/-- A sign that may stand in front, and what follows it. -/
def splitSign : List Char → Option Char × List Char
  | '+' :: rest => (some '+', rest)
  | '-' :: rest => (some '-', rest)
  | cs => (none, cs)

/-- The number `n` behind a sign. -/
def applySign (sign : Option Char) (n : Nat) : Int :=
  if sign = some '-' then -Int.ofNat n else Int.ofNat n

/-! ### The layout of numbers -/

/-- A number as a word lays it out, without underscores: a whole number in some base, or digits
that are multiplied by a power of ten. -/
inductive Numeral where
  | whole (sign : Option Char) (base : Nat) (digits : List Char)
  | decimal (digits : List Char) (exponent : Int)
deriving DecidableEq, Repr

/-- A whole number behind the mark of its base. -/
def based? (base : Nat) (cs : List Char) : Option Numeral :=
  if cs.all (fun c => isDigitOf base c || c == '_') && isGrouped (isDigitOf base) false cs then
    some (.whole none base (ungroup cs))
  else none

/-- A whole number in decimal behind its sign.  Behind the first underscore anything may stand but
a space, and letters up to `f` count as the digits around an underscore: only the value asks for
decimal digits throughout. -/
def whole? (sign : Option Char) (cs : List Char) : Option Numeral :=
  let noLeadingZero := cs == ['0'] || cs.head? != some '0'
  let startsWell := !cs.isEmpty && (cs.dropWhile Char.isDigit).head?.all (· == '_')
  if noLeadingZero && startsWell && !cs.contains ' ' && isGrouped isHexDigit false cs then
    some (.whole sign 10 (ungroup cs))
  else none

/-- Where exponents stop growing. -/
def exponentLimit : Nat := 65536

/-- The exponent that `digits` spell.  As soon as it has reached the limit, the digits that follow
count for nothing. -/
def exponentOf (digits : List Char) : Nat :=
  digits.foldl (fun n c => if n < exponentLimit then n * 10 + digitValue c else n) 0

/-- The exponent that may end a number. -/
def exponent? : List Char → Option Int
  | [] => some 0
  | c :: rest => do
    guard (c = 'e' ∨ c = 'E')
    let (sign, rest) := splitSign rest
    let (digits, rest) ← digitRun? rest
    guard (rest = [])
    return applySign sign (exponentOf digits)

/-- A number with a fraction or an exponent, without its sign. -/
def decimal? (cs : List Char) : Option Numeral := do
  guard (isGrouped Char.isDigit false cs)
  let (whole, rest) ← digitRun? cs
  guard (whole = ['0'] ∨ cs.head? ≠ some '0')
  let (fraction, rest) ←
    match rest with
    | '.' :: rest => digitRun? rest
    | rest => some ([], rest)
  let exponent ← exponent? rest
  return .decimal (whole ++ fraction) (exponent - fraction.length)

/-- The number that a word lays out. -/
def numeral? (word : List Char) : Option Numeral :=
  match word with
  | '0' :: 'x' :: rest => based? 16 rest
  | '0' :: 'o' :: rest => based? 8 rest
  | '0' :: 'b' :: rest => based? 2 rest
  | _ =>
    let (sign, rest) := splitSign word
    if rest.any fun c => c == '.' || c == 'e' || c == 'E' then decimal? rest
    else whole? sign rest

/-! ### The value of numbers -/

/-- Half-way between the largest finite number and what would be the next one: from here on
numbers round to infinity. -/
def infinityBound : Nat := Nat.pow 2 1024 - Nat.pow 2 970

/-- Whether the number spelled by `digits`, times ten to the power `exponent`, rounds to a finite
one.  The number of places decides all but the close cases. -/
def isFinite (digits : List Char) (exponent : Int) : Bool :=
  let digits := digits.dropWhile (· == '0')
  let places := digits.length + exponent
  if digits.isEmpty || places < 309 then true
  else if 309 < places then false
  else if exponent < 0 then valueOf 10 digits < infinityBound * Nat.pow 10 exponent.natAbs
  else valueOf 10 digits * Nat.pow 10 exponent.natAbs < infinityBound

/-- The value of a number; nothing if a digit is missing or too large, or if it rounds to
infinity. -/
def Numeral.value? (spelling : String) : Numeral → Option Value
  | .whole sign base digits =>
    if !digits.isEmpty && digits.all (isDigitOf base) then
      some (.integer (applySign sign (valueOf base digits)))
    else none
  | .decimal digits exponent => if isFinite digits exponent then some (.float spelling) else none

/-- Whether a word names infinity, or what is no number. -/
def isNamedFloat (word : List Char) : Bool :=
  let (_, rest) := splitSign word
  rest == ['i', 'n', 'f'] || rest == ['n', 'a', 'n']

/-! ### Moments -/

/-- Exactly `count` digits, and what follows them. -/
def digits? (count : Nat) (cs : List Char) : Option (Nat × List Char) :=
  let digits := cs.take count
  if digits.length = count ∧ digits.all Char.isDigit then some (valueOf 10 digits, cs.drop count)
  else none

/-- What follows the character `c`. -/
def expect (c : Char) : List Char → Option (List Char)
  | d :: rest => if c = d then some rest else none
  | [] => none

def daysIn (year month : Nat) : Nat :=
  if month = 2 then
    if year % 4 = 0 ∧ (year % 100 ≠ 0 ∨ year % 400 = 0) then 29 else 28
  else if month ∈ [4, 6, 9, 11] then 30
  else 31

def afterDate (cs : List Char) : Option (List Char) := do
  let (year, cs) ← digits? 4 cs
  let cs ← expect '-' cs
  let (month, cs) ← digits? 2 cs
  let cs ← expect '-' cs
  let (day, cs) ← digits? 2 cs
  guard (1 ≤ month ∧ month ≤ 12 ∧ 1 ≤ day ∧ day ≤ daysIn year month)
  return cs

def afterClock (cs : List Char) : Option (List Char) := do
  let (hour, cs) ← digits? 2 cs
  let cs ← expect ':' cs
  let (minute, cs) ← digits? 2 cs
  guard (hour ≤ 23 ∧ minute ≤ 59)
  return cs

/-- What follows the fraction of a second that may stand here. -/
def afterFraction : List Char → Option (List Char)
  | '.' :: rest =>
    let (fraction, rest) := rest.span Char.isDigit
    if fraction.isEmpty then none else some rest
  | cs => some cs

def afterTime (cs : List Char) : Option (List Char) := do
  let cs ← afterClock cs
  match cs with
  | ':' :: rest =>
    let (second, rest) ← digits? 2 rest
    guard (second ≤ 60)
    afterFraction rest
  | _ => return cs

/-- Whether an offset from universal time, or nothing, stands here. -/
def isOffset : List Char → Bool
  | [] => true
  | ['Z'] | ['z'] => true
  | c :: rest => (c == '+' || c == '-') && afterClock rest == some []

/-- Whether a word spells a date, a time of day, or both. -/
def isMoment (cs : List Char) : Bool :=
  match afterDate cs with
  | some [] => true
  | some (c :: rest) =>
    (c == 'T' || c == 't' || c == ' ') && (afterTime rest).any isOffset
  | none => afterTime cs == some []

/-! ### Scalars -/

/-- The value that a word spells. -/
def scalar? (word : List Char) : Option Value :=
  let spelling := String.ofList word
  if spelling = "true" then some (.boolean true)
  else if spelling = "false" then some (.boolean false)
  else if isNamedFloat word then some (.float spelling)
  else if isMoment word then some (.moment spelling)
  else (numeral? word).map fun n => (n.value? spelling).getD (.unreadable spelling)

end CaptureFlow.Toml
