/-! # Decimal numerals

Reading whole numbers from text.  A numeral is an optional sign followed by one or more ASCII
digits; leading zeros are allowed.  `readNat` knows the sign `+` only, `readInt` knows both.
Both take the range of the wanted type, and scan from the left: the first character that is no
digit, or that takes the value out of the range, decides which `NumeralFault` is reported. -/

namespace CaptureFlow.Text

/-- Why a text is not a numeral of the wanted range. -/
inductive NumeralFault where
  | empty
  | badDigit
  | tooLarge
  | tooSmall
deriving DecidableEq, Repr

def NumeralFault.message : NumeralFault → String
  | .empty => "cannot parse integer from empty string"
  | .badDigit => "invalid digit found in string"
  | .tooLarge => "number too large to fit in target type"
  | .tooSmall => "number too small to fit in target type"

def digitValue (c : Char) : Nat := c.toNat - '0'.toNat

/-- The value of `acc` followed by the digits `cs`, as long as it stays within `limit`; leaving
the limit is the fault `beyond`. -/
def readDigits (limit : Nat) (beyond : NumeralFault) : Nat → List Char → Except NumeralFault Nat
  | acc, [] => .ok acc
  | acc, c :: cs =>
    if c.isDigit then
      let next := acc * 10 + digitValue c
      if next ≤ limit then readDigits limit beyond next cs else .error beyond
    else .error .badDigit

/-- As `readDigits` from nothing, where at least one digit is wanted. -/
def readMagnitude (limit : Nat) (beyond : NumeralFault) : List Char → Except NumeralFault Nat
  | [] => .error .badDigit
  | cs => readDigits limit beyond 0 cs

/-- The unsigned number written in `cs`, at most `limit`. -/
def readNat (limit : Nat) : List Char → Except NumeralFault Nat
  | [] => .error .empty
  | '+' :: cs => readMagnitude limit .tooLarge cs
  | cs => readMagnitude limit .tooLarge cs

/-- The signed number written in `cs`, between `-below` and `above`. -/
def readInt (below above : Nat) : List Char → Except NumeralFault Int
  | [] => .error .empty
  | '+' :: cs => Int.ofNat <$> readMagnitude above .tooLarge cs
  | '-' :: cs => (fun n => -Int.ofNat n) <$> readMagnitude below .tooSmall cs
  | cs => Int.ofNat <$> readMagnitude above .tooLarge cs

end CaptureFlow.Text
