import CaptureFlow.Text.Numeral
/-! # What numerals are

A numeral is one or more decimal digits behind an optional sign.  Leading zeros and a plus sign
are allowed, so a number has many numerals: `Natural` relates them to the natural numbers, where
there is no minus sign, and `Whole` to all whole numbers.

`readNat` and `readInt` take exactly the numerals of the numbers in their range (`readNat_ok_iff`,
`readInt_ok_iff`).  Of any other text they report the fault of the first character that cannot stay:
one that is no digit, or a digit that takes the number out of the range (`Stops`). -/

namespace CaptureFlow.Text

/-! ### Decimal digits -/

/-- One or more decimal digits with the value `n`. -/
structure Digits (cs : List Char) (n : Nat) : Prop where
  some_digit : cs ≠ []
  decimal : ∀ c ∈ cs, c.isDigit = true
  value : Nat.ofDigitChars 10 cs 0 = n

theorem digits_toDigits (n : Nat) : Digits (Nat.toDigits 10 n) n where
  some_digit := Nat.toDigits_ne_nil
  decimal := fun _ mem => Nat.isDigit_of_mem_toDigits (by decide) (by decide) mem
  value := Nat.ofDigitChars_ten_toDigits

/-- Digits do not begin with a sign. -/
theorem Digits.head_digit {cs : List Char} {n : Nat} {c : Char} (h : Digits (c :: cs) n) :
    c.isDigit = true :=
  h.decimal c (List.mem_cons_self ..)

/-! ### Reading digits -/

variable {limit acc n : Nat} {beyond fault : NumeralFault} {cs : List Char} {c : Char}

/-- More digits never make a number smaller. -/
theorem le_ofDigitChars (cs : List Char) (acc : Nat) : acc ≤ Nat.ofDigitChars 10 cs acc := by
  induction cs generalizing acc with
  | nil => exact Nat.le_refl acc
  | cons c cs ih =>
      rw [Nat.ofDigitChars_cons]
      have more := ih (10 * acc + (c.toNat - '0'.toNat))
      omega

theorem ofDigitChars_cons (c : Char) (cs : List Char) (acc : Nat) :
    Nat.ofDigitChars 10 (c :: cs) acc = Nat.ofDigitChars 10 cs (acc * 10 + digitValue c) := by
  rw [Nat.ofDigitChars_cons, Nat.mul_comm]
  rfl

/-- Reading on from `acc` has to stop in `cs`: behind digits that stay within the limit stands a
character that is no digit, or one that takes the value out of it. -/
def StopsFrom (limit : Nat) (beyond : NumeralFault) (acc : Nat) (cs : List Char)
    (fault : NumeralFault) : Prop :=
  ∃ ds c rest, cs = ds ++ c :: rest ∧ (∀ d ∈ ds, d.isDigit = true) ∧
    Nat.ofDigitChars 10 ds acc ≤ limit ∧
    ((c.isDigit = false ∧ fault = .badDigit) ∨
      (c.isDigit = true ∧ limit < Nat.ofDigitChars 10 (ds ++ [c]) acc ∧ fault = beyond))

theorem not_stopsFrom_nil : ¬StopsFrom limit beyond acc [] fault := by
  rintro ⟨ds, c, rest, split, -⟩
  simp at split

theorem stopsFrom_cons_iff (fits : acc ≤ limit) : StopsFrom limit beyond acc (c :: cs) fault ↔
    (c.isDigit = false ∧ fault = .badDigit) ∨
    (c.isDigit = true ∧ limit < acc * 10 + digitValue c ∧ fault = beyond) ∨
    (c.isDigit = true ∧ acc * 10 + digitValue c ≤ limit ∧
      StopsFrom limit beyond (acc * 10 + digitValue c) cs fault) := by
  constructor
  · rintro ⟨ds, d, rest, split, digits, within, stop⟩
    cases ds with
    | nil =>
        obtain ⟨rfl, rfl⟩ := List.cons.inj split
        rw [List.nil_append, ofDigitChars_cons, Nat.ofDigitChars_nil] at stop
        exact stop.imp_right .inl
    | cons e ds =>
        obtain ⟨rfl, rfl⟩ := List.cons.inj split
        rw [ofDigitChars_cons] at within
        rw [List.cons_append, ofDigitChars_cons] at stop
        have digit := digits c (List.mem_cons_self ..)
        refine .inr (.inr ⟨digit, ?_, ds, d, rest, rfl, ?_, within, stop⟩)
        · exact Nat.le_trans (le_ofDigitChars ds _) within
        · exact fun d mem => digits d (List.mem_cons_of_mem _ mem)
  · rintro (stop | ⟨digit, past, rfl⟩ | ⟨digit, -, ds, d, rest, rfl, digits, within, stop⟩)
    · exact ⟨[], c, cs, rfl, by simp, fits, .inl stop⟩
    · refine ⟨[], c, cs, rfl, by simp, fits, .inr ⟨digit, ?_, rfl⟩⟩
      rwa [List.nil_append, ofDigitChars_cons, Nat.ofDigitChars_nil]
    · refine ⟨c :: ds, d, rest, rfl, ?_, ?_, ?_⟩
      · intro e mem
        rcases List.mem_cons.mp mem with rfl | mem
        · exact digit
        · exact digits e mem
      · rwa [ofDigitChars_cons]
      · rwa [List.cons_append, ofDigitChars_cons]

theorem readDigits_ok_iff (fits : acc ≤ limit) : readDigits limit beyond acc cs = .ok n ↔
    (∀ c ∈ cs, c.isDigit = true) ∧ Nat.ofDigitChars 10 cs acc = n ∧ n ≤ limit := by
  induction cs generalizing acc with
  | nil =>
      rw [readDigits, Nat.ofDigitChars_nil]
      constructor
      · rintro ⟨⟩
        exact ⟨by simp, rfl, fits⟩
      · rintro ⟨-, rfl, -⟩
        rfl
  | cons c cs ih =>
      have more := le_ofDigitChars cs (acc * 10 + digitValue c)
      rw [readDigits, ofDigitChars_cons, List.forall_mem_cons]
      split
      case isTrue digit =>
        dsimp only
        split
        case isTrue within => rw [ih within, and_iff_right digit]
        case isFalse past =>
          constructor
          · rintro ⟨⟩
          · rintro ⟨-, value, bound⟩
            omega
      case isFalse other =>
        constructor
        · rintro ⟨⟩
        · rintro ⟨⟨digit, -⟩, -⟩
          exact absurd digit other

theorem readDigits_error_iff (fits : acc ≤ limit) :
    readDigits limit beyond acc cs = .error fault ↔ StopsFrom limit beyond acc cs fault := by
  induction cs generalizing acc with
  | nil => simp only [readDigits, not_stopsFrom_nil, reduceCtorEq]
  | cons c cs ih =>
      rw [readDigits, stopsFrom_cons_iff fits]
      split
      case isTrue digit =>
        dsimp only
        split
        case isTrue within =>
          rw [ih within]
          simp only [digit, within, Nat.not_lt.mpr within]
          simp
        case isFalse past =>
          simp only [digit, past, Nat.lt_of_not_le past]
          simp [eq_comm]
      case isFalse other =>
        simp only [Bool.not_eq_true] at other
        simp only [other]
        simp [eq_comm]

theorem readMagnitude_ok_iff :
    readMagnitude limit beyond cs = .ok n ↔ Digits cs n ∧ n ≤ limit := by
  cases cs with
  | nil =>
      constructor
      · rintro ⟨⟩
      · rintro ⟨digits, -⟩
        exact absurd rfl digits.some_digit
  | cons c cs =>
      rw [readMagnitude, readDigits_ok_iff (Nat.zero_le _)]
      · constructor
        · rintro ⟨decimal, value, bound⟩
          exact ⟨⟨List.cons_ne_nil c cs, decimal, value⟩, bound⟩
        · rintro ⟨digits, bound⟩
          exact ⟨digits.decimal, digits.value, bound⟩
      · simp

/-- Why a text has no value up to the limit: it has no digits, or reading it has to stop. -/
def Stops (limit : Nat) (beyond : NumeralFault) (cs : List Char) (fault : NumeralFault) : Prop :=
  (cs = [] ∧ fault = .badDigit) ∨ StopsFrom limit beyond 0 cs fault

theorem readMagnitude_error_iff :
    readMagnitude limit beyond cs = .error fault ↔ Stops limit beyond cs fault := by
  cases cs with
  | nil => simp [readMagnitude, Stops, not_stopsFrom_nil, eq_comm]
  | cons c cs =>
      rw [readMagnitude, readDigits_error_iff (Nat.zero_le _)]
      · simp [Stops]
      · simp

/-! ### Numerals of natural numbers -/

/-- A numeral of a natural number: digits, perhaps behind a plus sign. -/
inductive Natural : List Char → Nat → Prop
  | plain {cs : List Char} {n : Nat} (digits : Digits cs n) : Natural cs n
  | plus {cs : List Char} {n : Nat} (digits : Digits cs n) : Natural ('+' :: cs) n

def behindPlus : List Char → List Char
  | '+' :: cs => cs
  | cs => cs

/-- Why a text is no numeral of a natural number up to the limit. -/
def NotNatural (limit : Nat) (cs : List Char) (fault : NumeralFault) : Prop :=
  (cs = [] ∧ fault = .empty) ∨ (cs ≠ [] ∧ Stops limit .tooLarge (behindPlus cs) fault)

theorem readNat_ok_iff : readNat limit cs = .ok n ↔ Natural cs n ∧ n ≤ limit := by
  unfold readNat
  split
  case h_1 =>
    constructor
    · rintro ⟨⟩
    · rintro ⟨⟨digits⟩, -⟩
      exact absurd rfl digits.some_digit
  case h_2 cs =>
    rw [readMagnitude_ok_iff]
    constructor
    · rintro ⟨digits, bound⟩
      exact ⟨.plus digits, bound⟩
    · rintro ⟨digits | digits, bound⟩
      · cases digits.head_digit
      · exact ⟨digits, bound⟩
  case h_3 unsigned =>
    rw [readMagnitude_ok_iff]
    constructor
    · rintro ⟨digits, bound⟩
      exact ⟨.plain digits, bound⟩
    · rintro ⟨digits | digits, bound⟩
      · exact ⟨digits, bound⟩
      · exact absurd rfl (unsigned _)

theorem readNat_error_iff : readNat limit cs = .error fault ↔ NotNatural limit cs fault := by
  unfold readNat NotNatural behindPlus
  split
  case h_1 => simp [eq_comm]
  case h_2 => simp [readMagnitude_error_iff]
  case h_3 some_text _ =>
    have filled : cs ≠ [] := some_text
    simp [readMagnitude_error_iff, filled]

theorem natural_repr (n : Nat) : Natural n.repr.toList n := by
  rw [Nat.toList_repr]
  exact .plain (digits_toDigits n)

/-! ### Numerals of whole numbers -/

/-- A numeral of a whole number: digits, perhaps behind a sign. -/
inductive Whole : List Char → Int → Prop
  | natural {cs : List Char} {n : Nat} (numeral : Natural cs n) : Whole cs n
  | minus {cs : List Char} {n : Nat} (digits : Digits cs n) : Whole ('-' :: cs) (-n)

/-- Why a text is no numeral of a whole number from `-below` to `above`. -/
def NotWhole (below above : Nat) (cs : List Char) (fault : NumeralFault) : Prop :=
  (∃ ds, cs = '-' :: ds ∧ Stops below .tooSmall ds fault) ∨
    (cs.head? ≠ some '-' ∧ NotNatural above cs fault)

variable {below above : Nat} {z : Int}

/-- Without a minus sign, numbers are read as natural ones. -/
theorem readInt_unsigned (unsigned : cs.head? ≠ some '-') :
    readInt below above cs = Int.ofNat <$> readNat above cs := by
  unfold readInt
  split
  case h_1 => rfl
  case h_2 => rfl
  case h_3 => exact absurd rfl unsigned
  case h_4 some_text plain _ => rw [readNat.eq_3 _ _ some_text plain]

theorem map_eq_ok_iff {α β : Type} {f : α → β} {x : Except NumeralFault α} {b : β} :
    f <$> x = .ok b ↔ ∃ a, x = .ok a ∧ f a = b := by
  cases x <;> simp [Functor.map, Except.map]

theorem map_eq_error_iff {α β : Type} {f : α → β} {x : Except NumeralFault α} :
    f <$> x = .error fault ↔ x = .error fault := by
  cases x <;> simp [Functor.map, Except.map]

/-- Digits do not begin with a minus sign. -/
theorem Natural.unsigned (h : Natural cs n) : cs.head? ≠ some '-' := by
  rcases h with digits | _
  · cases cs with
    | nil => simp
    | cons c cs =>
        rintro ⟨⟩
        cases digits.head_digit
  · simp

theorem readInt_ok_iff :
    readInt below above cs = .ok z ↔ Whole cs z ∧ -(below : Int) ≤ z ∧ z ≤ above := by
  by_cases signed : cs.head? = some '-'
  · obtain ⟨ds, rfl⟩ : ∃ ds, cs = '-' :: ds := List.head?_eq_some_iff.mp signed
    rw [readInt, map_eq_ok_iff]
    constructor
    · rintro ⟨n, read, rfl⟩
      obtain ⟨digits, bound⟩ := readMagnitude_ok_iff.mp read
      refine ⟨.minus digits, ?_, ?_⟩ <;> simp only [Int.ofNat_eq_natCast] <;> omega
    · rintro ⟨whole, least, most⟩
      cases whole with
      | natural numeral => exact absurd rfl numeral.unsigned
      | @minus _ n digits =>
          exact ⟨n, readMagnitude_ok_iff.mpr ⟨digits, by omega⟩, rfl⟩
  · rw [readInt_unsigned signed, map_eq_ok_iff]
    constructor
    · rintro ⟨n, read, rfl⟩
      obtain ⟨numeral, bound⟩ := readNat_ok_iff.mp read
      refine ⟨.natural numeral, ?_, ?_⟩ <;> simp only [Int.ofNat_eq_natCast] <;> omega
    · rintro ⟨whole, least, most⟩
      cases whole with
      | @natural _ n numeral =>
          exact ⟨n, readNat_ok_iff.mpr ⟨numeral, by omega⟩, rfl⟩
      | minus => exact absurd rfl signed

theorem readInt_error_iff :
    readInt below above cs = .error fault ↔ NotWhole below above cs fault := by
  unfold NotWhole
  by_cases signed : cs.head? = some '-'
  · obtain ⟨ds, rfl⟩ : ∃ ds, cs = '-' :: ds := List.head?_eq_some_iff.mp signed
    rw [readInt, map_eq_error_iff, readMagnitude_error_iff]
    simp
  · have other : ∀ ds, cs ≠ '-' :: ds := by
      rintro ds rfl
      exact signed rfl
    rw [readInt_unsigned signed, map_eq_error_iff, readNat_error_iff]
    simp [signed, other]

theorem whole_toString (z : Int) : Whole (toString z).toList z := by
  cases z with
  | ofNat n => exact .natural (natural_repr n)
  | negSucc n =>
      have printed : (toString (Int.negSucc n)).toList = '-' :: Nat.toDigits 10 (n + 1) := by
        show ("-" ++ (n + 1).repr).toList = _
        rw [String.toList_append, Nat.toList_repr]
        rfl
      rw [printed]
      exact .minus (digits_toDigits (n + 1))

end CaptureFlow.Text
