import CaptureFlow.Json.Reader
/-! # Documents are read back

Reading the document of a value gives the value (`read?_pretty`).  Each part is read back with
anything behind it: a character as it stands between quotation marks, whichever way it is escaped
(`readChar?_escapeChar`), a text, a number, of which the end must show (`Ends`), and then values,
elements and members together, by recursion on the value. -/

namespace CaptureFlow.Json

variable {rest : List Char} {more : Nat}

/-! ### Blanks -/

theorem skipBlanks_cons {c : Char} (visible : isBlank c = false) (rest : List Char) :
    skipBlanks (c :: rest) = c :: rest :=
  List.dropWhile_cons_of_neg (by simp [visible])

theorem skipBlanks_newLine (level : Nat) (rest : List Char) :
    skipBlanks (newLine level ++ rest) = skipBlanks rest := by
  have blank : ∀ c ∈ newLine level, isBlank c = true := by
    intro c mem
    rcases List.mem_cons.mp mem with rfl | mem
    · rfl
    · rw [List.eq_of_mem_replicate mem]
      rfl
  exact List.dropWhile_append_of_pos blank

theorem skipBlanks_space (rest : List Char) : skipBlanks (' ' :: rest) = skipBlanks rest := rfl

/-! ### Texts -/

theorem control_digits : ∀ n < 32, Toml.isHexDigit (Nat.digitChar (n / 16)) = true ∧
    Toml.isHexDigit (Nat.digitChar (n % 16)) = true ∧
    Toml.valueOf 16 ['0', '0', Nat.digitChar (n / 16), Nat.digitChar (n % 16)] = n := by
  decide

theorem readUnits?_control {n : Nat} (low : n < 32) (rest : List Char) :
    readUnits? ('0' :: '0' :: Nat.digitChar (n / 16) :: Nat.digitChar (n % 16) :: rest) =
      some (Char.ofNat n, rest) := by
  obtain ⟨first, second, value⟩ := control_digits n low
  have unit : readUnit? ('0' :: '0' :: Nat.digitChar (n / 16) :: Nat.digitChar (n % 16) :: rest) =
      some (n, rest) := by
    rw [readUnit?, value, if_pos (by simp [first, second]; decide)]
  rw [readUnits?, unit]
  show (if 0xD800 ≤ n ∧ n < 0xDC00 then _ else if 0xDC00 ≤ n ∧ n < 0xE000 then _ else _) = _
  -- The code unit of a control character is no half of a pair.
  rw [if_neg (by omega), if_neg (by omega)]

theorem readChar?_plain {c : Char} (visible : ¬c.toNat < 0x20) (quote : c ≠ '"')
    (backslash : c ≠ '\\') (rest : List Char) : readChar? (c :: rest) = some (c, rest) := by
  rw [readChar?, if_neg (by simp [visible, quote, backslash])]
  all_goals
    intros
    contradiction

theorem readChar?_escapeChar (c : Char) (rest : List Char) :
    readChar? (escapeChar c ++ rest) = some (c, rest) := by
  unfold escapeChar
  split
  case h_8 quote backslash _ _ _ _ _ =>
    split
    case isTrue control =>
      exact (readUnits?_control control rest).trans (by rw [Char.ofNat_toNat])
    case isFalse visible => exact readChar?_plain visible quote backslash rest
  all_goals rfl

theorem escapeChar_eq_cons (c : Char) :
    ∃ first others, escapeChar c = first :: others ∧ first ≠ '"' := by
  unfold escapeChar
  split
  case h_8 quote _ _ _ _ _ _ =>
    split
    case isTrue => exact ⟨_, _, rfl, by decide⟩
    case isFalse => exact ⟨c, [], rfl, quote⟩
  all_goals exact ⟨_, _, rfl, by decide⟩

theorem readChars?_flatMap (cs : List Char) (rest : List Char) (enough : cs.length < more) :
    readChars? more (cs.flatMap escapeChar ++ '"' :: rest) = some (cs, rest) := by
  induction cs generalizing more with
  | nil =>
      cases more with
      | zero => cases enough
      | succ more => rfl
  | cons c cs ih =>
      cases more with
      | zero => cases enough
      | succ more =>
          obtain ⟨first, others, form, other⟩ := escapeChar_eq_cons c
          have char := readChar?_escapeChar c (cs.flatMap escapeChar ++ '"' :: rest)
          rw [List.flatMap_cons, List.append_assoc]
          rw [form, List.cons_append] at char ⊢
          rw [readChars?, char]
          · show (readChars? more _ >>= _) = _
            rw [ih (Nat.lt_of_succ_lt_succ enough)]
            rfl
          · intro rest' same
            exact other (List.cons.inj same).1

theorem length_le_flatMap_escapeChar (cs : List Char) :
    cs.length ≤ (cs.flatMap escapeChar).length := by
  induction cs with
  | nil => exact Nat.le_refl _
  | cons c cs ih =>
      obtain ⟨first, others, form, -⟩ := escapeChar_eq_cons c
      rw [List.flatMap_cons, form]
      simp only [List.length_append, List.length_cons]
      omega

theorem quoted_append (s : String) (rest : List Char) :
    quoted s ++ rest = '"' :: (s.toList.flatMap escapeChar ++ '"' :: rest) := by
  simp [quoted]

theorem readText?_quoted (s : String) (rest : List Char) :
    readText? (s.toList.flatMap escapeChar ++ '"' :: rest) = some (s, rest) := by
  have enough : s.toList.length < (s.toList.flatMap escapeChar ++ '"' :: rest).length := by
    have := length_le_flatMap_escapeChar s.toList
    simp only [List.length_append, List.length_cons]
    omega
  rw [readText?, readChars?_flatMap s.toList rest enough]
  exact congrArg some (congrArg (·, rest) String.ofList_toList)

theorem readKey?_quoted (s : String) (rest : List Char) :
    readKey? (quoted s ++ ':' :: ' ' :: rest) = some (s, ' ' :: rest) := by
  rw [readKey?, quoted_append, skipBlanks_cons rfl]
  show (readText? _ >>= _) = _
  rw [readText?_quoted]
  rfl

/-! ### Numbers -/

/-- What stands behind a value in a document that is laid out: nothing, a comma or a new line. -/
def Ends (rest : List Char) : Prop := ∀ c, rest.head? = some c → c = ',' ∨ c = '\n'

theorem head_toDigits {n : Nat} (pos : 0 < n) : (Nat.toDigits 10 n).head? ≠ some '0' := by
  induction n using Nat.strongRecOn with
  | ind n ih =>
      rw [Nat.toDigits_eq_if (by decide)]
      split
      case isTrue small =>
        have digit : ∀ d < 10, 0 < d → [Nat.digitChar d].head? ≠ some '0' := by decide
        exact digit n small pos
      case isFalse large =>
        cases digits : Nat.toDigits 10 (n / 10) with
        | nil => exact absurd digits Nat.toDigits_ne_nil
        | cons first others =>
            have leads := ih (n / 10) (by omega) (by omega)
            rwa [digits] at leads

theorem readDigits?_toDigits (n : Nat) (ends : Ends rest) :
    readDigits? (Nat.toDigits 10 n ++ rest) = some (n, rest) := by
  have digits : ∀ c ∈ Nat.toDigits 10 n, c.isDigit = true := fun c mem =>
    Nat.isDigit_of_mem_toDigits (by decide) (by decide) mem
  have stops : rest.takeWhile Char.isDigit = [] ∧ rest.dropWhile Char.isDigit = rest ∧
      rest.head?.any continuesNumber = false := by
    cases rest with
    | nil => exact ⟨rfl, rfl, rfl⟩
    | cons c others => rcases ends c rfl with rfl | rfl <;> exact ⟨rfl, rfl, rfl⟩
  have leading : ¬((Nat.toDigits 10 n).head? = some '0' ∧ 1 < (Nat.toDigits 10 n).length) := by
    rintro ⟨zero, long⟩
    cases n with
    | zero => simp at long
    | succ n => exact head_toDigits n.succ_pos zero
  obtain ⟨none, others, last⟩ := stops
  simp only [readDigits?, List.takeWhile_append_of_pos digits, List.dropWhile_append_of_pos digits,
    none, others, last, List.append_nil]
  rw [if_neg (by simp [Nat.toDigits_ne_nil, leading]), Nat.ofDigitChars_ten_toDigits]

theorem toDigits_eq_cons (n : Nat) :
    ∃ first others, Nat.toDigits 10 n = first :: others ∧ first.isDigit = true := by
  cases digits : Nat.toDigits 10 n with
  | nil => exact absurd digits Nat.toDigits_ne_nil
  | cons first others =>
      refine ⟨first, others, rfl, Nat.isDigit_of_mem_toDigits (b := 10) (n := n) ?_ ?_ ?_⟩
      · decide
      · decide
      · rw [digits]
        exact List.mem_cons_self

theorem readScalar?_digit {c : Char} (digit : c.isDigit = true) (rest : List Char) :
    readScalar? (c :: rest) = (do
      let (n, rest) ← readDigits? (c :: rest)
      some (.number n, rest)) := by
  rw [readScalar?]
  all_goals
    intro others same
    obtain ⟨rfl, -⟩ := List.cons.inj same
    cases digit

theorem readScalar?_numeral (n : Int) (ends : Ends rest) :
    readScalar? (numeral n ++ rest) = some (.number n, rest) := by
  cases n with
  | ofNat n =>
      obtain ⟨first, others, form, digit⟩ := toDigits_eq_cons n
      have read := readDigits?_toDigits n ends
      rw [numeral, form, List.cons_append] at *
      rw [readScalar?_digit digit, read]
      rfl
  | negSucc n =>
      rw [numeral, List.cons_append, readScalar?, readDigits?_toDigits (n + 1) ends]
      rfl

/-! ### Values -/

theorem readValue?_congr {cs cs' : List Char} (same : skipBlanks cs = skipBlanks cs') :
    readValue? more cs = readValue? more cs' := by
  cases more with
  | zero => rfl
  | succ more => rw [readValue?, readValue?, same]

theorem readKey?_congr {cs cs' : List Char} (same : skipBlanks cs = skipBlanks cs') :
    readKey? cs = readKey? cs' := by
  rw [readKey?, readKey?, same]

theorem readValue?_scalar {c : Char} (visible : isBlank c = false) (bare : c ∉ ['"', '[', '\x7b'])
    (rest : List Char) : readValue? (more + 1) (c :: rest) = readScalar? (c :: rest) := by
  rw [readValue?, skipBlanks_cons visible]
  split
  case h_4 => rfl
  all_goals
    obtain ⟨rfl, -⟩ := List.cons.inj ‹_›
    exact absurd bare (by decide)

theorem ends_layoutElements (level outer : Nat) (elements : List Json) (rest : List Char) :
    Ends (layoutElements level elements ++ (newLine outer ++ rest)) := by
  intro c head
  cases elements with
  | nil => exact .inr (Option.some.inj head).symm
  | cons => exact .inl (Option.some.inj head).symm

theorem ends_layoutMembers (level outer : Nat) (members : List (String × Json))
    (rest : List Char) : Ends (layoutMembers level members ++ (newLine outer ++ rest)) := by
  intro c head
  cases members with
  | nil => exact .inr (Option.some.inj head).symm
  | cons => exact .inl (Option.some.inj head).symm

/-- A number begins with a character that begins neither another value nor the end of one. -/
theorem numeral_eq_cons (n : Int) :
    ∃ first others, numeral n = first :: others ∧ isBlank first = false ∧
      first ∉ [']', '"', '[', '\x7b'] := by
  cases n with
  | ofNat n =>
      obtain ⟨first, others, form, digit⟩ := toDigits_eq_cons n
      refine ⟨first, others, form, Bool.eq_false_iff.mpr fun blank => ?_, fun mem => ?_⟩
      · simp only [isBlank, Bool.or_eq_true, beq_iff_eq] at blank
        rcases blank with ((rfl | rfl) | rfl) | rfl <;> cases digit
      · simp only [List.mem_cons, List.not_mem_nil, or_false] at mem
        rcases mem with rfl | rfl | rfl | rfl <;> cases digit
  | negSucc n => exact ⟨'-', _, rfl, by decide⟩

theorem layout_eq_cons (level : Nat) (value : Json) :
    ∃ first others, layout level value = first :: others ∧ isBlank first = false ∧ first ≠ ']' := by
  cases value with
  | null => exact ⟨_, _, rfl, by decide⟩
  | bool b => cases b <;> exact ⟨_, _, rfl, by decide⟩
  | number n =>
      obtain ⟨first, others, form, visible, bare⟩ := numeral_eq_cons n
      exact ⟨first, others, by rw [layout, form], visible, fun same => bare (same ▸ .head _)⟩
  | text s => exact ⟨_, _, by rw [layout, quoted]; rfl, by decide⟩
  | array elements =>
      cases elements with
      | nil => exact ⟨_, _, rfl, by decide⟩
      | cons => exact ⟨_, _, by rw [layout]; rfl, by decide⟩
  | object members =>
      cases members with
      | nil => exact ⟨_, _, rfl, by decide⟩
      | cons => exact ⟨_, _, by rw [layout]; rfl, by decide⟩

theorem readValue?_array {cs : List Char} {c : Char} (nonempty : skipBlanks cs = c :: rest)
    (other : c ≠ ']') :
    readValue? (more + 1) ('[' :: cs) = (do
      let (element, rest) ← readValue? more cs
      let (others, rest) ← readElements? more rest
      some (.array (element :: others), rest)) := by
  rw [readValue?, skipBlanks_cons rfl]
  split
  case h_2 inner same =>
    obtain rfl := (List.cons.inj same).2
    rw [nonempty]
    split
    case h_1 same => exact absurd (List.cons.inj same).1 other
    case h_2 => rfl
  case h_4 array _ => exact absurd rfl (array cs)
  all_goals exact absurd (List.cons.inj ‹_›).1 (by decide)

theorem readValue?_object {cs : List Char} {c : Char} (nonempty : skipBlanks cs = c :: rest)
    (other : c ≠ '\x7d') :
    readValue? (more + 1) ('\x7b' :: cs) = (do
      let (key, rest) ← readKey? cs
      let (value, rest) ← readValue? more rest
      let (others, rest) ← readMembers? more rest
      some (.object ((key, value) :: others), rest)) := by
  rw [readValue?, skipBlanks_cons rfl]
  split
  case h_3 inner same =>
    obtain rfl := (List.cons.inj same).2
    rw [nonempty]
    split
    case h_1 same => exact absurd (List.cons.inj same).1 other
    case h_2 => rfl
  case h_4 object => exact absurd rfl (object cs)
  all_goals exact absurd (List.cons.inj ‹_›).1 (by decide)

theorem layout_array_append (level : Nat) (element : Json) (others : List Json)
    (rest : List Char) :
    layout level (.array (element :: others)) ++ rest = '[' ::
      (newLine (level + 1) ++ (layout (level + 1) element ++
        (layoutElements (level + 1) others ++ (newLine level ++ ']' :: rest)))) := by
  simp [layout]

theorem layout_object_append (level : Nat) (key : String) (value : Json)
    (others : List (String × Json)) (rest : List Char) :
    layout level (.object ((key, value) :: others)) ++ rest = '\x7b' ::
      (newLine (level + 1) ++ (quoted key ++ ':' :: ' ' :: (layout (level + 1) value ++
        (layoutMembers (level + 1) others ++ (newLine level ++ '\x7d' :: rest))))) := by
  simp [layout]

theorem layoutElements_cons_append (level : Nat) (element : Json) (others : List Json)
    (rest : List Char) :
    layoutElements level (element :: others) ++ rest = ',' ::
      (newLine level ++ (layout level element ++ (layoutElements level others ++ rest))) := by
  simp [layoutElements]

theorem layoutMembers_cons_append (level : Nat) (key : String) (value : Json)
    (others : List (String × Json)) (rest : List Char) :
    layoutMembers level ((key, value) :: others) ++ rest = ',' ::
      (newLine level ++ (quoted key ++ ':' :: ' ' ::
        (layout level value ++ (layoutMembers level others ++ rest)))) := by
  simp [layoutMembers]

mutual

/-- A value is read back with anything behind it that shows its end. -/
theorem readValue?_layout (value : Json) (level : Nat) (rest : List Char) (more : Nat)
    (ends : Ends rest) (enough : (layout level value ++ rest).length < more) :
    readValue? more (layout level value ++ rest) = some (value, rest) := by
  -- A bracket, a brace or a comma is read before each value inside, so the bound carries over.
  obtain ⟨more, rfl⟩ : ∃ k, more = k + 1 := ⟨more - 1, by omega⟩
  match value with
  | .null => exact readValue?_scalar rfl (by decide) _
  | .bool true => exact readValue?_scalar rfl (by decide) _
  | .bool false => exact readValue?_scalar rfl (by decide) _
  | .number n =>
      obtain ⟨first, tail, form, visible, bare⟩ := numeral_eq_cons n
      have read := readScalar?_numeral n ends
      rw [layout]
      rw [form, List.cons_append] at read ⊢
      rw [readValue?_scalar visible fun mem => bare (.tail _ mem), read]
  | .text s =>
      rw [layout, readValue?, quoted_append, skipBlanks_cons rfl]
      show (readText? _ >>= _) = _
      rw [readText?_quoted]
      rfl
  | .array [] => rfl
  | .array (element :: others) =>
      rw [layout_array_append] at enough ⊢
      simp only [List.length_cons, List.length_append] at enough
      obtain ⟨first, tail, form, visible, other⟩ := layout_eq_cons (level + 1) element
      have nonempty (cs : List Char) :
          skipBlanks (newLine (level + 1) ++ (layout (level + 1) element ++ cs)) =
            first :: (tail ++ cs) := by
        rw [skipBlanks_newLine, form, List.cons_append, skipBlanks_cons visible]
      have here := readValue?_layout element (level + 1)
        (layoutElements (level + 1) others ++ (newLine level ++ ']' :: rest)) more
        (ends_layoutElements (level + 1) level others _)
        (by simp only [List.length_cons, List.length_append]; omega)
      have there := readElements?_layout others (level + 1) level rest more
        (by simp only [List.length_cons, List.length_append]; omega)
      rw [readValue?_array (nonempty _) other, readValue?_congr (skipBlanks_newLine ..), here]
      show (readElements? more _ >>= _) = _
      rw [there]
      rfl
  | .object [] => rfl
  | .object ((key, inner) :: others) =>
      rw [layout_object_append] at enough ⊢
      simp only [List.length_cons, List.length_append] at enough
      have nonempty (cs : List Char) : skipBlanks (newLine (level + 1) ++ (quoted key ++ cs)) =
          '"' :: (key.toList.flatMap escapeChar ++ '"' :: cs) := by
        rw [skipBlanks_newLine, quoted_append, skipBlanks_cons rfl]
      have here := readValue?_layout inner (level + 1)
        (layoutMembers (level + 1) others ++ (newLine level ++ '\x7d' :: rest)) more
        (ends_layoutMembers (level + 1) level others _)
        (by simp only [List.length_cons, List.length_append]; omega)
      have there := readMembers?_layout others (level + 1) level rest more
        (by simp only [List.length_cons, List.length_append]; omega)
      rw [readValue?_object (nonempty _) (by decide), readKey?_congr (skipBlanks_newLine ..),
        readKey?_quoted]
      show (readValue? more (' ' :: _) >>= _) = _
      rw [readValue?_congr (skipBlanks_space _), here]
      show (readMembers? more _ >>= _) = _
      rw [there]
      rfl

theorem readElements?_layout (elements : List Json) (level outer : Nat) (rest : List Char)
    (more : Nat)
    (enough : (layoutElements level elements ++ (newLine outer ++ ']' :: rest)).length < more) :
    readElements? more (layoutElements level elements ++ (newLine outer ++ ']' :: rest)) =
      some (elements, rest) := by
  obtain ⟨more, rfl⟩ : ∃ k, more = k + 1 := ⟨more - 1, by omega⟩
  match elements with
  | [] =>
      rw [layoutElements, List.nil_append, readElements?, skipBlanks_newLine, skipBlanks_cons rfl]
      rfl
  | element :: others =>
      rw [layoutElements_cons_append] at enough ⊢
      simp only [List.length_cons, List.length_append] at enough
      have here := readValue?_layout element level
        (layoutElements level others ++ (newLine outer ++ ']' :: rest)) more
        (ends_layoutElements level outer others _)
        (by simp only [List.length_cons, List.length_append]; omega)
      have there := readElements?_layout others level outer rest more
        (by simp only [List.length_cons, List.length_append]; omega)
      rw [readElements?, skipBlanks_cons rfl]
      show (readValue? more _ >>= _) = _
      rw [readValue?_congr (skipBlanks_newLine ..), here]
      show (readElements? more _ >>= _) = _
      rw [there]
      rfl

theorem readMembers?_layout (members : List (String × Json)) (level outer : Nat)
    (rest : List Char) (more : Nat)
    (enough : (layoutMembers level members ++ (newLine outer ++ '\x7d' :: rest)).length < more) :
    readMembers? more (layoutMembers level members ++ (newLine outer ++ '\x7d' :: rest)) =
      some (members, rest) := by
  obtain ⟨more, rfl⟩ : ∃ k, more = k + 1 := ⟨more - 1, by omega⟩
  match members with
  | [] =>
      rw [layoutMembers, List.nil_append, readMembers?, skipBlanks_newLine, skipBlanks_cons rfl]
      rfl
  | (key, value) :: others =>
      rw [layoutMembers_cons_append] at enough ⊢
      simp only [List.length_cons, List.length_append] at enough
      have here := readValue?_layout value level
        (layoutMembers level others ++ (newLine outer ++ '\x7d' :: rest)) more
        (ends_layoutMembers level outer others _)
        (by simp only [List.length_cons, List.length_append]; omega)
      have there := readMembers?_layout others level outer rest more
        (by simp only [List.length_cons, List.length_append]; omega)
      rw [readMembers?, skipBlanks_cons rfl]
      show (readKey? _ >>= _) = _
      rw [readKey?_congr (skipBlanks_newLine ..), readKey?_quoted]
      show (readValue? more (' ' :: _) >>= _) = _
      rw [readValue?_congr (skipBlanks_space _), here]
      show (readMembers? more _ >>= _) = _
      rw [there]
      rfl

end

/-- **Documents are read back.**  Reading the document of any value gives the value. -/
theorem read?_pretty (value : Json) : read? value.pretty = some value := by
  have whole := readValue?_layout value 0 [] (value.pretty.length + 1) (fun _ head => by cases head)
    (by simp [pretty])
  rw [List.append_nil] at whole
  rw [read?, show value.pretty.toList = layout 0 value from String.toList_ofList, whole]
  rfl

end CaptureFlow.Json
