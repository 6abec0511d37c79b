import CaptureFlow.Geometry.Reading
import CaptureFlow.Proofs.Text.Numeral
/-! # Sizes as they are typed

A size is typed as two numerals with an `x` or `X` between them, and blanks may surround both
numerals (`Size.Typed`).  The first such letter counts.  `Size.read` takes exactly these texts, what
is shown of a size among them, and of any other text it reports one fault (`Size.Refused`): that
there is no such letter, or what is wrong with the width, or else with the height
(`Size.reads_sizes`). -/

namespace CaptureFlow

/-! ### Surrounding blanks -/

namespace Text

variable {cs core : List Char}

/-- The text `core` is `cs` without the blanks around it. -/
structure Trims (cs core : List Char) : Prop where
  around : ∃ before after, (∀ c ∈ before, isBlank c = true) ∧ (∀ c ∈ after, isBlank c = true) ∧
    cs = before ++ (core ++ after)
  first : ∀ c, core.head? = some c → isBlank c = false
  last : ∀ c, core.getLast? = some c → isBlank c = false

theorem not_isBlank_head_dropWhile {c : Char} (head : (cs.dropWhile isBlank).head? = some c) :
    isBlank c = false := by
  induction cs with
  | nil => cases head
  | cons d cs ih =>
      by_cases blank : isBlank d = true
      · rw [List.dropWhile_cons_of_pos blank] at head
        exact ih head
      · rw [List.dropWhile_cons_of_neg blank] at head
        obtain rfl := Option.some.inj head
        exact eq_false_of_ne_true blank

theorem dropWhile_isBlank_eq_self (first : ∀ c, cs.head? = some c → isBlank c = false)
    (rest : List Char) (some_text : cs ≠ []) : (cs ++ rest).dropWhile isBlank = cs ++ rest := by
  cases cs with
  | nil => exact absurd rfl some_text
  | cons c cs =>
      apply List.dropWhile_cons_of_neg
      rw [first c rfl]
      exact Bool.false_ne_true

theorem trims_trim (cs : List Char) : Trims cs (trim cs) := by
  have split : cs.dropWhile isBlank = trim cs ++
      ((cs.dropWhile isBlank).reverse.takeWhile isBlank).reverse := by
    rw [trim, ← List.reverse_append, List.takeWhile_append_dropWhile, List.reverse_reverse]
  refine ⟨⟨cs.takeWhile isBlank, ((cs.dropWhile isBlank).reverse.takeWhile isBlank).reverse,
    ?_, ?_, ?_⟩, ?_, ?_⟩
  · intro c mem
    exact List.all_eq_true.mp List.all_takeWhile c mem
  · intro c mem
    exact List.all_eq_true.mp List.all_takeWhile c (List.mem_reverse.mp mem)
  · rw [← split, List.takeWhile_append_dropWhile]
  · intro c head
    apply @not_isBlank_head_dropWhile cs
    rw [split, List.head?_append, head]
    rfl
  · intro c last
    rw [trim, List.getLast?_reverse] at last
    exact not_isBlank_head_dropWhile last

theorem trims_iff : Trims cs core ↔ trim cs = core := by
  constructor
  · rintro ⟨⟨before, after, front, back, rfl⟩, first, last⟩
    rw [trim, List.dropWhile_append_of_pos front]
    by_cases none : core = []
    · have all : after.dropWhile isBlank = [] := by
        rw [← List.append_nil after, List.dropWhile_append_of_pos back]
        rfl
      rw [none, List.nil_append, all]
      rfl
    · have back : ∀ c ∈ after.reverse, isBlank c = true :=
        fun c mem => back c (List.mem_reverse.mp mem)
      have last : ∀ c, core.reverse.head? = some c → isBlank c = false := by
        intro c head
        rw [List.head?_reverse] at head
        exact last c head
      rw [dropWhile_isBlank_eq_self first after none, List.reverse_append,
        List.dropWhile_append_of_pos back]
      have kept := dropWhile_isBlank_eq_self last [] (mt List.reverse_eq_nil_iff.mp none)
      rw [List.append_nil] at kept
      rw [kept, List.reverse_reverse]
  · rintro rfl
    exact trims_trim cs

end Text

/-! ### The letter between the sides -/

/-- The text `cs` has an `x` or `X` between `w` and `h`, and `w` has none. -/
def Crosses (cs w h : List Char) : Prop :=
  ∃ c, cs = w ++ c :: h ∧ (c = 'x' ∨ c = 'X') ∧ 'x' ∉ w ∧ 'X' ∉ w

variable {c : Char} {cs w h : List Char}

theorem splitAtCross_cons (c : Char) (cs : List Char) :
    splitAtCross (c :: cs) = if c = 'x' ∨ c = 'X' then some ([], cs)
      else (splitAtCross cs).map fun sides => (c :: sides.1, sides.2) := by
  by_cases cross : c = 'x' ∨ c = 'X'
  · rw [if_pos cross]
    rcases cross with rfl | rfl <;> rfl
  · have other : (!(c == 'x' || c == 'X')) = true := by
      rw [not_or] at cross
      simp [cross]
    rw [if_neg cross]
    simp only [splitAtCross]
    rw [List.dropWhile_cons_of_pos (p := fun c => !(c == 'x' || c == 'X')) other,
      List.takeWhile_cons_of_pos (p := fun c => !(c == 'x' || c == 'X')) other]
    split <;> rfl

theorem splitAtCross_eq_none_iff : splitAtCross cs = none ↔ 'x' ∉ cs ∧ 'X' ∉ cs := by
  induction cs with
  | nil => simp [splitAtCross]
  | cons c cs ih =>
      rw [splitAtCross_cons]
      split
      case isTrue cross => rcases cross with rfl | rfl <;> simp
      case isFalse other =>
        rw [not_or, eq_comm, eq_comm (a := c)] at other
        simp [ih, other]

theorem crosses_cons_iff : Crosses (c :: cs) w h ↔
    ((c = 'x' ∨ c = 'X') ∧ w = [] ∧ h = cs) ∨
      (¬(c = 'x' ∨ c = 'X') ∧ ∃ w', w = c :: w' ∧ Crosses cs w' h) := by
  constructor
  · rintro ⟨d, split, cross, lower, upper⟩
    cases w with
    | nil =>
        obtain ⟨rfl, rfl⟩ := List.cons.inj split
        exact .inl ⟨cross, rfl, rfl⟩
    | cons e w =>
        obtain ⟨rfl, rfl⟩ := List.cons.inj split
        rw [List.mem_cons, not_or] at lower upper
        refine .inr ⟨?_, w, rfl, d, rfl, cross, lower.2, upper.2⟩
        exact not_or.mpr ⟨fun same => lower.1 same.symm, fun same => upper.1 same.symm⟩
  · rintro (⟨cross, rfl, rfl⟩ | ⟨other, w, rfl, d, rfl, cross, lower, upper⟩)
    · exact ⟨c, rfl, cross, by simp, by simp⟩
    · rw [not_or] at other
      refine ⟨d, rfl, cross, ?_, ?_⟩ <;> rw [List.mem_cons, not_or]
      · exact ⟨fun same => other.1 same.symm, lower⟩
      · exact ⟨fun same => other.2 same.symm, upper⟩

theorem splitAtCross_eq_some_iff : splitAtCross cs = some (w, h) ↔ Crosses cs w h := by
  induction cs generalizing w with
  | nil =>
      constructor
      · rintro ⟨⟩
      · rintro ⟨d, split, -⟩
        simp at split
  | cons c cs ih =>
      rw [splitAtCross_cons, crosses_cons_iff]
      split
      case isTrue cross => simp [cross, eq_comm]
      case isFalse other =>
        simp only [other, false_and, false_or, not_false_eq_true, true_and,
          Option.map_eq_some_iff, Prod.mk.injEq]
        constructor
        · rintro ⟨⟨w', h⟩, rest, rfl, rfl⟩
          exact ⟨w', rfl, ih.mp rest⟩
        · rintro ⟨w', rfl, rest⟩
          exact ⟨(w', h), ih.mpr rest, rfl, rfl⟩

/-! ### Sides -/

/-- A side as it is typed: a numeral, perhaps between blanks. -/
def TypedSide (cs : List Char) (side : UInt32) : Prop :=
  ∃ core, Text.Trims cs core ∧ Text.Natural core side.toNat

/-- What is wrong with a text that is no side. -/
def FaultySide (cs : List Char) (fault : Text.NumeralFault) : Prop :=
  ∃ core, Text.Trims cs core ∧ Text.NotNatural (UInt32.size - 1) core fault

theorem readSide_ok_iff {side : UInt32} : readSide cs = .ok side ↔ TypedSide cs side := by
  unfold readSide TypedSide
  simp only [Text.trims_iff, exists_eq_left', Text.map_eq_ok_iff, Text.readNat_ok_iff]
  constructor
  · rintro ⟨n, ⟨numeral, fits⟩, rfl⟩
    have kept : (UInt32.ofNat n).toNat = n := UInt32.toNat_ofNat_of_lt' (Nat.lt_succ_of_le fits)
    rwa [kept]
  · intro numeral
    exact ⟨side.toNat, ⟨numeral, Nat.le_of_lt_succ side.toNat_lt⟩, UInt32.ofNat_toNat⟩

theorem readSide_error_iff {fault : Text.NumeralFault} :
    readSide cs = .error fault ↔ FaultySide cs fault := by
  unfold readSide FaultySide
  simp only [Text.trims_iff, exists_eq_left', Text.map_eq_error_iff, Text.readNat_error_iff]

theorem not_isBlank_of_isDigit (digit : c.isDigit = true) : Text.isBlank c = false := by
  obtain ⟨least, most⟩ := Char.isDigit_iff_toNat.mp digit
  change 48 ≤ c.toNat at least
  change c.toNat ≤ 57 at most
  simp only [Text.isBlank, Bool.or_eq_false_iff, Bool.and_eq_false_iff, decide_eq_false_iff_not,
    beq_eq_false_iff_ne]
  omega

theorem typedSide_repr (side : UInt32) : TypedSide side.toNat.repr.toList side := by
  have digits := Text.digits_toDigits side.toNat
  rw [Nat.toList_repr]
  refine ⟨_, ⟨⟨[], [], by simp, by simp, by simp⟩, ?_, ?_⟩, .plain digits⟩
  · intro c head
    exact not_isBlank_of_isDigit (digits.decimal c (List.mem_of_head? head))
  · intro c last
    exact not_isBlank_of_isDigit (digits.decimal c (List.mem_of_getLast? last))

theorem not_mem_repr (n : Nat) (other : c.isDigit = false) : c ∉ n.repr.toList := by
  intro mem
  rw [Nat.toList_repr] at mem
  rw [(Text.digits_toDigits n).decimal c mem] at other
  cases other

/-! ### Sizes -/

namespace Size

/-- The size as it is typed. -/
def Typed (cs : List Char) (size : Size) : Prop :=
  ∃ w h, Crosses cs w h ∧ TypedSide w size.width ∧ TypedSide h size.height

/-- Why a text is not taken for a size.  The width is looked at before the height. -/
inductive Refused (s : String) : Failure → Prop
  | noSeparator (lower : 'x' ∉ s.toList) (upper : 'X' ∉ s.toList) :
      Refused s (.argument (.noSeparator s))
  | badWidth {w h : List Char} {fault : Text.NumeralFault} (sides : Crosses s.toList w h)
      (width : FaultySide w fault) :
      Refused s (.argument (.badWidth (String.ofList w) fault))
  | badHeight {w h : List Char} {side : UInt32} {fault : Text.NumeralFault}
      (sides : Crosses s.toList w h) (width : TypedSide w side) (height : FaultySide h fault) :
      Refused s (.argument (.badHeight (String.ofList h) fault))

variable {s : String}

theorem read_of_sides {size : Size} (sides : Crosses s.toList w h)
    (width : TypedSide w size.width) (height : TypedSide h size.height) :
    read s = .ok size := by
  unfold read
  rw [splitAtCross_eq_some_iff.mpr sides]
  dsimp only
  rw [readSide_ok_iff.mpr width]
  dsimp only
  rw [readSide_ok_iff.mpr height]

theorem read_of_refused {cause : Failure} (refused : Refused s cause) : read s = .error cause := by
  unfold read
  cases refused with
  | noSeparator lower upper => rw [splitAtCross_eq_none_iff.mpr ⟨lower, upper⟩]
  | badWidth sides width =>
      rw [splitAtCross_eq_some_iff.mpr sides]
      dsimp only
      rw [readSide_error_iff.mpr width]
  | badHeight sides width height =>
      rw [splitAtCross_eq_some_iff.mpr sides]
      dsimp only
      rw [readSide_ok_iff.mpr width]
      dsimp only
      rw [readSide_error_iff.mpr height]

/-- Every text is a size as it is typed, or there is a reason why not. -/
theorem typed_or_refused (s : String) :
    (∃ size, Typed s.toList size) ∨ ∃ cause, Refused s cause := by
  cases split : splitAtCross s.toList with
  | none =>
      obtain ⟨lower, upper⟩ := splitAtCross_eq_none_iff.mp split
      exact .inr ⟨_, .noSeparator lower upper⟩
  | some sides =>
      obtain ⟨w, h⟩ := sides
      have sides := splitAtCross_eq_some_iff.mp split
      cases width : readSide w with
      | error fault => exact .inr ⟨_, .badWidth sides (readSide_error_iff.mp width)⟩
      | ok side =>
          have width := readSide_ok_iff.mp width
          cases height : readSide h with
          | error fault => exact .inr ⟨_, .badHeight sides width (readSide_error_iff.mp height)⟩
          | ok side' =>
              exact .inl ⟨⟨side, side'⟩, w, h, sides, width, readSide_ok_iff.mp height⟩

theorem typed_shown (size : Size) : Typed size.shown.toList size := by
  have printed : size.shown.toList =
      size.width.toNat.repr.toList ++ 'x' :: size.height.toNat.repr.toList := by
    show (size.width.toNat.repr ++ "x" ++ size.height.toNat.repr).toList = _
    simp
  exact ⟨_, _, ⟨'x', printed, .inl rfl, not_mem_repr _ rfl, not_mem_repr _ rfl⟩,
    typedSide_repr size.width, typedSide_repr size.height⟩

theorem read_ok_iff {size : Size} : read s = .ok size ↔ Typed s.toList size := by
  constructor
  · intro done
    rcases typed_or_refused s with ⟨other, w, h, sides, width, height⟩ | ⟨cause, refused⟩
    · rw [read_of_sides sides width height] at done
      obtain rfl := Except.ok.inj done
      exact ⟨w, h, sides, width, height⟩
    · rw [read_of_refused refused] at done
      cases done
  · rintro ⟨w, h, sides, width, height⟩
    exact read_of_sides sides width height

theorem read_error_iff {cause : Failure} : read s = .error cause ↔ Refused s cause := by
  constructor
  · intro failed
    rcases typed_or_refused s with ⟨size, typed⟩ | ⟨other, refused⟩
    · rw [read_ok_iff.mpr typed] at failed
      cases failed
    · rw [read_of_refused refused] at failed
      obtain rfl := Except.error.inj failed
      exact refused
  · exact read_of_refused

/-- **Sizes are read as they are typed.**  A text is read as a size if and only if the size can be
typed so, which holds of what is shown of it; and a text that is typed for no size is refused as an
argument, for its one reason. -/
theorem reads_sizes :
    (∀ (s : String) (size : Size), read s = .ok size ↔ Typed s.toList size) ∧
    (∀ (s : String) (cause : Failure), read s = .error cause ↔ Refused s cause) ∧
    (∀ s : String, (¬∃ size, Typed s.toList size) ↔
      ∃ cause, Refused s cause ∧ cause.kind = .invalidArgument) ∧
    ∀ size : Size, read size.shown = .ok size := by
  refine ⟨fun _ _ => read_ok_iff, fun _ _ => read_error_iff, fun s => ?_,
    fun size => read_ok_iff.mpr (typed_shown size)⟩
  constructor
  · intro untyped
    obtain ⟨cause, refused⟩ := (typed_or_refused s).resolve_left untyped
    refine ⟨cause, refused, ?_⟩
    cases refused <;> rfl
  · rintro ⟨cause, refused, -⟩ ⟨size, typed⟩
    have done := read_ok_iff.mpr typed
    rw [read_of_refused refused] at done
    cases done

end Size

end CaptureFlow
