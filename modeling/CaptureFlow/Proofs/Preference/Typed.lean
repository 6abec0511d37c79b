import CaptureFlow.Preference.Value
import CaptureFlow.Proofs.Text.Numeral
/-! # Values as they are typed

A preference is typed as the name of its kind and a text.  What is shown of a value is a text for
it, so values that are shown can be typed again (`Preference.read_shown`).  A number may be typed in
other ways as well: any numeral of it will do, and no other text (`Preference.reads_typed`). -/

namespace CaptureFlow.Preference

variable {raw : String} {v : Preference} {n : Int64} {z : Int} {fault : Text.NumeralFault}

/-! ### The range of numbers -/

/-- How far numbers go below zero. -/
def below : Nat := 9223372036854775808

/-- How far numbers go above zero. -/
def above : Nat := 9223372036854775807

theorem bounds (n : Int64) : -(below : Int) ≤ n.toInt ∧ n.toInt ≤ above := by
  have least : -9223372036854775808 ≤ n.toInt := n.le_toInt
  have most : n.toInt < 9223372036854775808 := n.toInt_lt
  unfold below above
  omega

theorem toInt_ofInt (least : -(below : Int) ≤ z) (most : z ≤ above) :
    (Int64.ofInt z).toInt = z := by
  unfold below above at *
  apply Int64.toInt_ofInt_of_le
  · exact least
  · show z < 9223372036854775808
    omega

/-! ### Numbers -/

theorem read_int_ok (read : Text.readInt below above raw.toList = .ok z) :
    Preference.read "int" raw = .ok (.number (Int64.ofInt z)) := by
  change Text.readInt (UInt64.size / 2) (UInt64.size / 2 - 1) raw.toList = .ok z at read
  simp only [Preference.read]
  rw [read]

theorem read_int_error (read : Text.readInt below above raw.toList = .error fault) :
    Preference.read "int" raw = .error (.argument (.badInt raw fault)) := by
  change Text.readInt (UInt64.size / 2) (UInt64.size / 2 - 1) raw.toList = .error fault at read
  simp only [Preference.read]
  rw [read]

theorem read_int_ok_iff : Preference.read "int" raw = .ok v ↔
    ∃ n : Int64, Text.Whole raw.toList n.toInt ∧ v = .number n := by
  constructor
  · intro done
    cases read : Text.readInt below above raw.toList with
    | error fault =>
        rw [read_int_error read] at done
        cases done
    | ok z =>
        obtain ⟨numeral, least, most⟩ := Text.readInt_ok_iff.mp read
        rw [read_int_ok read] at done
        exact ⟨Int64.ofInt z, (toInt_ofInt least most).symm ▸ numeral, (Except.ok.inj done).symm⟩
  · rintro ⟨n, numeral, rfl⟩
    have read := Text.readInt_ok_iff.mpr ⟨numeral, bounds n⟩
    rw [read_int_ok read, Int64.ofInt_toInt]

theorem read_int_error_iff (raw : String) :
    (¬∃ n : Int64, Text.Whole raw.toList n.toInt) ↔
      ∃ fault, Text.NotWhole below above raw.toList fault ∧
        Preference.read "int" raw = .error (.argument (.badInt raw fault)) := by
  constructor
  · intro none
    cases read : Text.readInt below above raw.toList with
    | error fault => exact ⟨fault, Text.readInt_error_iff.mp read, read_int_error read⟩
    | ok z =>
        obtain ⟨n, numeral, -⟩ := read_int_ok_iff.mp (read_int_ok read)
        exact absurd ⟨n, numeral⟩ none
  · rintro ⟨fault, -, failed⟩ ⟨n, numeral⟩
    rw [read_int_ok_iff.mpr ⟨n, numeral, rfl⟩] at failed
    cases failed

/-! ### All values -/

/-- What is shown of a value is read as that value. -/
theorem read_shown (v : Preference) : read v.kind v.shown = .ok v := by
  cases v with
  | flag b => cases b <;> rfl
  | number n => exact read_int_ok_iff.mpr ⟨n, Text.whole_toString n.toInt, rfl⟩
  | text s => rfl

/-- **What is shown can be typed.**  Every value is read back from its kind and what is shown of it.
A text is read as a number if and only if it is a numeral of that number, and if it is a numeral of
no number of 64 bits it is refused as an argument, with the fault that it has. -/
theorem reads_typed :
    (∀ v : Preference, read v.kind v.shown = .ok v) ∧
    (∀ (raw : String) (v : Preference), read "int" raw = .ok v ↔
      ∃ n : Int64, Text.Whole raw.toList n.toInt ∧ v = .number n) ∧
    ∀ raw : String, (¬∃ n : Int64, Text.Whole raw.toList n.toInt) ↔
      ∃ fault, Text.NotWhole below above raw.toList fault ∧
        read "int" raw = .error (.argument (.badInt raw fault)) :=
  ⟨read_shown, fun _ _ => read_int_ok_iff, read_int_error_iff⟩

end CaptureFlow.Preference
