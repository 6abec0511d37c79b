import CaptureFlow.Preference.Encoding
import CaptureFlow.Proofs.Preference.Varint
/-! # Written forms of preferences

A payload is the written form of the index of a kind, and then a byte that is zero or one, the
written form of a folded number, or the length and the UTF-8 bytes of a text (`Spells`).  Index,
number and length may be written with more bytes than they need.

The reader finds exactly these at the front of a payload and does not look at what follows
(`readPayload_iff`).  `payload` gives one written form of every value whose form is not out of all
bounds, and every other one is longer (`Spells.shortest`). -/

namespace CaptureFlow

/-! ### Folded numbers -/

namespace Varint

/-- Numbers that are not negative become the even ones, in their order, and the others the odd ones,
beginning at minus one. -/
def Folds (n : Int) (m : Nat) : Prop := (m : Int) = if 0 ≤ n then 2 * n else -2 * n - 1

theorem folds_fold (n : Int) : Folds n (fold n) := by
  unfold Folds fold
  split <;> omega

theorem Folds.eq_fold {n : Int} {m : Nat} (h : Folds n m) : m = fold n := by
  have own := folds_fold n
  unfold Folds at h own
  omega

theorem folds_unfold (m : Nat) : Folds (unfold m) m := by
  unfold Folds unfold
  simp only [Int.ofNat_eq_natCast]
  split <;> split <;> omega

theorem Folds.bounds {n : Int} {m : Nat} (h : Folds n m) :
    m < 2 ^ 64 ↔ -2 ^ 63 ≤ n ∧ n < 2 ^ 63 := by
  unfold Folds at h
  split at h <;> omega

end Varint

/-! ### Texts as bytes -/

theorem textOfBytes?_iff {bytes : Bytes} {s : String} :
    textOfBytes? bytes = some s ↔ bytes = textBytes s := by
  unfold textOfBytes? textBytes String.fromUTF8?
  constructor
  · intro read
    split at read
    next valid =>
      obtain rfl := Option.some.inj read
      rfl
    next => cases read
  · rintro rfl
    have same : ByteArray.mk s.toByteArray.data.toList.toArray = s.toByteArray := by
      rw [Array.toArray_toList]
    rw [same, dif_pos s.isValidUTF8]
    rfl

namespace Preference

/-! ### The grammar -/

/-- The bytes are a written form of the value. -/
inductive Spells : Bytes → Preference → Prop
  | flag {kind : Bytes} (named : Varint.Spells Varint.word32 kind 0) (b : Bool) :
      Spells (kind ++ [if b then 1 else 0]) (.flag b)
  | number {kind digits : Bytes} {m : Nat} {n : Int64}
      (named : Varint.Spells Varint.word32 kind 1) (written : Varint.Spells Varint.word64 digits m)
      (folds : Varint.Folds n.toInt m) : Spells (kind ++ digits) (.number n)
  | text {kind size : Bytes} {s : String} (named : Varint.Spells Varint.word32 kind 2)
      (sized : Varint.Spells Varint.word64 size (textBytes s).length) :
      Spells (kind ++ (size ++ textBytes s)) (.text s)

/-! ### Reading -/

variable {bytes : Bytes} {v : Preference}

theorem readFlag_iff :
    readFlag bytes = .ok v ↔ ∃ (b : Bool) (rest : Bytes),
      bytes = (if b then 1 else 0) :: rest ∧ v = .flag b := by
  constructor
  · intro read
    cases bytes with
    | nil => cases read
    | cons c rest =>
        simp only [readFlag] at read
        split at read
        next zero => cases read; exact ⟨false, rest, congrArg (· :: rest) zero, rfl⟩
        next =>
          split at read
          next one => cases read; exact ⟨true, rest, congrArg (· :: rest) one, rfl⟩
          next => cases read
  · rintro ⟨b, rest, rfl, rfl⟩
    cases b <;> rfl

theorem readNumber_iff :
    readNumber bytes = .ok v ↔ ∃ (digits rest : Bytes) (m : Nat) (n : Int64),
      bytes = digits ++ rest ∧ Varint.Spells Varint.word64 digits m ∧ Varint.Folds n.toInt m ∧
        v = .number n := by
  unfold readNumber
  constructor
  · intro read
    split at read
    next => cases read
    next m rest found =>
      cases read
      obtain ⟨digits, rfl, written⟩ := Varint.read_iff.mp found
      have folds := Varint.folds_unfold m
      obtain ⟨low, high⟩ := folds.bounds.mp (Varint.limit_word64 ▸ written.fits)
      refine ⟨digits, rest, m, _, rfl, written, ?_, rfl⟩
      rwa [Int64.toInt_ofInt_of_le low high]
  · rintro ⟨digits, rest, m, n, rfl, written, folds, rfl⟩
    rw [Varint.read_iff.mpr ⟨digits, rfl, written⟩]
    simp only [folds.eq_fold, Varint.unfold_fold, Int64.ofInt_toInt]

theorem readText_iff :
    readText bytes = .ok v ↔ ∃ (size rest : Bytes) (s : String),
      bytes = size ++ (textBytes s ++ rest) ∧
        Varint.Spells Varint.word64 size (textBytes s).length ∧ v = .text s := by
  unfold readText
  constructor
  · intro read
    split at read
    next => cases read
    next length after found =>
      obtain ⟨size, rfl, sized⟩ := Varint.read_iff.mp found
      split at read
      next => cases read
      next enough =>
        split at read
        next s text =>
          cases read
          have front := textOfBytes?_iff.mp text
          have length_eq : (textBytes s).length = length := by
            rw [← front, List.length_take]
            omega
          refine ⟨size, after.drop length, s, ?_, length_eq ▸ sized, rfl⟩
          rw [← front, List.take_append_drop]
        next => cases read
  · rintro ⟨size, rest, s, rfl, sized, rfl⟩
    rw [Varint.read_iff.mpr ⟨size, rfl, sized⟩]
    simp only [List.length_append, List.take_left]
    rw [if_neg (by omega), textOfBytes?_iff.mpr rfl]

/-- The reader finds the written forms of values, and nothing else. -/
theorem readPayload_iff :
    readPayload bytes = .ok v ↔ ∃ payload rest, bytes = payload ++ rest ∧ Spells payload v := by
  unfold readPayload
  constructor
  · intro read
    split at read
    next => cases read
    next after found =>
      obtain ⟨kind, rfl, named⟩ := Varint.read_iff.mp found
      obtain ⟨b, rest, rfl, rfl⟩ := readFlag_iff.mp read
      exact ⟨_, rest, by rw [List.append_assoc]; rfl, .flag named b⟩
    next after found =>
      obtain ⟨kind, rfl, named⟩ := Varint.read_iff.mp found
      obtain ⟨digits, rest, m, n, rfl, written, folds, rfl⟩ := readNumber_iff.mp read
      exact ⟨_, rest, (List.append_assoc ..).symm, .number named written folds⟩
    next after found =>
      obtain ⟨kind, rfl, named⟩ := Varint.read_iff.mp found
      obtain ⟨size, rest, s, rfl, sized, rfl⟩ := readText_iff.mp read
      exact ⟨_, rest, by simp only [List.append_assoc], .text named sized⟩
    next => cases read
  · rintro ⟨payload, rest, rfl, spelled⟩
    cases spelled with
    | flag named b =>
        rw [List.append_assoc, Varint.read_iff.mpr ⟨_, rfl, named⟩]
        exact readFlag_iff.mpr ⟨b, rest, rfl, rfl⟩
    | number named written folds =>
        rw [List.append_assoc, Varint.read_iff.mpr ⟨_, rfl, named⟩]
        exact readNumber_iff.mpr ⟨_, rest, _, _, rfl, written, folds, rfl⟩
    | text named sized =>
        rw [List.append_assoc, Varint.read_iff.mpr ⟨_, rfl, named⟩]
        exact readText_iff.mpr ⟨_, rest, _, List.append_assoc .., sized, rfl⟩

/-! ### Writing -/

/-- Every value that is not out of all bounds is written in its grammar. -/
theorem spells_payload (fits : v.payload.length < 2 ^ 64) : Spells v.payload v := by
  cases v with
  | flag b => exact .flag (Varint.spells_write_word32 (by decide)) b
  | number n =>
      have folds := Varint.folds_fold n.toInt
      have fits := folds.bounds.mpr ⟨n.le_toInt, n.toInt_lt⟩
      exact .number (Varint.spells_write_word32 (by decide)) (Varint.spells_write_word64 fits) folds
  | text s =>
      have fits : (textBytes s).length < 2 ^ 64 := by
        simp only [payload, List.length_append] at fits
        omega
      rw [payload, List.append_assoc]
      exact .text (Varint.spells_write_word32 (by decide)) (Varint.spells_write_word64 fits)

/-- Of two pairs of forms put together, the one with a longer part is longer. -/
theorem append_shortest {a a' b b' : Bytes} (h : a' = a ∨ a.length < a'.length)
    (h' : b' = b ∨ b.length < b'.length) :
    a' ++ b' = a ++ b ∨ (a ++ b).length < (a' ++ b').length := by
  rw [List.length_append, List.length_append]
  rcases h with rfl | longer
  · rcases h' with rfl | longer
    · exact .inl rfl
    · exact .inr (Nat.add_lt_add_left longer _)
  · rcases h' with rfl | longer'
    · exact .inr (Nat.add_lt_add_right longer _)
    · exact .inr (Nat.add_lt_add longer longer')

/-- Every written form but one is longer than what is written. -/
theorem Spells.shortest (h : Spells bytes v) :
    bytes = v.payload ∨ v.payload.length < bytes.length := by
  cases h with
  | flag named b => exact append_shortest named.shortest (.inl rfl)
  | number named written folds =>
      exact append_shortest named.shortest (folds.eq_fold ▸ written.shortest)
  | text named sized =>
      rw [payload, List.append_assoc]
      exact append_shortest named.shortest (append_shortest sized.shortest (.inl rfl))

end Preference

end CaptureFlow
