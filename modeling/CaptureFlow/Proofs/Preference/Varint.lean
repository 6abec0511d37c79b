import Mathlib.Data.Nat.Digits.Defs
import CaptureFlow.Preference.Varint
/-! # Written forms of numbers

A written form of a number holds its digits to the base 128, the lowest first, one in the low seven
bits of each byte; a set high bit says that more bytes follow (`Writes`).  The highest digits may be
zero, so a number has many written forms.  A reader of some width takes those that are short enough
and whose number is small enough: at most five bytes and below `2 ^ 32`, or at most ten bytes and
below `2 ^ 64` (`Spells`).

Reading finds exactly these at the front of its bytes (`read_iff`).  What `write` gives is one of
them, and every other one is longer (`Writes.shortest`). -/

namespace CaptureFlow

namespace Varint

/-! ### Digits to the base 128 -/

def digit (b : UInt8) : Nat := b.toNat % 128

/-- The bytes carry the digits of `n`, and the last of them is the one with a clear high bit. -/
structure Writes (bytes : Bytes) (n : Nat) : Prop where
  continued : ∀ b ∈ bytes.dropLast, 128 ≤ b.toNat
  ends : ∃ b ∈ bytes.getLast?, b.toNat < 128
  value : Nat.ofDigits 128 (bytes.map digit) = n

/-- All numbers that a reader of this width takes lie below this one. -/
def Width.limit (width : Width) : Nat := 128 ^ (width.places - 1) * (width.lastMax + 1)

/-- The bytes are a written form of `n` that a reader of this width takes. -/
structure Spells (width : Width) (bytes : Bytes) (n : Nat) : Prop extends Writes bytes n where
  short : bytes.length ≤ width.places
  fits : n < width.limit

theorem limit_word32 : word32.limit = 2 ^ 32 := rfl

theorem limit_word64 : word64.limit = 2 ^ 64 := rfl

theorem limit_single (lastMax : Nat) : Width.limit ⟨1, lastMax⟩ = lastMax + 1 := Nat.one_mul _

theorem limit_step (places lastMax : Nat) :
    Width.limit ⟨places + 2, lastMax⟩ = 128 * Width.limit ⟨places + 1, lastMax⟩ := by
  show 128 ^ (places + 1) * (lastMax + 1) = 128 * (128 ^ places * (lastMax + 1))
  rw [Nat.pow_succ', Nat.mul_assoc]

theorem limit_pos (width : Width) : 0 < width.limit :=
  Nat.mul_pos (Nat.pow_pos (by decide)) (Nat.succ_pos _)

variable {bytes rest : Bytes} {b : UInt8} {n lastMax places : Nat} {width : Width}

theorem not_writes_nil : ¬Writes [] n := by
  rintro ⟨-, ⟨b, last, -⟩, -⟩
  cases last

theorem Writes.length_pos (h : Writes bytes n) : 0 < bytes.length :=
  List.length_pos_iff.mpr fun none => not_writes_nil (none ▸ h)

/-- A written form is a last byte, or a byte that continues and a written form of the rest. -/
theorem writes_cons_iff :
    Writes (b :: rest) n ↔ (b.toNat < 128 ∧ rest = [] ∧ n = b.toNat) ∨
      (128 ≤ b.toNat ∧ ∃ high, Writes rest high ∧ n = b.toNat - 128 + 128 * high) := by
  have byte := b.toNat_lt
  cases rest with
  | nil =>
      constructor
      · rintro ⟨-, ⟨c, last, clear⟩, value⟩
        obtain rfl : b = c := Option.some.inj last
        rw [List.map_singleton, Nat.ofDigits_singleton, digit] at value
        exact .inl ⟨clear, rfl, by omega⟩
      · rintro (⟨clear, -, rfl⟩ | ⟨-, high, written, -⟩)
        · refine ⟨by simp, ⟨b, rfl, clear⟩, ?_⟩
          rw [List.map_singleton, Nat.ofDigits_singleton, digit, Nat.mod_eq_of_lt clear]
        · exact absurd written not_writes_nil
  | cons c rest =>
      constructor
      · rintro ⟨continued, ends, value⟩
        have set : 128 ≤ b.toNat := continued b (List.mem_cons_self ..)
        refine .inr ⟨set, _, ⟨?_, ends, rfl⟩, ?_⟩
        · exact fun d mem => continued d (List.mem_cons_of_mem _ mem)
        · rw [List.map_cons, Nat.ofDigits_cons, digit] at value
          omega
      · rintro (⟨-, none, -⟩ | ⟨set, high, written, rfl⟩)
        · cases none
        · refine ⟨?_, written.ends, ?_⟩
          · intro d mem
            rcases List.mem_cons.mp mem with rfl | mem
            · exact set
            · exact written.continued d mem
          · rw [List.map_cons, Nat.ofDigits_cons, written.value, digit]
            omega

/-- A written form within the limits is taken apart in the same way.  Only the last byte that a
reader may take is limited by more than its high bit. -/
theorem spells_cons_iff :
    Spells ⟨places + 1, lastMax⟩ (b :: rest) n ↔
      (b.toNat < 128 ∧ rest = [] ∧ n = b.toNat ∧ (places = 0 → b.toNat ≤ lastMax)) ∨
      (128 ≤ b.toNat ∧ ∃ high, Spells ⟨places, lastMax⟩ rest high ∧
        n = b.toNat - 128 + 128 * high) := by
  constructor
  · rintro ⟨writes, short, fits⟩
    rcases writes_cons_iff.mp writes with ⟨clear, rfl, rfl⟩ | ⟨set, high, written, rfl⟩
    · refine .inl ⟨clear, rfl, rfl, ?_⟩
      rintro rfl
      rw [limit_single] at fits
      exact Nat.le_of_lt_succ fits
    · have short : rest.length ≤ places := Nat.le_of_succ_le_succ short
      have some := written.length_pos
      obtain ⟨fewer, rfl⟩ := Nat.exists_eq_add_one.mpr (Nat.lt_of_lt_of_le some short)
      rw [limit_step] at fits
      exact .inr ⟨set, high, ⟨written, short, by omega⟩, rfl⟩
  · rintro (⟨clear, rfl, rfl, last⟩ | ⟨set, high, spelled, rfl⟩)
    · refine ⟨writes_cons_iff.mpr (.inl ⟨clear, rfl, rfl⟩), Nat.succ_le_succ (Nat.zero_le _), ?_⟩
      cases places with
      | zero => rw [limit_single]; exact Nat.lt_succ_of_le (last rfl)
      | succ fewer =>
          have positive := limit_pos ⟨fewer + 1, lastMax⟩
          rw [limit_step]
          omega
    · have some := spelled.length_pos
      have short : rest.length ≤ places := spelled.short
      have fits := spelled.fits
      have byte := b.toNat_lt
      obtain ⟨fewer, rfl⟩ := Nat.exists_eq_add_one.mpr (Nat.lt_of_lt_of_le some short)
      refine ⟨writes_cons_iff.mpr (.inr ⟨set, high, spelled.toWrites, rfl⟩),
        Nat.succ_le_succ short, ?_⟩
      rw [limit_step]
      omega

/-! ### Reading -/

theorem not_spells_zero : ¬Spells ⟨0, lastMax⟩ bytes n := fun h =>
  Nat.not_lt.mpr h.short h.length_pos

/-- The reader takes one byte after the other, as `spells_cons_iff` does. -/
theorem readPlaces_iff (lastMax places : Nat) (bytes : Bytes) (n : Nat) (rest : Bytes) :
    readPlaces lastMax places bytes = .ok (n, rest) ↔
      ∃ front, bytes = front ++ rest ∧ Spells ⟨places, lastMax⟩ front n := by
  induction places generalizing bytes n with
  | zero =>
      refine iff_of_false (by simp [readPlaces]) ?_
      rintro ⟨front, -, spelled⟩
      exact not_spells_zero spelled
  | succ places ih =>
      cases bytes with
      | nil =>
          refine iff_of_false (by simp [readPlaces]) ?_
          rintro ⟨front, none, spelled⟩
          exact not_writes_nil ((List.append_eq_nil_iff.mp none.symm).1 ▸ spelled.toWrites)
      | cons b after =>
          constructor
          · intro read
            simp only [readPlaces] at read
            split at read
            next clear =>
              split at read
              next => cases read
              next last =>
                cases read
                exact ⟨[b], rfl, spells_cons_iff.mpr (.inl ⟨clear, rfl, rfl, by omega⟩)⟩
            next set =>
              split at read
              next => cases read
              next high _ readHigh =>
                cases read
                obtain ⟨front, rfl, spelled⟩ := (ih ..).mp readHigh
                exact ⟨b :: front, rfl,
                  spells_cons_iff.mpr (.inr ⟨Nat.le_of_not_lt set, high, spelled, rfl⟩)⟩
          · rintro ⟨front, split, spelled⟩
            cases front with
            | nil => exact absurd spelled.toWrites not_writes_nil
            | cons c front =>
                rw [List.cons_append] at split
                obtain ⟨rfl, rfl⟩ := List.cons.inj split
                rcases spells_cons_iff.mp spelled with
                  ⟨clear, rfl, rfl, last⟩ | ⟨set, high, after, rfl⟩
                · simp only [readPlaces, if_pos clear]
                  rw [if_neg (by omega)]
                  rfl
                · simp only [readPlaces, if_neg (Nat.not_lt.mpr set)]
                  rw [(ih ..).mpr ⟨front, rfl, after⟩]

/-- A reader finds the written forms that it takes, and nothing else. -/
theorem read_iff :
    read width bytes = .ok (n, rest) ↔ ∃ front, bytes = front ++ rest ∧ Spells width front n :=
  readPlaces_iff width.lastMax width.places bytes n rest

/-! ### Writing -/

theorem toNat_toUInt8 {n : Nat} (small : n < 256) : n.toUInt8.toNat = n :=
  UInt8.toNat_ofNat_of_lt' small

theorem writes_write (n : Nat) : Writes (write n) n := by
  induction n using Nat.strongRecOn with
  | ind n ih =>
      rcases Nat.lt_or_ge n 128 with small | large
      · rw [write_small small]
        have byte := toNat_toUInt8 (Nat.lt_trans small (by decide))
        exact writes_cons_iff.mpr (.inl ⟨by omega, rfl, byte.symm⟩)
      · rw [write_large large]
        have byte := toNat_toUInt8 (show n % 128 + 128 < 256 by omega)
        exact writes_cons_iff.mpr (.inr ⟨by omega, _, ih (n / 128) (by omega), by omega⟩)

/-- A number takes as many bytes as it has digits. -/
theorem length_write_le_iff (k : Nat) : (write n).length ≤ k + 1 ↔ n < 128 ^ (k + 1) := by
  induction k generalizing n with
  | zero =>
      rcases Nat.lt_or_ge n 128 with small | large
      · simp [write_small small, small]
      · have some := (writes_write (n / 128)).length_pos
        rw [write_large large, List.length_cons]
        omega
  | succ k ih =>
      rcases Nat.lt_or_ge n 128 with small | large
      · have bound : 128 ≤ 128 ^ (k + 1 + 1) := Nat.le_self_pow (by omega) 128
        rw [write_small small]
        exact iff_of_true (Nat.succ_le_succ (Nat.zero_le _)) (by omega)
      · rw [write_large large, List.length_cons, Nat.add_le_add_iff_right, ih,
          Nat.div_lt_iff_lt_mul (by decide), ← Nat.pow_succ]

/-- What is written can be read, if the reader is wide enough. -/
theorem spells_write (some : 0 < width.places) (enough : width.limit ≤ 128 ^ width.places)
    (fits : n < width.limit) : Spells width (write n) n := by
  refine ⟨writes_write n, ?_, fits⟩
  obtain ⟨k, places⟩ := Nat.exists_eq_add_one.mpr some
  rw [places] at enough ⊢
  exact (length_write_le_iff k).mpr (Nat.lt_of_lt_of_le fits enough)

theorem spells_write_word32 (fits : n < 2 ^ 32) : Spells word32 (write n) n :=
  spells_write (by decide) (by decide) (limit_word32.symm ▸ fits)

theorem spells_write_word64 (fits : n < 2 ^ 64) : Spells word64 (write n) n :=
  spells_write (by decide) (by decide) (limit_word64.symm ▸ fits)

/-- Every written form but one is longer than what is written. -/
theorem Writes.shortest (h : Writes bytes n) :
    bytes = write n ∨ (write n).length < bytes.length := by
  induction bytes generalizing n with
  | nil => exact absurd h not_writes_nil
  | cons b rest ih =>
      rcases writes_cons_iff.mp h with ⟨clear, rfl, rfl⟩ | ⟨set, high, written, rfl⟩
      · left
        rw [write_small clear]
        exact congrArg (· :: []) UInt8.ofNat_toNat.symm
      · have byte := b.toNat_lt
        have some := written.length_pos
        rcases Nat.eq_zero_or_pos high with rfl | positive
        · right
          rw [write_small (by omega)]
          exact Nat.succ_lt_succ some
        · have same : ((b.toNat - 128 + 128 * high) % 128 + 128).toUInt8 = b := by
            rw [show (b.toNat - 128 + 128 * high) % 128 + 128 = b.toNat by omega]
            exact UInt8.ofNat_toNat
          rw [write_large (by omega), same,
            show (b.toNat - 128 + 128 * high) / 128 = high by omega]
          rcases ih written with eq | longer
          · exact .inl (congrArg (b :: ·) eq)
          · exact .inr (Nat.succ_lt_succ longer)

end Varint

end CaptureFlow
