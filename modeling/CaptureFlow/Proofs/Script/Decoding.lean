import Mathlib.Data.Option.Basic
import CaptureFlow.Proofs.Toml.Tree
import CaptureFlow.Script.Decode
/-! # What is read off a table

For each kind of table in a script the fields that reading looks up, and what it wants of them
(`Script.size?_table_iff`, `Script.camera?_table_iff`, `Script.step?_table_iff`,
`Script.ofTable?_iff`).  Everything else about tables follows from these. -/

namespace CaptureFlow.Script

open Toml (Value Sound lookup keys)

variable {entries : List (String × Value)}

/-! ### Numbers -/

theorem uint16?_ofNat (n : UInt16) : uint16? (.integer n.toNat) = some n := by
  show (if n.toNat < UInt16.size then some n.toNat else none).map Nat.toUInt16 = some n
  rw [if_pos n.toNat_lt]
  exact congrArg some UInt16.ofNat_toNat

theorem uint32?_ofNat (n : UInt32) : uint32? (.integer n.toNat) = some n := by
  show (if n.toNat < UInt32.size then some n.toNat else none).map Nat.toUInt32 = some n
  rw [if_pos n.toNat_lt]
  exact congrArg some UInt32.ofNat_toNat

theorem uint64?_ofNat (n : UInt64) : uint64? (.integer n.toNat) = some n := by
  show (if n.toNat < UInt64.size then some n.toNat else none).map Nat.toUInt64 = some n
  rw [if_pos n.toNat_lt]
  exact congrArg some UInt64.ofNat_toNat

/-- The integer `n` is negative or reaches the limit. -/
def Outside (limit : Nat) (n : Int) : Prop := n < 0 ∨ limit ≤ n

theorem natBelow?_eq_none {limit : Nat} {n : Int} (outside : Outside limit n) :
    natBelow? limit (.integer n) = none := by
  cases n with
  | ofNat n =>
      rcases outside with negative | reached
      · exact absurd negative (Int.not_lt.mpr (Int.natCast_nonneg n))
      · exact if_neg (Nat.not_lt.mpr (Int.ofNat_le.mp reached))
  | negSucc n => rfl

/-! ### Values that may be ignored -/

mutual

/-- What stands in a document that is well formed fits wherever it is ignored. -/
theorem fits_of_sound {bits : Nat} (wide : 64 ≤ bits) :
    (v : Value) → Sound v → fits bits v = true
  | .text _, _ => rfl
  | .integer n, sound => by
      obtain ⟨least, most⟩ := sound.bounded n .self
      have low : (2 : Int) ^ 63 ≤ 2 ^ (bits - 1) := by
        exact_mod_cast Nat.pow_le_pow_right (by decide) (Nat.le_sub_one_of_lt wide)
      have high : (2 : Int) ^ 64 ≤ 2 ^ bits := by
        exact_mod_cast Nat.pow_le_pow_right (by decide) wide
      show decide (-2 ^ (bits - 1) ≤ n ∧ n < 2 ^ bits) = true
      rw [decide_eq_true_eq]
      omega
  | .float _, _ => rfl
  | .boolean _, _ => rfl
  | .moment _, _ => rfl
  | .unreadable s, sound => absurd .self (sound.readable s)
  | .array elements, sound => allFit_of_sound wide elements fun _ mem => sound.element mem
  | .table entries, sound => entriesFit_of_sound wide entries fun _ mem => sound.entry mem

theorem allFit_of_sound {bits : Nat} (wide : 64 ≤ bits) :
    (elements : List Value) → (∀ v ∈ elements, Sound v) → allFit bits elements = true
  | [], _ => rfl
  | v :: rest, sound => by
      rw [allFit, fits_of_sound wide v (sound v (List.mem_cons_self ..)),
        allFit_of_sound wide rest fun w mem => sound w (List.mem_cons_of_mem _ mem)]
      rfl

theorem entriesFit_of_sound {bits : Nat} (wide : 64 ≤ bits) :
    (entries : List (String × Value)) → (∀ entry ∈ entries, Sound entry.2) →
      entriesFit bits entries = true
  | [], _ => rfl
  | (key, v) :: rest, sound => by
      rw [entriesFit, fits_of_sound wide v (sound (key, v) (List.mem_cons_self ..)),
        entriesFit_of_sound wide rest fun entry mem => sound entry (List.mem_cons_of_mem _ mem)]
      rfl

end

/-! ### Tables -/

theorem guard_bind_eq_some_iff {α : Type} {p : Prop} [Decidable p] {x : Option α} {a : α} :
    (guard p >>= fun _ => x) = some a ↔ p ∧ x = some a := by
  rw [Option.bind_eq_bind, Option.bind_eq_some_iff]
  constructor
  · rintro ⟨u, passes, found⟩
    exact ⟨(Option.guard_eq_some' u).mp passes, found⟩
  · exact fun ⟨h, found⟩ => ⟨(), (Option.guard_eq_some' ()).mpr h, found⟩

theorem all_contains_iff {known : List String} :
    (entries.all fun entry => known.contains entry.1) = true ↔
      ∀ key ∈ keys entries, key ∈ known := by
  simp [keys]

theorem size?_table_iff {strictness : Strictness} {size : Size} :
    size? strictness (.table entries) = some size ↔ entriesFit 128 entries = true ∧
      (lookup "width" entries).bind uint32? = some size.width ∧
      (lookup "height" entries).bind uint32? = some size.height := by
  rw [size?, guard_bind_eq_some_iff]
  simp only [Option.bind_eq_bind, Option.bind_eq_some_iff, Option.pure_def, Option.some.injEq]
  constructor
  · rintro ⟨fit, w, foundW, width, isW, h, foundH, height, isH, rfl⟩
    exact ⟨fit, ⟨w, foundW, isW⟩, h, foundH, isH⟩
  · rintro ⟨fit, ⟨w, foundW, isW⟩, h, foundH, isH⟩
    exact ⟨fit, w, foundW, _, isW, h, foundH, _, isH, rfl⟩

theorem camera?_table_iff {c : CameraSpec} : camera? (.table entries) = some c ↔
    (∀ key ∈ keys entries, key ∈ cameraFields) ∧
      optional? uint64? 2 (lookup "count" entries) = some c.count ∧
      optional? uint16? 90 (lookup "sensor_orientation" entries) = some c.sensorOrientation ∧
      optional? (fun v => (listOf? (size? .lenient) v).map some) none
        (lookup "preview_sizes" entries) = some c.previewSizes ∧
      optional? (fun v => (size? .lenient v).map some) none
        (lookup "picture_size" entries) = some c.pictureSize ∧
      optional? flag? false (lookup "fail_preview" entries) = some c.failPreview := by
  rw [camera?, guard_bind_eq_some_iff, all_contains_iff]
  simp only [cameraOfFields?, Option.bind_eq_bind, Option.bind_eq_some_iff, Option.pure_def,
    Option.some.injEq]
  constructor
  · rintro ⟨known, count, h₁, sensor, h₂, previews, h₃, picture, h₄, fail, h₅, rfl⟩
    exact ⟨known, h₁, h₂, h₃, h₄, h₅⟩
  · rintro ⟨known, h₁, h₂, h₃, h₄, h₅⟩
    exact ⟨known, _, h₁, _, h₂, _, h₃, _, h₄, _, h₅, rfl⟩

theorem step?_table_iff {step : Step} : step? (.table entries) = some step ↔
    fits 64 (.table entries) = true ∧ ∃ event, lookup "event" entries = some (.text event) ∧
      stepOfFields? event (fun name => lookup name entries) = some step := by
  rw [step?, guard_bind_eq_some_iff]
  apply and_congr_right
  intro fit
  split
  case h_1 event found => simp [found]
  case h_2 other =>
    constructor
    · rintro ⟨⟩
    · rintro ⟨event, found, -⟩
      exact absurd found (other event)

theorem ofTable?_iff {s : Script} : ofTable? entries = some s ↔
    (∀ key ∈ keys entries, key ∈ scriptFields) ∧
      optional? (orientation? .lenient) .portrait (lookup "orientation" entries) =
        some s.orientation ∧
      optional? camera? {} (lookup "camera" entries) = some s.camera ∧
      optional? (listOf? step?) [] (lookup "step" entries) = some s.steps := by
  rw [ofTable?, guard_bind_eq_some_iff, all_contains_iff]
  simp only [Option.bind_eq_bind, Option.bind_eq_some_iff, Option.pure_def, Option.some.injEq]
  constructor
  · rintro ⟨known, orientation, h₁, camera, h₂, steps, h₃, rfl⟩
    exact ⟨known, h₁, h₂, h₃⟩
  · rintro ⟨known, h₁, h₂, h₃⟩
    exact ⟨known, _, h₁, _, h₂, _, h₃, rfl⟩

end CaptureFlow.Script
