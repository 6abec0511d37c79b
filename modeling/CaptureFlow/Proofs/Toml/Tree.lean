import CaptureFlow.Toml.Value
/-! # Documents as trees

A document is a tree of values.  Its tables are finite maps: their keys are distinct (`Keyed`), so
`lookup` finds what stands under a key wherever the entry stands (`lookup_eq_some_iff`).  In a
document that is well formed every word spells a value, and every integer fits into 64 bits, with a
sign or without one: there are no other integers in TOML (`Sound`). -/

namespace CaptureFlow.Toml

variable {entries : List (String × Value)} {elements : List Value} {key : String} {v w : Value}

def keys (entries : List (String × Value)) : List String := entries.map (·.1)

/-- The value `w` stands somewhere in `v`. -/
inductive Within (w : Value) : Value → Prop
  | self : Within w w
  | element {elements : List Value} {v : Value} (mem : v ∈ elements) (inside : Within w v) :
      Within w (.array elements)
  | entry {entries : List (String × Value)} {key : String} {v : Value}
      (mem : (key, v) ∈ entries) (inside : Within w v) : Within w (.table entries)

/-- The keys of every table in `v` are distinct. -/
def Keyed (v : Value) : Prop := ∀ entries, Within (.table entries) v → (keys entries).Nodup

/-- Every word in `v` spells a value, and every integer has 64 bits. -/
structure Sound (v : Value) : Prop where
  readable : ∀ spelling, ¬Within (.unreadable spelling) v
  bounded : ∀ n, Within (.integer n) v → -9223372036854775808 ≤ n ∧ n < 18446744073709551616

/-! ### What stands in a value -/

/-- The value is no array and no table. -/
structure Leaf (v : Value) : Prop where
  ne_array : ∀ elements, v ≠ .array elements
  ne_table : ∀ entries, v ≠ .table entries

theorem Leaf.eq_of_within (leaf : Leaf v) (inside : Within w v) : w = v := by
  cases inside with
  | self => rfl
  | element => exact absurd rfl (leaf.ne_array _)
  | entry => exact absurd rfl (leaf.ne_table _)

theorem keyed_of_leaf (leaf : Leaf v) : Keyed v :=
  fun entries inside => absurd (leaf.eq_of_within inside).symm (leaf.ne_table entries)

@[simp] theorem keyed_text (s : String) : Keyed (.text s) := keyed_of_leaf ⟨nofun, nofun⟩

@[simp] theorem keyed_integer (n : Int) : Keyed (.integer n) := keyed_of_leaf ⟨nofun, nofun⟩

@[simp] theorem keyed_boolean (b : Bool) : Keyed (.boolean b) := keyed_of_leaf ⟨nofun, nofun⟩

@[simp] theorem keyed_array_iff : Keyed (.array elements) ↔ ∀ v ∈ elements, Keyed v := by
  constructor
  · exact fun h v mem entries inside => h entries (.element mem inside)
  · intro h entries inside
    cases inside with
    | element mem inside => exact h _ mem entries inside

@[simp] theorem keyed_table_iff :
    Keyed (.table entries) ↔ (keys entries).Nodup ∧ ∀ entry ∈ entries, Keyed entry.2 := by
  constructor
  · exact fun h => ⟨h _ .self, fun entry mem inner inside => h inner (.entry mem inside)⟩
  · rintro ⟨distinct, h⟩ inner inside
    cases inside with
    | self => exact distinct
    | entry mem inside => exact h _ mem inner inside

@[simp] theorem sound_text (s : String) : Sound (.text s) := ⟨nofun, nofun⟩

@[simp] theorem sound_integer_iff {n : Int} :
    Sound (.integer n) ↔ -9223372036854775808 ≤ n ∧ n < 18446744073709551616 := by
  refine ⟨fun h => h.bounded n .self, fun bounds => ⟨nofun, ?_⟩⟩
  rintro _ ⟨⟩
  exact bounds

@[simp] theorem sound_boolean (b : Bool) : Sound (.boolean b) := ⟨nofun, nofun⟩

@[simp] theorem sound_array_iff : Sound (.array elements) ↔ ∀ v ∈ elements, Sound v := by
  constructor
  · intro h v mem
    exact ⟨fun s inside => h.readable s (.element mem inside),
      fun n inside => h.bounded n (.element mem inside)⟩
  · intro h
    refine ⟨fun s inside => ?_, fun n inside => ?_⟩
    · cases inside with
      | element mem inside => exact (h _ mem).readable s inside
    · cases inside with
      | element mem inside => exact (h _ mem).bounded n inside

@[simp] theorem sound_table_iff : Sound (.table entries) ↔ ∀ entry ∈ entries, Sound entry.2 := by
  constructor
  · intro h entry mem
    exact ⟨fun s inside => h.readable s (.entry mem inside),
      fun n inside => h.bounded n (.entry mem inside)⟩
  · intro h
    refine ⟨fun s inside => ?_, fun n inside => ?_⟩
    · cases inside with
      | entry mem inside => exact (h _ mem).readable s inside
    · cases inside with
      | entry mem inside => exact (h _ mem).bounded n inside

theorem Keyed.element (h : Keyed (.array elements)) (mem : v ∈ elements) : Keyed v :=
  keyed_array_iff.mp h v mem

theorem Keyed.entry (h : Keyed (.table entries)) (mem : (key, v) ∈ entries) : Keyed v :=
  (keyed_table_iff.mp h).2 _ mem

theorem Keyed.distinct (h : Keyed (.table entries)) : (keys entries).Nodup := h _ .self

theorem Sound.element (h : Sound (.array elements)) (mem : v ∈ elements) : Sound v :=
  sound_array_iff.mp h v mem

theorem Sound.entry (h : Sound (.table entries)) (mem : (key, v) ∈ entries) : Sound v :=
  sound_table_iff.mp h _ mem

/-! ### Entries -/

theorem mem_keys (mem : (key, v) ∈ entries) : key ∈ keys entries :=
  List.mem_map.mpr ⟨_, mem, rfl⟩

theorem lookup_cons (key : String) (entry : String × Value) (entries : List (String × Value)) :
    lookup key (entry :: entries) =
      if entry.1 = key then some entry.2 else lookup key entries := by
  by_cases same : entry.1 = key <;> simp [lookup, same]

theorem lookup_eq_none_iff : lookup key entries = none ↔ key ∉ keys entries := by
  induction entries with
  | nil => simp [lookup, keys]
  | cons entry entries ih =>
      rw [lookup_cons, keys, List.map_cons, List.mem_cons, not_or]
      split
      case isTrue same => simp [same]
      case isFalse other =>
        rw [ih, and_iff_right fun same => other same.symm]
        rfl

theorem mem_of_lookup (found : lookup key entries = some v) : (key, v) ∈ entries := by
  obtain ⟨entry, here, rfl⟩ := Option.map_eq_some_iff.mp found
  have same : entry.1 = key := by simpa using List.find?_some here
  rw [← same]
  exact List.mem_of_find?_eq_some here

theorem lookup_eq_some_iff (distinct : (keys entries).Nodup) :
    lookup key entries = some v ↔ (key, v) ∈ entries := by
  refine ⟨mem_of_lookup, fun mem => ?_⟩
  induction entries with
  | nil => cases mem
  | cons entry entries ih =>
      obtain ⟨fresh, distinct⟩ := List.nodup_cons.mp distinct
      rw [lookup_cons]
      rcases List.mem_cons.mp mem with rfl | mem
      · exact if_pos rfl
      · have other : entry.1 ≠ key := by
          rintro rfl
          exact fresh (mem_keys mem)
        rw [if_neg other, ih distinct mem]

end CaptureFlow.Toml
