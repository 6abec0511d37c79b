import Mathlib.Data.List.Induction
import CaptureFlow.Geometry.Selection
/-! # The largest preview size

`largest?` runs through the offered sizes and keeps the best one so far.  What it ends with is the
first of the sizes that have the most pixels (`firstLargest_of_largest?`); the pixels of a size are
counted without loss (`area_toNat`).

Two lists, one after the other, have the better one of their two best sizes, and the first list wins
a tie (`largest?_append`).  With the place of a size, `LargestAt`, this says from which of the two
lists a size is taken (`LargestAt.in_second_iff`). -/

namespace CaptureFlow

/-! ### Pixels -/

namespace Size

def pixels (s : Size) : Nat := s.width.toNat * s.height.toNat

theorem area_toNat (s : Size) : s.area.toNat = s.pixels := by
  have fits : s.pixels < UInt64.size :=
    calc s.width.toNat * s.height.toNat
        < UInt32.size * UInt32.size := Nat.mul_lt_mul'' s.width.toNat_lt_size s.height.toNat_lt_size
      _ = UInt64.size := rfl
  rw [area, UInt64.toNat_mul, UInt32.toNat_toUInt64, UInt32.toNat_toUInt64]
  exact Nat.mod_eq_of_lt fits

theorem area_lt_iff {s t : Size} : s.area < t.area ↔ s.pixels < t.pixels := by
  rw [UInt64.lt_iff_toNat_lt, area_toNat, area_toNat]

end Size

/-! ### The first of the largest -/

/-- Of the sizes with the most pixels, `s` is the first. -/
def FirstLargest (s : Size) (sizes : List Size) : Prop :=
  ∃ before after, sizes = before ++ s :: after ∧ (∀ t ∈ before, t.pixels < s.pixels) ∧
    ∀ t ∈ after, t.pixels ≤ s.pixels

theorem firstLargest_singleton (s : Size) : FirstLargest s [s] :=
  ⟨[], [], rfl, fun _ mem => absurd mem List.not_mem_nil, fun _ mem => absurd mem List.not_mem_nil⟩

theorem FirstLargest.le {s t : Size} {sizes : List Size} (h : FirstLargest s sizes)
    (mem : t ∈ sizes) : t.pixels ≤ s.pixels := by
  obtain ⟨before, after, rfl, less, atMost⟩ := h
  rcases List.mem_append.mp mem with mem | mem
  · exact Nat.le_of_lt (less t mem)
  · rcases List.mem_cons.mp mem with rfl | mem
    · exact Nat.le_refl _
    · exact atMost t mem

/-- The best size of a second list takes the place of that of the first only if it has more
pixels. -/
theorem FirstLargest.append {s t : Size} {xs ys : List Size} (h : FirstLargest s xs)
    (h' : FirstLargest t ys) : FirstLargest (if s.area < t.area then t else s) (xs ++ ys) := by
  split
  next more =>
    rw [Size.area_lt_iff] at more
    obtain ⟨before, after, rfl, less, atMost⟩ := h'
    refine ⟨xs ++ before, after, (List.append_assoc ..).symm, fun u mem => ?_, atMost⟩
    rcases List.mem_append.mp mem with mem | mem
    · exact Nat.lt_of_le_of_lt (h.le mem) more
    · exact less u mem
  next notMore =>
    rw [Size.area_lt_iff, Nat.not_lt] at notMore
    obtain ⟨before, after, rfl, less, atMost⟩ := h
    refine ⟨before, after ++ ys, by rw [List.append_assoc, List.cons_append], less, ?_⟩
    intro u mem
    rcases List.mem_append.mp mem with mem | mem
    · exact atMost u mem
    · exact Nat.le_trans (h'.le mem) notMore

theorem firstLargest_foldl (s : Size) (rest : List Size) :
    FirstLargest (rest.foldl (fun best t => if best.area < t.area then t else best) s)
      (s :: rest) := by
  induction rest using List.reverseRecOn with
  | nil => exact firstLargest_singleton s
  | append_singleton rest t ih =>
      rw [List.foldl_append, ← List.cons_append]
      exact ih.append (firstLargest_singleton t)

theorem exists_largest? {sizes : List Size} (some_size : sizes ≠ []) :
    ∃ s, largest? sizes = some s := by
  cases sizes with
  | nil => exact absurd rfl some_size
  | cons first rest => exact ⟨_, rfl⟩

theorem firstLargest_of_largest? {s : Size} {sizes : List Size} (h : largest? sizes = some s) :
    FirstLargest s sizes := by
  cases sizes with
  | nil => cases h
  | cons first rest =>
      obtain rfl := Option.some.inj h
      exact firstLargest_foldl first rest

/-! ### Places -/

/-- `s` stands at the place `i` and has the most pixels; what stands before it has fewer. -/
structure LargestAt (sizes : List Size) (i : Nat) (s : Size) : Prop where
  here : sizes[i]? = some s
  most : ∀ t ∈ sizes, t.pixels ≤ s.pixels
  first : ∀ j t, j < i → sizes[j]? = some t → t.pixels < s.pixels

variable {s t : Size} {sizes other xs ys : List Size} {i j : Nat}

theorem LargestAt.mem (h : LargestAt sizes i s) : s ∈ sizes := List.mem_of_getElem? h.here

theorem LargestAt.le (h : LargestAt sizes i s) (h' : LargestAt sizes j t) : i ≤ j := by
  by_contra less
  have fewer := h.first j t (Nat.lt_of_not_le less) h'.here
  exact absurd (h'.most s h.mem) (Nat.not_le_of_lt fewer)

theorem LargestAt.unique (h : LargestAt sizes i s) (h' : LargestAt sizes j t) : s = t := by
  obtain rfl := Nat.le_antisymm (h.le h') (h'.le h)
  exact Option.some.inj (h.here.symm.trans h'.here)

theorem FirstLargest.largestAt (h : FirstLargest s sizes) : ∃ i, LargestAt sizes i s := by
  obtain ⟨before, after, rfl, less, atMost⟩ := id h
  refine ⟨before.length, ?_, fun t mem => h.le mem, fun j t earlier found => ?_⟩
  · rw [List.getElem?_append_right (Nat.le_refl _), Nat.sub_self, List.getElem?_cons_zero]
  · rw [List.getElem?_append_left earlier] at found
    exact less t (List.mem_of_getElem? found)

theorem largest?_eq_none_iff : largest? sizes = none ↔ sizes = [] := by
  cases sizes with
  | nil => simp [largest?]
  | cons first rest => simp [largest?]

theorem largest?_eq_some_iff : largest? sizes = some s ↔ ∃ i, LargestAt sizes i s := by
  constructor
  · intro found
    exact (firstLargest_of_largest? found).largestAt
  · rintro ⟨i, at_⟩
    obtain ⟨t, found⟩ := exists_largest? (List.ne_nil_of_mem at_.mem)
    obtain ⟨j, other⟩ := (firstLargest_of_largest? found).largestAt
    rw [found, other.unique at_]

/-! ### Other orders and longer lists -/

/-- The order of the sizes has no influence on how many pixels the selected one has. -/
theorem area_largest?_perm (h : sizes.Perm other) :
    (largest? sizes).map Size.area = (largest? other).map Size.area := by
  cases found : largest? sizes with
  | none =>
      obtain rfl := largest?_eq_none_iff.mp found
      rw [← h.nil_eq, found]
  | some s =>
      obtain ⟨i, best⟩ := largest?_eq_some_iff.mp found
      obtain ⟨t, found'⟩ := exists_largest? (List.ne_nil_of_mem (h.mem_iff.mp best.mem))
      obtain ⟨j, best'⟩ := largest?_eq_some_iff.mp found'
      have same : s.pixels = t.pixels := Nat.le_antisymm
        (best'.most s (h.mem_iff.mp best.mem)) (best.most t (h.mem_iff.mpr best'.mem))
      rw [← Size.area_toNat, ← Size.area_toNat, UInt64.toNat_inj] at same
      rw [found', Option.map_some, Option.map_some, same]

/-- The better one of two sizes; the first wins a tie. -/
def Size.better (s t : Size) : Size := if s.area < t.area then t else s

theorem largest?_append (xs ys : List Size) :
    largest? (xs ++ ys) = Option.merge Size.better (largest? xs) (largest? ys) := by
  cases first : largest? xs with
  | none =>
      obtain rfl := largest?_eq_none_iff.mp first
      rw [Option.merge_none_left]
      rfl
  | some s =>
      cases second : largest? ys with
      | none =>
          obtain rfl := largest?_eq_none_iff.mp second
          rw [List.append_nil, first]
          rfl
      | some t =>
          have best := (firstLargest_of_largest? first).append (firstLargest_of_largest? second)
          exact largest?_eq_some_iff.mpr best.largestAt

/-- A size is taken from the second of two lists if and only if the best size there has more pixels
than the best of the first list. -/
theorem LargestAt.in_second_iff (h : LargestAt (xs ++ ys) i s) : xs.length ≤ i ↔
    ∃ t, largest? ys = some t ∧ ∀ u, largest? xs = some u → u.area < t.area := by
  constructor
  · intro second
    have here : ys[i - xs.length]? = some s := by
      rw [← List.getElem?_append_right second, h.here]
    obtain ⟨t, found⟩ := exists_largest? (List.ne_nil_of_mem (List.mem_of_getElem? here))
    obtain ⟨j, best⟩ := largest?_eq_some_iff.mp found
    refine ⟨t, found, fun u found' => Size.area_lt_iff.mpr ?_⟩
    obtain ⟨k, best'⟩ := largest?_eq_some_iff.mp found'
    obtain ⟨within, _⟩ := List.getElem?_eq_some_iff.mp best'.here
    have fewer : u.pixels < s.pixels :=
      h.first k u (by omega) (by rw [List.getElem?_append_left within, best'.here])
    exact Nat.lt_of_lt_of_le fewer (best.most s (List.mem_of_getElem? here))
  · rintro ⟨t, found, more⟩
    by_contra first
    have here : xs[i]? = some s := by
      rw [← List.getElem?_append_left (Nat.lt_of_not_le first), h.here]
    obtain ⟨u, found'⟩ := exists_largest? (List.ne_nil_of_mem (List.mem_of_getElem? here))
    obtain ⟨k, best'⟩ := largest?_eq_some_iff.mp found'
    obtain ⟨j, best⟩ := largest?_eq_some_iff.mp found
    have less := Size.area_lt_iff.mp (more u found')
    have atMost := best'.most s (List.mem_of_getElem? here)
    have atLeast := h.most t (List.mem_append_right xs best.mem)
    omega

/-- **The first of the largest sizes is selected.**  Pixels are counted without loss for all sides.
Nothing is selected from the empty list only, and otherwise the size at the first of the places
where the most pixels are.  So the order of the sizes does not matter for the number of pixels, and
a size is taken from what has been appended to a list only if the best size there has more pixels
than the best size of the list. -/
theorem selects_first_of_largest :
    (∀ s : Size, s.area.toNat = s.width.toNat * s.height.toNat) ∧
    (∀ sizes, largest? sizes = none ↔ sizes = []) ∧
    (∀ sizes s, largest? sizes = some s ↔ ∃ i, LargestAt sizes i s) ∧
    (∀ sizes other : List Size, sizes.Perm other →
      (largest? sizes).map Size.area = (largest? other).map Size.area) ∧
    ∀ xs ys, largest? (xs ++ ys) = Option.merge Size.better (largest? xs) (largest? ys) ∧
      ∀ i s, LargestAt (xs ++ ys) i s → (xs.length ≤ i ↔
        ∃ t, largest? ys = some t ∧ ∀ u, largest? xs = some u → u.area < t.area) :=
  ⟨Size.area_toNat, fun _ => largest?_eq_none_iff, fun _ _ => largest?_eq_some_iff,
    fun _ _ => area_largest?_perm,
    fun xs ys => ⟨largest?_append xs ys, fun _ _ => (·.in_second_iff)⟩⟩

/-- The appended sizes are as good as each other, in products that do not fit into 32 bits; the
first of them is taken, and with it as many pixels as in the reverse order. -/
theorem selects_first_of_largest_square :
    let xs : List Size := [⟨640, 480⟩, ⟨65535, 65536⟩]
    let ys : List Size := [⟨65536, 65536⟩, ⟨32768, 131072⟩]
    LargestAt (xs ++ ys) 2 ⟨65536, 65536⟩ ∧ largest? (xs ++ ys) = some ⟨65536, 65536⟩ ∧
      (largest? (xs ++ ys).reverse).map Size.area = some 4294967296 ∧
      ∃ t, largest? ys = some t ∧ ∀ u, largest? xs = some u → u.area < t.area := by
  intro xs ys
  obtain ⟨-, -, selects, reorders, appends⟩ := selects_first_of_largest
  have fewer : ∀ t ∈ xs, t.pixels < 65536 * 65536 := by decide
  have best : LargestAt (xs ++ ys) 2 ⟨65536, 65536⟩ := by
    refine ⟨rfl, by decide, fun j t earlier found => ?_⟩
    rw [List.getElem?_append_left earlier] at found
    exact fewer t (List.mem_of_getElem? found)
  have found := (selects _ _).mpr ⟨2, best⟩
  refine ⟨best, found, ?_, ((appends xs ys).2 2 _ best).mp (by decide)⟩
  rw [reorders _ _ (List.reverse_perm _), found]
  rfl

end CaptureFlow
