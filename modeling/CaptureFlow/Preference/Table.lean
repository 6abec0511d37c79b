import CaptureFlow.Preference.Encoding
/-! # Ordered tables

A `Table` maps texts to values and lists them in the order of the keys' UTF-8 bytes.  The order is
part of the type: `insert` and `erase` keep it, so each key occurs once.  The lemmas at the end say
what the operations do to `get?`. -/

namespace CaptureFlow

/-- The order of keys: that of their UTF-8 bytes. -/
def keyBefore (a b : String) : Prop := textBytes a < textBytes b

instance (a b : String) : Decidable (keyBefore a b) :=
  inferInstanceAs (Decidable (textBytes a < textBytes b))

theorem keyBefore_trans {a b c : String} (h : keyBefore a b) (h' : keyBefore b c) :
    keyBefore a c := List.lt_trans h h'

theorem not_keyBefore_self (a : String) : ¬keyBefore a a := List.lt_irrefl _

theorem textBytes_inj {a b : String} : textBytes a = textBytes b ↔ a = b := by
  constructor
  · intro h
    cases a with
    | ofByteArray x _ =>
      cases b with
      | ofByteArray y _ =>
        have : x.data = y.data := Array.toList_inj.mp h
        have : x = y := by cases x; cases y; simp_all
        subst this
        rfl
  · rintro rfl; rfl

theorem keyBefore_of_not {a b : String} (h : ¬keyBefore b a) (ne : a ≠ b) : keyBefore a b := by
  rcases List.le_iff_lt_or_eq.mp (List.not_lt.mp h) with h | h
  · exact h
  · exact absurd (textBytes_inj.mp h) ne

namespace Table

variable {β : Type}

/-- The rows with `v` under `k`, in the place of what was there or where the order wants it. -/
def insertRow (k : String) (v : β) : List (String × β) → List (String × β)
  | [] => [(k, v)]
  | row :: rest =>
    if k = row.1 then (k, v) :: rest
    else if keyBefore k row.1 then (k, v) :: row :: rest
    else row :: insertRow k v rest

/-- The order of the rows of a table. -/
abbrev Ordered (rows : List (String × β)) : Prop := rows.Pairwise fun a b => keyBefore a.1 b.1

theorem fst_mem_insertRow {k : String} {v : β} {rows : List (String × β)} {row : String × β}
    (h : row ∈ insertRow k v rows) : row = (k, v) ∨ row ∈ rows := by
  induction rows with
  | nil => simpa [insertRow] using h
  | cons first rest ih =>
    simp only [insertRow] at h
    split at h
    · grind
    · split at h <;> grind

theorem ordered_insertRow (k : String) (v : β) {rows : List (String × β)} (h : Ordered rows) :
    Ordered (insertRow k v rows) := by
  induction rows with
  | nil => simp [insertRow]
  | cons first rest ih =>
    obtain ⟨before, ordered⟩ := List.pairwise_cons.mp h
    simp only [insertRow]
    split
    next eq => subst eq; exact List.pairwise_cons.mpr ⟨before, ordered⟩
    next ne =>
      split
      next lt =>
        refine List.pairwise_cons.mpr ⟨?_, h⟩
        intro row mem
        rcases List.mem_cons.mp mem with rfl | mem
        · exact lt
        · exact keyBefore_trans lt (before row mem)
      next nlt =>
        refine List.pairwise_cons.mpr ⟨?_, ih ordered⟩
        intro row mem
        rcases fst_mem_insertRow mem with rfl | mem
        · exact keyBefore_of_not nlt (Ne.symm ne)
        · exact before row mem

end Table

/-- A finite map from texts to values, listed in the order of the keys. -/
structure Table (β : Type) where
  rows : List (String × β)
  ordered : Table.Ordered rows

namespace Table

variable {β : Type}

def empty : Table β := ⟨[], List.Pairwise.nil⟩

def get? (t : Table β) (k : String) : Option β := (t.rows.find? fun row => row.1 = k).map (·.2)

def insert (t : Table β) (k : String) (v : β) : Table β :=
  ⟨insertRow k v t.rows, ordered_insertRow k v t.ordered⟩

def erase (t : Table β) (k : String) : Table β :=
  ⟨t.rows.filter fun row => row.1 ≠ k, t.ordered.filter _⟩

/-! ### What the operations do to `get?` -/

@[simp] theorem get?_empty (k : String) : (empty : Table β).get? k = none := rfl

theorem find?_insertRow (k k' : String) (v : β) (rows : List (String × β)) :
    ((insertRow k v rows).find? fun row => row.1 = k') =
      if k = k' then some (k, v) else rows.find? fun row => row.1 = k' := by
  induction rows with
  | nil => by_cases h : k = k' <;> simp [insertRow, h]
  | cons first rest ih =>
    simp only [insertRow]
    by_cases h : k = k'
    · subst h
      split
      · simp
      · split
        · simp
        · grind
    · split
      · grind
      · split <;> grind

@[simp] theorem get?_insert (t : Table β) (k k' : String) (v : β) :
    (t.insert k v).get? k' = if k = k' then some v else t.get? k' := by
  simp only [get?, insert, find?_insertRow]
  split <;> rfl

@[simp] theorem get?_erase (t : Table β) (k k' : String) :
    (t.erase k).get? k' = if k = k' then none else t.get? k' := by
  simp only [get?, erase, List.find?_filter]
  by_cases h : k = k'
  · subst h
    simp [List.find?_eq_none]
  · rw [if_neg h]
    congr 2
    funext row
    by_cases h' : row.1 = k'
    · simp [h', Ne.symm h]
    · simp [h']

end Table

end CaptureFlow
