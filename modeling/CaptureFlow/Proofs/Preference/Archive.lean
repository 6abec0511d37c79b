import CaptureFlow.Preference.Archive
import CaptureFlow.Proofs.Preference.Varint
import CaptureFlow.Proofs.Preference.Grammar
/-! # Database files keep their tables

A table that is written to a file and read back is the same table (`unarchive?_archive`), unless a
key or a value is out of all bounds.  The rows come back one after the other in their order, so each
of them goes behind those that are there already (`insertRow_last`). -/

namespace CaptureFlow

namespace Table

variable {β : Type}

theorem insertRow_last {k : String} {v : β} {rows : List (String × β)}
    (last : ∀ row ∈ rows, keyBefore row.1 k) : insertRow k v rows = rows ++ [(k, v)] := by
  induction rows with
  | nil => rfl
  | cons first rest ih =>
      have before := last first (List.mem_cons_self ..)
      have other : k ≠ first.1 := fun eq => not_keyBefore_self k (eq ▸ before)
      have after : ¬keyBefore k first.1 := fun h => not_keyBefore_self k (keyBefore_trans h before)
      rw [insertRow, if_neg other, if_neg after, List.cons_append,
        ih fun row mem => last row (List.mem_cons_of_mem _ mem)]

theorem rows_inj {t t' : Table β} (same : t.rows = t'.rows) : t = t' := by
  cases t
  cases t'
  cases same
  rfl

end Table

namespace Archive

/-- A row as it stands in a file. -/
def rowForm (row : String × Bytes) : Bytes := chunk (textBytes row.1) ++ chunk row.2

/-- Key and value are short enough for their lengths to be written. -/
structure Writable (row : String × Bytes) : Prop where
  key : (textBytes row.1).length < 2 ^ 64
  value : row.2.length < 2 ^ 64

variable {bytes rest : Bytes} {rows : List (String × Bytes)} {rounds : Nat}

theorem readChunk?_chunk (fits : bytes.length < 2 ^ 64) (rest : Bytes) :
    readChunk? (chunk bytes ++ rest) = some (bytes, rest) := by
  have size : Varint.read Varint.word64 (chunk bytes ++ rest) = .ok (bytes.length, bytes ++ rest) :=
    Varint.read_iff.mpr ⟨_, List.append_assoc .., Varint.spells_write_word64 fits⟩
  simp only [readChunk?, size, List.length_append, List.take_left, List.drop_left]
  rw [if_neg (by omega)]

theorem chunk_length_pos (bytes : Bytes) : 0 < (chunk bytes).length := by
  have size := (Varint.writes_write bytes.length).length_pos
  rw [chunk, List.length_append]
  omega

theorem readRows?_rowForm (table : Table Bytes) {row : String × Bytes} (fits : Writable row)
    (rest : Bytes) :
    readRows? (rounds + 1) table (rowForm row ++ rest) =
      readRows? rounds (table.insert row.1 row.2) rest := by
  have filled : 0 < (rowForm row ++ rest).length := by
    have key := chunk_length_pos (textBytes row.1)
    simp only [rowForm, List.length_append]
    omega
  have text : textOfBytes? (textBytes row.1) = some row.1 := textOfBytes?_iff.mpr rfl
  have key := readChunk?_chunk fits.key (chunk row.2 ++ rest)
  have value := readChunk?_chunk fits.value rest
  rw [← List.append_assoc] at key
  cases form : rowForm row ++ rest with
  | nil => rw [form] at filled; exact absurd filled (Nat.lt_irrefl 0)
  | cons b after =>
      rw [readRows?, ← form, rowForm, key]
      · simp [text, value]
      · simp

/-- Rows that belong behind the table are added to it in their order. -/
theorem readRows?_flatMap (table : Table Bytes) (fits : ∀ row ∈ rows, Writable row)
    (ordered : Table.Ordered (table.rows ++ rows)) (enough : rows.length ≤ rounds) :
    ∃ t, readRows? rounds table (rows.flatMap rowForm) = some t ∧ t.rows = table.rows ++ rows := by
  induction rows generalizing table rounds with
  | nil => exact ⟨table, by cases rounds <;> rfl, (List.append_nil _).symm⟩
  | cons row rows ih =>
      obtain ⟨fewer, rfl⟩ := Nat.exists_eq_add_one.mpr (Nat.lt_of_lt_of_le (Nat.succ_pos _) enough)
      have last : ∀ earlier ∈ table.rows, keyBefore earlier.1 row.1 := fun earlier mem =>
        (List.pairwise_append.mp ordered).2.2 earlier mem row (List.mem_cons_self ..)
      have next : (table.insert row.1 row.2).rows = table.rows ++ [row] := Table.insertRow_last last
      rw [List.flatMap_cons, readRows?_rowForm _ (fits row (List.mem_cons_self ..))]
      obtain ⟨t, read, rowsEq⟩ := ih (table.insert row.1 row.2)
        (fun later mem => fits later (List.mem_cons_of_mem _ mem))
        (by rw [next, List.append_assoc]; exact ordered) (Nat.le_of_succ_le_succ enough)
      exact ⟨t, read, by rw [rowsEq, next, List.append_assoc]; rfl⟩

theorem length_le_flatMap (rows : List (String × Bytes)) :
    rows.length ≤ (rows.flatMap rowForm).length := by
  induction rows with
  | nil => exact Nat.le_refl 0
  | cons row rows ih =>
      have key := chunk_length_pos (textBytes row.1)
      simp only [List.flatMap_cons, rowForm, List.length_append, List.length_cons] at ih ⊢
      omega

end Archive

/-- The table that was written to a file is read from it. -/
theorem unarchive?_archive {table : Table Bytes} (fits : ∀ row ∈ table.rows, Archive.Writable row) :
    unarchive? (archive table) = some table := by
  have marked : Archive.mark.isPrefixOf (archive table) = true :=
    List.isPrefixOf_iff_prefix.mpr (List.prefix_append ..)
  obtain ⟨t, read, rows⟩ := Archive.readRows?_flatMap .empty fits table.ordered
    (Archive.length_le_flatMap table.rows)
  unfold unarchive?
  rw [if_neg (by simp [archive, Archive.mark]), if_pos marked]
  exact read.trans (congrArg some (Table.rows_inj rows))

end CaptureFlow
