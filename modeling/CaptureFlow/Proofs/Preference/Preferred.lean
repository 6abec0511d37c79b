import CaptureFlow.Preference.Store
/-! # The preferred camera in a store

Remembering a camera puts its number under a key of its own.  As long as calls are not refused this
works on every store, whatever it holds (`Store.remembers`): the number is small, so a durable store
never finds its stored form too large.  From then on the store names that camera, and all other
rows are as they were (`Backing.SameApart`). -/

namespace CaptureFlow

/-! ### The stored form of a camera -/

theorem validateKey_preferredCameraKey : validateKey preferredCameraKey = .ok () := by
  unfold validateKey
  rw [if_neg (by decide)]

/-- The bytes under which a durable store remembers a camera. -/
def Facing.stored (f : Facing) : Bytes :=
  Header.current.toBytes ++ [1, if f = .back then 0 else 2]

theorem Facing.encode_id (f : Facing) : (Preference.number f.id).encode = .ok f.stored := by
  have payload : (Preference.number f.id).payload = [1, if f = .back then 0 else 2] := by
    rw [Preference.payload, Varint.write_small (by decide)]
    cases f with
    | back =>
        rw [Varint.write_small (by decide)]
        rfl
    | front =>
        rw [Varint.write_small (by decide)]
        rfl
  simp only [Preference.encode, payload]
  rw [if_neg (by cases f <;> decide)]
  rfl

theorem Facing.decode_stored (f : Facing) : Preference.decode f.stored = .ok (.number f.id) := by
  cases f <;> rfl

theorem Store.facingOf_id (f : Facing) : facingOf (some (.number f.id)) = f := by
  rw [facingOf, Facing.ofId?_id]
  rfl

/-! ### All other rows -/

/-- The two backings are of one kind and have the same rows, apart from that of `key`. -/
inductive Backing.SameApart (key : String) : Backing → Backing → Prop
  | volatile {a b : Volatile} (rows : ∀ k, k ≠ key → b.table.get? k = a.table.get? k) :
      SameApart key (.volatile a) (.volatile b)
  | durable {a b : Durable} (rows : ∀ k, k ≠ key → b.table.get? k = a.table.get? k) :
      SameApart key (.durable a) (.durable b)

namespace Backing

variable {key : String}

theorem SameApart.refl (key : String) (b : Backing) : SameApart key b b := by
  cases b with
  | volatile b => exact .volatile fun _ _ => rfl
  | durable b => exact .durable fun _ _ => rfl

theorem SameApart.trans {b₁ b₂ b₃ : Backing} (h : SameApart key b₁ b₂) (h' : SameApart key b₂ b₃) :
    SameApart key b₁ b₃ := by
  cases h with
  | volatile rows =>
      cases h' with
      | volatile rows' => exact .volatile fun k other => (rows' k other).trans (rows k other)
  | durable rows =>
      cases h' with
      | durable rows' => exact .durable fun k other => (rows' k other).trans (rows k other)

theorem set_facing (b : Backing) (f : Facing) :
    ∃ b', b.set preferredCameraKey (.number f.id) = .ok b' ∧
      b'.get preferredCameraKey = .ok (some (.number f.id)) ∧
      SameApart preferredCameraKey b b' := by
  have valid := validateKey_preferredCameraKey
  cases b with
  | volatile b =>
      refine ⟨.volatile ⟨b.table.insert preferredCameraKey (.number f.id)⟩, ?_, ?_, .volatile ?_⟩
      · simp only [set, Volatile.set, valid]
        rfl
      · simp only [get, Volatile.get, valid, Table.get?_insert, if_true]
        rfl
      · intro k other
        rw [Table.get?_insert, if_neg (Ne.symm other)]
  | durable b =>
      refine ⟨.durable ⟨b.table.insert preferredCameraKey f.stored⟩, ?_, ?_, .durable ?_⟩
      · simp only [set, Durable.set, valid, f.encode_id]
        rfl
      · simp only [get, Durable.get, valid, Table.get?_insert, if_true]
        show (some <$> Preference.decode f.stored) = _
        rw [f.decode_stored]
        rfl
      · intro k other
        rw [Table.get?_insert, if_neg (Ne.symm other)]

end Backing

/-! ### Stores that accept what is set -/

namespace Store

/-- No call to set a value will be refused. -/
def Accepts (s : Store) : Prop := ∀ n, s.sets.made ≤ n → n ∉ s.sets.refused

/-- What the store holds names the camera `f`, whether or not the next call to get it is refused. -/
def Names (s : Store) (f : Facing) : Prop := facingOf <$> s.backing.get preferredCameraKey = .ok f

/-- Remembering a camera works, and changes nothing else. -/
theorem remembers {s : Store} (accepts : s.Accepts) (f : Facing) :
    ∃ s', s.setPreferredFacing f = (.ok (), s') ∧ s'.Accepts ∧ s'.Names f ∧
      s.backing.SameApart preferredCameraKey s'.backing := by
  obtain ⟨backing, set, stored, others⟩ := s.backing.set_facing f
  have allowed : s.sets.refusesNext = false := by
    simpa [Refusals.refusesNext] using accepts s.sets.made (Nat.le_refl _)
  refine ⟨{ s with sets := s.sets.count, backing }, ?_, ?_, ?_, others⟩
  · simp only [setPreferredFacing, Store.set, allowed, set, Bool.false_eq_true, if_false]
  · exact fun n later => accepts n (Nat.le_of_succ_le later)
  · rw [Names, stored]
    exact congrArg Except.ok (facingOf_id f)

/-- A camera that is named is preferred whenever the store can be read. -/
theorem Names.preferredFacing {s : Store} {f : Facing} (h : s.Names f)
    (readable : s.gets.refusesNext = false) : s.preferredFacing.1 = .ok f := by
  simp only [Store.preferredFacing, Store.get, readable, Bool.false_eq_true, if_false]
  exact h

/-- A camera that has been read is named from then on. -/
theorem names_of_preferredFacing {s s' : Store} {f : Facing}
    (read : s.preferredFacing = (.ok f, s')) :
    s'.Names f ∧ s'.backing = s.backing ∧ s'.sets = s.sets := by
  simp only [Store.preferredFacing, Store.get] at read
  split at read
  · cases read
  · obtain ⟨named, rfl⟩ := Prod.mk.inj read
    exact ⟨named, rfl, rfl⟩

end Store

end CaptureFlow
