import Mathlib.Data.List.Nodup
import Mathlib.Logic.Function.Basic
import Mathlib.Tactic.Tauto
import CaptureFlow.Gate.Basic
/-! # The gate through its flags and queues

A gate is looked at through four things: its declared `stages`, the flag `isComplete`, the queue
`pending` and the `cycle`.  Each operation has one statement here that says what it does to all
four, and later proofs go by these and never open a slot:

* `queued_of_offer?`, `offer?_due_iff`: an action is queued on an incomplete stage and handed back
  on a complete one;
* `marked_of_complete?`, `complete?_again_iff`: the first completion sets one flag, later ones do
  nothing;
* `popped_of_take?`, `take?_eq_none`: a run takes the head of a complete stage's queue, and takes
  nothing only if its cycle is over, the stage is incomplete or the queue is empty;
* `drain_eq`: a run that nobody disturbs takes the whole queue in its order;
* `isComplete_reset`, `pending_reset`: starting over clears every flag and every queue.

The declared stages are distinct (`fresh_ofStages?`), so that every slot is found under its stage
(`pending_of_mem`). -/

namespace CaptureFlow.Gate

variable {σ α : Type}

/-! ### Declared stages -/

section declared

variable [Stage σ]

theorem place_perm (s : σ) (declared : List σ) : (place s declared).Perm (s :: declared) := by
  induction declared with
  | nil => exact .refl _
  | cons t rest ih =>
      rw [place]
      split
      · exact .refl _
      · exact (ih.cons t).trans (.swap s t rest)

variable [DecidableEq σ]

theorem nodup_declare (s : σ) {declared : List σ} (h : declared.Nodup) :
    (declare s declared).Nodup := by
  unfold declare
  split
  · exact h
  next absent => exact (place_perm s declared).nodup_iff.mpr (List.nodup_cons.mpr ⟨absent, h⟩)

theorem nodup_foldl_declare (stages declared : List σ) (h : declared.Nodup) :
    (stages.foldl (fun declared s => declare s declared) declared).Nodup := by
  induction stages generalizing declared with
  | nil => exact h
  | cons s rest ih => exact ih _ (nodup_declare s h)

theorem mem_declare {s t : σ} {declared : List σ} :
    t ∈ declare s declared ↔ t = s ∨ t ∈ declared := by
  unfold declare
  split
  next present =>
    constructor
    · exact .inr
    · rintro (rfl | mem)
      · exact present
      · exact mem
  · rw [(place_perm s declared).mem_iff, List.mem_cons]

theorem mem_foldl_declare {stages declared : List σ} {t : σ} :
    t ∈ stages.foldl (fun declared s => declare s declared) declared ↔
      t ∈ stages ∨ t ∈ declared := by
  induction stages generalizing declared with
  | nil => simp
  | cons s rest ih =>
      rw [List.foldl_cons, ih, mem_declare, List.mem_cons]
      tauto

theorem fresh_ofStages? {stages : List σ} {g : Gate σ α} (h : ofStages? stages = some g) :
    g.stages.Nodup ∧ (∀ s, s ∈ g.stages ↔ s ∈ stages) ∧ ∀ entry ∈ g.slots, entry.2 = {} := by
  unfold ofStages? at h
  have distinct := nodup_foldl_declare stages [] List.nodup_nil
  have same : ∀ t, t ∈ stages.foldl (fun declared s => declare s declared) [] ↔ t ∈ stages := by
    intro t
    rw [mem_foldl_declare]
    simp
  generalize stages.foldl (fun declared s => declare s declared) [] = declared at h distinct same
  cases declared with
  | nil => cases h
  | cons first rest =>
      obtain rfl := Option.some.inj h
      have kept : Gate.stages { slots := (first :: rest).map fun s => (s, ({} : Slot α)) } =
          first :: rest := by
        simp [Gate.stages, Function.comp_def]
      refine ⟨by rwa [kept], fun s => by rw [kept, same], ?_⟩
      intro entry mem
      obtain ⟨s, _, rfl⟩ := List.mem_map.mp mem
      rfl

end declared

variable [DecidableEq σ]

/-! ### Looking up a slot -/

theorem slot?_eq_none_iff {g : Gate σ α} {s : σ} : g.slot? s = none ↔ s ∉ g.stages := by
  simp only [slot?, stages, Option.map_eq_none_iff, List.find?_eq_none, List.mem_map,
    decide_eq_true_eq, not_exists, not_and]

theorem mem_stages_of_slot? {g : Gate σ α} {s : σ} {slot : Slot α} (h : g.slot? s = some slot) :
    s ∈ g.stages := by
  by_contra absent
  rw [slot?_eq_none_iff.mpr absent] at h
  cases h

theorem mem_slots_of_slot? {g : Gate σ α} {s : σ} {slot : Slot α} (h : g.slot? s = some slot) :
    (s, slot) ∈ g.slots := by
  obtain ⟨entry, found, rfl⟩ := Option.map_eq_some_iff.mp h
  have same : entry.1 = s := by simpa using List.find?_some found
  exact same ▸ List.mem_of_find?_eq_some found

theorem isComplete_of_slot? {g : Gate σ α} {s : σ} {slot : Slot α} (h : g.slot? s = some slot) :
    g.isComplete s = slot.completed := by
  cases flag : slot.completed <;> simp [isComplete, completed?, h, flag]

theorem pending_of_slot? {g : Gate σ α} {s : σ} {slot : Slot α} (h : g.slot? s = some slot) :
    g.pending s = slot.pending := by simp [pending, h]

theorem mem_stages_of_isComplete {g : Gate σ α} {s : σ} (h : g.isComplete s = true) :
    s ∈ g.stages := by
  by_contra absent
  simp [isComplete, completed?, slot?_eq_none_iff.mpr absent] at h

theorem isComplete_congr {g g' : Gate σ α} {s : σ} (h : g'.slot? s = g.slot? s) :
    g'.isComplete s = g.isComplete s := by simp only [isComplete, completed?, h]

theorem pending_congr {g g' : Gate σ α} {s : σ} (h : g'.slot? s = g.slot? s) :
    g'.pending s = g.pending s := by simp only [pending, h]

theorem pending_eq_nil_of_not_mem {g : Gate σ α} {s : σ} (h : s ∉ g.stages) :
    g.pending s = [] := by simp [pending, slot?_eq_none_iff.mpr h]

theorem slot?_of_mem {g : Gate σ α} (distinct : g.stages.Nodup) {entry : σ × Slot α}
    (h : entry ∈ g.slots) : g.slot? entry.1 = some entry.2 := by
  obtain ⟨slots, cycle⟩ := g
  simp only [slot?, stages] at *
  induction slots with
  | nil => cases h
  | cons first rest ih =>
      obtain ⟨absent, distinct⟩ := List.nodup_cons.mp distinct
      rcases List.mem_cons.mp h with rfl | h
      · simp
      · have other : ¬first.1 = entry.1 := by
          intro same
          exact absent (List.mem_map.mpr ⟨entry, h, same.symm⟩)
        simpa [other] using ih distinct h

theorem pending_of_mem {g : Gate σ α} (distinct : g.stages.Nodup) {entry : σ × Slot α}
    (h : entry ∈ g.slots) : g.pending entry.1 = entry.2.pending :=
  pending_of_slot? (slot?_of_mem distinct h)

/-- With distinct stages, what waits in all slots is what waits stage by stage. -/
theorem flatMap_slots {g : Gate σ α} (distinct : g.stages.Nodup) :
    (g.slots.flatMap fun entry => entry.2.pending) = g.stages.flatMap g.pending := by
  rw [stages, List.flatMap_map]
  exact List.flatMap_congr fun entry mem => (pending_of_mem distinct mem).symm

/-! ### Changing one slot -/

@[simp] theorem stages_modify (g : Gate σ α) (s : σ) (f : Slot α → Slot α) :
    (g.modify s f).stages = g.stages := by
  unfold modify stages
  induction g.slots with
  | nil => rfl
  | cons entry rest ih =>
      rw [updateSlot]
      split
      · rfl
      · rw [List.map_cons, ih, List.map_cons]

theorem pending_modify (g : Gate σ α) {s : σ} {slot : Slot α} (f : Slot α → Slot α)
    (h : g.slot? s = some slot) :
    (g.modify s f).pending = Function.update g.pending s (f slot).pending := by
  funext t
  by_cases here : t = s
  · subst here
    have found : (g.modify t f).slot? t = some (f slot) := by simp [h]
    rw [pending_of_slot? found, Function.update_self]
  · have other : ¬s = t := fun same => here same.symm
    rw [Function.update_of_ne here]
    exact pending_congr (by simp [other])

theorem isComplete_modify (g : Gate σ α) {s : σ} {slot : Slot α} (f : Slot α → Slot α)
    (h : g.slot? s = some slot) :
    (g.modify s f).isComplete = Function.update g.isComplete s (f slot).completed := by
  funext t
  by_cases here : t = s
  · subst here
    have found : (g.modify t f).slot? t = some (f slot) := by simp [h]
    rw [isComplete_of_slot? found, Function.update_self]
  · have other : ¬s = t := fun same => here same.symm
    rw [Function.update_of_ne here]
    exact isComplete_congr (by simp [other])

/-! ### Starting over -/

omit [DecidableEq σ] in
@[simp] theorem stages_reset (g : Gate σ α) : g.reset.stages = g.stages := by
  simp [stages, reset]

@[simp] theorem isComplete_reset (g : Gate σ α) (s : σ) : g.reset.isComplete s = false := by
  cases found : g.slot? s <;> simp [isComplete, completed?, found]

@[simp] theorem pending_reset (g : Gate σ α) (s : σ) : g.reset.pending s = [] := by
  cases found : g.slot? s <;> simp [pending, found]

/-! ### Handing an action to a stage -/

/-- `g'` is `g` with `a` at the end of the queue of the incomplete stage `s`. -/
structure Queued (g : Gate σ α) (s : σ) (a : α) (g' : Gate σ α) : Prop where
  declared : s ∈ g.stages
  incomplete : g.isComplete s = false
  flags : g'.isComplete = g.isComplete
  queues : g'.pending = Function.update g.pending s (g.pending s ++ [a])
  stages : g'.stages = g.stages
  cycle : g'.cycle = g.cycle

theorem Queued.mem {g g' : Gate σ α} {s t : σ} {a b : α} (h : Queued g s a g')
    (waits : b ∈ g'.pending t) : b ∈ g.pending t ∨ t = s ∧ b = a := by
  rw [h.queues] at waits
  by_cases here : t = s
  · subst here
    rw [Function.update_self] at waits
    rcases List.mem_append.mp waits with earlier | last
    · exact .inl earlier
    · exact .inr ⟨rfl, List.mem_singleton.mp last⟩
  · rw [Function.update_of_ne here] at waits
    exact .inl waits

theorem offer?_eq_none_iff {g : Gate σ α} {s : σ} {a : α} :
    g.offer? s a = none ↔ s ∉ g.stages := by
  rw [← slot?_eq_none_iff, offer?]
  cases g.slot? s with
  | none => simp
  | some slot => cases flag : slot.completed <;> simp [flag]

theorem queued_of_offer? {g g' : Gate σ α} {s : σ} {a : α}
    (h : g.offer? s a = some (g', false)) : Queued g s a g' := by
  unfold offer? at h
  split at h
  · cases h
  next slot found =>
    split at h
    · cases h
    next flag =>
      obtain ⟨rfl, _⟩ := Prod.mk.inj (Option.some.inj h)
      have incomplete : slot.completed = false := by simpa using flag
      constructor
      · exact mem_stages_of_slot? found
      · rw [isComplete_of_slot? found, incomplete]
      · rw [isComplete_modify g _ found, Function.update_eq_self_iff, isComplete_of_slot? found]
        rfl
      · rw [pending_modify g _ found, pending_of_slot? found]
        rfl
      · exact stages_modify g s _
      · exact cycle_modify g s _

/-- An action is due at once if and only if its stage is complete; the gate stays as it is. -/
theorem offer?_due_iff {g g' : Gate σ α} {s : σ} {a : α} :
    g.offer? s a = some (g', true) ↔ g' = g ∧ g.isComplete s = true := by
  unfold offer?
  split
  next missing => simp [isComplete, completed?, missing]
  next slot found =>
    rw [isComplete_of_slot? found]
    split
    next flag => simp [flag, eq_comm]
    next flag => simp [flag]

theorem exists_queued {g : Gate σ α} {s : σ} (declared : s ∈ g.stages)
    (incomplete : g.isComplete s = false) (a : α) :
    ∃ g', g.offer? s a = some (g', false) ∧ Queued g s a g' := by
  cases offered : g.offer? s a with
  | none => exact absurd declared (offer?_eq_none_iff.mp offered)
  | some result =>
      obtain ⟨g', due⟩ := result
      cases due with
      | false => exact ⟨g', rfl, queued_of_offer? offered⟩
      | true =>
          rw [(offer?_due_iff.mp offered).2] at incomplete
          cases incomplete

/-! ### Completing a stage -/

/-- `g'` is `g` with the incomplete stage `s` complete. -/
structure Marked (g : Gate σ α) (s : σ) (g' : Gate σ α) : Prop where
  declared : s ∈ g.stages
  incomplete : g.isComplete s = false
  flags : g'.isComplete = Function.update g.isComplete s true
  queues : g'.pending = g.pending
  stages : g'.stages = g.stages
  cycle : g'.cycle = g.cycle

theorem complete?_eq_none_iff {g : Gate σ α} {s : σ} :
    g.complete? s = none ↔ s ∉ g.stages := by
  rw [← slot?_eq_none_iff, complete?]
  cases g.slot? s with
  | none => simp
  | some slot => cases flag : slot.completed <;> simp [flag]

theorem marked_of_complete? {g g' : Gate σ α} {s : σ} (h : g.complete? s = some (g', true)) :
    Marked g s g' := by
  unfold complete? at h
  split at h
  · cases h
  next slot found =>
    split at h
    · cases h
    next flag =>
      obtain ⟨rfl, _⟩ := Prod.mk.inj (Option.some.inj h)
      have incomplete : slot.completed = false := by simpa using flag
      constructor
      · exact mem_stages_of_slot? found
      · rw [isComplete_of_slot? found, incomplete]
      · exact isComplete_modify g _ found
      · rw [pending_modify g _ found, Function.update_eq_self_iff, pending_of_slot? found]
      · exact stages_modify g s _
      · exact cycle_modify g s _

/-- Completing a stage again does nothing. -/
theorem complete?_again_iff {g g' : Gate σ α} {s : σ} :
    g.complete? s = some (g', false) ↔ g' = g ∧ g.isComplete s = true := by
  unfold complete?
  split
  next missing => simp [isComplete, completed?, missing]
  next slot found =>
    rw [isComplete_of_slot? found]
    split
    next flag => simp [flag, eq_comm]
    next flag => simp [flag]

theorem exists_marked {g : Gate σ α} {s : σ} (declared : s ∈ g.stages)
    (incomplete : g.isComplete s = false) :
    ∃ g', g.complete? s = some (g', true) ∧ Marked g s g' := by
  cases completed : g.complete? s with
  | none => exact absurd declared (complete?_eq_none_iff.mp completed)
  | some result =>
      obtain ⟨g', first⟩ := result
      cases first with
      | true => exact ⟨g', rfl, marked_of_complete? completed⟩
      | false =>
          rw [(complete?_again_iff.mp completed).2] at incomplete
          cases incomplete

theorem flags_of_complete? {g g' : Gate σ α} {s : σ} {first : Bool}
    (h : g.complete? s = some (g', first)) :
    g'.isComplete = Function.update g.isComplete s true ∧ g'.pending = g.pending ∧
      g'.stages = g.stages := by
  cases first with
  | true =>
      have marked := marked_of_complete? h
      exact ⟨marked.flags, marked.queues, marked.stages⟩
  | false =>
      obtain ⟨rfl, complete⟩ := complete?_again_iff.mp h
      refine ⟨?_, rfl, rfl⟩
      rw [← complete, Function.update_eq_self]

/-! ### Taking the next action -/

/-- `g'` is `g` without `a`, which was the first in the queue of the complete stage `s`. -/
structure Popped (g : Gate σ α) (s : σ) (a : α) (g' : Gate σ α) : Prop where
  complete : g.isComplete s = true
  head : g.pending s = a :: g'.pending s
  flags : g'.isComplete = g.isComplete
  others : ∀ t, t ≠ s → g'.pending t = g.pending t
  stages : g'.stages = g.stages
  cycle : g'.cycle = g.cycle

theorem popped_of_pop? {g g' : Gate σ α} {s : σ} {a : α} (h : g.pop? s = some (a, g')) :
    Popped g s a g' := by
  unfold pop? at h
  split at h
  next first rest found =>
    obtain ⟨rfl, rfl⟩ := Prod.mk.inj (Option.some.inj h)
    constructor
    · rw [isComplete_of_slot? found]
    · rw [pending_modify g _ found, Function.update_self, pending_of_slot? found]
    · rw [isComplete_modify g _ found, Function.update_eq_self_iff, isComplete_of_slot? found]
    · intro t other
      rw [pending_modify g _ found, Function.update_of_ne other]
    · exact stages_modify g s _
    · exact cycle_modify g s _
  · cases h

theorem popped_of_take? {g g' : Gate σ α} {s : σ} {cycle : UInt64} {a : α}
    (h : g.take? s cycle = some (a, g')) : Popped g s a g' := by
  unfold take? at h
  split at h
  · exact popped_of_pop? h
  · cases h

theorem Popped.mem {g g' : Gate σ α} {s t : σ} {a b : α} (h : Popped g s a g')
    (waits : b ∈ g'.pending t) : b ∈ g.pending t := by
  by_cases here : t = s
  · subst here
    rw [h.head]
    exact List.mem_cons_of_mem a waits
  · rwa [h.others t here] at waits

/-- A complete stage with a queue gives its next action to a run of the current cycle. -/
theorem take?_eq_none {g : Gate σ α} {s : σ} {cycle : UInt64} (h : g.take? s cycle = none)
    (current : g.cycle = cycle) (complete : g.isComplete s = true) : g.pending s = [] := by
  rw [take?, if_pos current, pop?] at h
  split at h
  · cases h
  next stuck =>
    cases found : g.slot? s with
    | none => exact pending_eq_nil_of_not_mem (slot?_eq_none_iff.mp found)
    | some slot =>
        rw [isComplete_of_slot? found] at complete
        rw [pending_of_slot? found]
        obtain ⟨completed, pending⟩ := slot
        cases pending with
        | nil => rfl
        | cons a rest => exact absurd (complete ▸ found) (stuck a rest)

theorem exists_popped {g : Gate σ α} {s : σ} {a : α} {rest : List α}
    (complete : g.isComplete s = true) (waits : g.pending s = a :: rest) :
    ∃ g', g.take? s g.cycle = some (a, g') ∧ Popped g s a g' ∧ g'.pending s = rest := by
  cases taken : g.take? s g.cycle with
  | none =>
      rw [take?_eq_none taken rfl complete] at waits
      cases waits
  | some next =>
      obtain ⟨b, g'⟩ := next
      have popped := popped_of_take? taken
      obtain ⟨rfl, remain⟩ := List.cons.inj (popped.head.symm.trans waits)
      exact ⟨g', rfl, popped, remain⟩

/-- Nothing is taken from an incomplete stage or an empty queue. -/
theorem take?_of_settled {g : Gate σ α} {s : σ} (cycle : UInt64)
    (settled : g.isComplete s = true → g.pending s = []) : g.take? s cycle = none := by
  cases taken : g.take? s cycle with
  | none => rfl
  | some next =>
      have popped := popped_of_take? taken
      have empty := settled popped.complete
      rw [popped.head] at empty
      cases empty

/-- A run of a complete stage's queue, if its actions leave the gate alone, takes all that waits
there in its order. -/
theorem drain_eq {g : Gate σ α} {s : σ} (complete : g.isComplete s = true) :
    ∃ g', g.drain s g.cycle = (g.pending s, g') ∧ g'.isComplete = g.isComplete ∧
      g'.pending s = [] ∧ g'.stages = g.stages := by
  induction waits : g.pending s generalizing g with
  | nil =>
      have done := take?_of_settled (g := g) g.cycle fun _ => waits
      refine ⟨g, ?_, rfl, waits, rfl⟩
      rw [drain]
      split
      · rfl
      next taken => cases done.symm.trans taken
  | cons a rest ih =>
      obtain ⟨g', taken, popped, remain⟩ := exists_popped complete waits
      obtain ⟨last, drained, flags, empty, stages⟩ := ih (popped.flags ▸ complete) remain
      refine ⟨last, ?_, flags.trans popped.flags, empty, stages.trans popped.stages⟩
      rw [drain]
      split
      next nothing => cases taken.symm.trans nothing
      next taken' =>
        obtain ⟨rfl, rfl⟩ := Prod.mk.inj (Option.some.inj (taken.symm.trans taken'))
        rw [← popped.cycle, drained]

end CaptureFlow.Gate
