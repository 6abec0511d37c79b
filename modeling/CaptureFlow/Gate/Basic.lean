/-! # The stage gate

A `Gate` holds back actions until the stage they wait for is complete.  Each declared stage has a
flag and a queue.  `offer?` queues an action on an incomplete stage and hands it back when the
stage is complete; `complete?` sets the flag and says whether the queue has to be run; `take?`
gives the next action of a run that began in a given cycle; `reset` clears all flags and queues
and starts the next cycle.  The gate never runs anything itself: who calls it does, and may call
it again from within an action.  Operations on a stage that was not declared give `none`. -/

namespace CaptureFlow

/-- What a gate needs to know of its stages: their order and how messages show them. -/
class Stage (σ : Type) where
  before : σ → σ → Bool
  shown : σ → String

/-- The sum of some weights. -/
def total : List Nat → Nat
  | [] => 0
  | n :: rest => n + total rest

@[simp] theorem total_nil : total [] = 0 := rfl

@[simp] theorem total_cons (n : Nat) (rest : List Nat) : total (n :: rest) = n + total rest := rfl

@[simp] theorem total_append (ns rest : List Nat) :
    total (ns ++ rest) = total ns + total rest := by
  induction ns with
  | nil => simp
  | cons n ns ih =>
    simp only [List.cons_append, total_cons, ih]
    omega

/-- The flag and the queue of a stage. -/
structure Slot (α : Type) where
  completed : Bool := false
  pending : List α := []
deriving DecidableEq, Repr

def Slot.push {α : Type} (slot : Slot α) (a : α) : Slot α :=
  { slot with pending := slot.pending ++ [a] }

/-- Declared stages in their order, each with its slot, and the number of resets so far. -/
structure Gate (σ α : Type) where
  slots : List (σ × Slot α)
  cycle : UInt64 := 0

namespace Gate

variable {σ α : Type}

/-! ### Declaring stages -/

/-- The stages with `s` in front of the first one that comes after it. -/
def place [Stage σ] (s : σ) : List σ → List σ
  | [] => [s]
  | t :: rest => if Stage.before s t then s :: t :: rest else t :: place s rest

/-- The stages with `s` in its place; a stage that is there already stays once. -/
def declare [DecidableEq σ] [Stage σ] (s : σ) (declared : List σ) : List σ :=
  if s ∈ declared then declared else place s declared

/-- The gate of the given stages, all incomplete; there must be one at least. -/
def ofStages? [DecidableEq σ] [Stage σ] (stages : List σ) : Option (Gate σ α) :=
  match stages.foldl (fun declared s => declare s declared) [] with
  | [] => none
  | declared => some { slots := declared.map fun s => (s, {}) }

def stages (g : Gate σ α) : List σ := g.slots.map (·.1)

/-! ### Showing -/

/-- A stage, its flag and the length of its queue. -/
def slotDescribed [Stage σ] (entry : σ × Slot α) : String :=
  s!"({Stage.shown entry.1}, {entry.2.completed}, {entry.2.pending.length})"

def described [Stage σ] (g : Gate σ α) : String :=
  let slots := String.intercalate ", " (g.slots.map slotDescribed)
  s!"StageGate \x7b cycle: {g.cycle.toNat}, stages: [{slots}] \x7d"

/-! ### Starting over -/

/-- Reverts every stage to incomplete and drops all waiting actions. -/
def reset (g : Gate σ α) : Gate σ α :=
  { slots := g.slots.map fun entry => (entry.1, {}), cycle := g.cycle + 1 }

/-- The sum of the weights of all waiting actions. -/
def weight (w : α → Nat) (g : Gate σ α) : Nat :=
  total (g.slots.map fun entry => total (entry.2.pending.map w))

@[simp] theorem weight_reset (w : α → Nat) (g : Gate σ α) : g.reset.weight w = 0 := by
  simp only [weight, reset, List.map_map]
  induction g.slots with
  | nil => rfl
  | cons _ _ ih => simpa using ih

/-! ### Looking -/

variable [DecidableEq σ]

def slot? (g : Gate σ α) (s : σ) : Option (Slot α) :=
  (g.slots.find? fun entry => entry.1 = s).map (·.2)

def completed? (g : Gate σ α) (s : σ) : Option Bool := (g.slot? s).map (·.completed)

def pendingCount? (g : Gate σ α) (s : σ) : Option Nat := (g.slot? s).map (·.pending.length)

/-- Whether a stage is declared and complete. -/
def isComplete (g : Gate σ α) (s : σ) : Bool := g.completed? s == some true

/-- The actions waiting on a stage, the oldest first. -/
def pending (g : Gate σ α) (s : σ) : List α :=
  match g.slot? s with
  | some slot => slot.pending
  | none => []

/-! ### Changing -/

def updateSlot (s : σ) (f : Slot α → Slot α) : List (σ × Slot α) → List (σ × Slot α)
  | [] => []
  | entry :: rest =>
    if entry.1 = s then (entry.1, f entry.2) :: rest else entry :: updateSlot s f rest

def modify (g : Gate σ α) (s : σ) (f : Slot α → Slot α) : Gate σ α :=
  { g with slots := updateSlot s f g.slots }

/-- Hands an action to a stage.  Besides the gate the answer says whether the action is due now;
if not, it has been queued. -/
def offer? (g : Gate σ α) (s : σ) (a : α) : Option (Gate σ α × Bool) :=
  match g.slot? s with
  | none => none
  | some slot =>
    if slot.completed then some (g, true)
    else some (g.modify s fun slot => slot.push a, false)

/-- Completes a stage.  Besides the gate the answer says whether the stage was incomplete, so that
its queue has to be run now. -/
def complete? (g : Gate σ α) (s : σ) : Option (Gate σ α × Bool) :=
  match g.slot? s with
  | none => none
  | some slot =>
    if slot.completed then some (g, false)
    else some (g.modify s fun slot => { slot with completed := true }, true)

/-- The oldest action of a complete stage, and the gate without it. -/
def pop? (g : Gate σ α) (s : σ) : Option (α × Gate σ α) :=
  match g.slot? s with
  | some { completed := true, pending := a :: rest } =>
    some (a, g.modify s fun slot => { slot with pending := rest })
  | _ => none

/-- The next action of a run of the stage's queue that began in `cycle`: none once the gate has
been reset since, even if the stage is complete again. -/
def take? (g : Gate σ α) (s : σ) (cycle : UInt64) : Option (α × Gate σ α) :=
  if g.cycle = cycle then g.pop? s else none

/-! ### What the changes do to a slot -/

theorem find?_updateSlot (s t : σ) (f : Slot α → Slot α) (slots : List (σ × Slot α)) :
    ((updateSlot s f slots).find? fun entry => entry.1 = t).map (·.2) =
      if s = t then ((slots.find? fun entry => entry.1 = t).map (·.2)).map f
      else (slots.find? fun entry => entry.1 = t).map (·.2) := by
  induction slots with
  | nil => simp [updateSlot]
  | cons entry rest ih =>
    simp only [updateSlot]
    by_cases here : entry.1 = s
    · by_cases same : s = t
      · subst same; simp [here]
      · simp [here, same]
    · by_cases same : s = t
      · subst same; simpa [here] using ih
      · by_cases there : entry.1 = t
        · have other : ¬t = s := fun h => same h.symm
          simp [there, other, same]
        · simpa [here, there, same] using ih

@[simp] theorem slot?_modify (g : Gate σ α) (s t : σ) (f : Slot α → Slot α) :
    (g.modify s f).slot? t = if s = t then (g.slot? t).map f else g.slot? t :=
  find?_updateSlot s t f g.slots

@[simp] theorem cycle_modify (g : Gate σ α) (s : σ) (f : Slot α → Slot α) :
    (g.modify s f).cycle = g.cycle := rfl

@[simp] theorem slot?_reset (g : Gate σ α) (s : σ) :
    g.reset.slot? s = (g.slot? s).map fun _ => {} := by
  simp only [slot?, reset, List.find?_map, Option.map_map]
  rfl

/-! ### The weight of what waits -/

theorem weight_updateSlot (w : α → Nat) (s : σ) (f : Slot α → Slot α) {slot : Slot α}
    {slots : List (σ × Slot α)}
    (found : ((slots.find? fun entry => entry.1 = s).map (·.2)) = some slot) :
    total ((updateSlot s f slots).map fun entry => total (entry.2.pending.map w)) +
        total (slot.pending.map w) =
      total (slots.map fun entry => total (entry.2.pending.map w)) +
        total ((f slot).pending.map w) := by
  induction slots with
  | nil => simp at found
  | cons entry rest ih =>
    simp only [updateSlot]
    by_cases here : entry.1 = s
    · simp only [here, List.find?_cons, decide_true, Option.map_some, Option.some.injEq] at found
      subst found
      simp only [here, if_true, List.map_cons, total_cons]
      omega
    · simp only [List.find?_cons, here, decide_false] at found
      simp only [here, if_false, List.map_cons, total_cons]
      have := ih found
      omega

theorem weight_modify (w : α → Nat) (g : Gate σ α) (s : σ) (f : Slot α → Slot α) {slot : Slot α}
    (found : g.slot? s = some slot) :
    (g.modify s f).weight w + total (slot.pending.map w) =
      g.weight w + total ((f slot).pending.map w) :=
  weight_updateSlot w s f found

/-- Queueing adds the weight of the action, and nothing else changes the weight. -/
theorem weight_offer? (w : α → Nat) {g g' : Gate σ α} {s : σ} {a : α} {due : Bool}
    (h : g.offer? s a = some (g', due)) :
    g'.weight w = g.weight w + if due then 0 else w a := by
  unfold offer? at h
  split at h
  · simp at h
  next slot found =>
    split at h
    · simp only [Option.some.injEq, Prod.mk.injEq] at h
      obtain ⟨rfl, rfl⟩ := h
      simp
    · simp only [Option.some.injEq, Prod.mk.injEq] at h
      obtain ⟨rfl, rfl⟩ := h
      have := weight_modify w g s (fun slot => slot.push a) found
      simp [Slot.push] at this ⊢
      omega

theorem weight_complete? (w : α → Nat) {g g' : Gate σ α} {s : σ} {first : Bool}
    (h : g.complete? s = some (g', first)) : g'.weight w = g.weight w := by
  unfold complete? at h
  split at h
  · simp at h
  next slot found =>
    split at h
    · simp only [Option.some.injEq, Prod.mk.injEq] at h
      obtain ⟨rfl, _⟩ := h
      rfl
    · simp only [Option.some.injEq, Prod.mk.injEq] at h
      obtain ⟨rfl, _⟩ := h
      have := weight_modify w g s (fun slot => { slot with completed := true }) found
      simpa using this

theorem weight_pop? (w : α → Nat) {g g' : Gate σ α} {s : σ} {a : α}
    (h : g.pop? s = some (a, g')) : g'.weight w + w a = g.weight w := by
  unfold pop? at h
  split at h
  next _ first rest found =>
    simp only [Option.some.injEq, Prod.mk.injEq] at h
    obtain ⟨rfl, rfl⟩ := h
    have := weight_modify w g s (fun slot => { slot with pending := rest }) found
    simp at this ⊢
    omega
  · simp at h

theorem weight_take? (w : α → Nat) {g g' : Gate σ α} {s : σ} {cycle : UInt64} {a : α}
    (h : g.take? s cycle = some (a, g')) : g'.weight w + w a = g.weight w := by
  unfold take? at h
  split at h
  · exact weight_pop? w h
  · simp at h

/-! ### Running a queue whose actions leave the gate alone -/

/-- The actions that a run of the stage's queue takes, in their order, and the gate after it. -/
def drain (g : Gate σ α) (s : σ) (cycle : UInt64) : List α × Gate σ α :=
  match _h : g.take? s cycle with
  | none => ([], g)
  | some (a, g') =>
    let (others, last) := drain g' s cycle
    (a :: others, last)
termination_by g.weight fun _ => 1
decreasing_by
  have := weight_take? (fun _ => 1) _h
  omega

end Gate

end CaptureFlow
