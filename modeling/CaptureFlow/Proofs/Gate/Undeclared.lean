import CaptureFlow.Proofs.Gate.Conservation
import CaptureFlow.Proofs.Gate.Counter
/-! # Operations on undeclared stages

An operation that names a stage which was not declared does nothing but fail (`start_undeclared`).
So a program can do without such operations, wherever they stand: `GateOp.prune` leaves them out of
a list of operations and of the bodies of all actions in it.

`GateMachine.pruned` is what a machine looks like to somebody who does not see such operations: they
are missing from the actions that wait, from what is left to do and from what has happened.  A step
of a machine is a step of the pruned one, or nothing that the pruned one can see (`pruned_step`), so
a program without the operations comes to the pruned machine of the program with them
(`undeclared_inert`). -/

namespace CaptureFlow

variable {σ α β : Type}

/-! ### Leaving operations out -/

namespace GateOp

def stage? : GateOp σ → Option σ
  | .run s _ _ | .mark s | .isCompleted s | .pendingCount s => some s
  | .reset | .stages | .describe => none

/-- The operation names one of the stages, or none. -/
def On (stages : List σ) (op : GateOp σ) : Prop := ∀ s ∈ op.stage?, s ∈ stages

variable [DecidableEq σ] (stages : List σ)

instance (op : GateOp σ) : Decidable (op.On stages) :=
  inferInstanceAs (Decidable (∀ s ∈ op.stage?, s ∈ stages))

mutual

/-- The operation without those on other stages in the body of its action. -/
def pruned : GateOp σ → GateOp σ
  | .run s label body => .run s label (prune body)
  | op => op

/-- The operations without those on other stages, at any depth. -/
def prune : List (GateOp σ) → List (GateOp σ)
  | [] => []
  | op :: ops => if op.On stages then op.pruned :: prune ops else prune ops

end

/-- What is left of an operation. -/
def pruned? (op : GateOp σ) : Option (GateOp σ) :=
  if op.On stages then some (op.pruned stages) else none

variable {stages} {op : GateOp σ}

theorem pruned?_of_on (on : op.On stages) : op.pruned? stages = some (op.pruned stages) := if_pos on

theorem pruned?_of_not_on (off : ¬op.On stages) : op.pruned? stages = none := if_neg off

theorem prune_eq (ops : List (GateOp σ)) : prune stages ops = ops.filterMap (pruned? stages) := by
  induction ops with
  | nil => rw [prune, List.filterMap_nil]
  | cons op ops ih =>
      rw [prune, ih]
      by_cases on : op.On stages
      · rw [if_pos on, List.filterMap_cons_some (pruned?_of_on on)]
      · rw [if_neg on, List.filterMap_cons_none (pruned?_of_not_on on)]

omit [DecidableEq σ] in
theorem exists_stage_of_not_on (off : ¬op.On stages) : ∃ s, op.stage? = some s ∧ s ∉ stages := by
  simpa [On] using off

end GateOp

/-! ### Gates whose actions are changed -/

def Slot.map (f : α → β) (slot : Slot α) : Slot β :=
  { completed := slot.completed, pending := slot.pending.map f }

namespace Gate

def map (f : α → β) (g : Gate σ α) : Gate σ β :=
  { slots := g.slots.map fun entry => (entry.1, entry.2.map f), cycle := g.cycle }

variable (f : α → β) (g : Gate σ α)

theorem cycle_map : (g.map f).cycle = g.cycle := rfl

theorem stages_map : (g.map f).stages = g.stages := by
  simp only [stages, map, List.map_map]
  rfl

theorem slotDescribed_map [Stage σ] (entry : σ × Slot α) :
    slotDescribed (entry.1, entry.2.map f) = slotDescribed entry := by
  simp only [slotDescribed, Slot.map, List.length_map]

theorem described_map [Stage σ] : (g.map f).described = g.described := by
  have same : (g.map f).slots.map slotDescribed = g.slots.map slotDescribed := by
    simp only [map, List.map_map, Function.comp_def, slotDescribed_map]
  unfold described
  rw [same, cycle_map]

theorem reset_map : (g.map f).reset = g.reset.map f := by
  simp only [reset, map, List.map_map]
  rfl

variable [DecidableEq σ] (s : σ)

@[simp] theorem slot?_map : (g.map f).slot? s = (g.slot? s).map (Slot.map f) := by
  simp only [slot?, map, List.find?_map, Option.map_map]
  rfl

theorem completed?_map : (g.map f).completed? s = g.completed? s := by
  simp only [completed?, slot?_map, Option.map_map]
  rfl

theorem pendingCount?_map : (g.map f).pendingCount? s = g.pendingCount? s := by
  simp only [pendingCount?, slot?_map, Option.map_map, Function.comp_def, Slot.map, List.length_map]

theorem pending_map : (g.map f).pending s = (g.pending s).map f := by
  simp only [pending, slot?_map]
  cases g.slot? s <;> rfl

variable {f g s}

theorem modify_map {change : Slot β → Slot β} {change' : Slot α → Slot α}
    (agree : ∀ slot, change (slot.map f) = (change' slot).map f) :
    (g.map f).modify s change = (g.modify s change').map f := by
  simp only [modify, map]
  congr 1
  induction g.slots with
  | nil => rfl
  | cons entry rest ih =>
      simp only [List.map_cons, updateSlot]
      split
      · rw [List.map_cons, agree]
      · rw [List.map_cons, ih]

theorem offer?_map (a : α) : (g.map f).offer? s (f a) =
    (g.offer? s a).map fun offered => (offered.1.map f, offered.2) := by
  simp only [offer?, slot?_map]
  cases g.slot? s with
  | none => rfl
  | some slot =>
      simp only [Option.map_some, Slot.map]
      split
      · rfl
      · rw [Option.map_some, modify_map]
        intro slot
        simp [Slot.push, Slot.map]

theorem complete?_map : (g.map f).complete? s =
    (g.complete? s).map fun completed => (completed.1.map f, completed.2) := by
  simp only [complete?, slot?_map]
  cases g.slot? s with
  | none => rfl
  | some slot =>
      simp only [Option.map_some, Slot.map]
      split
      · rfl
      · rw [Option.map_some, modify_map]
        exact fun _ => rfl

theorem pop?_map : (g.map f).pop? s =
    (g.pop? s).map fun popped => (f popped.1, popped.2.map f) := by
  simp only [pop?, slot?_map]
  cases g.slot? s with
  | none => rfl
  | some slot =>
      obtain ⟨completed, pending⟩ := slot
      cases completed with
      | false => rfl
      | true =>
          cases pending with
          | nil => rfl
          | cons a rest =>
              simp only [Option.map_some, Slot.map, List.map_cons]
              rw [modify_map]
              exact fun _ => rfl

theorem take?_map (cycle : UInt64) : (g.map f).take? s cycle =
    (g.take? s cycle).map fun taken => (f taken.1, taken.2.map f) := by
  unfold take?
  rw [cycle_map, pop?_map]
  split <;> rfl

end Gate

/-! ### What is left of a machine -/

section pruned

variable [DecidableEq σ] (stages : List σ)

def GateAction.pruned (a : GateAction σ) : GateAction σ :=
  { a with body := GateOp.prune stages a.body }

def GateTask.pruned? : GateTask σ → Option (GateTask σ)
  | .perform label ops => some (.perform label (GateOp.prune stages ops))
  | .report label op answer => (op.pruned? stages).map (.report label · answer)
  | .dispatch s cycle => some (.dispatch s cycle)

def GateEvent.pruned? : GateEvent σ → Option (GateEvent σ)
  | .answered label op answer => (op.pruned? stages).map (.answered label · answer)
  | e => some e

/-- The machine as it looks without operations on other stages. -/
def GateMachine.pruned (m : GateMachine σ) : GateMachine σ where
  gate := m.gate.map (GateAction.pruned stages)
  tickets := m.tickets
  stack := m.stack.filterMap (GateTask.pruned? stages)
  trace := m.trace.filterMap (GateEvent.pruned? stages)

end pruned

namespace GateMachine

variable [DecidableEq σ] {stages : List σ} {m m' : GateMachine σ}

theorem allWaiting_pruned : (m.pruned stages).allWaiting = m.allWaiting := by
  simp only [allWaiting, pruned, Gate.map, Slot.map, List.flatMap_map, List.map_map]
  rfl

theorem waiting_pruned : (m.pruned stages).waiting = m.waiting := by
  funext s
  simp only [waiting, pruned, Gate.pending_map, List.map_map]
  rfl

/-- Whatever is read off events other than answers can be read off what is left of them. -/
theorem flatMap_pruned (read : GateEvent σ → List β)
    (unread : ∀ label op answer, read (.answered label op answer) = []) :
    (m.pruned stages).trace.flatMap read = m.trace.flatMap read := by
  show (m.trace.filterMap (GateEvent.pruned? stages)).flatMap read = _
  induction m.trace with
  | nil => rfl
  | cons e rest ih =>
      rw [List.flatMap_cons, ← ih]
      cases e with
      | answered label op answer =>
          rw [unread, List.nil_append]
          cases left : op.pruned? stages with
          | none => rw [List.filterMap_cons_none (by rw [GateEvent.pruned?, left]; rfl)]
          | some op' =>
              rw [List.filterMap_cons_some (by rw [GateEvent.pruned?, left]; rfl),
                List.flatMap_cons, unread, List.nil_append]
      | accepted | started | discarded => rfl

variable [Stage σ]

/-! ### One operation -/

/-- An operation on an undeclared stage fails and leaves everything as it is. -/
theorem start_undeclared {op : GateOp σ} {s : σ} (names : op.stage? = some s)
    (absent : s ∉ m.gate.stages) : m.start op = ⟨m, [], unknown s⟩ := by
  have missing : m.gate.slot? s = none := Gate.slot?_eq_none_iff.mpr absent
  cases op with
  | run t | mark t | isCompleted t | pendingCount t =>
      obtain rfl := Option.some.inj names
      simp only [start, Gate.offer?, Gate.complete?, Gate.completed?, Gate.pendingCount?, missing,
        Option.map_none]
  | reset | stages | describe => cases names

/-- A pruned machine starts what is left of an operation as the machine starts the operation. -/
theorem start_pruned (stages : List σ) (m : GateMachine σ) (op : GateOp σ) :
    (m.pruned stages).start (op.pruned stages) =
      { machine := (m.start op).machine.pruned stages
        work := (m.start op).work.filterMap (GateTask.pruned? stages)
        answer := (m.start op).answer } := by
  have gate : (m.pruned stages).gate = m.gate.map (GateAction.pruned stages) := rfl
  cases op with
  | run s label body =>
      have offered := Gate.offer?_map (f := GateAction.pruned stages) (g := m.gate) (s := s)
        ⟨m.tickets, label, body⟩
      simp only [GateOp.pruned, start]
      rw [gate, show (⟨(m.pruned stages).tickets, label, GateOp.prune stages body⟩ : GateAction σ) =
        GateAction.pruned stages ⟨m.tickets, label, body⟩ from rfl, offered]
      cases m.gate.offer? s ⟨m.tickets, label, body⟩ with
      | none => rfl
      | some offered =>
          obtain ⟨g, due⟩ := offered
          cases due <;> simp [GateTask.pruned?, GateEvent.pruned?, log, pruned]
  | mark s =>
      simp only [GateOp.pruned, start]
      rw [gate, Gate.complete?_map]
      cases m.gate.complete? s with
      | none => rfl
      | some completed =>
          obtain ⟨g, first⟩ := completed
          cases first <;> rfl
  | reset =>
      have dropped : (m.pruned stages).allWaiting = m.allWaiting := allWaiting_pruned
      unfold allWaiting at dropped
      simp only [GateOp.pruned, start]
      rw [dropped, gate, Gate.reset_map]
      simp [GateEvent.pruned?, log, pruned]
  | isCompleted s =>
      simp only [GateOp.pruned, start]
      rw [gate, Gate.completed?_map]
      cases m.gate.completed? s <;> rfl
  | pendingCount s =>
      simp only [GateOp.pruned, start]
      rw [gate, Gate.pendingCount?_map]
      cases m.gate.pendingCount? s <;> rfl
  | stages =>
      simp only [GateOp.pruned, start]
      rw [gate, Gate.stages_map]
      rfl
  | describe =>
      simp only [GateOp.pruned, start]
      rw [gate, Gate.described_map]
      rfl

/-! ### Steps -/

/-- The machine declares exactly the given stages. -/
def Declares (stages : List σ) (m : GateMachine σ) : Prop := ∀ s, s ∈ m.gate.stages ↔ s ∈ stages

omit [Stage σ] in
theorem Declares.moved {work : List (GateTask σ)} (h : Declares stages m)
    (move : Moved m m' work) : Declares stages m' := by
  unfold Declares
  rwa [move.stages_eq]

theorem Declares.refuses (h : Declares stages m) {op : GateOp σ} (off : ¬op.On stages) :
    ∃ s, m.start op = ⟨m, [], unknown s⟩ := by
  obtain ⟨s, names, absent⟩ := GateOp.exists_stage_of_not_on off
  exact ⟨s, start_undeclared names (mt (h s).mp absent)⟩

/-- A step of a machine is one of the pruned machine, which performs what is left of the same
operation, or the pruned machine sees nothing of it. -/
theorem pruned_step (h : Declares stages m) (stepped : m.step = some m') :
    (m.pruned stages).step = some (m'.pruned stages) ∧
        (m.pruned stages).next?.toList = GateOp.prune stages m.next?.toList ∨
      m'.pruned stages = m.pruned stages ∧ GateOp.prune stages m.next?.toList = [] := by
  unfold step at stepped
  split at stepped
  · cases stepped
  next label rest stack =>
    obtain rfl := Option.some.inj stepped
    left
    simp [step, next?, pruned, stack, GateTask.pruned?, GateOp.prune]
  next label op ops rest stack =>
    obtain rfl := Option.some.inj stepped
    by_cases on : op.On stages
    · -- The same operation is next in what is left of the task.
      left
      have started := start_pruned stages m op
      have top : (m.pruned stages).stack =
          .perform label (op.pruned stages :: GateOp.prune stages ops) ::
            rest.filterMap (GateTask.pruned? stages) := by
        simp [pruned, stack, GateTask.pruned?, GateOp.prune, on]
      simp only [step, next?, top, started, stack]
      simp [pruned, GateTask.pruned?, GateOp.pruned?_of_on on, GateOp.prune, on]
    · -- The operation is refused, and the report of its answer cannot be seen.
      right
      obtain ⟨s, started⟩ := h.refuses on
      rw [started]
      simp [pruned, next?, stack, GateTask.pruned?, GateOp.pruned?_of_not_on on, GateOp.prune, on]
  next label op answer rest stack =>
    obtain rfl := Option.some.inj stepped
    by_cases on : op.On stages
    · left
      simp [step, next?, pruned, log, stack, GateTask.pruned?, GateEvent.pruned?,
        GateOp.pruned?_of_on on, GateOp.prune]
    · right
      simp [next?, pruned, log, stack, GateTask.pruned?, GateEvent.pruned?,
        GateOp.pruned?_of_not_on on, GateOp.prune]
  next s cycle rest stack =>
    left
    have top : (m.pruned stages).stack =
        .dispatch s cycle :: rest.filterMap (GateTask.pruned? stages) := by
      simp [pruned, stack, GateTask.pruned?]
    have gate : (m.pruned stages).gate = m.gate.map (GateAction.pruned stages) := rfl
    simp only [step, next?, top, gate, Gate.take?_map, stack]
    split at stepped
    next nothing =>
      obtain rfl := Option.some.inj stepped
      simp [nothing, pruned, GateOp.prune]
    next a g taken =>
      obtain rfl := Option.some.inj stepped
      simp [taken, pruned, log, GateTask.pruned?, GateEvent.pruned?, GateAction.pruned,
        GateOp.prune, stack]

theorem Declares.steps (h : Declares stages m) (steps : Steps m m') :
    Declares stages m' ∧ Steps (m.pruned stages) (m'.pruned stages) := by
  induction steps with
  | refl => exact ⟨h, .refl⟩
  | tail _ stepped ih =>
      obtain ⟨declares, steps⟩ := ih
      obtain ⟨_, _, _, _, _, _, move, _⟩ := step_inv stepped
      refine ⟨declares.moved move, ?_⟩
      rcases pruned_step declares stepped with ⟨one, _⟩ | ⟨same, _⟩
      · exact steps.tail one
      · rwa [same]

theorem Declares.finish (h : Declares stages m) :
    Declares stages m.finish ∧ m.finish.pruned stages = (m.pruned stages).finish := by
  obtain ⟨steps, idle⟩ := steps_finish m
  obtain ⟨declares, steps⟩ := h.steps steps
  have idle : (m.finish.pruned stages).stack = [] := by simp [pruned, idle]
  rw [finish_of_steps steps, finish_of_idle idle]
  exact ⟨declares, rfl⟩

/-! ### Programs -/

theorem enter_pruned (op : GateOp σ) :
    (m.pruned stages).enter (op.pruned stages) = (m.enter op).pruned stages := by
  rw [enter, start_pruned, enter]
  simp [pruned]

theorem Declares.call (h : Declares stages m) (op : GateOp σ) :
    Declares stages (m.call op).2 ∧ (m.pruned stages).call (op.pruned stages) =
      ((m.call op).1, (m.call op).2.pruned stages) := by
  obtain ⟨declares, finished⟩ := (h.moved (moved_enter m op)).finish
  refine ⟨declares, ?_⟩
  rw [call_eq, enter_pruned, ← finished, start_pruned, call_eq]

/-- An operation on another stage is refused, and that is all. -/
theorem Declares.call_undeclared (h : Declares stages m) (idle : m.stack = []) {op : GateOp σ}
    (off : ¬op.On stages) : (m.call op).2 = m := by
  obtain ⟨s, started⟩ := h.refuses off
  rw [call_eq, enter, started]
  exact finish_of_idle idle

theorem Declares.callAll (h : Declares stages m) (idle : m.stack = []) (ops : List (GateOp σ)) :
    (m.pruned stages).callAll (GateOp.prune stages ops) = (m.callAll ops).pruned stages ∧
      (m.pruned stages).answersTo (GateOp.prune stages ops) =
        (m.answersTo ops).filterMap fun x => (x.1.pruned? stages).map (·, x.2) := by
  induction ops generalizing m with
  | nil => exact ⟨rfl, rfl⟩
  | cons op ops ih =>
      obtain ⟨declares, called⟩ := h.call op
      obtain ⟨machine, answers⟩ := ih declares (steps_finish (m.enter op)).2
      by_cases on : op.On stages
      · rw [GateOp.prune, if_pos on]
        refine ⟨?_, ?_⟩
        · show ((m.pruned stages).call (op.pruned stages)).2.callAll _ = _
          rw [called]
          exact machine
        · rw [answersTo, called, answers, answersTo, List.filterMap_cons_some]
          simp [GateOp.pruned?_of_on on]
      · rw [GateOp.prune, if_neg on]
        rw [h.call_undeclared idle on] at machine answers
        refine ⟨?_, ?_⟩
        · rw [machine]
          show _ = ((m.call op).2.callAll ops).pruned stages
          rw [h.call_undeclared idle on]
        · rw [answers, answersTo, h.call_undeclared idle on, List.filterMap_cons_none]
          simp [GateOp.pruned?_of_not_on on]

/-- An operation is answered, if it names an undeclared stage, with the failure that shows it. -/
def Refused (stages : List σ) (op : GateOp σ) (answer : GateAnswer σ) : Prop :=
  ∀ s, op.stage? = some s → s ∉ stages → answer = .error (.unknownStage (Stage.shown s))

theorem Declares.refused (h : Declares stages m) (op : GateOp σ) :
    Refused stages op (m.start op).answer := by
  intro s names absent
  rw [start_undeclared names (mt (h s).mp absent)]
  rfl

theorem Declares.refused_answersTo (h : Declares stages m) (ops : List (GateOp σ)) :
    ∀ x ∈ m.answersTo ops, Refused stages x.1 x.2 := by
  induction ops generalizing m with
  | nil => exact fun _ mem => (by cases mem)
  | cons op ops ih =>
      rw [answersTo]
      exact List.forall_mem_cons.mpr ⟨h.refused op, ih (h.call op).1⟩

/-! ### Moments of a run -/

theorem pruned_of_fresh (made : ofStages stages = .ok m) : m.pruned stages = m := by
  unfold ofStages at made
  split at made
  · cases made
  next gate fresh =>
    obtain rfl := Except.ok.inj made
    have empty := (Gate.fresh_ofStages? fresh).2.2
    have slots : gate.slots.map (fun entry => (entry.1, entry.2.map (GateAction.pruned stages))) =
        gate.slots := by
      refine (List.map_congr_left fun entry mem => ?_).trans (List.map_id _)
      rw [empty entry mem]
      exact congrArg (entry.1, ·) (empty entry mem).symm
    simp only [pruned, Gate.map, slots, List.filterMap_nil]

theorem Reached.declares {performed : List (GateOp σ)} (h : Reached stages performed m) :
    Declares stages m := h.stages_eq.2

/-- The pruned machine of a moment is a moment of a run that performs what is left of the
operations. -/
theorem Reached.pruned {performed : List (GateOp σ)} (h : Reached stages performed m) :
    Reached stages (GateOp.prune stages performed) (m.pruned stages) := by
  induction h with
  | fresh made =>
      rw [pruned_of_fresh made]
      exact .fresh made
  | @enter performed m op reached idle ih =>
      rw [GateOp.prune_eq, List.filterMap_append, ← GateOp.prune_eq]
      by_cases on : op.On stages
      · rw [← enter_pruned, List.filterMap_cons_some (GateOp.pruned?_of_on on)]
        exact ih.enter _ (by simp [GateMachine.pruned, idle])
      · obtain ⟨s, started⟩ := reached.declares.refuses on
        rw [GateMachine.enter, started, List.filterMap_cons_none (GateOp.pruned?_of_not_on on)]
        simpa using ih
  | @step performed m m' reached stepped ih =>
      rw [GateOp.prune_eq, List.filterMap_append, ← GateOp.prune_eq, ← GateOp.prune_eq]
      rcases pruned_step reached.declares stepped with ⟨one, next⟩ | ⟨same, nothing⟩
      · rw [← next]
        exact ih.step one
      · rw [same, nothing, List.append_nil]
        exact ih

theorem Reached.stage_of_accepted {performed : List (GateOp σ)} (h : Reached stages performed m)
    {t : Nat} {s : σ} {due : Bool} (accepted : .accepted t s due ∈ m.trace) : s ∈ stages := by
  refine h.invariant (P := fun m => ∀ t s due, .accepted t s due ∈ m.trace → s ∈ stages)
    ?_ ?_ t s due accepted
  · intro m made t s due mem
    rw [(fresh_ofStages made).trace] at mem
    cases mem
  · intro _ m m' _ reached move ih t s due mem
    cases move with
    | idle _ _ trace | marked _ _ trace => exact ih t s due (trace ▸ mem)
    | answered _ _ trace | emptied _ _ trace | taken _ _ trace =>
        rw [trace, List.mem_append, List.mem_singleton] at mem
        exact ih t s due (mem.resolve_right (by simp))
    | queued gate _ trace =>
        rw [trace, List.mem_append, List.mem_singleton] at mem
        rcases mem with mem | same
        · exact ih t s due mem
        · obtain ⟨_, rfl, _⟩ := GateEvent.accepted.inj same
          exact (reached.declares s).mp gate.declared
    | ran complete _ _ trace =>
        rw [trace, List.append_assoc, List.mem_append] at mem
        rcases mem with mem | mem
        · exact ih t s due mem
        · obtain ⟨_, rfl, _⟩ : t = m.tickets ∧ s = _ ∧ due = true := by simpa using mem
          exact (reached.declares _).mp (Gate.mem_stages_of_isComplete complete)

theorem silent_start (m : GateMachine σ) (op : GateOp σ) {label : String} {op' : GateOp σ}
    {answer : GateAnswer σ} : .report label op' answer ∉ (m.start op).work ∧
      (.answered label op' answer ∈ (m.start op).machine.trace →
        .answered label op' answer ∈ m.trace) := by
  cases op with
  | run s label body =>
      simp only [start]
      split
      · simp
      next gate due offered => cases due <;> simp [log]
  | mark s =>
      simp only [start]
      split
      · simp
      next gate first completed => cases first <;> simp
  | reset => simp [start, log]
  | isCompleted s => simp only [start]; split <;> simp
  | pendingCount s => simp only [start]; split <;> simp
  | stages | describe => simp [start]

/-- Every answer to an operation that names an undeclared stage shows the stage, whether the answer
has been given or is about to be given. -/
structure Refusing (stages : List σ) (m : GateMachine σ) : Prop where
  due : ∀ label op answer, .report label op answer ∈ m.stack → Refused stages op answer
  given : ∀ label op answer, .answered label op answer ∈ m.trace → Refused stages op answer

theorem Refusing.enter (h : Refusing stages m) (op : GateOp σ) : Refusing stages (m.enter op) where
  due label op' answer mem := by
    rcases List.mem_append.mp mem with mem | mem
    · exact absurd mem (silent_start m op).1
    · exact h.due label op' answer mem
  given label op' answer mem := h.given label op' answer ((silent_start m op).2 mem)

/-- Refusals on the stack come from operations that have just been started, and those of the past
from the stack. -/
theorem Refusing.step (h : Refusing stages m) (declares : Declares stages m)
    (stepped : m.step = some m') : Refusing stages m' := by
  unfold GateMachine.step at stepped
  split at stepped
  · cases stepped
  next label rest stack =>
    obtain rfl := Option.some.inj stepped
    exact ⟨fun _ _ _ mem => h.due _ _ _ (stack ▸ List.mem_cons_of_mem _ mem), h.given⟩
  next label op ops rest stack =>
    obtain rfl := Option.some.inj stepped
    refine ⟨fun label' op' answer mem => ?_, fun label' op' answer mem => ?_⟩
    · rcases List.mem_append.mp mem with mem | mem
      · exact absurd mem (silent_start m op).1
      · rcases List.mem_cons.mp mem with same | mem
        · obtain ⟨_, rfl, rfl⟩ := GateTask.report.inj same
          exact declares.refused op'
        · refine h.due label' op' answer (stack ▸ List.mem_cons_of_mem _ ?_)
          exact (List.mem_cons.mp mem).resolve_left (by simp)
    · exact h.given label' op' answer ((silent_start m op).2 mem)
  next label op answer rest stack =>
    obtain rfl := Option.some.inj stepped
    refine ⟨fun _ _ _ mem => h.due _ _ _ (stack ▸ List.mem_cons_of_mem _ mem), ?_⟩
    intro label' op' answer' mem
    rcases List.mem_append.mp mem with mem | mem
    · exact h.given label' op' answer' mem
    · obtain ⟨rfl, rfl, rfl⟩ := GateEvent.answered.inj (List.mem_singleton.mp mem)
      exact h.due _ _ _ (stack ▸ List.mem_cons_self)
  next s cycle rest stack =>
    split at stepped
    · obtain rfl := Option.some.inj stepped
      exact ⟨fun _ _ _ mem => h.due _ _ _ (stack ▸ List.mem_cons_of_mem _ mem), h.given⟩
    next a gate taken =>
      obtain rfl := Option.some.inj stepped
      refine ⟨fun label op answer mem => ?_, fun label op answer mem => ?_⟩
      · exact h.due label op answer ((List.mem_cons.mp mem).resolve_left (by simp))
      · exact h.given label op answer ((List.mem_append.mp mem).resolve_right (by simp))

theorem Reached.refusing {performed : List (GateOp σ)} (h : Reached stages performed m) :
    Refusing stages m := by
  induction h with
  | fresh made =>
      constructor
      · rw [(fresh_ofStages made).stack]
        simp
      · rw [(fresh_ofStages made).trace]
        simp
  | enter op _ _ ih => exact ih.enter op
  | step reached stepped ih => exact ih.step reached.declares stepped

/-! ### Inertness -/

/-- Operations on undeclared stages do nothing at the moment of `m` and have not done anything
before it: they fail with what they leave as it is, and no action has been accepted or started for
such a stage. -/
structure Inert (stages : List σ) (m : GateMachine σ) : Prop where
  unmoved : ∀ op s, op.stage? = some s → s ∉ stages →
    m.start op = ⟨m, [], .error (.unknownStage (Stage.shown s))⟩
  answered : ∀ label op answer, .answered label op answer ∈ m.trace → Refused stages op answer
  accepted : ∀ t s due, .accepted t s due ∈ m.trace → s ∈ stages
  started : ∀ t s label, .started t s label ∈ m.trace → s ∈ stages

theorem Reached.inert {performed : List (GateOp σ)} (h : Reached stages performed m) :
    Inert stages m where
  unmoved op s names absent := start_undeclared names (mt (h.declares s).mp absent)
  answered := h.refusing.given
  accepted t s due := h.stage_of_accepted
  started t s label mem := by
    obtain ⟨due, accepted⟩ := h.accepted_of_started mem
    exact h.stage_of_accepted accepted

/-- **Undeclared stages are inert at any depth.**  For every choice of stages and every program of
operations nested to any depth: without the operations that name other stages, at top level and in
all actions, the program leaves the same machine but for these operations, with the same flags, the
same lengths of queues and the same tickets waiting; the same actions have been started in the same
order, and all other operations have given the same answers.  Each of these operations is answered
with the failure that shows its stage.  The same holds at every moment on the way: without these
operations the machine that is left of the moment is reached, and they have done nothing. -/
theorem undeclared_inert (made : ofStages stages = .ok m) (ops : List (GateOp σ)) :
    let without := GateOp.prune stages ops
    m.callAll without = (m.callAll ops).pruned stages ∧
    (∀ s, (m.callAll without).gate.completed? s = (m.callAll ops).gate.completed? s ∧
      (m.callAll without).gate.pendingCount? s = (m.callAll ops).gate.pendingCount? s ∧
      (m.callAll without).waiting s = (m.callAll ops).waiting s) ∧
    startedTickets (m.callAll without).trace = startedTickets (m.callAll ops).trace ∧
    (m.callAll without).recorded = (m.callAll ops).recorded ∧
    m.answersTo without =
      (m.answersTo ops).filterMap (fun x => (x.1.pruned? stages).map (·, x.2)) ∧
    (∀ x ∈ m.answersTo ops, Refused stages x.1 x.2) ∧
    ∀ performed m', Reached stages performed m' →
      Reached stages (GateOp.prune stages performed) (m'.pruned stages) ∧ Inert stages m' := by
  intro without
  have declares : Declares stages m := (fresh_ofStages made).declared
  obtain ⟨machine, answers⟩ := declares.callAll (fresh_ofStages made).stack ops
  rw [pruned_of_fresh made] at machine answers
  refine ⟨machine, fun s => ?_, ?_, ?_, answers, declares.refused_answersTo ops,
    fun performed m' reached => ⟨reached.pruned, reached.inert⟩⟩
  · rw [machine]
    exact ⟨Gate.completed?_map .., Gate.pendingCount?_map .., congrFun waiting_pruned s⟩
  · rw [machine]
    exact flatMap_pruned _ fun _ _ _ => rfl
  · rw [machine]
    exact flatMap_pruned _ fun _ _ _ => rfl

/-- A waiting action strays to stages that the gate does not have, once with an action that would
complete the stage it waits for. -/
def straying : List (GateOp Nat) :=
  [.run 0 "a" [.mark 7, .run 7 "x" [.mark 0], .run 0 "b" [.isCompleted 9]], .pendingCount 5,
    .mark 0]

/-- The straying action is started and the other one behind it; it is told that there is no such
stage, and leaves the machine of the program without strays. -/
theorem undeclared_inert_straying : ∃ m : GateMachine Nat, ofStages [0] = .ok m ∧
    m.callAll [.run 0 "a" [.run 0 "b" []], .mark 0] = (m.callAll straying).pruned [0] ∧
    (m.callAll straying).recorded = ["a", "b"] ∧
    .answered "a" (.run 7 "x" [.mark 0]) (.error (.unknownStage "7")) ∈
      (m.callAll straying).trace := by
  have made : ofStages [0] = .ok { gate := { slots := [(0, {})] } } := rfl
  have left := GateRun.callAll_of_last (fresh_ofStages made).stack straying (n := 30) rfl
  refine ⟨_, made, (undeclared_inert made straying).1, ?_, ?_⟩
  · rw [left]
    rfl
  · rw [left]
    exact List.mem_of_getElem? (i := 3) rfl

end GateMachine

end CaptureFlow
