import CaptureFlow.Failure
import CaptureFlow.Gate.Basic
/-! # Programs on a gate

An action that waits at a gate may itself operate the gate when it runs, so operations nest to any
depth and several runs of queues can be under way at once.  A `GateOp` is an operation together
with all that its action will do, and `GateMachine` performs operations one small step at a time:
its `stack` holds what is still to be done, the innermost task first, and its `trace` what has
happened.  Every action that a gate accepts gets a ticket, under which the trace tells when it was
accepted, started or discarded.

* `step` performs one step, or gives `none` when nothing is left to do.
* `finish` performs all steps.  It ends because every step lowers `GateMachine.weight`, which
  counts the operations that have not been started yet (`weight_step`).
* `call` is one operation from the outside: its answer, and the machine when all that it set off
  is done. -/

namespace CaptureFlow

/-! ### Operations -/

/-- An operation on a gate; `body` is what the action of `run` will do. -/
inductive GateOp (σ : Type) where
  | run (stage : σ) (label : String) (body : List (GateOp σ))
  | mark (stage : σ)
  | reset
  | isCompleted (stage : σ)
  | pendingCount (stage : σ)
  | stages
  | describe

inductive GateReply (σ : Type) where
  | done
  | flag (b : Bool)
  | count (n : Nat)
  | stages (declared : List σ)
  | text (s : String)

abbrev GateAnswer (σ : Type) := Except Failure (GateReply σ)

structure GateAction (σ : Type) where
  ticket : Nat
  label : String
  body : List (GateOp σ)

inductive GateEvent (σ : Type) where
  | accepted (ticket : Nat) (stage : σ) (due : Bool)
  | started (ticket : Nat) (stage : σ) (label : String)
  | discarded (tickets : List Nat)
  | answered (label : String) (op : GateOp σ) (answer : GateAnswer σ)

/-- What is still to be done: the rest of an action, reporting an answer to the action that asked,
or running the queue of a stage. -/
inductive GateTask (σ : Type) where
  | perform (label : String) (ops : List (GateOp σ))
  | report (label : String) (op : GateOp σ) (answer : GateAnswer σ)
  | dispatch (stage : σ) (cycle : UInt64)

/-- A gate at work. -/
structure GateMachine (σ : Type) where
  gate : Gate σ (GateAction σ)
  tickets : Nat := 0
  stack : List (GateTask σ) := []
  trace : List (GateEvent σ) := []

/-- The immediate part of an operation: the machine after it, what has to be done before the
operation is over, and the answer that it will give then. -/
structure GateStart (σ : Type) where
  machine : GateMachine σ
  work : List (GateTask σ)
  answer : GateAnswer σ

namespace GateMachine

variable {σ : Type}

/-! ### Steps -/

def log (m : GateMachine σ) (events : List (GateEvent σ)) : GateMachine σ :=
  { m with trace := m.trace ++ events }

variable [DecidableEq σ] [Stage σ]

def unknown (s : σ) : GateAnswer σ := .error (.unknownStage (Stage.shown s))

/-- Performs the immediate part of an operation. -/
def start (m : GateMachine σ) : GateOp σ → GateStart σ
  | .run s label body =>
    match m.gate.offer? s ⟨m.tickets, label, body⟩ with
    | none => ⟨m, [], unknown s⟩
    | some (gate, due) =>
      let accepted := { m with gate, tickets := m.tickets + 1 }.log [.accepted m.tickets s due]
      if due then ⟨accepted.log [.started m.tickets s label], [.perform label body], .ok .done⟩
      else ⟨accepted, [], .ok .done⟩
  | .mark s =>
    match m.gate.complete? s with
    | none => ⟨m, [], unknown s⟩
    | some (gate, first) =>
      ⟨{ m with gate }, if first then [.dispatch s m.gate.cycle] else [], .ok .done⟩
  | .reset =>
    let dropped := m.gate.slots.flatMap fun entry => entry.2.pending.map (·.ticket)
    ⟨{ m with gate := m.gate.reset }.log [.discarded dropped], [], .ok .done⟩
  | .isCompleted s =>
    match m.gate.completed? s with
    | none => ⟨m, [], unknown s⟩
    | some b => ⟨m, [], .ok (.flag b)⟩
  | .pendingCount s =>
    match m.gate.pendingCount? s with
    | none => ⟨m, [], unknown s⟩
    | some n => ⟨m, [], .ok (.count n)⟩
  | .stages => ⟨m, [], .ok (.stages m.gate.stages)⟩
  | .describe => ⟨m, [], .ok (.text m.gate.described)⟩

/-- One step of the innermost task. -/
def step (m : GateMachine σ) : Option (GateMachine σ) :=
  match m.stack with
  | [] => none
  | .perform _ [] :: rest => some { m with stack := rest }
  | .perform label (op :: ops) :: rest =>
    let started := m.start op
    some { started.machine with
      stack := started.work ++ .report label op started.answer :: .perform label ops :: rest }
  | .report label op answer :: rest =>
    some ({ m with stack := rest }.log [.answered label op answer])
  | .dispatch s cycle :: rest =>
    match m.gate.take? s cycle with
    | none => some { m with stack := rest }
    | some (a, gate) =>
      some ({ m with gate, stack := .perform a.label a.body :: m.stack }.log
        [.started a.ticket s a.label])

end GateMachine

/-! ### The work that is left -/

mutual

def GateOp.weight {σ : Type} : GateOp σ → Nat
  | .run _ _ body => 4 + GateOp.weights body
  | _ => 3

def GateOp.weights {σ : Type} : List (GateOp σ) → Nat
  | [] => 0
  | op :: ops => op.weight + GateOp.weights ops

end

def GateAction.weight {σ : Type} (a : GateAction σ) : Nat := 2 + GateOp.weights a.body

def GateTask.weight {σ : Type} : GateTask σ → Nat
  | .perform _ ops => 1 + GateOp.weights ops
  | .report .. => 1
  | .dispatch .. => 1

namespace GateMachine

variable {σ : Type}

/-- The weight of all that is still to be done. -/
def weight (m : GateMachine σ) : Nat :=
  m.gate.weight GateAction.weight + total (m.stack.map GateTask.weight)

@[simp] theorem gate_log (m : GateMachine σ) (events : List (GateEvent σ)) :
    (m.log events).gate = m.gate := rfl

@[simp] theorem stack_log (m : GateMachine σ) (events : List (GateEvent σ)) :
    (m.log events).stack = m.stack := rfl

variable [DecidableEq σ] [Stage σ]

theorem weight_start (m : GateMachine σ) (op : GateOp σ) :
    (m.start op).machine.gate.weight GateAction.weight +
        total ((m.start op).work.map GateTask.weight) + 1 <
      m.gate.weight GateAction.weight + op.weight := by
  cases op with
  | run s label body =>
    simp only [start]
    split
    · simp [GateOp.weight]; omega
    next gate due offered =>
      have weighed := Gate.weight_offer? GateAction.weight offered
      cases due <;>
        simp [GateOp.weight, GateTask.weight, GateAction.weight] at weighed ⊢ <;> omega
  | mark s =>
    simp only [start]
    split
    · simp [GateOp.weight]
    next gate first completed =>
      have weighed := Gate.weight_complete? GateAction.weight completed
      cases first <;> simp [GateOp.weight, GateTask.weight, weighed]
  | reset => simp [start, GateOp.weight]
  | isCompleted s => simp only [start]; split <;> simp [GateOp.weight]
  | pendingCount s => simp only [start]; split <;> simp [GateOp.weight]
  | stages => simp [start, GateOp.weight]
  | describe => simp [start, GateOp.weight]

theorem weight_step {m m' : GateMachine σ} (h : m.step = some m') : m'.weight < m.weight := by
  unfold step at h
  split at h
  · simp at h
  next label rest stack =>
    simp only [Option.some.injEq] at h
    subst h
    simp [weight, stack, GateTask.weight, GateOp.weights]
  next label op ops rest stack =>
    simp only [Option.some.injEq] at h
    subst h
    have started := weight_start m op
    simp [weight, stack, GateTask.weight, GateOp.weights]
    omega
  next label op answer rest stack =>
    simp only [Option.some.injEq] at h
    subst h
    simp [weight, stack, GateTask.weight]
  next s cycle rest stack =>
    split at h
    · simp only [Option.some.injEq] at h
      subst h
      simp [weight, stack, GateTask.weight]
    next a gate taken =>
      simp only [Option.some.injEq] at h
      subst h
      have weighed := Gate.weight_take? GateAction.weight taken
      simp [weight, stack, GateTask.weight, GateAction.weight] at weighed ⊢
      omega

/-! ### Runs -/

/-- The machine when nothing is left to do. -/
def finish (m : GateMachine σ) : GateMachine σ :=
  match _h : m.step with
  | none => m
  | some m' => finish m'
termination_by m.weight
decreasing_by exact weight_step _h

def call (m : GateMachine σ) (op : GateOp σ) : GateAnswer σ × GateMachine σ :=
  let started := m.start op
  (started.answer, { started.machine with stack := started.work ++ m.stack }.finish)

def ofStages (stages : List σ) : Except Failure (GateMachine σ) :=
  match Gate.ofStages? stages with
  | none => .error .noStages
  | some gate => .ok { gate }

end GateMachine

end CaptureFlow
