import CaptureFlow.Proofs.Camera.Failing
/-! # Work that is done

What follows from a move is put on the stack, above all that has to be done later, and no step looks
below the task that it performs.  So what comes of the work of a move does not depend on what lies
below: `move.LeadsTo m'` says that it is done some steps later, and that `m'` is then the machine.
Each task has a lemma that says what doing it takes, and pieces of work are done one after the other
(`CameraMove.LeadsTo.append`).

`Performed m op answer m'` says that an operation performed at `m` answers `answer`, and that `m'`
is the machine when all that the operation has set off is done.  A call from the outside is over
then (`Performed.call`), and a reaction within which the operation was performed goes on
(`Performed.later`). -/

namespace CaptureFlow

variable {τ : Type}

namespace CameraMachine

variable {m m' : CameraMachine τ}

/-! ### Some steps and some more -/

theorem steps_of_stuck (stuck : m.step = none) (n : Nat) : steps n m = m := by
  cases n with
  | zero => rfl
  | succ n => rw [steps, stuck]

theorem steps_succ (stepped : m.step = some m') (n : Nat) : steps (n + 1) m = steps n m' := by
  rw [steps, stepped]

theorem steps_add (n more : Nat) (m : CameraMachine τ) :
    steps (n + more) m = steps more (steps n m) := by
  induction n generalizing m with
  | zero => rw [Nat.zero_add, steps]
  | succ n ih =>
      rw [Nat.add_right_comm]
      cases stepped : m.step with
      | none => rw [steps_of_stuck stepped, steps_of_stuck stepped, steps_of_stuck stepped]
      | some m' => rw [steps_succ stepped, steps_succ stepped, ih]

theorem finish_steps (n : Nat) (m : CameraMachine τ) : (steps n m).finish = m.finish := by
  induction n generalizing m with
  | zero => rfl
  | succ n ih =>
      cases stepped : m.step with
      | none => rw [steps_of_stuck stepped]
      | some m' => rw [steps_succ stepped, ih, finish_of_step stepped]

/-! ### The stack below -/

end CameraMachine

/-- The move of a machine with another stack. -/
def CameraMove.above (move : CameraMove τ) (stack : List (CameraTask τ)) : CameraMove τ :=
  { move with machine := { move.machine with stack } }

namespace CameraMachine

variable {m m' m₁ : CameraMachine τ} {work more : List (CameraTask τ)}

theorem fail_above (m : CameraMachine τ) (cause : Failure) (ticket : Option Nat)
    (stack : List (CameraTask τ)) :
    { m with stack }.fail cause ticket = (m.fail cause ticket).above stack := by
  cases plan : m.plan with
  | nil => simp only [fail, log, plan, CameraMove.above]
  | cons ops rest => simp only [fail, log, plan, CameraMove.above]

theorem reach_above (m : CameraMachine τ) (stage : CameraStage) (stack : List (CameraTask τ)) :
    { m with stack }.reach stage = (m.reach stage).above stack := by
  cases completed : m.camera.gate.complete? stage with
  | none =>
      simp only [reach, completed]
      exact fail_above m _ none stack
  | some result =>
      simp only [reach, completed]
      rfl

theorem run_above (m : CameraMachine τ) (action : CameraAction (Receiver τ))
    (stack : List (CameraTask τ)) :
    { m with stack }.run action = (m.run action).above stack := by
  cases action with
  | linkSurface surface =>
      cases started : m.camera.startPreview surface with
      | mk result camera =>
          simp only [run, started]
          cases result with
          | ok _ => exact reach_above (m.withCamera camera) _ stack
          | error cause => exact fail_above (m.withCamera camera) cause none stack
  | applyRotation rotation =>
      cases applied : m.camera.applyRotation rotation with
      | mk result camera =>
          simp only [run, applied]
          cases result with
          | ok _ => rfl
          | error cause => exact fail_above (m.withCamera camera) cause none stack
  | takePicture receiver =>
      cases taken : m.camera.takePicture with
      | mk result camera =>
          simp only [run, taken]
          cases result with
          | ok frame => rfl
          | error cause => exact fail_above (m.withCamera camera) cause _ stack

end CameraMachine

/-! ### Work and what it leads to -/

namespace CameraMove

open CameraMachine

variable {m m' m₁ : CameraMachine τ} {move : CameraMove τ} {work more : List (CameraTask τ)}

/-- Whatever lies below on the stack, the work of the move is done some steps later, and the machine
is `m'` then. -/
def LeadsTo (move : CameraMove τ) (m' : CameraMachine τ) : Prop :=
  ∀ rest, ∃ n, steps n { move.machine with stack := move.work ++ rest } = { m' with stack := rest }

theorem leadsTo_nil (m : CameraMachine τ) : LeadsTo { machine := m } m := fun _ => ⟨0, rfl⟩

theorem LeadsTo.append (h : LeadsTo { machine := m, work } m₁)
    (h' : LeadsTo { machine := m₁, work := more } m') :
    LeadsTo { machine := m, work := work ++ more } m' := by
  intro rest
  obtain ⟨n, first⟩ := h (more ++ rest)
  obtain ⟨n', second⟩ := h' rest
  refine ⟨n + n', ?_⟩
  rw [steps_add, List.append_assoc, first, second]

/-- One step puts the work of a move in the place of a task. -/
theorem leadsTo_of_step {task : CameraTask τ} (move : CameraMove τ)
    (stepped : ∀ rest, { m with stack := task :: rest }.step =
      some { move.machine with stack := move.work ++ rest })
    (h : move.LeadsTo m') : LeadsTo { machine := m, work := [task] } m' := by
  intro rest
  obtain ⟨n, done⟩ := h rest
  refine ⟨n + 1, ?_⟩
  rw [← done]
  exact steps_succ (stepped rest) n

/-! ### Tasks -/

theorem leadsTo_perform_nil (m : CameraMachine τ) (origin : CameraOrigin τ) :
    LeadsTo { machine := m, work := [.perform origin []] } m :=
  leadsTo_of_step { machine := m } (fun _ => rfl) (leadsTo_nil m)

theorem leadsTo_reselect (m : CameraMachine τ) (facing : Facing) :
    LeadsTo { machine := m, work := [.reselect facing] } (m.select facing) :=
  leadsTo_of_step { machine := m.select facing } (fun _ => rfl) (leadsTo_nil _)

/-- The run of an empty queue. -/
theorem leadsTo_dispatched {stage : CameraStage} (cycle : UInt64)
    (empty : m.camera.gate.pending stage = []) :
    LeadsTo { machine := m, work := [.dispatch stage cycle] } m := by
  refine leadsTo_of_step { machine := m } (fun rest => ?_) (leadsTo_nil m)
  have nothing := Gate.take?_of_settled (g := m.camera.gate) cycle fun _ => empty
  simp only [step, nothing]
  rfl

/-- The run of a queue takes the first action, and goes on when that has been done. -/
theorem leadsTo_dispatch {stage : CameraStage} {cycle : UInt64}
    {action : CameraAction (Receiver τ)} {gate : Gate CameraStage (CameraAction (Receiver τ))}
    (taken : m.camera.gate.take? stage cycle = some (action, gate))
    (ran : ((m.withGate gate).run action).LeadsTo m₁)
    (goesOn : LeadsTo { machine := m₁, work := [.dispatch stage cycle] } m') :
    LeadsTo { machine := m, work := [.dispatch stage cycle] } m' := by
  let next := (m.withGate gate).run action
  refine leadsTo_of_step { next with work := next.work ++ [.dispatch stage cycle] }
    (fun rest => ?_) (ran.append goesOn)
  have same : ({ m with stack := .dispatch stage cycle :: rest }.withGate gate).run action =
      ((m.withGate gate).run action).above (.dispatch stage cycle :: rest) :=
    run_above (m.withGate gate) action _
  simp only [step, taken, same, above, next, List.append_assoc, List.singleton_append]

/-- An action that is offered while its stage is complete runs at once. -/
theorem leadsTo_offer {action : CameraAction (Receiver τ)}
    (complete : m.camera.isAt action.stage = true) (ran : (m.run action).LeadsTo m') :
    LeadsTo { machine := m, work := [.offer action] } m' := by
  refine leadsTo_of_step (m.run action) (fun rest => ?_) ran
  have offered : m.camera.gate.offer? action.stage action = some (m.camera.gate, true) :=
    Gate.offer?_due_iff.mpr ⟨rfl, complete⟩
  have same : ({ m with stack := .offer action :: rest }.withGate m.camera.gate).run action =
      (m.run action).above (.offer action :: rest) := run_above m action _
  simp only [step, offer?, offered, if_true, same, above]

/-- An action that is offered too early waits. -/
theorem leadsTo_queue {action : CameraAction (Receiver τ)}
    {gate : Gate CameraStage (CameraAction (Receiver τ))}
    (offered : m.camera.gate.offer? action.stage action = some (gate, false)) :
    LeadsTo { machine := m, work := [.offer action] } (m.withGate gate) := by
  refine leadsTo_of_step { machine := m.withGate gate } (fun rest => ?_) (leadsTo_nil _)
  simp only [step, offer?, offered, Bool.false_eq_true, if_false]
  rfl

end CameraMove

/-! ### Operations -/

namespace CameraMachine

variable {m m' m₁ : CameraMachine τ} {op : CameraOp τ} {answer : CameraAnswer}

/-- The listener does nothing in any of its reactions. -/
def Hushed (m : CameraMachine τ) : Prop := ∀ ops ∈ m.plan, ops = []

theorem leadsTo_fail (hushed : Hushed m) (cause : Failure) (ticket : Option Nat) :
    (m.fail cause ticket).LeadsTo (m.fail cause ticket).machine := by
  cases plan : m.plan with
  | nil =>
      simp only [fail, log, plan]
      exact CameraMove.leadsTo_nil _
  | cons ops rest =>
      obtain rfl : ops = [] := hushed ops (plan ▸ List.mem_cons_self)
      simp only [fail, log, plan]
      exact CameraMove.leadsTo_perform_nil _ _

/-- `op`, performed at `m`, answers `answer`, and by the time that all it sets off is done it has
made `m'` of the machine. -/
structure Performed (m : CameraMachine τ) (op : CameraOp τ) (answer : CameraAnswer)
    (m' : CameraMachine τ) : Prop where
  answer : (m.start op).answer = answer
  leads : (m.start op).toCameraMove.LeadsTo m'

theorem Performed.call (h : Performed m op answer m') (idle : m.stack = []) :
    m.call op = (answer, { m' with stack := [] }) := by
  obtain ⟨n, done⟩ := h.leads []
  rw [call_eq, h.answer, ← finish_of_idle (m := { m' with stack := [] }) rfl, ← done, finish_steps,
    enter, idle]

/-- An operation within a reaction is over before anything below it on the stack goes on. -/
theorem Performed.later (h : Performed m op answer m') (next : Next m (some op) m₁) :
    ∃ rest, m₁.stack = (m.start op).work ++ rest ∧ Later m₁ { m' with stack := rest } := by
  obtain ⟨rest, -, rfl⟩ := next.performs
  obtain ⟨n, done⟩ := h.leads rest
  exact ⟨rest, rfl, done ▸ Later.steps .now n⟩

end CameraMachine

end CaptureFlow
