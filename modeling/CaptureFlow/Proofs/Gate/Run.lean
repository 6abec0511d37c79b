import Mathlib.Logic.Relation
import CaptureFlow.Gate.Program
import CaptureFlow.Proofs.Gate.View
/-! # Runs of a gate

A run enters operations from the outside, one after the other, and each time performs all the
steps that the operation sets off.  `Reached stages performed m` says that the machine of the given
stages is at `m` at some moment of a run, between two steps or between two operations, and that
`performed` are the operations that have been performed until then, from the outside or from within
an action, in their order.

Whatever a machine does next, it does one of the things of `Moved`; `work` is what it puts on the
stack to do so.  `moved_enter` and `step_inv` say this of an operation and of a step, and
`Reached.invariant` turns what every move keeps into what holds at every moment.

A run cannot get stuck: the work on top of any part of the stack is done after finitely many steps
(`steps_to`), so every operation ends (`steps_finish`). -/

namespace CaptureFlow

/-- Numbers are stages in their order. -/
instance : Stage Nat where
  before s t := s < t
  shown s := toString s

namespace GateMachine

variable {σ : Type}

/-! ### What can happen -/

def waiting [DecidableEq σ] (m : GateMachine σ) (s : σ) : List Nat :=
  (m.gate.pending s).map (·.ticket)

def allWaiting (m : GateMachine σ) : List Nat :=
  m.gate.slots.flatMap fun entry => entry.2.pending.map (·.ticket)

variable [DecidableEq σ]

/-- `m'` comes from `m` by one move, which puts `work` on the stack. -/
inductive Moved (m m' : GateMachine σ) : List (GateTask σ) → Prop
  | idle (gate : m'.gate = m.gate) (tickets : m'.tickets = m.tickets)
      (trace : m'.trace = m.trace) : Moved m m' []
  | answered {label : String} {op : GateOp σ} {answer : GateAnswer σ}
      (gate : m'.gate = m.gate) (tickets : m'.tickets = m.tickets)
      (trace : m'.trace = m.trace ++ [.answered label op answer]) : Moved m m' []
  | queued {s : σ} {label : String} {body : List (GateOp σ)}
      (gate : Gate.Queued m.gate s ⟨m.tickets, label, body⟩ m'.gate)
      (tickets : m'.tickets = m.tickets + 1)
      (trace : m'.trace = m.trace ++ [.accepted m.tickets s false]) : Moved m m' []
  | ran {s : σ} {label : String} {body : List (GateOp σ)}
      (complete : m.gate.isComplete s = true) (gate : m'.gate = m.gate)
      (tickets : m'.tickets = m.tickets + 1)
      (trace : m'.trace =
        m.trace ++ [.accepted m.tickets s true] ++ [.started m.tickets s label]) :
      Moved m m' [.perform label body]
  | marked {s : σ} (gate : Gate.Marked m.gate s m'.gate) (tickets : m'.tickets = m.tickets)
      (trace : m'.trace = m.trace) : Moved m m' [.dispatch s m.gate.cycle]
  | emptied (gate : m'.gate = m.gate.reset) (tickets : m'.tickets = m.tickets)
      (trace : m'.trace = m.trace ++ [.discarded m.allWaiting]) : Moved m m' []
  | taken {s : σ} {a : GateAction σ} (gate : Gate.Popped m.gate s a m'.gate)
      (tickets : m'.tickets = m.tickets)
      (trace : m'.trace = m.trace ++ [.started a.ticket s a.label]) :
      Moved m m' [.perform a.label a.body]

theorem Moved.withStack {m m' : GateMachine σ} {work : List (GateTask σ)} (h : Moved m m' work)
    (stack : List (GateTask σ)) : Moved m { m' with stack } work := by
  cases h with
  | idle gate tickets trace => exact .idle gate tickets trace
  | answered gate tickets trace => exact .answered gate tickets trace
  | queued gate tickets trace => exact .queued gate tickets trace
  | ran complete gate tickets trace => exact .ran complete gate tickets trace
  | marked gate tickets trace => exact .marked gate tickets trace
  | emptied gate tickets trace => exact .emptied gate tickets trace
  | taken gate tickets trace => exact .taken gate tickets trace

variable [Stage σ]

theorem moved_start (m : GateMachine σ) (op : GateOp σ) :
    Moved m (m.start op).machine (m.start op).work := by
  cases op with
  | run s label body =>
      simp only [start]
      split
      · exact .idle rfl rfl rfl
      next gate due offered =>
        cases due with
        | true =>
            obtain ⟨same, complete⟩ := Gate.offer?_due_iff.mp offered
            exact .ran complete same rfl rfl
        | false => exact .queued (Gate.queued_of_offer? offered) rfl rfl
  | mark s =>
      simp only [start]
      split
      · exact .idle rfl rfl rfl
      next gate first completed =>
        cases first with
        | true => exact .marked (Gate.marked_of_complete? completed) rfl rfl
        | false => exact .idle (Gate.complete?_again_iff.mp completed).1 rfl rfl
  | reset => exact .emptied rfl rfl rfl
  | isCompleted s =>
      simp only [start]
      split <;> exact .idle rfl rfl rfl
  | pendingCount s =>
      simp only [start]
      split <;> exact .idle rfl rfl rfl
  | stages => exact .idle rfl rfl rfl
  | describe => exact .idle rfl rfl rfl

/-- A step replaces the task on top of the stack by the work of a move and what is kept of the
task.  A dispatch is kept as it is until it finds nothing to take, and no other task leaves one. -/
theorem step_inv {m m' : GateMachine σ} (h : m.step = some m') :
    ∃ task rest kept work, m.stack = task :: rest ∧ m'.stack = work ++ (kept ++ rest) ∧
      Moved m m' work ∧
      (∀ s cycle, task = .dispatch s cycle → kept = [task] ∨ m.gate.take? s cycle = none) ∧
      ∀ s cycle, .dispatch s cycle ∈ kept → task = .dispatch s cycle ∧ kept = [task] := by
  unfold step at h
  split at h
  · cases h
  next label rest stack =>
    obtain rfl := Option.some.inj h
    exact ⟨_, rest, [], [], stack, rfl, .idle rfl rfl rfl, fun _ _ same => (by cases same),
      by simp⟩
  next label op ops rest stack =>
    obtain rfl := Option.some.inj h
    exact ⟨_, rest, [.report label op (m.start op).answer, .perform label ops], _, stack, rfl,
      (moved_start m op).withStack _, fun _ _ same => (by cases same),
      by simp⟩
  next label op answer rest stack =>
    obtain rfl := Option.some.inj h
    exact ⟨_, rest, [], [], stack, rfl, .answered rfl rfl rfl, fun _ _ same => (by cases same),
      by simp⟩
  next s cycle rest stack =>
    split at h
    next nothing =>
      obtain rfl := Option.some.inj h
      refine ⟨_, rest, [], [], stack, rfl, .idle rfl rfl rfl, fun t c same => .inr ?_, by simp⟩
      obtain ⟨rfl, rfl⟩ := GateTask.dispatch.inj same
      exact nothing
    next a gate taken =>
      obtain rfl := Option.some.inj h
      refine ⟨_, rest, [.dispatch s cycle], [.perform a.label a.body], stack, ?_,
        .taken (Gate.popped_of_take? taken) rfl rfl, fun _ _ _ => .inl rfl, ?_⟩
      · simp only [stack_log, stack]
        rfl
      · intro t c mem
        exact ⟨(List.mem_singleton.mp mem).symm, rfl⟩

theorem exists_step {m : GateMachine σ} (busy : m.stack ≠ []) : ∃ m', m.step = some m' := by
  unfold step
  split
  next idle => exact absurd idle busy
  · exact ⟨_, rfl⟩
  · exact ⟨_, rfl⟩
  · exact ⟨_, rfl⟩
  · split <;> exact ⟨_, rfl⟩

/-! ### Entering operations -/

/-- The machine after the immediate part of an operation from the outside. -/
def enter (m : GateMachine σ) (op : GateOp σ) : GateMachine σ :=
  { (m.start op).machine with stack := (m.start op).work ++ m.stack }

theorem call_eq (m : GateMachine σ) (op : GateOp σ) :
    m.call op = ((m.start op).answer, (m.enter op).finish) := rfl

theorem moved_enter (m : GateMachine σ) (op : GateOp σ) :
    Moved m (m.enter op) (m.start op).work := (moved_start m op).withStack _

omit [DecidableEq σ] [Stage σ] in
/-- The operation that the next step performs, if it performs one. -/
def next? (m : GateMachine σ) : Option (GateOp σ) :=
  match m.stack with
  | .perform _ (op :: _) :: _ => some op
  | _ => none

/-- The moments of all runs on a gate of the given stages, each with the operations performed
until then. -/
inductive Reached (stages : List σ) : List (GateOp σ) → GateMachine σ → Prop
  | fresh {m : GateMachine σ} (made : ofStages stages = .ok m) : Reached stages [] m
  | enter {performed : List (GateOp σ)} {m : GateMachine σ} (op : GateOp σ)
      (reached : Reached stages performed m) (idle : m.stack = []) :
      Reached stages (performed ++ [op]) (m.enter op)
  | step {performed : List (GateOp σ)} {m m' : GateMachine σ}
      (reached : Reached stages performed m) (stepped : m.step = some m') :
      Reached stages (performed ++ m.next?.toList) m'

/-- What holds of a fresh machine and is kept from one moment to the next holds at every moment.
Between the two lies a move, whose work is on top of the stack afterwards. -/
theorem Reached.moments {stages : List σ} {P : GateMachine σ → Prop}
    (fresh : ∀ m, ofStages stages = .ok m → P m)
    (moved : ∀ performed performed' m m' work rest, Reached stages performed m →
      Reached stages performed' m' → m'.stack = work ++ rest → Moved m m' work → P m → P m')
    {performed : List (GateOp σ)} {m : GateMachine σ} (h : Reached stages performed m) : P m := by
  induction h with
  | fresh made => exact fresh _ made
  | enter op reached idle ih =>
      exact moved _ _ _ _ _ _ reached (reached.enter op idle) rfl (moved_enter _ op) ih
  | step reached stepped ih =>
      obtain ⟨_, _, _, _, _, after, move, _⟩ := step_inv stepped
      exact moved _ _ _ _ _ _ reached (reached.step stepped) after move ih

theorem Reached.invariant {stages : List σ} {P : GateMachine σ → Prop}
    (fresh : ∀ m, ofStages stages = .ok m → P m)
    (moved : ∀ performed m m' work, Reached stages performed m → Moved m m' work → P m → P m')
    {performed : List (GateOp σ)} {m : GateMachine σ} (h : Reached stages performed m) : P m :=
  h.moments fresh fun performed _ m m' work _ reached _ _ => moved performed m m' work reached

/-- A fresh machine has the given stages, each once, no flags, no queues and no past. -/
structure Fresh (stages : List σ) (m : GateMachine σ) : Prop where
  distinct : m.gate.stages.Nodup
  declared : ∀ s, s ∈ m.gate.stages ↔ s ∈ stages
  flags : ∀ s, m.gate.isComplete s = false
  queues : ∀ s, m.gate.pending s = []
  tickets : m.tickets = 0
  stack : m.stack = []
  trace : m.trace = []

theorem fresh_ofStages {stages : List σ} {m : GateMachine σ} (h : ofStages stages = .ok m) :
    Fresh stages m := by
  unfold ofStages at h
  split at h
  · cases h
  next gate made =>
    obtain rfl := Except.ok.inj h
    obtain ⟨distinct, declared, empty⟩ := Gate.fresh_ofStages? made
    have slot : ∀ s, gate.slot? s = none ∨ gate.slot? s = some {} := by
      intro s
      cases found : gate.slot? s with
      | none => exact .inl rfl
      | some slot => exact .inr (congrArg some (empty _ (Gate.mem_slots_of_slot? found)))
    refine ⟨distinct, declared, fun s => ?_, fun s => ?_, rfl, rfl, rfl⟩
    · rcases slot s with none | some <;> simp [Gate.isComplete, Gate.completed?, *]
    · rcases slot s with none | some <;> simp [Gate.pending, *]

/-! ### Every operation ends -/

/-- `m'` is reached from `m` by steps. -/
abbrev Steps : GateMachine σ → GateMachine σ → Prop :=
  Relation.ReflTransGen fun m m' => m.step = some m'

/-- The machine after at most `n` steps of tasks above the lowest `depth` ones. -/
def stepsAbove (depth : Nat) : Nat → GateMachine σ → GateMachine σ
  | 0, m => m
  | n + 1, m =>
    if depth < m.stack.length then
      match m.step with
      | none => m
      | some m' => stepsAbove depth n m'
    else m

theorem steps_stepsAbove (depth n : Nat) (m : GateMachine σ) :
    Steps m (stepsAbove depth n m) := by
  induction n generalizing m with
  | zero => exact .refl
  | succ n ih =>
      rw [stepsAbove]
      split
      · split
        · exact .refl
        next m' stepped => exact (ih m').head stepped
      · exact .refl

/-- The work on top of any part of the stack is done after finitely many steps. -/
theorem steps_to (m : GateMachine σ) (above below : List (GateTask σ))
    (h : m.stack = above ++ below) : ∃ m', Steps m m' ∧ m'.stack = below := by
  induction weighed : m.weight using Nat.strongRecOn generalizing m above with
  | ind weight ih =>
      cases above with
      | nil => exact ⟨m, .refl, h⟩
      | cons task rest =>
          obtain ⟨m₁, stepped⟩ := exists_step (m := m) (by rw [h]; exact List.cons_ne_nil _ _)
          obtain ⟨task', rest', kept, work, before, after, _, _⟩ := step_inv stepped
          rw [h, List.cons_append] at before
          obtain ⟨rfl, rfl⟩ := List.cons.inj before
          obtain ⟨m', steps, bottom⟩ := ih m₁.weight (weighed ▸ weight_step stepped) m₁
            (work ++ (kept ++ rest)) (by rw [after, List.append_assoc, List.append_assoc]) rfl
          exact ⟨m', steps.head stepped, bottom⟩

theorem finish_of_step {m m' : GateMachine σ} (h : m.step = some m') : m.finish = m'.finish := by
  rw [finish]
  split
  next stuck => rw [stuck] at h; cases h
  next m₁ stepped => rw [Option.some.inj (stepped.symm.trans h)]

theorem finish_of_idle {m : GateMachine σ} (h : m.stack = []) : m.finish = m := by
  have stuck : m.step = none := by simp [step, h]
  rw [finish]
  split
  · rfl
  next m₁ stepped => rw [stuck] at stepped; cases stepped

theorem finish_of_steps {m m' : GateMachine σ} (h : Steps m m') : m.finish = m'.finish := by
  induction h with
  | refl => rfl
  | tail _ stepped ih => rw [ih, finish_of_step stepped]

theorem steps_finish (m : GateMachine σ) : Steps m m.finish ∧ m.finish.stack = [] := by
  obtain ⟨m', steps, idle⟩ := steps_to m m.stack [] (List.append_nil _).symm
  rw [finish_of_steps steps, finish_of_idle idle]
  exact ⟨steps, idle⟩

theorem Reached.steps {stages : List σ} {performed : List (GateOp σ)} {m m' : GateMachine σ}
    (h : Reached stages performed m) (steps : Steps m m') :
    ∃ more, Reached stages (performed ++ more) m' := by
  induction steps with
  | refl => exact ⟨[], by rwa [List.append_nil]⟩
  | tail _ stepped ih =>
      obtain ⟨more, reached⟩ := ih
      exact ⟨_, List.append_assoc .. ▸ reached.step stepped⟩

/-- Calls stay within the moments of a run, and leave nothing to do. -/
theorem Reached.call {stages : List σ} {performed : List (GateOp σ)} {m : GateMachine σ}
    (h : Reached stages performed m) (idle : m.stack = []) (op : GateOp σ) :
    (m.call op).2.stack = [] ∧ ∃ more, Reached stages (performed ++ op :: more) (m.call op).2 := by
  rw [call_eq]
  obtain ⟨steps, empty⟩ := steps_finish (m.enter op)
  obtain ⟨more, reached⟩ := (h.enter op idle).steps steps
  exact ⟨empty, more, by rwa [List.append_assoc] at reached⟩

end GateMachine

end CaptureFlow
