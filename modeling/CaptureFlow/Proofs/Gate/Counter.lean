import Mathlib.Data.List.Forall2
import CaptureFlow.Proofs.Gate.Cycle
import CaptureFlow.Proofs.Gate.Reference
/-! # The counter of resets

A gate counts its resets in a word, which may come round, and a dispatch that began at another count
takes nothing.  The count decides nothing all the same.  A dispatch that has outlived a reset comes
on top again only when every complete stage has an empty queue: what was queued and completed since
has a dispatch of its own above the old one.  `Guarded` says this of a stack, and every move keeps
it (`Moved.guarded`), whatever the counter started from.

So a machine whose dispatches look at nothing but the flag of their stage (`flagStep`) does the same
at every step (`Guarded.flagStep_eq`), and such a machine only carries the counter along: machines
that are `Alike` but for their counts stay alike.  A `GateRun` is a program of operations from the
outside at some moment, and from moment to moment nothing but the counts tells one counter from
another, or whether dispatches look at it (`counter_immaterial`). -/

namespace CaptureFlow

variable {σ α : Type}

/-! ### Gates at other counts -/

namespace Gate

/-- The gate at another count. -/
def counting (g : Gate σ α) (count : UInt64) : Gate σ α := { g with cycle := count }

theorem eq_counting {g g' : Gate σ α} (slots : g'.slots = g.slots) :
    g' = g.counting g'.cycle := by
  cases g'
  rw [counting, ← slots]

variable [DecidableEq σ] (g : Gate σ α) (count : UInt64) (s : σ) (a : α)

omit [DecidableEq σ] in
theorem reset_counting : (g.counting count).reset = g.reset.counting (count + 1) := rfl

@[simp] theorem slot?_counting : (g.counting count).slot? s = g.slot? s := rfl

theorem completed?_counting : (g.counting count).completed? s = g.completed? s := rfl

theorem pendingCount?_counting : (g.counting count).pendingCount? s = g.pendingCount? s := rfl

theorem offer?_counting : (g.counting count).offer? s a =
    (g.offer? s a).map fun offered => (offered.1.counting count, offered.2) := by
  simp only [offer?, slot?_counting]
  split
  · rfl
  · split <;> rfl

theorem complete?_counting : (g.counting count).complete? s =
    (g.complete? s).map fun completed => (completed.1.counting count, completed.2) := by
  simp only [complete?, slot?_counting]
  split
  · rfl
  · split <;> rfl

theorem pop?_counting : (g.counting count).pop? s =
    (g.pop? s).map fun popped => (popped.1, popped.2.counting count) := by
  simp only [pop?, slot?_counting]
  split <;> rfl

end Gate

/-! ### Alike but for the counter -/

section alike

variable [Stage σ]

/-- Two answers to an operation are the same, or they describe gates that differ only in their
counts. -/
inductive GateOp.AnswersAlike : GateOp σ → GateAnswer σ → GateAnswer σ → Prop
  | same (op : GateOp σ) (answer : GateAnswer σ) : AnswersAlike op answer answer
  | described {g g' : Gate σ (GateAction σ)} (slots : g'.slots = g.slots) :
      AnswersAlike .describe (.ok (.text g.described)) (.ok (.text g'.described))

/-- Two tasks are the same but for counts. -/
inductive GateTask.Alike : GateTask σ → GateTask σ → Prop
  | perform (label : String) (ops : List (GateOp σ)) :
      Alike (.perform label ops) (.perform label ops)
  | report {label : String} {op : GateOp σ} {answer answer' : GateAnswer σ}
      (answers : op.AnswersAlike answer answer') :
      Alike (.report label op answer) (.report label op answer')
  | dispatch (s : σ) (count count' : UInt64) : Alike (.dispatch s count) (.dispatch s count')

/-- Two events are the same but for counts. -/
inductive GateEvent.Alike : GateEvent σ → GateEvent σ → Prop
  | same (e : GateEvent σ) : Alike e e
  | answered {label : String} {op : GateOp σ} {answer answer' : GateAnswer σ}
      (answers : op.AnswersAlike answer answer') :
      Alike (.answered label op answer) (.answered label op answer')

/-- Two machines are the same but for counts: they have the same flags and queues, have given out
the same tickets, have the same things to do, and the same has happened. -/
structure GateMachine.Alike (m m' : GateMachine σ) : Prop where
  slots : m'.gate.slots = m.gate.slots
  tickets : m'.tickets = m.tickets
  stack : List.Forall₂ GateTask.Alike m.stack m'.stack
  trace : List.Forall₂ GateEvent.Alike m.trace m'.trace

end alike

namespace GateMachine

/-- The machine with its gate at another count. -/
def counting (m : GateMachine σ) (count : UInt64) : GateMachine σ :=
  { m with gate := m.gate.counting count }

variable [Stage σ] {m m' : GateMachine σ}

theorem Alike.log (h : Alike m m') {events events' : List (GateEvent σ)}
    (more : List.Forall₂ GateEvent.Alike events events') :
    Alike (m.log events) (m'.log events') :=
  ⟨h.slots, h.tickets, h.stack, List.rel_append h.trace more⟩

theorem Alike.log_same (h : Alike m m') (e : GateEvent σ) : Alike (m.log [e]) (m'.log [e]) :=
  h.log (.cons (.same e) .nil)

theorem Alike.withGate (h : Alike m m') (g : Gate σ (GateAction σ)) (count : UInt64) :
    Alike { m with gate := g } { m' with gate := g.counting count } :=
  ⟨rfl, h.tickets, h.stack, h.trace⟩

theorem Alike.withStack (h : Alike m m') {stack stack' : List (GateTask σ)}
    (tasks : List.Forall₂ GateTask.Alike stack stack') :
    Alike { m with stack } { m' with stack := stack' } :=
  ⟨h.slots, h.tickets, tasks, h.trace⟩

theorem Alike.issue (h : Alike m m') :
    Alike { m with tickets := m.tickets + 1 } { m' with tickets := m.tickets + 1 } :=
  ⟨h.slots, rfl, h.stack, h.trace⟩

variable [DecidableEq σ]

/-- Machines that are alike perform the immediate part of an operation alike. -/
theorem Alike.start (h : Alike m m') (op : GateOp σ) :
    Alike (m.start op).machine (m'.start op).machine ∧
      List.Forall₂ GateTask.Alike (m.start op).work (m'.start op).work ∧
      op.AnswersAlike (m.start op).answer (m'.start op).answer := by
  have gate := Gate.eq_counting h.slots
  cases op with
  | run s label body =>
      simp only [GateMachine.start]
      rw [gate, h.tickets, Gate.offer?_counting]
      cases m.gate.offer? s ⟨m.tickets, label, body⟩ with
      | none => exact ⟨h, .nil, .same _ _⟩
      | some offered =>
          obtain ⟨g, due⟩ := offered
          have accepted := ((h.withGate g m'.gate.cycle).issue).log_same
            (.accepted m.tickets s due)
          cases due with
          | true => exact ⟨accepted.log_same _, .cons (.perform _ _) .nil, .same _ _⟩
          | false => exact ⟨accepted, .nil, .same _ _⟩
  | mark s =>
      simp only [GateMachine.start]
      rw [gate, Gate.complete?_counting]
      cases m.gate.complete? s with
      | none => exact ⟨h, .nil, .same _ _⟩
      | some completed =>
          obtain ⟨g, first⟩ := completed
          refine ⟨h.withGate g m'.gate.cycle, ?_, .same _ _⟩
          cases first with
          | true => exact .cons (.dispatch s _ _) .nil
          | false => exact .nil
  | reset =>
      simp only [GateMachine.start]
      rw [h.slots, gate, Gate.reset_counting]
      exact ⟨(h.withGate m.gate.reset _).log_same _, .nil, .same _ _⟩
  | isCompleted s =>
      simp only [GateMachine.start]
      rw [gate, Gate.completed?_counting]
      cases m.gate.completed? s <;> exact ⟨h, .nil, .same _ _⟩
  | pendingCount s =>
      simp only [GateMachine.start]
      rw [gate, Gate.pendingCount?_counting]
      cases m.gate.pendingCount? s <;> exact ⟨h, .nil, .same _ _⟩
  | stages =>
      simp only [GateMachine.start, Gate.stages]
      rw [h.slots]
      exact ⟨h, .nil, .same _ _⟩
  | describe => exact ⟨h, .nil, .described h.slots⟩

theorem Alike.enter (h : Alike m m') (op : GateOp σ) :
    Alike (m.enter op) (m'.enter op) ∧
      op.AnswersAlike (m.start op).answer (m'.start op).answer := by
  obtain ⟨machine, work, answer⟩ := h.start op
  exact ⟨machine.withStack (List.rel_append work h.stack), answer⟩

/-! ### Dispatches that go by the flag alone -/

/-- As `step`, but a dispatch takes the next action of a complete stage's queue at whatever count it
began. -/
def flagStep (m : GateMachine σ) : Option (GateMachine σ) :=
  match m.stack with
  | .dispatch s _ :: rest =>
    match m.gate.pop? s with
    | none => some { m with stack := rest }
    | some (a, gate) =>
      some ({ m with gate, stack := .perform a.label a.body :: m.stack }.log
        [.started a.ticket s a.label])
  | _ => m.step

/-- Machines that are alike stay alike if their dispatches go by the flag alone. -/
theorem Alike.flagStep (h : Alike m m') : Option.Rel Alike m.flagStep m'.flagStep := by
  have gate := Gate.eq_counting h.slots
  have tasks := h.stack
  unfold GateMachine.flagStep GateMachine.step
  generalize m.stack = stack at tasks ⊢
  generalize m'.stack = stack' at tasks ⊢
  cases tasks with
  | nil => exact .none
  | cons task rest =>
      cases task with
      | perform label ops =>
          cases ops with
          | nil => exact .some (h.withStack rest)
          | cons op ops =>
              obtain ⟨machine, work, answer⟩ := h.start op
              refine .some (machine.withStack (List.rel_append work ?_))
              exact .cons (.report answer) (.cons (.perform label ops) rest)
      | report answers => exact .some ((h.withStack rest).log (.cons (.answered answers) .nil))
      | dispatch s count count' =>
          simp only
          rw [gate, Gate.pop?_counting]
          cases m.gate.pop? s with
          | none => exact .some ((h.withGate m.gate _).withStack rest)
          | some popped =>
              obtain ⟨a, g⟩ := popped
              refine .some (Alike.log_same (Alike.withStack (h.withGate g _) ?_) _)
              exact .cons (.perform _ _) (.cons (.dispatch s count count') rest)

/-! ### Why the count decides nothing -/

/-- Above every dispatch on the stack that began at another count, all complete stages with a queue
have dispatches of their own. -/
def Guarded (m : GateMachine σ) : Prop :=
  ∀ above s count below, m.stack = above ++ .dispatch s count :: below →
    count ≠ m.gate.cycle → Covered m above

omit [Stage σ] in
theorem guarded_of_idle (idle : m.stack = []) : Guarded m := by
  intro above s count below stack
  rw [idle] at stack
  simp at stack

omit [Stage σ] in
theorem Moved.covers {work above : List (GateTask σ)} (move : Moved m m' work)
    (h : Covered m above) : Covered m' (work ++ above) := by
  intro s complete queue
  obtain ⟨cycle, _, ⟨before, waited⟩ | ⟨_, rfl⟩⟩ := move.due_before complete queue
  · rw [cycle]
    exact List.mem_append_right _ (h s before waited)
  · rw [cycle]
    exact List.mem_append_left _ List.mem_cons_self

omit [Stage σ] in
theorem Moved.count_eq {work : List (GateTask σ)} (move : Moved m m' work) {s : σ} {count : UInt64}
    (mem : .dispatch s count ∈ work) : count = m.gate.cycle := by
  cases move <;> simp at mem
  exact mem.2

omit [Stage σ] in
/-- The stack after a move is guarded if the part of it below the work of the move is. -/
theorem Moved.guarded {work rest : List (GateTask σ)} (move : Moved m m' work)
    (stack : m'.stack = work ++ rest)
    (h : ∀ above s count below, rest = above ++ .dispatch s count :: below →
      count ≠ m.gate.cycle → Covered m' (work ++ above)) : Guarded m' := by
  intro above s count below split stale t complete queue
  obtain ⟨cycle, _, _⟩ := move.due_before complete queue
  rw [cycle] at stale
  rw [stack] at split
  rcases List.append_eq_append_iff.mp split with ⟨above', rfl, rest_eq⟩ | ⟨inner, work_eq, rest_eq⟩
  · exact h above' s count below rest_eq stale t complete queue
  · cases inner with
    | nil =>
        rw [List.append_nil] at work_eq
        have covered := h [] s count below rest_eq.symm stale
        rw [work_eq, List.append_nil] at covered
        exact covered t complete queue
    | cons first inner =>
        obtain ⟨rfl, _⟩ := List.cons.inj rest_eq
        have mem : .dispatch s count ∈ work := by
          rw [work_eq]
          exact List.mem_append_right above List.mem_cons_self
        exact absurd (move.count_eq mem) stale

theorem Guarded.enter (idle : m.stack = []) (op : GateOp σ) : Guarded (m.enter op) := by
  refine (moved_enter m op).guarded rfl fun above s count below stack => ?_
  rw [idle] at stack
  simp at stack

/-- A dispatch under the task on top has that task above it, and afterwards the work that has come
of it; a dispatch on top has only work above it. -/
theorem Guarded.step (h : Guarded m) (stepped : m.step = some m') : Guarded m' := by
  obtain ⟨task, rest, kept, work, before, after, move, ends, keeps⟩ := step_inv stepped
  have under : ∀ above s count below, rest = above ++ .dispatch s count :: below →
      count ≠ m.gate.cycle → Covered m' (work ++ (kept ++ above)) := by
    rintro above s count below rfl stale
    exact move.covered ends (h (task :: above) s count below before stale)
  refine move.guarded after fun above s count below stack stale => ?_
  rcases List.append_eq_append_iff.mp stack with ⟨above', rfl, rest_eq⟩ | ⟨inner, kept_eq, rest_eq⟩
  · exact under above' s count below rest_eq stale
  · cases inner with
    | nil =>
        rw [List.append_nil] at kept_eq
        have covered := under [] s count below rest_eq.symm stale
        rwa [List.append_nil, kept_eq] at covered
    | cons first inner =>
        obtain ⟨rfl, _⟩ := List.cons.inj rest_eq
        have mem : .dispatch s count ∈ kept := by
          rw [kept_eq]
          exact List.mem_append_right above List.mem_cons_self
        obtain ⟨rfl, alone⟩ := keeps s count mem
        obtain ⟨rfl, _⟩ := List.append_eq_singleton_iff.mp (kept_eq.symm.trans alone)
          |>.resolve_right (by simp)
        exact move.covers (h [] s count rest before stale)

/-- On a guarded stack the count of a dispatch makes no difference. -/
theorem Guarded.flagStep_eq (h : Guarded m) : m.flagStep = m.step := by
  unfold flagStep
  split
  next s count rest stack =>
    have same : m.gate.pop? s = m.gate.take? s count := by
      by_cases current : m.gate.cycle = count
      · rw [Gate.take?, if_pos current]
      · have covered := h [] s count rest stack (Ne.symm current)
        have settled : m.gate.isComplete s = true → m.gate.pending s = [] := by
          intro complete
          by_contra queue
          exact List.not_mem_nil (covered s complete queue)
        have nothing := Gate.take?_of_settled m.gate.cycle settled
        rw [Gate.take?, if_pos rfl] at nothing
        rw [nothing, Gate.take?_of_settled count settled]
    cases taken : m.gate.take? s count <;> simp only [GateMachine.step, stack, same, taken]
  · rfl

end GateMachine

/-! ### Programs, moment by moment -/

/-- A program of operations from the outside at some moment: the machine, the operations that have
been called with their answers, and those that have not been called yet. -/
structure GateRun (σ : Type) where
  machine : GateMachine σ
  answered : List (GateOp σ × GateAnswer σ) := []
  ahead : List (GateOp σ)

namespace GateRun

open GateMachine (Guarded flagStep)

variable [DecidableEq σ] [Stage σ]

/-- The moment after `r`, if there is one, for machines that step by `step`.  When a machine has
nothing left to do, the next operation is called. -/
def next? (step : GateMachine σ → Option (GateMachine σ)) (r : GateRun σ) : Option (GateRun σ) :=
  match step r.machine, r.ahead with
  | some m, _ => some { r with machine := m }
  | none, [] => none
  | none, op :: ahead => some
    { machine := r.machine.enter op
      answered := r.answered ++ [(op, (r.machine.start op).answer)]
      ahead }

/-- The moment that comes `n` moments after `r`, or the last one. -/
def after (step : GateMachine σ → Option (GateMachine σ)) (r : GateRun σ) : Nat → GateRun σ
  | 0 => r
  | n + 1 =>
    match r.next? step with
    | none => r
    | some r' => r'.after step n

variable {r r' : GateRun σ} {step : GateMachine σ → Option (GateMachine σ)}

/-! ### The end of a program -/

theorem after_succ (h : r.next? step = some r') (n : Nat) :
    r.after step (n + 1) = r'.after step n := by rw [after, h]

theorem after_of_last (h : r.next? step = none) (n : Nat) : r.after step n = r := by
  cases n with
  | zero => rfl
  | succ n => rw [after, h]

theorem after_add (k n : Nat) : r.after step (k + n) = (r.after step k).after step n := by
  induction k generalizing r with
  | zero => rw [Nat.zero_add, after]
  | succ k ih =>
      rw [Nat.succ_add]
      cases h : r.next? step with
      | none => rw [after_of_last h, after_of_last h, after_of_last h]
      | some r' => rw [after_succ h, after_succ h, ih]

theorem exists_after_steps {m m' : GateMachine σ} (h : GateMachine.Steps m m')
    (answered : List (GateOp σ × GateAnswer σ)) (ahead : List (GateOp σ)) :
    ∃ n, after GateMachine.step ⟨m, answered, ahead⟩ n = ⟨m', answered, ahead⟩ := by
  induction h using Relation.ReflTransGen.head_induction_on with
  | refl => exact ⟨0, rfl⟩
  | head stepped _ ih =>
      obtain ⟨n, reached⟩ := ih
      refine ⟨n + 1, (after_succ ?_ n).trans reached⟩
      simp only [next?, stepped]

/-- A call is over after finitely many moments. -/
theorem exists_after_call {m : GateMachine σ} (idle : m.stack = []) (op : GateOp σ)
    (answered : List (GateOp σ × GateAnswer σ)) (ahead : List (GateOp σ)) :
    ∃ n, after GateMachine.step ⟨m, answered, op :: ahead⟩ n =
      ⟨(m.call op).2, answered ++ [(op, (m.call op).1)], ahead⟩ := by
  have stuck : m.step = none := by simp [GateMachine.step, idle]
  obtain ⟨n, reached⟩ := exists_after_steps (GateMachine.steps_finish (m.enter op)).1
    (answered ++ [(op, (m.start op).answer)]) ahead
  refine ⟨n + 1, (after_succ ?_ n).trans reached⟩
  simp only [next?, stuck]

theorem exists_after_callAll {m : GateMachine σ} (idle : m.stack = []) (ops : List (GateOp σ))
    (answered : List (GateOp σ × GateAnswer σ)) :
    (m.callAll ops).stack = [] ∧ ∃ n, after GateMachine.step ⟨m, answered, ops⟩ n =
      ⟨m.callAll ops, answered ++ m.answersTo ops, []⟩ := by
  induction ops generalizing m answered with
  | nil => exact ⟨idle, 0, by rw [GateMachine.answersTo, List.append_nil]; rfl⟩
  | cons op ops ih =>
      have idle_between : (m.call op).2.stack = [] := (GateMachine.steps_finish (m.enter op)).2
      obtain ⟨k, called⟩ := exists_after_call idle op answered ops
      obtain ⟨idle_after, n, rest⟩ := ih idle_between (answered ++ [(op, (m.call op).1)])
      refine ⟨idle_after, k + n, ?_⟩
      rw [after_add, called, rest, List.append_assoc]
      rfl

def ofProgram (m : GateMachine σ) (ops : List (GateOp σ)) : GateRun σ :=
  { machine := m, ahead := ops }

theorem ofProgram_ends {m : GateMachine σ} (idle : m.stack = []) (ops : List (GateOp σ)) :
    ∃ last, ∀ n, last ≤ n → (ofProgram m ops).after GateMachine.step n =
      { machine := m.callAll ops, answered := m.answersTo ops, ahead := [] } := by
  obtain ⟨idle_after, last, ended⟩ := exists_after_callAll idle ops []
  refine ⟨last, fun n later => ?_⟩
  obtain ⟨more, rfl⟩ := Nat.exists_eq_add_of_le later
  rw [after_add, ofProgram, ended]
  apply after_of_last
  simp only [next?, GateMachine.step, idle_after]

theorem callAll_of_last {m : GateMachine σ} (idle : m.stack = []) (ops : List (GateOp σ)) {n : Nat}
    (last : ((ofProgram m ops).after GateMachine.step n).next? GateMachine.step = none) :
    m.callAll ops = ((ofProgram m ops).after GateMachine.step n).machine := by
  obtain ⟨k, ended⟩ := ofProgram_ends idle ops
  rw [← after_of_last last k, ← after_add, ended (n + k) (Nat.le_add_left k n)]

/-! ### Two counters -/

/-- Two programs are at the same moment but for the counts of their machines. -/
structure Alike (r r' : GateRun σ) : Prop where
  machine : r.machine.Alike r'.machine
  answered : List.Forall₂ (fun x x' => x'.1 = x.1 ∧ x.1.AnswersAlike x.2 x'.2)
    r.answered r'.answered
  ahead : r'.ahead = r.ahead

theorem Alike.next? (h : Alike r r') :
    Option.Rel Alike (r.next? flagStep) (r'.next? flagStep) := by
  have stepped := h.machine.flagStep
  unfold GateRun.next?
  rw [h.ahead]
  generalize r.machine.flagStep = m at stepped ⊢
  generalize r'.machine.flagStep = m' at stepped ⊢
  cases stepped with
  | some machine => exact .some ⟨machine, h.answered, rfl⟩
  | none =>
      cases r.ahead with
      | nil => exact .none
      | cons op ahead =>
          obtain ⟨machine, answers⟩ := h.machine.enter op
          exact .some ⟨machine, List.rel_append h.answered (.cons ⟨rfl, answers⟩ .nil), rfl⟩

theorem Alike.after (h : Alike r r') (n : Nat) :
    Alike (r.after flagStep n) (r'.after flagStep n) := by
  induction n generalizing r r' with
  | zero => exact h
  | succ n ih =>
      have stepped := h.next?
      unfold GateRun.after
      generalize r.next? flagStep = m at stepped ⊢
      generalize r'.next? flagStep = m' at stepped ⊢
      cases stepped with
      | none => exact h
      | some alike => exact ih alike

theorem guarded_next? (h : Guarded r.machine) (moved : r.next? GateMachine.step = some r') :
    Guarded r'.machine := by
  unfold next? at moved
  split at moved
  next m stepped =>
    obtain rfl := Option.some.inj moved
    exact h.step stepped
  · cases moved
  next op ahead stuck _ =>
    obtain rfl := Option.some.inj moved
    have idle : r.machine.stack = [] := by
      by_contra busy
      obtain ⟨m, stepped⟩ := GateMachine.exists_step busy
      rw [stepped] at stuck
      cases stuck
    exact .enter idle op

/-- From a guarded stack on, dispatches that go by the flag alone do what all others do. -/
theorem after_flagStep_eq (h : Guarded r.machine) (n : Nat) :
    r.after flagStep n = r.after GateMachine.step n := by
  induction n generalizing r with
  | zero => rfl
  | succ n ih =>
      have same : r.next? flagStep = r.next? GateMachine.step := by
        rw [next?, next?, h.flagStep_eq]
      unfold GateRun.after
      rw [same]
      split
      · rfl
      next r' moved => exact ih (guarded_next? h moved)

omit [DecidableEq σ] in
theorem alike_ofProgram {m : GateMachine σ} (stack : m.stack = []) (trace : m.trace = [])
    (ops : List (GateOp σ)) (count count' : UInt64) :
    Alike (ofProgram (m.counting count) ops) (ofProgram (m.counting count') ops) := by
  refine ⟨⟨rfl, rfl, ?_, ?_⟩, .nil, rfl⟩
  · show List.Forall₂ _ m.stack m.stack
    rw [stack]
    exact .nil
  · show List.Forall₂ _ m.trace m.trace
    rw [trace]
    exact .nil

end GateRun

namespace GateMachine

open GateRun (ofProgram)

variable [DecidableEq σ] [Stage σ]

/-- **The counter of resets is immaterial.**  For every choice of stages, every program of
operations nested to any depth, and whatever two counts a fresh gate starts from: at every moment
both programs have come to the same flags and queues, the same answers and the same events in the
same order, all starts among them; only the counts differ, and the descriptions that show them.  At
every moment the program would have come to exactly the same if dispatches did not look at the
count.  And it ends, with what its calls answer and leave behind. -/
theorem counter_immaterial {stages : List σ} {m : GateMachine σ} (made : ofStages stages = .ok m)
    (ops : List (GateOp σ)) (count count' : UInt64) :
    let program := ofProgram (m.counting count) ops
    (∀ n, (program.after step n).Alike ((ofProgram (m.counting count') ops).after step n)) ∧
    (∀ n, program.after flagStep n = program.after step n) ∧
    ∃ last, ∀ n, last ≤ n → program.after step n =
      { machine := (m.counting count).callAll ops
        answered := (m.counting count).answersTo ops
        ahead := [] } := by
  intro program
  have fresh := fresh_ofStages made
  have idle {count} : (m.counting count).stack = [] := fresh.stack
  have flags {count} := GateRun.after_flagStep_eq (r := ofProgram (m.counting count) ops)
    (guarded_of_idle idle)
  refine ⟨fun n => ?_, flags, GateRun.ofProgram_ends idle ops⟩
  rw [← flags, ← flags]
  exact (GateRun.alike_ofProgram fresh.stack fresh.trace ops count count').after n

/-- An action resets the gate, queues another action on the same stage and completes it; another
action waits behind it. -/
def resetting : List (GateOp Nat) :=
  [.run 0 "a" [.reset, .run 0 "b" [], .mark 0], .run 0 "c" [], .mark 0]

/-- The counter starts from its largest value and comes round, so that the dispatch that was
interrupted carries a larger count than the gate has; it is the same as from any other value. -/
theorem counter_immaterial_round : ∃ m : GateMachine Nat, ofStages [0] = .ok m ∧
    let round := (ofProgram (m.counting 18446744073709551615) resetting).after step 9
    round.machine.gate.cycle = 0 ∧
      GateTask.dispatch 0 18446744073709551615 ∈ round.machine.stack ∧
      round.Alike ((ofProgram (m.counting 7) resetting).after step 9) ∧
      ((ofProgram (m.counting 7) resetting).after step 30).machine.recorded = ["a", "b"] ∧
      (ofProgram (m.counting 7) resetting).after flagStep 30 =
        (ofProgram (m.counting 7) resetting).after step 30 := by
  have made : ofStages [0] = .ok { gate := { slots := [(0, {})] } } := rfl
  have immaterial := counter_immaterial made resetting
  refine ⟨_, made, rfl, ?_, (immaterial 18446744073709551615 7).1 9, rfl, (immaterial 7 7).2.1 30⟩
  exact List.mem_of_getElem? (i := 3) rfl

end GateMachine

end CaptureFlow
