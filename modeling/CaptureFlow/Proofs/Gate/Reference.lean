import CaptureFlow.Proofs.Gate.Run
/-! # A reference for the gate

If actions do nothing but record their id, a gate has a simple reference: a flag and a list for each
stage, and the list of what has been executed.  The reference moves the whole list of a stage when
the stage is completed, where the gate takes one action after the other from its queue
(`finish_dispatch`).

`Follows` relates a gate that rests to the reference.  Every operation keeps it
(`Follows.call`), so after every part of a sequence of operations both have executed the same, in
the same order, and agree on every flag and on the length of every queue
(`executes_as_reference`). -/

namespace CaptureFlow

variable {σ : Type}

/-! ### The reference -/

/-- Operations on stages whose actions do nothing but record their id. -/
inductive PlainOp (σ : Type) where
  | run (stage : σ) (id : String)
  | mark (stage : σ)
  | reset

namespace PlainOp

def gateOp : PlainOp σ → GateOp σ
  | .run s id => .run s id []
  | .mark s => .mark s
  | .reset => .reset

/-- The operation is on one of the stages, or on none. -/
def On (stages : List σ) : PlainOp σ → Prop
  | .run s _ => s ∈ stages
  | .mark s => s ∈ stages
  | .reset => True

end PlainOp

/-- A flag and a list for each stage, and all that has been executed. -/
structure ReferenceGate (σ : Type) where
  completed : σ → Bool := fun _ => false
  waiting : σ → List String := fun _ => []
  executed : List String := []

namespace ReferenceGate

variable [DecidableEq σ]

/-- An id for a complete stage is executed, and otherwise put into the stage's list.  The first mark
of a stage executes its list, later marks do nothing, and a reset clears all flags and lists. -/
def apply (r : ReferenceGate σ) : PlainOp σ → ReferenceGate σ
  | .run s id =>
    if r.completed s then { r with executed := r.executed ++ [id] }
    else { r with waiting := Function.update r.waiting s (r.waiting s ++ [id]) }
  | .mark s =>
    if r.completed s then r
    else
      { completed := Function.update r.completed s true
        waiting := Function.update r.waiting s []
        executed := r.executed ++ r.waiting s }
  | .reset => { r with completed := fun _ => false, waiting := fun _ => [] }

def applyAll (r : ReferenceGate σ) (ops : List (PlainOp σ)) : ReferenceGate σ := ops.foldl apply r

end ReferenceGate

/-! ### What a gate has executed -/

/-- The id that an action records when it is started. -/
def GateEvent.recorded : GateEvent σ → List String
  | .started _ _ label => [label]
  | _ => []

namespace GateMachine

def recorded (m : GateMachine σ) : List String := m.trace.flatMap GateEvent.recorded

theorem recorded_of_trace {m m' : GateMachine σ} {events : List (GateEvent σ)}
    (h : m'.trace = m.trace ++ events) :
    m'.recorded = m.recorded ++ events.flatMap GateEvent.recorded := by
  rw [recorded, h, List.flatMap_append]
  rfl

variable [DecidableEq σ] [Stage σ]

def callAll (m : GateMachine σ) (ops : List (GateOp σ)) : GateMachine σ :=
  ops.foldl (fun m op => (m.call op).2) m

/-- Operations from the outside, one after the other, each with its answer. -/
def answersTo (m : GateMachine σ) : List (GateOp σ) → List (GateOp σ × GateAnswer σ)
  | [] => []
  | op :: ops => (op, (m.call op).1) :: (m.call op).2.answersTo ops

/-- The actions do nothing when they are started. -/
def Plain (queue : List (GateAction σ)) : Prop := ∀ a ∈ queue, a.body = []

/-- `m'` is `m` when the queue of `s` has been run. -/
structure Emptied (m : GateMachine σ) (s : σ) (m' : GateMachine σ) : Prop where
  idle : m'.stack = []
  flags : m'.gate.isComplete = m.gate.isComplete
  queues : m'.gate.pending = Function.update m.gate.pending s []
  stages : m'.gate.stages = m.gate.stages
  recorded : m'.recorded = m.recorded ++ (m.gate.pending s).map (·.label)

/-- A run of the queue of a complete stage, whose actions do nothing else, starts them all in their
order.  Every round starts the first of them and comes back with the rest of the queue. -/
theorem finish_dispatch {m : GateMachine σ} {s : σ} (stack : m.stack = [.dispatch s m.gate.cycle])
    (complete : m.gate.isComplete s = true) (plain : Plain (m.gate.pending s)) :
    Emptied m s m.finish := by
  induction waits : m.gate.pending s generalizing m with
  | nil =>
      have stepped : m.step = some { m with stack := [] } := by
        rw [step, stack]
        simp only [Gate.take?_of_settled m.gate.cycle fun _ => waits]
      rw [finish_of_step stepped, finish_of_idle rfl]
      refine ⟨rfl, rfl, ?_, rfl, by rw [waits]; exact (List.append_nil _).symm⟩
      rw [← waits, Function.update_eq_self]
  | cons a rest ih =>
      obtain ⟨gate, taken, popped, remain⟩ := Gate.exists_popped complete waits
      have body : a.body = [] := plain a (waits ▸ List.mem_cons_self)
      let started := { m with gate, stack := .perform a.label [] :: m.stack }.log
        [.started a.ticket s a.label]
      have first : m.step = some started := by
        rw [step, stack]
        simp only [taken, body, started, stack]
      have second : started.step = some { started with stack := m.stack } := rfl
      rw [finish_of_step first, finish_of_step second]
      have rounds := ih (m := { started with stack := m.stack })
        (stack.trans (by rw [← popped.cycle]; rfl)) (popped.flags ▸ complete)
        (fun b mem => plain b (popped.mem mem)) remain
      have queues : gate.pending = Function.update m.gate.pending s rest :=
        Function.eq_update_iff.mpr ⟨remain, popped.others⟩
      have one : started.recorded = m.recorded ++ [a.label] :=
        recorded_of_trace (show started.trace = m.trace ++ [.started a.ticket s a.label] from rfl)
      refine ⟨rounds.idle, rounds.flags.trans popped.flags, ?_,
        rounds.stages.trans popped.stages, ?_⟩
      · rw [rounds.queues]
        show Function.update gate.pending s [] = _
        rw [queues, Function.update_idem]
      · rw [rounds.recorded, waits, List.map_cons, List.append_cons, ← one, ← remain]
        rfl

/-! ### Both together -/

/-- The gate rests and agrees with the reference: it has the same flags, the same ids wait in the
same order, and the same has been executed.  No waiting action does anything else. -/
structure Follows (stages : List σ) (m : GateMachine σ) (r : ReferenceGate σ) : Prop where
  declared : ∀ s, s ∈ m.gate.stages ↔ s ∈ stages
  idle : m.stack = []
  flags : m.gate.isComplete = r.completed
  queues : List.map GateAction.label ∘ m.gate.pending = r.waiting
  plain : ∀ s, Plain (m.gate.pending s)
  recorded : m.recorded = r.executed

variable {stages : List σ} {m m' : GateMachine σ} {r : ReferenceGate σ} {s : σ}

omit [Stage σ] in
theorem follows_fresh (fresh : Fresh stages m) : Follows stages m {} where
  declared := fresh.declared
  idle := fresh.stack
  flags := funext fresh.flags
  queues := funext fun s => by rw [Function.comp_apply, fresh.queues]; rfl
  plain s a mem := by rw [fresh.queues] at mem; cases mem
  recorded := by rw [GateMachine.recorded, fresh.trace]; rfl

/-- An action on a complete stage is executed at once. -/
theorem Follows.run_complete (h : Follows stages m r) (complete : r.completed s = true)
    (id : String) : Follows stages (m.call (.run s id [])).2 (r.apply (.run s id)) := by
  have offered : m.gate.offer? s ⟨m.tickets, id, []⟩ = some (m.gate, true) :=
    Gate.offer?_due_iff.mpr ⟨rfl, h.flags ▸ complete⟩
  let entered := m.enter (.run s id [])
  have enters : entered = { m with
      tickets := m.tickets + 1
      stack := [.perform id []]
      trace := m.trace ++ [.accepted m.tickets s true] ++ [.started m.tickets s id] } := by
    simp only [entered, enter, start, offered, h.idle]
    rfl
  have stepped : entered.step = some { entered with stack := [] } := by rw [enters]; rfl
  rw [call_eq, finish_of_step stepped, finish_of_idle rfl]
  simp only [enters, ReferenceGate.apply, complete, if_true]
  refine ⟨h.declared, rfl, h.flags, h.queues, h.plain, ?_⟩
  rw [← h.recorded, recorded_of_trace (List.append_assoc ..)]
  rfl

/-- An action on an incomplete stage goes to the end of the queue. -/
theorem Follows.run_incomplete (h : Follows stages m r) (declared : s ∈ stages)
    (incomplete : r.completed s = false) (id : String) :
    Follows stages (m.call (.run s id [])).2 (r.apply (.run s id)) := by
  obtain ⟨gate, offered, queued⟩ := Gate.exists_queued ((h.declared s).mpr declared)
    (h.flags ▸ incomplete) ⟨m.tickets, id, []⟩
  have entered : m.enter (.run s id []) = { m with
      gate
      tickets := m.tickets + 1
      stack := []
      trace := m.trace ++ [.accepted m.tickets s false] } := by
    simp only [enter, start, offered, h.idle]
    rfl
  rw [call_eq, finish_of_idle (by rw [entered]), entered]
  simp only [ReferenceGate.apply, incomplete, Bool.false_eq_true, if_false]
  refine ⟨fun t => queued.stages ▸ h.declared t, rfl, queued.flags.trans h.flags, ?_, ?_, ?_⟩
  · rw [queued.queues, Function.comp_update, h.queues, List.map_append, ← h.queues]
    rfl
  · rw [queued.queues]
    refine (Function.forall_update_iff _ fun _ => Plain).mpr
      ⟨fun a mem => ?_, fun t _ => h.plain t⟩
    rcases List.mem_append.mp mem with mem | mem
    · exact h.plain s a mem
    · rw [List.mem_singleton.mp mem]
  · rw [← h.recorded, recorded_of_trace rfl]
    exact List.append_nil _

/-- The first mark of a stage executes its queue. -/
theorem Follows.mark_incomplete (h : Follows stages m r) (declared : s ∈ stages)
    (incomplete : r.completed s = false) :
    Follows stages (m.call (.mark s)).2 (r.apply (.mark s)) := by
  obtain ⟨gate, completed, marked⟩ := Gate.exists_marked ((h.declared s).mpr declared)
    (h.flags ▸ incomplete)
  let dispatching := { m with gate, stack := [.dispatch s gate.cycle] }
  have entered : m.enter (.mark s) = dispatching := by
    simp only [enter, start, completed, h.idle, dispatching, marked.cycle]
    rfl
  have complete : gate.isComplete s = true := by rw [marked.flags, Function.update_self]
  have ran : Emptied dispatching s dispatching.finish := finish_dispatch rfl complete
    fun a mem => h.plain s a (marked.queues ▸ mem)
  have queues : dispatching.finish.gate.pending = Function.update m.gate.pending s [] :=
    marked.queues ▸ ran.queues
  rw [call_eq, entered]
  simp only [ReferenceGate.apply, incomplete, Bool.false_eq_true, if_false]
  refine ⟨fun t => ?_, ran.idle, ?_, ?_, ?_, ?_⟩
  · rw [ran.stages, show dispatching.gate.stages = _ from marked.stages]
    exact h.declared t
  · rw [ran.flags, ← h.flags]
    exact marked.flags
  · rw [queues, Function.comp_update, h.queues]
    rfl
  · rw [queues]
    exact (Function.forall_update_iff _ fun _ => Plain).mpr
      ⟨List.forall_mem_nil _, fun t _ => h.plain t⟩
  · rw [ran.recorded, show dispatching.gate.pending = _ from marked.queues, ← h.recorded,
      ← h.queues]
    rfl

theorem Follows.mark_complete (h : Follows stages m r) (complete : r.completed s = true) :
    Follows stages (m.call (.mark s)).2 (r.apply (.mark s)) := by
  have completed : m.gate.complete? s = some (m.gate, false) :=
    Gate.complete?_again_iff.mpr ⟨rfl, h.flags ▸ complete⟩
  have entered : m.enter (.mark s) = m := by
    simp only [enter, start, completed]
    rfl
  rw [call_eq, entered, finish_of_idle h.idle, ReferenceGate.apply, if_pos complete]
  exact h

theorem Follows.reset (h : Follows stages m r) :
    Follows stages (m.call .reset).2 (r.apply .reset) := by
  have idle : (m.enter .reset).stack = [] := h.idle
  have queues : m.gate.reset.pending = fun _ => [] := funext (Gate.pending_reset m.gate)
  rw [call_eq, finish_of_idle idle]
  refine ⟨fun t => ?_, idle, funext (Gate.isComplete_reset m.gate), ?_, ?_, ?_⟩
  · show t ∈ m.gate.reset.stages ↔ _
    rw [Gate.stages_reset]
    exact h.declared t
  · show _ ∘ m.gate.reset.pending = _
    rw [queues]
    rfl
  · show ∀ t, Plain (m.gate.reset.pending t)
    rw [queues]
    exact fun _ => List.forall_mem_nil _
  · rw [recorded_of_trace (m := m) rfl]
    exact (List.append_nil _).trans h.recorded

/-- Every operation is done by both in the same way. -/
theorem Follows.call (h : Follows stages m r) {op : PlainOp σ} (on : op.On stages) :
    Follows stages (m.call op.gateOp).2 (r.apply op) := by
  cases op with
  | run s id =>
      cases flag : r.completed s with
      | true => exact h.run_complete flag id
      | false => exact h.run_incomplete on flag id
  | mark s =>
      cases flag : r.completed s with
      | true => exact h.mark_complete flag
      | false => exact h.mark_incomplete on flag
  | reset => exact h.reset

/-! ### Runs -/

theorem Follows.callAll (h : Follows stages m r) {ops : List (PlainOp σ)}
    (on : ∀ op ∈ ops, op.On stages) :
    Follows stages (m.callAll (ops.map PlainOp.gateOp)) (r.applyAll ops) := by
  induction ops generalizing m r with
  | nil => exact h
  | cons op ops ih =>
      obtain ⟨first, rest⟩ := List.forall_mem_cons.mp on
      exact ih (h.call first) rest

omit [Stage σ] in
theorem Follows.shown (h : Follows stages m r) (declared : s ∈ stages) :
    m.gate.completed? s = some (r.completed s) ∧
      m.gate.pendingCount? s = some (r.waiting s).length := by
  cases found : m.gate.slot? s with
  | none => exact absurd ((h.declared s).mpr declared) (Gate.slot?_eq_none_iff.mp found)
  | some slot =>
      rw [← h.flags, ← h.queues, Function.comp_apply, List.length_map,
        Gate.isComplete_of_slot? found, Gate.pending_of_slot? found, Gate.completed?,
        Gate.pendingCount?, found]
      exact ⟨rfl, rfl⟩

theorem exists_ofStages {stages : List σ} (nonempty : stages ≠ []) :
    ∃ m, ofStages stages = .ok m := by
  obtain ⟨s, mem⟩ := List.exists_mem_of_ne_nil stages nonempty
  have declared : s ∈ stages.foldl (fun declared s => Gate.declare s declared) [] :=
    Gate.mem_foldl_declare.mpr (.inl mem)
  unfold ofStages Gate.ofStages?
  split
  next none =>
    split at none
    next empty => rw [empty] at declared; cases declared
    next => cases none
  next gate _ => exact ⟨_, rfl⟩

/-- **The gate executes what its reference executes.**  For every choice of stages and every
sequence of operations on them whose actions only record their id: after every part of the sequence
from its beginning, the same ids have been recorded in the same order, and the flag of every stage
and the length of its queue are those of the reference. -/
theorem executes_as_reference {stages : List σ} (nonempty : stages ≠ []) :
    ∃ m, ofStages stages = .ok m ∧
      ∀ ops : List (PlainOp σ), (∀ op ∈ ops, op.On stages) → ∀ done, done <+: ops →
        let after := m.callAll (done.map PlainOp.gateOp)
        let reference := ReferenceGate.applyAll {} done
        after.recorded = reference.executed ∧
          ∀ s ∈ stages, after.gate.completed? s = some (reference.completed s) ∧
            after.gate.pendingCount? s = some (reference.waiting s).length := by
  obtain ⟨m, made⟩ := exists_ofStages nonempty
  refine ⟨m, made, fun ops on done part => ?_⟩
  have follows := (follows_fresh (fresh_ofStages made)).callAll
    fun op mem => on op (part.subset mem)
  exact ⟨follows.recorded, fun s declared => follows.shown declared⟩

/-- One action waits for a mark, one comes after it, and a third waits again after a reset. -/
theorem executes_as_reference_reset : ∃ m : GateMachine Nat, ofStages [0] = .ok m ∧
    let ops := [.run 0 "a", .mark 0, .run 0 "b", .reset, .run 0 "c"]
    let after := m.callAll (ops.map PlainOp.gateOp)
    after.recorded = ["a", "b"] ∧ after.gate.completed? 0 = some false ∧
      after.gate.pendingCount? 0 = some 1 := by
  obtain ⟨m, made, runs⟩ := executes_as_reference (show [0] ≠ [] by decide)
  refine ⟨m, made, ?_⟩
  intro ops after
  have on : ∀ op ∈ ops, op.On [0] := by simp [ops, PlainOp.On]
  obtain ⟨recorded, shown⟩ := runs ops on ops List.prefix_rfl
  exact ⟨recorded, shown 0 List.mem_cons_self⟩

end GateMachine

end CaptureFlow
