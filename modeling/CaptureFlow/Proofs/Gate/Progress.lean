import CaptureFlow.Proofs.Gate.Conservation
import CaptureFlow.Proofs.Gate.Cycle
/-! # No action is stranded

Nothing is queued on a complete stage, so what waits there has waited since before the stage was
completed, and the dispatch that its completion put on the stack has not come to it yet.  That
dispatch may lie under any amount of nested work.  `Dispatching` names the moment at which it was
put on the stack: from there on all steps were above what lies below it, and the gate has not been
reset.  A cycle number would not say as much, since it may come round again.

From this it follows that nothing waits on a complete stage when the stack is empty
(`Reached.settled`).  `Next.flags` says how flags change from one moment to the next: only a reset
takes any of them back, and it takes back all. -/

namespace CaptureFlow.GateMachine

variable {σ : Type} [DecidableEq σ] [Stage σ]

/-! ### From one moment to the next -/

/-- `m'` is the moment after `m`, and `op?` the operation performed between them, if there
is one. -/
inductive Next (m : GateMachine σ) : Option (GateOp σ) → GateMachine σ → Prop
  | enter (op : GateOp σ) (idle : m.stack = []) : Next m (some op) (m.enter op)
  | step {m' : GateMachine σ} (stepped : m.step = some m') : Next m m.next? m'

theorem Next.moved {m m' : GateMachine σ} {op? : Option (GateOp σ)} (h : Next m op? m') :
    ∃ work, Moved m m' work := by
  cases h with
  | enter op _ => exact ⟨_, moved_enter m op⟩
  | step stepped =>
      obtain ⟨_, _, _, work, _, _, move, _⟩ := step_inv stepped
      exact ⟨work, move⟩

theorem flags_start (m : GateMachine σ) (op : GateOp σ) :
    op = .reset ∧ (m.start op).machine.gate = m.gate.reset ∨
      op ≠ .reset ∧
        ∀ s, m.gate.isComplete s = true → (m.start op).machine.gate.isComplete s = true := by
  cases op with
  | reset => exact .inl ⟨rfl, rfl⟩
  | run at_ label body =>
      refine .inr ⟨by simp, fun s complete => ?_⟩
      simp only [start]
      split
      · exact complete
      next gate due offered =>
        cases due with
        | true =>
            obtain ⟨rfl, _⟩ := Gate.offer?_due_iff.mp offered
            exact complete
        | false =>
            show gate.isComplete s = true
            rw [(Gate.queued_of_offer? offered).flags, complete]
  | mark at_ =>
      refine .inr ⟨by simp, fun s complete => ?_⟩
      simp only [start]
      split
      · exact complete
      next gate first completed =>
        show gate.isComplete s = true
        rw [(Gate.flags_of_complete? completed).1, Function.update_apply]
        split
        · rfl
        · exact complete
  | isCompleted at_ =>
      refine .inr ⟨by simp, fun s complete => ?_⟩
      simp only [start]
      split <;> exact complete
  | pendingCount at_ =>
      refine .inr ⟨by simp, fun s complete => ?_⟩
      simp only [start]
      split <;> exact complete
  | stages | describe => exact .inr ⟨by simp, fun s complete => complete⟩

/-- From one moment to the next the gate is reset, or all complete stages stay complete. -/
theorem Next.flags {m m' : GateMachine σ} {op? : Option (GateOp σ)} (h : Next m op? m') :
    op? = some .reset ∧ m'.gate = m.gate.reset ∨
      op? ≠ some .reset ∧ ∀ s, m.gate.isComplete s = true → m'.gate.isComplete s = true := by
  cases h with
  | enter op idle =>
      rcases flags_start m op with ⟨rfl, gate⟩ | ⟨other, kept⟩
      · exact .inl ⟨rfl, gate⟩
      · exact .inr ⟨fun same => other (Option.some.inj same), kept⟩
  | step stepped =>
      unfold GateMachine.step at stepped
      split at stepped
      · cases stepped
      next label rest stack =>
        obtain rfl := Option.some.inj stepped
        exact .inr ⟨by simp [next?, stack], fun s complete => complete⟩
      next label op ops rest stack =>
        obtain rfl := Option.some.inj stepped
        rcases flags_start m op with ⟨rfl, gate⟩ | ⟨other, kept⟩
        · exact .inl ⟨by simp [next?, stack], gate⟩
        · exact .inr ⟨by simpa [next?, stack] using other, kept⟩
      next label op answer rest stack =>
        obtain rfl := Option.some.inj stepped
        exact .inr ⟨by simp [next?, stack], fun s complete => complete⟩
      next at_ cycle rest stack =>
        refine .inr ⟨by simp [next?, stack], fun s complete => ?_⟩
        split at stepped
        · obtain rfl := Option.some.inj stepped
          exact complete
        next a gate taken =>
          obtain rfl := Option.some.inj stepped
          show gate.isComplete s = true
          rw [(Gate.popped_of_take? taken).flags, complete]

/-! ### Dispatches at work -/

/-- At `m` a dispatch of `s` is at work that was put on the stack at `m₁`, when `s` had just been
completed.  The gate has not been reset since. -/
def Dispatching (stages : List σ) (m : GateMachine σ) (s : σ) : Prop :=
  ∃ performed m₀ op? m₁ above below, Reached stages performed m₀ ∧ Next m₀ op? m₁ ∧
    Gate.Marked m₀.gate s m₁.gate ∧ m₁.stack = .dispatch s m₁.gate.cycle :: below ∧
    Above below m₁ m ∧ resets m.trace = resets m₁.trace ∧
    m.gate.cycle = m₁.gate.cycle ∧ m.stack = above ++ .dispatch s m₁.gate.cycle :: below

variable {stages : List σ} {performed : List (GateOp σ)} {m m' : GateMachine σ} {s : σ}

theorem Dispatching.busy (h : Dispatching stages m s) : m.stack ≠ [] := by
  obtain ⟨_, _, _, _, above, _, _, _, _, _, _, _, _, stack⟩ := h
  rw [stack]
  exact List.append_ne_nil_of_right_ne_nil above (List.cons_ne_nil _ _)

theorem dispatching_of_marked {op? : Option (GateOp σ)} {below : List (GateTask σ)}
    (h : Reached stages performed m) (next : Next m op? m') (marked : Gate.Marked m.gate s m'.gate)
    (stack : m'.stack = .dispatch s m.gate.cycle :: below) : Dispatching stages m' s := by
  rw [← marked.cycle] at stack
  exact ⟨performed, m, op?, m', [], below, h, next, marked, stack, .refl, rfl, rfl, stack⟩

/-- A dispatch stays at work as long as its stage has a queue and the gate is not reset. -/
theorem Dispatching.step (h : Dispatching stages m s) (stepped : m.step = some m')
    (complete : m.gate.isComplete s = true) (queue : m.gate.pending s ≠ [])
    (cycle : m'.gate.cycle = m.gate.cycle) (reset : resets m'.trace = resets m.trace) :
    Dispatching stages m' s := by
  obtain ⟨performed, m₀, op?, m₁, above, below, reached, next, marked, first, steps, same,
    current, stack⟩ := h
  have busy : below.length < m.stack.length := by
    rw [stack, List.length_append, List.length_cons]
    omega
  obtain ⟨task, rest, kept, work, before, after, _, ends, _⟩ := step_inv stepped
  have goesOn : ∃ above', m'.stack = above' ++ .dispatch s m₁.gate.cycle :: below := by
    rw [stack] at before
    cases above with
    | nil =>
        obtain ⟨rfl, rfl⟩ := List.cons.inj before
        rcases ends s _ rfl with rfl | nothing
        · exact ⟨work, after⟩
        · exact absurd (Gate.take?_eq_none nothing current complete) queue
    | cons top above =>
        rw [List.cons_append] at before
        obtain ⟨rfl, rfl⟩ := List.cons.inj before
        exact ⟨work ++ (kept ++ above), by rw [after, List.append_assoc, List.append_assoc]⟩
  obtain ⟨above', stack'⟩ := goesOn
  exact ⟨performed, m₀, op?, m₁, above', below, reached, next, marked, first,
    steps.step busy stepped, reset.trans same, cycle.trans current, stack'⟩

/-- A complete stage with a queue has a dispatch at work. -/
theorem Reached.dispatching (h : Reached stages performed m) (complete : m.gate.isComplete s = true)
    (queue : m.gate.pending s ≠ []) : Dispatching stages m s := by
  induction h with
  | fresh made =>
      rw [(fresh_ofStages made).flags] at complete
      cases complete
  | @enter _ m op reached idle ih =>
      obtain ⟨_, _, ⟨before, waited⟩ | ⟨marked, work⟩⟩ :=
        (moved_enter m op).due_before complete queue
      · exact absurd idle (ih before waited).busy
      · have stack : (m.enter op).stack = [.dispatch s m.gate.cycle] := by
          rw [GateMachine.enter, work, idle]
          rfl
        exact dispatching_of_marked reached (.enter op idle) marked stack
  | step reached stepped ih =>
      obtain ⟨_, rest, kept, work, _, after, move, _⟩ := step_inv stepped
      obtain ⟨cycle, reset, ⟨before, waited⟩ | ⟨marked, rfl⟩⟩ := move.due_before complete queue
      · exact (ih before waited).step stepped before waited cycle reset
      · exact dispatching_of_marked reached (.step stepped) marked after

/-- When nothing is left to do, nothing waits on a complete stage. -/
theorem Reached.settled (h : Reached stages performed m) (idle : m.stack = [])
    (complete : m.gate.isComplete s = true) : m.gate.pending s = [] := by
  by_contra queue
  exact (h.dispatching complete queue).busy idle

/-- **No action is stranded.**  When an operation from the outside is over, nothing waits on a
complete stage; while one is under way, a complete stage with a queue has a dispatch of the current
cycle at work.  The declared stages stay the same; a complete stage becomes incomplete only when a
reset is performed, which makes all stages incomplete and empties all queues. -/
theorem Reached.none_stranded (h : Reached stages performed m) :
    (m.stack = [] → ∀ op s, (m.call op).2.stack = [] ∧
      ((m.call op).2.gate.isComplete s = true → (m.call op).2.gate.pending s = [])) ∧
    (m.stack = [] → ∀ s, m.gate.isComplete s = true → m.gate.pending s = []) ∧
    (∀ s, m.gate.isComplete s = true → m.gate.pending s ≠ [] → Dispatching stages m s) ∧
    (∀ op? m', Next m op? m' →
      (∀ s, m.gate.isComplete s = true → m'.gate.isComplete s = false → op? = some .reset) ∧
      (op? = some .reset → ∀ s, m'.gate.isComplete s = false ∧ m'.gate.pending s = []) ∧
      m'.gate.stages = m.gate.stages) ∧
    m.gate.stages.Nodup ∧ ∀ s, s ∈ m.gate.stages ↔ s ∈ stages := by
  refine ⟨fun idle op s => ?_, fun idle s => h.settled idle, fun s => h.dispatching, ?_,
    h.stages_eq⟩
  · obtain ⟨empty, _, reached⟩ := h.call idle op
    exact ⟨empty, reached.settled empty⟩
  · intro op? m' next
    obtain ⟨_, move⟩ := next.moved
    refine ⟨fun s complete lost => ?_, fun performs s => ?_, move.stages_eq⟩
    · rcases next.flags with ⟨performs, _⟩ | ⟨_, kept⟩
      · exact performs
      · rw [kept s complete] at lost
        cases lost
    · rcases next.flags with ⟨_, gate⟩ | ⟨other, _⟩
      · rw [gate]
        exact ⟨Gate.isComplete_reset _ s, Gate.pending_reset _ s⟩
      · exact absurd performs other

/-- When the first action has reset the gate, queued an action and completed the stage again, the
new dispatch on top of the old one is what comes to that action. -/
theorem none_stranded_nested : ∃ performed m, Reached [0] performed m ∧
    m.gate.isComplete 0 = true ∧ (m.gate.pending 0).map (·.label) = ["b"] ∧
    m.stack.length = 4 ∧ Dispatching [0] m 0 := by
  have completed : Reached [0] _ aboutToReset :=
    .enter _ (.enter _ (.enter _ (.fresh rfl) rfl) rfl) rfl
  obtain ⟨more, reached⟩ := completed.steps (steps_stepsAbove 0 6 aboutToReset)
  refine ⟨_, _, reached, rfl, rfl, rfl, ?_⟩
  exact reached.none_stranded.2.2.1 0 rfl (List.cons_ne_nil _ _)

end CaptureFlow.GateMachine
