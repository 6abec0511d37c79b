import CaptureFlow.Proofs.Gate.History
/-! # No action crosses a cycle

A reset ends a cycle: all that waits is dropped and every stage is incomplete again.  What is
started belongs to the cycle that it was accepted in, and its stage is complete when it starts
(`Reached.starts_complete`).

A dispatch, however, may outlive its cycle: the action that it has started may reset the gate, queue
new actions on the same stage and complete the stage again, and only then return to it.  The cycle
number that the dispatch carries is not what keeps it from taking those actions, for that number
may come round again.  What does is `Covered`: a complete stage with a queue has a dispatch of the
current cycle at work.  After a reset no stage is complete, so whatever is waiting on a complete
stage later has a dispatch that was put on the stack after the reset, hence above the old one
(`Above.covered`).  When the old dispatch is on top again, nothing of the kind is left, and it
ends. -/

namespace CaptureFlow

def resets {σ : Type} (trace : List (GateEvent σ)) : Nat := trace.countP GateEvent.isReset

@[simp] theorem resets_append {σ : Type} (trace : List (GateEvent σ)) (e : GateEvent σ) :
    resets (trace ++ [e]) = resets trace + if e.isReset then 1 else 0 := by
  simp [resets, List.countP_append, List.countP_cons]

namespace GateMachine

variable {σ : Type} [DecidableEq σ]

/-! ### Dispatches at work -/

/-- A complete stage with a queue has a dispatch of the current cycle among `tasks`. -/
def Covered (m : GateMachine σ) (tasks : List (GateTask σ)) : Prop :=
  ∀ s, m.gate.isComplete s = true → m.gate.pending s ≠ [] → .dispatch s m.gate.cycle ∈ tasks

theorem covered_of_reset {m m' : GateMachine σ} (h : m'.gate = m.gate.reset)
    (tasks : List (GateTask σ)) : Covered m' tasks := by
  intro s complete _
  rw [h, Gate.isComplete_reset] at complete
  cases complete

/-- A complete stage with a queue was complete before the move and had a queue then, in the same
cycle, unless it is the move that has completed it. -/
theorem Moved.due_before {m m' : GateMachine σ} {work : List (GateTask σ)} (h : Moved m m' work)
    {s : σ} (complete : m'.gate.isComplete s = true) (queue : m'.gate.pending s ≠ []) :
    m'.gate.cycle = m.gate.cycle ∧ resets m'.trace = resets m.trace ∧
      (m.gate.isComplete s = true ∧ m.gate.pending s ≠ [] ∨
        Gate.Marked m.gate s m'.gate ∧ work = [.dispatch s m.gate.cycle]) := by
  cases h with
  | idle gate _ trace =>
      rw [gate] at complete queue ⊢
      exact ⟨rfl, by rw [trace], .inl ⟨complete, queue⟩⟩
  | answered gate _ trace =>
      rw [gate] at complete queue ⊢
      exact ⟨rfl, by simp [trace], .inl ⟨complete, queue⟩⟩
  | ran _ gate _ trace =>
      rw [gate] at complete queue ⊢
      exact ⟨rfl, by simp only [trace, resets_append]; rfl, .inl ⟨complete, queue⟩⟩
  | @queued at_ _ _ gate _ trace =>
      rw [gate.flags] at complete
      have other : s ≠ at_ := by
        rintro rfl
        rw [gate.incomplete] at complete
        cases complete
      rw [gate.queues, Function.update_of_ne other] at queue
      exact ⟨gate.cycle, by simp [trace], .inl ⟨complete, queue⟩⟩
  | @marked at_ gate _ trace =>
      refine ⟨gate.cycle, by rw [trace], ?_⟩
      by_cases here : s = at_
      · subst here
        exact .inr ⟨gate, rfl⟩
      · rw [gate.flags, Function.update_of_ne here] at complete
        rw [gate.queues] at queue
        exact .inl ⟨complete, queue⟩
  | emptied gate =>
      rw [gate, Gate.isComplete_reset] at complete
      cases complete
  | @taken at_ _ gate _ trace =>
      rw [gate.flags] at complete
      refine ⟨gate.cycle, by simp [trace], .inl ⟨complete, ?_⟩⟩
      by_cases here : s = at_
      · subst here
        rw [gate.head]
        exact List.cons_ne_nil _ _
      · rwa [gate.others s here] at queue

/-- A move keeps every stage covered, if the task that it comes from goes only as a dispatch with
nothing to take. -/
theorem Moved.covered {m m' : GateMachine σ} {work kept above : List (GateTask σ)}
    {task : GateTask σ} (move : Moved m m' work)
    (ends : ∀ s cycle, task = .dispatch s cycle → kept = [task] ∨ m.gate.take? s cycle = none)
    (h : Covered m (task :: above)) : Covered m' (work ++ (kept ++ above)) := by
  intro s complete queue
  obtain ⟨cycle, _, ⟨before, waited⟩ | ⟨_, rfl⟩⟩ := move.due_before complete queue
  · rw [cycle]
    apply List.mem_append_right
    rcases List.mem_cons.mp (h s before waited) with same | mem
    · rcases ends s _ same.symm with rfl | nothing
      · rw [same]
        exact List.mem_append_left _ List.mem_cons_self
      · exact absurd (Gate.take?_eq_none nothing rfl before) waited
    · exact List.mem_append_right _ mem
  · rw [cycle]
    exact List.mem_append_left _ List.mem_cons_self

theorem Moved.resets_eq {m m' : GateMachine σ} {work : List (GateTask σ)} (h : Moved m m' work) :
    resets m'.trace = resets m.trace ∨ m'.gate = m.gate.reset := by
  cases h with
  | idle _ _ trace | marked _ _ trace => exact .inl (congrArg resets trace)
  | answered _ _ trace | queued _ _ trace | taken _ _ trace =>
      rw [trace, resets_append]
      exact .inl rfl
  | ran _ _ _ trace =>
      rw [trace, resets_append, resets_append]
      exact .inl rfl
  | emptied gate => exact .inr gate

/-! ### Back at a dispatch -/

variable [Stage σ]

/-- `m'` is reached from `m` by steps of tasks above `base` on the stack. -/
inductive Above (base : List (GateTask σ)) (m : GateMachine σ) : GateMachine σ → Prop
  | refl : Above base m m
  | step {m' m'' : GateMachine σ} (above : Above base m m')
      (busy : base.length < m'.stack.length) (stepped : m'.step = some m'') : Above base m m''

theorem Above.head {base : List (GateTask σ)} {m m₁ m' : GateMachine σ}
    (busy : base.length < m.stack.length) (stepped : m.step = some m₁) (h : Above base m₁ m') :
    Above base m m' := by
  induction h with
  | refl => exact .step .refl busy stepped
  | step _ busy stepped ih => exact ih.step busy stepped

theorem above_stepsAbove (base : List (GateTask σ)) (n : Nat) (m : GateMachine σ) :
    Above base m (stepsAbove base.length n m) := by
  induction n generalizing m with
  | zero => exact .refl
  | succ n ih =>
      rw [stepsAbove]
      split
      next busy =>
        split
        · exact .refl
        next m' stepped => exact (ih m').head busy stepped
      · exact .refl

theorem Above.covered {base : List (GateTask σ)} {m m' : GateMachine σ} (h : Above base m m')
    (under : base <:+ m.stack) : ∃ above, m'.stack = above ++ base ∧
      (resets m.trace < resets m'.trace → Covered m' above) := by
  induction h with
  | refl =>
      obtain ⟨above, stack⟩ := under
      exact ⟨above, stack.symm, fun more => absurd more (Nat.lt_irrefl _)⟩
  | @step m₁ m₂ _ busy stepped ih =>
      obtain ⟨above, stack, covered⟩ := ih
      obtain ⟨task, rest, kept, work, before, after, move, ends, _⟩ := step_inv stepped
      cases above with
      | nil =>
          rw [stack, List.nil_append] at busy
          exact absurd busy (Nat.lt_irrefl _)
      | cons top above =>
          rw [stack, List.cons_append] at before
          obtain ⟨rfl, rfl⟩ := List.cons.inj before
          refine ⟨work ++ (kept ++ above), ?_, fun more => ?_⟩
          · rw [after, List.append_assoc, List.append_assoc]
          · by_cases earlier : resets m.trace < resets m₁.trace
            · exact move.covered ends (covered earlier)
            · rcases move.resets_eq with same | reset
              · exact absurd (same ▸ more) earlier
              · exact covered_of_reset reset _

theorem step_dispatch_ends {m : GateMachine σ} {s : σ} {cycle : UInt64} {below : List (GateTask σ)}
    (stack : m.stack = .dispatch s cycle :: below) (nothing : m.gate.take? s cycle = none) :
    m.step = some { m with stack := below } := by
  simp only [step, stack, nothing]

theorem Above.dispatch_ends {m m' : GateMachine σ} {s : σ} {cycle : UInt64}
    {below : List (GateTask σ)} (h : Above (.dispatch s cycle :: below) m m')
    (under : .dispatch s cycle :: below <:+ m.stack)
    (reset : resets m.trace < resets m'.trace)
    (back : m'.stack = .dispatch s cycle :: below) :
    m'.step = some { m' with stack := below } := by
  obtain ⟨above, stack, covered⟩ := h.covered under
  have nothing : above = [] := by
    rw [back] at stack
    exact List.append_left_eq_self.mp stack.symm
  subst nothing
  apply step_dispatch_ends back
  apply Gate.take?_of_settled
  intro complete
  by_contra queue
  exact List.not_mem_nil (covered reset s complete queue)

/-! ### Starts -/

variable {stages : List σ} {performed : List (GateOp σ)} {m : GateMachine σ}

/-- When an action starts, its body is next on the stack and its stage is complete. -/
def StartsComplete (stages : List σ) (past : List (GateEvent σ)) : GateEvent σ → Prop
  | .started t s label => ∃ performed m body rest, Reached stages performed m ∧
      m.trace = past ++ [.started t s label] ∧ m.stack = .perform label body :: rest ∧
      m.gate.isComplete s = true
  | _ => True

theorem Reached.starts_complete (h : Reached stages performed m) :
    Lawful (StartsComplete stages) m.trace := by
  refine h.moments (P := fun m => Lawful (StartsComplete stages) m.trace) ?_ ?_
  · intro m made
    rw [(fresh_ofStages made).trace]
    exact lawful_nil _
  · intro _ performed' m m' _ rest _ reached stack move lawful
    cases move with
    | idle _ _ trace | marked _ _ trace => rwa [trace]
    | answered _ _ trace | queued _ _ trace | emptied _ _ trace =>
        rw [trace]
        exact lawful_append_singleton.mpr ⟨lawful, trivial⟩
    | ran complete gate _ trace =>
        rw [trace]
        refine lawful_append_singleton.mpr ⟨lawful_append_singleton.mpr ⟨lawful, trivial⟩, ?_⟩
        exact ⟨performed', m', _, rest, reached, trace, stack, by rw [gate, complete]⟩
    | taken gate _ trace =>
        rw [trace]
        refine lawful_append_singleton.mpr ⟨lawful, ?_⟩
        exact ⟨performed', m', _, rest, reached, trace, stack, by rw [gate.flags, gate.complete]⟩

/-- **Within one cycle.**  Whatever is started was accepted at the same stage with no reset in
between, and at the moment of its start, when its body is next on the stack, its stage is complete.
If the work above a dispatch on the stack resets the gate, whatever else it does, the dispatch ends
when it is on top again: it starts nothing more. -/
theorem Reached.within_cycle (h : Reached stages performed m) :
    (∀ past t s label future, m.trace = past ++ .started t s label :: future →
      (∃ due, SinceReset past (.accepted t s due)) ∧
      ∃ performed₀ m₀ body rest, Reached stages performed₀ m₀ ∧
        m₀.trace = past ++ [.started t s label] ∧ m₀.stack = .perform label body :: rest ∧
        m₀.gate.isComplete s = true) ∧
    ∀ s cycle below m', .dispatch s cycle :: below <:+ m.stack →
      Above (.dispatch s cycle :: below) m m' → resets m.trace < resets m'.trace →
      m'.stack = .dispatch s cycle :: below → m'.step = some { m' with stack := below } := by
  constructor
  · intro past t s label future split
    exact ⟨h.starts_lawful _ _ _ split, h.starts_complete _ _ _ split⟩
  · intro s cycle below m' under above reset back
    exact above.dispatch_ends under reset back

/-- The moment at which two actions wait and their stage has just been completed; the first will
reset the gate, queue an action on the same stage and complete it again. -/
def aboutToReset : GateMachine Nat :=
  ((({ gate := { slots := [(0, {})] } } : GateMachine Nat).enter
    (.run 0 "a" [.reset, .run 0 "b" [], .mark 0])).enter (.run 0 "c" [])).enter (.mark 0)

/-- The nested completion starts the nested action, and the outer dispatch ends although its stage
is complete when it is on top again. -/
theorem within_cycle_interrupted : ∃ performed m m', Reached [0] performed m ∧
    .dispatch 0 0 :: [] <:+ m.stack ∧ Above [.dispatch 0 0] m m' ∧
    startedTickets m'.trace = [0, 2] ∧ m'.gate.isComplete 0 = true ∧
    m'.stack = [.dispatch 0 0] ∧ m'.step = some { m' with stack := [] } := by
  have completed : Reached [0] _ aboutToReset :=
    .enter _ (.enter _ (.enter _ (.fresh rfl) rfl) rfl) rfl
  have dispatched : Reached [0] _ (aboutToReset.step.get rfl) := completed.step rfl
  have under : .dispatch 0 0 :: [] <:+ (aboutToReset.step.get rfl).stack := ⟨[_], rfl⟩
  have above := above_stepsAbove [.dispatch 0 0] 11 (aboutToReset.step.get rfl)
  have back : (stepsAbove 1 11 (aboutToReset.step.get rfl)).stack = [.dispatch 0 0] := rfl
  refine ⟨_, _, _, dispatched, under, above, rfl, rfl, back, ?_⟩
  exact dispatched.within_cycle.2 0 0 [] _ under above (by decide) back

end GateMachine

end CaptureFlow
