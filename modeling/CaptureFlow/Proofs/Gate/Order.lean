import CaptureFlow.Proofs.Gate.History
/-! # First in, first out

Actions that were queued at one stage in one cycle are started in the order in which they were
accepted, whatever is nested in what.  Tickets grow with every acceptance and a queue grows at its
end, so each queue is sorted by tickets (`Reached.sorted`).  An action leaves its queue only by
being started or by a reset (`Reached.kept`).  When the head of a queue is started, every
action accepted before it in the same cycle has therefore left the queue already, and has been
started (`Reached.starts_in_order`).

An action counts as queued if its stage is incomplete at the moment of its acceptance
(`Reached.accepts_by_flag`). -/

namespace CaptureFlow.GateMachine

variable {σ : Type} [DecidableEq σ] [Stage σ] {stages : List σ} {performed : List (GateOp σ)}
  {m : GateMachine σ}

/-! ### Queued or due -/

/-- An action is due at its acceptance if its stage is complete at that moment, and queued
otherwise. -/
def AcceptsByFlag (stages : List σ) (past : List (GateEvent σ)) : GateEvent σ → Prop
  | .accepted _ s due => ∃ performed m, Reached stages performed m ∧ m.trace = past ∧
      m.gate.isComplete s = due
  | _ => True

theorem Reached.accepts_by_flag (h : Reached stages performed m) :
    Lawful (AcceptsByFlag stages) m.trace := by
  refine h.lawful ?answered ?accepted ?ran ?taken ?discarded
  case accepted =>
      intro performed m s due reached flag
      exact ⟨performed, m, reached, rfl, flag⟩
  all_goals
    intros
    trivial

/-! ### Queues -/

theorem Reached.sorted (h : Reached stages performed m) (s : σ) :
    (m.waiting s).Pairwise (· < ·) := by
  refine h.invariant (P := fun m => ∀ s, (m.waiting s).Pairwise (· < ·)) ?_ ?_ s
  · intro m made s
    rw [waiting, (fresh_ofStages made).queues]
    exact .nil
  · intro _ m m' _ reached move sorted s
    cases move with
    | idle gate | answered gate | ran _ gate =>
        rw [waiting_congr (congrArg Gate.pending gate)]
        exact sorted s
    | marked gate =>
        rw [waiting_congr gate.queues]
        exact sorted s
    | @queued at_ _ _ gate =>
        rw [waiting_of_queued gate]
        by_cases here : s = at_
        · subst here
          rw [Function.update_self, List.pairwise_append]
          refine ⟨sorted s, List.pairwise_singleton .., ?_⟩
          intro t mem last same
          rw [List.mem_singleton.mp same]
          exact reached.lt_tickets (reached.accepted_of_waiting mem).mem
        · rw [Function.update_of_ne here]
          exact sorted s
    | emptied gate =>
        rw [waiting_of_reset gate]
        exact .nil
    | @taken at_ _ gate =>
        obtain ⟨head, others⟩ := waiting_of_popped gate
        by_cases here : s = at_
        · subst here
          have all := sorted s
          rw [head] at all
          exact all.of_cons
        · rw [others s here]
          exact sorted s

/-- What was queued in the current cycle still waits or has been started. -/
def Kept (m : GateMachine σ) : Prop :=
  ∀ s t, SinceReset m.trace (.accepted t s false) →
    t ∈ m.waiting s ∨ ∃ label, .started t s label ∈ m.trace

omit [Stage σ] in
theorem Moved.trace_prefix {m' : GateMachine σ} {work : List (GateTask σ)}
    (h : Moved m m' work) : m.trace <+: m'.trace := by
  cases h with
  | idle _ _ trace | marked _ _ trace => exact ⟨[], by rw [List.append_nil, trace]⟩
  | answered _ _ trace | queued _ _ trace | emptied _ _ trace | taken _ _ trace =>
      rw [trace]
      exact List.prefix_append _ _
  | ran _ _ _ trace =>
      rw [trace, List.append_assoc]
      exact List.prefix_append _ _

omit [Stage σ] in
theorem Moved.kept {m' : GateMachine σ} {work : List (GateTask σ)} (h : Moved m m' work)
    (kept : Kept m) : Kept m' := by
  intro s t since
  -- what has been started stays started, so only the waiting tickets need a look at the move
  have old : SinceReset m.trace (.accepted t s false) →
      (t ∈ m.waiting s → t ∈ m'.waiting s ∨ ∃ label, .started t s label ∈ m'.trace) →
      t ∈ m'.waiting s ∨ ∃ label, .started t s label ∈ m'.trace := by
    intro earlier waits
    rcases kept s t earlier with mem | ⟨label, mem⟩
    · exact waits mem
    · exact .inr ⟨label, h.trace_prefix.subset mem⟩
  cases h with
  | idle gate _ trace =>
      rw [trace] at since
      apply old since
      rw [waiting_congr (congrArg Gate.pending gate)]
      exact .inl
  | marked gate _ trace =>
      rw [trace] at since
      apply old since
      rw [waiting_congr gate.queues]
      exact .inl
  | answered gate _ trace =>
      rw [trace] at since
      rcases since.of_append with same | ⟨earlier, _⟩
      · cases same
      · apply old earlier
        rw [waiting_congr (congrArg Gate.pending gate)]
        exact .inl
  | ran _ gate _ trace =>
      rw [trace] at since
      rcases since.of_append with same | ⟨since, _⟩
      · cases same
      · rcases since.of_append with same | ⟨earlier, _⟩
        · cases same
        · apply old earlier
          rw [waiting_congr (congrArg Gate.pending gate)]
          exact .inl
  | @queued at_ _ _ gate _ trace =>
      have queues := waiting_of_queued gate
      rw [trace] at since
      rcases since.of_append with same | ⟨earlier, _⟩
      · cases same
        rw [queues, Function.update_self]
        exact .inl (List.mem_append_right _ List.mem_cons_self)
      · apply old earlier
        intro mem
        left
        rw [queues]
        by_cases here : s = at_
        · subst here
          rw [Function.update_self]
          exact List.mem_append_left _ mem
        · rwa [Function.update_of_ne here]
  | emptied _ _ trace =>
      rw [trace] at since
      rcases since.of_append with same | ⟨_, quiet⟩
      · cases same
      · cases quiet
  | @taken at_ a gate _ trace =>
      obtain ⟨head, others⟩ := waiting_of_popped gate
      rw [trace] at since
      rcases since.of_append with same | ⟨earlier, _⟩
      · cases same
      · apply old earlier
        intro mem
        by_cases here : s = at_
        · subst here
          rw [head] at mem
          rcases List.mem_cons.mp mem with rfl | mem
          · refine .inr ⟨a.label, ?_⟩
            rw [trace]
            exact List.mem_append_right _ List.mem_cons_self
          · exact .inl mem
        · rw [others s here]
          exact .inl mem

theorem Reached.kept (h : Reached stages performed m) : Kept m := by
  refine h.invariant (P := Kept) ?_ ?_
  · intro m made s t since
    have mem := since.mem
    rw [(fresh_ofStages made).trace] at mem
    cases mem
  · intro _ m m' _ _ move
    exact move.kept

/-! ### Starts -/

/-- When a queued action is started, all that was queued at its stage before it in the same cycle
has been started. -/
def StartsInOrder (past : List (GateEvent σ)) : GateEvent σ → Prop
  | .started b s _ => .accepted b s false ∈ past → ∀ a < b, SinceReset past (.accepted a s false) →
      ∃ label, .started a s label ∈ past
  | _ => True

theorem Reached.starts_in_order (h : Reached stages performed m) :
    Lawful StartsInOrder m.trace := by
  refine h.lawful ?answered ?accepted ?ran ?taken ?discarded
  case ran =>
      intro _ m s label reached _ queued
      -- what is started at once has not been queued
      exfalso
      rcases List.mem_append.mp queued with mem | mem
      · exact Nat.lt_irrefl _ (reached.lt_tickets mem)
      · cases List.mem_singleton.mp mem
  case taken =>
      intro _ m s b gate reached popped _ a less since
      have head : m.waiting s = b.ticket :: (gate.pending s).map (·.ticket) := by
        rw [waiting, popped.head, List.map_cons]
      rcases reached.kept s a since with mem | started
      · have sorted := reached.sorted s
        rw [head] at sorted mem
        rcases List.mem_cons.mp mem with rfl | behind
        · exact absurd less (Nat.lt_irrefl _)
        · have after := List.rel_of_pairwise_cons sorted behind
          omega
      · exact started
  all_goals
    intros
    trivial

/-- **First in, first out.**  An action is queued if its stage is incomplete at that moment, and
started at once otherwise.  If two actions were queued at one stage with no reset between them and
the later one has been started, at whatever depth, the earlier one was started before it. -/
theorem Reached.queued_in_order (h : Reached stages performed m) :
    (∀ past t s due future, m.trace = past ++ .accepted t s due :: future →
      ∃ performed₀ m₀, Reached stages performed₀ m₀ ∧ m₀.trace = past ∧
        m₀.gate.isComplete s = due) ∧
    ∀ before a s between b after s' label,
      m.trace = before ++ .accepted a s false :: (between ++ .accepted b s false :: after) →
      (∀ e ∈ between, e.isReset = false) → .started b s' label ∈ m.trace →
      ∃ first past since future, s' = s ∧
        m.trace = past ++ .started a s first :: (since ++ .started b s label :: future) := by
  constructor
  · intro past t s due future split
    exact h.accepts_by_flag _ _ _ split
  · intro before a s between b after s' label split quiet started
    obtain ⟨pre, future, start⟩ := List.append_of_mem started
    obtain ⟨due, past, since, rfl, calm⟩ := h.starts_lawful _ _ _ start
    -- the acceptance before this start is the one after that of `a`
    have here :
        m.trace = past ++ .accepted b s' due :: (since ++ .started b s' label :: future) := by
      rw [start, List.append_assoc, List.cons_append]
    have there : m.trace =
        (before ++ .accepted a s false :: between) ++ .accepted b s false :: after := by
      rw [split, List.append_assoc, List.cons_append]
    obtain ⟨rfl, rfl, rfl, _⟩ := h.ranked.split_unique here there
    have less : a < b := by
      have rank : a = acceptances before := h.ranked _ _ _ split
      have rank' : b = acceptances (before ++ .accepted a s' false :: between) :=
        h.ranked _ _ _ there
      rw [acceptances_split] at rank'
      omega
    have earlier : SinceReset ((before ++ .accepted a s' false :: between) ++
        .accepted b s' false :: since) (.accepted a s' false) := by
      refine ⟨before, between ++ .accepted b s' false :: since, ?_, ?_⟩
      · rw [List.append_assoc, List.cons_append]
      · intro e mem
        rcases List.mem_append.mp mem with mem | mem
        · exact quiet e mem
        · rcases List.mem_cons.mp mem with rfl | mem
          · rfl
          · exact calm e mem
    have queued := List.mem_append_right (before ++ .accepted a s' false :: between)
      (List.mem_cons_self (a := GateEvent.accepted b s' false) (l := since))
    obtain ⟨first, mem⟩ := h.starts_in_order _ _ _ start queued a less earlier
    obtain ⟨pre, post, split'⟩ := List.append_of_mem mem
    refine ⟨first, pre, post, future, rfl, ?_⟩
    rw [start, split', List.append_assoc, List.cons_append]

/-- An action that completes another stage and so lets a third one run between itself and the next
in its queue. -/
def nestedOrder : GateMachine Nat :=
  ((((({ gate := { slots := [(0, {}), (1, {})] } } : GateMachine Nat).enter
    (.run 0 "a" [.mark 1])).enter (.run 1 "c" [.run 0 "d" []])).enter (.run 0 "b" [])).enter
    (.mark 0))

theorem queued_in_order_nested : ∃ performed m first past since future last,
    Reached [0, 1] performed m ∧ startedTickets m.trace = [0, 1, 3, 2] ∧
    m.trace = past ++ .started 0 0 first :: (since ++ .started 2 0 last :: future) := by
  have entered : Reached [0, 1] _ nestedOrder :=
    .enter _ (.enter _ (.enter _ (.enter _ (.fresh rfl) rfl) rfl) rfl) rfl
  obtain ⟨more, reached⟩ := entered.steps (steps_stepsAbove 0 20 nestedOrder)
  have starts : startedTickets (stepsAbove 0 20 nestedOrder).trace = [0, 1, 3, 2] := rfl
  obtain ⟨s, label, started⟩ := mem_startedTickets.mp
    (starts.symm ▸ (by decide : 2 ∈ [0, 1, 3, 2]))
  obtain ⟨first, past, since, future, _, split⟩ := reached.queued_in_order.2 [] 0 0
    [.accepted 1 1 false] 2 ((stepsAbove 0 20 nestedOrder).trace.drop 3) s label rfl
    (by decide) started
  exact ⟨_, _, first, past, since, future, label, reached, starts, split⟩

end CaptureFlow.GateMachine
