import Mathlib.Algebra.BigOperators.Group.List.Basic
import Mathlib.Data.List.Perm.Subperm
import CaptureFlow.Proofs.Gate.History
/-! # No action is lost and none is started twice

Every accepted action is, at every moment of a run, in one of three places and there once: it has
been started, it waits in the queue of its stage, or it has been discarded by a reset
(`Conserved`).  The sum of the three counts is one from the acceptance on; since starts and
discards stay in the trace for good, an action that has been started or discarded is never started
again.

`Reached.acceptances_eq` counts the acceptances by the operations performed: they are the `run`s
on declared stages, no more and no less.  With conservation this bounds the number of starts
(`Reached.startedTickets_le`). -/

namespace CaptureFlow

variable {σ : Type} [DecidableEq σ]

/-- Whether the operation hands an action to one of `stages`. -/
def GateOp.runsOn (stages : List σ) : GateOp σ → Bool
  | .run s _ _ => decide (s ∈ stages)
  | _ => false

namespace GateMachine

/-! ### All queues together -/

theorem allWaiting_eq {m : GateMachine σ} (distinct : m.gate.stages.Nodup) :
    m.allWaiting = m.gate.stages.flatMap m.waiting := by
  rw [allWaiting, Gate.stages, List.flatMap_map]
  apply List.flatMap_congr
  intro entry mem
  rw [waiting, Gate.pending_of_mem distinct mem]

theorem mem_allWaiting {m : GateMachine σ} (distinct : m.gate.stages.Nodup) {t : Nat} :
    t ∈ m.allWaiting ↔ ∃ s, t ∈ m.waiting s := by
  rw [allWaiting_eq distinct, List.mem_flatMap]
  constructor
  · rintro ⟨s, _, mem⟩
    exact ⟨s, mem⟩
  · rintro ⟨s, mem⟩
    refine ⟨s, ?_, mem⟩
    by_contra absent
    rw [waiting, Gate.pending_eq_nil_of_not_mem absent] at mem
    cases mem

theorem count_allWaiting {m : GateMachine σ} (distinct : m.gate.stages.Nodup) {t : Nat} (s : σ)
    (only : ∀ s', t ∈ m.waiting s' → s' = s) : m.allWaiting.count t = (m.waiting s).count t := by
  rw [allWaiting_eq distinct, List.count_flatMap, List.sum_map_eq_nsmul_single s]
  · rw [Function.comp_apply]
    by_cases declared : s ∈ m.gate.stages
    · rw [List.count_eq_one_of_mem distinct declared, one_nsmul]
    · rw [waiting, Gate.pending_eq_nil_of_not_mem declared, List.map_nil, List.count_nil,
        nsmul_zero]
  · intro s' other _
    exact List.count_eq_zero_of_not_mem fun mem => other (only s' mem)

theorem Moved.stages_eq {m m' : GateMachine σ} {work : List (GateTask σ)} (h : Moved m m' work) :
    m'.gate.stages = m.gate.stages := by
  cases h with
  | idle gate | answered gate | ran _ gate => rw [gate]
  | queued gate => exact gate.stages
  | marked gate => exact gate.stages
  | emptied gate => rw [gate, Gate.stages_reset]
  | taken gate => exact gate.stages

variable [Stage σ] {stages : List σ} {performed : List (GateOp σ)} {m : GateMachine σ}

theorem Reached.stages_eq (h : Reached stages performed m) :
    m.gate.stages.Nodup ∧ ∀ s, s ∈ m.gate.stages ↔ s ∈ stages := by
  refine h.invariant
    (P := fun m => m.gate.stages.Nodup ∧ ∀ s, s ∈ m.gate.stages ↔ s ∈ stages) ?_ ?_
  · intro m made
    exact ⟨(fresh_ofStages made).distinct, (fresh_ofStages made).declared⟩
  · intro _ m m' _ _ move ih
    rwa [move.stages_eq]

theorem Reached.stage_of_waiting (h : Reached stages performed m) {t : Nat} {s s' : σ} {due : Bool}
    (accepted : .accepted t s due ∈ m.trace) (mem : t ∈ m.waiting s') : s' = s :=
  (h.ranked.accepted_unique (h.accepted_of_waiting mem).mem accepted).1

/-! ### Conservation -/

/-- An accepted action has been started, waits or has been discarded, all in all once; a ticket
that has not been given out has neither been started nor discarded. -/
structure Conserved (m : GateMachine σ) : Prop where
  once : ∀ t s due, .accepted t s due ∈ m.trace →
    timesStarted t m.trace + (m.waiting s).count t + timesDiscarded t m.trace = 1
  unseen : ∀ t, m.tickets ≤ t → timesStarted t m.trace = 0 ∧ timesDiscarded t m.trace = 0

omit [Stage σ] in
theorem Conserved.congr {m' : GateMachine σ} (h : Conserved m) (queues : m'.waiting = m.waiting)
    (tickets : m'.tickets = m.tickets) (trace : m'.trace = m.trace) : Conserved m' := by
  constructor
  · rw [queues, trace]
    exact h.once
  · rw [tickets, trace]
    exact h.unseen

omit [Stage σ] in
theorem Conserved.answered {m' : GateMachine σ} (h : Conserved m)
    (queues : m'.waiting = m.waiting) (tickets : m'.tickets = m.tickets) {label : String}
    {op : GateOp σ} {answer : GateAnswer σ}
    (trace : m'.trace = m.trace ++ [.answered label op answer]) : Conserved m' := by
  constructor
  · intro t s due mem
    rw [trace] at mem
    have old := h.once t s due (by simpa using mem)
    simpa [queues, trace] using old
  · intro t bound
    simpa [trace] using h.unseen t (tickets ▸ bound)

theorem Reached.not_mem_waiting (h : Reached stages performed m) (s : σ) :
    m.tickets ∉ m.waiting s := by
  intro mem
  exact Nat.lt_irrefl _ (h.lt_tickets (h.accepted_of_waiting mem).mem)

/-- A new ticket is in a queue, and nowhere else. -/
theorem Conserved.queued {m' : GateMachine σ} (h : Conserved m)
    (reached : Reached stages performed m) {at_ : σ} {a : GateAction σ}
    (same : a.ticket = m.tickets) (gate : Gate.Queued m.gate at_ a m'.gate)
    (tickets : m'.tickets = m.tickets + 1)
    (trace : m'.trace = m.trace ++ [.accepted m.tickets at_ false]) : Conserved m' := by
  have queues := waiting_of_queued gate
  have ⟨unstarted, undiscarded⟩ := h.unseen m.tickets (Nat.le_refl _)
  rw [same] at queues
  constructor
  · intro t s due mem
    rw [trace] at mem ⊢
    rw [timesStarted_append, timesDiscarded_append, queues]
    rcases List.mem_append.mp mem with mem | mem
    · have old := h.once t s due mem
      have earlier : m.tickets ≠ t := Nat.ne_of_gt (reached.lt_tickets mem)
      by_cases here : s = at_
      · subst here
        simpa [List.count_append, earlier] using old
      · simpa [here] using old
    · obtain ⟨rfl, rfl, rfl⟩ := GateEvent.accepted.inj (List.mem_singleton.mp mem)
      have absent := List.count_eq_zero_of_not_mem (reached.not_mem_waiting s)
      simp [List.count_append, unstarted, undiscarded, absent]
  · intro t bound
    simpa [trace] using h.unseen t (by omega)

/-- A new ticket is started at once, and is nowhere else. -/
theorem Conserved.ran {m' : GateMachine σ} (h : Conserved m) (reached : Reached stages performed m)
    (queues : m'.waiting = m.waiting) (tickets : m'.tickets = m.tickets + 1) {at_ : σ}
    {label : String} (trace : m'.trace =
      m.trace ++ [.accepted m.tickets at_ true] ++ [.started m.tickets at_ label]) :
    Conserved m' := by
  have ⟨unstarted, undiscarded⟩ := h.unseen m.tickets (Nat.le_refl _)
  constructor
  · intro t s due mem
    rw [trace] at mem ⊢
    rw [timesStarted_append, timesStarted_append, timesDiscarded_append, timesDiscarded_append,
      queues]
    rcases List.mem_append.mp mem with mem | mem
    · rcases List.mem_append.mp mem with mem | mem
      · have old := h.once t s due mem
        have earlier : m.tickets ≠ t := Nat.ne_of_gt (reached.lt_tickets mem)
        simpa [earlier] using old
      · obtain ⟨rfl, rfl, rfl⟩ := GateEvent.accepted.inj (List.mem_singleton.mp mem)
        have absent := List.count_eq_zero_of_not_mem (reached.not_mem_waiting s)
        simp [unstarted, undiscarded, absent]
    · cases List.mem_singleton.mp mem
  · intro t bound
    have old := h.unseen t (by omega)
    have later : m.tickets ≠ t := by omega
    rw [trace, timesStarted_append, timesStarted_append, timesDiscarded_append,
      timesDiscarded_append]
    simpa [later] using old

/-- Each waiting ticket leaves its queue and is discarded. -/
theorem Conserved.emptied {m' : GateMachine σ} (h : Conserved m)
    (reached : Reached stages performed m) (gate : m'.gate = m.gate.reset)
    (tickets : m'.tickets = m.tickets) (trace : m'.trace = m.trace ++ [.discarded m.allWaiting]) :
    Conserved m' := by
  have distinct := reached.stages_eq.1
  constructor
  · intro t s due mem
    rw [trace] at mem
    have mem : .accepted t s due ∈ m.trace := by simpa using mem
    have old := h.once t s due mem
    have dropped := count_allWaiting distinct s fun s' => reached.stage_of_waiting mem
    rw [trace, timesStarted_append, timesDiscarded_append, waiting_of_reset gate]
    simp only [GateEvent.starts, GateEvent.drops, dropped, List.count_nil]
    omega
  · intro t bound
    have old := h.unseen t (tickets ▸ bound)
    have absent : t ∉ m.allWaiting := by
      intro mem
      obtain ⟨s, mem⟩ := (mem_allWaiting distinct).mp mem
      have := reached.lt_tickets (reached.accepted_of_waiting mem).mem
      omega
    simpa [trace, List.count_eq_zero_of_not_mem absent] using old

/-- The first ticket of a queue leaves it and is started. -/
theorem Conserved.taken {m' : GateMachine σ} (h : Conserved m)
    (reached : Reached stages performed m) {at_ : σ} {a : GateAction σ}
    (gate : Gate.Popped m.gate at_ a m'.gate) (tickets : m'.tickets = m.tickets)
    (trace : m'.trace = m.trace ++ [.started a.ticket at_ a.label]) : Conserved m' := by
  obtain ⟨head, others⟩ := waiting_of_popped gate
  have since := reached.accepted_of_waiting (head ▸ List.mem_cons_self)
  constructor
  · intro t s due mem
    rw [trace] at mem
    have mem : .accepted t s due ∈ m.trace := by simpa using mem
    have old := h.once t s due mem
    rw [trace, timesStarted_append, timesDiscarded_append]
    simp only [GateEvent.starts, GateEvent.drops, List.count_singleton, List.count_nil]
    by_cases here : s = at_
    · subst here
      rw [head, List.count_cons] at old
      omega
    · rw [others s here]
      have other : a.ticket ≠ t := by
        rintro rfl
        exact here (reached.ranked.accepted_unique mem since.mem).1
      simpa [other] using old
  · intro t bound
    have old := h.unseen t (tickets ▸ bound)
    have other : a.ticket ≠ t := by
      have := reached.lt_tickets since.mem
      omega
    simpa [trace, other] using old

/-- Every move keeps the account. -/
theorem Moved.conserved {m' : GateMachine σ} {work : List (GateTask σ)}
    (reached : Reached stages performed m) (move : Moved m m' work) (h : Conserved m) :
    Conserved m' := by
  cases move with
  | idle gate tickets trace =>
      exact h.congr (waiting_congr (congrArg Gate.pending gate)) tickets trace
  | answered gate tickets trace =>
      exact h.answered (waiting_congr (congrArg Gate.pending gate)) tickets trace
  | marked gate tickets trace => exact h.congr (waiting_congr gate.queues) tickets trace
  | queued gate tickets trace => exact h.queued reached rfl gate tickets trace
  | ran _ gate tickets trace =>
      exact h.ran reached (waiting_congr (congrArg Gate.pending gate)) tickets trace
  | emptied gate tickets trace => exact h.emptied reached gate tickets trace
  | taken gate tickets trace => exact h.taken reached gate tickets trace

theorem Reached.conserved (h : Reached stages performed m) : Conserved m := by
  refine h.invariant (P := Conserved) ?_ fun _ _ _ _ reached move => move.conserved reached
  intro m made
  have trace := (fresh_ofStages made).trace
  constructor
  · intro t s due mem
    rw [trace] at mem
    cases mem
  · intro t _
    rw [trace]
    exact ⟨rfl, rfl⟩

/-- A reset discards all that waits at the moment it comes, and nothing else. -/
def DiscardsWaiting (stages : List σ) (past : List (GateEvent σ)) : GateEvent σ → Prop
  | .discarded tickets => ∃ performed m, Reached stages performed m ∧ m.trace = past ∧
      ∀ t, t ∈ tickets ↔ ∃ s, t ∈ m.waiting s
  | _ => True

theorem Reached.discards_lawful (h : Reached stages performed m) :
    Lawful (DiscardsWaiting stages) m.trace := by
  refine h.lawful ?answered ?accepted ?ran ?taken ?discarded
  case discarded =>
      intro performed m reached
      exact ⟨performed, m, reached, rfl, fun _ => mem_allWaiting reached.stages_eq.1⟩
  all_goals
    intros
    trivial

theorem Reached.accepted_of_discarded (h : Reached stages performed m) {t : Nat}
    {tickets : List Nat} (discarded : .discarded tickets ∈ m.trace) (mem : t ∈ tickets) :
    ∃ s, .accepted t s false ∈ m.trace := by
  obtain ⟨past, future, split⟩ := List.append_of_mem discarded
  obtain ⟨_, earlier, reached, rfl, all⟩ := h.discards_lawful _ _ _ split
  obtain ⟨s, waits⟩ := (all t).mp mem
  exact ⟨s, split ▸ List.mem_append_left _ (reached.accepted_of_waiting waits).mem⟩

/-! ### Counting the operations -/

theorem tickets_start (m : GateMachine σ) (op : GateOp σ) :
    (m.start op).machine.tickets =
      m.tickets + if op.runsOn m.gate.stages then 1 else 0 := by
  cases op with
  | run s label body =>
      simp only [start, GateOp.runsOn]
      cases offered : m.gate.offer? s ⟨m.tickets, label, body⟩ with
      | none => simp [Gate.offer?_eq_none_iff.mp offered]
      | some answer =>
          have declared : s ∈ m.gate.stages := by
            by_contra absent
            rw [Gate.offer?_eq_none_iff.mpr absent] at offered
            cases offered
          obtain ⟨gate, due⟩ := answer
          cases due <;> simp [declared, log]
  | mark s =>
      simp only [start]
      split <;> rfl
  | isCompleted s =>
      simp only [start]
      split <;> rfl
  | pendingCount s =>
      simp only [start]
      split <;> rfl
  | reset | stages | describe => rfl

theorem tickets_step {m m' : GateMachine σ} (h : m.step = some m') :
    m'.tickets = m.tickets + m.next?.toList.countP (GateOp.runsOn m.gate.stages) := by
  unfold step at h
  split at h
  · cases h
  next label rest stack =>
    obtain rfl := Option.some.inj h
    simp [next?, stack]
  next label op ops rest stack =>
    obtain rfl := Option.some.inj h
    simp [next?, stack, tickets_start m op, List.countP_cons]
  next label op answer rest stack =>
    obtain rfl := Option.some.inj h
    simp [next?, stack, log]
  next s cycle rest stack =>
    split at h <;> obtain rfl := Option.some.inj h <;> simp [next?, stack, log]

/-- The acceptances are the `run`s on declared stages that have been performed. -/
theorem Reached.acceptances_eq (h : Reached stages performed m) :
    acceptances m.trace = performed.countP (GateOp.runsOn stages) := by
  have same : ∀ {performed m}, Reached stages performed m →
      GateOp.runsOn m.gate.stages = GateOp.runsOn stages := by
    intro _ m reached
    funext op
    cases op with
    | run s => exact decide_eq_decide.mpr (reached.stages_eq.2 s)
    | _ => rfl
  rw [← h.tickets_eq]
  induction h with
  | fresh made => rw [(fresh_ofStages made).tickets, List.countP_nil]
  | enter op reached _ ih =>
      rw [List.countP_append, ← ih, List.countP_singleton, ← same reached]
      exact tickets_start _ op
  | step reached stepped ih =>
      rw [List.countP_append, ← ih, ← same reached]
      exact tickets_step stepped

theorem Reached.startedTickets_le (h : Reached stages performed m) :
    (startedTickets m.trace).length ≤ acceptances m.trace := by
  have distinct : (startedTickets m.trace).Nodup := by
    refine List.nodup_iff_count_le_one.mpr fun t => ?_
    by_cases started : t ∈ startedTickets m.trace
    · obtain ⟨s, label, mem⟩ := mem_startedTickets.mp started
      obtain ⟨due, accepted⟩ := h.accepted_of_started mem
      have once := h.conserved.once t s due accepted
      rw [timesStarted] at once
      omega
    · rw [List.count_eq_zero_of_not_mem started]
      exact Nat.zero_le 1
  have below : startedTickets m.trace ⊆ List.range (acceptances m.trace) := by
    intro t started
    rw [List.mem_range, ← h.tickets_eq]
    by_contra late
    have none := (h.conserved.unseen t (Nat.le_of_not_lt late)).1
    rw [timesStarted, List.count_eq_zero] at none
    exact none started
  calc (startedTickets m.trace).length
      ≤ (List.range (acceptances m.trace)).length :=
        (List.subperm_of_subset distinct below).length_le
    _ = acceptances m.trace := List.length_range

/-- **Exactly once.**  At every moment of a run an accepted action has been started, waits in the
queue of its stage or has been discarded, and only one of the three, once; it is started at its own
stage, and tickets that were not given out occur nowhere.  What a reset discards is what waited at
the moment before it.  The acceptances are the `run`s on declared stages performed so far, the
starts are no more than these, and whatever is on the stack gets done after finitely many steps. -/
theorem Reached.exactly_once (h : Reached stages performed m) :
    (∀ t s due, .accepted t s due ∈ m.trace →
      timesStarted t m.trace + (m.waiting s).count t + timesDiscarded t m.trace = 1 ∧
      (∀ s', t ∈ m.waiting s' → s' = s) ∧
      ∀ s' label, .started t s' label ∈ m.trace → s' = s) ∧
    (∀ t, (∀ s due, .accepted t s due ∉ m.trace) →
      timesStarted t m.trace = 0 ∧ timesDiscarded t m.trace = 0 ∧ ∀ s, t ∉ m.waiting s) ∧
    (∀ past tickets future, m.trace = past ++ .discarded tickets :: future →
      ∃ performed₀ m₀, Reached stages performed₀ m₀ ∧ m₀.trace = past ∧
        ∀ t, t ∈ tickets ↔ ∃ s, t ∈ m₀.waiting s) ∧
    acceptances m.trace = performed.countP (GateOp.runsOn stages) ∧
    (startedTickets m.trace).length ≤ performed.countP (GateOp.runsOn stages) ∧
    ∀ above below, m.stack = above ++ below → ∃ m', Steps m m' ∧ m'.stack = below := by
  refine ⟨?_, ?_, ?_, h.acceptances_eq, ?_, fun above below => steps_to m above below⟩
  · intro t s due accepted
    refine ⟨h.conserved.once t s due accepted, fun s' => h.stage_of_waiting accepted, ?_⟩
    exact fun s' label => h.stage_of_started accepted
  · intro t never
    refine ⟨?_, ?_, ?_⟩
    · by_contra started
      obtain ⟨s, label, mem⟩ := timesStarted_pos_iff.mp (Nat.pos_of_ne_zero started)
      obtain ⟨due, accepted⟩ := h.accepted_of_started mem
      exact never s due accepted
    · by_contra discarded
      obtain ⟨tickets, drops, mem⟩ := timesDiscarded_pos_iff.mp (Nat.pos_of_ne_zero discarded)
      obtain ⟨s, accepted⟩ := h.accepted_of_discarded drops mem
      exact never s false accepted
    · intro s mem
      exact never s false (h.accepted_of_waiting mem).mem
  · intro past tickets future split
    exact h.discards_lawful past _ future split
  · rw [← h.acceptances_eq]
    exact h.startedTickets_le

/-- An action that hands in another one and then resets the gate: the first is started, the one
behind it is discarded, the nested one runs at once. -/
theorem exactly_once_nested : ∃ performed m, Reached [0] performed m ∧
    startedTickets m.trace = [0, 2] ∧ timesDiscarded 1 m.trace = 1 ∧
    timesStarted 1 m.trace + (m.waiting 0).count 1 + timesDiscarded 1 m.trace = 1 ∧
    acceptances m.trace = performed.countP (GateOp.runsOn [0]) := by
  have reached : Reached [0] _ _ :=
    .step (.step (.step (.step (.step (.enter (.mark 0) (.enter (.run 0 "c" [])
      (.enter (.run 0 "a" [.run 0 "b" [], .reset]) (.fresh rfl) rfl) rfl) rfl)
      rfl) rfl) rfl) rfl) rfl
  have once := reached.exactly_once
  exact ⟨_, _, reached, rfl, rfl, (once.1 1 0 false (.tail _ (.head _))).1, once.2.2.2.1⟩

end GateMachine

end CaptureFlow
