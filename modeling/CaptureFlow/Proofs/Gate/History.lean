import CaptureFlow.Proofs.History
import CaptureFlow.Proofs.Gate.Run
/-! # The history of a gate

The trace of a machine says what has happened on its gate.  Three facts are the ground of all
others.  Tickets are the numbers of the acceptances in their order (`Reached.ranked`), so that an
acceptance stands in one place of the trace only (`Ranked.split_unique`).  What waits was accepted
into its queue after the last reset (`Reached.accepted_of_waiting`), and so was what is started
(`Reached.starts_lawful`). -/

namespace CaptureFlow

/-! ### Events -/

namespace GateEvent

variable {σ : Type}

@[simp] def isReset : GateEvent σ → Bool
  | .discarded _ => true
  | _ => false

@[simp] def isAcceptance : GateEvent σ → Bool
  | .accepted .. => true
  | _ => false

@[simp] def starts : GateEvent σ → List Nat
  | .started t _ _ => [t]
  | _ => []

@[simp] def drops : GateEvent σ → List Nat
  | .discarded tickets => tickets
  | _ => []

end GateEvent

section trace

variable {σ : Type}

def acceptances (trace : List (GateEvent σ)) : Nat := trace.countP GateEvent.isAcceptance

def startedTickets (trace : List (GateEvent σ)) : List Nat := trace.flatMap GateEvent.starts

def timesStarted (t : Nat) (trace : List (GateEvent σ)) : Nat := (startedTickets trace).count t

def timesDiscarded (t : Nat) (trace : List (GateEvent σ)) : Nat :=
  (trace.flatMap GateEvent.drops).count t

@[simp] theorem acceptances_append (trace : List (GateEvent σ)) (e : GateEvent σ) :
    acceptances (trace ++ [e]) = acceptances trace + if e.isAcceptance then 1 else 0 := by
  simp [acceptances, List.countP_append, List.countP_cons]

@[simp] theorem timesStarted_append (t : Nat) (trace : List (GateEvent σ)) (e : GateEvent σ) :
    timesStarted t (trace ++ [e]) = timesStarted t trace + e.starts.count t := by
  simp [timesStarted, startedTickets]

@[simp] theorem timesDiscarded_append (t : Nat) (trace : List (GateEvent σ)) (e : GateEvent σ) :
    timesDiscarded t (trace ++ [e]) = timesDiscarded t trace + e.drops.count t := by
  simp [timesDiscarded]

theorem mem_startedTickets {t : Nat} {trace : List (GateEvent σ)} :
    t ∈ startedTickets trace ↔ ∃ s label, .started t s label ∈ trace := by
  unfold startedTickets
  rw [List.mem_flatMap]
  constructor
  · rintro ⟨e, mem, starts⟩
    cases e with
    | started u s label =>
        obtain rfl := List.mem_singleton.mp starts
        exact ⟨s, label, mem⟩
    | accepted | discarded | answered => cases starts
  · rintro ⟨s, label, mem⟩
    exact ⟨_, mem, List.mem_cons_self⟩

theorem timesStarted_pos_iff {t : Nat} {trace : List (GateEvent σ)} :
    0 < timesStarted t trace ↔ ∃ s label, .started t s label ∈ trace := by
  rw [timesStarted, List.count_pos_iff, mem_startedTickets]

theorem timesDiscarded_pos_iff {t : Nat} {trace : List (GateEvent σ)} :
    0 < timesDiscarded t trace ↔ ∃ tickets, .discarded tickets ∈ trace ∧ t ∈ tickets := by
  rw [timesDiscarded, List.count_pos_iff, List.mem_flatMap]
  constructor
  · rintro ⟨e, mem, drops⟩
    cases e with
    | discarded tickets => exact ⟨tickets, mem, drops⟩
    | accepted | started | answered => cases drops
  · rintro ⟨tickets, mem, drops⟩
    exact ⟨_, mem, drops⟩

/-! ### The current cycle -/

/-- `e` has happened, and no reset after it. -/
abbrev SinceReset (trace : List (GateEvent σ)) (e : GateEvent σ) : Prop :=
  Since GateEvent.isReset trace e

/-! ### Tickets -/

/-- The ticket of an acceptance is the number of those before it. -/
def Ranks (past : List (GateEvent σ)) : GateEvent σ → Prop
  | .accepted t _ _ => t = acceptances past
  | _ => True

/-- Tickets number the acceptances. -/
abbrev Ranked (trace : List (GateEvent σ)) : Prop := Lawful Ranks trace

theorem acceptances_split (past future : List (GateEvent σ)) (t : Nat) (s : σ) (due : Bool) :
    acceptances (past ++ .accepted t s due :: future) =
      acceptances past + 1 + acceptances future := by
  simp only [acceptances, List.countP_append, List.countP_cons, GateEvent.isAcceptance, if_true]
  omega

theorem Ranked.split_unique {trace past past' future future' : List (GateEvent σ)} {t : Nat}
    {s s' : σ} {due due' : Bool} (h : Ranked trace)
    (split : trace = past ++ .accepted t s due :: future)
    (split' : trace = past' ++ .accepted t s' due' :: future') :
    past = past' ∧ s = s' ∧ due = due' ∧ future = future' := by
  have rank : t = acceptances past := h _ _ _ split
  have rank' : t = acceptances past' := h _ _ _ split'
  rw [split] at split'
  rcases List.append_eq_append_iff.mp split' with ⟨between, rfl, rest⟩ | ⟨between, rfl, rest⟩
  · cases between with
    | nil =>
        rw [List.nil_append] at rest
        obtain ⟨same, rfl⟩ := List.cons.inj rest
        obtain ⟨_, rfl, rfl⟩ := GateEvent.accepted.inj same
        exact ⟨(List.append_nil _).symm, rfl, rfl, rfl⟩
    | cons first between =>
        obtain ⟨rfl, _⟩ := List.cons.inj rest
        rw [acceptances_split] at rank'
        omega
  · cases between with
    | nil =>
        rw [List.nil_append] at rest
        obtain ⟨same, rfl⟩ := List.cons.inj rest
        obtain ⟨_, rfl, rfl⟩ := GateEvent.accepted.inj same
        exact ⟨List.append_nil _, rfl, rfl, rfl⟩
    | cons first between =>
        obtain ⟨rfl, _⟩ := List.cons.inj rest
        rw [acceptances_split] at rank
        omega

/-- A ticket names one stage, and one way of being accepted. -/
theorem Ranked.accepted_unique {trace : List (GateEvent σ)} {t : Nat} {s s' : σ} {due due' : Bool}
    (h : Ranked trace) (mem : .accepted t s due ∈ trace) (mem' : .accepted t s' due' ∈ trace) :
    s = s' ∧ due = due' := by
  obtain ⟨past, future, split⟩ := List.append_of_mem mem
  obtain ⟨past', future', split'⟩ := List.append_of_mem mem'
  obtain ⟨_, stage, same, _⟩ := h.split_unique split split'
  exact ⟨stage, same⟩

theorem Ranked.lt_acceptances {trace : List (GateEvent σ)} {t : Nat} {s : σ} {due : Bool}
    (h : Ranked trace) (mem : .accepted t s due ∈ trace) : t < acceptances trace := by
  obtain ⟨past, future, split⟩ := List.append_of_mem mem
  have rank : t = acceptances past := h _ _ _ split
  rw [split, acceptances_split]
  omega

end trace

namespace GateMachine

variable {σ : Type} [DecidableEq σ]

/-! ### What moves do to the queues -/

theorem waiting_congr {m m' : GateMachine σ} (h : m'.gate.pending = m.gate.pending) :
    m'.waiting = m.waiting := by
  funext s
  rw [waiting, h, waiting]

theorem waiting_of_queued {m m' : GateMachine σ} {s : σ} {a : GateAction σ}
    (h : Gate.Queued m.gate s a m'.gate) :
    m'.waiting = Function.update m.waiting s (m.waiting s ++ [a.ticket]) := by
  funext t
  rw [waiting, h.queues]
  by_cases here : t = s
  · subst here
    rw [Function.update_self, Function.update_self, List.map_append]
    rfl
  · rw [Function.update_of_ne here, Function.update_of_ne here, waiting]

theorem waiting_of_popped {m m' : GateMachine σ} {s : σ} {a : GateAction σ}
    (h : Gate.Popped m.gate s a m'.gate) :
    m.waiting s = a.ticket :: m'.waiting s ∧ ∀ t, t ≠ s → m'.waiting t = m.waiting t := by
  constructor
  · rw [waiting, h.head, List.map_cons, waiting]
  · intro t other
    rw [waiting, h.others t other, waiting]

theorem waiting_of_reset {m m' : GateMachine σ} (h : m'.gate = m.gate.reset) (s : σ) :
    m'.waiting s = [] := by
  rw [waiting, h, Gate.pending_reset, List.map_nil]

/-- The tickets waiting after a move waited before it, but for that of an action queued. -/
theorem Moved.waiting_sub {m m' : GateMachine σ} {work : List (GateTask σ)}
    (h : Moved m m' work) {s : σ} {t : Nat} (mem : t ∈ m'.waiting s) :
    t ∈ m.waiting s ∨ t = m.tickets ∧ m'.trace = m.trace ++ [.accepted t s false] := by
  cases h with
  | idle gate | answered gate | ran _ gate =>
      rw [waiting_congr (congrArg Gate.pending gate)] at mem
      exact .inl mem
  | marked gate =>
      rw [waiting_congr gate.queues] at mem
      exact .inl mem
  | @queued at_ _ _ gate _ trace =>
      rw [waiting_of_queued gate] at mem
      by_cases here : s = at_
      · subst here
        rw [Function.update_self] at mem
        rcases List.mem_append.mp mem with mem | mem
        · exact .inl mem
        · obtain rfl := List.mem_singleton.mp mem
          exact .inr ⟨rfl, trace⟩
      · rw [Function.update_of_ne here] at mem
        exact .inl mem
  | emptied gate =>
      rw [waiting_of_reset gate] at mem
      cases mem
  | @taken at_ _ gate =>
      obtain ⟨head, others⟩ := waiting_of_popped gate
      by_cases here : s = at_
      · subst here
        rw [head]
        exact .inl (List.mem_cons_of_mem _ mem)
      · rw [others s here] at mem
        exact .inl mem

/-! ### The ground of all laws -/

variable [Stage σ] {stages : List σ} {performed : List (GateOp σ)} {m : GateMachine σ}

/-- A law is obeyed if each event that a move can add obeys it at the moment of the move. -/
theorem Reached.lawful {allowed : List (GateEvent σ) → GateEvent σ → Prop}
    (h : Reached stages performed m)
    (answered : ∀ past label op answer, allowed past (.answered label op answer))
    (accepted : ∀ performed m s due, Reached stages performed m → m.gate.isComplete s = due →
      allowed m.trace (.accepted m.tickets s due))
    (ran : ∀ performed m s label, Reached stages performed m → m.gate.isComplete s = true →
      allowed (m.trace ++ [.accepted m.tickets s true]) (.started m.tickets s label))
    (taken : ∀ performed m s a gate, Reached stages performed m → Gate.Popped m.gate s a gate →
      allowed m.trace (.started a.ticket s a.label))
    (discarded : ∀ performed m, Reached stages performed m →
      allowed m.trace (.discarded m.allWaiting)) : Lawful allowed m.trace := by
  refine h.invariant (P := fun m => Lawful allowed m.trace) ?_ ?_
  · intro m made
    rw [(fresh_ofStages made).trace]
    exact lawful_nil _
  · intro performed m m' _ reached move lawful
    cases move with
    | idle _ _ trace | marked _ _ trace => rwa [trace]
    | answered _ _ trace =>
        rw [trace]
        exact lawful_append_singleton.mpr ⟨lawful, answered _ _ _ _⟩
    | queued gate _ trace =>
        rw [trace]
        exact lawful_append_singleton.mpr
          ⟨lawful, accepted performed m _ _ reached gate.incomplete⟩
    | ran complete _ _ trace =>
        rw [trace]
        refine lawful_append_singleton.mpr ⟨lawful_append_singleton.mpr ⟨lawful, ?_⟩, ?_⟩
        · exact accepted performed m _ _ reached complete
        · exact ran performed m _ _ reached complete
    | emptied _ _ trace =>
        rw [trace]
        exact lawful_append_singleton.mpr ⟨lawful, discarded performed m reached⟩
    | taken gate _ trace =>
        rw [trace]
        exact lawful_append_singleton.mpr ⟨lawful, taken performed m _ _ _ reached gate⟩

theorem Reached.tickets_eq (h : Reached stages performed m) : m.tickets = acceptances m.trace := by
  refine h.invariant (P := fun m => m.tickets = acceptances m.trace) ?_ ?_
  · intro m made
    rw [(fresh_ofStages made).tickets, (fresh_ofStages made).trace]
    rfl
  · intro _ m m' _ _ move count
    cases move with
    | idle _ tickets trace | marked _ tickets trace => rw [tickets, trace, count]
    | answered _ tickets trace | queued _ tickets trace | emptied _ tickets trace
    | taken _ tickets trace =>
        rw [tickets, trace, acceptances_append, count]
        rfl
    | ran _ _ tickets trace =>
        rw [tickets, trace, acceptances_append, acceptances_append, count]
        rfl

theorem Reached.ranked (h : Reached stages performed m) : Ranked m.trace := by
  refine h.lawful ?answered ?accepted ?ran ?taken ?discarded
  case accepted =>
      intro _ m _ _ reached _
      exact reached.tickets_eq
  all_goals
    intros
    trivial

theorem Reached.lt_tickets (h : Reached stages performed m) {t : Nat} {s : σ} {due : Bool}
    (mem : .accepted t s due ∈ m.trace) : t < m.tickets :=
  h.tickets_eq ▸ h.ranked.lt_acceptances mem

/-- What waits at a stage was accepted into its queue, and not before the last reset. -/
theorem Reached.accepted_of_waiting (h : Reached stages performed m) {s : σ} {t : Nat}
    (mem : t ∈ m.waiting s) : SinceReset m.trace (.accepted t s false) := by
  refine h.invariant (P := fun m => ∀ s t, t ∈ m.waiting s →
    SinceReset m.trace (.accepted t s false)) ?_ ?_ s t mem
  · intro m made s t mem
    rw [waiting, (fresh_ofStages made).queues] at mem
    cases mem
  · intro _ m m' _ _ move ih s t mem
    rcases move.waiting_sub mem with old | ⟨_, trace⟩
    · have since := ih s t old
      cases move with
      | idle _ _ trace | marked _ _ trace => rwa [trace]
      | answered _ _ trace | queued _ _ trace | taken _ _ trace =>
          rw [trace]
          exact since.append rfl
      | ran _ _ _ trace =>
          rw [trace]
          exact (since.append rfl).append rfl
      | emptied gate =>
          rw [waiting_of_reset gate] at mem
          cases mem
    · rw [trace]
      exact since_append_self _ m.trace _

/-- What is started was accepted at the same stage, and not before the last reset. -/
def StartsAccepted (past : List (GateEvent σ)) : GateEvent σ → Prop
  | .started t s _ => ∃ due, SinceReset past (.accepted t s due)
  | _ => True

theorem Reached.starts_lawful (h : Reached stages performed m) :
    Lawful StartsAccepted m.trace := by
  refine h.lawful ?answered ?accepted ?ran ?taken ?discarded
  case ran =>
      intro _ m s label _ _
      exact ⟨true, since_append_self _ m.trace _⟩
  case taken =>
      intro _ m s a gate reached popped
      have waits : a.ticket ∈ m.waiting s := by
        rw [waiting, popped.head]
        exact List.mem_cons_self
      exact ⟨false, reached.accepted_of_waiting waits⟩
  all_goals
    intros
    trivial

theorem Reached.accepted_of_started (h : Reached stages performed m) {t : Nat} {s : σ}
    {label : String} (started : .started t s label ∈ m.trace) :
    ∃ due, .accepted t s due ∈ m.trace := by
  obtain ⟨past, future, split⟩ := List.append_of_mem started
  obtain ⟨due, since⟩ := h.starts_lawful _ _ _ split
  exact ⟨due, split ▸ List.mem_append_left _ since.mem⟩

theorem Reached.stage_of_started (h : Reached stages performed m) {t : Nat} {s s' : σ}
    {due : Bool} {label : String} (accepted : .accepted t s due ∈ m.trace)
    (started : .started t s' label ∈ m.trace) : s' = s := by
  obtain ⟨due', mem⟩ := h.accepted_of_started started
  exact (h.ranked.accepted_unique mem accepted).1

end GateMachine

end CaptureFlow
