import CaptureFlow.Proofs.Camera.Pictures
/-! # Requests for pictures

A request waits in the queue of the second stage until it is served or discarded; with the camera
streaming it is served at once.  `Handles m m' op? work` says what one move does about requests: it
may leave them alone (`Aside`), queue one, serve one at once, serve the first of the queue, or
discard all that wait (`Clears`).  Serving a request comes to one event that tells its outcome, and
a picture goes to the receiver before anything else happens (`Settles`).

`Next m op? m'` is one moment of a run after another, as an operation from the outside is entered or
a step is made.  Every move handles the requests in one of these ways (`Next.handles`): new requests
come from `capture` alone, for no other task hands the gate a picture (`Reached.unrequested`). -/

namespace CaptureFlow

variable {τ : Type}

/-! ### Receivers and events -/

/-- Whom an action takes a picture for. -/
def CameraAction.receiver? {β : Type} : CameraAction β → Option β
  | .takePicture receiver => some receiver
  | _ => none

theorem ticketsOf_eq (actions : List (CameraAction (Receiver τ))) :
    ticketsOf actions = (actions.filterMap CameraAction.receiver?).map (·.ticket) := by
  rw [ticketsOf, List.map_filterMap]
  congr 1
  funext action
  cases action <;> rfl

def requests (trace : List (CameraEvent τ)) : List Nat :=
  trace.filterMap fun
    | .requested ticket => some ticket
    | _ => none

def dropped (trace : List (CameraEvent τ)) : List Nat :=
  trace.flatMap fun
    | .discarded tickets => tickets
    | _ => []

/-- The tickets of all requests whose outcome has been told, in that order. -/
def settled (trace : List (CameraEvent τ)) : List Nat := (outcomes trace).map (·.1)

theorem requests_append (trace events : List (CameraEvent τ)) :
    requests (trace ++ events) = requests trace ++ requests events := List.filterMap_append

theorem dropped_append (trace events : List (CameraEvent τ)) :
    dropped (trace ++ events) = dropped trace ++ dropped events := List.flatMap_append

theorem settled_append (trace events : List (CameraEvent τ)) :
    settled (trace ++ events) = settled trace ++ settled events := by
  rw [settled, outcomes_append, List.map_append, settled, settled]

/-- Events that tell of no request. -/
structure Unconcerned (events : List (CameraEvent τ)) : Prop where
  requests : requests events = []
  outcomes : outcomes events = []
  dropped : dropped events = []

theorem Unconcerned.settled {events : List (CameraEvent τ)} (h : Unconcerned events) :
    settled events = [] := by rw [CaptureFlow.settled, h.outcomes, List.map_nil]

theorem Unconcerned.append {events more : List (CameraEvent τ)} (h : Unconcerned events)
    (h' : Unconcerned more) : Unconcerned (events ++ more) := by
  constructor
  · rw [requests_append, h.requests, h'.requests, List.append_nil]
  · rw [outcomes_append, h.outcomes, h'.outcomes, List.append_nil]
  · rw [dropped_append, h.dropped, h'.dropped, List.append_nil]

namespace CameraMachine

variable {m m' m₁ : CameraMachine τ} {move : CameraMove τ} {work : List (CameraTask τ)}
  {op? : Option (CameraOp τ)} {action : CameraAction (Receiver τ)}

def receivers (m : CameraMachine τ) : List (Receiver τ) :=
  (m.camera.gate.pending .previewStarted).filterMap CameraAction.receiver?

def waiting (m : CameraMachine τ) : List Nat := m.receivers.map (·.ticket)

/-- All that waits anywhere waits in the queue of its stage, the requests in that of the second. -/
theorem ticketsOf_waiting (agreed : m.camera.Agreed) :
    ticketsOf m.camera.waiting = m.waiting := by
  have distinct : m.camera.gate.stages.Nodup := by
    rw [agreed.stages]
    decide
  have none : (m.camera.gate.pending .initialized).filterMap CameraAction.receiver? = [] := by
    refine List.filterMap_eq_nil_iff.mpr fun action mem => ?_
    have stage := agreed.queues .initialized action mem
    cases action with
    | takePicture receiver => cases stage
    | linkSurface | applyRotation => rfl
  rw [ticketsOf_eq, GatedCamera.waiting, Gate.flatMap_slots distinct, agreed.stages]
  simp [CameraStage.all, none, waiting, receivers]

/-! ### What a move does about requests -/

/-- The same receivers wait, and nothing has happened that tells of a request. -/
structure Aside (m m' : CameraMachine τ) : Prop where
  receivers : m'.receivers = m.receivers
  tickets : m'.tickets = m.tickets
  trace : ∃ events, m'.trace = m.trace ++ events ∧ Unconcerned events

/-- All that waits is discarded. -/
def Clears (m m' : CameraMachine τ) : Prop :=
  ∃ m₁ : CameraMachine τ, m₁.receivers = [] ∧ m₁.tickets = m.tickets ∧
    m₁.trace = m.trace ++ [.discarded m.waiting] ∧ Aside m₁ m'

/-- `e` tells what came of the request of `r`; a picture is handed over first of all work. -/
inductive Settles (r : Receiver τ) : CameraEvent τ → List (CameraTask τ) → Prop
  | delivered (frame : Frame) (rest : List (CameraTask τ)) :
      Settles r (.delivered r.ticket r.tag frame) (.perform (.receiver r.tag) r.body :: rest)
  | failed (cause : Failure) (work : List (CameraTask τ)) :
      Settles r (.failed cause (some r.ticket)) work

/-- Whether an operation discards what waits. -/
def Discards (m : CameraMachine τ) : CameraOp τ → Prop
  | .release => True
  | .flip => True
  | .openCamera => ∃ cause, (m.start .openCamera).answer = .error cause
  | _ => False

/-- `m'` comes from `m` by one move, which performs `op?` if that is an operation and puts `work` on
the stack. -/
inductive Handles (m m' : CameraMachine τ) (op? : Option (CameraOp τ))
    (work : List (CameraTask τ)) : Prop
  | aside (aside : Aside m m')
  | queued {tag : τ} {body : List (CameraOp τ)} (op : op? = some (.capture tag body))
      (incomplete : m.camera.isAt .previewStarted = false)
      (receivers : m'.receivers = m.receivers ++ [⟨m.tickets, tag, body⟩])
      (tickets : m'.tickets = m.tickets + 1) (trace : m'.trace = m.trace ++ [.requested m.tickets])
  | served {tag : τ} {body : List (CameraOp τ)} {e : CameraEvent τ}
      (op : op? = some (.capture tag body)) (complete : m.camera.isAt .previewStarted = true)
      (receivers : m'.receivers = m.receivers) (tickets : m'.tickets = m.tickets + 1)
      (trace : m'.trace = m.trace ++ [.requested m.tickets] ++ [e])
      (settles : Settles ⟨m.tickets, tag, body⟩ e work)
  | taken {r : Receiver τ} {e : CameraEvent τ} (complete : m.camera.isAt .previewStarted = true)
      (receivers : m.receivers = r :: m'.receivers) (tickets : m'.tickets = m.tickets)
      (trace : m'.trace = m.trace ++ [e]) (settles : Settles r e work)
  | cleared {op : CameraOp τ} (op? : op? = some op) (discards : m.Discards op)
      (clears : Clears m m')

theorem Settles.append {r : Receiver τ} {e : CameraEvent τ} (h : Settles r e work)
    (rest : List (CameraTask τ)) : Settles r e (work ++ rest) := by
  cases h with
  | delivered frame work => exact .delivered frame (work ++ rest)
  | failed cause work => exact .failed cause (work ++ rest)

theorem Settles.tells {r : Receiver τ} {e : CameraEvent τ} (h : Settles r e work) :
    requests [e] = [] ∧ settled [e] = [r.ticket] ∧ dropped [e] = [] := by
  cases h <;> exact ⟨rfl, rfl, rfl⟩

theorem Settles.ticket_eq {r : Receiver τ} {e : CameraEvent τ} (h : Settles r e work) {ticket : Nat}
    {taken : Bool} (outcome : e.outcome? = some (ticket, taken)) : r.ticket = ticket := by
  cases h <;> cases outcome <;> rfl

theorem aside_of_eq (receivers : m'.receivers = m.receivers) (tickets : m'.tickets = m.tickets)
    (trace : m'.trace = m.trace) : Aside m m' :=
  ⟨receivers, tickets, [], by rw [trace, List.append_nil], rfl, rfl, rfl⟩

theorem Aside.trans (h : Aside m m₁) (h' : Aside m₁ m') : Aside m m' := by
  obtain ⟨events, trace, silent⟩ := h.trace
  obtain ⟨events', trace', silent'⟩ := h'.trace
  refine ⟨h'.receivers.trans h.receivers, h'.tickets.trans h.tickets, events ++ events', ?_,
    silent.append silent'⟩
  rw [trace', trace, List.append_assoc]

theorem Clears.aside (h : Clears m m') (empty : m.receivers = []) : Aside m m' := by
  obtain ⟨m₁, receivers, tickets, trace, aside⟩ := h
  have cleared : Aside m m₁ := by
    refine ⟨receivers.trans empty.symm, tickets, _, trace, rfl, rfl, ?_⟩
    rw [waiting, empty]
    rfl
  exact cleared.trans aside

theorem Aside.withStack (h : Aside m m') (stack : List (CameraTask τ)) :
    Aside m { m' with stack } := ⟨h.receivers, h.tickets, h.trace⟩

theorem Handles.withStack (h : Handles m m' op? work) (stack : List (CameraTask τ)) :
    Handles m { m' with stack } op? work := by
  cases h with
  | aside aside => exact .aside (aside.withStack stack)
  | queued op incomplete receivers tickets trace =>
      exact .queued op incomplete receivers tickets trace
  | served op complete receivers tickets trace settles =>
      exact .served op complete receivers tickets trace settles
  | taken complete receivers tickets trace settles =>
      exact .taken complete receivers tickets trace settles
  | cleared op discards clears =>
      obtain ⟨m₁, receivers, tickets, trace, aside⟩ := clears
      exact .cleared op discards ⟨m₁, receivers, tickets, trace, aside.withStack stack⟩

/-! ### Parts of a move -/

theorem receivers_congr (same : m'.camera.gate.pending = m.camera.gate.pending) :
    m'.receivers = m.receivers := by rw [receivers, same, receivers]

@[simp] theorem tickets_fail (m : CameraMachine τ) (cause : Failure) (ticket : Option Nat) :
    (m.fail cause ticket).machine.tickets = m.tickets := by
  unfold fail
  dsimp only
  split <;> rfl

theorem aside_fail (m : CameraMachine τ) (cause : Failure) : Aside m (m.fail cause).machine := by
  refine ⟨receivers_congr ?_, tickets_fail m cause none, _, trace_fail m cause none, rfl, rfl, rfl⟩
  rw [camera_fail]

theorem aside_withCamera (m : CameraMachine τ) {camera : GatedCamera (Receiver τ)}
    (gate : camera.gate = m.camera.gate) : Aside m (m.withCamera camera) :=
  aside_of_eq (receivers_congr (congrArg Gate.pending gate)) rfl rfl

theorem aside_reach (m : CameraMachine τ) (stage : CameraStage) :
    Aside m (m.reach stage).machine := by
  cases completed : m.camera.gate.complete? stage with
  | none =>
      simp only [reach, completed]
      exact aside_fail m _
  | some result =>
      obtain ⟨gate, first⟩ := result
      simp only [reach, completed]
      exact aside_of_eq (receivers_congr (Gate.flags_of_complete? completed).2.1) rfl rfl

theorem aside_run (m : CameraMachine τ) (other : action.receiver? = none) :
    Aside m (m.run action).machine := by
  cases action with
  | linkSurface surface =>
      have gate := gate_startPreview m.camera surface
      cases started : m.camera.startPreview surface with
      | mk result camera =>
          rw [started] at gate
          have before : Aside m (m.withCamera camera) := aside_withCamera m gate
          simp only [run, started]
          cases result with
          | ok _ => exact before.trans (aside_reach _ _)
          | error cause => exact before.trans (aside_fail _ _)
  | applyRotation rotation =>
      have gate := gate_applyRotation m.camera rotation
      cases applied : m.camera.applyRotation rotation with
      | mk result camera =>
          rw [applied] at gate
          have before : Aside m (m.withCamera camera) := aside_withCamera m gate
          simp only [run, applied]
          cases result with
          | ok _ => exact before
          | error cause => exact before.trans (aside_fail _ _)
  | takePicture receiver => cases other

theorem run_takePicture (m : CameraMachine τ) (r : Receiver τ) :
    (m.run (.takePicture r)).machine.receivers = m.receivers ∧
      (m.run (.takePicture r)).machine.tickets = m.tickets ∧
      ∃ e, (m.run (.takePicture r)).machine.trace = m.trace ++ [e] ∧
        Settles r e (m.run (.takePicture r)).work := by
  have gate := gate_takePicture m.camera
  cases taken : m.camera.takePicture with
  | mk result camera =>
      rw [taken] at gate
      have same : camera.gate.pending = m.camera.gate.pending := congrArg Gate.pending gate
      simp only [run, taken]
      cases result with
      | ok frame => exact ⟨receivers_congr same, rfl, _, rfl, .delivered frame []⟩
      | error cause =>
          refine ⟨receivers_congr ?_, tickets_fail _ _ _, _, trace_fail _ _ _, .failed cause _⟩
          rw [camera_fail]
          exact same

theorem receivers_queued {gate : Gate CameraStage (CameraAction (Receiver τ))}
    (queued : Gate.Queued m.camera.gate action.stage action gate) :
    (m.withGate gate).receivers = m.receivers ++ action.receiver?.toList := by
  rw [receivers, receivers]
  show (gate.pending .previewStarted).filterMap CameraAction.receiver? = _
  rw [queued.queues]
  cases action with
  | linkSurface surface =>
      rw [CameraAction.stage, Function.update_of_ne (by decide)]
      exact (List.append_nil _).symm
  | applyRotation rotation =>
      rw [CameraAction.stage, Function.update_self, List.filterMap_append]
      rfl
  | takePicture receiver =>
      rw [CameraAction.stage, Function.update_self, List.filterMap_append]
      rfl

theorem aside_offer? (h : m.offer? action = some move) (other : action.receiver? = none) :
    Aside m move.machine := by
  unfold offer? at h
  split at h
  · cases h
  next gate due offered =>
    obtain rfl := Option.some.inj h
    cases due with
    | true =>
        obtain ⟨rfl, _⟩ := Gate.offer?_due_iff.mp offered
        exact aside_run (m.withGate m.camera.gate) other
    | false =>
        refine aside_of_eq ?_ rfl rfl
        have queued := receivers_queued (Gate.queued_of_offer? offered)
        rwa [other, Option.toList_none, List.append_nil] at queued

theorem aside_submit (m : CameraMachine τ) (other : action.receiver? = none) :
    Aside m (m.submit action).machine := by
  cases offered : m.offer? action with
  | none =>
      simp only [submit, offered]
      exact aside_of_eq rfl rfl rfl
  | some move =>
      simp only [submit, offered]
      exact aside_offer? offered other

/-! ### Operations -/

theorem clears_release (agreed : m.camera.Agreed) : Clears m m.release := by
  refine ⟨m.release, ?_, rfl, ?_, aside_of_eq rfl rfl rfl⟩
  · show (m.camera.gate.reset.pending .previewStarted).filterMap _ = []
    rw [Gate.pending_reset]
    rfl
  · rw [← ticketsOf_waiting agreed]
    rfl

/-- Opening leaves the requests alone, or it fails and all of them are discarded. -/
theorem handles_openSelected (m : CameraMachine τ) (agreed : m.camera.Agreed) :
    Aside m m.openSelected.1.machine ∨
      (∃ cause, m.openSelected.2 = .error cause) ∧ Clears m m.openSelected.1.machine := by
  unfold openSelected
  split
  · exact .inl (aside_of_eq rfl rfl rfl)
  · have gate := gate_openSelected m.camera
    split
    next capabilities camera opened =>
      rw [opened] at gate
      exact .inl ((aside_withCamera m gate).trans (aside_reach _ _))
    next cause camera failed =>
      rw [failed] at gate
      refine .inr ⟨⟨cause, rfl⟩, (m.withCamera { camera with gate := camera.gate.reset }).log
        [.discarded (ticketsOf camera.waiting)], ?_, rfl, ?_, aside_fail _ _⟩
      · show (camera.gate.reset.pending .previewStarted).filterMap _ = []
        rw [Gate.pending_reset]
        rfl
      · have same : camera.waiting = m.camera.waiting := by
          rw [GatedCamera.waiting, gate, GatedCamera.waiting]
        rw [same, ticketsOf_waiting agreed]
        rfl

theorem clears_flip (m : CameraMachine τ) (agreed : m.camera.Agreed) :
    Clears m m.flip.machine := by
  obtain ⟨m₁, receivers, tickets, trace, released⟩ := clears_release agreed
  have selected : Aside m₁ (m.release.select m.camera.facing.flipped) :=
    released.trans (aside_of_eq rfl rfl rfl)
  have before : (m.release.select m.camera.facing.flipped).camera.Agreed :=
    ((moves_release m).follows.trans (moves_select _ _).follows).agreed agreed
  have empty := selected.receivers.trans receivers
  have after : Aside m₁ (m.release.select m.camera.facing.flipped).openSelected.1.machine := by
    rcases handles_openSelected _ before with aside | ⟨_, clears⟩
    · exact selected.trans aside
    · exact selected.trans (clears.aside empty)
  refine ⟨m₁, receivers, tickets, trace, ?_⟩
  unfold flip
  split
  next opened =>
    rw [opened] at after
    exact after
  next failed =>
    rw [failed] at after
    exact after

theorem capture_queued (agreed : m.camera.Agreed)
    (incomplete : m.camera.isAt .previewStarted = false) (tag : τ) (body : List (CameraOp τ)) :
    (m.start (.capture tag body)).machine.receivers = m.receivers ++ [⟨m.tickets, tag, body⟩] ∧
      (m.start (.capture tag body)).machine.tickets = m.tickets + 1 ∧
      (m.start (.capture tag body)).machine.trace = m.trace ++ [.requested m.tickets] := by
  let requested := { m with tickets := m.tickets + 1 }.log [.requested m.tickets]
  let action : CameraAction (Receiver τ) := .takePicture ⟨m.tickets, tag, body⟩
  have started : (m.start (.capture tag body)).toCameraMove =
      (requested.submit action).toCameraMove := rfl
  have declared : CameraStage.previewStarted ∈ m.camera.gate.stages := by
    rw [agreed.stages]
    decide
  obtain ⟨gate, offered, queued⟩ := Gate.exists_queued declared incomplete action
  have submitted : (requested.submit action).toCameraMove =
      { machine := requested.withGate gate } := submit_queued offered
  have receivers : (requested.withGate gate).receivers =
      requested.receivers ++ action.receiver?.toList := receivers_queued queued
  rw [started, submitted]
  exact ⟨receivers, rfl, rfl⟩

theorem capture_served (complete : m.camera.isAt .previewStarted = true) (tag : τ)
    (body : List (CameraOp τ)) :
    (m.start (.capture tag body)).machine.receivers = m.receivers ∧
      (m.start (.capture tag body)).machine.tickets = m.tickets + 1 ∧
      ∃ e, (m.start (.capture tag body)).machine.trace = m.trace ++ [.requested m.tickets] ++ [e] ∧
        Settles ⟨m.tickets, tag, body⟩ e (m.start (.capture tag body)).work := by
  let requested := { m with tickets := m.tickets + 1 }.log [.requested m.tickets]
  let action : CameraAction (Receiver τ) := .takePicture ⟨m.tickets, tag, body⟩
  have started : (m.start (.capture tag body)).toCameraMove =
      (requested.submit action).toCameraMove := rfl
  have submitted : (requested.submit action).toCameraMove = requested.run action :=
    submit_due complete
  rw [started, submitted]
  exact run_takePicture requested ⟨m.tickets, tag, body⟩

theorem handles_capture (m : CameraMachine τ) (agreed : m.camera.Agreed) (tag : τ)
    (body : List (CameraOp τ)) :
    Handles m (m.start (.capture tag body)).machine (some (.capture tag body))
      (m.start (.capture tag body)).work := by
  cases complete : m.camera.isAt .previewStarted with
  | true =>
      obtain ⟨receivers, tickets, e, trace, settles⟩ := capture_served complete tag body
      exact .served rfl complete receivers tickets trace settles
  | false =>
      obtain ⟨receivers, tickets, trace⟩ := capture_queued agreed complete tag body
      exact .queued rfl complete receivers tickets trace

theorem handles_start (m : CameraMachine τ) (agreed : m.camera.Agreed) (op : CameraOp τ) :
    Handles m (m.start op).machine (some op) (m.start op).work := by
  cases op with
  | openCamera =>
      rcases handles_openSelected m agreed with aside | ⟨⟨cause, failed⟩, clears⟩
      · exact .aside aside
      · refine .cleared rfl ⟨cause, ?_⟩ clears
        simp only [start, failed]
        rfl
  | linkSurface surface => exact .aside (aside_submit m rfl)
  | setScreenRotation degrees =>
      simp only [start]
      split
      · exact .aside (aside_of_eq rfl rfl rfl)
      · exact .aside (aside_submit m rfl)
  | capture tag body => exact handles_capture m agreed tag body
  | release => exact .cleared rfl trivial (clears_release agreed)
  | flip => exact .cleared rfl trivial (clears_flip m agreed)
  | describe => exact .aside (aside_of_eq rfl rfl rfl)

/-! ### From one moment to the next -/

/-- No task is to hand a request to the gate. -/
def Unrequested (tasks : List (CameraTask τ)) : Prop := ∀ r, .offer (.takePicture r) ∉ tasks

theorem Unrequested.append {tasks rest : List (CameraTask τ)} (h : Unrequested tasks)
    (h' : Unrequested rest) : Unrequested (tasks ++ rest) := fun r mem =>
  (List.mem_append.mp mem).elim (h r) (h' r)

theorem unrequested_nil : Unrequested ([] : List (CameraTask τ)) := fun _ => List.not_mem_nil

theorem unrequested_of_onward {tasks : List (CameraTask τ)} (onward : ∀ t ∈ tasks, Onward t) :
    Unrequested tasks := fun r mem => by cases onward _ mem

theorem unrequested_flip (m : CameraMachine τ) : Unrequested m.flip.work := by
  have opens :=
    unrequested_of_onward (onward_openSelected (m.release.select m.camera.facing.flipped))
  unfold flip
  split
  next opened =>
    rw [opened] at opens
    refine (opens.append fun r mem => ?_).append (by simp [Unrequested])
    obtain ⟨_, _, same⟩ := List.mem_map.mp mem
    cases same
  next failed =>
    rw [failed] at opens
    exact opens.append (by simp [Unrequested])

theorem unrequested_start (m : CameraMachine τ) (op : CameraOp τ) :
    Unrequested (m.start op).work := by
  by_cases flips : op = .flip
  · subst flips
    exact unrequested_flip m
  · exact unrequested_of_onward (onward_start m flips)

theorem Works.unrequested {task : CameraTask τ} {kept : List (CameraTask τ)}
    (h : Works m task op? move kept) : Unrequested (move.work ++ kept) := by
  cases h with
  | ended | reported | emptied | missing | reselected => exact unrequested_nil
  | performed origin op ops => exact (unrequested_start m op).append (by simp [Unrequested])
  | taken taken =>
      obtain ⟨_, _, outcome⟩ := outcome_take taken
      exact (unrequested_of_onward outcome.onward).append (by simp [Unrequested])
  | offered offered =>
      obtain ⟨_, _, outcome⟩ := outcome_offer? offered
      exact (unrequested_of_onward outcome.onward).append unrequested_nil

theorem Reached.unrequested (h : Reached m) : Unrequested m.stack := by
  induction h with
  | fresh => exact unrequested_nil
  | enter op _ _ ih => exact (unrequested_start _ op).append ih
  | step _ stepped ih =>
      obtain ⟨task, _, move, kept, rest, stack, works, rfl⟩ := step_inv stepped
      rw [stack] at ih
      rw [← List.append_assoc]
      exact works.unrequested.append fun r mem => ih r (List.mem_cons_of_mem task mem)

theorem receivers_popped {gate : Gate CameraStage (CameraAction (Receiver τ))}
    (popped : Gate.Popped m.camera.gate action.stage action gate) :
    m.receivers = action.receiver?.toList ++ (m.withGate gate).receivers := by
  show (m.camera.gate.pending .previewStarted).filterMap _ = _
  cases action with
  | linkSurface surface =>
      have other : CameraStage.previewStarted ≠ .initialized := by decide
      rw [← popped.others .previewStarted other]
      rfl
  | applyRotation rotation =>
      rw [show m.camera.gate.pending .previewStarted = _ from popped.head]
      rfl
  | takePicture r =>
      rw [show m.camera.gate.pending .previewStarted = _ from popped.head]
      rfl

theorem handles_taken (agreed : m.camera.Agreed) {stage : CameraStage} {cycle : UInt64}
    {gate : Gate CameraStage (CameraAction (Receiver τ))}
    (taken : m.camera.gate.take? stage cycle = some (action, gate)) :
    Handles m ((m.withGate gate).run action).machine none ((m.withGate gate).run action).work := by
  obtain ⟨rfl, popped⟩ := popped_of_taken agreed taken
  have receivers := receivers_popped popped
  cases action with
  | linkSurface surface =>
      have before : Aside m (m.withGate gate) := aside_of_eq receivers.symm rfl rfl
      exact .aside (before.trans (aside_run _ rfl))
  | applyRotation rotation =>
      have before : Aside m (m.withGate gate) := aside_of_eq receivers.symm rfl rfl
      exact .aside (before.trans (aside_run _ rfl))
  | takePicture r =>
      obtain ⟨left, tickets, e, trace, settles⟩ := run_takePicture (m.withGate gate) r
      refine .taken popped.complete ?_ tickets trace settles
      rw [receivers, left]
      rfl

theorem Works.handles {task : CameraTask τ} {kept : List (CameraTask τ)}
    (h : Works m task op? move kept) (agreed : m.camera.Agreed)
    (unrequested : Unrequested [task]) : Handles m move.machine op? move.work := by
  cases h with
  | ended | emptied | missing | reselected => exact .aside (aside_of_eq rfl rfl rfl)
  | performed origin op ops => exact handles_start m agreed op
  | reported => exact .aside ⟨rfl, rfl, _, rfl, rfl, rfl, rfl⟩
  | taken taken => exact handles_taken agreed taken
  | @offered action _ offered =>
      refine .aside (aside_offer? offered ?_)
      cases action with
      | linkSurface | applyRotation => rfl
      | takePicture r => exact absurd List.mem_cons_self (unrequested r)

/-- Every moment handles the requests in one of the ways that there are. -/
theorem Next.handles (h : Next m op? m') (reached : Reached m) :
    ∃ work rest, m'.stack = work ++ rest ∧ Handles m m' op? work := by
  cases h with
  | enter op idle => exact ⟨_, _, rfl, (handles_start m reached.agreed op).withStack _⟩
  | step stepped =>
      obtain ⟨task, op?, move, kept, rest, stack, works, rfl⟩ := step_inv stepped
      rw [works.next?_eq stack]
      refine ⟨_, _, rfl, (works.handles reached.agreed fun r mem => ?_).withStack _⟩
      apply reached.unrequested r
      rw [stack, List.mem_singleton.mp mem]
      exact List.mem_cons_self

end CameraMachine

end CaptureFlow
