import CaptureFlow.Proofs.Camera.Agreement
/-! # Runs of a camera

A run enters operations from the outside, one after the other, and each time performs all the
steps that the operation sets off, the reactions of receivers and of the listener among them.
`Reached m` says that a machine over a simulated device is at `m` at some moment of a run.

Every operation and every step goes by whole moves of the camera (`Follows`), each told of in the
trace.  So what every move keeps holds at every moment (`Reached.invariant`), and camera and gate
always agree (`Reached.agreed`). -/

namespace CaptureFlow.CameraMachine

variable {τ : Type}

/-! ### Moves of a machine -/

/-- `m'` comes from `m` by moves of the camera, of which the trace tells. -/
inductive Follows (m : CameraMachine τ) : CameraMachine τ → Prop
  | same {m' : CameraMachine τ} (camera : m'.camera = m.camera) (trace : m'.trace = m.trace) :
      Follows m m'
  | move {m₁ m' : CameraMachine τ} {events : List (CameraEvent τ)} (follows : Follows m m₁)
      (moved : m₁.camera.Moved m'.camera events) (trace : m'.trace = m₁.trace ++ events) :
      Follows m m'

/-- `m'` comes from `m` by a single move. -/
def Moves (m m' : CameraMachine τ) : Prop :=
  ∃ events, m.camera.Moved m'.camera events ∧ m'.trace = m.trace ++ events

theorem Moves.follows {m m' : CameraMachine τ} (h : Moves m m') : Follows m m' := by
  obtain ⟨events, moved, trace⟩ := h
  exact .move (.same rfl rfl) moved trace

theorem Follows.trans {m m₁ m₂ : CameraMachine τ} (h : Follows m m₁) (h' : Follows m₁ m₂) :
    Follows m m₂ := by
  induction h' with
  | @same m₂ camera trace =>
      cases h with
      | same camera' trace' => exact .same (camera.trans camera') (trace.trans trace')
      | move follows moved trace' => exact .move follows (camera ▸ moved) (trace.trans trace')
  | move _ moved trace ih => exact .move ih moved trace

theorem Follows.congr {m m₁ m₂ : CameraMachine τ} (h : Follows m m₁)
    (camera : m₂.camera = m₁.camera) (trace : m₂.trace = m₁.trace) : Follows m m₂ :=
  h.trans (.same camera trace)

theorem Follows.agreed {m m' : CameraMachine τ} (h : Follows m m') (agreed : m.camera.Agreed) :
    m'.camera.Agreed := by
  induction h with
  | same camera => exact camera ▸ agreed
  | move _ moved _ ih => exact (moved.agreed ih).1

/-! ### Parts of an operation -/

@[simp] theorem camera_fail (m : CameraMachine τ) (cause : Failure) (ticket : Option Nat) :
    (m.fail cause ticket).machine.camera = m.camera := by
  unfold fail
  dsimp only
  split <;> rfl

@[simp] theorem trace_fail (m : CameraMachine τ) (cause : Failure) (ticket : Option Nat) :
    (m.fail cause ticket).machine.trace = m.trace ++ [.failed cause ticket] := by
  unfold fail
  dsimp only
  split <;> rfl

theorem moves_fail {m m₁ : CameraMachine τ} {cause : Failure} {ticket : Option Nat}
    (moved : m.camera.Moved m₁.camera [.failed cause ticket]) (same : m₁.trace = m.trace) :
    Moves m (m₁.fail cause ticket).machine := by
  refine ⟨[.failed cause ticket], ?_, ?_⟩
  · rw [camera_fail]
    exact moved
  · rw [trace_fail, same]

/-- A declared stage can be completed. -/
theorem reach_eq (m : CameraMachine τ) (stages : m.camera.gate.stages = CameraStage.all)
    (stage : CameraStage) : ∃ gate first, m.camera.gate.complete? stage = some (gate, first) ∧
      (m.reach stage).machine = m.withGate gate := by
  cases completed : m.camera.gate.complete? stage with
  | none =>
      exfalso
      apply Gate.complete?_eq_none_iff.mp completed
      rw [stages]
      cases stage <;> decide
  | some result =>
      obtain ⟨gate, first⟩ := result
      exact ⟨gate, first, rfl, by simp only [reach, completed]⟩

theorem moves_run {m : CameraMachine τ} (m₁ : CameraMachine τ)
    {action : CameraAction (Receiver τ)} (due : m.camera.Due action m₁.camera)
    (same : m₁.trace = m.trace) (agreed : m.camera.Agreed) : Moves m (m₁.run action).machine := by
  have stages := (due.agreed agreed).1.stages
  cases action with
  | linkSurface surface =>
      have gate := gate_startPreview m₁.camera surface
      cases started : m₁.camera.startPreview surface with
      | mk result camera =>
          rw [started] at gate
          simp only [run, started]
          cases result with
          | ok _ =>
              obtain ⟨gate', first, completed, after⟩ :=
                reach_eq (m₁.withCamera camera) (gate ▸ stages) .previewStarted
              refine ⟨[], ?_, ?_⟩
              · rw [after]
                exact .linked due started completed
              · rw [after, List.append_nil]
                exact same
          | error cause => exact moves_fail (.notLinked due started) same
  | applyRotation rotation =>
      cases applied : m₁.camera.applyRotation rotation with
      | mk result camera =>
          simp only [run, applied]
          cases result with
          | ok _ => exact ⟨[], .turned due applied, by rw [List.append_nil]; exact same⟩
          | error cause => exact moves_fail (.notTurned due applied) same
  | takePicture receiver =>
      cases taken : m₁.camera.takePicture with
      | mk result camera =>
          simp only [run, taken]
          cases result with
          | ok frame =>
              refine ⟨[.delivered receiver.ticket receiver.tag frame], .pictured due taken, ?_⟩
              rw [← same]
              rfl
          | error cause => exact moves_fail (.notPictured due taken) same

theorem moves_offer? {m : CameraMachine τ} {action : CameraAction (Receiver τ)}
    {move : CameraMove τ} (h : m.offer? action = some move) (agreed : m.camera.Agreed) :
    Moves m move.machine := by
  unfold offer? at h
  split at h
  · cases h
  next gate due offered =>
    obtain rfl := Option.some.inj h
    cases due with
    | true =>
        obtain ⟨rfl, complete⟩ := Gate.offer?_due_iff.mp offered
        exact moves_run (m.withGate m.camera.gate) (.offered complete) rfl agreed
    | false =>
        refine ⟨[], .queued (Gate.queued_of_offer? offered), ?_⟩
        rw [List.append_nil]
        rfl

theorem moves_release (m : CameraMachine τ) : Moves m m.release :=
  ⟨[.discarded (ticketsOf m.camera.waiting)], .released, rfl⟩

theorem moves_select (m : CameraMachine τ) (facing : Facing) : Moves m (m.select facing) :=
  ⟨[], .selected facing, (List.append_nil _).symm⟩

/-- Opening an open camera changes nothing. -/
theorem openSelected_of_open {m : CameraMachine τ} (agreed : m.camera.Agreed)
    (initialized : m.camera.isAt .initialized = true) :
    ∃ capabilities, m.openSelected = ({ machine := m }, .ok capabilities) := by
  obtain ⟨size, known⟩ := Option.isSome_iff_exists.mp (agreed.known initialized).2
  refine ⟨⟨m.camera.device.spec.count, size⟩, ?_⟩
  have capable : m.camera.capabilities? = some ⟨m.camera.device.spec.count, size⟩ := by
    simp [GatedCamera.capabilities?, known]
  simp only [openSelected, initialized, if_true, capable]

theorem follows_openSelected (m : CameraMachine τ) (agreed : m.camera.Agreed) :
    Follows m m.openSelected.1.machine ∧
      ∀ cause, m.openSelected.2 = .error cause → cause.isMisuse = false := by
  cases initialized : m.camera.isAt .initialized with
  | true =>
      obtain ⟨capabilities, same⟩ := openSelected_of_open agreed initialized
      rw [same]
      exact ⟨.same rfl rfl, fun _ failed => by cases failed⟩
  | false =>
      have gate := gate_openSelected m.camera
      cases opened : m.camera.openSelected with
      | mk result camera =>
          rw [opened] at gate
          simp only [openSelected, initialized, opened, Bool.false_eq_true, if_false]
          cases result with
          | ok capabilities =>
              obtain ⟨gate', first, completed, after⟩ :=
                reach_eq (m.withCamera camera) (gate ▸ agreed.stages) .initialized
              refine ⟨Moves.follows ⟨[], ?_, ?_⟩, fun _ failed => by cases failed⟩
              · dsimp only
                rw [after]
                exact .opened initialized opened completed
              · dsimp only
                rw [after, List.append_nil]
                rfl
          | error cause =>
              refine ⟨Moves.follows ⟨[.discarded (ticketsOf camera.waiting), .failed cause none],
                ?_, ?_⟩, fun cause' same => ?_⟩
              · dsimp only
                rw [camera_fail]
                exact .notOpened initialized opened
              · dsimp only
                rw [trace_fail]
                exact List.append_assoc _ _ _
              · obtain rfl := Except.error.inj same
                exact (agreed.fails_to_open initialized opened).2

theorem follows_flip (m : CameraMachine τ) (agreed : m.camera.Agreed) :
    Follows m m.flip.machine ∧
      ∀ cause, m.flip.answer = .error cause → cause.isMisuse = false := by
  have before : Follows m (m.release.select m.camera.facing.flipped) :=
    (moves_release m).follows.trans (moves_select _ _).follows
  obtain ⟨follows, proper⟩ := follows_openSelected _ (before.agreed agreed)
  cases opened : (m.release.select m.camera.facing.flipped).openSelected with
  | mk opening result =>
      rw [opened] at follows proper
      simp only [flip, opened]
      cases result with
      | ok capabilities => exact ⟨before.trans follows, fun _ failed => by cases failed⟩
      | error cause =>
          refine ⟨before.trans follows, fun cause' same => ?_⟩
          obtain rfl := Except.error.inj same
          exact proper cause rfl

theorem follows_submit (m : CameraMachine τ) (action : CameraAction (Receiver τ))
    (agreed : m.camera.Agreed) :
    Follows m (m.submit action).machine ∧
      ∀ cause, (m.submit action).answer = .error cause → cause.isMisuse = false := by
  cases offered : m.offer? action with
  | none =>
      simp only [submit, offered]
      refine ⟨.same rfl rfl, fun cause same => ?_⟩
      obtain rfl := Except.error.inj same
      rfl
  | some move =>
      simp only [submit, offered]
      exact ⟨(moves_offer? offered agreed).follows, fun _ failed => by cases failed⟩

/-- The first moves of an operation, and what it may answer. -/
theorem follows_start (m : CameraMachine τ) (op : CameraOp τ) (agreed : m.camera.Agreed) :
    Follows m (m.start op).machine ∧
      ∀ cause, (m.start op).answer = .error cause → cause.isMisuse = false := by
  cases op with
  | openCamera =>
      obtain ⟨follows, proper⟩ := follows_openSelected m agreed
      refine ⟨follows, fun cause failed => proper cause ?_⟩
      cases result : m.openSelected.2 with
      | error cause' =>
          simp only [start, result] at failed
          exact congrArg Except.error (Except.error.inj failed)
      | ok capabilities =>
          simp only [start, result] at failed
          cases failed
  | linkSurface surface => exact follows_submit m (.linkSurface surface) agreed
  | setScreenRotation degrees =>
      simp only [start]
      split
      next cause refused =>
        refine ⟨.same rfl rfl, fun cause' same => ?_⟩
        obtain rfl := Except.error.inj same
        unfold ScreenRotation.read at refused
        split at refused
        · cases refused
        · obtain rfl := Except.error.inj refused
          rfl
      next rotation _ => exact follows_submit m (.applyRotation rotation) agreed
  | capture tag body =>
      have requested : Moves m ({ m with tickets := m.tickets + 1 }.log [.requested m.tickets]) :=
        ⟨[.requested m.tickets], .requested m.tickets, rfl⟩
      obtain ⟨follows, proper⟩ := follows_submit
        ({ m with tickets := m.tickets + 1 }.log [.requested m.tickets])
        (.takePicture ⟨m.tickets, tag, body⟩) (requested.follows.agreed agreed)
      exact ⟨requested.follows.trans follows, proper⟩
  | release => exact ⟨(moves_release m).follows, fun _ failed => by cases failed⟩
  | flip => exact follows_flip m agreed
  | describe => exact ⟨.same rfl rfl, fun _ failed => by cases failed⟩

/-! ### Steps -/

/-- What one step makes of the task on top of the stack: the operation that it performs, if any, the
move that it comes to, and what is kept of the task. -/
inductive Works (m : CameraMachine τ) :
    CameraTask τ → Option (CameraOp τ) → CameraMove τ → List (CameraTask τ) → Prop
  | ended (origin : CameraOrigin τ) : Works m (.perform origin []) none { machine := m } []
  | performed (origin : CameraOrigin τ) (op : CameraOp τ) (ops : List (CameraOp τ)) :
      Works m (.perform origin (op :: ops)) (some op) (m.start op).toCameraMove
        [.report origin op (m.start op).answer, .perform origin ops]
  | reported (origin : CameraOrigin τ) (op : CameraOp τ) (answer : CameraAnswer) :
      Works m (.report origin op answer) none { machine := m.log [.answered origin op answer] } []
  | emptied {stage : CameraStage} {cycle : UInt64}
      (nothing : m.camera.gate.take? stage cycle = none) :
      Works m (.dispatch stage cycle) none { machine := m } []
  | taken {stage : CameraStage} {cycle : UInt64} {action : CameraAction (Receiver τ)}
      {gate : Gate CameraStage (CameraAction (Receiver τ))}
      (taken : m.camera.gate.take? stage cycle = some (action, gate)) :
      Works m (.dispatch stage cycle) none ((m.withGate gate).run action) [.dispatch stage cycle]
  | missing {action : CameraAction (Receiver τ)} (missing : m.offer? action = none) :
      Works m (.offer action) none { machine := m } []
  | offered {action : CameraAction (Receiver τ)} {move : CameraMove τ}
      (offered : m.offer? action = some move) : Works m (.offer action) none move []
  | reselected (facing : Facing) :
      Works m (.reselect facing) none { machine := m.select facing } []

/-- A step replaces the task on top of the stack by the work of a move and what is kept of it. -/
theorem step_inv {m m' : CameraMachine τ} (h : m.step = some m') :
    ∃ task op? move kept rest, m.stack = task :: rest ∧ Works m task op? move kept ∧
      m' = { move.machine with stack := move.work ++ (kept ++ rest) } := by
  unfold step at h
  split at h
  · cases h
  next origin rest stack =>
    obtain rfl := Option.some.inj h
    exact ⟨_, _, _, _, rest, stack, .ended origin, rfl⟩
  next origin op ops rest stack =>
    obtain rfl := Option.some.inj h
    exact ⟨_, _, _, _, rest, stack, .performed origin op ops, rfl⟩
  next origin op answer rest stack =>
    obtain rfl := Option.some.inj h
    exact ⟨_, _, _, _, rest, stack, .reported origin op answer, rfl⟩
  next stage cycle rest stack =>
    split at h
    next nothing =>
      obtain rfl := Option.some.inj h
      exact ⟨_, _, _, _, rest, stack, .emptied nothing, rfl⟩
    next action gate taken =>
      obtain rfl := Option.some.inj h
      refine ⟨_, _, _, _, rest, stack, .taken taken, ?_⟩
      rw [stack]
      rfl
  next action rest stack =>
    split at h
    next missing =>
      obtain rfl := Option.some.inj h
      exact ⟨_, _, _, _, rest, stack, .missing missing, rfl⟩
    next move offered =>
      obtain rfl := Option.some.inj h
      exact ⟨_, _, _, _, rest, stack, .offered offered, rfl⟩
  next facing rest stack =>
    obtain rfl := Option.some.inj h
    exact ⟨_, _, _, _, rest, stack, .reselected facing, rfl⟩

theorem popped_of_taken {m : CameraMachine τ} {stage : CameraStage} {cycle : UInt64}
    {action : CameraAction (Receiver τ)} {gate : Gate CameraStage (CameraAction (Receiver τ))}
    (agreed : m.camera.Agreed) (taken : m.camera.gate.take? stage cycle = some (action, gate)) :
    action.stage = stage ∧ Gate.Popped m.camera.gate action.stage action gate := by
  have popped := Gate.popped_of_take? taken
  obtain rfl : action.stage = stage := by
    apply agreed.queues stage action
    rw [popped.head]
    exact List.mem_cons_self
  exact ⟨rfl, popped⟩

theorem Works.follows {m : CameraMachine τ} {task : CameraTask τ} {op? : Option (CameraOp τ)}
    {move : CameraMove τ} {kept : List (CameraTask τ)} (h : Works m task op? move kept)
    (agreed : m.camera.Agreed) : Follows m move.machine := by
  cases h with
  | ended | emptied | missing => exact .same rfl rfl
  | performed origin op ops => exact (follows_start m op agreed).1
  | reported origin op answer =>
      exact Moves.follows ⟨[.answered origin op answer], .answered origin op answer, rfl⟩
  | @taken _ _ action gate taken =>
      obtain ⟨_, popped⟩ := popped_of_taken agreed taken
      exact (moves_run (m.withGate gate) (.taken popped) (m := m) rfl agreed).follows
  | offered offered => exact (moves_offer? offered agreed).follows
  | reselected facing => exact (moves_select m facing).follows

theorem follows_step {m m' : CameraMachine τ} (h : m.step = some m') (agreed : m.camera.Agreed) :
    Follows m m' := by
  obtain ⟨_, _, _, _, _, _, works, rfl⟩ := step_inv h
  exact (works.follows agreed).congr rfl rfl

/-! ### Runs -/

/-- The machine after the first moves of an operation from the outside. -/
def enter (m : CameraMachine τ) (op : CameraOp τ) : CameraMachine τ :=
  { (m.start op).machine with stack := (m.start op).work ++ m.stack }

theorem call_eq (m : CameraMachine τ) (op : CameraOp τ) :
    m.call op = ((m.start op).answer, (m.enter op).finish) := rfl

/-- The moments of all runs over a simulated device of any kind, any of whose calls may be refused,
with whatever the listener does at each failure. -/
inductive Reached : CameraMachine τ → Prop
  | fresh (spec : DeviceSpec) (refusals : DeviceRefusals) (reportedFacing : Option Facing)
      (facing : Facing) (plan : List (List (CameraOp τ))) :
      Reached (ofDevice { spec, refusals, reportedFacing } facing plan)
  | enter {m : CameraMachine τ} (op : CameraOp τ) (reached : Reached m) (idle : m.stack = []) :
      Reached (m.enter op)
  | step {m m' : CameraMachine τ} (reached : Reached m) (stepped : m.step = some m') : Reached m'

theorem Reached.agreed {m : CameraMachine τ} (h : Reached m) : m.camera.Agreed := by
  induction h with
  | fresh spec refusals reportedFacing facing plan =>
      exact GatedCamera.agreed_new _ rfl (Device.consistent_new spec refusals reportedFacing) facing
  | enter op _ _ ih => exact ((follows_start _ op ih).1.congr rfl rfl).agreed ih
  | step _ stepped ih => exact (follows_step stepped ih).agreed ih

/-- What is kept by every move, with the trace growing as the move tells, is kept by any number of
them. -/
theorem Follows.keeps {P : GatedCamera (Receiver τ) → List (CameraEvent τ) → Prop}
    (moved : ∀ c c' trace events, c.Agreed → c.Moved c' events → P c trace → P c' (trace ++ events))
    {m m' : CameraMachine τ} (h : Follows m m') (agreed : m.camera.Agreed)
    (holds : P m.camera m.trace) : P m'.camera m'.trace := by
  induction h with
  | same camera trace => rwa [camera, trace]
  | move follows move trace ih =>
      rw [trace]
      exact moved _ _ _ _ (follows.agreed agreed) move ih

/-- What holds of a fresh camera and is kept by every move, with the trace growing as the move
tells, holds at every moment. -/
theorem Reached.invariant {P : GatedCamera (Receiver τ) → List (CameraEvent τ) → Prop}
    (fresh : ∀ spec refusals reportedFacing facing,
      P { device := { spec, refusals, reportedFacing }, facing } [])
    (moved : ∀ c c' trace events, c.Agreed → c.Moved c' events → P c trace → P c' (trace ++ events))
    {m : CameraMachine τ} (h : Reached m) : P m.camera m.trace := by
  induction h with
  | fresh spec refusals reportedFacing facing plan =>
      exact fresh spec refusals reportedFacing facing
  | enter op reached _ ih =>
      exact ((follows_start _ op reached.agreed).1.congr rfl rfl).keeps moved reached.agreed ih
  | step reached stepped ih =>
      exact (follows_step stepped reached.agreed).keeps moved reached.agreed ih

/-- The machine after at most `n` steps. -/
def steps : Nat → CameraMachine τ → CameraMachine τ
  | 0, m => m
  | n + 1, m =>
    match m.step with
    | none => m
    | some m' => steps n m'

theorem Reached.steps {m : CameraMachine τ} (h : Reached m) (n : Nat) :
    Reached (CameraMachine.steps n m) := by
  induction n generalizing m with
  | zero => exact h
  | succ n ih =>
      rw [CameraMachine.steps]
      split
      · exact h
      next m' stepped => exact ih (h.step stepped)

theorem idle_of_step {m : CameraMachine τ} (h : m.step = none) : m.stack = [] := by
  unfold step at h
  split at h
  next idle => exact idle
  · cases h
  · cases h
  · cases h
  · split at h <;> cases h
  · split at h <;> cases h
  · cases h

theorem finish_of_step {m m' : CameraMachine τ} (h : m.step = some m') :
    m.finish = m'.finish := by
  rw [finish]
  split
  next stuck =>
    rw [stuck] at h
    cases h
  next m₁ stepped => rw [Option.some.inj (stepped.symm.trans h)]

theorem finish_of_stuck {m : CameraMachine τ} (h : m.step = none) : m.finish = m := by
  rw [finish]
  split
  · rfl
  next m₁ stepped =>
    rw [h] at stepped
    cases stepped

/-- What every step keeps holds when nothing is left to do. -/
theorem finish_induction {P : CameraMachine τ → Prop} {m : CameraMachine τ} (holds : P m)
    (step : ∀ m m', m.step = some m' → P m → P m') : P m.finish ∧ m.finish.stack = [] := by
  induction m using finish.induct with
  | case1 m stuck =>
      rw [finish_of_stuck stuck]
      exact ⟨holds, idle_of_step stuck⟩
  | case2 m m' stepped ih =>
      rw [finish_of_step stepped]
      exact ih (step m m' stepped holds)

theorem Reached.finish {m : CameraMachine τ} (h : Reached m) :
    Reached m.finish ∧ m.finish.stack = [] :=
  finish_induction h fun _ _ stepped reached => reached.step stepped

/-- Calls stay within the moments of a run, and leave nothing to do. -/
theorem Reached.call {m : CameraMachine τ} (h : Reached m) (idle : m.stack = [])
    (op : CameraOp τ) : Reached (m.call op).2 ∧ (m.call op).2.stack = [] := by
  rw [call_eq]
  exact (h.enter op idle).finish

/-- A call goes by whole moves from any camera that agrees with its gate, also one that has not been
reached from a fresh one, and leaves nothing to do. -/
theorem follows_call (m : CameraMachine τ) (op : CameraOp τ) (agreed : m.camera.Agreed) :
    Follows m (m.call op).2 ∧ (m.call op).2.stack = [] := by
  rw [call_eq]
  refine finish_induction ?_ fun m₁ m₂ stepped follows => ?_
  · exact (follows_start m op agreed).1.congr rfl rfl
  · exact follows.trans (follows_step stepped (follows.agreed agreed))

/-! ### From one moment to the next -/

/-- The operation that the next step performs, if it performs one. -/
def next? (m : CameraMachine τ) : Option (CameraOp τ) :=
  match m.stack with
  | .perform _ (op :: _) :: _ => some op
  | _ => none

/-- `m'` is the moment after `m`, and `op?` the operation performed between them, if there
is one. -/
inductive Next (m : CameraMachine τ) : Option (CameraOp τ) → CameraMachine τ → Prop
  | enter (op : CameraOp τ) (idle : m.stack = []) : Next m (some op) (m.enter op)
  | step {m' : CameraMachine τ} (stepped : m.step = some m') : Next m m.next? m'

theorem Works.next?_eq {m : CameraMachine τ} {task : CameraTask τ} {op? : Option (CameraOp τ)}
    {move : CameraMove τ} {kept rest : List (CameraTask τ)} (h : Works m task op? move kept)
    (stack : m.stack = task :: rest) : m.next? = op? := by
  cases h <;> simp only [next?, stack]

/-- What lies on the stack below the work of an operation: nothing if it comes from the outside, or
the reaction within which it is performed. -/
inductive Below (m : CameraMachine τ) (op : CameraOp τ) : List (CameraTask τ) → Prop
  | outside (idle : m.stack = []) : Below m op []
  | within {origin : CameraOrigin τ} {ops : List (CameraOp τ)} {rest : List (CameraTask τ)}
      (stack : m.stack = .perform origin (op :: ops) :: rest) :
      Below m op (.report origin op (m.start op).answer :: .perform origin ops :: rest)

theorem Next.performs {m m' : CameraMachine τ} {op : CameraOp τ} (h : Next m (some op) m') :
    ∃ rest, Below m op rest ∧
      m' = { (m.start op).machine with stack := (m.start op).work ++ rest } := by
  generalize performed : some op = op? at h
  cases h with
  | enter op' idle =>
      obtain rfl := Option.some.inj performed
      refine ⟨[], .outside idle, ?_⟩
      rw [CameraMachine.enter, idle]
  | step stepped =>
      obtain ⟨_, _, _, kept, rest, stack, works, rfl⟩ := step_inv stepped
      rw [works.next?_eq stack] at performed
      cases works with
      | performed origin op' ops =>
          obtain rfl := Option.some.inj performed
          exact ⟨_, .within stack, rfl⟩
      | _ => cases performed

/-! ### What a call sets off -/

section calls

variable {m : CameraMachine τ}

theorem finish_of_idle (idle : m.stack = []) : m.finish = m := by
  apply finish_of_stuck
  simp only [step, idle]

theorem call_of_start (m : CameraMachine τ) (op : CameraOp τ) {move : CameraMove τ}
    (started : (m.start op).toCameraMove = move) :
    (m.call op).2 = { move.machine with stack := move.work ++ m.stack }.finish := by
  subst started
  rfl

theorem call_of_quiet (m : CameraMachine τ) (op : CameraOp τ) {m₁ : CameraMachine τ}
    (started : (m.start op).toCameraMove = { machine := m₁ }) (idle : m.stack = [])
    (quiet : m₁.stack = []) : (m.call op).2 = m₁ := by
  have same : m₁ = { m₁ with stack := [] ++ m.stack } := by
    rw [idle, List.append_nil, ← quiet]
  rw [call_of_start m op started, ← same, finish_of_idle quiet]

theorem submit_queued {action : CameraAction (Receiver τ)}
    {gate : Gate CameraStage (CameraAction (Receiver τ))}
    (offered : m.camera.gate.offer? action.stage action = some (gate, false)) :
    (m.submit action).toCameraMove = { machine := m.withGate gate } := by
  simp only [submit, offer?, offered, Bool.false_eq_true, if_false]

theorem submit_due {action : CameraAction (Receiver τ)}
    (complete : m.camera.gate.isComplete action.stage = true) :
    (m.submit action).toCameraMove = m.run action := by
  have offered : m.camera.gate.offer? action.stage action = some (m.camera.gate, true) :=
    Gate.offer?_due_iff.mpr ⟨rfl, complete⟩
  simp only [submit, offer?, offered, if_true]
  rfl

theorem finish_dispatched {stage : CameraStage} {cycle : UInt64} {rest : List (CameraTask τ)}
    (stack : m.stack = .dispatch stage cycle :: rest) (empty : m.camera.gate.pending stage = []) :
    m.finish = { m with stack := rest }.finish := by
  apply finish_of_step
  simp only [step, stack, Gate.take?_of_settled cycle fun _ => empty]

theorem finish_dispatch {stage : CameraStage} {cycle : UInt64} {rest : List (CameraTask τ)}
    {action : CameraAction (Receiver τ)} {gate : Gate CameraStage (CameraAction (Receiver τ))}
    (stack : m.stack = .dispatch stage cycle :: rest)
    (taken : m.camera.gate.take? stage cycle = some (action, gate)) :
    m.finish = { ((m.withGate gate).run action).machine with
      stack := ((m.withGate gate).run action).work ++ m.stack }.finish := by
  apply finish_of_step
  simp only [step, stack, taken]

end calls

/-! ### The protocol is obeyed -/

/-- **Device protocol.**  At every moment of a run every call to the device has been in order, also
one that was refused or failed, and the device has failed only calls that a device of its kind
fails.  Neither the listener nor whoever operates the camera, from the outside or from within a
reaction, is ever told that the camera is open already, is not open or is not streaming. -/
theorem Reached.obeys_protocol {m : CameraMachine τ} (h : Reached m) :
    Lawful Permitted m.camera.device.exchanges ∧
    (∀ e ∈ m.camera.device.exchanges, e.outcome = .failed →
      m.camera.device.spec.fails e.call = true) ∧
    (∀ cause ticket, .failed cause ticket ∈ m.trace → cause.isMisuse = false) ∧
    ∀ op cause, (m.start op).answer = .error cause → cause.isMisuse = false := by
  refine ⟨h.agreed.device.lawful, h.agreed.device.failures, ?_, ?_⟩
  · refine h.invariant
      (P := fun _ trace => ∀ cause ticket, .failed cause ticket ∈ trace → cause.isMisuse = false)
      ?_ ?_
    · intro _ _ _ _ cause ticket mem
      cases mem
    · intro c c' trace events agreed moved proper cause ticket mem
      rcases List.mem_append.mp mem with mem | mem
      · exact proper cause ticket mem
      · exact (moved.agreed agreed).2 cause ticket mem
  · intro op
    exact (follows_start m op h.agreed).2

/-- A camera whose second opening is refused, with a listener that opens it again; the receiver of
the first picture releases the camera and flips it. -/
def reentrant : CameraMachine Unit :=
  (((ofDevice { refusals := { openCamera := { refused := [1] } } } .back [[.openCamera]]).enter
    (.capture () [.release, .flip])).enter (.linkSurface 7)).enter .openCamera

theorem obeys_protocol_reentrant : ∃ m : CameraMachine Unit, Reached m ∧
    m.camera.device.exchanges =
      [⟨.openCamera .back, .done⟩, ⟨.startPreview ⟨1920, 1080⟩ 7, .done⟩, ⟨.takePicture, .done⟩,
        ⟨.stop, .done⟩, ⟨.openCamera .front, .refused⟩, ⟨.openCamera .front, .done⟩] ∧
    Lawful Permitted m.camera.device.exchanges := by
  have entered : Reached reentrant := .enter _ (.enter _ (.enter _ (.fresh ..) rfl) rfl) rfl
  have reached := entered.steps 30
  exact ⟨_, reached, rfl, reached.obeys_protocol.1⟩

end CaptureFlow.CameraMachine
