import CaptureFlow.Camera.Gated
import CaptureFlow.Geometry.Reading
/-! # Programs on a gated camera

Whoever receives a picture, and whoever is told of a failure, may operate the camera from there, so
operations nest to any depth.  A `CameraOp` is an operation together with all that the receiver of
its picture will do, and the `plan` of a `CameraMachine` lists what will be done at each failure.
The machine performs operations one small step at a time: its `stack` holds what is still to be
done, the innermost task first, and its `trace` what has happened.

* `step` performs one step, or gives `none` when nothing is left to do.
* `finish` performs all steps.  It ends because every step lowers `CameraMachine.weight`, which
  counts the operations and reactions that have not been started yet (`weight_step`).
* `call` is one operation from the outside: its answer, and the machine when all that it set off
  is done.

The answer of an operation is settled by its first moves.  What the gate lets through afterwards
cannot change it: a failure there is told to the listener only. -/

namespace CaptureFlow

/-! ### Operations -/

/-- An operation on a camera.  The rotation of a screen comes in degrees and has to be a right
angle; `body` is what the receiver of the picture, known by its `tag`, will do. -/
inductive CameraOp (τ : Type) where
  | openCamera
  | linkSurface (surface : UInt64)
  | setScreenRotation (degrees : UInt16)
  | capture (tag : τ) (body : List (CameraOp τ))
  | release
  | flip
  | describe

inductive CameraReply where
  | done
  | capabilities (c : Capabilities)
  | flipped (facing : Facing) (c : Capabilities)
  | text (s : String)
deriving DecidableEq, Repr

abbrev CameraAnswer := Except Failure CameraReply

structure Receiver (τ : Type) where
  ticket : Nat
  tag : τ
  body : List (CameraOp τ)

/-- Where an operation is performed from, unless it comes from the outside. -/
inductive CameraOrigin (τ : Type) where
  | receiver (tag : τ)
  | listener
deriving DecidableEq, Repr

/-- What happens around a camera. -/
inductive CameraEvent (τ : Type) where
  | requested (ticket : Nat)
  | delivered (ticket : Nat) (tag : τ) (frame : Frame)
  | failed (cause : Failure) (ticket : Option Nat)
  | discarded (tickets : List Nat)
  | answered (origin : CameraOrigin τ) (op : CameraOp τ) (answer : CameraAnswer)

/-- What is still to be done: the rest of a reaction, reporting an answer to it, running the queue
of a stage, handing an action to the gate, or going back to the camera selected before. -/
inductive CameraTask (τ : Type) where
  | perform (origin : CameraOrigin τ) (ops : List (CameraOp τ))
  | report (origin : CameraOrigin τ) (op : CameraOp τ) (answer : CameraAnswer)
  | dispatch (stage : CameraStage) (cycle : UInt64)
  | offer (action : CameraAction (Receiver τ))
  | reselect (facing : Facing)

/-- A camera at work. -/
structure CameraMachine (τ : Type) where
  camera : GatedCamera (Receiver τ)
  plan : List (List (CameraOp τ)) := []
  tickets : Nat := 0
  stack : List (CameraTask τ) := []
  trace : List (CameraEvent τ) := []

/-- The machine after some moves, and the tasks that follow from them. -/
structure CameraMove (τ : Type) where
  machine : CameraMachine τ
  work : List (CameraTask τ) := []

/-- The first moves of an operation, and the answer that it will give when all of its work is
done. -/
structure CameraStart (τ : Type) extends CameraMove τ where
  answer : CameraAnswer

def ticketsOf {τ : Type} (actions : List (CameraAction (Receiver τ))) : List Nat :=
  actions.filterMap fun
    | .takePicture receiver => some receiver.ticket
    | _ => none

namespace CameraMachine

variable {τ : Type}

/-! ### Moves -/

def log (m : CameraMachine τ) (events : List (CameraEvent τ)) : CameraMachine τ :=
  { m with trace := m.trace ++ events }

def withCamera (m : CameraMachine τ) (camera : GatedCamera (Receiver τ)) : CameraMachine τ :=
  { m with camera }

def withGate (m : CameraMachine τ) (gate : Gate CameraStage (CameraAction (Receiver τ))) :
    CameraMachine τ :=
  m.withCamera { m.camera with gate }

def select (m : CameraMachine τ) (facing : Facing) : CameraMachine τ :=
  m.withCamera { m.camera with facing }

/-- Tells the listener of a failure; it does what is planned for this time. -/
def fail (m : CameraMachine τ) (cause : Failure) (ticket : Option Nat := none) : CameraMove τ :=
  let told := m.log [.failed cause ticket]
  match told.plan with
  | [] => { machine := told }
  | ops :: plan => { machine := { told with plan }, work := [.perform .listener ops] }

/-- Completes a stage; what waited for it runs next. -/
def reach (m : CameraMachine τ) (stage : CameraStage) : CameraMove τ :=
  match m.camera.gate.complete? stage with
  | none => m.fail (.unknownStage (Stage.shown stage))
  | some (gate, first) =>
    { machine := m.withGate gate,
      work := if first then [.dispatch stage m.camera.gate.cycle] else [] }

/-- Runs an action whose time has come. -/
def run (m : CameraMachine τ) : CameraAction (Receiver τ) → CameraMove τ
  | .linkSurface surface =>
    match m.camera.startPreview surface with
    | (.ok (), camera) => (m.withCamera camera).reach .previewStarted
    | (.error e, camera) => (m.withCamera camera).fail e
  | .applyRotation rotation =>
    match m.camera.applyRotation rotation with
    | (.ok (), camera) => { machine := m.withCamera camera }
    | (.error e, camera) => (m.withCamera camera).fail e
  | .takePicture receiver =>
    match m.camera.takePicture with
    | (.ok frame, camera) =>
      { machine := (m.withCamera camera).log [.delivered receiver.ticket receiver.tag frame],
        work := [.perform (.receiver receiver.tag) receiver.body] }
    | (.error e, camera) => (m.withCamera camera).fail e (some receiver.ticket)

/-- Hands an action to the gate, which may let it run at once; `none` if its stage is not
declared. -/
def offer? (m : CameraMachine τ) (action : CameraAction (Receiver τ)) : Option (CameraMove τ) :=
  match m.camera.gate.offer? action.stage action with
  | none => none
  | some (gate, due) =>
    some (if due then (m.withGate gate).run action else { machine := m.withGate gate })

/-- Releases the camera; what waits is discarded. -/
def release (m : CameraMachine τ) : CameraMachine τ :=
  (m.withCamera m.camera.released).log [.discarded (ticketsOf m.camera.waiting)]

/-- Opens the selected camera unless it is open.  If that fails, what waits is discarded and the
listener is told. -/
def openSelected (m : CameraMachine τ) : CameraMove τ × Except Failure Capabilities :=
  match (if m.camera.isAt .initialized then m.camera.capabilities? else none) with
  | some known => ({ machine := m }, .ok known)
  | none =>
    match m.camera.openSelected with
    | (.ok capabilities, camera) => ((m.withCamera camera).reach .initialized, .ok capabilities)
    | (.error e, camera) =>
      let closed := (m.withCamera { camera with gate := camera.gate.reset }).log
        [.discarded (ticketsOf camera.waiting)]
      (closed.fail e, .error e)

/-- Switches to the other camera, keeping the surface and the rotation.  If it cannot be opened,
the selection goes back after the listener has reacted. -/
def flip (m : CameraMachine τ) : CameraStart τ :=
  match (m.release.select m.camera.facing.flipped).openSelected with
  | (opening, .ok capabilities) =>
    let link := m.camera.surface.toList.map fun surface => CameraTask.offer (.linkSurface surface)
    { opening with
      work := opening.work ++ link ++ [.offer (.applyRotation m.camera.rotation)],
      answer := .ok (.flipped m.camera.facing.flipped capabilities) }
  | (opening, .error e) =>
    { opening with work := opening.work ++ [.reselect m.camera.facing], answer := .error e }

/-- Hands an action to the gate and answers that this is done. -/
def submit (m : CameraMachine τ) (action : CameraAction (Receiver τ)) : CameraStart τ :=
  match m.offer? action with
  | none => { machine := m, answer := .error (.unknownStage (Stage.shown action.stage)) }
  | some move => { move with answer := .ok .done }

def start (m : CameraMachine τ) : CameraOp τ → CameraStart τ
  | .openCamera =>
    let (opening, answer) := m.openSelected
    { opening with answer := .capabilities <$> answer }
  | .linkSurface surface => m.submit (.linkSurface surface)
  | .setScreenRotation degrees =>
    match ScreenRotation.read degrees with
    | .error e => { machine := m, answer := .error e }
    | .ok rotation => m.submit (.applyRotation rotation)
  | .capture tag body =>
    let requested := { m with tickets := m.tickets + 1 }.log [.requested m.tickets]
    requested.submit (.takePicture ⟨m.tickets, tag, body⟩)
  | .release => { machine := m.release, answer := .ok .done }
  | .flip => m.flip
  | .describe => { machine := m, answer := .ok (.text m.camera.described) }

/-! ### Steps -/

/-- One step of the innermost task. -/
def step (m : CameraMachine τ) : Option (CameraMachine τ) :=
  match m.stack with
  | [] => none
  | .perform _ [] :: rest => some { m with stack := rest }
  | .perform origin (op :: ops) :: rest =>
    let started := m.start op
    some { started.machine with
      stack := started.work ++ .report origin op started.answer :: .perform origin ops :: rest }
  | .report origin op answer :: rest =>
    some ({ m with stack := rest }.log [.answered origin op answer])
  | .dispatch stage cycle :: rest =>
    match m.camera.gate.take? stage cycle with
    | none => some { m with stack := rest }
    | some (action, gate) =>
      let move := (m.withGate gate).run action
      some { move.machine with stack := move.work ++ m.stack }
  | .offer action :: rest =>
    match m.offer? action with
    | none => some { m with stack := rest }
    | some move => some { move.machine with stack := move.work ++ rest }
  | .reselect facing :: rest =>
    some { m.select facing with stack := rest }

end CameraMachine

/-! ### The work that is left -/

mutual

def CameraOp.weight {τ : Type} : CameraOp τ → Nat
  | .openCamera => 3
  | .linkSurface _ => 4
  | .setScreenRotation _ => 3
  | .capture _ body => 4 + CameraOp.weights body
  | .release => 2
  | .flip => 8
  | .describe => 2

def CameraOp.weights {τ : Type} : List (CameraOp τ) → Nat
  | [] => 0
  | op :: ops => op.weight + CameraOp.weights ops

end

def CameraAction.weight {τ : Type} : CameraAction (Receiver τ) → Nat
  | .linkSurface _ => 2
  | .applyRotation _ => 1
  | .takePicture receiver => 2 + CameraOp.weights receiver.body

def CameraTask.weight {τ : Type} : CameraTask τ → Nat
  | .perform _ ops => 1 + CameraOp.weights ops
  | .report .. => 1
  | .dispatch .. => 1
  | .offer action => 1 + action.weight
  | .reselect _ => 1

namespace CameraMachine

variable {τ : Type}

/-- The weight of the reactions that have not been needed yet. -/
def planWeight (m : CameraMachine τ) : Nat :=
  total (m.plan.map fun ops => 1 + CameraOp.weights ops)

/-- The weight of all that has been accepted or planned and not been started. -/
def held (m : CameraMachine τ) : Nat := m.camera.gate.weight CameraAction.weight + m.planWeight

/-- The weight of all that is still to be done. -/
def weight (m : CameraMachine τ) : Nat := m.held + total (m.stack.map CameraTask.weight)

@[simp] theorem held_log (m : CameraMachine τ) (events : List (CameraEvent τ)) :
    (m.log events).held = m.held := rfl

end CameraMachine

/-- The weight of a move: what it leaves waiting and what follows from it. -/
def CameraMove.weight {τ : Type} (move : CameraMove τ) : Nat :=
  move.machine.held + total (move.work.map CameraTask.weight)

namespace CameraMachine

variable {τ : Type}

theorem weight_fail (m : CameraMachine τ) (cause : Failure) (ticket : Option Nat) :
    (m.fail cause ticket).weight = m.held := by
  cases plan : m.plan with
  | nil => simp [fail, log, plan, CameraMove.weight, held, planWeight]
  | cons ops rest =>
    simp [fail, log, plan, CameraMove.weight, held, planWeight, CameraTask.weight]
    omega

theorem weight_reach (m : CameraMachine τ) (stage : CameraStage) :
    (m.reach stage).weight ≤ m.held + 1 := by
  unfold reach
  split
  · simp [weight_fail]
  next gate first completed =>
    have weighed := Gate.weight_complete? CameraAction.weight completed
    cases first <;>
      simp [CameraMove.weight, held, planWeight, withGate, withCamera, CameraTask.weight, weighed]

@[simp] theorem gate_startPreview {β : Type} (c : GatedCamera β) (surface : UInt64) :
    (c.startPreview surface).2.gate = c.gate := by
  simp only [GatedCamera.startPreview]; split <;> rfl

@[simp] theorem gate_applyRotation {β : Type} (c : GatedCamera β) (rotation : ScreenRotation) :
    (c.applyRotation rotation).2.gate = c.gate := by
  simp only [GatedCamera.applyRotation]; split <;> rfl

@[simp] theorem gate_takePicture {β : Type} (c : GatedCamera β) :
    c.takePicture.2.gate = c.gate := rfl

theorem held_camera (m : CameraMachine τ) {camera : GatedCamera (Receiver τ)}
    (same : camera.gate = m.camera.gate) : (m.withCamera camera).held = m.held := by
  simp [held, planWeight, withCamera, same]

/-- Running an action leaves less than the action and its dispatch. -/
theorem weight_run (m : CameraMachine τ) (action : CameraAction (Receiver τ)) :
    (m.run action).weight < m.held + action.weight := by
  cases action with
  | linkSurface surface =>
    have same := gate_startPreview m.camera surface
    simp only [run, CameraAction.weight]
    split
    next camera started =>
      rw [started] at same
      have kept : (m.withCamera camera).held = m.held := held_camera m same
      have := weight_reach (m.withCamera camera) .previewStarted
      omega
    next e camera started =>
      rw [started] at same
      have kept : (m.withCamera camera).held = m.held := held_camera m same
      rw [weight_fail]
      omega
  | applyRotation rotation =>
    have same := gate_applyRotation m.camera rotation
    simp only [run, CameraAction.weight]
    split
    next camera applied =>
      rw [applied] at same
      have kept : (m.withCamera camera).held = m.held := held_camera m same
      simp [CameraMove.weight]
      omega
    next e camera applied =>
      rw [applied] at same
      have kept : (m.withCamera camera).held = m.held := held_camera m same
      rw [weight_fail]
      omega
  | takePicture receiver =>
    have same := gate_takePicture m.camera
    simp only [run, CameraAction.weight]
    split
    next frame camera taken =>
      rw [taken] at same
      have kept : (m.withCamera camera).held = m.held := held_camera m same
      simp [CameraMove.weight, CameraTask.weight]
      omega
    next e camera taken =>
      rw [taken] at same
      have kept : (m.withCamera camera).held = m.held := held_camera m same
      rw [weight_fail]
      omega

theorem weight_offer? {m : CameraMachine τ} {action : CameraAction (Receiver τ)}
    {move : CameraMove τ} (h : m.offer? action = some move) :
    move.weight ≤ m.held + action.weight := by
  unfold offer? at h
  split at h
  · simp at h
  next gate due offered =>
    have weighed := Gate.weight_offer? CameraAction.weight offered
    cases due with
    | true =>
      simp only [if_true, Option.some.injEq] at h
      subst h
      have := weight_run (m.withGate gate) action
      simp [held, planWeight, withGate, withCamera] at this weighed ⊢
      omega
    | false =>
      simp only [Bool.false_eq_true, if_false, Option.some.injEq] at h
      subst h
      simp [CameraMove.weight, held, planWeight, withGate, withCamera] at weighed ⊢
      omega

theorem held_release (m : CameraMachine τ) : m.release.held ≤ m.held := by
  simp [release, held, planWeight, withCamera, GatedCamera.released, log]

theorem gate_openSelected {β : Type} (c : GatedCamera β) : c.openSelected.2.gate = c.gate := by
  unfold GatedCamera.openSelected
  split
  · rfl
  · split
    · rfl
    · split <;> rfl

theorem weight_openSelected (m : CameraMachine τ) : m.openSelected.1.weight ≤ m.held + 1 := by
  unfold openSelected
  split
  · simp [CameraMove.weight]
  · have same := gate_openSelected m.camera
    split
    next capabilities camera opened =>
      rw [opened] at same
      have kept : (m.withCamera camera).held = m.held := held_camera m same
      have := weight_reach (m.withCamera camera) .initialized
      simp only
      omega
    next e camera failed =>
      simp only [weight_fail, held_log]
      simp [held, planWeight, withCamera]
      omega

theorem held_select (m : CameraMachine τ) (facing : Facing) : (m.select facing).held = m.held := rfl

theorem weight_flip (m : CameraMachine τ) : m.flip.toCameraMove.weight ≤ m.held + 6 := by
  have released := held_release m
  have opened := weight_openSelected (m.release.select m.camera.facing.flipped)
  rw [held_select] at opened
  unfold flip
  split
  next opening capabilities h =>
    rw [h] at opened
    cases m.camera.surface <;>
      simp [CameraMove.weight, CameraTask.weight, CameraAction.weight] at opened ⊢ <;> omega
  next opening e h =>
    rw [h] at opened
    simp [CameraMove.weight, CameraTask.weight] at opened ⊢
    omega

theorem weight_submit (m : CameraMachine τ) (action : CameraAction (Receiver τ)) :
    (m.submit action).toCameraMove.weight ≤ m.held + action.weight := by
  unfold submit
  split
  · simp [CameraMove.weight]
  next move offered => simpa using weight_offer? offered

/-- Starting an operation leaves less to do than the operation itself. -/
theorem weight_start (m : CameraMachine τ) (op : CameraOp τ) :
    (m.start op).toCameraMove.weight + 1 < m.held + op.weight := by
  cases op with
  | openCamera =>
    have := weight_openSelected m
    simp only [start, CameraOp.weight]
    omega
  | linkSurface surface =>
    have := weight_submit m (.linkSurface surface)
    simp only [start, CameraOp.weight, CameraAction.weight] at this ⊢
    omega
  | setScreenRotation degrees =>
    simp only [start, CameraOp.weight]
    split
    · simp [CameraMove.weight]
    next rotation _ =>
      have := weight_submit m (.applyRotation rotation)
      simp only [CameraAction.weight] at this
      omega
  | capture tag body =>
    have := weight_submit ({ m with tickets := m.tickets + 1 }.log [.requested m.tickets])
      (.takePicture ⟨m.tickets, tag, body⟩)
    simp only [start, CameraOp.weight, CameraAction.weight, held_log] at this ⊢
    have same : held { m with tickets := m.tickets + 1 } = m.held := rfl
    omega
  | release =>
    have := held_release m
    simp [start, CameraOp.weight, CameraMove.weight]
    omega
  | flip =>
    have := weight_flip m
    simp only [start, CameraOp.weight]
    omega
  | describe => simp [start, CameraOp.weight, CameraMove.weight]

theorem weight_continue (move : CameraMove τ) (rest : List (CameraTask τ)) :
    weight { move.machine with stack := move.work ++ rest } =
      move.weight + total (rest.map CameraTask.weight) := by
  have same : held { move.machine with stack := move.work ++ rest } = move.machine.held := rfl
  simp [weight, CameraMove.weight, same]
  omega

/-- Every step leaves less to do. -/
theorem weight_step {m m' : CameraMachine τ} (h : m.step = some m') : m'.weight < m.weight := by
  unfold step at h
  split at h
  · simp at h
  next origin rest stack =>
    simp only [Option.some.injEq] at h
    subst h
    simp [weight, held, planWeight, stack, CameraTask.weight, CameraOp.weights]
  next origin op ops rest stack =>
    simp only [Option.some.injEq] at h
    subst h
    have started := weight_start m op
    rw [weight_continue]
    simp [weight, stack, CameraTask.weight, CameraOp.weights]
    omega
  next origin op answer rest stack =>
    simp only [Option.some.injEq] at h
    subst h
    simp [weight, held, planWeight, log, stack, CameraTask.weight]
  next stage cycle rest stack =>
    split at h
    · simp only [Option.some.injEq] at h
      subst h
      simp [weight, held, planWeight, stack, CameraTask.weight]
    next action gate taken =>
      simp only [Option.some.injEq] at h
      subst h
      have weighed := Gate.weight_take? CameraAction.weight taken
      have ran := weight_run (m.withGate gate) action
      rw [weight_continue]
      simp [weight, held, planWeight, withGate, withCamera] at ran weighed ⊢
      omega
  next action rest stack =>
    split at h
    · simp only [Option.some.injEq] at h
      subst h
      simp only [weight, held, planWeight, stack, List.map_cons, total_cons, CameraTask.weight]
      omega
    next move offered =>
      simp only [Option.some.injEq] at h
      subst h
      have offer := weight_offer? offered
      rw [weight_continue]
      simp [weight, stack, CameraTask.weight]
      omega
  next facing rest stack =>
    simp only [Option.some.injEq] at h
    subst h
    simp [weight, held, planWeight, select, withCamera, stack, CameraTask.weight]

/-! ### Runs -/

/-- The machine when nothing is left to do. -/
def finish (m : CameraMachine τ) : CameraMachine τ :=
  match _h : m.step with
  | none => m
  | some m' => finish m'
termination_by m.weight
decreasing_by exact weight_step _h

def call (m : CameraMachine τ) (op : CameraOp τ) : CameraAnswer × CameraMachine τ :=
  let started := m.start op
  (started.answer, { started.machine with stack := started.work ++ m.stack }.finish)

/-- The machine of a fresh camera over `device`, with what will be done at each failure. -/
def ofDevice (device : Device) (facing : Facing) (plan : List (List (CameraOp τ)) := []) :
    CameraMachine τ :=
  { camera := { device, facing }, plan }

end CameraMachine

end CaptureFlow
