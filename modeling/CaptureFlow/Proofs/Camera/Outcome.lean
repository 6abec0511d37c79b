import CaptureFlow.Proofs.Camera.Opening
import CaptureFlow.Proofs.Camera.Run
/-! # What comes of a move

A move changes the camera, and then it may call someone outside: it delivers a picture, or it tells
the listener of a failure.  `Outcome m camera move` says that `move` takes the machine `m` to
`camera` and ends in one of these ways.  An action at the gate comes to such an outcome with a
camera that is open or closed as before (`outcome_run`, `outcome_offer?`, `outcome_submit`), so what
has to be known of actions can be read off the outcomes.

What is left to do after such a move goes on with a queue or with a reaction (`Outcome.onward`). -/

namespace CaptureFlow.CameraMachine

open GatedCamera

variable {τ : Type} {m : CameraMachine τ} {camera : GatedCamera (Receiver τ)} {move : CameraMove τ}

/-- The move ends with no one called, with a picture delivered, or with the listener told of a
failure. -/
inductive Outcome (m : CameraMachine τ) (camera : GatedCamera (Receiver τ)) : CameraMove τ → Prop
  | silent (work : List (CameraTask τ))
      (runs : ∀ t ∈ work, ∃ stage cycle, t = .dispatch stage cycle) :
      Outcome m camera { machine := m.withCamera camera, work }
  | delivered (receiver : Receiver τ) (frame : Frame) :
      Outcome m camera
        { machine := (m.withCamera camera).log [.delivered receiver.ticket receiver.tag frame],
          work := [.perform (.receiver receiver.tag) receiver.body] }
  | failed (cause : Failure) (ticket : Option Nat) :
      Outcome m camera ((m.withCamera camera).fail cause ticket)

theorem outcome_done (m : CameraMachine τ) (camera : GatedCamera (Receiver τ)) :
    Outcome m camera { machine := m.withCamera camera } :=
  .silent [] fun _ mem => absurd mem List.not_mem_nil

theorem Outcome.camera_eq (h : Outcome m camera move) : move.machine.camera = camera := by
  cases h with
  | silent => rfl
  | delivered => rfl
  | failed cause ticket => exact camera_fail _ cause ticket

theorem Outcome.of_withCamera {c : GatedCamera (Receiver τ)}
    (h : Outcome (m.withCamera c) camera move) : Outcome m camera move := by
  cases h with
  | silent work runs => exact .silent work runs
  | delivered receiver frame => exact .delivered receiver frame
  | failed cause ticket => exact .failed cause ticket

/-! ### Actions at the gate -/

theorem outcome_reach (m : CameraMachine τ) (stage : CameraStage) :
    ∃ gate, Outcome m { m.camera with gate } (m.reach stage) ∧
      (gate = m.camera.gate ∨ ∃ first, m.camera.gate.complete? stage = some (gate, first)) := by
  cases completed : m.camera.gate.complete? stage with
  | none =>
      simp only [reach, completed]
      exact ⟨m.camera.gate, .failed _ none, .inl rfl⟩
  | some result =>
      obtain ⟨gate, first⟩ := result
      simp only [reach, completed]
      refine ⟨gate, .silent _ fun t mem => ?_, .inr ⟨first, rfl⟩⟩
      cases first with
      | true => exact ⟨stage, m.camera.gate.cycle, List.mem_singleton.mp mem⟩
      | false => cases mem

theorem outcome_stream (m : CameraMachine τ) :
    ∃ camera, Steady m.camera camera ∧ Outcome m camera (m.reach .previewStarted) := by
  obtain ⟨gate, outcome, rfl | ⟨first, completed⟩⟩ := outcome_reach m .previewStarted
  · exact ⟨_, .refl _, outcome⟩
  · exact ⟨_, steady_streaming m.camera completed, outcome⟩

theorem outcome_run (m : CameraMachine τ) (action : CameraAction (Receiver τ)) :
    ∃ camera, Steady m.camera camera ∧ Outcome m camera (m.run action) := by
  cases action with
  | linkSurface surface =>
      have steady := steady_startPreview m.camera surface
      cases started : m.camera.startPreview surface with
      | mk result camera =>
          rw [started] at steady
          simp only [run, started]
          cases result with
          | ok _ =>
              obtain ⟨camera', streams, outcome⟩ := outcome_stream (m.withCamera camera)
              exact ⟨camera', steady.trans streams, outcome.of_withCamera⟩
          | error cause => exact ⟨camera, steady, .failed cause none⟩
  | applyRotation rotation =>
      have steady := steady_applyRotation m.camera rotation
      cases applied : m.camera.applyRotation rotation with
      | mk result camera =>
          rw [applied] at steady
          simp only [run, applied]
          cases result with
          | ok _ => exact ⟨camera, steady, outcome_done m camera⟩
          | error cause => exact ⟨camera, steady, .failed cause none⟩
  | takePicture receiver =>
      have steady := steady_takePicture m.camera
      cases taken : m.camera.takePicture with
      | mk result camera =>
          rw [taken] at steady
          simp only [run, taken]
          cases result with
          | ok frame => exact ⟨camera, steady, .delivered receiver frame⟩
          | error cause => exact ⟨camera, steady, .failed cause (some receiver.ticket)⟩

theorem outcome_offer? {action : CameraAction (Receiver τ)} (h : m.offer? action = some move) :
    ∃ camera, Steady m.camera camera ∧ Outcome m camera move := by
  unfold offer? at h
  split at h
  · cases h
  next gate due offered =>
    obtain rfl := Option.some.inj h
    cases due with
    | true =>
        obtain ⟨rfl, _⟩ := Gate.offer?_due_iff.mp offered
        exact outcome_run m action
    | false =>
        have queued := Gate.queued_of_offer? offered
        exact ⟨_, steady_withGate m.camera (congrFun queued.flags _), outcome_done m _⟩

theorem outcome_submit (m : CameraMachine τ) (action : CameraAction (Receiver τ)) :
    ∃ camera, Steady m.camera camera ∧ Outcome m camera (m.submit action).toCameraMove := by
  cases offered : m.offer? action with
  | none =>
      simp only [submit, offered]
      exact ⟨m.camera, .refl _, outcome_done m m.camera⟩
  | some move =>
      simp only [submit, offered]
      exact outcome_offer? offered

theorem outcome_take {stage : CameraStage} {cycle : UInt64}
    {action : CameraAction (Receiver τ)} {gate : Gate CameraStage (CameraAction (Receiver τ))}
    (taken : m.camera.gate.take? stage cycle = some (action, gate)) :
    ∃ camera, Steady m.camera camera ∧ Outcome m camera ((m.withGate gate).run action) := by
  have popped := Gate.popped_of_take? taken
  obtain ⟨camera, steady, outcome⟩ := outcome_run (m.withGate gate) action
  exact ⟨camera, (steady_withGate m.camera (congrFun popped.flags _)).trans steady,
    outcome.of_withCamera⟩

/-! ### What is left to do -/

/-- A task that goes on with a queue or with a reaction. -/
inductive Onward : CameraTask τ → Prop
  | dispatch (stage : CameraStage) (cycle : UInt64) : Onward (.dispatch stage cycle)
  | perform (origin : CameraOrigin τ) (ops : List (CameraOp τ)) : Onward (.perform origin ops)

theorem onward_fail (m : CameraMachine τ) (cause : Failure) (ticket : Option Nat) :
    ∀ t ∈ (m.fail cause ticket).work, Onward t := by
  intro t mem
  simp only [fail] at mem
  split at mem
  · cases mem
  next ops plan _ =>
    rw [List.mem_singleton.mp mem]
    exact .perform .listener ops

theorem Outcome.onward (h : Outcome m camera move) : ∀ t ∈ move.work, Onward t := by
  intro t mem
  cases h with
  | silent work runs =>
      obtain ⟨stage, cycle, rfl⟩ := runs t mem
      exact .dispatch stage cycle
  | delivered receiver frame =>
      rw [List.mem_singleton.mp mem]
      exact .perform _ _
  | failed cause ticket => exact onward_fail _ cause ticket t mem

theorem onward_submit (m : CameraMachine τ) (action : CameraAction (Receiver τ)) :
    ∀ t ∈ (m.submit action).work, Onward t := by
  obtain ⟨_, _, outcome⟩ := outcome_submit m action
  exact outcome.onward

theorem onward_openSelected (m : CameraMachine τ) : ∀ t ∈ m.openSelected.1.work, Onward t := by
  unfold openSelected
  split
  · exact fun t mem => absurd mem List.not_mem_nil
  · split
    next capabilities camera _ =>
      obtain ⟨_, outcome, _⟩ := outcome_reach (m.withCamera camera) .initialized
      exact outcome.onward
    next cause camera _ => exact onward_fail _ cause none

theorem onward_start (m : CameraMachine τ) {op : CameraOp τ} (other : op ≠ .flip) :
    ∀ t ∈ (m.start op).work, Onward t := by
  have nothing : ∀ t ∈ ([] : List (CameraTask τ)), Onward t :=
    fun t mem => absurd mem List.not_mem_nil
  cases op with
  | openCamera => exact onward_openSelected m
  | linkSurface surface => exact onward_submit m _
  | setScreenRotation degrees =>
      simp only [start]
      split
      · exact nothing
      · exact onward_submit m _
  | capture tag body => exact onward_submit _ _
  | release | describe => exact nothing
  | flip => exact absurd rfl other

end CaptureFlow.CameraMachine
