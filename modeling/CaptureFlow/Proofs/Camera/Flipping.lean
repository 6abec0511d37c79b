import CaptureFlow.Proofs.Camera.Failing
/-! # Flips to which nobody reacts

A flip discards all who wait for a picture before it opens the other camera.  So if the listener
does nothing, nobody is left who could operate the camera meanwhile, whatever has been asked of it
before: a flip that succeeds leaves the other camera selected and open (`Unwatched.flip_done`), and
one that fails leaves the selection as it was and no camera open (`Unwatched.flip_undone`).  Why a
flip fails is a matter of the camera alone (`cause_of_flip`).

A listener that does nothing never will, since no operation adds to what is planned
(`Unwatched.call`). -/

namespace CaptureFlow

/-! ### Why a camera cannot be opened -/

/-- A fault of the camera, or a call to open it that was refused on its way. -/
inductive Failure.IsOfOpening : Failure → Prop
  | refused : IsOfOpening (.transfer (.refused .openCamera))
  | fault (fault : CameraFault) : IsOfOpening (.camera fault)

theorem Device.openCamera_error {d d' : Device} {facing : Facing} {cause : Failure}
    (failed : d.openCamera facing = (.error cause, d')) : cause.IsOfOpening := by
  simp only [openCamera] at failed
  split at failed
  · obtain ⟨same, _⟩ := Prod.mk.inj failed
    exact Except.error.inj same ▸ .refused
  · split at failed
    · obtain ⟨same, _⟩ := Prod.mk.inj failed
      exact Except.error.inj same ▸ .fault _
    · split at failed
      · obtain ⟨same, _⟩ := Prod.mk.inj failed
        exact Except.error.inj same ▸ .fault _
      · cases failed

theorem GatedCamera.cause_of_openSelected {β : Type} {c c' : GatedCamera β} {cause : Failure}
    (failed : c.openSelected = (.error cause, c')) : cause.IsOfOpening := by
  rcases openSelected_error failed with ⟨rfl, -⟩ | ⟨_, refused, -⟩ | ⟨_, _, _, _, rfl, -⟩
  · exact .fault _
  · exact Device.openCamera_error refused
  · exact .fault _

namespace CameraMachine

variable {τ : Type} {m : CameraMachine τ} {move : CameraMove τ} {cause : Failure}

theorem cause_of_openSelected (failed : m.openSelected.2 = .error cause) :
    cause.IsOfOpening := by
  unfold openSelected at failed
  split at failed
  · cases failed
  · split at failed
    · cases failed
    next refused =>
      obtain rfl := Except.error.inj failed
      exact GatedCamera.cause_of_openSelected refused

theorem cause_of_flip (failed : m.flip.answer = .error cause) : cause.IsOfOpening :=
  cause_of_openSelected (flip_failed failed).1

/-! ### Cameras whose listener does nothing -/

/-- Nothing is left to do, and no reaction to any failure is planned. -/
structure Unwatched (m : CameraMachine τ) : Prop where
  plan : m.plan = []
  idle : m.stack = []
  agreed : m.camera.Agreed

theorem Works.plan {task : CameraTask τ} {op? : Option (CameraOp τ)} {kept : List (CameraTask τ)}
    (h : Works m task op? move kept) (plan : m.plan = []) : move.machine.plan = [] := by
  cases h with
  | ended | emptied | missing | reported | reselected => exact plan
  | performed origin op ops => exact plan_start plan op
  | taken taken =>
      obtain ⟨camera, _, outcome⟩ := outcome_take taken
      exact plan_of_subset plan outcome.spawns.plan
  | offered offered =>
      obtain ⟨camera, _, outcome⟩ := outcome_offer? offered
      exact plan_of_subset plan outcome.spawns.plan

theorem plan_finish (plan : m.plan = []) : m.finish.plan = [] := by
  refine (finish_induction (P := fun m => m.plan = []) plan fun m₁ m₂ stepped plan => ?_).1
  obtain ⟨_, _, _, _, _, _, works, rfl⟩ := step_inv stepped
  exact works.plan plan

theorem Unwatched.call (h : Unwatched m) (op : CameraOp τ) : Unwatched (m.call op).2 := by
  obtain ⟨follows, idle⟩ := follows_call m op h.agreed
  exact ⟨plan_finish (m := m.enter op) (plan_start h.plan op), idle, follows.agreed h.agreed⟩

/-! ### Flips -/

/-- A closed camera that can be opened is open then. -/
theorem opened_of_openSelected (agreed : m.camera.Agreed)
    (closed : m.camera.isAt .initialized = false) {capabilities : Capabilities}
    (opens : m.openSelected.2 = .ok capabilities) :
    GatedCamera.Opened m.camera m.openSelected.1.machine.camera := by
  have gate := gate_openSelected m.camera
  simp only [openSelected, closed, Bool.false_eq_true, if_false] at opens ⊢
  split at opens
  next camera opened =>
    rw [opened] at gate
    obtain ⟨gate', first, completed, after⟩ :=
      reach_eq (m.withCamera camera) (gate ▸ agreed.stages) .initialized
    dsimp only
    rw [after]
    exact GatedCamera.opened_of_openSelected closed opened completed
  next failed => cases opens

theorem opened_of_flip (agreed : m.camera.Agreed) {reply : CameraReply}
    (answered : m.flip.answer = .ok reply) :
    m.flip.machine.camera.isAt .initialized = true ∧
      m.flip.machine.camera.device.opened = some m.camera.facing.flipped := by
  have before : (m.release.select m.camera.facing.flipped).camera.Agreed :=
    ((moves_release m).follows.trans (moves_select _ _).follows).agreed agreed
  have closed : (m.release.select m.camera.facing.flipped).camera.isAt .initialized = false :=
    Gate.isComplete_reset m.camera.gate .initialized
  unfold flip at answered ⊢
  split at answered
  next opening c opened =>
    have after := opened_of_openSelected before closed (congrArg Prod.snd opened)
    rw [opened] at after
    exact ⟨after.initialized, after.opened⟩
  next failed => cases answered

theorem Unwatched.flip_done (h : Unwatched m) {reply : CameraReply}
    (answered : (m.call .flip).1 = .ok reply) :
    (∃ c, reply = .flipped m.camera.facing.flipped c) ∧
      (m.call .flip).2.camera.facing = m.camera.facing.flipped ∧
      (m.call .flip).2.camera.device.opened = some m.camera.facing.flipped := by
  obtain ⟨answer, calm, facing⟩ := flip_ok h.plan answered
  obtain ⟨_, opened⟩ := opened_of_flip h.agreed answered
  -- All who waited have been discarded, so nobody is left who would do anything.
  obtain ⟨_, receivers, _, _, aside⟩ := clears_flip m h.agreed
  have passive : Passive (m.enter .flip) := by
    refine ⟨plan_start h.plan .flip, fun r waits => ?_⟩
    rw [show (m.enter .flip).receivers = [] from aside.receivers.trans receivers] at waits
    cases waits
  have calm : Calm (m.enter .flip).stack := by
    refine calm.append ?_
    rw [h.idle]
    exact calm_nil
  have agreed : (m.enter .flip).camera.Agreed := (follows_start m .flip h.agreed).1.agreed h.agreed
  have steady := (passive.finish calm agreed).2
  exact ⟨answer, steady.facing.trans facing, steady.device.opened.trans opened⟩

theorem Unwatched.flip_undone (h : Unwatched m) (answered : (m.call .flip).1 = .error cause) :
    cause.IsOfOpening ∧ (m.call .flip).2.camera.facing = m.camera.facing ∧
      (m.call .flip).2.camera.device.opened = none := by
  have closed := (flip_error h.plan answered).2
  have agreed := (follows_flip m h.agreed).1.agreed h.agreed
  have shut : m.flip.machine.camera.device.opened.isNone = true :=
    Option.isSome_eq_false_iff.mp (agreed.opened.symm.trans closed)
  rw [call_flip_error h.plan h.idle answered]
  exact ⟨cause_of_flip answered, rfl, Option.isNone_iff_eq_none.mp shut⟩

end CameraMachine

end CaptureFlow
