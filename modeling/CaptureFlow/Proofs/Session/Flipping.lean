import CaptureFlow.Proofs.Camera.Flipping
import CaptureFlow.Proofs.Preference.Preferred
import CaptureFlow.Proofs.Session.Schedule
/-! # Flips of a session that fail

A session flips its camera, remembers the new one and announces its capabilities, in this order.
The announcement never fails, so a flip fails for one of two reasons.  The other camera cannot be
opened: then the camera goes back, and nothing is remembered or announced.  Or the store refuses to
remember the camera that has been opened: then nothing brings the other one back, so the selection
has changed although the flip has failed (`flip_not_undone`).  The capabilities and what the store
holds stay as they were either way (`failed_flip_keeps`). -/

namespace CaptureFlow

/-! ### The camera of a session -/

namespace CameraMachine

variable {τ : Type} {m : CameraMachine τ}

theorem Unwatched.callEach (h : Unwatched m) (ops : List (CameraOp τ)) :
    Unwatched (m.callEach ops).1 := by
  induction ops generalizing m with
  | nil => exact h
  | cons op rest ih =>
      have fresh : Unwatched { m with trace := [] } := ⟨h.plan, h.idle, h.agreed⟩
      exact ih (fresh.call op)

end CameraMachine

/-- Remembering a camera fails if and only if the store refuses it, and changes nothing then. -/
theorem Store.setPreferredFacing_error {s s' : Store} {f : Facing} {cause : Failure}
    (failed : s.setPreferredFacing f = (.error cause, s')) :
    cause = refused .set ∧ s'.backing = s.backing := by
  obtain ⟨backing, accepted, -⟩ := s.backing.set_facing f
  unfold setPreferredFacing Store.set at failed
  split at failed
  · obtain ⟨same, rfl⟩ := Prod.mk.inj failed
    exact ⟨(Except.error.inj same).symm, rfl⟩
  · rw [accepted] at failed
    cases failed

namespace Session

variable {s s₀ : Session} {q : Schedule} {cause : Failure}

/-- Whatever is asked of a session, the listener of its camera never operates the camera. -/
theorem unwatched_performAll (h : s.camera.Unwatched) (ops : List SessionOp) :
    (s.performAll ops).camera.Unwatched := by
  refine performAll_keeps (P := fun s => s.camera.Unwatched) h fun s op _ unwatched => ?_
  rw [perform_camera]
  exact unwatched.callEach (s.cameraOps op)

theorem unwatched_of_ofDevice {spec : DeviceSpec} {refusals : DeviceRefusals}
    {reportedFacing : Option Facing} {store after : Store} {orientation : Orientation}
    (made : ofDevice { spec, refusals, reportedFacing } store orientation = (.ok s, after)) :
    s.camera.Unwatched := by
  have agreed := agreed_of_ofDevice made
  obtain ⟨facing, _, rfl⟩ := ofDevice_ok made
  exact ⟨rfl, rfl, agreed⟩

/-! ### Flips that fail -/

/-- What a flip of `s` leaves that has failed with `cause`: everything as it was but the camera,
which is closed, or the other camera open and selected without the store knowing of it. -/
inductive Fallen (s : Session) (cause : Failure) (after : Session) : Prop
  | back (opening : cause.IsOfOpening) (store : after.store = s.store)
      (facing : after.facing = s.facing) (shut : after.gated.device.opened = none)
  | forgotten (refused : cause = Store.refused .set)
      (store : after.store.backing = s.store.backing) (facing : after.facing = s.facing.flipped)
      (opened : after.gated.device.opened = some s.facing.flipped)

theorem atRest_unwatched (h : s.camera.Unwatched) : s.atRest.Unwatched :=
  ⟨h.plan, h.idle, h.agreed⟩

theorem fallen_of_flip (unwatched : s.camera.Unwatched) (tracks : Tracks q s)
    (failed : s.flip.answer = .error cause) :
    s.flip.session.capabilities = s.capabilities ∧ Fallen s cause s.flip.session := by
  have rests := atRest_unwatched unwatched
  have flipped := flips s
  generalize s.flip = step at flipped failed ⊢
  cases flipped with
  | ignored => cases failed
  | failed more answered =>
      obtain rfl := Except.error.inj failed
      obtain ⟨opening, facing, shut⟩ := rests.flip_undone answered
      exact ⟨rfl, .back opening rfl facing shut⟩
  | @forgotten f c e s' more answered remember =>
      obtain rfl := Except.error.inj failed
      obtain ⟨⟨c', same⟩, facing, opened⟩ := rests.flip_done answered
      cases stored : (s.operate .flip).session.store.setPreferredFacing f with
      | mk result store =>
          rw [Session.remember, stored] at remember
          obtain ⟨rfl, -, rfl⟩ := SessionStep.mk.inj remember
          obtain ⟨refused, kept⟩ := Store.setPreferredFacing_error stored
          exact ⟨rfl, .forgotten refused kept facing opened⟩
  | @switched f c s' step more answered remember announce =>
      -- What has been remembered is announced, which does not fail.
      have kept := (tracks.operate .flip).remember f
      rw [remember] at kept
      rw [← announce, (kept.announce c).answer] at failed
      cases failed

/-- **Flips that fail.**  Over every store and every simulated device, any of whose calls may be
refused, and after anything that has been asked of the session and of its camera: a flip that fails
leaves the capabilities and all rows of the store as they were.  If the store has refused to
remember the other camera, that camera is open and selected nevertheless; otherwise the selection
is as it was and no camera is open. -/
theorem failed_flip_keeps {spec : DeviceSpec} {refusals : DeviceRefusals}
    {reportedFacing : Option Facing} {store after : Store} {orientation : Orientation}
    (made : ofDevice { spec, refusals, reportedFacing } store orientation = (.ok s₀, after))
    (ops : List SessionOp) (failed : (s₀.performAll ops).flip.answer = .error cause) :
    let before := s₀.performAll ops
    let later := before.flip.session
    later.capabilities = before.capabilities ∧ later.store.backing = before.store.backing ∧
      (cause ≠ Store.refused .set →
        later.facing = before.facing ∧ later.gated.device.opened = none) ∧
      (cause = Store.refused .set → later.facing = before.facing.flipped ∧
        later.gated.device.opened = some before.facing.flipped) := by
  intro before later
  have unwatched := unwatched_performAll (unwatched_of_ofDevice made) ops
  have tracks := (tracks_of_ofDevice made).performAll ops
  obtain ⟨capabilities, fallen⟩ := fallen_of_flip unwatched tracks failed
  refine ⟨capabilities, ?_⟩
  cases fallen with
  | back opening store facing shut =>
      refine ⟨congrArg Store.backing store, fun _ => ⟨facing, shut⟩, fun refused => ?_⟩
      cases refused ▸ opening
  | forgotten refused store facing opened =>
      exact ⟨store, fun other => absurd refused other, fun _ => ⟨facing, opened⟩⟩

/-- A session on two cameras that work, whose store refuses the first value that it is given. -/
def refusingSession : Session :=
  { camera := .ofDevice {} .back
    store := { Store.volatile with gets := { made := 1 }, sets := { refused := [0] } } }

/-- The first flip of `refusingSession` fails, and the front camera is open and selected. -/
theorem failed_flip_keeps_refused :
    (refusingSession.performAll [.resume]).flip.answer = .error (Store.refused .set) ∧
    (refusingSession.performAll [.resume]).flip.session.facing = .front ∧
    (refusingSession.performAll [.resume]).flip.session.gated.device.opened = some .front := by
  have made : ofDevice { spec := {}, refusals := {}, reportedFacing := none }
      { Store.volatile with sets := { refused := [0] } } .portrait =
      (.ok refusingSession, refusingSession.store) := rfl
  have failed : (refusingSession.performAll [.resume]).flip.answer =
      .error (Store.refused .set) := by decide +kernel
  have began : (refusingSession.performAll [.resume]).facing = .back := by decide +kernel
  obtain ⟨selected, opened⟩ := (failed_flip_keeps made [.resume] failed).2.2.2 rfl
  rw [began] at selected opened
  exact ⟨failed, selected, opened⟩

/-- A flip that fails may change which camera is selected. -/
theorem flip_not_undone :
    ¬ ∀ (device : Device) (store after : Store) (s₀ : Session) (ops : List SessionOp)
        (cause : Failure), ofDevice device store .portrait = (.ok s₀, after) →
      (s₀.performAll ops).flip.answer = .error cause →
      (s₀.performAll ops).flip.session.facing = (s₀.performAll ops).facing := by
  intro undone
  have same := undone {} { Store.volatile with sets := { refused := [0] } } refusingSession.store
    refusingSession [.resume] (Store.refused .set) rfl (by decide +kernel)
  have began : (refusingSession.performAll [.resume]).facing = .back := by decide +kernel
  have ends : (refusingSession.performAll [.resume]).flip.session.facing = .front := by
    decide +kernel
  rw [began, ends] at same
  cases same

end Session

end CaptureFlow
