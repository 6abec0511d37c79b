import CaptureFlow.Proofs.Camera.Failing
import CaptureFlow.Proofs.Session.Preferred
import CaptureFlow.Proofs.Session.Schedule
/-! # When operations of the host fail

An operation of the host fails for two reasons only, as long as the preferred camera can be
remembered (`Prefers.fails`).  A camera could not be opened, when the screen came to the front or at
a flip: then this is what the listener was told, and nothing else.  Or a display is not turned by a
right angle: then nothing was done at all.

Calls of the camera that are only accepted never fail, and neither does what concerns the view: its
gate has the one stage that is asked for. -/

namespace CaptureFlow

theorem SessionStep.map_error {α β : Type} {f : α → β} {step : SessionStep α} {cause : Failure}
    (failed : (step.map f).answer = .error cause) : step.answer = .error cause := by
  cases answered : step.answer with
  | ok a =>
      rw [map, answered] at failed
      cases failed
  | error e =>
      rw [map, answered] at failed
      exact congrArg Except.error (Except.error.inj failed)

namespace Session

variable {s : Session} {b : Backing} {q : Schedule} {cause : Failure}

/-- What an operation has done that failed with `cause`. -/
inductive Fails (s : Session) (cause : Failure) : SessionOp → Prop
  | opening {op : SessionOp} (opens : op = .resume ∨ op = .flip)
      (told : (s.perform op).signals = [.told (.cameraError cause)]) : Fails s cause op
  | rotation {surface : UInt64} {degrees : UInt16} (skew : degrees ∉ [0, 90, 180, 270])
      (nothing : s.perform (.provideSurface surface degrees) =
        { session := s, answer := .error cause }) :
      Fails s cause (.provideSurface surface degrees)

/-! ### Cameras that cannot be opened -/

theorem Prefers.openCamera_failed (h : Prefers b s)
    (failed : (s.operate .openCamera).answer = .error cause) :
    (s.operate .openCamera).signals = [.told (.cameraError cause)] := by
  obtain ⟨tickets, trace⟩ :=
    CameraMachine.call_openCamera_failed h.atRest.plan h.atRest.idle failed
  change (s.atRest.call .openCamera).2.trace.filterMap s.signal? = _
  rw [trace]
  rfl

theorem Prefers.flip_failed (h : Prefers b s)
    (failed : (s.operate .flip).answer = .error cause) :
    (s.operate .flip).signals = [.told (.cameraError cause)] := by
  obtain ⟨released, tickets, trace⟩ :=
    CameraMachine.call_flip_failed h.atRest.plan h.atRest.idle failed
  change (s.atRest.call .flip).2.trace.filterMap s.signal? = _
  rw [trace]
  rfl

theorem answer_remember (accepts : s.store.Accepts) (facing : Facing) :
    (s.remember facing).answer = .ok () := by
  obtain ⟨store, remembered, -⟩ := Store.remembers accepts facing
  rw [remember, remembered]

/-- Capabilities that are known are announced, so coming to the front has failed before. -/
theorem Prefers.fails_resume (h : Prefers b s) (tracks : Tracks q s)
    (failed : s.resume.answer = .error cause) :
    s.resume.signals = [.told (.cameraError cause)] := by
  have resumed := resumes s
  generalize s.resume = step at resumed failed ⊢
  cases resumed with
  | failed answered =>
      obtain rfl := Except.error.inj failed
      exact h.openCamera_failed answered
  | @announced c _ _ announce =>
      subst announce
      cases ((tracks.operate .openCamera).announce c).answer.symm.trans failed

/-- A camera that has been opened is remembered and announced, so a flip has failed before. -/
theorem Prefers.fails_flip (h : Prefers b s) (tracks : Tracks q s)
    (failed : s.flip.answer = .error cause) : s.flip.signals = [.told (.cameraError cause)] := by
  have works : ∀ f, ((s.operate .flip).session.remember f).answer = .ok () :=
    answer_remember h.accepts
  have flipped := flips s
  generalize s.flip = step at flipped failed ⊢
  cases flipped with
  | ignored => cases failed
  | failed _ answered =>
      obtain rfl := Except.error.inj failed
      exact h.flip_failed answered
  | @forgotten f _ _ _ _ _ remember =>
      -- The store accepts what is set, so nothing is forgotten.
      have remembered := works f
      rw [remember] at remembered
      cases remembered
  | @switched f c _ _ _ _ remember announce =>
      subst announce
      have kept := (tracks.operate .flip).remember f
      rw [remember] at kept
      rw [(kept.announce c).answer] at failed
      cases failed

/-! ### Calls that are accepted -/

theorem answer_linkSurface (agreed : s.gated.Agreed) (surface : UInt64) :
    (s.operate (.linkSurface surface)).answer = .ok .done :=
  CameraMachine.answer_submit (m := s.atRest) agreed _

theorem answer_setScreenRotation (agreed : s.gated.Agreed) (rotation : ScreenRotation) :
    (s.operate (.setScreenRotation rotation.degrees)).answer = .ok .done := by
  change (s.atRest.start (.setScreenRotation rotation.degrees)).answer = _
  simp only [CameraMachine.start, ScreenRotation.read_degrees]
  exact CameraMachine.answer_submit (m := s.atRest) agreed _

theorem answer_capture (agreed : s.gated.Agreed) : s.capture.answer = .ok () := by
  let requested := { s.atRest with tickets := s.atRest.tickets + 1 }.log
    [.requested s.atRest.tickets]
  have accepted := CameraMachine.answer_submit (m := requested) agreed
    (.takePicture ⟨s.atRest.tickets, .session, []⟩)
  exact congrArg (Functor.map fun _ => ()) accepted

theorem Prefers.answer_provideSurface (h : Prefers b s) (surface : UInt64)
    (rotation : ScreenRotation) : (s.provideSurface surface rotation).answer = .ok () := by
  have linked := h.operate (.linkSurface surface) rfl (by simp)
  have turned := answer_setScreenRotation linked.rests.agreed rotation
  simp only [Session.provideSurface, SessionStep.andThen, answer_linkSurface h.rests.agreed surface]
  exact congrArg (Functor.map fun _ => ()) turned

/-! ### Operations -/

/-- An operation of the host that fails could not open a camera, or did nothing. -/
theorem Prefers.fails (h : Prefers b s) (tracks : Tracks q s) {op : SessionOp}
    (host : op.ofHost = true) (failed : (s.perform op).answer = .error cause) :
    Fails s cause op := by
  cases op with
  | resume =>
      exact .opening (.inl rfl) (h.fails_resume tracks (SessionStep.map_error failed))
  | flip => exact .opening (.inr rfl) (h.fails_flip tracks (SessionStep.map_error failed))
  | provideSurface surface degrees =>
      cases read : ScreenRotation.read degrees with
      | error e =>
          simp only [Session.perform, read] at failed
          obtain rfl := Except.error.inj failed
          exact .rotation (ScreenRotation.read_error read) (by simp only [Session.perform, read])
      | ok rotation =>
          simp only [Session.perform, read] at failed
          cases (h.answer_provideSurface surface rotation).symm.trans
            (SessionStep.map_error failed)
  | announce c => cases (tracks.announce c).answer.symm.trans (SessionStep.map_error failed)
  | layOut size => cases (tracks.layOut size).answer.symm.trans (SessionStep.map_error failed)
  | capture => cases (answer_capture h.rests.agreed).symm.trans (SessionStep.map_error failed)
  | pause | orient | describe => cases failed
  | camera => cases host

end Session

end CaptureFlow
