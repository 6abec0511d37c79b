import CaptureFlow.Proofs.Camera.Attempts
/-! # What a flip does

A flip releases the camera, selects the other one and tries once to open it.  If it can be opened,
the surface that was recorded is linked again and the picture turned as recorded: at once if the
preview starts, otherwise when it does (`Relinks`).  What becomes of these calls is told to the
listener and does not concern the answer.  If the other camera cannot be opened, the flip has
failed, the listener is told why, and the selection goes back (`Flips`).

Nobody is left to react then but the listener, for all that waits is discarded at the beginning.  So
if the listener does nothing, this is all that a flip does, whatever state the camera is in and
wherever the flip is performed (`Reached.performs_flip`). -/

namespace CaptureFlow

variable {τ : Type}

/-! ### Linking the surface again -/

/-- The exchanges that are made when a surface, if there is one, is linked to a camera that has just
been opened and the picture is turned, and whether the camera streams then. -/
inductive Relinks (info : CameraInfo) (preview : Size) (rotation : ScreenRotation) :
    Option UInt64 → List Exchange → Bool → Prop
  | unlinked : Relinks info preview rotation none [] false
  | unstarted (surface : UInt64) {outcome : CallOutcome} (undone : outcome ≠ .done) :
      Relinks info preview rotation (some surface) [⟨.startPreview preview surface, outcome⟩] false
  | started (surface : UInt64) (outcome : CallOutcome) :
      Relinks info preview rotation (some surface)
        [⟨.startPreview preview surface, .done⟩,
          ⟨.setRotation (cameraRotation info.sensorOrientation info.facing rotation), outcome⟩] true

namespace CameraMachine

open GatedCamera CameraMove

variable {m m' : CameraMachine τ} {info : CameraInfo} {preview : Size} {streaming : Bool}

theorem Ready.turns (h : Ready info preview true [] [] m) (rotation : ScreenRotation) :
    ∃ outcome m', LeadsTo { machine := m, work := [.offer (.applyRotation rotation)] } m' ∧
      Went m [⟨.setRotation (cameraRotation info.sensorOrientation info.facing rotation), outcome⟩]
        m' ∧
      Ready info preview true [] [] m' ∧ m'.camera.surface = m.camera.surface ∧
      m'.camera.rotation = rotation := by
  obtain ⟨outcome, m', leads, went, ready, surface, turned⟩ :=
    h.request (.applyRotation rotation) rfl fun _ same => by cases same
  exact ⟨outcome, m', leadsTo_offer h.gate.previewStarted leads, went, ready, surface, turned⟩

theorem Ready.turns_later (h : Ready info preview false [] [] m) (rotation : ScreenRotation) :
    ∃ m', LeadsTo { machine := m, work := [.offer (.applyRotation rotation)] } m' ∧ Went m [] m' ∧
      Ready info preview false [] [.applyRotation rotation] m' ∧
      m'.camera.surface = m.camera.surface ∧ m'.camera.rotation = m.camera.rotation := by
  obtain ⟨gate, offered, queue⟩ := h.gate.queue_request (.applyRotation rotation)
  let turn : CameraAction (Receiver τ) := .applyRotation rotation
  have queued : Gate.Queued m.camera.gate turn.stage turn gate := Gate.queued_of_offer? offered
  refine ⟨m.withGate gate, leadsTo_queue offered,
    went_withGate queued.cycle (congrFun queued.flags _), ?_, rfl, rfl⟩
  have waits : (m.withGate gate).camera.Agreed := h.agreed.queues_action queued
  exact ⟨waits, h.known, h.size, queue, h.hushed, fun receiver mem => by
    cases List.mem_singleton.mp mem⟩

/-- On a camera that has just been opened the surface is linked and the picture turned. -/
theorem Ready.relinks (h : Ready info preview false [] [] m) (unlinked : m.camera.surface = none)
    (surface : Option UInt64) :
    ∃ exchanges streaming m', LeadsTo
        { machine := m, work := surface.toList.map (fun s => .offer (.linkSurface s)) ++
          [.offer (.applyRotation m.camera.rotation)] } m' ∧
      Went m exchanges m' ∧
      Relinks info preview m.camera.rotation surface exchanges streaming ∧
      Ready info preview streaming [] (if streaming then [] else [.applyRotation m.camera.rotation])
        m' ∧
      m'.camera.surface = surface ∧ m'.camera.rotation = m.camera.rotation := by
  cases surface with
  | none =>
      obtain ⟨m', leads, went, ready, surface, rotation⟩ := h.turns_later m.camera.rotation
      exact ⟨[], false, m', leads, went, .unlinked, ready, surface.trans unlinked, rotation⟩
  | some s =>
      obtain ⟨outcome, served, m₁, ran, went, linked, after⟩ :=
        h.link (fun streams => by cases streams) s
      have first : LeadsTo { machine := m, work := [.offer (.linkSurface s)] } m₁ :=
        leadsTo_offer h.gate.initialized ran
      rcases after with ⟨undone, rfl, ready, rotation⟩ | ⟨rfl, inOrder, ready, rotation⟩
      · obtain ⟨m', leads, wentOn, ready', surface, rotation'⟩ :=
        ready.turns_later m.camera.rotation
        exact ⟨_, false, m', first.append leads, went.trans wentOn, .unstarted s undone, ready',
          surface.trans linked, rotation'.trans rotation⟩
      · obtain rfl := List.map_eq_nil_iff.mp inOrder
        obtain ⟨outcome, m', leads, wentOn, ready', surface, rotation'⟩ :=
          ready.turns m.camera.rotation
        exact ⟨_, true, m', first.append leads, went.trans wentOn, .started s outcome, ready',
          surface.trans linked, rotation'⟩

/-! ### The other camera -/

/-- The other camera is open: the surface and the rotation are those of `m`, and nothing waits but
the turn of a camera that does not stream. -/
structure Switched (m : CameraMachine τ) (preview : Size) (streaming : Bool)
    (m' : CameraMachine τ) : Prop where
  facing : m'.camera.facing = m.camera.facing.flipped
  opened : m'.camera.device.opened = some m.camera.facing.flipped
  info : m'.camera.info = some (m.camera.device.infoOf m.camera.facing.flipped)
  previewSize : m'.camera.previewSize = some preview
  surface : m'.camera.surface = m.camera.surface
  rotation : m'.camera.rotation = m.camera.rotation
  gate : GateAt m'.camera.gate true streaming []
    (if streaming then [] else [.applyRotation m.camera.rotation])

/-- What a flip answers, and what it makes of the camera. -/
inductive Flips (m : CameraMachine τ) : CameraAnswer → CameraMachine τ → Prop
  | done {preview : Size} {relinking : List Exchange} {streaming : Bool} {m' : CameraMachine τ}
      (present : m.camera.device.spec.count ≠ 0)
      (largest : FirstLargest preview m.camera.device.spec.previewSizes)
      (relinks : Relinks (m.camera.device.infoOf m.camera.facing.flipped) preview m.camera.rotation
        m.camera.surface relinking streaming)
      (made : Made m (m.camera.stops ++ ⟨.openCamera m.camera.facing.flipped, .done⟩ :: relinking)
        (failuresIn relinking) m')
      (switched : Switched m preview streaming m') :
      Flips m (.ok (.flipped m.camera.facing.flipped ⟨m.camera.device.spec.count, preview⟩)) m'
  | missed {cause : Failure} {exchanges : List Exchange} {m' : CameraMachine τ}
      (misses : m.camera.device.spec.Misses m.camera.facing.flipped cause exchanges)
      (made : Made m (m.camera.stops ++ exchanges) [cause] m') (shut : Shut m m') :
      Flips m (.error cause) m'

/-! ### Flips -/

/-- What a flip goes on from: the camera has been released, and the other one is selected. -/
structure FlipsFrom (m r : CameraMachine τ) : Prop where
  made : Made m m.camera.stops [] r
  agreed : r.camera.Agreed
  closed : r.camera.isAt .initialized = false
  queues : ∀ stage, r.camera.gate.pending stage = []
  facing : r.camera.facing = m.camera.facing.flipped
  surface : r.camera.surface = none
  rotation : r.camera.rotation = m.camera.rotation
  spec : r.camera.device.spec = m.camera.device.spec
  info : r.camera.device.infoOf m.camera.facing.flipped =
    m.camera.device.infoOf m.camera.facing.flipped

theorem flipsFrom_released (agreed : m.camera.Agreed) :
    FlipsFrom m (m.release.select m.camera.facing.flipped) := by
  constructor
  · exact ⟨exchanges_released m.camera, told_append .., fun _ mem => mem⟩
  · exact ((moves_release m).follows.trans (moves_select _ _).follows).agreed agreed
  · exact Gate.isComplete_reset m.camera.gate .initialized
  · exact Gate.pending_reset m.camera.gate
  · rfl
  · rfl
  · rfl
  · show m.camera.released.device.spec = _
    unfold released
    split <;> rfl
  · show m.camera.released.device.infoOf _ = _
    unfold released
    split <;> rfl

theorem flip_of_error {cause : Failure}
    (failed : (m.release.select m.camera.facing.flipped).openSelected.2 = .error cause) :
    m.flip =
      { machine := (m.release.select m.camera.facing.flipped).openSelected.1.machine,
        work := (m.release.select m.camera.facing.flipped).openSelected.1.work ++
          [.reselect m.camera.facing],
        answer := .error cause } := by
  unfold CameraMachine.flip
  split
  next opened =>
    rw [opened] at failed
    cases failed
  next opening e answered =>
    rw [answered] at failed ⊢
    rw [Except.error.inj failed]

theorem flip_of_ok {known : Capabilities}
    (opens : (m.release.select m.camera.facing.flipped).openSelected.2 = .ok known) :
    m.flip =
      { machine := (m.release.select m.camera.facing.flipped).openSelected.1.machine,
        work := (m.release.select m.camera.facing.flipped).openSelected.1.work ++
          m.camera.surface.toList.map (fun s => .offer (.linkSurface s)) ++
          [.offer (.applyRotation m.camera.rotation)],
        answer := .ok (.flipped m.camera.facing.flipped known) } := by
  unfold CameraMachine.flip
  split
  next opening capabilities answered =>
    rw [answered] at opens ⊢
    rw [Except.ok.inj opens]
  next failed =>
    rw [failed] at opens
    cases opens

theorem flips_missed (agreed : m.camera.Agreed) (hushed : Hushed m) {cause : Failure}
    (failed : (m.release.select m.camera.facing.flipped).openSelected.2 = .error cause) :
    ∃ m', Performed m .flip (.error cause) m' ∧ Flips m (.error cause) m' := by
  have released := flipsFrom_released agreed
  have flip := flip_of_error failed
  obtain ⟨exchanges, m₁, leads, misses, made, shut⟩ :=
    opening_missed released.agreed released.closed released.surface (released.made.hushed hushed)
      failed
  rw [released.facing, released.spec] at misses
  have selected : Made m₁ [] [] (m₁.select m.camera.facing) := made_nothing rfl rfl rfl
  refine ⟨m₁.select m.camera.facing, ⟨congrArg CameraStart.answer flip, ?_⟩,
    .missed misses (released.made.trans (made.quietly selected)) ?_⟩
  · show m.flip.toCameraMove.LeadsTo _
    rw [flip]
    exact leads.append (leadsTo_reselect m₁ m.camera.facing)
  · exact ⟨rfl, shut.rotation.trans released.rotation, shut.surface, shut.opened, shut.stages,
      shut.queues⟩

theorem flips_done (agreed : m.camera.Agreed) (hushed : Hushed m) {known : Capabilities}
    (opens : (m.release.select m.camera.facing.flipped).openSelected.2 = .ok known) :
    ∃ m', Performed m .flip (.ok (.flipped m.camera.facing.flipped known)) m' ∧
      Flips m (.ok (.flipped m.camera.facing.flipped known)) m' := by
  have released := flipsFrom_released agreed
  have flip := flip_of_ok opens
  have bodies : ∀ receiver, .takePicture receiver ∈
      (m.release.select m.camera.facing.flipped).camera.gate.pending .previewStarted →
        receiver.body = [] := by
    rw [released.queues]
    exact fun _ mem => absurd mem List.not_mem_nil
  obtain ⟨preview, m₁, present, largest, rfl, opening, opened⟩ :=
    opening_done released.agreed released.closed (released.made.hushed hushed) bodies opens
  have ready := opened.ready
  rw [released.queues, released.queues, released.facing, released.info] at ready
  rw [released.spec] at present largest flip ⊢
  have made := opened.made
  rw [released.facing] at made
  obtain ⟨relinking, streaming, m', leads, went, relinks, ready', surface, rotation⟩ :=
    ready.relinks (opened.surface.trans released.surface) m.camera.surface
  rw [opened.rotation, released.rotation] at leads relinks ready' rotation
  refine ⟨m', ⟨congrArg CameraStart.answer flip, ?_⟩, .done present largest relinks
    (released.made.trans (made.trans went.toMade)) ?_⟩
  · show m.flip.toCameraMove.LeadsTo m'
    rw [flip, opening, List.append_assoc]
    exact (leadsTo_dispatched _ ready.gate.links).append leads
  · exact ⟨(went.steady.facing.trans opened.facing).trans released.facing,
      (went.steady.device.opened.trans opened.opened).trans (congrArg some released.facing),
      ready'.known, ready'.size, surface, rotation, ready'.gate⟩

/-- **Flips.**  At every moment of a run at which the listener does nothing, a flip stops the camera
if it is open and tries once to open the other one, if there are cameras at all.  If that one can be
used, the flip answers with it, the number of cameras and the first of the largest sizes; it starts
a preview of this size into the surface recorded before, if there is one, and if the preview starts,
turns the picture once, as recorded, and otherwise leaves this turn to wait alone.  The listener is
told of these calls if they are not done.  If the other camera cannot be used, the flip answers why,
the listener has been told once, and the camera is left closed with the selection as it was and
nothing waiting. -/
theorem Reached.performs_flip (h : Reached m) (hushed : Hushed m) :
    ∃ answer m', Performed m .flip answer m' ∧ Flips m answer m' := by
  cases result : (m.release.select m.camera.facing.flipped).openSelected.2 with
  | error cause => exact ⟨_, flips_missed h.agreed hushed result⟩
  | ok known => exact ⟨_, flips_done h.agreed hushed result⟩

/-- A camera that streams, over a device that refuses the second preview. -/
def streamingOnce : CameraMachine Unit :=
  steps 9 (((ofDevice { refusals := { startPreview := { refused := [1] } } } .back).enter
    (.linkSurface 7)).enter .openCamera)

theorem reached_streamingOnce : Reached streamingOnce :=
  Reached.steps (.enter _ (.enter _ (.fresh ..) rfl) rfl) 9

/-- It is flipped although the preview of the other camera is refused. -/
theorem performs_flip_unstarted : streamingOnce.camera.isAt .previewStarted = true ∧
    ∃ m', Performed streamingOnce .flip (.ok (.flipped .front ⟨2, ⟨1920, 1080⟩⟩)) m' ∧
      Flips streamingOnce (.ok (.flipped .front ⟨2, ⟨1920, 1080⟩⟩)) m' := by
  obtain ⟨answer, m', performed, flips⟩ :=
    reached_streamingOnce.performs_flip fun _ mem => absurd mem List.not_mem_nil
  obtain rfl : .ok (.flipped .front ⟨2, ⟨1920, 1080⟩⟩) = answer := performed.answer
  exact ⟨rfl, m', performed, flips⟩

end CameraMachine

end CaptureFlow
