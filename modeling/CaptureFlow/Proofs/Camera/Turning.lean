import CaptureFlow.Proofs.Camera.Switching
import CaptureFlow.Proofs.Camera.Turns
/-! # Rotations and flips

A flip hands the rotation that is recorded to the gate again, after everything that has waited was
discarded.  So when the preview of the other camera runs, the last rotation sent to it is the one
that was recorded at the flip.  This is the rotation requested last if the request has been served
by then.  If it still waits, because no preview has started yet, it is discarded with the rest, and
the camera is turned by a rotation that was requested before, or by none that ever was
(`Reached.rotation_after_flip`). -/

namespace CaptureFlow.CameraMachine

open GatedCamera

variable {τ : Type} {m m' m₀ m₁ m₂ m₃ : CameraMachine τ} {op : CameraOp τ} {reply : CameraReply}

/-! ### What a flip leaves -/

theorem opens_of_flip (answered : m.flip.answer = .ok reply) :
    ∃ known, (m.release.select m.camera.facing.flipped).openSelected.2 = .ok known := by
  cases result : (m.release.select m.camera.facing.flipped).openSelected.2 with
  | ok known => exact ⟨known, rfl⟩
  | error cause =>
      rw [flip_of_error result] at answered
      cases answered

/-- The one turn that a flip leaves is by the rotation recorded before. -/
theorem turns_of_flip (answered : m.flip.answer = .ok reply) :
    m.flip.work.filterMap CameraTask.turn? = [m.camera.rotation] := by
  obtain ⟨known, opens⟩ := opens_of_flip answered
  have links : ∀ surface : Option UInt64, (surface.toList.map fun s =>
      (.offer (.linkSurface s) : CameraTask τ)).filterMap CameraTask.turn? = [] := by
    intro surface
    cases surface <;> rfl
  rw [flip_of_ok opens]
  simp only [List.filterMap_append, unturned_of_onward (onward_openSelected _), links]
  rfl

/-- Where an operation is performed does not matter for the turns that flips have left. -/
theorem Below.left_eq {rest : List (CameraTask τ)} (h : Below m op rest) :
    rest.filterMap CameraTask.turn? = m.turns.left := by
  show _ = m.stack.filterMap CameraTask.turn?
  cases h with
  | outside idle => rw [idle]
  | within stack =>
      rw [stack]
      rfl

/-- After a flip the other camera is open, and all turns are by the rotation recorded before. -/
theorem flip_leaves (agreed : m.camera.Agreed) (answered : (m.start .flip).answer = .ok reply)
    (flips : Next m (some .flip) m') (left : m.turns.left = []) :
    OpenAs (m.camera.device.infoOf m.camera.facing.flipped) m' ∧
      m'.turns.EndsIn (m.camera.device.infoOf m.camera.facing.flipped) m.camera.rotation := by
  obtain ⟨rest, below, rfl⟩ := flips.performs
  obtain ⟨known, opens⟩ := opens_of_flip answered
  have released := flipsFrom_released agreed
  have opened := nowOpen_of_ok released.agreed released.closed opens
  have info := opened.info
  rw [← machine_flip, released.facing, released.info] at info
  have initialized := opened.initialized
  rw [← machine_flip] at initialized
  have turn := turns_of_flip answered
  have queues := queues_flip agreed .previewStarted
  refine ⟨⟨(follows_flip m agreed).1.agreed agreed, initialized, info⟩, ?_⟩
  have after : CameraMachine.turns { m.flip.machine with stack := m.flip.work ++ rest } =
      m.flip.machine.camera.turns [m.camera.rotation] := by
    rw [CameraMachine.turns, List.filterMap_append, turn, below.left_eq, left, List.append_nil]
  show Turns.EndsIn _ _ (CameraMachine.turns { m.flip.machine with stack := m.flip.work ++ rest })
  rw [after]
  constructor
  · exact fun r mem => List.mem_singleton.mp mem
  · intro r mem
    have waits : r ∈ (m.flip.machine.camera.gate.pending .previewStarted).filterMap
      CameraAction.turn? := mem
    rw [queues] at waits
    cases waits
  · exact .inl (List.cons_ne_nil _ _)

/-! ### The rotation requested last -/

/-- **Rotations and flips.**  A rotation is requested of an open camera with no turn under way, no
other one is requested afterwards, and the camera is flipped to the other one, which streams then.
If no turn waits at the flip, the last rotation sent is the one requested.  Otherwise the turn that
waits last is the one requested; it is discarded, and the last rotation sent is the one recorded
before. -/
theorem Reached.rotation_after_flip {degrees : UInt16} {rotation : ScreenRotation} (h : Reached m₀)
    (opened : m₀.camera.isAt .initialized = true)
    (caughtUp : m₀.turns.CaughtUp (m₀.camera.isAt .previewStarted))
    (asks : Next m₀ (some (.setScreenRotation degrees)) m₁)
    (read : ScreenRotation.read degrees = .ok rotation) (before : Untouched m₁ m)
    (flips : Next m (some .flip) m₂) (answered : (m.start .flip).answer = .ok reply)
    (after : Untouched m₂ m₃) (done : m₃.turns.CaughtUp (m₃.camera.isAt .previewStarted))
    (streams : m₃.camera.isAt .previewStarted = true) :
    m₃.camera.info = some (m.camera.device.infoOf m.camera.facing.flipped) ∧
      (m.turns.waiting = [] ∧
          m₃.turns.SentLast (m.camera.device.infoOf m.camera.facing.flipped) rotation ∨
        m.turns.waiting.getLast? = some rotation ∧
          m₃.turns.SentLast (m.camera.device.infoOf m.camera.facing.flipped)
            m.camera.rotation) := by
  obtain ⟨_, info, _, -, -, known, -⟩ := h.recorded.known opened
  have first : OpenAs info m₀ := ⟨h.agreed, opened, known⟩
  have stays : ∀ op, some (CameraOp.setScreenRotation (τ := τ) degrees) = some op →
      op.closes = false := by
    rintro _ ⟨⟩
    rfl
  have request := asks.turns first stays
  have asked :
      (some (CameraOp.setScreenRotation (τ := τ) degrees)).bind CameraOp.turn? = some rotation := by
    simp only [Option.bind_some, CameraOp.turn?, read, Except.toOption]
  rw [asked] at request
  -- until the flip the rotation stays the one requested last
  obtain ⟨opened, left, requested⟩ := before.keeps
    (P := fun t => t.left = [] ∧ t.requested = rotation) (first.next asks stays)
    (fun goes holds => ⟨(goes.requested holds.1).1, (goes.requested holds.1).2.trans holds.2⟩)
    (request.asks caughtUp)
  -- after it the rotation recorded at the flip is the only one left to be sent
  obtain ⟨flipped, ends⟩ := flip_leaves opened.agreed answered flips left
  obtain ⟨last, ends⟩ := after.keeps flipped (fun goes ends => goes.endsIn ends) ends
  have sent := ends.sentLast done.left (done.waiting streams)
  refine ⟨last.known, ?_⟩
  rw [Turns.requested, List.getLastD_eq_getLast?] at requested
  cases waits : m.turns.waiting.getLast? with
  | none =>
      rw [waits] at requested
      have recorded : m.camera.rotation = rotation := requested
      exact .inl ⟨List.getLast?_eq_none_iff.mp waits, recorded ▸ sent⟩
  | some last =>
      rw [waits] at requested
      exact .inr ⟨congrArg some requested, sent⟩

/-- A camera that has been opened, whose first previews may be refused, with a surface linked. -/
def linked (refused : List Nat) : CameraMachine Unit :=
  steps 1 ((steps 1 ((ofDevice { refusals := { startPreview := { refused } } } .back).enter
    .openCamera)).enter (.linkSurface 7))

theorem reached_linked (refused : List Nat) : Reached (linked refused) :=
  Reached.steps (.enter _ (Reached.steps (.enter _ (.fresh ..) rfl) 1) rfl) 1

/-- A camera that streams and has been turned. -/
def turnedOnce : CameraMachine Unit := (linked []).enter (.setScreenRotation 90)

/-- The other camera is turned the same way when it streams. -/
theorem rotation_after_flip_streaming :
    (steps 4 (turnedOnce.enter .flip)).camera.isAt .previewStarted = true ∧
      (steps 4 (turnedOnce.enter .flip)).turns.SentLast (turnedOnce.camera.device.infoOf .front)
        .quarter := by
  have reached : Reached turnedOnce := .enter _ (reached_linked []) rfl
  have flipped : Reached (steps 4 (turnedOnce.enter .flip)) :=
    Reached.steps (.enter _ reached rfl) 4
  have answered : (turnedOnce.start .flip).answer = .ok (.flipped .front ⟨2, ⟨1920, 1080⟩⟩) := rfl
  refine ⟨rfl, ?_⟩
  obtain ⟨-, ⟨-, sent⟩ | ⟨waits, -⟩⟩ := (reached_linked []).rotation_after_flip rfl
    ((reached_linked []).caughtUp rfl) (.enter _ rfl) rfl .now (.enter .flip rfl) answered
    (Untouched.now.steps 4 (by decide)) (flipped.caughtUp rfl) rfl
  · exact sent
  · cases waits

/-- A camera whose preview was refused is asked to be turned, and flipped.  The preview of the other
camera starts, and it is turned upright, which nobody has asked for. -/
theorem rotation_lost : ∃ m₀ m₁ m₂ m₃ : CameraMachine Unit, Reached m₀ ∧ m₀.stack = [] ∧
    m₀.camera.isAt .initialized = true ∧ Next m₀ (some (.setScreenRotation 90)) m₁ ∧
    ScreenRotation.read 90 = .ok .quarter ∧ Next m₁ (some .flip) m₂ ∧
    (m₁.start .flip).answer = .ok (.flipped .front ⟨2, ⟨1920, 1080⟩⟩) ∧ Untouched m₂ m₃ ∧
    m₃.stack = [] ∧ m₃.camera.isAt .previewStarted = true ∧
    ¬m₃.turns.SentLast (m₁.camera.device.infoOf m₁.camera.facing.flipped) .quarter := by
  refine ⟨linked [0], _, _, _, reached_linked [0], rfl, rfl, .enter _ rfl, rfl, .enter .flip rfl,
    rfl, Untouched.now.steps 4 (by decide), rfl, rfl, ?_⟩
  rintro ⟨earlier, outcome, sent⟩
  have upright : [] ++ [⟨.setRotation 270, .done⟩] =
      earlier ++ [CameraInfo.turned ⟨.front, 90, _⟩ .quarter outcome] := sent
  cases (List.append_singleton_inj.mp upright).2

end CaptureFlow.CameraMachine
