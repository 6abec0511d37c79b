import CaptureFlow.Proofs.Camera.Records
/-! # The open camera and the selected one

The camera that is open is the one that is selected, except after a flip that failed and whose
listener has opened the other camera: the flip then goes back to the camera that was selected
before, and the other one stays open.

A step leaves selection and open camera alone (`Steady`), or it opens the selected camera or leaves
none open (`Selects`), or it goes back to the camera selected before a flip (`selection_step`).  So
whenever a camera is open, it is the selected one or has been left behind (`LeftBehind`) since it
was opened, and never both (`Reached.selected_iff`). -/

namespace CaptureFlow

/-! ### Operations and the selection -/

namespace GatedCamera

variable {β : Type}

/-- Whatever camera is open is the selected one. -/
def Selects (c : GatedCamera β) : Prop :=
  c.isAt .initialized = true → c.device.opened = some c.facing

theorem selects_of_closed {c : GatedCamera β} (closed : c.isAt .initialized = false) :
    Selects c := by
  intro initialized
  rw [closed] at initialized
  cases initialized

theorem Opened.selects {c c' : GatedCamera β} (h : Opened c c') : Selects c' := fun _ =>
  h.facing.symm ▸ h.opened

theorem Selects.stays {c c' : GatedCamera β} (h : Selects c) (steady : Steady c c') :
    Selects c' := by
  intro initialized
  rw [steady.initialized] at initialized
  rw [steady.device.opened, steady.facing, h initialized]

end GatedCamera

namespace CameraMachine

open GatedCamera

variable {τ : Type}

theorem steady_run (m : CameraMachine τ) (action : CameraAction (Receiver τ)) :
    Steady m.camera (m.run action).machine.camera := by
  obtain ⟨camera, steady, outcome⟩ := outcome_run m action
  rwa [outcome.camera_eq]

theorem steady_submit (m : CameraMachine τ) (action : CameraAction (Receiver τ)) :
    Steady m.camera (m.submit action).machine.camera := by
  obtain ⟨camera, steady, outcome⟩ := outcome_submit m action
  rwa [outcome.camera_eq]

/-- A camera that is to be opened stays as it is, or the selected one is opened, or none is open. -/
theorem selection_openSelected (m : CameraMachine τ) (agreed : m.camera.Agreed) :
    Steady m.camera m.openSelected.1.machine.camera ∨
      Selects m.openSelected.1.machine.camera := by
  cases initialized : m.camera.isAt .initialized with
  | true =>
      obtain ⟨capabilities, same⟩ := openSelected_of_open agreed initialized
      rw [same]
      exact .inl (.refl _)
  | false =>
      have gate := gate_openSelected m.camera
      simp only [openSelected, initialized, Bool.false_eq_true, if_false]
      split
      next capabilities camera opened =>
        rw [opened] at gate
        obtain ⟨gate', first, completed, after⟩ :=
          reach_eq (m.withCamera camera) (gate ▸ agreed.stages) .initialized
        dsimp only
        rw [after]
        exact .inr (opened_of_openSelected initialized opened completed).selects
      next cause camera failed =>
        refine .inr (selects_of_closed ?_)
        rw [camera_fail]
        exact Gate.isComplete_reset camera.gate .initialized

/-- The first moves of a flip open the camera that they select, or none. -/
theorem selects_flip (m : CameraMachine τ) (agreed : m.camera.Agreed) :
    Selects m.flip.machine.camera := by
  have before : (m.release.select m.camera.facing.flipped).camera.Agreed :=
    ((moves_release m).follows.trans (moves_select _ _).follows).agreed agreed
  have after : Selects
      (m.release.select m.camera.facing.flipped).openSelected.1.machine.camera := by
    rcases selection_openSelected _ before with steady | selects
    · apply selects_of_closed
      rw [steady.initialized]
      exact Gate.isComplete_reset m.camera.gate .initialized
    · exact selects
  unfold flip
  split
  next opened =>
    rw [opened] at after
    exact after
  next failed =>
    rw [failed] at after
    exact after

theorem selection_start (m : CameraMachine τ) (op : CameraOp τ) (agreed : m.camera.Agreed) :
    Steady m.camera (m.start op).machine.camera ∨ Selects (m.start op).machine.camera := by
  cases op with
  | openCamera => exact selection_openSelected m agreed
  | linkSurface surface => exact .inl (steady_submit m _)
  | setScreenRotation degrees =>
      simp only [start]
      split
      · exact .inl (.refl _)
      · exact .inl (steady_submit m _)
  | capture tag body =>
      exact .inl (steady_submit ({ m with tickets := m.tickets + 1 }.log [.requested m.tickets]) _)
  | release => exact .inr (selects_of_closed (Gate.isComplete_reset m.camera.gate .initialized))
  | flip => exact .inr (selects_flip m agreed)
  | describe => exact .inl (.refl _)

/-- Only going back to the camera selected before a flip can part the selection from the open
camera. -/
theorem selection_step {m m' : CameraMachine τ} (h : m.step = some m') (agreed : m.camera.Agreed) :
    Steady m.camera m'.camera ∨ Selects m'.camera ∨
      ∃ facing rest, m.stack = .reselect facing :: rest ∧ m'.camera = { m.camera with facing } := by
  obtain ⟨_, _, _, _, rest, stack, works, rfl⟩ := step_inv h
  cases works with
  | ended | reported | emptied | missing => exact .inl (.refl _)
  | performed origin op ops =>
      rcases selection_start m op agreed with steady | selects
      · exact .inl steady
      · exact .inr (.inl selects)
  | taken taken =>
      obtain ⟨camera, steady, outcome⟩ := outcome_take taken
      rw [← outcome.camera_eq] at steady
      exact .inl steady
  | offered offered =>
      obtain ⟨camera, steady, outcome⟩ := outcome_offer? offered
      rw [← outcome.camera_eq] at steady
      exact .inl steady
  | reselected facing => exact .inr (.inr ⟨facing, rest, stack, rfl⟩)

/-! ### Cameras left behind -/

/-- The moments of a run from `m₀` on. -/
inductive Later (m₀ : CameraMachine τ) : CameraMachine τ → Prop
  | now : Later m₀ m₀
  | enter {m : CameraMachine τ} (op : CameraOp τ) (later : Later m₀ m) (idle : m.stack = []) :
      Later m₀ (m.enter op)
  | step {m m' : CameraMachine τ} (later : Later m₀ m) (stepped : m.step = some m') : Later m₀ m'

theorem Later.next {m₀ m m' : CameraMachine τ} {op? : Option (CameraOp τ)} (h : Later m₀ m)
    (next : Next m op? m') : Later m₀ m' := by
  cases next with
  | enter op idle => exact h.enter op idle
  | step stepped => exact h.step stepped

theorem Later.induction {m₀ m : CameraMachine τ} {P : CameraMachine τ → Prop} (h : Later m₀ m)
    (now : P m₀)
    (next : ∀ m op? m', Later m₀ m → Next m op? m' → P m → P m') : P m := by
  induction h with
  | now => exact now
  | enter op since idle ih => exact next _ _ _ since (.enter op idle) ih
  | step since stepped ih => exact next _ _ _ since (.step stepped) ih

theorem Later.steps {m₀ m : CameraMachine τ} (h : Later m₀ m) (n : Nat) :
    Later m₀ (CameraMachine.steps n m) := by
  induction n generalizing m with
  | zero => exact h
  | succ n ih =>
      rw [CameraMachine.steps]
      split
      · exact h
      next m' stepped => exact ih (h.step stepped)

/-- At `m₀` a flip that failed goes back to a camera although another one is open.  By `m` the one
that it went back to is selected, and the other one has stayed open. -/
structure LeftBehindAt (m₀ m : CameraMachine τ) : Prop where
  reached : Reached m₀
  back : ∃ rest m₁, m₀.stack = .reselect m.camera.facing :: rest ∧ m₀.step = some m₁ ∧ Later m₁ m
  other : m₀.camera.device.opened.isSome = true ∧
    m₀.camera.device.opened ≠ some m.camera.facing
  kept : m₀.camera.device.Kept m.camera.device

/-- The open camera has been left behind by a flip since it was opened. -/
def LeftBehind (m : CameraMachine τ) : Prop := ∃ m₀, LeftBehindAt m₀ m

variable {m m' : CameraMachine τ}

/-- A camera left behind stays so as long as nothing is opened, closed or selected. -/
theorem LeftBehind.stays (h : LeftBehind m) (steady : Steady m.camera m'.camera)
    (later : ∀ m₁, Later m₁ m → Later m₁ m') : LeftBehind m' := by
  obtain ⟨m₀, left⟩ := h
  obtain ⟨rest, m₁, stack, stepped, since⟩ := left.back
  refine ⟨m₀, left.reached, ⟨rest, m₁, ?_, stepped, later m₁ since⟩, ?_,
    left.kept.trans steady.device⟩
  · rw [steady.facing]
    exact stack
  · rw [steady.facing]
    exact left.other

/-- Whatever camera is open is the selected one, or it has been left behind. -/
def SelectsOrLeft (m : CameraMachine τ) : Prop :=
  m.camera.isAt .initialized = true →
    m.camera.device.opened = some m.camera.facing ∨ LeftBehind m

theorem SelectsOrLeft.stays (h : SelectsOrLeft m) (steady : Steady m.camera m'.camera)
    (later : ∀ m₁, Later m₁ m → Later m₁ m') : SelectsOrLeft m' := by
  intro initialized
  rw [steady.initialized] at initialized
  rcases h initialized with selected | left
  · left
    rw [steady.device.opened, steady.facing, selected]
  · exact .inr (left.stays steady later)

theorem Reached.selectsOrLeft (h : Reached m) : SelectsOrLeft m := by
  induction h with
  | fresh =>
      intro initialized
      cases initialized
  | @enter m op reached idle ih =>
      rcases selection_start m op reached.agreed with steady | selects
      · exact ih.stays steady fun m₁ since => since.enter op idle
      · exact fun initialized => .inl (selects initialized)
  | @step m m' reached stepped ih =>
      rcases selection_step stepped reached.agreed with
        steady | selects | ⟨facing, rest, stack, camera⟩
      · exact ih.stays steady fun m₁ since => since.step stepped
      · exact fun initialized => .inl (selects initialized)
      · intro initialized
        by_cases same : m.camera.device.opened = some facing
        · left
          rw [camera]
          exact same
        · right
          have opened : m.camera.device.opened.isSome = true := by
            rw [← reached.agreed.opened]
            rwa [camera] at initialized
          refine ⟨m, reached, ⟨rest, m', ?_, stepped, .now⟩, ?_, ?_⟩
          · rw [camera]
            exact stack
          · rw [camera]
            exact ⟨opened, same⟩
          · rw [camera]
            exact .refl _

/-- Whatever camera is open is the selected one if and only if none has been left behind. -/
theorem Reached.selects_iff (h : Reached m) : m.camera.Selects ↔ ¬LeftBehind m := by
  constructor
  · rintro selects ⟨m₀, left⟩
    -- the camera left behind is still open
    have opened := left.kept.opened
    have initialized : m.camera.isAt .initialized = true := by
      rw [h.agreed.opened, opened]
      exact left.other.1
    exact left.other.2 (opened.symm.trans (selects initialized))
  · exact fun kept initialized => (h.selectsOrLeft initialized).resolve_right kept

/-- An open camera was opened last to where it looks. -/
theorem Reached.lastOpened_iff (h : Reached m) (initialized : m.camera.isAt .initialized = true)
    (facing : Facing) :
    (∃ info, m.camera.device.LastOpened facing info) ↔ m.camera.device.opened = some facing := by
  obtain ⟨facing', info, preview, opened, last, _⟩ := h.recorded.known initialized
  rw [opened]
  constructor
  · rintro ⟨info', last'⟩
    rw [last.unique last']
  · rintro ⟨⟩
    exact ⟨info, last⟩

/-- **The selected camera.**  At every moment of a run at which a camera is open, it was opened as
the selected camera if and only if no flip has left it behind: if the listener, told that a flip has
failed, opens the other camera, the flip still goes back to the camera that was selected before. -/
theorem Reached.selected_iff (h : Reached m) (initialized : m.camera.isAt .initialized = true) :
    (∃ info, m.camera.device.LastOpened m.camera.facing info) ↔ ¬LeftBehind m := by
  rw [h.lastOpened_iff initialized, ← h.selects_iff]
  exact ⟨fun selected _ => selected, fun selects => selects initialized⟩

/-- A flip of the open camera whose opening is refused, and what the listener does then. -/
def refusedFlip (reaction : List (CameraOp Unit)) : CameraMachine Unit :=
  steps 9 ((steps 1 ((ofDevice { refusals := { openCamera := { refused := [1] } } } .back
    [reaction]).enter .openCamera)).enter .flip)

theorem reached_refusedFlip (reaction : List (CameraOp Unit)) : Reached (refusedFlip reaction) :=
  Reached.steps (.enter _ (Reached.steps (.enter _ (.fresh ..) rfl) 1) rfl) 9

/-- A listener that does nothing leaves the camera closed, and it can be opened again; one that
opens the camera has it left behind. -/
theorem selected_iff_refusedFlip :
    (steps 1 ((refusedFlip []).enter .openCamera)).camera.isAt .initialized = true ∧
    ¬LeftBehind (steps 1 ((refusedFlip []).enter .openCamera)) ∧
    (refusedFlip [.openCamera]).camera.isAt .initialized = true ∧
    LeftBehind (refusedFlip [.openCamera]) := by
  have again : Reached (steps 1 ((refusedFlip []).enter .openCamera)) :=
    Reached.steps (.enter _ (reached_refusedFlip []) rfl) 1
  have left := reached_refusedFlip [.openCamera]
  refine ⟨rfl, ?_, rfl, ?_⟩
  · rw [← again.selected_iff rfl, again.lastOpened_iff rfl]
    rfl
  · by_contra kept
    rw [← left.selected_iff rfl, left.lastOpened_iff rfl] at kept
    cases kept

/-- With nothing left to do, the back camera is selected and the front camera is open. -/
theorem open_not_selected : ∃ m : CameraMachine Unit, Reached m ∧ m.stack = [] ∧
    m.camera.isAt .initialized = true ∧ m.camera.facing = .back ∧
    (∃ info, m.camera.device.LastOpened .front info) ∧
    ¬∃ info, m.camera.device.LastOpened m.camera.facing info := by
  have reached := reached_refusedFlip [.openCamera]
  refine ⟨_, reached, rfl, rfl, rfl, ?_, ?_⟩
  · rw [reached.lastOpened_iff rfl]
    rfl
  · rw [reached.lastOpened_iff rfl]
    intro selected
    cases selected

end CameraMachine

end CaptureFlow
