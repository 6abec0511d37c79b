import CaptureFlow.Proofs.Camera.Outcome
/-! # What a camera records

A gated camera records what its device has told and what it has been asked for: the information on
the open camera, the size of its preview and the surface that it streams into.  These go by the
flags of the gate (`Recorded`): a camera that streams has a surface, only an open one has, and what
is known of an open camera is what its device answered when it was opened last.

`InStep` puts this together with the agreement between gate and device.  It holds at every moment
of a run (`Reached.in_step`), so also when the receiver of a picture or the listener is called, for
each such call has a moment of its own (`Reached.called_at`). -/

namespace CaptureFlow

namespace GatedCamera

variable {β : Type} {c c' : GatedCamera β}

/-! ### The records of a camera -/

/-- What is recorded goes by the flags of the gate. -/
structure Recorded (c : GatedCamera β) : Prop where
  linked : c.isAt .previewStarted = true → c.surface.isSome = true
  open_of_linked : c.surface.isSome = true → c.isAt .initialized = true
  known : c.isAt .initialized = true → ∃ facing info preview, c.device.opened = some facing ∧
    c.device.LastOpened facing info ∧ c.info = some info ∧ c.previewSize = some preview ∧
    FirstLargest preview info.previewSizes

theorem recorded_of_closed (closed : ∀ stage, c.isAt stage = false) (surface : c.surface = none) :
    Recorded c := by
  constructor
  · intro streaming
    rw [closed] at streaming
    cases streaming
  · intro linked
    rw [surface] at linked
    cases linked
  · intro initialized
    rw [closed] at initialized
    cases initialized

theorem Recorded.surface_of_closed (h : Recorded c) (closed : c.isAt .initialized = false) :
    c.surface = none := by
  by_contra linked
  rw [h.open_of_linked (Option.isSome_iff_ne_none.mpr linked)] at closed
  cases closed

/-- What is known of an open camera stays known as long as it stays open. -/
theorem Recorded.known_of_steady (h : Recorded c) (steady : Steady c c')
    (initialized : c'.isAt .initialized = true) :
    ∃ facing info preview, c'.device.opened = some facing ∧ c'.device.LastOpened facing info ∧
      c'.info = some info ∧ c'.previewSize = some preview ∧
      FirstLargest preview info.previewSizes := by
  rw [steady.initialized] at initialized
  obtain ⟨facing, info, preview, opened, last, known, size, largest⟩ := h.known initialized
  exact ⟨facing, info, preview, steady.device.opened.trans opened,
    last.later steady.device.toUnopened, steady.info.trans known, steady.previewSize.trans size,
    largest⟩

theorem Recorded.stays (h : Recorded c) (steady : Steady c c')
    (streaming : c'.isAt .previewStarted = c.isAt .previewStarted)
    (surface : c'.surface = c.surface) : Recorded c' := by
  constructor
  · rw [streaming, surface]
    exact h.linked
  · rw [surface, steady.initialized]
    exact h.open_of_linked
  · exact h.known_of_steady steady

theorem Recorded.links (h : Recorded c) (steady : Steady c c')
    (ready : c.isAt .initialized = true) (surface : c'.surface.isSome = true) : Recorded c' := by
  constructor
  · exact fun _ => surface
  · intro _
    rw [steady.initialized, ready]
  · exact h.known_of_steady steady

theorem Recorded.opens (h : Recorded c) (opened : Opened c c') : Recorded c' := by
  obtain ⟨info, preview, last, known, size, largest⟩ := opened.known
  constructor
  · rw [opened.previewStarted, opened.surface]
    exact h.linked
  · exact fun _ => opened.initialized
  · exact fun _ => ⟨c.facing, info, preview, opened.opened, last, known, size, largest⟩

theorem Recorded.fails_to_open (h : Recorded c) {cause : Failure}
    (closed : c.isAt .initialized = false) (failed : c.openSelected = (.error cause, c')) :
    Recorded { c' with gate := c'.gate.reset } := by
  apply recorded_of_closed
  · intro stage
    exact Gate.isComplete_reset c'.gate stage
  · have none := h.surface_of_closed closed
    rcases openSelected_error failed with ⟨_, rfl⟩ | ⟨_, _, rfl⟩ | ⟨_, _, _, _, _, rfl⟩ <;>
      exact none

theorem surface_startPreview (c : GatedCamera β) (surface : UInt64) :
    (c.startPreview surface).2.surface = some surface := by
  simp only [startPreview]
  split <;> rfl

theorem surface_applyRotation (c : GatedCamera β) (rotation : ScreenRotation) :
    (c.applyRotation rotation).2.surface = c.surface := by
  simp only [applyRotation]
  split <;> rfl

theorem Recorded.rotates (h : Recorded c) {rotation : ScreenRotation}
    {result : Except Failure Unit} (applied : c.applyRotation rotation = (result, c')) :
    Recorded c' := by
  obtain rfl : (c.applyRotation rotation).2 = c' := by rw [applied]
  refine h.stays (steady_applyRotation c rotation) ?_ (surface_applyRotation c rotation)
  rw [isAt, CameraMachine.gate_applyRotation, isAt]

theorem Recorded.takes (h : Recorded c) {result : Except Failure Frame}
    (taken : c.takePicture = (result, c')) : Recorded c' := by
  obtain rfl : c.takePicture.2 = c' := by rw [taken]
  exact h.stays (steady_takePicture c) rfl rfl

/-! ### Moves -/

variable {τ : Type}

theorem Due.recorded {c c' : GatedCamera (Receiver τ)} {action : CameraAction (Receiver τ)}
    (h : Due c action c') (recorded : Recorded c) : Recorded c' := by
  cases h with
  | offered => exact recorded
  | taken popped =>
      have flags := congrFun popped.flags
      exact recorded.stays (steady_withGate c (flags _)) (flags _) rfl

/-- An open camera records the surface that its preview is started into, whatever comes of it. -/
theorem Due.links {c c₁ c₂ : GatedCamera (Receiver τ)} {surface : UInt64}
    {result : Except Failure Unit} (h : Due c (.linkSurface surface) c₁) (agreed : Agreed c)
    (recorded : Recorded c) (started : c₁.startPreview surface = (result, c₂)) :
    Recorded c₂ ∧ c₂.isAt .initialized = true ∧ c₂.surface = some surface := by
  obtain ⟨_, ready⟩ := h.agreed agreed
  obtain rfl : (c₁.startPreview surface).2 = c₂ := by rw [started]
  have steady := steady_startPreview c₁ surface
  have linked := surface_startPreview c₁ surface
  refine ⟨(h.recorded recorded).links steady ready ?_, steady.initialized.trans ready, linked⟩
  rw [linked]
  rfl

theorem Moved.recorded {c c' : GatedCamera (Receiver τ)} {events : List (CameraEvent τ)}
    (h : Moved c c' events) (agreed : Agreed c) (recorded : Recorded c) : Recorded c' := by
  cases h with
  | requested | answered => exact recorded
  | selected facing => exact ⟨recorded.linked, recorded.open_of_linked, recorded.known⟩
  | released => exact recorded_of_closed (fun stage => Gate.isComplete_reset c.gate stage) rfl
  | opened closed opened completed =>
      exact recorded.opens (opened_of_openSelected closed opened completed)
  | notOpened closed failed => exact recorded.fails_to_open closed failed
  | queued queued =>
      have flags := congrFun queued.flags
      exact recorded.stays (steady_withGate c (flags _)) (flags _) rfl
  | linked due started completed =>
      obtain ⟨after, ready, surface⟩ := due.links agreed recorded started
      refine after.links (steady_streaming _ completed) ready ?_
      rw [surface]
      rfl
  | notLinked due failed => exact (due.links agreed recorded failed).1
  | turned due applied => exact (due.recorded recorded).rotates applied
  | notTurned due failed => exact (due.recorded recorded).rotates failed
  | pictured due taken => exact (due.recorded recorded).takes taken
  | notPictured due failed => exact (due.recorded recorded).takes failed

/-! ### Gate, device and records -/

/-- The gate tells in which state the device is, and what is recorded goes by it. -/
structure InStep (c : GatedCamera β) : Prop where
  opened : c.isAt .initialized = true ↔ c.device.opened.isSome = true
  streaming : c.isAt .previewStarted = true ↔ c.device.previewing = true
  linked : c.isAt .previewStarted = true →
    c.isAt .initialized = true ∧ c.surface.isSome = true
  open_of_linked : c.surface.isSome = true → c.isAt .initialized = true
  known : c.isAt .initialized = true → ∃ facing info preview,
    c.device.LastOpened facing info ∧ c.info = some info ∧ c.previewSize = some preview ∧
      FirstLargest preview info.previewSizes

theorem inStep_of_recorded (agreed : Agreed c) (recorded : Recorded c) : InStep c := by
  constructor
  · rw [agreed.opened]
  · rw [agreed.previewing]
  · intro streaming
    exact ⟨agreed.initialized_of_previewStarted streaming, recorded.linked streaming⟩
  · exact recorded.open_of_linked
  · intro initialized
    obtain ⟨facing, info, preview, _, known⟩ := recorded.known initialized
    exact ⟨facing, info, preview, known⟩

end GatedCamera

/-! ### Calls to the outside -/

/-- Whether someone outside is called: the receiver of a picture, or the listener. -/
def CameraEvent.isCall {τ : Type} : CameraEvent τ → Bool
  | .delivered .. => true
  | .failed .. => true
  | _ => false

namespace CameraMachine

variable {τ : Type}

/-- Between `m` and `m'` at most one call to the outside has been made, and it is the last thing
that has happened. -/
def CallsLast (m m' : CameraMachine τ) : Prop :=
  ∃ (quiet : List (CameraEvent τ)) (last : Option (CameraEvent τ)),
    m'.trace = m.trace ++ quiet ++ last.toList ∧ ∀ e ∈ quiet, e.isCall = false

theorem callsLast_same {m m' : CameraMachine τ} (trace : m'.trace = m.trace) : CallsLast m m' :=
  ⟨[], none, by rw [trace, List.append_nil, Option.toList_none, List.append_nil],
    fun _ mem => absurd mem List.not_mem_nil⟩

theorem callsLast_one {m m' : CameraMachine τ} {e : CameraEvent τ}
    (trace : m'.trace = m.trace ++ [e]) : CallsLast m m' :=
  ⟨[], some e, by rw [trace, List.append_nil, Option.toList_some],
    fun _ mem => absurd mem List.not_mem_nil⟩

theorem CallsLast.after {m m₁ m' : CameraMachine τ} {e : CameraEvent τ} (h : CallsLast m₁ m')
    (trace : m₁.trace = m.trace ++ [e]) (silent : e.isCall = false) : CallsLast m m' := by
  obtain ⟨quiet, last, trace', silent'⟩ := h
  refine ⟨e :: quiet, last, by rw [trace', trace, List.append_assoc m.trace]; rfl, ?_⟩
  intro x mem
  rcases List.mem_cons.mp mem with rfl | mem
  · exact silent
  · exact silent' x mem

theorem Outcome.callsLast {m : CameraMachine τ} {camera : GatedCamera (Receiver τ)}
    {move : CameraMove τ} (h : Outcome m camera move) : CallsLast m move.machine := by
  cases h with
  | silent => exact callsLast_same rfl
  | delivered => exact callsLast_one rfl
  | failed cause ticket => exact callsLast_one (trace_fail (m.withCamera camera) cause ticket)

theorem callsLast_submit (m : CameraMachine τ) (action : CameraAction (Receiver τ)) :
    CallsLast m (m.submit action).machine := by
  obtain ⟨_, _, outcome⟩ := outcome_submit m action
  exact outcome.callsLast

theorem callsLast_openSelected (m : CameraMachine τ) :
    CallsLast m m.openSelected.1.machine := by
  unfold openSelected
  split
  · exact callsLast_same rfl
  · split
    next capabilities camera _ =>
      obtain ⟨_, outcome, _⟩ := outcome_reach (m.withCamera camera) .initialized
      exact outcome.of_withCamera.callsLast
    next cause camera _ => exact (callsLast_one (trace_fail _ _ _)).after rfl rfl

theorem callsLast_flip (m : CameraMachine τ) : CallsLast m m.flip.machine := by
  have calls : CallsLast m (m.release.select m.camera.facing.flipped).openSelected.1.machine :=
    (callsLast_openSelected _).after rfl rfl
  unfold flip
  split
  next opened =>
    rw [opened] at calls
    exact calls
  next failed =>
    rw [failed] at calls
    exact calls

theorem callsLast_start (m : CameraMachine τ) (op : CameraOp τ) :
    CallsLast m (m.start op).machine := by
  cases op with
  | openCamera => exact callsLast_openSelected m
  | linkSurface surface => exact callsLast_submit m _
  | setScreenRotation degrees =>
      simp only [start]
      split
      · exact callsLast_same rfl
      · exact callsLast_submit m _
  | capture tag body => exact (callsLast_submit _ _).after rfl rfl
  | release => exact callsLast_one rfl
  | flip => exact callsLast_flip m
  | describe => exact callsLast_same rfl

theorem Works.callsLast {m : CameraMachine τ} {task : CameraTask τ} {op? : Option (CameraOp τ)}
    {move : CameraMove τ} {kept : List (CameraTask τ)} (h : Works m task op? move kept) :
    CallsLast m move.machine := by
  cases h with
  | ended | emptied | missing | reselected => exact callsLast_same rfl
  | performed origin op => exact callsLast_start m op
  | reported => exact callsLast_one rfl
  | taken taken =>
      obtain ⟨_, _, outcome⟩ := outcome_take taken
      exact outcome.callsLast
  | offered offered =>
      obtain ⟨_, _, outcome⟩ := outcome_offer? offered
      exact outcome.callsLast

theorem callsLast_step {m m' : CameraMachine τ} (h : m.step = some m') : CallsLast m m' := by
  obtain ⟨_, _, _, _, _, _, works, rfl⟩ := step_inv h
  exact works.callsLast

/-! ### Every moment -/

/-- A call to the outside has a moment at which it has just been made. -/
def CalledAt (past : List (CameraEvent τ)) (e : CameraEvent τ) : Prop :=
  e.isCall = true → ∃ m, Reached m ∧ m.trace = past ++ [e]

theorem CallsLast.lawful {m m' : CameraMachine τ} (h : CallsLast m m') (reached : Reached m')
    (lawful : Lawful CalledAt m.trace) : Lawful CalledAt m'.trace := by
  obtain ⟨quiet, last, trace, silent⟩ := h
  have before : Lawful CalledAt (m.trace ++ quiet) := by
    refine lawful.append fun past e mem calls => ?_
    rw [silent e mem] at calls
    cases calls
  cases last with
  | none => rwa [trace, Option.toList_none, List.append_nil]
  | some e =>
      rw [trace]
      exact lawful_append_singleton.mpr ⟨before, fun _ => ⟨m', reached, trace⟩⟩

variable {m : CameraMachine τ}

theorem Reached.called_at (h : Reached m) : Lawful CalledAt m.trace := by
  induction h with
  | fresh => exact lawful_nil _
  | @enter m op reached idle ih =>
      have calls : CallsLast m (m.enter op) := callsLast_start m op
      exact calls.lawful (reached.enter op idle) ih
  | step reached stepped ih => exact (callsLast_step stepped).lawful (reached.step stepped) ih

theorem Reached.recorded (h : Reached m) : m.camera.Recorded := by
  refine h.invariant (P := fun c _ => c.Recorded) ?_ ?_
  · intro _ _ _ _
    exact GatedCamera.recorded_of_closed (fun stage => by cases stage <;> rfl) rfl
  · intro c c' _ _ agreed moved recorded
    exact moved.recorded agreed recorded

/-- **In step.**  At every moment of a run the first stage is complete if and only if the device is
open, and the second one if and only if it streams; a camera that streams is open and has recorded
a surface, a surface is recorded only while the camera is open, and what is known of an open camera
is what its device answered at its last opening, with the first of the largest sizes for the
preview.  Among these moments are the end of each operation from the outside and the beginning of
each call to a receiver or to the listener. -/
theorem Reached.in_step (h : Reached m) : m.camera.InStep ∧
    (m.stack = [] → ∀ op, (m.call op).2.stack = [] ∧ (m.call op).2.camera.InStep) ∧
    ∀ past e future, m.trace = past ++ e :: future → e.isCall = true →
      ∃ m₀, Reached m₀ ∧ m₀.trace = past ++ [e] ∧ m₀.camera.InStep := by
  have inStep : ∀ {m : CameraMachine τ}, Reached m → m.camera.InStep := fun reached =>
    GatedCamera.inStep_of_recorded reached.agreed reached.recorded
  refine ⟨inStep h, fun idle op => ?_, fun past e future split calls => ?_⟩
  · obtain ⟨reached, empty⟩ := h.call idle op
    exact ⟨empty, inStep reached⟩
  · obtain ⟨m₀, reached, trace⟩ := h.called_at past e future split calls
    exact ⟨m₀, reached, trace, inStep reached⟩

/-- A listener that opens the camera again while it is being flipped: it finds all in step, and so
does whoever looks at the camera in the end. -/
theorem in_step_reentrant : ∃ (m m₀ : CameraMachine Unit) (past : List (CameraEvent Unit)),
    Reached m ∧ m.camera.isAt .initialized = true ∧ m.camera.InStep ∧
    Reached m₀ ∧ m₀.trace = past ++ [.failed (.transfer (.refused .openCamera)) none] ∧
    m₀.camera.InStep := by
  have entered : Reached reentrant := .enter _ (.enter _ (.enter _ (.fresh ..) rfl) rfl) rfl
  have reached := entered.steps 30
  obtain ⟨inStep, _, called⟩ := reached.in_step
  obtain ⟨m₀, reached₀, trace, inStep₀⟩ := called ((steps 30 reentrant).trace.take 6)
    (.failed (.transfer (.refused .openCamera)) none) ((steps 30 reentrant).trace.drop 7) rfl rfl
  exact ⟨_, m₀, _, reached, rfl, inStep, reached₀, trace, inStep₀⟩

end CameraMachine

end CaptureFlow
