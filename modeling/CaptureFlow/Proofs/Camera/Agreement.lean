import CaptureFlow.Camera.Program
import CaptureFlow.Proofs.Camera.Protocol
import CaptureFlow.Proofs.Gate.View
/-! # The camera and its gate agree

`Moved c c' events` lists what can happen to a camera between two moments at which anyone else may
operate it: each move is whole, so that the calls to the device and the flags of the gate that
belong together change together.

At each of these moments camera and gate agree (`Agreed`): the stages tell in which state the
device is, what is known of an open camera is recorded, and every action waits in the queue of its
own stage.  An action runs only when its stage is complete (`Due.agreed`), so that the calls it
makes are in order.  `Moved.agreed` says that every move keeps the agreement and that no failure
it tells of is one of a device operated out of order. -/

namespace CaptureFlow.GatedCamera

variable {β : Type}

/-! ### Opening -/

theorem openSelected_ok {c c' : GatedCamera β} {capabilities : Capabilities}
    (h : c.openSelected = (.ok capabilities, c')) :
    ∃ info device preview, c.device.openCamera c.facing = (.ok info, device) ∧
      largest? info.previewSizes = some preview ∧ capabilities = ⟨device.spec.count, preview⟩ ∧
      c' = { c with device, info := some info, previewSize := some preview } := by
  unfold openSelected at h
  split at h
  · cases h
  · split at h
    · cases h
    next info device opened =>
      split at h
      · cases h
      next preview largest =>
        obtain ⟨same, rfl⟩ := Prod.mk.inj h
        exact ⟨info, device, preview, opened, largest, (Except.ok.inj same).symm, rfl⟩

theorem openSelected_error {c c' : GatedCamera β} {cause : Failure}
    (h : c.openSelected = (.error cause, c')) :
    cause = .camera .noCameras ∧ c' = c ∨
    (∃ device, c.device.openCamera c.facing = (.error cause, device) ∧ c' = { c with device }) ∨
    ∃ info device, c.device.openCamera c.facing = (.ok info, device) ∧
      largest? info.previewSizes = none ∧ cause = .camera (.noPreviewSizes c.facing) ∧
      c' = { c with device := device.stop } := by
  unfold openSelected at h
  split at h
  · obtain ⟨same, rfl⟩ := Prod.mk.inj h
    exact .inl ⟨(Except.error.inj same).symm, rfl⟩
  · split at h
    next e device failed =>
      obtain ⟨same, rfl⟩ := Prod.mk.inj h
      obtain rfl := Except.error.inj same
      exact .inr (.inl ⟨device, failed, rfl⟩)
    next info device opened =>
      split at h
      next largest =>
        obtain ⟨same, rfl⟩ := Prod.mk.inj h
        exact .inr (.inr ⟨info, device, opened, largest, (Except.error.inj same).symm, rfl⟩)
      · cases h

/-! ### Agreement -/

/-- The gate tells in which state the device is, and what an open camera needs is recorded. -/
structure Agreed (c : GatedCamera β) : Prop where
  stages : c.gate.stages = CameraStage.all
  opened : c.isAt .initialized = c.device.opened.isSome
  previewing : c.isAt .previewStarted = c.device.previewing
  known : c.isAt .initialized = true → c.info.isSome = true ∧ c.previewSize.isSome = true
  queues : ∀ stage, ∀ action ∈ c.gate.pending stage, action.stage = stage
  device : c.device.Consistent

theorem Agreed.initialized_of_previewStarted {c : GatedCamera β} (h : Agreed c)
    (streaming : c.isAt .previewStarted = true) : c.isAt .initialized = true := by
  rw [h.opened]
  exact h.device.opened_of_previewing (h.previewing ▸ streaming)

theorem Agreed.still_of_closed {c : GatedCamera β} (h : Agreed c)
    (closed : c.isAt .initialized = false) : c.isAt .previewStarted = false := by
  by_contra streaming
  rw [h.initialized_of_previewStarted (by simpa using streaming)] at closed
  cases closed

theorem agreed_new (device : Device) (closed : device.opened.isSome = false)
    (consistent : device.Consistent) (facing : Facing) :
    Agreed ({ device, facing } : GatedCamera β) := by
  constructor
  · rfl
  · exact closed.symm
  · exact (consistent.still_of_closed closed).symm
  · intro initialized
    cases initialized
  · intro stage action mem
    cases stage <;> cases mem
  · exact consistent

theorem agreed_of_reset {c c' : GatedCamera β} (h : Agreed c) (gate : c'.gate = c.gate.reset)
    (consistent : c'.device.Consistent) (closed : c'.device.opened.isSome = false) :
    Agreed c' := by
  have off : ∀ stage, c'.isAt stage = false := by
    intro stage
    rw [isAt, gate, Gate.isComplete_reset]
  constructor
  · rw [gate, Gate.stages_reset, h.stages]
  · rw [off, closed]
  · rw [off, consistent.still_of_closed closed]
  · intro initialized
    rw [off] at initialized
    cases initialized
  · intro stage action mem
    rw [gate, Gate.pending_reset] at mem
    cases mem
  · exact consistent

theorem Agreed.withGate {c : GatedCamera β} (h : Agreed c)
    {gate : Gate CameraStage (CameraAction β)} (stages : gate.stages = c.gate.stages)
    (flags : gate.isComplete = c.gate.isComplete)
    (queues : ∀ stage, ∀ action ∈ gate.pending stage, action.stage = stage) :
    Agreed { c with gate } := by
  have same : ∀ stage, isAt { c with gate } stage = c.isAt stage := congrFun flags
  constructor
  · rw [stages, h.stages]
  · rw [same, h.opened]
  · rw [same, h.previewing]
  · rw [same]
    exact h.known
  · exact queues
  · exact h.device

theorem Agreed.withDevice {c c' : GatedCamera β} (h : Agreed c) (gate : c'.gate = c.gate)
    (info : c'.info = c.info) (previewSize : c'.previewSize = c.previewSize)
    (consistent : c'.device.Consistent)
    (opened : c'.device.opened.isSome = c.device.opened.isSome)
    (previewing : c'.device.previewing = c.device.previewing) : Agreed c' := by
  have same : ∀ stage, c'.isAt stage = c.isAt stage := by
    intro stage
    rw [isAt, gate, isAt]
  constructor
  · rw [gate, h.stages]
  · rw [same, opened, h.opened]
  · rw [same, previewing, h.previewing]
  · rw [same, info, previewSize]
    exact h.known
  · rw [gate]
    exact h.queues
  · exact consistent

theorem Agreed.completed {c : GatedCamera β} (h : Agreed c) (c' : GatedCamera β)
    (same : c'.gate = c.gate) {stage : CameraStage} {gate : Gate CameraStage (CameraAction β)}
    {first : Bool} (completed : c'.gate.complete? stage = some (gate, first))
    (opened : c'.device.opened.isSome = Function.update c.isAt stage true .initialized)
    (previewing : c'.device.previewing = Function.update c.isAt stage true .previewStarted)
    (known : c'.info.isSome = true ∧ c'.previewSize.isSome = true)
    (consistent : c'.device.Consistent) : Agreed { c' with gate } := by
  rw [same] at completed
  obtain ⟨flags, queues, stages⟩ := Gate.flags_of_complete? completed
  have now : isAt { c' with gate } = Function.update c.isAt stage true := flags
  constructor
  · rw [stages, h.stages]
  · rw [now, opened]
  · rw [now, previewing]
  · exact fun _ => known
  · intro stage action mem
    rw [queues] at mem
    exact h.queues stage action mem
  · exact consistent

/-! ### Whole moves -/

theorem Agreed.released {c : GatedCamera β} (h : Agreed c) : Agreed c.released := by
  cases initialized : c.isAt .initialized with
  | true =>
      have opened := h.opened ▸ initialized
      apply agreed_of_reset h rfl
      · simpa [GatedCamera.released, initialized] using h.device.stop opened
      · simp [GatedCamera.released, initialized, Device.stop, Device.record]
  | false =>
      have closed := h.opened ▸ initialized
      apply agreed_of_reset h rfl
      · simpa [GatedCamera.released, initialized] using h.device
      · simpa [GatedCamera.released, initialized] using closed

theorem Agreed.opens {c c' : GatedCamera β} (h : Agreed c) (closed : c.isAt .initialized = false)
    {capabilities : Capabilities} (opened : c.openSelected = (.ok capabilities, c'))
    {gate : Gate CameraStage (CameraAction β)} {first : Bool}
    (completed : c'.gate.complete? .initialized = some (gate, first)) :
    Agreed { c' with gate } := by
  obtain ⟨info, device, preview, called, _, _, rfl⟩ := openSelected_ok opened
  have permits : c.device.permits (.openCamera c.facing) = true := by
    rw [Device.permits, ← Option.not_isSome, ← h.opened, closed]
    rfl
  have handled := Device.handled_openCamera c.device c.facing permits
  have consistent := handled.consistent h.device permits
  rw [called] at handled consistent
  cases handled with
  | done exchanged =>
      refine h.completed { c with device, info := some info, previewSize := some preview } rfl
        completed ?_ ?_ ⟨rfl, rfl⟩ consistent
      · rw [Function.update_self, exchanged.opened]
        rfl
      · rw [Function.update_of_ne (by decide), h.previewing, exchanged.previewing]
        simp [Exchange.streams, Exchange.isStop]

theorem Agreed.fails_to_open {c c' : GatedCamera β} (h : Agreed c)
    (closed : c.isAt .initialized = false) {cause : Failure}
    (failed : c.openSelected = (.error cause, c')) :
    Agreed { c' with gate := c'.gate.reset } ∧ cause.isMisuse = false := by
  have shut : c.device.opened.isSome = false := h.opened ▸ closed
  have permits : c.device.permits (.openCamera c.facing) = true := by
    rw [Device.permits, ← Option.not_isSome, shut]
    rfl
  have handled := Device.handled_openCamera c.device c.facing permits
  have consistent := handled.consistent h.device permits
  rcases openSelected_error failed with ⟨rfl, rfl⟩ | ⟨device, called, rfl⟩ |
    ⟨info, device, called, _, rfl, rfl⟩
  · exact ⟨agreed_of_reset h rfl h.device shut, rfl⟩
  · rw [called] at handled consistent
    cases handled with
    | undone exchanged undone _ proper =>
        refine ⟨agreed_of_reset h rfl consistent ?_, proper⟩
        rw [exchanged.opened, shut]
        simp [Exchange.opens, undone]
  · rw [called] at handled consistent
    cases handled with
    | done exchanged =>
        refine ⟨agreed_of_reset h rfl (consistent.stop ?_) rfl, rfl⟩
        rw [exchanged.opened]
        rfl

theorem Agreed.queues_action {c : GatedCamera β} (h : Agreed c) {action : CameraAction β}
    {gate : Gate CameraStage (CameraAction β)}
    (queued : Gate.Queued c.gate action.stage action gate) : Agreed { c with gate } := by
  refine h.withGate queued.stages queued.flags fun stage waiting mem => ?_
  rcases queued.mem mem with earlier | ⟨rfl, rfl⟩
  · exact h.queues stage waiting earlier
  · rfl

/-- An open camera starts its preview at the size that it was opened with. -/
theorem startPreview_eq {c : GatedCamera β} (surface : UInt64) {size : Size}
    (known : c.previewSize = some size) :
    c.startPreview surface = ((c.device.startPreview size surface).1,
      { c with surface := some surface, device := (c.device.startPreview size surface).2 }) := by
  simp [startPreview, known]

theorem applyRotation_eq {c : GatedCamera β} (rotation : ScreenRotation) {info : CameraInfo}
    (known : c.info = some info) :
    let degrees := cameraRotation info.sensorOrientation info.facing rotation
    c.applyRotation rotation = ((c.device.setRotation degrees).1,
      { c with rotation, device := (c.device.setRotation degrees).2 }) := by
  simp [applyRotation, known]

theorem takePicture_eq (c : GatedCamera β) :
    c.takePicture = (c.device.takePicture.1, { c with device := c.device.takePicture.2 }) := rfl

theorem Agreed.links {c c' : GatedCamera β} (h : Agreed c) {surface : UInt64}
    (ready : c.isAt .initialized = true) (started : c.startPreview surface = (.ok (), c'))
    {gate : Gate CameraStage (CameraAction β)} {first : Bool}
    (completed : c'.gate.complete? .previewStarted = some (gate, first)) :
    Agreed { c' with gate } := by
  obtain ⟨size, known⟩ := Option.isSome_iff_exists.mp (h.known ready).2
  have permits : c.device.permits (.startPreview size surface) = true :=
    h.opened.symm.trans ready
  have handled := Device.handled_startPreview c.device size surface permits
  have consistent := handled.consistent h.device permits
  rw [startPreview_eq surface known] at started
  obtain ⟨called, rfl⟩ := Prod.mk.inj started
  rw [called] at handled
  cases handled with
  | done exchanged =>
      refine h.completed
        { c with surface := some surface, device := (c.device.startPreview size surface).2 } rfl
        completed ?_ ?_ (h.known ready) consistent
      · rw [Function.update_of_ne (by decide), h.opened, exchanged.opened]
        simp [Exchange.opens, Exchange.isStop]
      · rw [Function.update_self, exchanged.previewing]
        rfl

theorem Agreed.fails_to_link {c c' : GatedCamera β} (h : Agreed c) {surface : UInt64}
    {cause : Failure} (ready : c.isAt .initialized = true)
    (failed : c.startPreview surface = (.error cause, c')) :
    Agreed c' ∧ cause.isMisuse = false := by
  obtain ⟨size, known⟩ := Option.isSome_iff_exists.mp (h.known ready).2
  have permits : c.device.permits (.startPreview size surface) = true :=
    h.opened.symm.trans ready
  have handled := Device.handled_startPreview c.device size surface permits
  have consistent := handled.consistent h.device permits
  rw [startPreview_eq surface known] at failed
  obtain ⟨called, rfl⟩ := Prod.mk.inj failed
  rw [called] at handled
  cases handled with
  | undone exchanged undone _ proper =>
      obtain ⟨opened, previewing⟩ :=
        exchanged.state_eq rfl (by simp [Exchange.streams, undone]) rfl
      exact ⟨h.withDevice rfl rfl rfl consistent opened previewing, proper⟩

theorem Agreed.rotates {c c' : GatedCamera β} (h : Agreed c) {rotation : ScreenRotation}
    {result : Except Failure Unit} (ready : c.isAt .previewStarted = true)
    (applied : c.applyRotation rotation = (result, c')) :
    Agreed c' ∧ ∀ cause, result = .error cause → cause.isMisuse = false := by
  obtain ⟨info, known⟩ :=
    Option.isSome_iff_exists.mp (h.known (h.initialized_of_previewStarted ready)).1
  have permits : c.device.previewing = true := h.previewing.symm.trans ready
  have handled := Device.handled_setRotation c.device
    (cameraRotation info.sensorOrientation info.facing rotation)
  obtain ⟨_, exchanged⟩ := handled.exchanged
  obtain ⟨opened, previewing⟩ := exchanged.state_eq rfl rfl rfl
  rw [applyRotation_eq rotation known] at applied
  obtain ⟨rfl, rfl⟩ := Prod.mk.inj applied
  refine ⟨h.withDevice rfl rfl rfl (handled.consistent h.device permits) opened previewing, ?_⟩
  intro cause failed
  rw [failed] at handled
  exact handled.proper

theorem Agreed.takes {c c' : GatedCamera β} (h : Agreed c) {result : Except Failure Frame}
    (ready : c.isAt .previewStarted = true) (taken : c.takePicture = (result, c')) :
    Agreed c' ∧ ∀ cause, result = .error cause → cause.isMisuse = false := by
  have permits : c.device.previewing = true := h.previewing.symm.trans ready
  have handled := Device.handled_takePicture c.device permits
  obtain ⟨_, exchanged⟩ := handled.exchanged
  obtain ⟨opened, previewing⟩ := exchanged.state_eq rfl rfl rfl
  rw [takePicture_eq] at taken
  obtain ⟨rfl, rfl⟩ := Prod.mk.inj taken
  refine ⟨h.withDevice rfl rfl rfl (handled.consistent h.device permits) opened previewing, ?_⟩
  intro cause failed
  rw [failed] at handled
  exact handled.proper

/-! ### Moves -/

variable {τ : Type}

/-- `c'` is `c` when an action begins to run: the action is offered while its stage is complete, or
taken from its queue then. -/
inductive Due (c : GatedCamera (Receiver τ)) (action : CameraAction (Receiver τ)) :
    GatedCamera (Receiver τ) → Prop
  | offered (complete : c.isAt action.stage = true) : Due c action c
  | taken {gate : Gate CameraStage (CameraAction (Receiver τ))}
      (popped : Gate.Popped c.gate action.stage action gate) : Due c action { c with gate }

/-- `c'` comes from `c` by one move, of which `events` tell. -/
inductive Moved (c : GatedCamera (Receiver τ)) :
    GatedCamera (Receiver τ) → List (CameraEvent τ) → Prop
  | requested (ticket : Nat) : Moved c c [.requested ticket]
  | answered (origin : CameraOrigin τ) (op : CameraOp τ) (answer : CameraAnswer) :
      Moved c c [.answered origin op answer]
  | selected (facing : Facing) : Moved c { c with facing } []
  | released : Moved c c.released [.discarded (ticketsOf c.waiting)]
  | opened {c' : GatedCamera (Receiver τ)} {capabilities : Capabilities}
      {gate : Gate CameraStage (CameraAction (Receiver τ))} {first : Bool}
      (closed : c.isAt .initialized = false) (opened : c.openSelected = (.ok capabilities, c'))
      (completed : c'.gate.complete? .initialized = some (gate, first)) :
      Moved c { c' with gate } []
  | notOpened {c' : GatedCamera (Receiver τ)} {cause : Failure}
      (closed : c.isAt .initialized = false) (failed : c.openSelected = (.error cause, c')) :
      Moved c { c' with gate := c'.gate.reset }
        [.discarded (ticketsOf c'.waiting), .failed cause none]
  | queued {action : CameraAction (Receiver τ)}
      {gate : Gate CameraStage (CameraAction (Receiver τ))}
      (queued : Gate.Queued c.gate action.stage action gate) : Moved c { c with gate } []
  | linked {surface : UInt64} {c₁ c₂ : GatedCamera (Receiver τ)}
      {gate : Gate CameraStage (CameraAction (Receiver τ))} {first : Bool}
      (due : Due c (.linkSurface surface) c₁) (started : c₁.startPreview surface = (.ok (), c₂))
      (completed : c₂.gate.complete? .previewStarted = some (gate, first)) :
      Moved c { c₂ with gate } []
  | notLinked {surface : UInt64} {c₁ c₂ : GatedCamera (Receiver τ)} {cause : Failure}
      (due : Due c (.linkSurface surface) c₁)
      (failed : c₁.startPreview surface = (.error cause, c₂)) : Moved c c₂ [.failed cause none]
  | turned {rotation : ScreenRotation} {c₁ c₂ : GatedCamera (Receiver τ)}
      (due : Due c (.applyRotation rotation) c₁)
      (applied : c₁.applyRotation rotation = (.ok (), c₂)) : Moved c c₂ []
  | notTurned {rotation : ScreenRotation} {c₁ c₂ : GatedCamera (Receiver τ)} {cause : Failure}
      (due : Due c (.applyRotation rotation) c₁)
      (failed : c₁.applyRotation rotation = (.error cause, c₂)) : Moved c c₂ [.failed cause none]
  | pictured {receiver : Receiver τ} {c₁ c₂ : GatedCamera (Receiver τ)} {frame : Frame}
      (due : Due c (.takePicture receiver) c₁) (taken : c₁.takePicture = (.ok frame, c₂)) :
      Moved c c₂ [.delivered receiver.ticket receiver.tag frame]
  | notPictured {receiver : Receiver τ} {c₁ c₂ : GatedCamera (Receiver τ)} {cause : Failure}
      (due : Due c (.takePicture receiver) c₁) (failed : c₁.takePicture = (.error cause, c₂)) :
      Moved c c₂ [.failed cause (some receiver.ticket)]

/-- An action that begins to run finds its stage complete and all in agreement. -/
theorem Due.agreed {c c' : GatedCamera (Receiver τ)} {action : CameraAction (Receiver τ)}
    (h : Due c action c') (agreed : Agreed c) : Agreed c' ∧ c'.isAt action.stage = true := by
  cases h with
  | offered complete => exact ⟨agreed, complete⟩
  | taken popped =>
      refine ⟨agreed.withGate popped.stages popped.flags fun stage waiting mem => ?_, ?_⟩
      · exact agreed.queues stage waiting (popped.mem mem)
      · rw [isAt, popped.flags]
        exact popped.complete

/-- Every move keeps camera and gate in agreement, and tells of no misuse. -/
theorem Moved.agreed {c c' : GatedCamera (Receiver τ)} {events : List (CameraEvent τ)}
    (h : Moved c c' events) (agreed : Agreed c) :
    Agreed c' ∧ ∀ cause ticket, .failed cause ticket ∈ events → cause.isMisuse = false := by
  have single : ∀ {cause : Failure} {ticket : Option Nat}, cause.isMisuse = false →
      ∀ cause' ticket', (.failed cause' ticket' : CameraEvent τ) ∈ [.failed cause ticket] →
        cause'.isMisuse = false := by
    intro cause ticket proper cause' ticket' mem
    obtain ⟨rfl, _⟩ := CameraEvent.failed.inj (List.mem_singleton.mp mem)
    exact proper
  cases h with
  | requested | answered => exact ⟨agreed, by simp⟩
  | selected facing =>
      exact ⟨agreed.withDevice rfl rfl rfl agreed.device rfl rfl, by simp⟩
  | released => exact ⟨agreed.released, by simp⟩
  | opened closed opened completed => exact ⟨agreed.opens closed opened completed, by simp⟩
  | notOpened closed failed =>
      obtain ⟨after, proper⟩ := agreed.fails_to_open closed failed
      refine ⟨after, fun cause ticket mem => ?_⟩
      rcases List.mem_cons.mp mem with same | mem
      · cases same
      · exact single proper cause ticket mem
  | queued queued => exact ⟨agreed.queues_action queued, by simp⟩
  | linked due started completed =>
      obtain ⟨before, ready⟩ := due.agreed agreed
      exact ⟨before.links ready started completed, by simp⟩
  | notLinked due failed =>
      obtain ⟨before, ready⟩ := due.agreed agreed
      obtain ⟨after, proper⟩ := before.fails_to_link ready failed
      exact ⟨after, single proper⟩
  | turned due applied =>
      obtain ⟨before, ready⟩ := due.agreed agreed
      exact ⟨(before.rotates ready applied).1, by simp⟩
  | notTurned due failed =>
      obtain ⟨before, ready⟩ := due.agreed agreed
      obtain ⟨after, proper⟩ := before.rotates ready failed
      exact ⟨after, single (proper _ rfl)⟩
  | pictured due taken =>
      obtain ⟨before, ready⟩ := due.agreed agreed
      exact ⟨(before.takes ready taken).1, by simp⟩
  | notPictured due failed =>
      obtain ⟨before, ready⟩ := due.agreed agreed
      obtain ⟨after, proper⟩ := before.takes ready failed
      exact ⟨after, single (proper _ rfl)⟩

end CaptureFlow.GatedCamera
