import CaptureFlow.Proofs.Camera.Unblocking
/-! # Attempts to open a camera

A closed camera that is to be opened makes one attempt.  Either the attempt misses, and there are
only few ways in which it can (`DeviceSpec.Misses`): the camera is left closed and its gate reset,
and the listener is told why (`opening_missed`).  Or the camera is open then, with what is known of
it taken from the device, and all that has waited for it to open is run next (`opening_done`). -/

namespace CaptureFlow

/-! ### Devices -/

/-- What a device tells about its camera that looks to `facing`. -/
def Device.infoOf (d : Device) (facing : Facing) : CameraInfo where
  facing := d.reportedFacing.getD facing
  sensorOrientation := d.spec.sensorOrientation
  previewSizes := d.spec.previewSizes

/-- How the camera that looks to `facing` may turn out not to be usable, over a device of this kind:
the reason, and the exchanges that have shown it. -/
inductive DeviceSpec.Misses (spec : DeviceSpec) (facing : Facing) : Failure → List Exchange → Prop
  | absent (count : spec.count = 0) : Misses spec facing (.camera .noCameras) []
  | unopened (present : spec.count ≠ 0) {outcome : CallOutcome} {cause : Failure}
      (failure : Exchange.failure? ⟨.openCamera facing, outcome⟩ = some cause) :
      Misses spec facing cause [⟨.openCamera facing, outcome⟩]
  | sizeless (present : spec.count ≠ 0) (sizes : spec.previewSizes = []) :
      Misses spec facing (.camera (.noPreviewSizes facing))
        [⟨.openCamera facing, .done⟩, ⟨.stop, .done⟩]

theorem eq_nil_of_largest? {sizes : List Size} (none : largest? sizes = none) : sizes = [] := by
  by_contra some_size
  obtain ⟨s, found⟩ := exists_largest? some_size
  rw [none] at found
  cases found

namespace Device

variable {d d' : Device} {facing : Facing}

theorem openCamera_info {info : CameraInfo} (opened : d.openCamera facing = (.ok info, d')) :
    info = d.infoOf facing ∧ d'.spec = d.spec ∧ d'.reportedFacing = d.reportedFacing ∧
      d'.opened = some facing := by
  simp only [openCamera] at opened
  split at opened
  · cases opened
  · split at opened
    · cases opened
    · split at opened
      · cases opened
      · obtain ⟨same, rfl⟩ := Prod.mk.inj opened
        exact ⟨(Except.ok.inj same).symm, rfl, rfl, rfl⟩

theorem openCamera_unopened {cause : Failure}
    (failed : d.openCamera facing = (.error cause, d')) : d'.opened = d.opened := by
  simp only [openCamera] at failed
  split at failed
  · obtain ⟨_, rfl⟩ := Prod.mk.inj failed
    rfl
  · split at failed
    · obtain ⟨_, rfl⟩ := Prod.mk.inj failed
      rfl
    · split at failed
      · obtain ⟨_, rfl⟩ := Prod.mk.inj failed
        rfl
      · cases failed

end Device

namespace GatedCamera

variable {β : Type} {c c' : GatedCamera β}

/-- An attempt that misses changes nothing but the device, which is closed as before. -/
theorem misses_of_openSelected (closed : c.device.opened = none) {cause : Failure}
    (failed : c.openSelected = (.error cause, c')) :
    ∃ exchanges, c.device.spec.Misses c.facing cause exchanges ∧
      c'.device.exchanges = c.device.exchanges ++ exchanges ∧ c'.device.opened = none ∧
      c' = { c with device := c'.device } := by
  obtain ⟨outcome, judged⟩ := Device.judged_openCamera c.facing closed
  unfold openSelected at failed
  split at failed
  next count =>
    obtain ⟨same, rfl⟩ := Prod.mk.inj failed
    obtain rfl := Except.error.inj same
    exact ⟨[], .absent count, (List.append_nil _).symm, closed, rfl⟩
  next present =>
    split at failed
    next e device called =>
      obtain ⟨same, rfl⟩ := Prod.mk.inj failed
      obtain rfl := Except.error.inj same
      rw [called] at judged
      cases judged with
      | undone exchanged _ failure =>
          exact ⟨_, .unopened present failure, exchanged.exchanges_eq,
            (Device.openCamera_unopened called).trans closed, rfl⟩
    next info device called =>
      split at failed
      next none =>
        obtain ⟨same, rfl⟩ := Prod.mk.inj failed
        obtain rfl := Except.error.inj same
        obtain ⟨rfl, -⟩ := Device.openCamera_info called
        refine ⟨_, .sizeless present (eq_nil_of_largest? none), ?_, rfl, rfl⟩
        rw [(Device.exchanged_stop device).exchanges_eq, (Device.openCamera_ok called).2,
          List.append_assoc]
        rfl
      next => cases failed

/-- What an attempt that succeeds leaves is known from the device. -/
theorem known_of_openSelected {capabilities : Capabilities}
    (opened : c.openSelected = (.ok capabilities, c')) :
    ∃ preview, c.device.spec.count ≠ 0 ∧ FirstLargest preview c.device.spec.previewSizes ∧
      capabilities = ⟨c.device.spec.count, preview⟩ ∧
      c'.device.exchanges = c.device.exchanges ++ [⟨.openCamera c.facing, .done⟩] ∧
      c'.device.opened = some c.facing ∧ c'.device.spec = c.device.spec ∧
      c'.device.reportedFacing = c.device.reportedFacing ∧
      c' = { c with
        device := c'.device, info := some (c.device.infoOf c.facing),
        previewSize := some preview } := by
  have present : c.device.spec.count ≠ 0 := by
    intro count
    simp only [openSelected, if_pos count] at opened
    cases opened
  obtain ⟨info, device, preview, called, largest, rfl, rfl⟩ := openSelected_ok opened
  obtain ⟨rfl, spec, reportedFacing, _⟩ := Device.openCamera_info called
  obtain ⟨isOpen, exchanges⟩ := Device.openCamera_ok called
  refine ⟨preview, present, firstLargest_of_largest? largest, ?_, exchanges, isOpen, spec,
    reportedFacing, rfl⟩
  rw [spec]

/-- The exchange that releasing a camera makes: only an open one is stopped. -/
def stops (c : GatedCamera β) : List Exchange :=
  if c.isAt .initialized then [⟨.stop, .done⟩] else []

theorem exchanges_released (c : GatedCamera β) :
    c.released.device.exchanges = c.device.exchanges ++ c.stops := by
  unfold released stops
  split
  · exact (Device.exchanged_stop c.device).exchanges_eq
  · exact (List.append_nil _).symm

end GatedCamera

/-! ### Cameras -/

namespace CameraMachine

open GatedCamera

variable {τ : Type} {m m' : CameraMachine τ} {cause : Failure} {capabilities : Capabilities}

/-- What is left when a camera is closed: no stage is complete, nothing waits, and no surface is
recorded, while the selection is the one of `m` and so is the recorded rotation. -/
structure Shut (m m' : CameraMachine τ) : Prop where
  facing : m'.camera.facing = m.camera.facing
  rotation : m'.camera.rotation = m.camera.rotation
  surface : m'.camera.surface = none
  opened : m'.camera.device.opened = none
  stages : ∀ stage, m'.camera.isAt stage = false
  queues : ∀ stage, m'.camera.gate.pending stage = []

theorem opened_of_closed (agreed : m.camera.Agreed) (closed : m.camera.isAt .initialized = false) :
    m.camera.device.opened = none := by
  have shut : m.camera.device.opened.isSome = false := agreed.opened.symm.trans closed
  exact Option.isNone_iff_eq_none.mp (Option.isSome_eq_false_iff.mp shut)

/-- A closed camera that cannot be opened is left closed, and the listener is told why. -/
theorem opening_missed (agreed : m.camera.Agreed) (closed : m.camera.isAt .initialized = false)
    (surface : m.camera.surface = none) (hushed : Hushed m)
    (failed : m.openSelected.2 = .error cause) :
    ∃ exchanges m', m.openSelected.1.LeadsTo m' ∧
      m.camera.device.spec.Misses m.camera.facing cause exchanges ∧ Made m exchanges [cause] m' ∧
      Shut m m' := by
  simp only [openSelected, closed, Bool.false_eq_true, if_false] at failed ⊢
  cases opening : m.camera.openSelected with
  | mk result camera =>
      rw [opening] at failed
      cases result with
      | ok capabilities => cases failed
      | error e =>
          obtain rfl := Except.error.inj failed
          obtain ⟨exchanges, misses, made, shut, same⟩ :=
            misses_of_openSelected (opened_of_closed agreed closed) opening
          let reset := (m.withCamera { camera with gate := camera.gate.reset }).log
            [.discarded (ticketsOf camera.waiting)]
          have quietly : Made m exchanges [] reset :=
            ⟨made, (told_append ..).trans rfl, fun _ mem => mem⟩
          have told : Made m exchanges [e] (reset.fail e).machine := by
            have both := quietly.trans (made_fail reset e none)
            rwa [List.append_nil] at both
          have facing : camera.facing = m.camera.facing := by rw [same]
          have rotation : camera.rotation = m.camera.rotation := by rw [same]
          have unlinked : camera.surface = none := by rw [same, surface]
          refine ⟨exchanges, _, leadsTo_fail (m := reset) hushed e none, misses, told, ?_⟩
          constructor
          · rw [camera_fail]
            exact facing
          · rw [camera_fail]
            exact rotation
          · rw [camera_fail]
            exact unlinked
          · rw [camera_fail]
            exact shut
          · rw [camera_fail]
            exact fun stage => Gate.isComplete_reset camera.gate stage
          · rw [camera_fail]
            exact fun stage => Gate.pending_reset camera.gate stage

/-- What a closed camera is known by when an attempt has opened it. -/
structure NowOpen (m : CameraMachine τ) (known : Capabilities) (c : GatedCamera (Receiver τ)) :
    Prop where
  initialized : c.isAt .initialized = true
  info : c.info = some (m.camera.device.infoOf m.camera.facing)
  capable : c.capabilities? = some known
  exchanges : c.device.exchanges =
    m.camera.device.exchanges ++ [⟨.openCamera m.camera.facing, .done⟩]

theorem nowOpen_of_ok (agreed : m.camera.Agreed) (closed : m.camera.isAt .initialized = false)
    (opens : m.openSelected.2 = .ok capabilities) :
    NowOpen m capabilities m.openSelected.1.machine.camera := by
  have gate := gate_openSelected m.camera
  simp only [openSelected, closed, Bool.false_eq_true, if_false] at opens ⊢
  split at opens
  next known camera opening =>
    obtain rfl := Except.ok.inj opens
    rw [opening] at gate
    obtain ⟨preview, -, -, rfl, exchanges, -, spec, -, same⟩ := known_of_openSelected opening
    obtain ⟨gate', first, completed, after⟩ :=
      reach_eq (m.withCamera camera) (gate ▸ agreed.stages) .initialized
    have size : camera.previewSize = some preview := by rw [same]
    have info : camera.info = some (m.camera.device.infoOf m.camera.facing) := by rw [same]
    dsimp only
    rw [after]
    refine ⟨?_, info, ?_, exchanges⟩
    · show gate'.isComplete .initialized = true
      rw [(Gate.flags_of_complete? completed).1, Function.update_self]
    · show camera.previewSize.map _ = _
      rw [size, ← spec]
      rfl
  next failed => cases opens

theorem ok_of_initialized (initialized : m.openSelected.1.machine.camera.isAt .initialized = true) :
    ∃ known, m.openSelected.2 = .ok known := by
  cases result : m.openSelected.2 with
  | ok known => exact ⟨known, rfl⟩
  | error cause =>
      rw [(not_opened result).1] at initialized
      cases initialized

/-- A camera that has just been opened, and of which all else is as before. -/
structure JustOpened (m : CameraMachine τ) (preview : Size) (m' : CameraMachine τ) : Prop where
  made : Made m [⟨.openCamera m.camera.facing, .done⟩] [] m'
  ready : Ready (m.camera.device.infoOf m.camera.facing) preview false
    (m.camera.gate.pending .initialized) (m.camera.gate.pending .previewStarted) m'
  opened : m'.camera.device.opened = some m.camera.facing
  facing : m'.camera.facing = m.camera.facing
  surface : m'.camera.surface = m.camera.surface
  rotation : m'.camera.rotation = m.camera.rotation

theorem opening_done (agreed : m.camera.Agreed) (closed : m.camera.isAt .initialized = false)
    (hushed : Hushed m) (bodies : ∀ receiver, .takePicture receiver ∈
      m.camera.gate.pending .previewStarted → receiver.body = [])
    (opens : m.openSelected.2 = .ok capabilities) :
    ∃ preview m₁, m.camera.device.spec.count ≠ 0 ∧
      FirstLargest preview m.camera.device.spec.previewSizes ∧
      capabilities = ⟨m.camera.device.spec.count, preview⟩ ∧
      m.openSelected.1 =
        { machine := m₁, work := [.dispatch .initialized m₁.camera.gate.cycle] } ∧
      JustOpened m preview m₁ := by
  have after := (follows_openSelected m agreed).1.agreed agreed
  simp only [openSelected, closed, Bool.false_eq_true, if_false] at opens after ⊢
  have gate := gate_openSelected m.camera
  cases opening : m.camera.openSelected with
  | mk result camera =>
      rw [opening] at opens gate
      cases result with
      | error e => cases opens
      | ok known =>
          obtain rfl := Except.ok.inj opens
          obtain ⟨preview, present, largest, rfl, exchanges, isOpen, _, _, same⟩ :=
            known_of_openSelected opening
          have before : GateAt camera.gate false false (m.camera.gate.pending .initialized)
              (m.camera.gate.pending .previewStarted) := by
            rw [gate]
            exact ⟨agreed.stages, closed, agreed.still_of_closed closed, rfl, rfl⟩
          obtain ⟨gate', completed, cycle, marked⟩ := before.complete_opening
          simp only [opening, reach, withCamera, completed, if_true] at after ⊢
          refine ⟨preview, (m.withCamera camera).withGate gate', present, largest, rfl, ?_, ?_⟩
          · have sameCycle : ((m.withCamera camera).withGate gate').camera.gate.cycle =
                camera.gate.cycle := cycle
            rw [sameCycle]
            rfl
          · have known : camera.info = some (m.camera.device.infoOf m.camera.facing) := by rw [same]
            have size : camera.previewSize = some preview := by rw [same]
            have facing : camera.facing = m.camera.facing := by rw [same]
            have surface : camera.surface = m.camera.surface := by rw [same]
            have rotation : camera.rotation = m.camera.rotation := by rw [same]
            exact ⟨⟨exchanges, (List.append_nil _).symm, fun _ mem => mem⟩,
              ⟨after, known, size, marked, hushed, bodies⟩, isOpen, facing, surface, rotation⟩

end CameraMachine

end CaptureFlow
