import CaptureFlow.Proofs.Camera.Agreement
import CaptureFlow.Proofs.Geometry.Selection
/-! # Which camera is open

A device opens a camera by one call; all other calls leave open what is open, but for `stop`.
`LastOpened d facing info` says that the last call to open the camera that was done was one for
`facing`, and that the device answered `info`.  This stays so as long as no camera is opened
(`LastOpened.later`).

Most of what happens to a gated camera leaves the selection and the open camera as they are, and
with them what is known of the camera (`Steady`).  When the selected camera is opened, what it tells
about itself is kept (`Opened`). -/

namespace CaptureFlow

/-! ### Exchanges that open nothing -/

namespace Device

/-- `d'` is `d` after exchanges none of which opened the camera. -/
structure Unopened (d d' : Device) : Prop where
  spec : d'.spec = d.spec
  reportedFacing : d'.reportedFacing = d.reportedFacing
  exchanges : ∃ since, d'.exchanges = d.exchanges ++ since ∧ ∀ e ∈ since, e.opens = false

/-- `d'` is `d` after exchanges that have left open what was open. -/
structure Kept (d d' : Device) : Prop extends Unopened d d' where
  opened : d'.opened = d.opened

theorem Unopened.refl (d : Device) : Unopened d d :=
  ⟨rfl, rfl, [], (List.append_nil _).symm, fun _ mem => absurd mem List.not_mem_nil⟩

theorem Unopened.trans {d d₁ d₂ : Device} (h : Unopened d d₁) (h' : Unopened d₁ d₂) :
    Unopened d d₂ := by
  obtain ⟨since, split, quiet⟩ := h.exchanges
  obtain ⟨since', split', quiet'⟩ := h'.exchanges
  refine ⟨h'.spec.trans h.spec, h'.reportedFacing.trans h.reportedFacing, since ++ since', ?_, ?_⟩
  · rw [split', split, List.append_assoc]
  · intro e mem
    rcases List.mem_append.mp mem with mem | mem
    · exact quiet e mem
    · exact quiet' e mem

theorem Kept.refl (d : Device) : Kept d d := ⟨.refl d, rfl⟩

theorem Kept.trans {d d₁ d₂ : Device} (h : Kept d d₁) (h' : Kept d₁ d₂) : Kept d d₂ :=
  ⟨h.toUnopened.trans h'.toUnopened, h'.opened.trans h.opened⟩

theorem kept_of_exchange {d d' : Device} {e : Exchange} (history : d'.history = e :: d.history)
    (opens : e.opens = false) (spec : d'.spec = d.spec)
    (reportedFacing : d'.reportedFacing = d.reportedFacing) (opened : d'.opened = d.opened) :
    Kept d d' := by
  refine ⟨⟨spec, reportedFacing, [e], ?_, ?_⟩, opened⟩
  · rw [exchanges, history, List.reverse_cons, exchanges]
  · intro x mem
    rwa [List.mem_singleton.mp mem]

theorem kept_startPreview (d : Device) (size : Size) (surface : UInt64) :
    Kept d (d.startPreview size surface).2 := by
  simp only [startPreview]
  split
  · exact kept_of_exchange rfl rfl rfl rfl rfl
  · split
    · exact kept_of_exchange rfl rfl rfl rfl rfl
    · split <;> exact kept_of_exchange rfl rfl rfl rfl rfl

theorem kept_setRotation (d : Device) (degrees : UInt16) : Kept d (d.setRotation degrees).2 := by
  simp only [setRotation]
  split <;> exact kept_of_exchange rfl rfl rfl rfl rfl

theorem kept_takePicture (d : Device) : Kept d d.takePicture.2 := by
  simp only [takePicture]
  split
  · exact kept_of_exchange rfl rfl rfl rfl rfl
  · split <;> exact kept_of_exchange rfl rfl rfl rfl rfl

/-! ### The last opening -/

/-- The last call that opened the camera was one for `facing`, which was answered with `info`. -/
def LastOpened (d : Device) (facing : Facing) (info : CameraInfo) : Prop :=
  ∃ before after : Device, before.openCamera facing = (.ok info, after) ∧ Unopened after d

theorem openCamera_ok {d d' : Device} {facing : Facing} {info : CameraInfo}
    (h : d.openCamera facing = (.ok info, d')) :
    d'.opened = some facing ∧ d'.exchanges = d.exchanges ++ [⟨.openCamera facing, .done⟩] := by
  simp only [openCamera] at h
  split at h
  · cases h
  · split at h
    · cases h
    · split at h
      · cases h
      · obtain ⟨_, rfl⟩ := Prod.mk.inj h
        exact ⟨rfl, List.reverse_cons⟩

theorem lastOpened_of_openCamera {d d' : Device} {facing : Facing} {info : CameraInfo}
    (h : d.openCamera facing = (.ok info, d')) : LastOpened d' facing info :=
  ⟨d, d', h, .refl d'⟩

theorem LastOpened.later {d d' : Device} {facing : Facing} {info : CameraInfo}
    (h : LastOpened d facing info) (since : Unopened d d') : LastOpened d' facing info := by
  obtain ⟨before, after, opened, unopened⟩ := h
  exact ⟨before, after, opened, unopened.trans since⟩

/-- What was opened last is in the history of the device. -/
theorem LastOpened.since {d : Device} {facing : Facing} {info : CameraInfo}
    (h : LastOpened d facing info) :
    Since Exchange.opens d.exchanges ⟨.openCamera facing, .done⟩ := by
  obtain ⟨before, after, opened, unopened⟩ := h
  obtain ⟨since, split, quiet⟩ := unopened.exchanges
  refine ⟨before.exchanges, since, ?_, quiet⟩
  rw [split, (openCamera_ok opened).2, List.append_assoc, List.singleton_append]

theorem LastOpened.unique {d : Device} {facing facing' : Facing} {info info' : CameraInfo}
    (h : LastOpened d facing info) (h' : LastOpened d facing' info') : facing = facing' := by
  have same := h.since.unique h'.since rfl rfl
  exact DeviceCall.openCamera.inj (Exchange.mk.inj same).1

end Device

/-! ### Moves that leave open what is open -/

namespace GatedCamera

variable {β : Type}

/-- `c'` is `c` with the same camera selected, and the same one open, if any. -/
structure Steady (c c' : GatedCamera β) : Prop where
  facing : c'.facing = c.facing
  initialized : c'.isAt .initialized = c.isAt .initialized
  info : c'.info = c.info
  previewSize : c'.previewSize = c.previewSize
  device : c.device.Kept c'.device

theorem Steady.refl (c : GatedCamera β) : Steady c c := ⟨rfl, rfl, rfl, rfl, .refl _⟩

theorem Steady.trans {c c₁ c₂ : GatedCamera β} (h : Steady c c₁) (h' : Steady c₁ c₂) :
    Steady c c₂ :=
  ⟨h'.facing.trans h.facing, h'.initialized.trans h.initialized, h'.info.trans h.info,
    h'.previewSize.trans h.previewSize, h.device.trans h'.device⟩

theorem steady_withGate (c : GatedCamera β) {gate : Gate CameraStage (CameraAction β)}
    (flag : gate.isComplete .initialized = c.gate.isComplete .initialized) :
    Steady c { c with gate } :=
  ⟨rfl, flag, rfl, rfl, .refl _⟩

theorem steady_streaming (c : GatedCamera β) {gate : Gate CameraStage (CameraAction β)}
    {first : Bool} (completed : c.gate.complete? .previewStarted = some (gate, first)) :
    Steady c { c with gate } := by
  apply steady_withGate
  rw [(Gate.flags_of_complete? completed).1, Function.update_of_ne (by decide)]

theorem steady_startPreview (c : GatedCamera β) (surface : UInt64) :
    Steady c (c.startPreview surface).2 := by
  simp only [startPreview]
  split
  · exact ⟨rfl, rfl, rfl, rfl, .refl _⟩
  · exact ⟨rfl, rfl, rfl, rfl, Device.kept_startPreview _ _ _⟩

theorem steady_applyRotation (c : GatedCamera β) (rotation : ScreenRotation) :
    Steady c (c.applyRotation rotation).2 := by
  simp only [applyRotation]
  split
  · exact ⟨rfl, rfl, rfl, rfl, .refl _⟩
  · exact ⟨rfl, rfl, rfl, rfl, Device.kept_setRotation _ _⟩

theorem steady_takePicture (c : GatedCamera β) : Steady c c.takePicture.2 :=
  ⟨rfl, rfl, rfl, rfl, Device.kept_takePicture _⟩

/-! ### Opening the selected camera -/

/-- `c'` is `c` after the selected camera has been opened. -/
structure Opened (c c' : GatedCamera β) : Prop where
  closed : c.isAt .initialized = false
  initialized : c'.isAt .initialized = true
  previewStarted : c'.isAt .previewStarted = c.isAt .previewStarted
  facing : c'.facing = c.facing
  surface : c'.surface = c.surface
  opened : c'.device.opened = some c.facing
  known : ∃ info preview, c'.device.LastOpened c.facing info ∧ c'.info = some info ∧
    c'.previewSize = some preview ∧ FirstLargest preview info.previewSizes

theorem opened_of_openSelected {c c' : GatedCamera β} {capabilities : Capabilities}
    {gate : Gate CameraStage (CameraAction β)} {first : Bool} (closed : c.isAt .initialized = false)
    (h : c.openSelected = (.ok capabilities, c'))
    (completed : c'.gate.complete? .initialized = some (gate, first)) :
    Opened c { c' with gate } := by
  obtain ⟨info, device, preview, called, largest, _, rfl⟩ := openSelected_ok h
  obtain ⟨flags, _⟩ := Gate.flags_of_complete? completed
  constructor
  · exact closed
  · show gate.isComplete .initialized = true
    rw [flags, Function.update_self]
  · show gate.isComplete .previewStarted = c.gate.isComplete .previewStarted
    rw [flags, Function.update_of_ne (by decide)]
  · rfl
  · rfl
  · exact (Device.openCamera_ok called).1
  · exact ⟨info, preview, Device.lastOpened_of_openCamera called, rfl, rfl,
      firstLargest_of_largest? largest⟩

end GatedCamera

end CaptureFlow
