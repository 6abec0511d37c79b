import CaptureFlow.Proofs.Camera.QuietListener
import CaptureFlow.Proofs.Camera.Serving
/-! # Pictures and their outcomes

A device numbers the pictures that it takes, over its whole life: neither `stop` nor another opening
begins anew.  Each call that asks for a picture comes to an outcome that someone is told of at once:
the receiver gets the frame, or the listener the failure.

`Tallied` puts the two together, from the beginning of a run: the calls for a picture are the
outcomes told, one for one and in their order, and the frames delivered are the pictures of the
device in the order of their numbers (`Later.tallied`).  The trace does not say more of an outcome
than whether it was a picture; whose it was is in the account of requests. -/

namespace CaptureFlow

/-! ### Calls for a picture -/

/-- For a call that asks for a picture: whether it was taken. -/
def Exchange.picture? (e : Exchange) : Option Bool :=
  match e.call with
  | .takePicture => some (e.outcome == .done)
  | _ => none

namespace Device

variable {d d' : Device}

/-- The calls for a picture, the oldest first, by whether it was taken. -/
def pictures (d : Device) : List Bool := d.exchanges.filterMap Exchange.picture?

/-- `d'` is `d` after exchanges none of which asked for a picture. -/
structure Pictureless (d d' : Device) : Prop where
  spec : d'.spec = d.spec
  taken : d'.picturesTaken = d.picturesTaken
  pictures : d'.pictures = d.pictures

theorem Pictureless.refl (d : Device) : Pictureless d d := ⟨rfl, rfl, rfl⟩

theorem Pictureless.trans {d₁ d₂ : Device} (h : Pictureless d d₁) (h' : Pictureless d₁ d₂) :
    Pictureless d d₂ :=
  ⟨h'.spec.trans h.spec, h'.taken.trans h.taken, h'.pictures.trans h.pictures⟩

theorem pictures_of_exchange {e : Exchange} (history : d'.history = e :: d.history) :
    d'.pictures = d.pictures ++ e.picture?.toList := by
  rw [pictures, exchanges, history, List.reverse_cons, List.filterMap_append, pictures, exchanges]
  cases picture : e.picture? <;> simp [picture]

theorem pictures_of_picture (outcome : CallOutcome)
    (history : d'.history = ⟨.takePicture, outcome⟩ :: d.history) :
    d'.pictures = d.pictures ++ [outcome == .done] := pictures_of_exchange history

theorem pictureless_of_exchange {e : Exchange} (history : d'.history = e :: d.history)
    (other : e.picture? = none) (spec : d'.spec = d.spec)
    (taken : d'.picturesTaken = d.picturesTaken) : Pictureless d d' := by
  refine ⟨spec, taken, ?_⟩
  rw [pictures_of_exchange history, other, Option.toList_none, List.append_nil]

theorem pictureless_openCamera (d : Device) (facing : Facing) :
    Pictureless d (d.openCamera facing).2 := by
  simp only [openCamera]
  split
  · exact pictureless_of_exchange rfl rfl rfl rfl
  · split
    · exact pictureless_of_exchange rfl rfl rfl rfl
    · split <;> exact pictureless_of_exchange rfl rfl rfl rfl

theorem pictureless_startPreview (d : Device) (size : Size) (surface : UInt64) :
    Pictureless d (d.startPreview size surface).2 := by
  simp only [startPreview]
  split
  · exact pictureless_of_exchange rfl rfl rfl rfl
  · split
    · exact pictureless_of_exchange rfl rfl rfl rfl
    · split <;> exact pictureless_of_exchange rfl rfl rfl rfl

theorem pictureless_setRotation (d : Device) (degrees : UInt16) :
    Pictureless d (d.setRotation degrees).2 := by
  simp only [setRotation]
  split <;> exact pictureless_of_exchange rfl rfl rfl rfl

theorem pictureless_stop (d : Device) : Pictureless d d.stop :=
  pictureless_of_exchange rfl rfl rfl rfl

theorem takePicture_ok {frame : Frame} (h : d.takePicture = (.ok frame, d')) {earlier : Nat}
    (taken : d.picturesTaken.toNat = min earlier (UInt64.size - 1)) :
    frame = d.spec.picture earlier ∧ d'.spec = d.spec ∧
      d'.picturesTaken.toNat = min (earlier + 1) (UInt64.size - 1) ∧
      d'.pictures = d.pictures ++ [true] := by
  have number : (nextPicture d.picturesTaken).toNat = min (earlier + 1) (UInt64.size - 1) := by
    rw [toNat_nextPicture, taken]
    omega
  simp only [takePicture] at h
  split at h
  · cases h
  · split at h
    · cases h
    · obtain ⟨same, rfl⟩ := Prod.mk.inj h
      obtain rfl := Except.ok.inj same
      refine ⟨?_, rfl, number, pictures_of_picture .done rfl⟩
      rw [number]
      rfl

theorem takePicture_error {cause : Failure} (h : d.takePicture = (.error cause, d')) :
    d'.spec = d.spec ∧ d'.picturesTaken = d.picturesTaken ∧
      d'.pictures = d.pictures ++ [false] := by
  simp only [takePicture] at h
  split at h
  · obtain ⟨_, rfl⟩ := Prod.mk.inj h
    exact ⟨rfl, rfl, pictures_of_picture .refused rfl⟩
  · split at h
    · obtain ⟨_, rfl⟩ := Prod.mk.inj h
      exact ⟨rfl, rfl, pictures_of_picture .failed rfl⟩
    · cases h

end Device

/-! ### Outcomes in the trace -/

variable {τ : Type}

/-- For an event that tells what came of a request: its ticket, and whether there is a picture. -/
def CameraEvent.outcome? : CameraEvent τ → Option (Nat × Bool)
  | .delivered ticket _ _ => some (ticket, true)
  | .failed _ (some ticket) => some (ticket, false)
  | _ => none

/-- What has come of requests, in the order in which it was told. -/
def outcomes (trace : List (CameraEvent τ)) : List (Nat × Bool) :=
  trace.filterMap CameraEvent.outcome?

theorem outcomes_append (trace events : List (CameraEvent τ)) :
    outcomes (trace ++ events) = outcomes trace ++ outcomes events := List.filterMap_append

def frames (trace : List (CameraEvent τ)) : List Frame := (deliveries trace).map (·.2.2)

theorem frames_append (trace events : List (CameraEvent τ)) :
    frames (trace ++ events) = frames trace ++ frames events := by
  simp [frames, deliveries, List.filterMap_append]

/-! ### Calls and outcomes -/

/-- The device is of the kind `spec`.  What came of each call for a picture has been told, and the
frames delivered are the pictures of the device from the first on. -/
structure Tallied (spec : DeviceSpec) (d : Device) (trace : List (CameraEvent τ)) : Prop where
  kind : d.spec = spec
  told : d.pictures = (outcomes trace).map (·.2)
  taken : d.picturesTaken.toNat = min (frames trace).length (UInt64.size - 1)
  frames : frames trace = (List.range (frames trace).length).map spec.picture

section tally

variable {spec : DeviceSpec} {d d' : Device} {trace : List (CameraEvent τ)}

theorem Tallied.pictureless (h : Tallied spec d trace) (device : d.Pictureless d')
    (events : List (CameraEvent τ)) (quiet : outcomes events = [])
    (undelivered : CaptureFlow.frames events = []) : Tallied spec d' (trace ++ events) := by
  have same : CaptureFlow.frames (trace ++ events) = CaptureFlow.frames trace := by
    rw [frames_append, undelivered, List.append_nil]
  constructor
  · rw [device.spec, h.kind]
  · rw [device.pictures, h.told, outcomes_append, quiet, List.append_nil]
  · rw [device.taken, same, h.taken]
  · rw [same]
    exact h.frames

theorem Tallied.delivers (h : Tallied spec d trace) {frame : Frame}
    (called : d.takePicture = (.ok frame, d')) (ticket : Nat) (tag : τ) :
    Tallied spec d' (trace ++ [.delivered ticket tag frame]) := by
  have more : CaptureFlow.frames (trace ++ [.delivered ticket tag frame]) =
      CaptureFlow.frames trace ++ [frame] := frames_append trace _
  obtain ⟨rfl, kind, number, pictures⟩ := Device.takePicture_ok called h.taken
  constructor
  · exact kind.trans h.kind
  · rw [outcomes_append, List.map_append, ← h.told]
    exact pictures
  · rw [more, List.length_append]
    exact number
  · rw [more, List.length_append, List.length_singleton, List.range_succ, List.map_append,
      ← h.frames, h.kind]
    rfl

theorem Tallied.fails (h : Tallied spec d trace) {cause : Failure}
    (called : d.takePicture = (.error cause, d')) (ticket : Nat) :
    Tallied spec d' (trace ++ [.failed cause (some ticket)]) := by
  have same : CaptureFlow.frames (trace ++ [.failed cause (some ticket)]) =
      CaptureFlow.frames trace := (frames_append trace _).trans (List.append_nil _)
  obtain ⟨kind, number, pictures⟩ := Device.takePicture_error called
  constructor
  · exact kind.trans h.kind
  · rw [outcomes_append, List.map_append, ← h.told]
    exact pictures
  · rw [same]
    exact (congrArg UInt64.toNat number).trans h.taken
  · rw [same]
    exact h.frames

end tally

/-! ### Moves -/

namespace GatedCamera

section parts

variable {β : Type}

theorem pictureless_openSelected (c : GatedCamera β) :
    c.device.Pictureless c.openSelected.2.device := by
  have opens := Device.pictureless_openCamera c.device c.facing
  cases opened : c.openSelected with
  | mk result c' =>
      cases result with
      | ok capabilities =>
          obtain ⟨_, device, _, called, _, _, rfl⟩ := openSelected_ok opened
          rwa [called] at opens
      | error cause =>
          rcases openSelected_error opened with ⟨_, rfl⟩ | ⟨_, called, rfl⟩ |
            ⟨_, device, called, _, _, rfl⟩
          · exact .refl _
          · rwa [called] at opens
          · rw [called] at opens
            exact opens.trans (Device.pictureless_stop device)

theorem pictureless_released (c : GatedCamera β) : c.device.Pictureless c.released.device := by
  simp only [released]
  split
  · exact Device.pictureless_stop c.device
  · exact .refl _

theorem pictureless_startPreview (c : GatedCamera β) (surface : UInt64) :
    c.device.Pictureless (c.startPreview surface).2.device := by
  simp only [startPreview]
  split
  · exact .refl _
  · exact Device.pictureless_startPreview _ _ _

theorem pictureless_applyRotation (c : GatedCamera β) (rotation : ScreenRotation) :
    c.device.Pictureless (c.applyRotation rotation).2.device := by
  simp only [applyRotation]
  split
  · exact .refl _
  · exact Device.pictureless_setRotation _ _

theorem device_takePicture {c c' : GatedCamera β} {result : Except Failure Frame}
    (taken : c.takePicture = (result, c')) : c.device.takePicture = (result, c'.device) := by
  obtain ⟨called, rfl⟩ := Prod.mk.inj taken
  exact Prod.ext called rfl

end parts

variable {spec : DeviceSpec} {c c' : GatedCamera (Receiver τ)} {trace : List (CameraEvent τ)}

theorem Due.device_eq {action : CameraAction (Receiver τ)} (h : Due c action c') :
    c'.device = c.device := by
  cases h <;> rfl

theorem Due.tallied {action : CameraAction (Receiver τ)} (h : Due c action c')
    (tallied : Tallied spec c.device trace) : Tallied spec c'.device trace :=
  h.device_eq ▸ tallied

/-- Every move keeps the tally. -/
theorem Moved.tallied {events : List (CameraEvent τ)} (h : Moved c c' events)
    (tallied : Tallied spec c.device trace) : Tallied spec c'.device (trace ++ events) := by
  cases h with
  | requested | answered => exact tallied.pictureless (.refl _) _ rfl rfl
  | selected facing => exact tallied.pictureless (.refl _) [] rfl rfl
  | released => exact tallied.pictureless (pictureless_released c) _ rfl rfl
  | opened _ opened _ =>
      have device := pictureless_openSelected c
      rw [opened] at device
      exact tallied.pictureless device [] rfl rfl
  | notOpened _ failed =>
      have device := pictureless_openSelected c
      rw [failed] at device
      exact tallied.pictureless device [.discarded _, .failed _ none] rfl rfl
  | queued => exact tallied.pictureless (.refl _) [] rfl rfl
  | @linked surface c₁ _ _ _ due started _ =>
      have device := pictureless_startPreview c₁ surface
      rw [started] at device
      exact (due.tallied tallied).pictureless device [] rfl rfl
  | @notLinked surface c₁ _ _ due failed =>
      have device := pictureless_startPreview c₁ surface
      rw [failed] at device
      exact (due.tallied tallied).pictureless device _ rfl rfl
  | @turned rotation c₁ _ due applied =>
      have device := pictureless_applyRotation c₁ rotation
      rw [applied] at device
      exact (due.tallied tallied).pictureless device [] rfl rfl
  | @notTurned rotation c₁ _ _ due failed =>
      have device := pictureless_applyRotation c₁ rotation
      rw [failed] at device
      exact (due.tallied tallied).pictureless device _ rfl rfl
  | pictured due taken => exact (due.tallied tallied).delivers (device_takePicture taken) _ _
  | notPictured due failed => exact (due.tallied tallied).fails (device_takePicture failed) _

end GatedCamera

theorem CameraMachine.Later.tallied {m : CameraMachine τ} {spec : DeviceSpec}
    {refusals : DeviceRefusals} {reportedFacing : Option Facing} {facing : Facing}
    {plan : List (List (CameraOp τ))}
    (h : Later (ofDevice { spec, refusals, reportedFacing } facing plan) m) :
    Tallied spec m.camera.device m.trace :=
  h.keeps (P := fun c trace => Tallied spec c.device trace) (.fresh ..)
    (fun _ _ _ _ _ moved tallied => moved.tallied tallied) ⟨rfl, rfl, rfl, rfl⟩

end CaptureFlow
