import CaptureFlow.Proofs.Camera.Agreement
/-! # The history of a device only grows

Every call to a device is added to its history with what came of it (`Device.history_openCamera`
and the like), and nothing takes anything from there.  So a move of the camera only adds to the
history (`Moved.grows`), and with it to the calls that have reached the device
(`Device.Grows.calls`). -/

namespace CaptureFlow

namespace Device

variable {d d' : Device}

theorem history_openCamera (d : Device) (facing : Facing) :
    ∃ e, (d.openCamera facing).2.history = e :: d.history := by
  simp only [openCamera]
  split
  · exact ⟨_, rfl⟩
  · split
    · exact ⟨_, rfl⟩
    · split <;> exact ⟨_, rfl⟩

theorem history_startPreview (d : Device) (size : Size) (surface : UInt64) :
    ∃ e, (d.startPreview size surface).2.history = e :: d.history := by
  simp only [startPreview]
  split
  · exact ⟨_, rfl⟩
  · split
    · exact ⟨_, rfl⟩
    · split <;> exact ⟨_, rfl⟩

theorem history_setRotation (d : Device) (degrees : UInt16) :
    ∃ e, (d.setRotation degrees).2.history = e :: d.history := by
  simp only [setRotation]
  split <;> exact ⟨_, rfl⟩

theorem history_takePicture (d : Device) : ∃ e, d.takePicture.2.history = e :: d.history := by
  simp only [takePicture]
  split
  · exact ⟨_, rfl⟩
  · split <;> exact ⟨_, rfl⟩

/-- `d'` is `d` after some exchanges. -/
def Grows (d d' : Device) : Prop := d.history <:+ d'.history

theorem Grows.refl (d : Device) : Grows d d := List.suffix_refl _

theorem Grows.trans {d₁ d₂ : Device} (h : Grows d d₁) (h' : Grows d₁ d₂) : Grows d d₂ :=
  List.IsSuffix.trans h h'

theorem grows_of_exchange (h : ∃ e, d'.history = e :: d.history) : Grows d d' := by
  obtain ⟨e, history⟩ := h
  rw [Grows, history]
  exact List.suffix_cons e d.history

theorem Grows.calls (h : Grows d d') : d.calls <+: d'.calls :=
  ((List.reverse_prefix.mpr h).filter _).map _

end Device

/-! ### Moves -/

namespace GatedCamera

variable {β τ : Type}

theorem grows_openSelected (c : GatedCamera β) : c.device.Grows c.openSelected.2.device := by
  have opens := Device.grows_of_exchange (c.device.history_openCamera c.facing)
  cases opened : c.openSelected with
  | mk result c' =>
      cases result with
      | ok capabilities =>
          obtain ⟨_, device, _, called, _, _, rfl⟩ := openSelected_ok opened
          rwa [called] at opens
      | error cause =>
          rcases openSelected_error opened with ⟨_, rfl⟩ | ⟨_, called, rfl⟩ |
            ⟨_, device, called, _, _, rfl⟩
          · exact .refl _
          · rwa [called] at opens
          · rw [called] at opens
            exact opens.trans (Device.grows_of_exchange ⟨_, rfl⟩)

theorem grows_released (c : GatedCamera β) : c.device.Grows c.released.device := by
  simp only [released]
  split
  · exact Device.grows_of_exchange ⟨_, rfl⟩
  · exact .refl _

theorem grows_startPreview (c : GatedCamera β) (surface : UInt64) :
    c.device.Grows (c.startPreview surface).2.device := by
  simp only [startPreview]
  split
  · exact .refl _
  · exact Device.grows_of_exchange (Device.history_startPreview _ _ _)

theorem grows_applyRotation (c : GatedCamera β) (rotation : ScreenRotation) :
    c.device.Grows (c.applyRotation rotation).2.device := by
  simp only [applyRotation]
  split
  · exact .refl _
  · exact Device.grows_of_exchange (Device.history_setRotation _ _)

theorem grows_takePicture (c : GatedCamera β) : c.device.Grows c.takePicture.2.device :=
  Device.grows_of_exchange (Device.history_takePicture _)

variable {c c' : GatedCamera (Receiver τ)}

theorem Due.grows {action : CameraAction (Receiver τ)} (h : Due c action c') :
    c.device.Grows c'.device := by
  cases h <;> exact .refl _

theorem Moved.grows {events : List (CameraEvent τ)} (h : Moved c c' events) :
    c.device.Grows c'.device := by
  cases h with
  | requested | answered | selected | queued => exact .refl _
  | released => exact grows_released c
  | opened _ opened _ =>
      have device := grows_openSelected c
      rwa [opened] at device
  | notOpened _ failed =>
      have device := grows_openSelected c
      rwa [failed] at device
  | @linked surface c₁ _ _ _ due started _ =>
      have device := grows_startPreview c₁ surface
      rw [started] at device
      exact due.grows.trans device
  | @notLinked surface c₁ _ _ due failed =>
      have device := grows_startPreview c₁ surface
      rw [failed] at device
      exact due.grows.trans device
  | @turned rotation c₁ _ due applied =>
      have device := grows_applyRotation c₁ rotation
      rw [applied] at device
      exact due.grows.trans device
  | @notTurned rotation c₁ _ _ due failed =>
      have device := grows_applyRotation c₁ rotation
      rw [failed] at device
      exact due.grows.trans device
  | @pictured _ c₁ _ _ due taken =>
      have device := grows_takePicture c₁
      rw [taken] at device
      exact due.grows.trans device
  | @notPictured _ c₁ _ _ due failed =>
      have device := grows_takePicture c₁
      rw [failed] at device
      exact due.grows.trans device

end GatedCamera

end CaptureFlow
