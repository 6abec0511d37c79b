import CaptureFlow.Proofs.Camera.Protocol
/-! # A device that refuses nothing

What a device answers is known in advance if none of its calls are refused on their way: it does
every call that is in order and that its kind does not fail.  `d.Obeys spec calls` says that `d` is
such a device of the kind `spec`, and that it has done all of `calls` so far; each call has one
lemma that gives the answer, the device after it and the calls by then.

The pictures of such a device are numbered from one, up to the largest number that its counter
holds (`toNat_nextPicture`). -/

namespace CaptureFlow

theorem Refusals.refusesNext_of_refused {r : Refusals} (h : r.refused = []) :
    r.refusesNext = false := by
  rw [refusesNext, h]
  rfl

structure DeviceRefusals.Nothing (r : DeviceRefusals) : Prop where
  openCamera : r.openCamera.refused = []
  startPreview : r.startPreview.refused = []
  setRotation : r.setRotation.refused = []
  takePicture : r.takePicture.refused = []

/-- The picture that a device of this kind gives after `earlier` ones. -/
def DeviceSpec.picture (spec : DeviceSpec) (earlier : Nat) : Frame where
  data := s!"frame-{min (earlier + 1) (UInt64.size - 1)}"
  size := spec.pictureSize
  rotation := spec.sensorOrientation

namespace Device

theorem toNat_nextPicture (taken : UInt64) :
    (nextPicture taken).toNat = min (taken.toNat + 1) (UInt64.size - 1) := by
  have size : UInt64.size = 18446744073709551616 := rfl
  have small := taken.toNat_lt_size
  have sum : (taken + 1).toNat = (taken.toNat + 1) % UInt64.size := UInt64.toNat_add taken 1
  rw [size] at small sum ⊢
  unfold nextPicture
  split
  next wraps =>
    have zero : (taken + 1).toNat = 0 := congrArg UInt64.toNat wraps
    omega
  next fits =>
    have positive : (taken + 1).toNat ≠ 0 := fun zero => fits (UInt64.toNat_inj.mp zero)
    omega

/-! ### Answers -/

/-- `d` is a device of the kind `spec` that refuses nothing, has been given `calls` and has done
them all. -/
structure Obeys (d : Device) (spec : DeviceSpec) (calls : List DeviceCall) : Prop where
  spec : d.spec = spec
  reportedFacing : d.reportedFacing = none
  refusals : d.refusals.Nothing
  exchanges : d.exchanges = calls.map fun call => ⟨call, .done⟩

variable {d d' : Device} {spec : DeviceSpec} {calls : List DeviceCall}

theorem obeys_new (spec : DeviceSpec) : Obeys { spec } spec [] :=
  ⟨rfl, rfl, ⟨rfl, rfl, rfl, rfl⟩, rfl⟩

theorem Obeys.calls_eq (h : Obeys d spec calls) : d.calls = calls := by
  have all : d.history.reverse = calls.map fun call => ⟨call, .done⟩ := h.exchanges
  rw [Device.calls, all]
  simp [List.filter_map, Function.comp_def]

theorem Obeys.after (h : Obeys d spec calls) {call : DeviceCall}
    (history : d'.history = ⟨call, .done⟩ :: d.history) (kind : d'.spec = d.spec)
    (reportedFacing : d'.reportedFacing = d.reportedFacing) (refusals : d'.refusals.Nothing) :
    Obeys d' spec (calls ++ [call]) := by
  refine ⟨kind.trans h.spec, reportedFacing.trans h.reportedFacing, refusals, ?_⟩
  have earlier := h.exchanges
  rw [Device.exchanges] at earlier ⊢
  rw [history, List.reverse_cons, earlier, List.map_append]
  rfl

theorem Obeys.openCamera (h : Obeys d spec calls) (closed : d.opened = none) {facing : Facing}
    (available : facing = .front → 2 ≤ spec.count) :
    ∃ d', d.openCamera facing =
        (.ok ⟨facing, spec.sensorOrientation, spec.previewSizes⟩, d') ∧
      Obeys d' spec (calls ++ [.openCamera facing]) ∧ d'.opened = some facing ∧
      d'.previewing = d.previewing ∧ d'.picturesTaken = d.picturesTaken := by
  have reaches := Refusals.refusesNext_of_refused h.refusals.openCamera
  have present : ¬(facing = .front ∧ spec.count < 2) := by
    rintro ⟨front, few⟩
    exact absurd few (UInt64.not_lt.mpr (available front))
  let counted := { d.refusals with openCamera := d.refusals.openCamera.count }
  refine ⟨{ d with refusals := counted, opened := some facing }.record _ .done, ?_,
    h.after rfl rfl rfl { h.refusals with }, rfl, rfl, rfl⟩
  simp only [Device.openCamera, reaches, closed, h.spec, if_neg present, h.reportedFacing,
    Bool.false_eq_true, if_false, Option.getD_none]
  rfl

theorem Obeys.startPreview (h : Obeys d spec calls) (opened : d.opened.isSome = true)
    (previews : spec.failPreview = false) (size : Size) (surface : UInt64) :
    ∃ d', d.startPreview size surface = (.ok (), d') ∧
      Obeys d' spec (calls ++ [.startPreview size surface]) ∧ d'.opened = d.opened ∧
      d'.previewing = true ∧ d'.picturesTaken = d.picturesTaken := by
  have reaches := Refusals.refusesNext_of_refused h.refusals.startPreview
  let counted := { d.refusals with startPreview := d.refusals.startPreview.count }
  refine ⟨{ d with refusals := counted, previewing := true }.record _ .done, ?_,
    h.after rfl rfl rfl { h.refusals with }, rfl, rfl, rfl⟩
  simp only [Device.startPreview, reaches, h.spec, previews, Option.isNone_iff_eq_none,
    Option.isSome_iff_ne_none.mp opened, Bool.false_eq_true, if_false]
  rfl

theorem Obeys.setRotation (h : Obeys d spec calls) (degrees : UInt16) :
    ∃ d', d.setRotation degrees = (.ok (), d') ∧
      Obeys d' spec (calls ++ [.setRotation degrees]) ∧ d'.opened = d.opened ∧
      d'.previewing = d.previewing ∧ d'.picturesTaken = d.picturesTaken := by
  have reaches := Refusals.refusesNext_of_refused h.refusals.setRotation
  let counted := { d.refusals with setRotation := d.refusals.setRotation.count }
  refine ⟨{ d with refusals := counted }.record _ .done, ?_,
    h.after rfl rfl rfl { h.refusals with }, rfl, rfl, rfl⟩
  simp only [Device.setRotation, reaches, Bool.false_eq_true, if_false]
  rfl

theorem Obeys.takePicture (h : Obeys d spec calls) (previewing : d.previewing = true)
    {earlier : Nat} (taken : d.picturesTaken.toNat = min earlier (UInt64.size - 1)) :
    ∃ d', d.takePicture = (.ok (spec.picture earlier), d') ∧
      Obeys d' spec (calls ++ [.takePicture]) ∧ d'.opened = d.opened ∧
      d'.previewing = d.previewing ∧
      d'.picturesTaken.toNat = min (earlier + 1) (UInt64.size - 1) := by
  have reaches := Refusals.refusesNext_of_refused h.refusals.takePicture
  have number : (nextPicture d.picturesTaken).toNat = min (earlier + 1) (UInt64.size - 1) := by
    rw [toNat_nextPicture, taken]
    omega
  let counted := { d.refusals with takePicture := d.refusals.takePicture.count }
  refine ⟨{ d with refusals := counted, picturesTaken := nextPicture d.picturesTaken }.record
    _ .done, ?_, h.after rfl rfl rfl { h.refusals with }, rfl, rfl, number⟩
  simp only [Device.takePicture, reaches, previewing, number, h.spec, Bool.false_eq_true, if_false,
    Bool.not_true]
  rfl

end Device

end CaptureFlow
