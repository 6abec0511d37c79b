import Mathlib
import CaptureFlow.Proofs.Toml.Reading
import CaptureFlow.Proofs.Script.Flaws
/-! # Documents of scripts

Every script can be written down in full (`Script.entries`), and this is one of its layouts.  What a
document holds is what reading it gives, in whichever layout, and a flaw makes it refused
(`Script.reads_layouts`). -/

namespace CaptureFlow

open Toml (Value Keyed Sound keys)

/-! ### Writing scripts down -/

def Size.tree (size : Size) : Value :=
  .table [("width", .integer size.width.toNat), ("height", .integer size.height.toNat)]

namespace Step

/-- What a step has besides the name of its event. -/
def fields : Step → List (String × Value)
  | .viewLayout size => [("size", size.tree)]
  | .surface id rotation => [("id", .integer id.toNat), ("rotation", .integer rotation.toNat)]
  | .orientation value => [("value", .text value.name)]
  | .resume | .pause | .capture | .flip => []

def tree (step : Step) : Value := .table (("event", .text step.event) :: step.fields)

end Step

namespace CameraSpec

/-- The fields of a camera; a size that is left out has none. -/
def entries (c : CameraSpec) : List (String × Value) :=
  ("count", .integer c.count.toNat) ::
  ("sensor_orientation", .integer c.sensorOrientation.toNat) ::
  ("fail_preview", .boolean c.failPreview) ::
  ((c.previewSizes.map fun sizes => ("preview_sizes", .array (sizes.map Size.tree))).toList ++
    (c.pictureSize.map fun size => ("picture_size", size.tree)).toList)

end CameraSpec

namespace Script

/-- The fields of a script. -/
def entries (s : Script) : List (String × Value) :=
  [("orientation", .text s.orientation.name), ("camera", .table s.camera.entries),
    ("step", .array (s.steps.map Step.tree))]

/-! ### What is written down is a document -/

theorem keyed_size (size : Size) : Keyed size.tree := by simp [Size.tree, keys]

theorem sound_size (size : Size) : Sound size.tree := by
  have width := size.width.toNat_lt
  have height := size.height.toNat_lt
  simp [Size.tree]
  omega

theorem keyed_step (step : Step) : Keyed step.tree := by
  cases step <;> simp [Step.tree, Step.fields, keys, keyed_size]

theorem sound_step (step : Step) : Sound step.tree := by
  cases step with
  | surface id rotation =>
      have handle := id.toNat_lt
      have turned := rotation.toNat_lt
      simp [Step.tree, Step.fields]
      omega
  | _ => simp [Step.tree, Step.fields, sound_size]

theorem keyed_camera (c : CameraSpec) : Keyed (.table c.entries) := by
  obtain ⟨count, sensor, previews, picture, fail⟩ := c
  cases previews <;> cases picture <;> simp [CameraSpec.entries, keys, keyed_size]

theorem sound_camera (c : CameraSpec) : Sound (.table c.entries) := by
  obtain ⟨count, sensor, previews, picture, fail⟩ := c
  have cameras := count.toNat_lt
  have turned := sensor.toNat_lt
  cases previews <;> cases picture <;> simp [CameraSpec.entries, sound_size] <;> omega

theorem keyed_entries (s : Script) : Keyed (.table s.entries) := by
  have steps : Keyed (.array (s.steps.map Step.tree)) := by simp [keyed_step]
  refine Toml.keyed_table_iff.mpr ⟨by simp [entries, keys], ?_⟩
  simp only [entries, List.forall_mem_cons]
  exact ⟨Toml.keyed_text _, keyed_camera s.camera, steps, List.forall_mem_nil _⟩

theorem sound_entries (s : Script) : Sound (.table s.entries) := by
  have steps : Sound (.array (s.steps.map Step.tree)) := by simp [sound_step]
  refine Toml.sound_table_iff.mpr ?_
  simp only [entries, List.forall_mem_cons]
  exact ⟨Toml.sound_text _, sound_camera s.camera, steps, List.forall_mem_nil _⟩

/-! ### What is written down is a layout -/

variable {α : Type} {Form : Value → α → Prop} {write : α → Value}

theorem listed_map (forms : ∀ a, Form (write a) a) (as : List α) :
    Listed Form (.array (as.map write)) as :=
  ⟨as.map write, rfl, List.forall₂_map_left_iff.mpr (List.forall₂_same.mpr fun a _ => forms a)⟩

theorem sizeForm_tree (size : Size) : SizeForm size.tree size :=
  ⟨⟨_, List.mem_cons_self .., rfl⟩, ⟨_, List.mem_cons_of_mem _ (List.mem_cons_self ..), rfl⟩⟩

theorem stepForm_tree (step : Step) : StepForm step.tree step := by
  refine ⟨⟨_, List.mem_cons_self .., rfl⟩, ?_⟩
  cases step with
  | resume => exact .resume
  | pause => exact .pause
  | viewLayout size => exact .viewLayout ⟨size.tree, by simp [Step.fields], sizeForm_tree size⟩
  | surface id rotation =>
      exact .surface ⟨_, by simp [Step.fields], rfl⟩ (.inl ⟨_, by simp [Step.fields], rfl⟩)
  | orientation value => exact .orientation ⟨_, by simp [Step.fields], rfl⟩
  | capture => exact .capture
  | flip => exact .flip

theorem cameraFields_entries (c : CameraSpec) : CameraFields c.entries c := by
  obtain ⟨count, sensor, previews, picture, fail⟩ := c
  constructor
  case known => cases previews <;> cases picture <;> simp [CameraSpec.entries, keys, cameraFields]
  case count => exact .inl ⟨_, by simp [CameraSpec.entries], rfl⟩
  case sensorOrientation => exact .inl ⟨_, by simp [CameraSpec.entries], rfl⟩
  case failPreview => exact .inl ⟨_, by simp [CameraSpec.entries], rfl⟩
  case previewSizes =>
    cases previews with
    | none => exact .inr ⟨by cases picture <;> simp [CameraSpec.entries, keys], rfl⟩
    | some sizes =>
        exact .inl ⟨_, by simp [CameraSpec.entries], sizes, rfl, listed_map sizeForm_tree sizes⟩
  case pictureSize =>
    cases picture with
    | none => exact .inr ⟨by cases previews <;> simp [CameraSpec.entries, keys], rfl⟩
    | some size => exact .inl ⟨_, by simp [CameraSpec.entries], size, rfl, sizeForm_tree size⟩

/-- A script written down in full is a layout of it. -/
theorem describes_entries (s : Script) : Describes s.entries s where
  known := by simp [entries, keys, scriptFields]
  orientation := .inl ⟨_, by simp [entries], rfl⟩
  camera := .inl ⟨_, by simp [entries], ⟨cameraFields_entries s.camera⟩⟩
  steps := .inl ⟨_, by simp [entries], listed_map stepForm_tree s.steps⟩

/-! ### All documents -/

/-- **The layout of a script does not matter, and its flaws do.**  Every script has a layout.  A
document that lays out a script is read as this script: its fields may come in any order, those that
have their default may be left out, and steps and sizes may have other entries.  A document with a
flaw is refused: a key that is no field at top level or in the camera, a missing field without a
default, an integer out of range.  This goes for tables as well as for the texts they are read
from. -/
theorem reads_layouts :
    (∀ s : Script, Keyed (.table s.entries) ∧ Sound (.table s.entries) ∧ Describes s.entries s) ∧
    (∀ entries, Keyed (.table entries) →
      (Sound (.table entries) → ∀ s, Describes entries s → ofTable? entries = some s) ∧
      (Flawed entries → ofTable? entries = none)) ∧
    (∀ text entries, Toml.read? text = some entries →
      (Sound (.table entries) → ∀ s, Describes entries s → read text = .ok s) ∧
      (Flawed entries → read text = .error (.encoding .badScript))) := by
  refine ⟨fun s => ⟨keyed_entries s, sound_entries s, describes_entries s⟩, ?_, ?_⟩
  · intro entries keyed
    exact ⟨fun sound s layout => ofTable?_of_describes keyed sound layout,
      fun flawed => ofTable?_of_flawed keyed flawed⟩
  · intro text entries tree
    have keyed := Toml.keyed_of_read? tree
    constructor
    · intro sound s layout
      simp only [read, tree, ofTable?_of_describes keyed sound layout]
    · intro flawed
      simp only [read, tree, ofTable?_of_flawed keyed flawed]

/-- A document with its sections and fields in an unusual order, most fields left out, and two
entries that are no fields. -/
def shuffled : String :=
  "[[step]]\nsize = \x7b height = 480, depth = 1, width = 640 \x7d\nnote = \"wide\"\n" ++
  "event = \"view_layout\"\n[camera]\nfail_preview = true"

def shuffledEntries : List (String × Value) :=
  [("step", .array [.table [
      ("size", .table [("height", .integer 480), ("depth", .integer 1), ("width", .integer 640)]),
      ("note", .text "wide"), ("event", .text "view_layout")]]),
    ("camera", .table [("fail_preview", .boolean true)])]

def shuffledScript : Script where
  camera := { failPreview := true }
  steps := [.viewLayout ⟨640, 480⟩]

theorem describes_shuffled : Describes shuffledEntries shuffledScript where
  known := by simp [shuffledEntries, keys, scriptFields]
  orientation := .inr ⟨by simp [shuffledEntries, keys], rfl⟩
  camera := by
    refine .inl ⟨_, .tail _ (.head _), ⟨?_, ?_, ?_, ?_, ?_, ?_⟩⟩
    · simp [keys, cameraFields]
    · exact .inr ⟨by simp [keys], rfl⟩
    · exact .inr ⟨by simp [keys], rfl⟩
    · exact .inr ⟨by simp [keys], rfl⟩
    · exact .inr ⟨by simp [keys], rfl⟩
    · exact .inl ⟨_, .head _, rfl⟩
  steps := by
    refine .inl ⟨_, .head _, _, rfl, .cons ?_ .nil⟩
    refine ⟨⟨_, .tail _ (.tail _ (.head _)), rfl⟩, .viewLayout ⟨_, .head _, ?_⟩⟩
    exact ⟨⟨_, .tail _ (.tail _ (.head _)), rfl⟩, ⟨_, .head _, rfl⟩⟩

theorem read?_shuffled : Toml.read? shuffled = some shuffledEntries := by cbv

theorem read?_lens :
    Toml.read? "[camera]\nlens = \"wide\"" =
      some [("camera", .table [("lens", .text "wide")])] := by cbv

/-- Reading `shuffled`, and a camera with a field that is none. -/
theorem reads_layouts_shuffled :
    Toml.read? shuffled = some shuffledEntries ∧ read shuffled = .ok shuffledScript ∧
    read "[camera]\nlens = \"wide\"" = .error (.encoding .badScript) := by
  have sound : Sound (.table shuffledEntries) := by simp [shuffledEntries]
  have flawed : Flawed [("camera", .table [("lens", .text "wide")])] :=
    .badCamera (.head _) (.unknown (Toml.mem_keys (.head _)) (by decide))
  exact ⟨read?_shuffled, (reads_layouts.2.2 _ _ read?_shuffled).1 sound _ describes_shuffled,
    (reads_layouts.2.2 _ _ read?_lens).2 flawed⟩

end Script

end CaptureFlow
