import Mathlib.Data.List.Forall2
import CaptureFlow.Proofs.Script.Decoding
/-! # Layouts of a script

A script can be laid out in many documents.  Its fields stand in tables under their names.  They may
come in any order, those that have their default may be left out, and the tables of steps and sizes
may have entries that are no fields (`Script.Describes`).  Reading gives the script in whichever way
it is laid out (`Script.ofTable?_of_describes`). -/

namespace CaptureFlow

open Toml (Value Keyed Sound lookup keys)

def Step.event : Step → String
  | .resume => "resume"
  | .pause => "pause"
  | .viewLayout _ => "view_layout"
  | .surface _ _ => "surface"
  | .orientation _ => "orientation"
  | .capture => "capture"
  | .flip => "flip"

namespace Script

variable {α : Type} {entries : List (String × Value)} {elements : List Value} {v : Value}
  {Form : Value → α → Prop} {read : Value → Option α} {default a : α} {name : String}

/-! ### Fields and what they hold -/

/-- The table has the field `name`, and the field holds `a` in the given form. -/
def Field (Form : Value → α → Prop) (entries : List (String × Value)) (name : String) (a : α) :
    Prop :=
  ∃ v, (name, v) ∈ entries ∧ Form v a

/-- As `Field`, but for the default the field may be left out. -/
def OptionalField (Form : Value → α → Prop) (default : α) (entries : List (String × Value))
    (name : String) (a : α) : Prop :=
  Field Form entries name a ∨ (name ∉ keys entries ∧ a = default)

def Numbered (toNat : α → Nat) (v : Value) (a : α) : Prop := v = .integer (toNat a)

/-- One of a few things, by its name. -/
def Named (nameOf : α → String) (v : Value) (a : α) : Prop := v = .text (nameOf a)

/-- A truth value. -/
def Flagged (v : Value) (b : Bool) : Prop := v = .boolean b

/-- An array with one element for each of `as`, in their order. -/
def Listed (Form : Value → α → Prop) (v : Value) (as : List α) : Prop :=
  ∃ elements, v = .array elements ∧ List.Forall₂ Form elements as

/-- Something that is there. -/
def Present (Form : Value → α → Prop) (v : Value) (a : Option α) : Prop :=
  ∃ b, a = some b ∧ Form v b

/-- A size: a table with a width and a height. -/
inductive SizeForm : Value → Size → Prop
  | table {entries : List (String × Value)} {size : Size}
      (width : Field (Numbered UInt32.toNat) entries "width" size.width)
      (height : Field (Numbered UInt32.toNat) entries "height" size.height) :
      SizeForm (.table entries) size

inductive EventFields (entries : List (String × Value)) : Step → Prop
  | resume : EventFields entries .resume
  | pause : EventFields entries .pause
  | viewLayout {size : Size} (shown : Field SizeForm entries "size" size) :
      EventFields entries (.viewLayout size)
  | surface {id : UInt64} {rotation : UInt16}
      (handle : Field (Numbered UInt64.toNat) entries "id" id)
      (turned : OptionalField (Numbered UInt16.toNat) 0 entries "rotation" rotation) :
      EventFields entries (.surface id rotation)
  | orientation {value : Orientation}
      (held : Field (Named Orientation.name) entries "value" value) :
      EventFields entries (.orientation value)
  | capture : EventFields entries .capture
  | flip : EventFields entries .flip

/-- A step: a table with the name of the event and its fields. -/
inductive StepForm : Value → Step → Prop
  | table {entries : List (String × Value)} {step : Step}
      (event : Field (Named Step.event) entries "event" step)
      (fields : EventFields entries step) : StepForm (.table entries) step

/-- The fields of a camera, and nothing else. -/
structure CameraFields (entries : List (String × Value)) (c : CameraSpec) : Prop where
  known : ∀ key ∈ keys entries, key ∈ cameraFields
  count : OptionalField (Numbered UInt64.toNat) 2 entries "count" c.count
  sensorOrientation :
    OptionalField (Numbered UInt16.toNat) 90 entries "sensor_orientation" c.sensorOrientation
  previewSizes :
    OptionalField (Present (Listed SizeForm)) none entries "preview_sizes" c.previewSizes
  pictureSize : OptionalField (Present SizeForm) none entries "picture_size" c.pictureSize
  failPreview : OptionalField Flagged false entries "fail_preview" c.failPreview

/-- A camera: a table with some of its fields. -/
inductive CameraForm : Value → CameraSpec → Prop
  | table {entries : List (String × Value)} {c : CameraSpec} (fields : CameraFields entries c) :
      CameraForm (.table entries) c

/-- The fields of a script, and nothing else. -/
structure Describes (entries : List (String × Value)) (s : Script) : Prop where
  known : ∀ key ∈ keys entries, key ∈ scriptFields
  orientation :
    OptionalField (Named Orientation.name) .portrait entries "orientation" s.orientation
  camera : OptionalField CameraForm {} entries "camera" s.camera
  steps : OptionalField (Listed StepForm) [] entries "step" s.steps

/-! ### Reading fields -/

/-- In a document that is well formed, `read` gives what a value has the form of. -/
def Reads (read : Value → Option α) (Form : Value → α → Prop) : Prop :=
  ∀ v a, Keyed v → Sound v → Form v a → read v = some a

theorem reads_uint16 : Reads uint16? (Numbered UInt16.toNat) := by
  rintro _ n - - rfl
  exact uint16?_ofNat n

theorem reads_uint32 : Reads uint32? (Numbered UInt32.toNat) := by
  rintro _ n - - rfl
  exact uint32?_ofNat n

theorem reads_uint64 : Reads uint64? (Numbered UInt64.toNat) := by
  rintro _ n - - rfl
  exact uint64?_ofNat n

theorem reads_flag : Reads flag? Flagged := by
  rintro _ b - - rfl
  rfl

theorem reads_orientation (strictness : Strictness) :
    Reads (orientation? strictness) (Named Orientation.name) := by
  rintro _ o - - rfl
  cases o <;> rfl

theorem Reads.present (reads : Reads read Form) :
    Reads (fun v => (read v).map some) (Present Form) := by
  rintro v _ keyed sound ⟨a, rfl, form⟩
  show (read v).map some = some (some a)
  rw [reads v a keyed sound form]
  rfl

theorem mapM_of_forms {as : List α} (forms : List.Forall₂ Form elements as)
    (gives : ∀ v ∈ elements, ∀ a, Form v a → read v = some a) : elements.mapM read = some as := by
  induction forms with
  | nil => rfl
  | cons form forms ih =>
      rw [List.mapM_cons, gives _ (List.mem_cons_self ..) _ form,
        ih fun v mem => gives v (List.mem_cons_of_mem _ mem)]
      rfl

theorem Reads.listed (reads : Reads read Form) : Reads (listOf? read) (Listed Form) := by
  rintro _ as keyed sound ⟨elements, rfl, forms⟩
  exact mapM_of_forms forms fun v mem a form =>
    reads v a (keyed.element mem) (sound.element mem) form

theorem Reads.field (reads : Reads read Form) (keyed : Keyed (.table entries))
    (sound : Sound (.table entries)) (field : Field Form entries name a) :
    ∃ v, lookup name entries = some v ∧ read v = some a := by
  obtain ⟨v, mem, form⟩ := field
  exact ⟨v, (Toml.lookup_eq_some_iff keyed.distinct).mpr mem,
    reads v a (keyed.entry mem) (sound.entry mem) form⟩

theorem Reads.optional (reads : Reads read Form) (keyed : Keyed (.table entries))
    (sound : Sound (.table entries)) (field : OptionalField Form default entries name a) :
    optional? read default (lookup name entries) = some a := by
  rcases field with field | ⟨absent, rfl⟩
  · obtain ⟨v, found, gives⟩ := reads.field keyed sound field
    rw [found]
    exact gives
  · rw [Toml.lookup_eq_none_iff.mpr absent]
    rfl

/-! ### Reading tables -/

theorem reads_size (strictness : Strictness) : Reads (size? strictness) SizeForm := by
  rintro _ size keyed sound ⟨width, height⟩
  refine size?_table_iff.mpr ⟨?_, ?_, ?_⟩
  · exact entriesFit_of_sound (by decide) _ fun _ mem => sound.entry mem
  · exact Option.bind_eq_some_iff.mpr (reads_uint32.field keyed sound width)
  · exact Option.bind_eq_some_iff.mpr (reads_uint32.field keyed sound height)

theorem reads_camera : Reads camera? CameraForm := by
  rintro _ c keyed sound ⟨fields⟩
  refine camera?_table_iff.mpr ⟨fields.known, ?_, ?_, ?_, ?_, ?_⟩
  · exact reads_uint64.optional keyed sound fields.count
  · exact reads_uint16.optional keyed sound fields.sensorOrientation
  · exact (reads_size .lenient).listed.present.optional keyed sound fields.previewSizes
  · exact (reads_size .lenient).present.optional keyed sound fields.pictureSize
  · exact reads_flag.optional keyed sound fields.failPreview

theorem stepOfFields?_of_fields {step : Step} (keyed : Keyed (.table entries))
    (sound : Sound (.table entries)) (fields : EventFields entries step) :
    stepOfFields? step.event (fun name => lookup name entries) = some step := by
  cases fields with
  | resume => rfl
  | pause => rfl
  | viewLayout shown =>
      obtain ⟨v, found, gives⟩ := (reads_size .strict).field keyed sound shown
      simp [stepOfFields?, Step.event, found, gives]
  | surface handle turned =>
      obtain ⟨v, found, gives⟩ := reads_uint64.field keyed sound handle
      have rotation := reads_uint16.optional keyed sound turned
      simp [stepOfFields?, Step.event, found, gives, rotation]
  | orientation held =>
      obtain ⟨v, found, gives⟩ := (reads_orientation .strict).field keyed sound held
      simp [stepOfFields?, Step.event, found, gives]
  | capture => rfl
  | flip => rfl

theorem reads_step : Reads step? StepForm := by
  rintro _ step keyed sound ⟨⟨_, named, rfl⟩, fields⟩
  exact step?_table_iff.mpr ⟨fits_of_sound (by decide) _ sound, step.event,
    (Toml.lookup_eq_some_iff keyed.distinct).mpr named, stepOfFields?_of_fields keyed sound fields⟩

theorem ofTable?_of_describes {s : Script} (keyed : Keyed (.table entries))
    (sound : Sound (.table entries)) (layout : Describes entries s) :
    ofTable? entries = some s := by
  refine ofTable?_iff.mpr ⟨layout.known, ?_, ?_, ?_⟩
  · exact (reads_orientation .lenient).optional keyed sound layout.orientation
  · exact reads_camera.optional keyed sound layout.camera
  · exact reads_step.listed.optional keyed sound layout.steps

end Script

end CaptureFlow
