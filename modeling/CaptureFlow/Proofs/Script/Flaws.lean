import CaptureFlow.Proofs.Script.Layout
/-! # Flaws of a script

A document is refused for a single flaw, whatever else it holds: a key that is no field, at top
level or in the camera; a step or a size without one of the fields it needs; a number that is
negative or too large for its field (`Script.Flawed`).  Documents without flaws may be laid out in
any way (`Script.reads_layouts`). -/

namespace CaptureFlow.Script

open Toml (Value Keyed Sound lookup keys)

variable {α : Type} {entries : List (String × Value)} {elements : List Value} {v : Value}
  {read : Value → Option α} {default : α} {name : String}

/-! ### What is wrong with a table -/

/-- A size lacks a side, or has one that is out of range. -/
inductive SizeFlaw (entries : List (String × Value)) : Prop
  | missing {name : String} (side : name ∈ ["width", "height"]) (absent : name ∉ keys entries)
  | outside {name : String} {n : Int} (side : name ∈ ["width", "height"])
      (given : (name, .integer n) ∈ entries) (far : Outside UInt32.size n)

/-- An event lacks a field that it needs, or has a number that is out of range. -/
inductive EventFlaw (entries : List (String × Value)) : String → Prop
  | noSize (absent : "size" ∉ keys entries) : EventFlaw entries "view_layout"
  | badSize {size : List (String × Value)} (given : ("size", .table size) ∈ entries)
      (flaw : SizeFlaw size) : EventFlaw entries "view_layout"
  | noId (absent : "id" ∉ keys entries) : EventFlaw entries "surface"
  | badId {n : Int} (given : ("id", .integer n) ∈ entries) (far : Outside UInt64.size n) :
      EventFlaw entries "surface"
  | badRotation {n : Int} (given : ("rotation", .integer n) ∈ entries)
      (far : Outside UInt16.size n) : EventFlaw entries "surface"
  | noValue (absent : "value" ∉ keys entries) : EventFlaw entries "orientation"

/-- A step names no event, or one whose fields are wrong. -/
inductive StepFlaw (entries : List (String × Value)) : Prop
  | noEvent (absent : "event" ∉ keys entries)
  | fields {event : String} (named : ("event", .text event) ∈ entries)
      (flaw : EventFlaw entries event)

/-- A camera has a key that is no field, a number that is out of range, or a size with a flaw. -/
inductive CameraFlaw (entries : List (String × Value)) : Prop
  | unknown {key : String} (given : key ∈ keys entries) (other : key ∉ cameraFields)
  | badCount {n : Int} (given : ("count", .integer n) ∈ entries) (far : Outside UInt64.size n)
  | badSensor {n : Int} (given : ("sensor_orientation", .integer n) ∈ entries)
      (far : Outside UInt16.size n)
  | badPreview {sizes : List Value} {size : List (String × Value)}
      (given : ("preview_sizes", .array sizes) ∈ entries) (mem : .table size ∈ sizes)
      (flaw : SizeFlaw size)
  | badPicture {size : List (String × Value)} (given : ("picture_size", .table size) ∈ entries)
      (flaw : SizeFlaw size)

/-- A document has a key that is no field, a camera with a flaw, or a step with one. -/
inductive Flawed (entries : List (String × Value)) : Prop
  | unknown {key : String} (given : key ∈ keys entries) (other : key ∉ scriptFields)
  | badCamera {camera : List (String × Value)} (given : ("camera", .table camera) ∈ entries)
      (flaw : CameraFlaw camera)
  | badStep {steps : List Value} {step : List (String × Value)}
      (given : ("step", .array steps) ∈ entries) (mem : .table step ∈ steps)
      (flaw : StepFlaw step)

/-! ### Refusing them -/

/-- A field that cannot be read is not made up for by a default. -/
theorem optional?_lookup_eq_none (keyed : Keyed (.table entries)) (given : (name, v) ∈ entries)
    (refused : read v = none) : optional? read default (lookup name entries) = none := by
  rw [(Toml.lookup_eq_some_iff keyed.distinct).mpr given]
  exact refused

theorem bind_lookup_eq_none (keyed : Keyed (.table entries)) (given : (name, v) ∈ entries)
    (refused : read v = none) : (lookup name entries).bind read = none := by
  rw [(Toml.lookup_eq_some_iff keyed.distinct).mpr given]
  exact refused

theorem listOf?_eq_none (mem : v ∈ elements) (refused : read v = none) :
    listOf? read (.array elements) = none := by
  show elements.mapM read = none
  induction elements with
  | nil => cases mem
  | cons w elements ih =>
      rw [List.mapM_cons]
      rcases List.mem_cons.mp mem with rfl | mem
      · rw [refused]
        rfl
      · rw [ih mem]
        cases read w <;> rfl

theorem uint16?_outside {n : Int} (far : Outside UInt16.size n) : uint16? (.integer n) = none := by
  rw [uint16?, natBelow?_eq_none far]
  rfl

theorem uint32?_outside {n : Int} (far : Outside UInt32.size n) : uint32? (.integer n) = none := by
  rw [uint32?, natBelow?_eq_none far]
  rfl

theorem uint64?_outside {n : Int} (far : Outside UInt64.size n) : uint64? (.integer n) = none := by
  rw [uint64?, natBelow?_eq_none far]
  rfl

theorem size?_of_flaw {strictness : Strictness} (keyed : Keyed (.table entries))
    (flaw : SizeFlaw entries) : size? strictness (.table entries) = none := by
  obtain ⟨name, side, refused⟩ : ∃ name ∈ ["width", "height"],
      (lookup name entries).bind uint32? = none := by
    cases flaw with
    | missing side absent =>
        refine ⟨_, side, ?_⟩
        rw [Toml.lookup_eq_none_iff.mpr absent]
        rfl
    | outside side given far =>
        exact ⟨_, side, bind_lookup_eq_none keyed given (uint32?_outside far)⟩
  apply Option.eq_none_iff_forall_ne_some.mpr
  intro size read
  obtain ⟨-, width, height⟩ := size?_table_iff.mp read
  simp only [List.mem_cons, List.not_mem_nil, or_false] at side
  rcases side with rfl | rfl
  · rw [refused] at width
    cases width
  · rw [refused] at height
    cases height

theorem camera?_of_flaw (keyed : Keyed (.table entries)) (flaw : CameraFlaw entries) :
    camera? (.table entries) = none := by
  apply Option.eq_none_iff_forall_ne_some.mpr
  intro c read
  obtain ⟨known, count, sensor, previews, picture, -⟩ := camera?_table_iff.mp read
  cases flaw with
  | unknown given other => exact other (known _ given)
  | badCount given far =>
      rw [optional?_lookup_eq_none keyed given (uint64?_outside far)] at count
      cases count
  | badSensor given far =>
      rw [optional?_lookup_eq_none keyed given (uint16?_outside far)] at sensor
      cases sensor
  | badPreview given mem flaw =>
      rw [optional?_lookup_eq_none keyed given] at previews
      · cases previews
      · rw [listOf?_eq_none mem (size?_of_flaw ((keyed.entry given).element mem) flaw)]
        rfl
  | badPicture given flaw =>
      rw [optional?_lookup_eq_none keyed given] at picture
      · cases picture
      · rw [size?_of_flaw (keyed.entry given) flaw]
        rfl

theorem stepOfFields?_of_flaw {event : String} (keyed : Keyed (.table entries))
    (flaw : EventFlaw entries event) :
    stepOfFields? event (fun name => lookup name entries) = none := by
  cases flaw with
  | noSize absent => simp [stepOfFields?, Toml.lookup_eq_none_iff.mpr absent]
  | badSize given flaw =>
      have found := (Toml.lookup_eq_some_iff keyed.distinct).mpr given
      simp [stepOfFields?, found, size?_of_flaw (keyed.entry given) flaw]
  | noId absent => simp [stepOfFields?, Toml.lookup_eq_none_iff.mpr absent]
  | badId given far =>
      have found := (Toml.lookup_eq_some_iff keyed.distinct).mpr given
      simp [stepOfFields?, found, uint64?_outside far]
  | badRotation given far =>
      have refused : optional? uint16? 0 (lookup "rotation" entries) = none :=
        optional?_lookup_eq_none keyed given (uint16?_outside far)
      simp [stepOfFields?, refused]
  | noValue absent => simp [stepOfFields?, Toml.lookup_eq_none_iff.mpr absent]

theorem step?_of_flaw (keyed : Keyed (.table entries)) (flaw : StepFlaw entries) :
    step? (.table entries) = none := by
  apply Option.eq_none_iff_forall_ne_some.mpr
  intro step read
  obtain ⟨-, event, found, fields⟩ := step?_table_iff.mp read
  cases flaw with
  | noEvent absent =>
      rw [Toml.lookup_eq_none_iff.mpr absent] at found
      cases found
  | fields named flaw =>
      rw [(Toml.lookup_eq_some_iff keyed.distinct).mpr named] at found
      cases found
      rw [stepOfFields?_of_flaw keyed flaw] at fields
      cases fields

theorem ofTable?_of_flawed (keyed : Keyed (.table entries)) (flawed : Flawed entries) :
    ofTable? entries = none := by
  apply Option.eq_none_iff_forall_ne_some.mpr
  intro s read
  obtain ⟨known, -, camera, steps⟩ := ofTable?_iff.mp read
  cases flawed with
  | unknown given other => exact other (known _ given)
  | badCamera given flaw =>
      rw [optional?_lookup_eq_none keyed given (camera?_of_flaw (keyed.entry given) flaw)] at camera
      cases camera
  | badStep given mem flaw =>
      have refused := step?_of_flaw ((keyed.entry given).element mem) flaw
      rw [optional?_lookup_eq_none keyed given (listOf?_eq_none mem refused)] at steps
      cases steps

end CaptureFlow.Script
