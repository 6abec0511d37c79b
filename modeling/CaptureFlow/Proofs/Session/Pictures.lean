import CaptureFlow.Proofs.Camera.Pictures
import CaptureFlow.Proofs.Geometry.Cropping
import CaptureFlow.Proofs.Session.Schedule
/-! # How pictures are reported

A picture that the session takes is reported when the camera delivers it, which may be long after it
was asked for.  The report goes by what is known of the view by then: it has the region of the
picture that a view of the latest size shows, or says that a size is empty or that there was no
layout (`Reports`).

What a session reports of pictures is what the camera delivers to it, report for picture and each at
its place (`pictures_reported`).  What the camera delivers are the pictures of the device, from the
first on (`Tallied`), in a run of the session as in one of the camera alone. -/

namespace CaptureFlow

/-- The size at which an operation lays out the view. -/
def SessionOp.layout? : SessionOp → Option Size
  | .layOut size => some size
  | _ => none

def latestLayout (ops : List SessionOp) : Option Size :=
  (ops.filterMap SessionOp.layout?).getLast?

/-! ### The size that the schedule knows -/

/-- The size at which the view is laid out. -/
def Prompt.layout? : Prompt → Option Size
  | .laidOut size => some size
  | _ => none

namespace Schedule

theorem view_react (q : Schedule) (p : Prompt) : (q.react p).1.view = p.layout?.or q.view := by
  cases p with
  | announced c =>
      simp only [react]
      split <;> rfl
  | laidOut size =>
      simp only [react]
      split <;> rfl
  | turned | captured => rfl

theorem view_run (q : Schedule) (ps : List Prompt) :
    (q.run ps).1.view = (ps.filterMap Prompt.layout?).getLast?.or q.view := by
  induction ps generalizing q with
  | nil => rfl
  | cons p rest ih =>
      have later := ih (q.react p).1
      rw [view_react] at later
      rw [run, later]
      cases layout : p.layout? with
      | none => rw [List.filterMap_cons_none layout, Option.none_or]
      | some size =>
          rw [List.filterMap_cons_some layout, List.getLast?_cons]
          cases (rest.filterMap Prompt.layout?).getLast? <;> rfl

end Schedule

namespace Session

variable {s s₀ : Session} {q : Schedule}

theorem layout_prompt? (s : Session) (op : SessionOp) :
    (s.prompt? op).toList.filterMap Prompt.layout? = op.layout?.toList := by
  cases op with
  | resume | flip =>
      simp only [prompt?]
      split <;> rfl
  | _ => rfl

theorem layouts_prompts (s : Session) (ops : List SessionOp) :
    (s.prompts ops).filterMap Prompt.layout? = ops.filterMap SessionOp.layout? := by
  induction ops generalizing s with
  | nil => rfl
  | cons op rest ih =>
      have later := ih (s.perform op).session
      rw [prompts] at later ⊢
      rw [collect, List.filterMap_append, layout_prompt?, later]
      cases layout : op.layout? with
      | none => rw [List.filterMap_cons_none layout, Option.toList_none, List.nil_append]
      | some size => rw [List.filterMap_cons_some layout]; rfl

theorem viewSize_eq {orientation : Orientation} (h : Tracks (.fresh orientation) s)
    (ops : List SessionOp) : (s.performAll ops).viewSize = latestLayout ops := by
  rw [(h.performAll ops).size, Schedule.view_run, layouts_prompts]
  exact Option.or_none

/-! ### Reports -/

/-- What is reported of a picture, by the latest layout before it was delivered. -/
inductive Reports : Option Size → Frame → SessionEvent → Prop
  | shown {view : Size} {frame : Frame} {crop : Crop} (full : frame.size.isEmpty = false)
      (nonempty : view.isEmpty = false) (cropped : Crop.toSurface frame.size view = .ok crop)
      (within : crop.Within frame.size) : Reports (some view) frame (.imageCaptured frame crop)
  | emptyFrame {view : Size} {frame : Frame} (empty : frame.size.isEmpty = true) :
      Reports (some view) frame (.cameraError (.emptySize frame.size))
  | emptyView {view : Size} {frame : Frame} (full : frame.size.isEmpty = false)
      (empty : view.isEmpty = true) : Reports (some view) frame (.cameraError (.emptySize view))
  | unknown (frame : Frame) : Reports none frame (.cameraError (.argument .viewSizeUnknown))

theorem reports_pictureEvent (s : Session) (frame : Frame) :
    Reports s.viewSize frame (s.pictureEvent frame) := by
  unfold pictureEvent
  cases s.viewSize with
  | none => exact .unknown frame
  | some view =>
      cases full : frame.size.isEmpty with
      | true =>
          simp only [Crop.toSurface_emptyImage full]
          exact .emptyFrame full
      | false =>
          cases nonempty : view.isEmpty with
          | true =>
              simp only [Crop.toSurface_emptySurface full nonempty]
              exact .emptyView full nonempty
          | false =>
              obtain ⟨crop, cropped, within⟩ := Crop.toSurface_ok full nonempty
              simp only [cropped]
              exact .shown full nonempty cropped within

/-- Only a picture that is delivered to the session is reported as one. -/
theorem delivered_of_imageCaptured {event : CameraEvent Photographer} {frame : Frame} {crop : Crop}
    (meant : s.signal? event = some (.told (.imageCaptured frame crop))) :
    ∃ ticket, event = .delivered ticket .session frame := by
  cases event with
  | delivered ticket tag frame' =>
      cases tag with
      | session =>
          have reported := SessionSignal.told.inj (Option.some.inj meant)
          have reports := reports_pictureEvent s frame'
          rw [reported] at reports
          generalize s.viewSize = latest at reports
          cases reports
          exact ⟨ticket, rfl⟩
      | host label => cases meant
  | failed | requested | discarded | answered => cases meant

/-- What the schedule tells is not a picture. -/
theorem Scheduled.ne_imageCaptured {event : SessionEvent} (h : Scheduled event) (frame : Frame)
    (crop : Crop) : event ≠ .imageCaptured frame crop := by
  rintro rfl
  cases h

/-! ### The device -/

theorem tallied_of_ofDevice {spec : DeviceSpec} {refusals : DeviceRefusals}
    {reportedFacing : Option Facing} {store after : Store} {orientation : Orientation}
    (made : ofDevice { spec, refusals, reportedFacing } store orientation = (.ok s, after)) :
    s.gated.Agreed ∧ Tallied spec s.gated.device ([] : List (CameraEvent Photographer)) := by
  have agreed := agreed_of_ofDevice made
  obtain ⟨facing, _, rfl⟩ := ofDevice_ok made
  exact ⟨agreed, rfl, rfl, rfl, rfl⟩

/-! ### Pictures and reports -/

/-- **Every picture is reported once, by the latest layout.**  Over every simulated device, after
any operations: the next operation tells what the camera brings up, each at its place, and then what
the schedule of transforms reacts with.  For each picture delivered to the session one event is told
at that place, by the latest layout, and no other event is a picture.  All frames that the
camera has delivered are the pictures of the device, from the first on. -/
theorem pictures_reported {spec : DeviceSpec} {refusals : DeviceRefusals}
    {reportedFacing : Option Facing} {store after : Store} {orientation : Orientation}
    (made : ofDevice { spec, refusals, reportedFacing } store orientation = (.ok s₀, after))
    (ops : List SessionOp) (op : SessionOp) :
    let s := s₀.performAll ops
    (∃ own : List SessionEvent, (∀ event ∈ own, Scheduled event) ∧
      (s.perform op).signals = (s.cameraEvents op).filterMap s.signal? ++ own.map .told ∧
      ∀ earlier ticket frame later,
        s.cameraEvents op = earlier ++ .delivered ticket .session frame :: later →
        ∃ event, Reports (latestLayout ops) frame event ∧
          (s.perform op).signals = earlier.filterMap s.signal? ++ .told event ::
            (later.filterMap s.signal? ++ own.map .told)) ∧
    (∀ frame crop, .told (.imageCaptured frame crop) ∈ (s.perform op).signals →
      ∃ ticket, .delivered ticket .session frame ∈ s.cameraEvents op) ∧
    Tallied spec s.gated.device (s₀.cameraHistory ops) := by
  intro s
  have fresh := tracks_of_ofDevice made
  obtain ⟨agreed, tallied⟩ := tallied_of_ofDevice made
  have performs := (fresh.performAll ops).perform op
  have scheduled := scheduled_run ((Schedule.fresh orientation).run (s₀.prompts ops)).1
    (s.prompt? op).toList
  refine ⟨⟨_, scheduled, performs.signals, ?_⟩, ?_, ?_⟩
  · intro earlier ticket frame later events
    refine ⟨s.pictureEvent frame, ?_, ?_⟩
    · rw [← viewSize_eq fresh ops]
      exact reports_pictureEvent s frame
    · rw [performs.signals, events, List.filterMap_append, List.append_assoc]
      rfl
  · intro frame crop mem
    rw [performs.signals] at mem
    rcases List.mem_append.mp mem with brought | reacted
    · obtain ⟨event, happened, meant⟩ := List.mem_filterMap.mp brought
      obtain ⟨ticket, rfl⟩ := delivered_of_imageCaptured meant
      exact ⟨ticket, happened⟩
    · obtain ⟨event, told, same⟩ := List.mem_map.mp reacted
      exact absurd (SessionSignal.told.inj same)
        ((scheduled event told).ne_imageCaptured frame crop)
  · exact camera_keeps (P := fun c trace => Tallied spec c.device trace)
      (fun _ _ _ _ _ moved tallied => moved.tallied tallied) agreed tallied ops

/-- The view is laid out again while the picture waits for the preview, and counts as it is when the
preview runs. -/
theorem pictures_reported_late :
    ∃ s₀ after, ofDevice {} .volatile = (.ok s₀, after) ∧
      ∃ frame crop, Reports (some ⟨100, 100⟩) frame (.imageCaptured frame crop) ∧
        ((s₀.performAll [.layOut ⟨480, 960⟩, .capture, .layOut ⟨100, 100⟩, .resume]).perform
          (.provideSurface 7 0)).signals = [.told (.imageCaptured frame crop)] := by
  let s₀ : Session :=
    { camera := .ofDevice {} .back, store := { Store.volatile with gets := .count .none } }
  have made : ofDevice {} .volatile = (.ok s₀, s₀.store) := rfl
  let ops : List SessionOp := [.layOut ⟨480, 960⟩, .capture, .layOut ⟨100, 100⟩, .resume]
  let frame : Frame := ⟨"frame-1", ⟨4032, 3024⟩, 90⟩
  have told : ((s₀.performAll ops).perform (.provideSurface 7 0)).signals =
      [.told (.imageCaptured frame ⟨504, 0, 3024, 3024⟩)] := by decide +kernel
  refine ⟨s₀, _, made, frame, ⟨504, 0, 3024, 3024⟩, ?_, told⟩
  obtain ⟨⟨own, _, _, reported⟩, pictures, _⟩ := pictures_reported made ops (.provideSurface 7 0)
  obtain ⟨ticket, mem⟩ := pictures frame _ (told ▸ List.mem_singleton_self _)
  obtain ⟨earlier, later, events⟩ := List.append_of_mem mem
  obtain ⟨event, reports, here⟩ := reported earlier ticket frame later events
  have alone : .told event ∈ [SessionSignal.told (.imageCaptured frame ⟨504, 0, 3024, 3024⟩)] := by
    rw [← told, here]
    exact List.mem_append_right _ List.mem_cons_self
  obtain rfl := SessionSignal.told.inj (List.mem_singleton.mp alone)
  exact reports

end Session

end CaptureFlow
